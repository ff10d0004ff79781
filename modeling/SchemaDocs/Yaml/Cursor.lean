import SchemaDocs.Yaml.Basic
/-!
# Places in a YAML text

A text and how much of it was read.  The index counts bytes of UTF-8, columns count characters
since the last break; a carriage return and a line feed after it are one break.
-/

namespace SchemaDocs.Yaml

/-- Whether a character ends a line. -/
def isBreak (c : Char) : Bool :=
  c = '\r' || c = '\n' || c = '\x85' || c = '\u2028' || c = '\u2029'

/-- Whether a character separates within a line. -/
def isSpace (c : Char) : Bool := c = ' ' || c = '\t'

/-- Whether a text is at its end or goes on with a separator or a break. -/
def endsWord : List Char → Bool
  | [] => true
  | c :: _ => isSpace c || isBreak c

/-- Whether a text is at its end or goes on with a break. -/
def endsLine : List Char → Bool
  | [] => true
  | c :: _ => isBreak c

/-- Whether a character may stand in a YAML text. -/
def isAllowed (c : Char) : Bool :=
  c = '\t' || c = '\n' || c = '\r' || (0x20 ≤ c.toNat && c.toNat ≤ 0x7E) || c = '\x85'
    || (0xA0 ≤ c.toNat && c.toNat ≤ 0xFFFD) || 0x10000 ≤ c.toNat

/-- The text that a break at the head of a text stands for: a line feed, or the break itself if
it is a separator of lines or paragraphs. -/
def breakText : List Char → List Char
  | [] => []
  | c :: _ =>
    if c = '\u2028' || c = '\u2029' then [c] else if isBreak c then ['\n'] else []

/-- A place in a text. -/
structure Cursor where
  rest : List Char
  index : Nat
  line : Nat
  column : Nat

namespace Cursor

/-- The start of a text. -/
def start (text : List Char) : Cursor := ⟨text, 0, 0, 0⟩

/-- The place some characters further on the same line. -/
def skip : Nat → Cursor → Cursor
  | 0, cursor => cursor
  | count + 1, ⟨c :: rest, index, line, column⟩ =>
    skip count ⟨rest, index + c.utf8Size, line, column + 1⟩
  | _ + 1, ⟨[], index, line, column⟩ => ⟨[], index, line, column⟩

/-- The place after the break that stands here, if one does. -/
def skipBreak (cursor : Cursor) : Cursor :=
  match cursor.rest with
  | '\r' :: '\n' :: rest => ⟨rest, cursor.index + 2, cursor.line + 1, 0⟩
  | c :: rest => if isBreak c then ⟨rest, cursor.index + c.utf8Size, cursor.line + 1, 0⟩ else cursor
  | [] => cursor

/-- The characters from here that have a property. -/
def run (p : Char → Bool) (cursor : Cursor) : List Char := cursor.rest.takeWhile p

/-- The place after the characters that have a property. -/
def skipRun (p : Char → Bool) (cursor : Cursor) : Cursor := cursor.skip (cursor.run p).length

/-- The place after a byte order mark, if one begins this line.  It counts as a column. -/
def skipOrderMark (cursor : Cursor) : Cursor :=
  if cursor.column = 0 && cursor.rest.head? = some '\ufeff' then cursor.skip 1 else cursor

/-- Whether a mark stands at the start of this line, with nothing joined to its end. -/
def atLineMark (mark : List Char) (cursor : Cursor) : Bool :=
  cursor.column = 0 && mark.isPrefixOf cursor.rest && endsWord (cursor.rest.drop mark.length)

/-- The mark that begins a document. -/
def documentStartMark : List Char := ['-', '-', '-']

/-- The mark that ends a document. -/
def documentEndMark : List Char := ['.', '.', '.']

/-- Whether a document begins or ends here. -/
def atDocumentMark (cursor : Cursor) : Bool :=
  cursor.atLineMark documentStartMark || cursor.atLineMark documentEndMark

/-- The place after separators and a comment, which has to be at the end of the line. -/
def skipToLineEnd? (cursor : Cursor) : Option Cursor :=
  let cursor := cursor.skipRun isSpace
  let cursor :=
    if cursor.rest.head? = some '#' then cursor.skipRun fun c => !isBreak c else cursor
  if endsLine cursor.rest then some cursor.skipBreak else none

end Cursor

end SchemaDocs.Yaml

/-!
## Blanks and breaks within scalars

Blanks at the end of a line are dropped.  A single break becomes a space, and several
become one line feed less than they are.
-/

namespace SchemaDocs.Yaml

/-- Separators and breaks that were read within a scalar and stand before its next word. -/
structure Gap where
  /-- The separators, as long as no break was met. -/
  spaces : List Char
  /-- Whether a break was met. -/
  isBroken : Bool
  /-- The text of the first break. -/
  firstBreak : List Char
  /-- The text of the breaks after the first. -/
  moreBreaks : List Char

namespace Gap

/-- No gap. -/
def none : Gap := ⟨[], false, [], []⟩

/-- The gap after a break that leaves no trace. -/
def escapedBreak : Gap := ⟨[], true, [], []⟩

/-- The text that a gap leaves between two words. -/
def fold (gap : Gap) : List Char :=
  if gap.isBroken then
    if gap.firstBreak = ['\n'] then
      if gap.moreBreaks.isEmpty then [' '] else gap.moreBreaks
    else gap.firstBreak ++ gap.moreBreaks
  else gap.spaces

/-- A gap with one more separator. -/
def addSpace (gap : Gap) (c : Char) : Gap :=
  if gap.isBroken then gap else { gap with spaces := gap.spaces ++ [c] }

/-- A gap with one more break. -/
def addBreak (gap : Gap) (text : List Char) : Gap :=
  if gap.isBroken then { gap with moreBreaks := gap.moreBreaks ++ text }
  else ⟨[], true, text, gap.moreBreaks⟩

/-- Reads a gap to its end.  After a break no tab may stand in a column below the given one.
Each step takes a character. -/
def read (minColumn : Nat) : Nat → Gap → Cursor → Except Error (Gap × Cursor)
  | 0, gap, cursor => .ok (gap, cursor)
  | fuel + 1, gap, cursor =>
    match cursor.rest with
    | [] => .ok (gap, cursor)
    | c :: _ =>
      if isSpace c then
        if gap.isBroken && cursor.column < minColumn && c = '\t' then .error .misplacedBlock
        else read minColumn fuel (gap.addSpace c) (cursor.skip 1)
      else if isBreak c then
        read minColumn fuel (gap.addBreak (breakText cursor.rest)) cursor.skipBreak
      else .ok (gap, cursor)

end Gap

end SchemaDocs.Yaml
