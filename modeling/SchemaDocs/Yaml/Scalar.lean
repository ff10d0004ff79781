import SchemaDocs.Yaml.Cursor
import SchemaDocs.Yaml.Basic
/-!
# Scalars

Reading plain, quoted and block scalars.  Each reader starts at the first character of
a scalar, and gives its text and the place after it.
-/

namespace SchemaDocs.Yaml

/-! ## Plain scalars -/

/-- Whether a character delimits flow collections. -/
def isFlowMark (c : Char) : Bool := c = ',' || c = '[' || c = ']' || c = '\x7b' || c = '\x7d'

/-- The characters of a plain scalar up to the next separator or break. -/
def plainWord (inFlow : Bool) : List Char → Except Error (List Char)
  | [] => .ok []
  | c :: cs =>
    if isSpace c || isBreak c then .ok []
    else if inFlow && c = ':' && cs.head?.any fun d => isFlowMark d || d = '?' then
      .error .unexpectedCharacter
    else if c = ':' && endsWord cs then .ok []
    else if inFlow && isFlowMark c then .ok []
    else (plainWord inFlow cs).map (c :: ·)

/-- What a reader of a plain scalar gives: the text, the place after it, and whether a break was
met at its end. -/
structure PlainScalar where
  text : List Char
  cursor : Cursor
  endsBroken : Bool

/-- Reads words of a plain scalar that is indented at least to a column.  Each step takes a
character. -/
def plainFrom (inFlow : Bool) (minColumn : Nat) :
    Nat → List Char → Gap → Cursor → Except Error PlainScalar
  | 0, text, gap, cursor => .ok ⟨text, cursor, gap.isBroken⟩
  | fuel + 1, text, gap, cursor =>
    if cursor.atDocumentMark || cursor.rest.head? = some '#' then
      .ok ⟨text, cursor, gap.isBroken⟩
    else
      match plainWord inFlow cursor.rest with
      | .error cause => .error cause
      | .ok word =>
        let text := if word.isEmpty then text else text ++ gap.fold ++ word
        let gap := if word.isEmpty then gap else Gap.none
        let cursor := cursor.skip word.length
        if !cursor.rest.isEmpty && endsWord cursor.rest then
          match Gap.read minColumn cursor.rest.length gap cursor with
          | .error cause => .error cause
          | .ok (gap, cursor) =>
            if !inFlow && cursor.column < minColumn then .ok ⟨text, cursor, gap.isBroken⟩
            else plainFrom inFlow minColumn fuel text gap cursor
        else .ok ⟨text, cursor, gap.isBroken⟩

/-- Reads a plain scalar. -/
def readPlain (inFlow : Bool) (minColumn : Nat) (cursor : Cursor) : Except Error PlainScalar :=
  plainFrom inFlow minColumn (cursor.rest.length + 1) [] Gap.none cursor

/-! ## Quoted scalars -/

/-- The value of a hexadecimal digit. -/
def hexValue? (c : Char) : Option Nat :=
  if '0' ≤ c ∧ c ≤ '9' then some (c.toNat - 0x30)
  else if 'a' ≤ c ∧ c ≤ 'f' then some (c.toNat - 0x61 + 10)
  else if 'A' ≤ c ∧ c ≤ 'F' then some (c.toNat - 0x41 + 10)
  else none

/-- The value of some hexadecimal digits at the head of a text. -/
def hexNumber? : Nat → Nat → List Char → Option Nat
  | 0, value, _ => some value
  | _ + 1, _, [] => none
  | count + 1, value, c :: cs =>
    match hexValue? c with
    | some digit => hexNumber? count (value * 16 + digit) cs
    | none => none

/-- The character of a one-letter escape. -/
def namedEscape? : Char → Option Char
  | '0' => some '\x00'
  | 'a' => some '\x07'
  | 'b' => some '\x08'
  | 't' => some '\t'
  | '\t' => some '\t'
  | 'n' => some '\n'
  | 'v' => some '\x0b'
  | 'f' => some '\x0c'
  | 'r' => some '\r'
  | 'e' => some '\x1b'
  | ' ' => some ' '
  | '"' => some '"'
  | '/' => some '/'
  | '\\' => some '\\'
  | 'N' => some '\x85'
  | '_' => some '\xa0'
  | 'L' => some '\u2028'
  | 'P' => some '\u2029'
  | _ => none

/-- The number of digits of an escape by number. -/
def numberedEscape? : Char → Option Nat
  | 'x' => some 2
  | 'u' => some 4
  | 'U' => some 8
  | _ => none

/-- The character of an escape, whose backslash has been read, and the length of the rest of the
escape. -/
def escape? : List Char → Option (Char × Nat)
  | [] => none
  | c :: cs =>
    match namedEscape? c with
    | some d => some (d, 1)
    | none => do
      let count ← numberedEscape? c
      let value ← hexNumber? count 0 cs
      if value.isValidChar then some (Char.ofNat value, count + 1) else none

/-- Reads characters up to a separator, a break or the closing quote.  The last part tells whether
an escaped break was read at the end. -/
def quotedWord (isSingle : Bool) :
    Nat → List Char → Cursor → Except Error (List Char × Cursor × Bool)
  | 0, text, cursor => .ok (text, cursor, false)
  | fuel + 1, text, cursor =>
    if endsWord cursor.rest then .ok (text, cursor, false)
    else
      match cursor.rest with
      | [] => .ok (text, cursor, false)
      | c :: cs =>
        if isSingle then
          if c = '\'' then
            if cs.head? = some '\'' then quotedWord isSingle fuel (text ++ [c]) (cursor.skip 2)
            else .ok (text, cursor, false)
          else quotedWord isSingle fuel (text ++ [c]) (cursor.skip 1)
        else if c = '"' then .ok (text, cursor, false)
        else if c = '\\' then
          if cs.head?.any isBreak then .ok (text, (cursor.skip 1).skipBreak, true)
          else
            match escape? cs with
            | some (d, length) =>
              quotedWord isSingle fuel (text ++ [d]) (cursor.skip (length + 1))
            | none => .error .badEscape
        else quotedWord isSingle fuel (text ++ [c]) (cursor.skip 1)

/-- Reads a quoted scalar whose opening quote has been read. -/
def quotedFrom (isSingle : Bool) :
    Nat → List Char → Cursor → Except Error (List Char × Cursor)
  | 0, _, _ => .error .unclosedQuote
  | fuel + 1, text, cursor =>
    if cursor.atDocumentMark || cursor.rest.isEmpty then .error .unclosedQuote
    else
      match quotedWord isSingle cursor.rest.length text cursor with
      | .error cause => .error cause
      | .ok (text, cursor, isEscaped) =>
        if cursor.rest.head? = some (if isSingle then '\'' else '"') then
          .ok (text, cursor.skip 1)
        else
          let gap := if isEscaped then Gap.escapedBreak else Gap.none
          match Gap.read 0 cursor.rest.length gap cursor with
          | .error cause => .error cause
          | .ok (gap, cursor) => quotedFrom isSingle fuel (text ++ gap.fold) cursor

/-- Reads a quoted scalar. -/
def readQuoted (isSingle : Bool) (cursor : Cursor) : Except Error (List Char × Cursor) :=
  quotedFrom isSingle (cursor.rest.length + 1) [] (cursor.skip 1)

/-! ## Block scalars -/

/-- What becomes of the breaks at the end of a block scalar. -/
inductive Chomping where
  | strip | clip | keep
deriving DecidableEq

/-- The chomping of an indicator. -/
def chomping? : Char → Option Chomping
  | '-' => some .strip
  | '+' => some .keep
  | _ => none

/-- The digit of an indentation indicator. -/
def indentDigit? (c : Char) : Option Nat := if c.isDigit then some (c.toNat - 0x30) else none

/-- The indicators after the mark of a block scalar: the chomping, the indentation or zero where
none is given, and their number.  An indentation of zero cannot be given. -/
def blockHeader : List Char → Except Error (Chomping × Nat × Nat)
  | [] => .ok (.clip, 0, 0)
  | c :: cs =>
    match chomping? c with
    | some chomping =>
      match cs.head?.bind indentDigit? with
      | some 0 => .error .badBlockScalar
      | some digit => .ok (chomping, digit, 2)
      | none => .ok (chomping, 0, 1)
    | none =>
      match indentDigit? c with
      | some 0 => .error .badBlockScalar
      | some digit =>
        match cs.head?.bind chomping? with
        | some chomping => .ok (chomping, digit, 2)
        | none => .ok (.clip, digit, 1)
      | none => .ok (.clip, 0, 0)

/-- Whether a line still counts as indentation at a column. -/
def inIndent (indent column : Nat) : Bool := indent = 0 || column < indent

/-- The place after the indentation spaces at a place. -/
def skipIndent (indent : Nat) (cursor : Cursor) : Cursor :=
  let spaces := (cursor.run (· = ' ')).length
  cursor.skip (if indent = 0 then spaces else min spaces (indent - cursor.column))

/-- Reads indentation and empty lines: the text of their breaks, the widest indentation met, and
the place of the first line that is not empty. -/
def blockBreaks (indent : Nat) :
    Nat → List Char → Nat → Cursor → Except Error (List Char × Nat × Cursor)
  | 0, breaks, widest, cursor => .ok (breaks, widest, cursor)
  | fuel + 1, breaks, widest, cursor =>
    let cursor := skipIndent indent cursor
    let widest := max widest cursor.column
    if inIndent indent cursor.column && cursor.rest.head? = some '\t' then
      .error .badBlockScalar
    else if cursor.rest.head?.any isBreak then
      blockBreaks indent fuel (breaks ++ breakText cursor.rest) widest cursor.skipBreak
    else .ok (breaks, widest, cursor)

/-- The text read of a block scalar so far, with the breaks after its last line. -/
structure BlockText where
  text : List Char
  firstBreak : List Char
  moreBreaks : List Char
  /-- Whether the last line began with a separator. -/
  wasSpaced : Bool

/-- The text with the breaks before another line.  Only the break between two lines of which
neither begins with a separator is folded. -/
def BlockText.join (isFolded isSpaced : Bool) (block : BlockText) : List Char :=
  if isFolded && block.firstBreak = ['\n'] && !block.wasSpaced && !isSpaced then
    block.text ++ (if block.moreBreaks.isEmpty then [' '] else []) ++ block.moreBreaks
  else block.text ++ block.firstBreak ++ block.moreBreaks

/-- Reads the lines of a block scalar.  Each step takes a line. -/
def blockLines (isFolded : Bool) (indent : Nat) :
    Nat → BlockText → Cursor → Except Error (BlockText × Cursor)
  | 0, block, cursor => .ok (block, cursor)
  | fuel + 1, block, cursor =>
    if cursor.column = indent && !cursor.rest.isEmpty then
      let isSpaced := cursor.rest.head?.any isSpace
      let line := cursor.run fun c => !isBreak c
      let text := block.join isFolded isSpaced ++ line
      let cursor := cursor.skip line.length
      let firstBreak := breakText cursor.rest
      let cursor := cursor.skipBreak
      match blockBreaks indent (cursor.rest.length + 1) [] 0 cursor with
      | .error cause => .error cause
      | .ok (moreBreaks, _, cursor) =>
        blockLines isFolded indent fuel ⟨text, firstBreak, moreBreaks, isSpaced⟩ cursor
    else .ok (block, cursor)

/-- The whole text of a block scalar. -/
def BlockText.chomp (chomping : Chomping) (block : BlockText) : List Char :=
  match chomping with
  | .strip => block.text
  | .clip => block.text ++ block.firstBreak
  | .keep => block.text ++ block.firstBreak ++ block.moreBreaks

/-- Reads a block scalar within a block whose content is indented at least to a column. -/
def readBlock (isFolded : Bool) (minColumn : Nat) (cursor : Cursor) :
    Except Error (List Char × Cursor) := do
  let cursor := cursor.skip 1
  let (chomping, digit, length) ← blockHeader cursor.rest
  match (cursor.skip length).skipToLineEnd? with
  | none => .error .badBlockScalar
  | some cursor =>
    let given := if digit = 0 then 0 else (minColumn - 1) + digit
    let (breaks, widest, cursor) ← blockBreaks given (cursor.rest.length + 1) [] 0 cursor
    let indent := if given = 0 then max (max widest minColumn) 1 else given
    let (block, cursor) ←
      blockLines isFolded indent (cursor.rest.length + 1) ⟨[], [], breaks, false⟩ cursor
    .ok (block.chomp chomping, cursor)

end SchemaDocs.Yaml
