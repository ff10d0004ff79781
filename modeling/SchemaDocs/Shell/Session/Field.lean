import SchemaDocs.Shell.Escape
import SchemaDocs.Shell.Glob
/-!
# Fields and words

How what a word stands for is cut, and how a text is written as a word.

## Fields

What a word stands for comes in pieces, some of which are cut at separators.  Blank
separators count as one however many there are, also together with a single other one.
-/

namespace SchemaDocs.Shell

/-- A piece of what a word stands for. -/
inductive Piece where
  /-- Text that is not cut. -/
  | fixed (text : MarkedText)
  /-- Text that is cut at separators. -/
  | loose (text : ByteText)
  /-- The place between two arguments. -/
  | gap
deriving DecidableEq

namespace Piece

/-- The text of a piece. -/
def text : Piece → MarkedText
  | .fixed text => text
  | .loose text => marked text false
  | .gap => []

/-- A piece that is cut where none of it is quoted. -/
def loosen : Piece → Piece
  | .fixed text =>
    if !text.isEmpty && text.all fun c => !c.2 then .loose (unmarked text) else .fixed text
  | piece => piece

/-- Text in quotes, or text that is cut at separators. -/
def ofText (isQuoted : Bool) (text : ByteText) : Piece :=
  if isQuoted then .fixed (marked text true) else .loose text

end Piece

/-- The state of cutting: the fields before, the last one first, the field that was begun, with its
last character first, and whether blanks ended the last field. -/
structure Cutting where
  fields : List MarkedText := []
  field : Option MarkedText := none
  isAfterBlank : Bool := false

namespace Cutting

/-- Ends the field that was begun, if one was. -/
def close (state : Cutting) : Cutting :=
  match state.field with
  | some field => ⟨field.reverse :: state.fields, none, false⟩
  | none => { state with isAfterBlank := false }

/-- Adds text to the field. -/
def add (state : Cutting) (text : MarkedText) : Cutting :=
  { state with field := some (text.reverse ++ state.field.getD []), isAfterBlank := false }

/-- Takes a character that may be a separator. -/
def addLoose (separators : ByteText) (state : Cutting) (c : Char) : Cutting :=
  if separators.contains c then
    if c = ' ' || c = '\t' || c = '\n' then
      match state.field with
      | some _ => { state.close with isAfterBlank := true }
      | none => state
    else if state.field.isNone && !state.isAfterBlank then
      { state with fields := [] :: state.fields }
    else state.close
  else state.add [(c, false)]

/-- Takes a piece. -/
def addPiece (separators : ByteText) (state : Cutting) : Piece → Cutting
  | .fixed text => state.add text
  | .loose text => text.foldl (addLoose separators) state
  | .gap => state.close

end Cutting

namespace Piece

/-- The fields that pieces are cut into. -/
def fields (separators : ByteText) (pieces : List Piece) : List MarkedText :=
  (pieces.foldl (Cutting.addPiece separators) {}).close.fields.reverse

/-- The text of pieces that are not cut, with a text in place of each gap. -/
def joined (gap : ByteText) (pieces : List Piece) : MarkedText :=
  (pieces.map fun piece =>
    match piece with
    | .gap => marked gap true
    | piece => piece.text).flatten

end Piece

end SchemaDocs.Shell

/-!
## Texts as a shell would read them

Ways to write a text so that a shell reads it as one word: between single or double
quotes, with backslashes, or with its characters named.
-/

namespace SchemaDocs.Shell

namespace Quoted

/-- Whether a character is not shown in ASCII. -/
def isHiddenChar (c : Char) : Bool := !isShown c

/-- Whether some characters of a text have to be named. -/
def needsNames (text : ByteText) : Bool := text.any isHiddenChar

/-- Whether a character at some place means something to a shell. -/
def isMeaningful (before : Option Char) (c : Char) : Bool :=
  (ascii " \t\n'\"\\|&;()<>!\x7b\x7d*[?]^$\x60").contains c
    || (c = '~' && (before.isNone || before = some '=' || before = some ':'))
    || (c = '#' && before.isNone)

/-- Whether some character of a text means something to a shell. -/
def hasMeaning : Option Char → ByteText → Bool
  | _, [] => false
  | before, c :: rest => isMeaningful before c || hasMeaning (some c) rest

/-- A text between single quotes. -/
def single (text : ByteText) : ByteText :=
  if text = ['\''] then ascii "\\'"
  else ['\''] ++ (text.map fun c => if c = '\'' then ascii "'\\''" else [c]).flatten ++ ['\'']

/-- A text between double quotes. -/
def double (text : ByteText) : ByteText :=
  ['"'] ++ (text.map fun c =>
    if c = '"' || c = '$' || c = '\x60' || c = '\\' then ['\\', c] else [c]).flatten ++ ['"']

/-- Three digits in base eight. -/
def octal (c : Char) : ByteText :=
  let digits := ByteText.digitsIn 8 c.toNat
  List.replicate (3 - digits.length) '0' ++ digits

/-- A text between single quotes behind a dollar sign, where characters are named. -/
def named (text : ByteText) : ByteText :=
  let char (c : Char) : ByteText :=
    match c with
    | '\x07' => ascii "\\a"
    | '\x08' => ascii "\\b"
    | '\x0c' => ascii "\\f"
    | '\n' => ascii "\\n"
    | '\r' => ascii "\\r"
    | '\t' => ascii "\\t"
    | '\x0b' => ascii "\\v"
    | '\x1b' => ascii "\\E"
    | '\\' => ascii "\\\\"
    | '\'' => ascii "\\'"
    | c => if isHiddenChar c then '\\' :: octal c else [c]
  ascii "$'" ++ (text.map char).flatten ++ ['\'']

/-- A text that can be read again: characters are named if some have to be. -/
def reusable (text : ByteText) : ByteText := if needsNames text then named text else single text

/-- A text as the value in a declaration. -/
def declared (text : ByteText) : ByteText := if needsNames text then named text else double text

/-- A text as the value in a list of variables, in quotes only where it needs them. -/
def listed (text : ByteText) : ByteText :=
  if needsNames text then named text
  else if hasMeaning none text then single text
  else text

/-- A word of a command that is shown before it is run. -/
def traced (text : ByteText) : ByteText := if text.isEmpty then ascii "''" else listed text

/-- A text with a backslash before each character that means something. -/
def escaped (text : ByteText) : ByteText :=
  if text.isEmpty then ascii "''"
  else if needsNames text then named text
  else
    let rec go : Option Char → ByteText → ByteText
      | _, [] => []
      | before, c :: rest =>
        if isMeaningful before c || c = ',' then '\\' :: c :: go (some c) rest
        else c :: go (some c) rest
    go none text

end Quoted

end SchemaDocs.Shell
