import SchemaDocs.Yaml.Scalar
/-!
# Directives, anchors and tags

Reading what stands before documents and nodes.
-/

namespace SchemaDocs.Yaml

/-- Whether a character may stand in a name. -/
def isNameChar (c : Char) : Bool := c.isAlphanum || c = '_' || c = '-'

/-! ## Anchors and aliases -/

/-- Whether a text may follow the name of an anchor or alias. -/
def endsAnchor (s : List Char) : Bool :=
  endsWord s || s.head?.any fun c =>
    c = '?' || c = ':' || c = ',' || c = ']' || c = '\x7d' || c = '%' || c = '@' || c = '\x60'

/-- Reads the name after the mark of an anchor or alias. -/
def readAnchor (cursor : Cursor) : Except Error (String × Cursor) :=
  let cursor := cursor.skip 1
  let name := cursor.run isNameChar
  let cursor := cursor.skip name.length
  if !name.isEmpty && endsAnchor cursor.rest then .ok (String.ofList name, cursor)
  else .error .badProperty

/-! ## Tags -/

/-- Whether a character may stand in a tag.  Commas and brackets may only where nothing else can
be meant. -/
def isTagChar (isVerbatim : Bool) (c : Char) : Bool :=
  isNameChar c || c = ';' || c = '/' || c = '?' || c = ':' || c = '@' || c = '&' || c = '='
    || c = '+' || c = '$' || c = '.' || c = '%' || c = '!' || c = '~' || c = '*' || c = '\''
    || c = '(' || c = ')' || (isVerbatim && (c = ',' || c = '[' || c = ']'))

/-- The number of bytes of a character whose first byte is given. -/
def escapedWidth? (byte : Nat) : Option Nat :=
  if byte < 0x80 then some 1
  else if 0xC0 ≤ byte ∧ byte < 0xE0 then some 2
  else if 0xE0 ≤ byte ∧ byte < 0xF0 then some 3
  else if 0xF0 ≤ byte ∧ byte < 0xF8 then some 4
  else none

/-- The byte of an escape at the head of a text. -/
def escapedByte? : List Char → Option Nat
  | '%' :: a :: b :: _ => hexNumber? 2 0 [a, b]
  | _ => none

/-- Reads further bytes of an escaped character. -/
def escapedBytes? : Nat → Nat → List Char → Option Nat
  | 0, bits, _ => some bits
  | count + 1, bits, s => do
    let byte ← escapedByte? s
    if 0x80 ≤ byte ∧ byte < 0xC0 then
      escapedBytes? count (bits * 64 + (byte - 0x80)) (s.drop 3)
    else none

/-- Reads the characters of a tag, with those that are escaped byte by byte.  Each step takes a
character. -/
def tagChars (isVerbatim : Bool) :
    Nat → List Char → Cursor → Except Error (List Char × Cursor)
  | 0, text, cursor => .ok (text, cursor)
  | fuel + 1, text, cursor =>
    match cursor.rest with
    | [] => .ok (text, cursor)
    | c :: _ =>
      if c = '%' then
        match escapedByte? cursor.rest with
        | none => .error .badProperty
        | some byte =>
          match escapedWidth? byte with
          | none => .error .badProperty
          | some width =>
            let first := if width = 1 then byte else byte % (2 ^ (7 - width))
            match escapedBytes? (width - 1) first (cursor.rest.drop 3) with
            | none => .error .badProperty
            | some code =>
              tagChars isVerbatim fuel (text ++ [Char.ofNat code]) (cursor.skip (3 * width))
      else if isTagChar isVerbatim c then
        tagChars isVerbatim fuel (text ++ [c]) (cursor.skip 1)
      else .ok (text, cursor)

/-- Reads a tag after what of its handle belongs to it, which must not leave it empty. -/
def readTagText (isVerbatim : Bool) (head : List Char) (cursor : Cursor) :
    Except Error (List Char × Cursor) :=
  match tagChars isVerbatim cursor.rest.length (head.drop 1) cursor with
  | .error cause => .error cause
  | .ok (text, after) =>
    if head.isEmpty && after.index = cursor.index then .error .badProperty else .ok (text, after)

/-- Reads a handle: an exclamation mark, and perhaps a name with another one after it. -/
def readHandle (cursor : Cursor) : Except Error (List Char × Cursor) :=
  if cursor.rest.head? = some '!' then
    let name := (cursor.skip 1).run isNameChar
    let after := (cursor.skip 1).skip name.length
    if after.rest.head? = some '!' then .ok ('!' :: name ++ ['!'], after.skip 1)
    else .ok ('!' :: name, after)
  else .error .badProperty

/-- Whether a handle is closed by a second exclamation mark. -/
def isClosedHandle (handle : List Char) : Bool :=
  2 ≤ handle.length && handle.getLast? = some '!'

/-- Reads a tag: its handle, empty if it has none, and the rest of it. -/
def readTag (inFlow : Bool) (cursor : Cursor) : Except Error (Token × Cursor) := do
  let (handle, suffix, cursor) ←
    if (cursor.skip 1).rest.head? = some '<' then do
      let (text, cursor) ← readTagText true [] (cursor.skip 2)
      if cursor.rest.head? = some '>' then .ok ([], text, cursor.skip 1)
      else .error .badProperty
    else do
      let (handle, cursor) ← readHandle cursor
      if isClosedHandle handle then do
        let (text, cursor) ← readTagText false [] cursor
        .ok (handle, text, cursor)
      else do
        let (text, cursor) ← readTagText false handle cursor
        if text.isEmpty then .ok ([], ['!'], cursor) else .ok (['!'], text, cursor)
  if (inFlow && cursor.rest.head? = some ',') || endsWord cursor.rest then
    .ok (.tag (String.ofList handle) (String.ofList suffix), cursor)
  else .error .badProperty

/-! ## Directives -/

/-- The greatest number of digits of a version. -/
def longestVersion : Nat := 9

/-- Reads a number of a version. -/
def readVersionNumber (cursor : Cursor) : Except Error (Nat × Cursor) :=
  let digits := cursor.run Char.isDigit
  if digits.isEmpty || longestVersion < digits.length then .error .badDirective
  else
    .ok (digits.foldl (fun n c => n * 10 + (c.toNat - 0x30)) 0, cursor.skip digits.length)

/-- Reads the value of a version directive. -/
def readVersion (cursor : Cursor) : Except Error (Token × Cursor) := do
  let (major, cursor) ← readVersionNumber (cursor.skipRun isSpace)
  if cursor.rest.head? = some '.' then do
    let (minor, cursor) ← readVersionNumber (cursor.skip 1)
    .ok (.versionDirective major minor, cursor)
  else .error .badDirective

/-- Reads the value of a tag directive. -/
def readTagDirective (cursor : Cursor) : Except Error (Token × Cursor) := do
  let (handle, cursor) ← readHandle (cursor.skipRun isSpace)
  if handle.length ≠ 1 && !isClosedHandle handle then .error .badDirective
  else if !cursor.rest.head?.any isSpace then .error .badDirective
  else do
    let (beginning, cursor) ← readTagText true [] (cursor.skipRun isSpace)
    if endsWord cursor.rest then
      .ok (.tagDirective (String.ofList handle) (String.ofList beginning), cursor)
    else .error .badDirective

/-- Reads a directive to the end of its line. -/
def readDirective (cursor : Cursor) : Except Error (Token × Cursor) := do
  let cursor := cursor.skip 1
  let name := cursor.run isNameChar
  let cursor := cursor.skip name.length
  if !endsWord cursor.rest then .error .badDirective
  else do
    let (token, cursor) ←
      if name = ['Y', 'A', 'M', 'L'] then readVersion cursor
      else if name = ['T', 'A', 'G'] then readTagDirective cursor
      else .error .badDirective
    match cursor.skipToLineEnd? with
    | some cursor => .ok (token, cursor)
    | none => .error .badDirective

end SchemaDocs.Yaml
