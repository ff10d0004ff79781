/-!
# JSON values

A JSON document as a tree.  Object keys keep their order, and a number keeps the
text it was written with.
-/

namespace SchemaDocs

/-- A JSON value. -/
inductive Json where
  | null
  | bool (value : Bool)
  | number (text : String)
  | string (text : String)
  | array (items : List Json)
  | object (entries : List (String × Json))

namespace Json

instance : Inhabited Json := ⟨.null⟩

/-- The number of a whole value. -/
def ofInt (n : Int) : Json := .number (toString n)

/-- The number of a natural value. -/
def ofNat (n : Nat) : Json := .number (toString n)

/-- A text, or null where there is none. -/
def ofText? : Option String → Json
  | some text => .string text
  | none => .null

/-- The value of a key, if this is an object that has it.  A key that occurs twice counts with
its last value. -/
def field? (key : String) : Json → Option Json
  | .object entries => (entries.reverse.find? fun entry => entry.1 == key).map Prod.snd
  | _ => none

end Json

end SchemaDocs

/-!
## Printing JSON

The compact form has no blank outside strings.  The indented form puts every item
of a list or object on a line of its own, two blanks deeper than its container.
-/

namespace SchemaDocs.Json

/-- The lower-case hexadecimal digit of a number below sixteen. -/
def hexDigit (n : Nat) : Char :=
  if n < 10 then Char.ofNat (0x30 + n) else Char.ofNat (0x61 + (n - 10))

/-- How one character stands in a string: quotes, backslashes and control characters below
U+0020 are escaped, all else stands for itself. -/
def escapeChar (c : Char) : List Char :=
  if c = '"' then ['\\', '"']
  else if c = '\\' then ['\\', '\\']
  else if c = '\x08' then ['\\', 'b']
  else if c = '\x0c' then ['\\', 'f']
  else if c = '\n' then ['\\', 'n']
  else if c = '\r' then ['\\', 'r']
  else if c = '\t' then ['\\', 't']
  else if c.toNat < 0x20 then
    ['\\', 'u', '0', '0', hexDigit (c.toNat / 16), hexDigit (c.toNat % 16)]
  else [c]

/-- A string between quotes. -/
def stringChars (text : String) : List Char :=
  '"' :: text.toList.flatMap escapeChar ++ ['"']

mutual

/-- The characters of the compact form. -/
def compactChars : Json → List Char
  | .null => ['n', 'u', 'l', 'l']
  | .bool true => ['t', 'r', 'u', 'e']
  | .bool false => ['f', 'a', 'l', 's', 'e']
  | .number text => text.toList
  | .string text => stringChars text
  | .array items => '[' :: compactItems items ++ [']']
  | .object entries => '\x7b' :: compactEntries entries ++ ['\x7d']

/-- Items with a comma between any two. -/
def compactItems : List Json → List Char
  | [] => []
  | [item] => item.compactChars
  | item :: rest => item.compactChars ++ ',' :: compactItems rest

/-- Entries with a comma between any two. -/
def compactEntries : List (String × Json) → List Char
  | [] => []
  | [(key, value)] => stringChars key ++ ':' :: value.compactChars
  | (key, value) :: rest =>
    stringChars key ++ ':' :: value.compactChars ++ ',' :: compactEntries rest

end

/-- The compact form. -/
def compact (json : Json) : String := String.ofList json.compactChars

/-- A line break and the blanks of a depth. -/
def lineAt (depth : Nat) : List Char := '\n' :: List.replicate (2 * depth) ' '

mutual

/-- The characters of the indented form of a value whose container has the given depth. -/
def indentedChars (depth : Nat) : Json → List Char
  | .array [] => ['[', ']']
  | .array items => '[' :: indentedItems (depth + 1) items ++ lineAt depth ++ [']']
  | .object [] => ['\x7b', '\x7d']
  | .object entries => '\x7b' :: indentedEntries (depth + 1) entries ++ lineAt depth ++ ['\x7d']
  | .null => ['n', 'u', 'l', 'l']
  | .bool true => ['t', 'r', 'u', 'e']
  | .bool false => ['f', 'a', 'l', 's', 'e']
  | .number text => text.toList
  | .string text => stringChars text

/-- Items, each on a line of its own. -/
def indentedItems (depth : Nat) : List Json → List Char
  | [] => []
  | [item] => lineAt depth ++ item.indentedChars depth
  | item :: rest => lineAt depth ++ item.indentedChars depth ++ ',' :: indentedItems depth rest

/-- Entries, each on a line of its own. -/
def indentedEntries (depth : Nat) : List (String × Json) → List Char
  | [] => []
  | [(key, value)] => lineAt depth ++ stringChars key ++ [':', ' '] ++ value.indentedChars depth
  | (key, value) :: rest =>
    lineAt depth ++ stringChars key ++ [':', ' '] ++ value.indentedChars depth ++
      ',' :: indentedEntries depth rest

end

/-- The indented form. -/
def indented (json : Json) : String := String.ofList (json.indentedChars 0)

end SchemaDocs.Json
