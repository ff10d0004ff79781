import SchemaDocs.Shell.Tool.Indent.BuiltIn
/-!
# Notations that libraries read and write

Values in a notation for data, texts that are filled up to lines, and texts whose marks stand for
characters.
-/

namespace SchemaDocs.Shell.Indent

namespace Running

/-! ## Data -/

/-- Where data was read up to: the text that is left, and the number of characters before it. -/
structure DataCursor where
  rest : List Char
  place : Nat

/-- Fails because data is not well formed. -/
def failData {α : Type} (whole : List Char) (message : String) (place : Nat) : Running α := do
  let before := whole.take place
  let line := (before.filter (· = '\n')).length + 1
  let column := (before.reverse.takeWhile (· != '\n')).length + 1
  let text := ascii message ++ ascii ": line " ++ ByteText.ofNat line ++ ascii " column "
    ++ ByteText.ofNat column ++ ascii " (char " ++ ByteText.ofNat place ++ [')']
  let exception ← makeException "json.decoder.JSONDecodeError" [.text text]
  if let .object number := exception then
    putField number "msg" (.text (ascii message))
    putField number "pos" (.int place)
    putField number "lineno" (.int line)
    putField number "colno" (.int column)
  raise exception

/-- Whether a character is blank between data. -/
def isDataBlank (c : Char) : Bool := c = ' ' || c = '\t' || c = '\n' || c = '\x0d'

/-- Goes on after blanks. -/
def DataCursor.skipBlanks (cursor : DataCursor) : DataCursor :=
  let count := (cursor.rest.takeWhile isDataBlank).length
  ⟨cursor.rest.drop count, cursor.place + count⟩

/-- Goes on after some characters. -/
def DataCursor.skip (cursor : DataCursor) (count : Nat) : DataCursor :=
  ⟨cursor.rest.drop count, cursor.place + count⟩

/-- The text behind a quote, and where it ends.  Each step takes a character. -/
def dataText (whole : List Char) (start : Nat) :
    Nat → DataCursor → List Char → Running (List Char × DataCursor)
  | 0, cursor, taken => return (taken.reverse, cursor)
  | fuel + 1, cursor, taken => do
    match cursor.rest with
    | [] => failData whole "Unterminated string starting at" start
    | '"' :: _ => return (taken.reverse, cursor.skip 1)
    | '\\' :: c :: rest =>
      let simple? : Option Char :=
        match c with
        | '"' => some '"'
        | '\\' => some '\\'
        | '/' => some '/'
        | 'b' => some '\x08'
        | 'f' => some '\x0c'
        | 'n' => some '\n'
        | 'r' => some '\x0d'
        | 't' => some '\t'
        | _ => none
      match simple? with
      | some d => dataText whole start fuel (cursor.skip 2) (d :: taken)
      | none =>
        if c = 'u' then
          let digits := rest.take 4
          if digits.length < 4 || !digits.all (ByteText.isDigitIn 16) then
            failData whole "Invalid \\uXXXX escape" (cursor.place + 1)
          else
            let code := ByteText.valueIn 16 digits
            let low := ((rest.drop 6).take 4)
            let lowCode := ByteText.valueIn 16 low
            let isPair := 0xD800 ≤ code && code < 0xDC00 && (rest.drop 4).take 2 = ['\\', 'u']
              && low.length = 4 && low.all (ByteText.isDigitIn 16) && 0xDC00 ≤ lowCode
              && lowCode < 0xE000
            if isPair then
              let c := Char.ofNat (65536 + (code - 0xD800) * 1024 + (lowCode - 0xDC00))
              dataText whole start fuel (cursor.skip 12) (c :: taken)
            else dataText whole start fuel (cursor.skip 6) (Char.ofNat code :: taken)
        else failData whole "Invalid \\escape" cursor.place
    | '\\' :: [] => failData whole "Unterminated string starting at" start
    | c :: _ =>
      if c.toNat < 32 then failData whole "Invalid control character at" cursor.place
      else dataText whole start fuel (cursor.skip 1) (c :: taken)

/-- A number of data, and where it ends. -/
def dataNumber? (cursor : DataCursor) : Option (Value × DataCursor) :=
  let sign := if cursor.rest.head? = some '-' then 1 else 0
  let digits := (cursor.rest.drop sign).takeWhile Char.isDigit
  let digits := if digits.head? = some '0' then ['0'] else digits
  if digits.isEmpty then none
  else
    let after := cursor.rest.drop (sign + digits.length)
    let fraction :=
      match after with
      | '.' :: more =>
        let digits := more.takeWhile Char.isDigit
        if digits.isEmpty then [] else '.' :: digits
      | _ => []
    let after := after.drop fraction.length
    let exponent :=
      match after with
      | e :: more =>
        if e = 'e' || e = 'E' then
          let mark := (more.take 1).takeWhile fun c => c = '+' || c = '-'
          let digits := (more.drop mark.length).takeWhile Char.isDigit
          if digits.isEmpty then [] else e :: mark ++ digits
        else []
      | [] => []
    let text := cursor.rest.take (sign + digits.length + fraction.length + exponent.length)
    let value : Value :=
      if fraction.isEmpty && exponent.isEmpty then
        let size : Int := (ByteText.valueIn 10 digits : Nat)
        .int (if sign = 1 then -size else size)
      else .float (Record.Number.ofText text)
    some (value, cursor.skip text.length)

mutual

/-- A value of data, and where it ends.  Each step goes a level down or takes an element. -/
def dataValue (whole : List Char) : Nat → DataCursor → Running (Value × DataCursor)
  | 0, cursor => return (.nothing, cursor)
  | fuel + 1, cursor => do
    let word (text : String) (value : Value) : Option (Value × DataCursor) :=
      if text.toList.isPrefixOf cursor.rest then some (value, cursor.skip text.length) else none
    match cursor.rest with
    | '"' :: _ =>
      let (text, cursor) ← dataText whole cursor.place (cursor.rest.length + 1) (cursor.skip 1) []
      return (.text text, cursor)
    | '[' :: _ =>
      let cursor := (cursor.skip 1).skipBlanks
      match cursor.rest with
      | ']' :: _ => return (← list [], cursor.skip 1)
      | _ =>
        let (items, cursor) ← dataItems whole fuel cursor []
        return (← list items, cursor)
    | '\x7b' :: _ =>
      let cursor := (cursor.skip 1).skipBlanks
      match cursor.rest with
      | '\x7d' :: _ => return (← make (.table .plain {}), cursor.skip 1)
      | '"' :: _ =>
        let (pairs, cursor) ← dataPairs whole fuel cursor []
        return (← make (.table .plain (← withPairs {} pairs)), cursor)
      | _ => failData whole "Expecting property name enclosed in double quotes" cursor.place
    | _ =>
      match (word "null" .nothing).or ((word "true" (.bool true)).or ((word "false" (.bool false)).or
        ((word "NaN" (.float (0.0 / 0.0))).or ((word "Infinity" (.float (1.0 / 0.0))).or
        (word "-Infinity" (.float (-1.0 / 0.0))))))) with
      | some found => return found
      | none =>
        match dataNumber? cursor with
        | some found => return found
        | none => failData whole "Expecting value" cursor.place

/-- The elements of a list of data up to its bracket. -/
def dataItems (whole : List Char) : Nat → DataCursor → List Value → Running (List Value × DataCursor)
  | 0, cursor, items => return (items.reverse, cursor)
  | fuel + 1, cursor, items => do
    let (item, cursor) ← dataValue whole fuel cursor
    let cursor := cursor.skipBlanks
    match cursor.rest with
    | ']' :: _ => return ((item :: items).reverse, cursor.skip 1)
    | ',' :: _ => dataItems whole fuel (cursor.skip 1).skipBlanks (item :: items)
    | _ => failData whole "Expecting ',' delimiter" cursor.place

/-- The pairs of a table of data up to its brace. -/
def dataPairs (whole : List Char) : Nat → DataCursor → List (Value × Value) →
    Running (List (Value × Value) × DataCursor)
  | 0, cursor, pairs => return (pairs.reverse, cursor)
  | fuel + 1, cursor, pairs => do
    match cursor.rest with
    | '"' :: _ =>
      let (key, cursor) ← dataText whole cursor.place (cursor.rest.length + 1) (cursor.skip 1) []
      let cursor := cursor.skipBlanks
      match cursor.rest with
      | ':' :: _ =>
        let (value, cursor) ← dataValue whole fuel (cursor.skip 1).skipBlanks
        let cursor := cursor.skipBlanks
        let pairs := (Value.text key, value) :: pairs
        match cursor.rest with
        | '\x7d' :: _ => return (pairs.reverse, cursor.skip 1)
        | ',' :: _ => dataPairs whole fuel (cursor.skip 1).skipBlanks pairs
        | _ => failData whole "Expecting ',' delimiter" cursor.place
      | _ => failData whole "Expecting ':' delimiter" cursor.place
    | _ => failData whole "Expecting property name enclosed in double quotes" cursor.place

end

/-- Reads data. -/
def readData (text : List Char) : Running Value := do
  let cursor := (⟨text, 0⟩ : DataCursor).skipBlanks
  let (value, cursor) ← dataValue text (text.length + 2) cursor
  let cursor := cursor.skipBlanks
  if cursor.rest.isEmpty then return value else failData text "Extra data" cursor.place

/-- How data is written. -/
structure DataStyle where
  indent : Option (List Char) := none
  itemMark : List Char := [',', ' ']
  keyMark : List Char := [':', ' ']
  isAscii : Bool := true
  isSorted : Bool := false
  other : Option Value := none

/-- A text of data between quotes. -/
def quotedData (isAscii : Bool) (text : List Char) : List Char :=
  let one (c : Char) : List Char :=
    match c with
    | '"' => ['\\', '"']
    | '\\' => ['\\', '\\']
    | '\n' => ['\\', 'n']
    | '\x0d' => ['\\', 'r']
    | '\t' => ['\\', 't']
    | '\x0c' => ['\\', 'f']
    | '\x08' => ['\\', 'b']
    | c =>
      if c.toNat < 32 || (isAscii && 126 < c.toNat && c.toNat != 127) then
        (units c).flatMap fun unit => Show.coded 'u' 4 unit
      else [c]
  ['"'] ++ (text.map one).flatten ++ ['"']

/-- Writes data.  Each step goes a level down. -/
def writeData (caller : Caller) (style : DataStyle) : Nat → Nat → Value → Running (List Char)
  | 0, _, _ => fail "ValueError" (ascii "Circular reference detected")
  | fuel + 1, level, value => do
    let row (opened closed : Char) (texts : List (List Char)) : List Char :=
      if texts.isEmpty then [opened, closed]
      else
        match style.indent with
        | none => [opened] ++ (texts.intersperse style.itemMark).flatten ++ [closed]
        | some indent =>
          let feed (level : Nat) : List Char := '\n' :: (List.replicate level indent).flatten
          [opened] ++ feed (level + 1)
            ++ (texts.intersperse (style.itemMark ++ feed (level + 1))).flatten
            ++ feed level ++ [closed]
    let number (n : Float) : List Char :=
      if Record.Number.isNothing n then ascii "NaN"
      else if n == 1.0 / 0.0 then ascii "Infinity"
      else if n == -1.0 / 0.0 then ascii "-Infinity"
      else Show.float n
    match value with
    | .nothing => return ascii "null"
    | .bool b => return ascii (if b then "true" else "false")
    | .int n => return ByteText.ofInt n
    | .float n => return number n
    | .text text => return quotedData style.isAscii text
    | .tuple items =>
      return row '[' ']' (← items.mapM (writeData caller style fuel (level + 1)))
    | value =>
      match ← object? value with
      | some (.list items) =>
        return row '[' ']' (← items.toList.mapM (writeData caller style fuel (level + 1)))
      | some (.table _ table) =>
        let named ← table.entries.mapM fun (key, value) => do
          let name ← match key with
            | .text text => pure text
            | .nothing => pure (ascii "null")
            | .bool b => pure (ascii (if b then "true" else "false"))
            | .int n => pure (ByteText.ofInt n)
            | .float n => pure (number n)
            | other =>
              failType (ascii ("keys must be str, int, float, bool or None, not " ++ (← typeName other)))
          return (name, value)
        let named := if style.isSorted then
            named.mergeSort fun a b => !decide (b.1 < a.1)
          else named
        let texts ← named.mapM fun (name, value) => do
          return quotedData style.isAscii name ++ style.keyMark
            ++ (← writeData caller style fuel (level + 1) value)
        return row '\x7b' '\x7d' texts
      | _ =>
        match style.other with
        | some function =>
          writeData caller style fuel level (← caller.call function [value] [])
        | none =>
          failType (ascii ("Object of type " ++ (← typeName value) ++ " is not JSON serializable"))

/-- The style that arguments ask for. -/
def dataStyle (caller : Caller) (named : List (String × Value)) : Running DataStyle := do
  let option (name : String) : Value :=
    ((named.find? fun entry => entry.1 = name).map Prod.snd).getD .nothing
  let indent : Option (List Char) := match option "indent" with
    | .int n => some (List.replicate n.toNat ' ')
    | .text text => some text
    | _ => none
  let marks ← match option "separators" with
    | .nothing => pure (if indent.isSome then [','] else [',', ' '], [':', ' '])
    | value => do
      match ← items caller value with
      | [.text item, .text key] => pure (item, key)
      | _ => pure ([',', ' '], [':', ' '])
  let isAscii : Bool := match option "ensure_ascii" with
    | .bool b => b
    | _ => true
  let other : Option Value := match option "default" with
    | .nothing => none
    | value => some value
  return { indent := indent, itemMark := marks.1, keyMark := marks.2, isAscii := isAscii
           isSorted := ← truth caller (option "sort_keys"), other := other }

/-! ## Filling lines -/

/-- A text without the blanks that all its lines begin with. -/
def dedented (text : List Char) : List Char :=
  let lines := ByteText.splitAt '\n' text
  let isBlank (c : Char) : Bool := c = ' ' || c = '\t'
  let lines := lines.map fun line => if line.all isBlank then [] else line
  let margins := (lines.filter fun line => !line.isEmpty).map fun line => line.takeWhile isBlank
  let shared (a b : List Char) : List Char :=
    ((a.zip b).takeWhile fun (x, y) => x = y).map Prod.fst
  let margin := match margins with
    | [] => []
    | first :: rest => rest.foldl shared first
  (lines.map fun line => line.drop margin.length).intersperse ['\n'] |>.flatten

/-- A text with something before every line that is not blank. -/
def indented (mark text : List Char) : List Char :=
  ((Chars.lines false true (text.length + 1) text).map fun line =>
    if line.all (isBlankFor false) then line else mark ++ line).flatten

/-- The pieces of a text that stay together on a line: words, blanks, and parts of words up to a
hyphen.  Each step takes a piece. -/
def chunksOf : Nat → List Char → List (List Char)
  | 0, _ => []
  | _ + 1, [] => []
  | fuel + 1, c :: rest =>
    if c = ' ' then
      let blanks := (c :: rest).takeWhile (· = ' ')
      blanks :: chunksOf fuel ((c :: rest).drop blanks.length)
    else
      let word := (c :: rest).takeWhile (· != ' ')
      let piece := upToHyphen word.length [] word
      piece :: chunksOf fuel ((c :: rest).drop piece.length)
where
  /-- A word up to a hyphen between letters. -/
  upToHyphen : Nat → List Char → List Char → List Char
    | 0, taken, _ => taken.reverse
    | _ + 1, taken, [] => taken.reverse
    | fuel + 1, taken, '-' :: d :: rest =>
      let before := taken.takeWhile Char.isAlphanum
      if 1 < before.length && d.isAlpha && rest.head?.any Char.isAlphanum then ('-' :: taken).reverse
      else upToHyphen fuel ('-' :: taken) (d :: rest)
    | fuel + 1, taken, c :: rest => upToHyphen fuel (c :: taken) rest

/-- How lines are filled. -/
structure FillStyle where
  width : Nat := 70
  first : List Char := []
  later : List Char := []
  breaksLong : Bool := true

/-- Lines of pieces.  Each step adds a piece or ends a line. -/
def filledLines (style : FillStyle) : Nat → List (List Char) → List Char → Bool → Bool → List (List Char)
  | 0, _, line, _, _ => [line]
  | _ + 1, [], line, isEmpty, isFirst => if isEmpty then (if isFirst then [] else []) else [trimEnd line]
  | fuel + 1, chunk :: rest, line, isEmpty, isFirst =>
    let mark := if isFirst then style.first else style.later
    let line := if isEmpty then mark else line
    let isBlank := chunk.head? = some ' '
    if isEmpty && isBlank && !isFirst then filledLines style fuel rest line true isFirst
    else if line.length + chunk.length ≤ style.width then
      filledLines style fuel rest (line ++ chunk) false isFirst
    else if isBlank then
      trimEnd line :: filledLines style fuel rest [] true false
    else if isEmpty then
      if style.breaksLong then
        let room := max 1 (style.width - line.length)
        (line ++ chunk.take room) :: filledLines style fuel (chunk.drop room :: rest) [] true false
      else (line ++ chunk) :: filledLines style fuel rest [] true false
    else if style.width < chunk.length + style.later.length && style.breaksLong then
      let room := style.width - line.length
      (line ++ chunk.take room) :: filledLines style fuel (chunk.drop room :: rest) [] true false
    else trimEnd line :: filledLines style fuel (chunk :: rest) [] true false
where
  /-- A line without blanks at its end. -/
  trimEnd (line : List Char) : List Char := (line.reverse.dropWhile (· = ' ')).reverse

/-- The lines of a text that is filled up. -/
def wrapped (style : FillStyle) (text : List Char) : List (List Char) :=
  let text := (Chars.withoutTabs 8 text).map fun c => if isSpaceChar c then ' ' else c
  let chunks := (chunksOf (text.length + 1) text).filter fun chunk => !chunk.isEmpty
  filledLines style (4 * text.length + 8) chunks [] true true

/-! ## Marks -/

/-- A text with its marks written as names. -/
def escapedMarks (isQuoted : Bool) (text : List Char) : List Char :=
  (text.map fun c =>
    match c with
    | '&' => ascii "&amp;"
    | '<' => ascii "&lt;"
    | '>' => ascii "&gt;"
    | '"' => if isQuoted then ascii "&quot;" else [c]
    | '\'' => if isQuoted then ascii "&#x27;" else [c]
    | c => [c]).flatten

/-- The characters that have names. -/
def namedMarks : List (String × Nat) :=
  [("amp", 38), ("lt", 60), ("gt", 62), ("quot", 34), ("apos", 39), ("nbsp", 160), ("copy", 169),
   ("reg", 174), ("hellip", 8230), ("mdash", 8212), ("ndash", 8211), ("lsquo", 8216),
   ("rsquo", 8217), ("ldquo", 8220), ("rdquo", 8221), ("euro", 8364), ("times", 215),
   ("eacute", 233), ("egrave", 232), ("auml", 228), ("ouml", 246), ("uuml", 252), ("szlig", 223)]

/-- A text with names of marks replaced by them.  Each step takes a character. -/
def unescapedMarks : Nat → List Char → List Char
  | 0, text => text
  | _ + 1, [] => []
  | fuel + 1, '&' :: rest =>
    let body := rest.takeWhile fun c => c.isAlphanum || c = '#'
    let after := rest.drop body.length
    let after := if after.head? = some ';' then after.drop 1 else after
    let code? : Option Nat :=
      match body with
      | '#' :: 'x' :: digits => if digits.isEmpty then none else some (ByteText.valueIn 16 digits)
      | '#' :: 'X' :: digits => if digits.isEmpty then none else some (ByteText.valueIn 16 digits)
      | '#' :: digits => if digits.isEmpty then none else some (ByteText.valueIn 10 digits)
      | name => (namedMarks.find? fun entry => entry.1.toList = name).map Prod.snd
    match code? with
    | some code => Char.ofNat code :: unescapedMarks fuel after
    | none => '&' :: unescapedMarks fuel rest
  | fuel + 1, c :: rest => c :: unescapedMarks fuel rest

end Running

end SchemaDocs.Shell.Indent
