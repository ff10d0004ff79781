import SchemaDocs.Shell.NumberText
import SchemaDocs.Shell.Tool.Indent.Value
import SchemaDocs.Shell.Tool.Record.Datum
import SchemaDocs.Text.Printable
/-!
# The text of values

How values are shown, as they would be written in a program or as plain text, and how they
are put into a text under a format.
-/

namespace SchemaDocs.Shell.Indent

namespace Show

/-! ## Numbers -/

/-- Whether two finite sizes are the same. -/
def isSameSize (a b : Magnitude) : Bool :=
  match a, b with
  | .finite n e, .finite m f =>
    if e ≤ f then n = m * Nat.pow 2 (f - e).toNat else n * Nat.pow 2 (e - f).toNat = m
  | a, b => a = b

/-- The fewest digits that a size can be read back from, with the power of ten of the first one.  Each
step tries one more digit. -/
def fewestDigits (whole : Nat) (exponent : Int) : Nat → Nat → Int × Nat × Nat
  | 0, places =>
    let (numerator, denominator) := Fractional.ratio whole exponent
    let (power, digits) := Fractional.scientific numerator denominator places
    (power, digits, places)
  | fuel + 1, places =>
    let (numerator, denominator) := Fractional.ratio whole exponent
    let (power, digits) := Fractional.scientific numerator denominator places
    let shift : Int := power - places
    let back :=
      if 0 ≤ shift then Fractional.ofRatio 53 false (digits * Nat.pow 10 shift.toNat) 1
      else Fractional.ofRatio 53 false digits (Nat.pow 10 (-shift).toNat)
    if isSameSize back.magnitude (.finite whole exponent) then (power, digits, places)
    else fewestDigits whole exponent fuel (places + 1)

/-- A number with a fraction as it would be written in a program. -/
def float (n : Float) : List Char :=
  let number := Record.Number.parts n
  let sign : List Char := if number.isNegative then ['-'] else []
  match number.magnitude with
  | .nothing => ascii "nan"
  | .infinite => sign ++ ascii "inf"
  | .finite 0 _ => sign ++ ascii "0.0"
  | .finite whole exponent =>
    let (power, digits, places) := fewestDigits whole exponent 17 0
    let text := ByteText.ofNat digits
    if -4 ≤ power && power < 16 then
      if power < 0 then
        sign ++ ascii "0." ++ List.replicate ((-power).toNat - 1) '0' ++ text
      else
        let before := power.toNat + 1
        let padded := text ++ List.replicate (before - text.length) '0'
        let fraction := padded.drop before
        sign ++ padded.take before ++ ['.'] ++ (if fraction.isEmpty then ['0'] else fraction)
    else
      let _ := places
      let fraction := text.drop 1
      sign ++ text.take 1 ++ (if fraction.isEmpty then [] else '.' :: fraction)
        ++ Fractional.exponentText power

/-! ## Texts -/

/-- A code behind a backslash and a letter, with so many digits. -/
def coded (letter : Char) (width code : Nat) : List Char :=
  let digits := ByteText.digitsIn 16 code
  ['\\', letter] ++ List.replicate (width - digits.length) '0' ++ digits

/-- A character within quotes. -/
def quotedChar (isBytes : Bool) (quote c : Char) : List Char :=
  if c = quote || c = '\\' then ['\\', c]
  else if c = '\n' then ['\\', 'n']
  else if c = '\x0d' then ['\\', 'r']
  else if c = '\t' then ['\\', 't']
  else if c.toNat < 32 || c.toNat = 127 then coded 'x' 2 c.toNat
  else if c.toNat < 127 then [c]
  else if isBytes then coded 'x' 2 c.toNat
  else if Text.isPrintable c && !(Text.isBlank c) then [c]
  else if c.toNat < 256 then coded 'x' 2 c.toNat
  else if c.toNat < 65536 then coded 'u' 4 c.toNat
  else coded 'U' 8 c.toNat

/-- A text as it would be written in a program. -/
def quoted (isBytes : Bool) (text : List Char) : List Char :=
  let quote := if text.contains '\'' && !text.contains '"' then '"' else '\''
  (if isBytes then ['b'] else []) ++ [quote] ++ (text.map (quotedChar isBytes quote)).flatten
    ++ [quote]

/-- A text with all that is beyond ASCII behind backslashes. -/
def inAscii (text : List Char) : List Char :=
  (text.map fun c =>
    if c.toNat < 128 then [c]
    else if c.toNat < 256 then coded 'x' 2 c.toNat
    else if c.toNat < 65536 then coded 'u' 4 c.toNat
    else coded 'U' 8 c.toNat).flatten

/-- Texts with a comma between them. -/
def commas (texts : List (List Char)) : List Char := (texts.intersperse [',', ' ']).flatten

/-- The last part of a name with points. -/
def lastPart (name : String) : String := ((name.splitOn ".").getLast?).getD name

end Show

namespace Running

/-- How far values are shown that stand in each other. -/
def deepestShown : Nat := 200

mutual

/-- A value as it would be written in a program.  Each step goes a level down. -/
def repr (caller : Caller) : Nat → Value → Running (List Char)
  | 0, _ => return ascii "..."
  | fuel + 1, value => do
    match value with
    | .nothing => return ascii "None"
    | .ellipsis => return ascii "Ellipsis"
    | .notImplemented => return ascii "NotImplemented"
    | .bool b => return ascii (if b then "True" else "False")
    | .int n => return ByteText.ofInt n
    | .float n => return Show.float n
    | .text text => return Show.quoted false text
    | .bytes bytes => return Show.quoted true bytes
    | .tuple [item] => return ['('] ++ (← repr caller fuel item) ++ [',', ')']
    | .tuple items => return ['('] ++ Show.commas (← items.mapM (repr caller fuel)) ++ [')']
    | .range start stop step =>
      let base := ascii "range(" ++ ByteText.ofInt start ++ [',', ' '] ++ ByteText.ofInt stop
      return base ++ (if step = 1 then [] else [',', ' '] ++ ByteText.ofInt step) ++ [')']
    | .slice start stop step =>
      return ascii "slice(" ++ Show.commas (← [start, stop, step].mapM (repr caller fuel)) ++ [')']
    | .builtIn name =>
      if (← typeName value) = "type" then return ascii ("<class '" ++ name ++ "'>")
      else return ascii ("<built-in function " ++ Show.lastPart name ++ ">")
    | .method self name =>
      return ascii ("<built-in method " ++ name ++ " of " ++ (← typeName self) ++ " object at 0x7f0000000000>")
    | .bound _ _ => return ascii "<bound method>"
    | .library name => return ascii ("<module '" ++ name ++ "' (built-in)>")
    | .object number => reprObject caller fuel number

/-- An object as it would be written in a program. -/
def reprObject (caller : Caller) : Nat → Nat → Running (List Char)
  | 0, _ => return ascii "..."
  | fuel + 1, number => do
    let entries (table : Table) : Running (List Char) := do
      let texts ← table.entries.mapM fun (key, value) => do
        return (← repr caller fuel key) ++ [':', ' '] ++ (← repr caller fuel value)
      return ['\x7b'] ++ Show.commas texts ++ ['\x7d']
    match ← objectAt number with
    | .list items => return ['['] ++ Show.commas (← items.toList.mapM (repr caller fuel)) ++ [']']
    | .queue items most =>
      let inner := ['['] ++ Show.commas (← items.toList.mapM (repr caller fuel)) ++ [']']
      let bound := match most with
        | some most => ascii ", maxlen=" ++ ByteText.ofNat most
        | none => []
      return ascii "deque(" ++ inner ++ bound ++ [')']
    | .table .plain table => entries table
    | .table .counter table =>
      if table.size = 0 then return ascii "Counter()"
      else
        let count (value : Value) : Int := match value with
          | .int n => n
          | _ => 0
        let sorted := table.entries.mergeSort fun a b => count b.2 ≤ count a.2
        let texts ← sorted.mapM fun (key, value) => do
          return (← repr caller fuel key) ++ [':', ' '] ++ (← repr caller fuel value)
        return ascii "Counter(\x7b" ++ Show.commas texts ++ ascii "\x7d)"
    | .table (.withDefault make) table =>
      return ascii "defaultdict(" ++ (← repr caller fuel make) ++ [',', ' '] ++ (← entries table) ++ [')']
    | .set isFrozen table =>
      let texts ← table.keys.mapM (repr caller fuel)
      let inner := ['\x7b'] ++ Show.commas texts ++ ['\x7d']
      if isFrozen then
        return ascii "frozenset(" ++ (if texts.isEmpty then [] else inner) ++ [')']
      else return if texts.isEmpty then ascii "set()" else inner
    | .view kind table =>
      let items ← viewItems kind table
      return ascii kind ++ ['(', '['] ++ Show.commas (← items.mapM (repr caller fuel)) ++ [']', ')']
    | .function function => return ascii ("<function " ++ function.name ++ " at 0x7f0000000000>")
    | .type name _ _ => return ascii ("<class '__main__." ++ name ++ "'>")
    | .record type fields =>
      match ← typeField? type "__repr__" with
      | some function =>
        match ← caller.call (.bound (.object number) function) [] [] with
        | .text text => return text
        | _ => failType (ascii "__repr__ returned non-string")
      | none =>
        let name ← typeName (.object number)
        if ← isException (.object number) "BaseException" then
          match (fields.find? fun field => field.1 = "args").map Prod.snd with
          | some (.tuple [only]) => return ascii name ++ ['('] ++ (← repr caller fuel only) ++ [')']
          | some (.tuple items) =>
            return ascii name ++ ['('] ++ Show.commas (← items.mapM (repr caller fuel)) ++ [')']
          | _ => return ascii name ++ ascii "()"
        else
          match type with
          | .builtIn "types.SimpleNamespace" =>
            let texts ← fields.mapM fun (name, value) => do
              return ascii name ++ ['='] ++ (← repr caller fuel value)
            return ascii "namespace(" ++ Show.commas texts ++ [')']
          | .builtIn "subprocess.CompletedProcess" =>
            let texts ← fields.mapM fun (name, value) => do
              return ascii name ++ ['='] ++ (← repr caller fuel value)
            return ascii "CompletedProcess(" ++ Show.commas texts ++ [')']
          | .builtIn name => return ascii ("<" ++ name ++ " object at 0x7f0000000000>")
          | _ => return ascii ("<__main__." ++ name ++ " object at 0x7f0000000000>")
    | .iterator kind _ _ => return ascii ("<" ++ kind ++ " object at 0x7f0000000000>")
    | .file file =>
      let name ← repr caller fuel file.name
      if file.isBinary then return ascii "<_io.BufferedReader name=" ++ name ++ ['>']
      else
        return ascii "<_io.TextIOWrapper name=" ++ name ++ ascii " mode='" ++ file.mode
          ++ ascii "' encoding='utf-8'>"
    | .pattern source _ _ => return ascii "re.compile(" ++ (← repr caller fuel source) ++ [')']
    | .matched matched =>
      let text := (matched.chars.extract matched.found.start matched.found.stop).toList
      let subject := match matched.subject with
        | .bytes _ => true
        | _ => false
      return ascii "<re.Match object; span=(" ++ ByteText.ofNat matched.found.start ++ [',', ' ']
        ++ ByteText.ofNat matched.found.stop ++ ascii "), match=" ++ Show.quoted subject text ++ ['>']
    | .buffer _ _ => return ascii "<_io.StringIO object at 0x7f0000000000>"
    | .marked mark _ => return ascii ("<" ++ mark ++ " object at 0x7f0000000000>")
    | .partly function _ _ => return ascii "functools.partial(" ++ (← repr caller fuel function) ++ [')']

/-- The items of a view of a table. -/
def viewItems (kind : String) (table : Value) : Running (List Value) := do
  match ← object? table with
  | some (.table _ table) =>
    return (match kind with
      | "dict_keys" => table.keys
      | "dict_values" => table.entries.map Prod.snd
      | _ => table.entries.map fun (key, value) => .tuple [key, value])
  | _ => return []

end

/-- A value as it would be written in a program. -/
def shown (caller : Caller) (value : Value) : Running (List Char) := repr caller deepestShown value

/-- A value as plain text. -/
def plain (caller : Caller) (value : Value) : Running (List Char) := do
  match value with
  | .text text => return text
  | .object number =>
    match ← objectAt number with
    | .record type fields =>
      match ← typeField? type "__str__" with
      | some function =>
        match ← caller.call (.bound value function) [] [] with
        | .text text => return text
        | other =>
          failType (ascii ("__str__ returned non-string (type " ++ (← typeName other) ++ ")"))
      | none =>
        let isOwn ← typeField? type "__repr__"
        if isOwn.isNone && (← isException value "BaseException") then
          let arguments := ((fields.find? fun field => field.1 = "args").map Prod.snd).getD (.tuple [])
          let isSystem ← isException value "OSError"
          let isKey ← isException value "KeyError"
          match arguments with
          | .tuple [] => return []
          | .tuple [only] =>
            if isKey then shown caller only
            else
              match only with
              | .text text => return text
              | only =>
                match ← special? only "__str__" with
                | some function =>
                  match ← caller.call (.bound only function) [] [] with
                  | .text text => return text
                  | _ => return []
                | none => shown caller only
          | .tuple (code :: message :: rest) =>
            if isSystem then
              let base := ascii "[Errno " ++ (← shown caller code) ++ ascii "] "
              let text ← match message with
                | .text text => pure text
                | other => shown caller other
              match rest with
              | name :: _ => return base ++ text ++ ascii ": " ++ (← shown caller name)
              | [] => return base ++ text
            else shown caller arguments
          | other => shown caller other
        else shown caller value
    | _ => shown caller value
  | _ => shown caller value

/-! ## Formats -/

/-- How a value is put into a text. -/
structure Format where
  fill : Char := ' '
  align : Option Char := none
  sign : Char := '-'
  isMarked : Bool := false
  width : Nat := 0
  grouping : Option Char := none
  precision : Option Nat := none
  kind : Option Char := none

/-- Whether a character tells a side. -/
def isAlign (c : Char) : Bool := c = '<' || c = '>' || c = '^' || c = '='

/-- Reads a format. -/
def readFormat (text : List Char) : Option Format :=
  let (fill, align, rest) : Char × Option Char × List Char :=
    match text with
    | fill :: align :: rest =>
      if isAlign align then (fill, some align, rest)
      else if isAlign fill then (' ', some fill, align :: rest)
      else (' ', none, text)
    | [align] => if isAlign align then (' ', some align, []) else (' ', none, text)
    | [] => (' ', none, [])
  let (sign, rest) : Char × List Char :=
    match rest with
    | c :: more => if c = '+' || c = '-' || c = ' ' then (c, more) else ('-', rest)
    | [] => ('-', [])
  let (isMarked, rest) : Bool × List Char :=
    match rest with
    | '#' :: more => (true, more)
    | rest => (false, rest)
  let (fill, align, rest) : Char × Option Char × List Char :=
    match rest with
    | '0' :: more =>
      match align with
      | none => ('0', some '=', more)
      | some side => (if fill = ' ' then '0' else fill, some side, more)
    | rest => (fill, align, rest)
  let width := rest.takeWhile Char.isDigit
  let rest := rest.drop width.length
  let (grouping, rest) : Option Char × List Char :=
    match rest with
    | c :: more => if c = ',' || c = '_' then (some c, more) else (none, rest)
    | [] => (none, [])
  let (precision, rest) : Option Nat × List Char :=
    match rest with
    | '.' :: more =>
      let digits := more.takeWhile Char.isDigit
      (some (ByteText.valueIn 10 digits), more.drop digits.length)
    | rest => (none, rest)
  let format : Format :=
    { fill := fill, align := align, sign := sign, isMarked := isMarked
      width := ByteText.valueIn 10 width, grouping := grouping, precision := precision }
  match rest with
  | [] => some format
  | [c] => some { format with kind := some c }
  | _ => none

/-- Puts a text into its width on one side. -/
def Format.aligned (format : Format) (side : Char) (sign body : List Char) : List Char :=
  let missing := format.width - (sign.length + body.length)
  let fill (count : Nat) : List Char := List.replicate count format.fill
  match format.align.getD side with
  | '<' => sign ++ body ++ fill missing
  | '^' => fill (missing / 2) ++ sign ++ body ++ fill (missing - missing / 2)
  | '=' => sign ++ fill missing ++ body
  | _ => fill missing ++ sign ++ body

/-- Digits with a mark after each group of them, counted from the end. -/
def grouped (mark : Char) (size : Nat) (digits : List Char) : List Char :=
  let marked := digits.reverse.zipIdx.foldl
    (fun (taken : List Char) (c, place) =>
      if place != 0 && place % size = 0 then c :: mark :: taken else c :: taken) []
  marked

/-- The sign of a number under a format. -/
def Format.signOf (format : Format) (isNegative : Bool) : List Char :=
  if isNegative then ['-'] else if format.sign = '-' then [] else [format.sign]

/-- A whole number under a format. -/
def Format.writeInt (format : Format) (n : Int) : List Char :=
  let (base, mark, isUpper) : Nat × List Char × Bool :=
    match format.kind with
    | some 'b' => (2, ['0', 'b'], false)
    | some 'o' => (8, ['0', 'o'], false)
    | some 'x' => (16, ['0', 'x'], false)
    | some 'X' => (16, ['0', 'X'], true)
    | _ => (10, [], false)
  let digits := ByteText.digitsIn base n.natAbs
  let digits := if isUpper then digits.map Char.toUpper else digits
  let sign := format.signOf (n < 0) ++ (if format.isMarked then mark else [])
  let digits :=
    match format.grouping with
    | none => digits
    | some c =>
      let size := if base = 10 then 3 else 4
      if format.fill = '0' && format.align = some '=' then
        /- The zeros are grouped as well. -/
        let room := format.width - sign.length
        let padded (count : Nat) : List Char :=
          grouped c size (List.replicate (count - digits.length) '0' ++ digits)
        let counts := (List.range (room + 1)).map (· + digits.length)
        let fitting := counts.find? fun count => room ≤ (padded count).length
        padded (fitting.getD digits.length)
      else grouped c size digits
  format.aligned '>' sign digits

/-- A number with a fraction under a format. -/
def Format.writeFloat (format : Format) (n : Float) : List Char :=
  let number := Record.Number.parts n
  let isPercent := format.kind = some '%'
  let n := if isPercent then n * 100 else n
  let parts := Record.Number.parts n
  let body : List Char :=
    match parts.magnitude with
    | .nothing => ascii "nan"
    | .infinite => ascii "inf"
    | .finite whole exponent =>
      match format.kind with
      | none =>
        match format.precision with
        | none =>
          let text := Show.float n
          if text.head? = some '-' then text.drop 1 else text
        | some places =>
          let text := Fractional.general whole exponent (max places 1) false
          if text.contains '.' || text.contains 'e' then text else text ++ ascii ".0"
      | some kind =>
        let places := format.precision.getD 6
        match kind.toLower with
        | 'e' => Fractional.exponential whole exponent places format.isMarked
        | 'g' => Fractional.general whole exponent places format.isMarked
        | 'n' => Fractional.general whole exponent places format.isMarked
        | _ => Fractional.fixed whole exponent places format.isMarked
  let body := if format.kind.any Char.isUpper then body.map Char.toUpper else body
  let body :=
    match format.grouping with
    | none => body
    | some c =>
      let whole := body.takeWhile Char.isDigit
      let rest := body.drop whole.length
      if format.fill = '0' && format.align = some '=' then
        let room := format.width - rest.length - (format.signOf number.isNegative).length
        let padded (count : Nat) : List Char :=
          grouped c 3 (List.replicate (count - whole.length) '0' ++ whole)
        let counts := (List.range (room + 1)).map (· + whole.length)
        let fitting := counts.find? fun count => room ≤ (padded count).length
        padded (fitting.getD whole.length) ++ rest
      else grouped c 3 whole ++ rest
  format.aligned '>' (format.signOf number.isNegative)
    (body ++ (if isPercent then ['%'] else []))

/-- A text under a format. -/
def Format.writeText (format : Format) (text : List Char) : List Char :=
  let text := match format.precision with
    | some most => text.take most
    | none => text
  format.aligned '<' [] text

/-- Puts a value into a text under a format. -/
def formatted (caller : Caller) (value : Value) (text : List Char) : Running (List Char) := do
  match ← special? value "__format__" with
  | some function =>
    match ← caller.call (.bound value function) [.text text] [] with
    | .text text => return text
    | _ => return []
  | none =>
    if text.isEmpty then plain caller value
    else
      match readFormat text with
      | none =>
        fail "ValueError" (ascii "Invalid format specifier '" ++ text ++ ascii "' for object of type '"
          ++ ascii (← typeName value) ++ ascii "'")
      | some format =>
        let unknown (kind : Char) : Running (List Char) := do
          fail "ValueError" (ascii "Unknown format code '" ++ [kind] ++ ascii "' for object of type '"
            ++ ascii (← typeName value) ++ ascii "'")
        let whole (n : Int) : Running (List Char) := do
          match format.kind with
          | none => return format.writeInt n
          | some kind =>
            if (ascii "bdoxXn").contains kind then
              if format.precision.isSome then
                fail "ValueError" (ascii "Precision not allowed in integer format specifier")
              else return format.writeInt n
            else if kind = 'c' then return format.writeText [Char.ofNat n.toNat]
            else if (ascii "eEfFgG%").contains kind then return format.writeFloat (Float.ofInt n)
            else unknown kind
        match value with
        | .int n => whole n
        | .bool b =>
          if format.kind.isNone then return format.writeText (ascii (if b then "True" else "False"))
          else whole (if b then 1 else 0)
        | .float n =>
          match format.kind with
          | none => return format.writeFloat n
          | some kind =>
            if (ascii "eEfFgGn%").contains kind then return format.writeFloat n else unknown kind
        | .text text =>
          match format.kind with
          | none =>
            if format.align = some '=' then
              if format.fill = '0' then
                return ({ format with align := some '<' } : Format).writeText text
              else
                fail "ValueError" (ascii "'=' alignment not allowed in string format specifier")
            else return format.writeText text
          | some 's' => return format.writeText text
          | some kind => unknown kind
        | other =>
          failType (ascii "unsupported format string passed to " ++ ascii (← typeName other)
            ++ ascii ".__format__")

/-! ## Directives -/

/-- The next value of those that directives take in turn. -/
def nextOf (values : List Value) : Running (Value × List Value) := do
  match values with
  | value :: rest => return (value, rest)
  | [] => failType (ascii "not enough arguments for format string")

/-- The whole number of a value for a directive. -/
def wholeFor (kind : Char) (value : Value) : Running Int := do
  match value with
  | .int n => return n
  | .bool b => return if b then 1 else 0
  | .float n =>
    if kind = 'd' || kind = 'i' || kind = 'u' then return (Record.Number.whole? n).getD 0
    else
      failType (ascii "%" ++ [kind] ++ ascii " format: an integer is required, not float")
  | other =>
    let need := if kind = 'd' || kind = 'i' || kind = 'u' then "a real number" else "an integer"
    failType (ascii "%" ++ [kind] ++ ascii (" format: " ++ need ++ " is required, not ")
      ++ ascii (← typeName other))

/-- A text with values put in for directives.  Each step takes a directive. -/
def withDirectives (caller : Caller) (isBytes : Bool) (look : List Char → Running Value) :
    Nat → List Char → List Value → Running (List Char × List Value)
  | 0, _, values => return ([], values)
  | fuel + 1, text, values => do
    let before := text.takeWhile (· != '%')
    match text.drop before.length with
    | [] => return (before, values)
    | _ :: '%' :: rest =>
      let (later, values) ← withDirectives caller isBytes look fuel rest values
      return (before ++ ['%'] ++ later, values)
    | _ :: rest =>
      let (key, rest) : Option (List Char) × List Char :=
        match rest with
        | '(' :: more =>
          let key := more.takeWhile (· != ')')
          (some key, more.drop (key.length + 1))
        | rest => (none, rest)
      let flags := rest.takeWhile fun c => (ascii "#0- +").contains c
      let rest := rest.drop flags.length
      let (width, rest, values) ←
        match rest with
        | '*' :: more => do
          let (value, values) ← nextOf values
          pure ((← wholeFor 'd' value), more, values)
        | rest =>
          let digits := rest.takeWhile Char.isDigit
          pure ((ByteText.valueIn 10 digits : Int), rest.drop digits.length, values)
      let (precision, rest, values) ←
        match rest with
        | '.' :: '*' :: more => do
          let (value, values) ← nextOf values
          pure (some (← wholeFor 'd' value).toNat, more, values)
        | '.' :: more =>
          let digits := more.takeWhile Char.isDigit
          pure (some (ByteText.valueIn 10 digits), more.drop digits.length, values)
        | rest => pure (none, rest, values)
      let rest := rest.dropWhile fun c => c = 'l' || c = 'h' || c = 'L'
      match rest with
      | [] => fail "ValueError" (ascii "incomplete format")
      | kind :: rest =>
        let (value, values) ←
          match key with
          | some key => do pure (← look key, values)
          | none => nextOf values
        let isLeft := flags.contains '-' || width < 0
        let format : Format :=
          { fill := if flags.contains '0' && !isLeft && kind != 's' && kind != 'r' && kind != 'c' then '0' else ' '
            align := if isLeft then some '<' else if flags.contains '0' && kind != 's' && kind != 'r' then some '=' else some '>'
            sign := if flags.contains '+' then '+' else if flags.contains ' ' then ' ' else '-'
            isMarked := flags.contains '#', width := width.natAbs, precision := precision }
        let number (kind : Char) : Running (List Char) := do
          let n ← wholeFor kind value
          let kind := if kind = 'i' || kind = 'u' then 'd' else kind
          match precision with
          | none => return ({ format with kind := some kind } : Format).writeInt n
          | some least =>
            let digits := ({ kind := some kind } : Format).writeInt n.natAbs
            return format.aligned '>' (format.signOf (n < 0))
              (List.replicate (least - digits.length) '0' ++ digits)
        let shownText ← do
          if kind = 's' then
            match isBytes, value with
            | true, .bytes bytes => pure (format.writeText bytes)
            | _, _ => pure (format.writeText (← plain caller value))
          else if kind = 'r' then pure (format.writeText (← shown caller value))
          else if kind = 'a' then pure (format.writeText (Show.inAscii (← shown caller value)))
          else if kind = 'c' then
            match value with
            | .text text => pure (format.writeText text)
            | .bytes text => pure (format.writeText text)
            | .int n => pure (format.writeText [Char.ofNat n.toNat])
            | _ => failType (ascii "%c requires int or char")
          else if (ascii "diouxX").contains kind then number kind
          else if (ascii "eEfFgG").contains kind then
            match value with
            | .float n => pure (({ format with kind := some kind } : Format).writeFloat n)
            | .int n => pure (({ format with kind := some kind } : Format).writeFloat (Float.ofInt n))
            | .bool b => pure (({ format with kind := some kind } : Format).writeFloat (if b then 1 else 0))
            | other =>
              failType (ascii "must be real number, not " ++ ascii (← typeName other))
          else
            fail "ValueError" (ascii "unsupported format character '" ++ [kind] ++ ascii "' (0x"
              ++ ByteText.digitsIn 16 kind.toNat ++ ascii ")")
        let (later, values) ← withDirectives caller isBytes look fuel rest values
        return (before ++ shownText ++ later, values)

end Running

end SchemaDocs.Shell.Indent
