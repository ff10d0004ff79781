import SchemaDocs.Shell.Tool.Indent.Member
/-!
# Functions that are always there

Conversions, counting and sorting, opening files, and what else programs call without asking for
a library.
-/

namespace SchemaDocs.Shell.Indent

namespace Running

/-- The names of functions and types that are always there. -/
def builtInNames : List String :=
  ["abs", "all", "any", "ascii", "bin", "bool", "bytearray", "bytes", "callable", "chr",
   "classmethod", "compile", "complex", "delattr", "dict", "dir", "divmod", "enumerate", "eval",
   "exec", "exit", "filter", "float", "format", "frozenset", "getattr", "globals", "hasattr",
   "hash", "help", "hex", "id", "input", "int", "isinstance", "issubclass", "iter", "len", "list",
   "locals", "map", "max", "memoryview", "min", "next", "object", "oct", "open", "ord", "pow",
   "print", "property", "quit", "range", "repr", "reversed", "round", "set", "setattr", "slice",
   "sorted", "staticmethod", "str", "sum", "super", "tuple", "type", "vars", "zip", "__import__"]

/-! ## Numbers from texts -/

/-- A text without blanks at its ends. -/
def withoutBlanks (text : List Char) : List Char := trimmed true true (isBlankFor false) text

/-- The whole number that a text stands for in a base. -/
def readInt (base : Nat) (text : List Char) : Option Int :=
  let text := withoutBlanks text
  let (isNegative, digits) :=
    match text with
    | '-' :: rest => (true, rest)
    | '+' :: rest => (false, rest)
    | rest => (false, rest)
  let marked? : Option (Nat × List Char) :=
    match digits with
    | '0' :: c :: rest =>
      match c.toLower with
      | 'x' => if base = 16 || base = 0 then some (16, rest) else none
      | 'o' => if base = 8 || base = 0 then some (8, rest) else none
      | 'b' => if base = 2 || base = 0 then some (2, rest) else none
      | _ => none
    | _ => none
  let (base, digits) := marked?.getD (if base = 0 then 10 else base, digits)
  let digits := match marked?, digits with
    | some _, '_' :: rest => rest
    | _, digits => digits
  let plain := (digits.filter (· != '_')).map fun c =>
    match Text.decimalValue? c with
    | some value => Char.ofNat (48 + value)
    | none => c
  let isGrouped := digits.head? != some '_' && digits.getLast? != some '_'
    && !ByteText.occursIn ['_', '_'] digits
  if plain.isEmpty || !isGrouped || !plain.all (ByteText.isDigitIn base) then none
  else
    let value : Int := (ByteText.valueIn base plain : Nat)
    some (if isNegative then -value else value)

/-- The number with a fraction that a text stands for. -/
def readFloat (text : List Char) : Option Float :=
  let text := withoutBlanks text
  let isGrouped := text.head? != some '_' && text.getLast? != some '_'
    && !ByteText.occursIn ['_', '_'] text
  let plain := (text.filter (· != '_')).map Char.toLower
  let body := match plain with
    | '-' :: rest => rest
    | '+' :: rest => rest
    | rest => rest
  let sign : Float := if plain.head? = some '-' then -1 else 1
  if !isGrouped then none
  else if body = ascii "inf" || body = ascii "infinity" then some (sign * (1.0 / 0.0))
  else if body = ascii "nan" then some (0.0 / 0.0)
  else if !(body.head?.any fun c => c.isDigit || c = '.') || body.contains 'x' || body.contains 'p' then
    none
  else
    match Fractional.read? 53 plain with
    | some (number, []) => some (Record.Number.ofParts number)
    | _ => none

/-- Fails because a value is no whole number. -/
def failWhole {α : Type} (value : Value) : Running α := do
  failType (ascii ("'" ++ (← typeName value) ++ "' object cannot be interpreted as an integer"))

/-- An argument that has to be a whole number. -/
def wholeOf (caller : Caller) (value : Value) : Running Int := do
  match ← placeOf? caller value with
  | some n => return n
  | none => failWhole value

/-- The whole number that a value is turned into. -/
def toInt (caller : Caller) (value : Value) (base : Option Value) : Running Value := do
  let base ← match base with
    | none => pure 10
    | some base => do
      let n ← wholeOf caller base
      if n = 0 || (2 ≤ n && n ≤ 36) then pure n.toNat
      else fail "ValueError" (ascii "int() base must be >= 2 and <= 36, or 0")
  let ofText (text : List Char) : Running Value := do
    match readInt base text with
    | some n => return .int n
    | none =>
      fail "ValueError" (ascii ("invalid literal for int() with base " ++ toString base ++ ": ")
        ++ (← shown caller value))
  match value with
  | .text text => ofText text
  | .bytes text => ofText text
  | .float n =>
    match Record.Number.whole? n with
    | some whole => return .int whole
    | none =>
      if Record.Number.isNothing n then
        fail "ValueError" (ascii "cannot convert float NaN to integer")
      else fail "OverflowError" (ascii "cannot convert float infinity to integer")
  | value =>
    match int? value with
    | some n => return .int n
    | none =>
      match ← special? value "__int__" with
      | some function => caller.call (.bound value function) [] []
      | none =>
        failType (ascii ("int() argument must be a string, a bytes-like object or a real number, not '"
          ++ (← typeName value) ++ "'"))

/-- The number with a fraction that a value is turned into. -/
def toFloat (caller : Caller) (value : Value) : Running Value := do
  let ofText (text : List Char) : Running Value := do
    match readFloat text with
    | some n => return .float n
    | none =>
      fail "ValueError" (ascii "could not convert string to float: " ++ (← shown caller value))
  match value with
  | .text text => ofText text
  | .bytes text => ofText text
  | value =>
    match float? value with
    | some n => return .float n
    | none =>
      match ← special? value "__float__" with
      | some function => caller.call (.bound value function) [] []
      | none =>
        failType (ascii ("float() argument must be a string or a real number, not '"
          ++ (← typeName value) ++ "'"))

/-- A number rounded to so many places, of two neighbours as near to the even one. -/
def roundedTo (n : Float) (places : Int) : Float :=
  let number := Record.Number.parts n
  match number.magnitude with
  | .finite whole exponent =>
    if 0 ≤ places then
      let text := Fractional.fixed whole exponent places.toNat false
      Record.Number.ofText (if number.isNegative then '-' :: text else text)
    else
      let unit := Nat.pow 10 (-places).toNat
      let (numerator, denominator) := Fractional.ratio whole exponent
      let size := Fractional.roundDiv numerator (denominator * unit) * unit
      Float.ofInt (if number.isNegative then -(size : Int) else size)
  | _ => n

/-- Rounds a number. -/
def roundValue (caller : Caller) (value : Value) (places : Value) : Running Value := do
  match value, places with
  | .float n, .nothing =>
    match Record.Number.whole? (roundedTo n 0) with
    | some whole => return .int whole
    | none => fail "ValueError" (ascii "cannot convert float NaN to integer")
  | .float n, places => return .float (roundedTo n (← wholeOf caller places))
  | value, places =>
    match int? value with
    | some n =>
      match places with
      | .nothing => return .int n
      | places =>
        let places ← wholeOf caller places
        if 0 ≤ places then return .int n
        else
          let unit := Nat.pow 10 (-places).toNat
          let size : Int := (Fractional.roundDiv n.natAbs unit * unit : Nat)
          return .int (if n < 0 then -size else size)
    | none =>
      match ← special? value "__round__" with
      | some function => caller.call (.bound value function) [] []
      | none =>
        failType (ascii ("type " ++ (← typeName value) ++ " doesn't define __round__ method"))

/-! ## Files -/

/-- The exception for what went wrong with a file, with its number. -/
def faultKind (cause : FileError) : String × Nat :=
  let number := (cause.description.2).getD 5
  let kind :=
    match number with
    | 1 => "PermissionError"
    | 2 => "FileNotFoundError"
    | 13 => "PermissionError"
    | 17 => "FileExistsError"
    | 20 => "NotADirectoryError"
    | 21 => "IsADirectoryError"
    | 32 => "BrokenPipeError"
    | _ => "OSError"
  (kind, number)

/-- Raises the exception for what went wrong with a file. -/
def failFile {α : Type} (cause : FileError) (name : Value) : Running α := do
  let (kind, number) := faultKind cause
  raise (← makeException kind [.int number, .text (ascii cause.reason), name])

/-- The path of an argument. -/
def pathOf (value : Value) : Running ByteText := do
  match value with
  | .text text => return encoded text
  | .bytes bytes => return bytes
  | other =>
    match ← fieldOf? other "_path" with
    | some (.text text) => return encoded text
    | _ =>
      failType (ascii ("expected str, bytes or os.PathLike object, not " ++ (← typeName other)))

/-- Opens a file. -/
def openFile (name : Value) (mode : List Char) : Running Value := do
  let isBinary := mode.contains 'b'
  let plain := mode.filter fun c => c != 'b' && c != 't'
  let isGood := ["r", "w", "a", "x", "r+", "w+", "a+", "x+", "+r", "+w"].contains (String.ofList plain)
  if !isGood then fail "ValueError" (ascii "invalid mode: '" ++ mode ++ ['\''])
  else
    match name with
    | .int n =>
      match ← program (Program.descriptor? n.toNat) with
      | some channel =>
        make (.file { name := name, descriptor := some n.toNat, channel := channel, isBinary := isBinary
                      mode := mode })
      | none => failFile .badDescriptor name
    | name =>
      let path ← pathOf name
      let kind ← program (Program.kindOf path)
      if kind = .directory then failFile .isADirectory name
      else if plain.contains 'x' && kind ≠ .missing then
        raise (← makeException "FileExistsError" [.int 17, .text (ascii "File exists"), name])
      else
        let opened ← program do
          if plain.contains '+' && plain.contains 'r' then
            if kind = .missing then return .error .notFound else Program.openBoth path
          else if plain.contains 'r' then Program.openInput path
          else Program.openOutput path (plain.contains 'a')
        match opened with
        | .ok channel =>
          make (.file { name := name, descriptor := Program.descriptorPath? path, channel := channel
                        isBinary := isBinary, mode := mode })
        | .error cause => failFile cause name

/-- The stream that a library holds under a name. -/
def streamOf (name : String) : Running Value := do
  return (((← look (·.settings)).find? fun entry => entry.1 = name).map Prod.snd).getD .nothing

/-- Writes a text to a stream, which may be an object of the program. -/
def writeStream (caller : Caller) (stream : Value) (text : List Char) : Running Unit := do
  match ← object? stream with
  | some (.file file) =>
    if file.isClosed then fail "ValueError" (ascii "I/O operation on closed file.")
    let _ ← writeFile file (.text text)
  | some (.buffer pieces isBinary) =>
    match stream with
    | .object number =>
      let _ ← callBuffer caller number pieces isBinary "write" [.text text]
    | _ => pure ()
  | some (.record _ _) =>
    match ← special? stream "write" with
    | some function =>
      let _ ← caller.call (.bound stream function) [.text text] []
    | none => failMember stream "write"
  | _ => failMember stream "write"

/-- Writes values. -/
def print (caller : Caller) (arguments : List Value) (named : List (String × Value)) :
    Running Value := do
  match named.find? fun entry => !(["sep", "end", "file", "flush"].contains entry.1) with
  | some (name, _) =>
    failType (ascii ("'" ++ name ++ "' is an invalid keyword argument for print()"))
  | none =>
    let option (name : String) : Value :=
      ((named.find? fun entry => entry.1 = name).map Prod.snd).getD .nothing
    let textOf (name : String) (other : List Char) : Running (List Char) := do
      match option name with
      | .text text => return text
      | .nothing => return other
      | value =>
        failType (ascii (name ++ " must be None or a string, not " ++ (← typeName value)))
    let separator ← textOf "sep" [' ']
    let last ← textOf "end" ['\n']
    let texts ← arguments.mapM (plain caller)
    let stream ← match option "file" with
      | .nothing => streamOf "sys.stdout"
      | stream => pure stream
    match stream with
    | .nothing => return .nothing
    | stream =>
      writeStream caller stream ((texts.intersperse separator).flatten ++ last)
      if ← truth caller (option "flush") then
        match ← object? stream with
        | some (.file file) => if file.descriptor = some 1 then flush
        | _ => pure ()
      return .nothing

/-! ## Types -/

/-- Whether a value is of a type, or of one of several. -/
def isInstance (caller : Caller) : Nat → Value → Value → Running Bool
  | 0, _, _ => return false
  | fuel + 1, value, type => do
    match type with
    | .tuple types => types.anyM (isInstance caller fuel value)
    | .nothing => return (match value with
        | .nothing => true
        | _ => false)
    | .builtIn name =>
      if (← typeName type) != "type" && !name.startsWith "collections.abc."
          && !name.startsWith "typing." && name != "callable" then refused
      else
        let own ← typeName value
        match Show.lastPart name with
        | "Callable" => return own = "function" || own = "builtin_function_or_method" || own = "type"
        | "Iterable" =>
          return ["str", "bytes", "list", "tuple", "dict", "set", "range", "Counter"].contains own
        | "Mapping" => return ["dict", "Counter"].contains own
        | "Sequence" => return ["str", "bytes", "list", "tuple", "range"].contains own
        | "object" => return true
        | "type" => return own = "type"
        | last =>
          let kinds ← kinds deepestType (← typeOf value)
          return kinds.any fun kind =>
            match kind with
            | .builtIn other => other = name || Show.lastPart other = last
            | _ => false
    | .object number =>
      match ← objectAt number with
      | .type _ _ _ => isKindOf (← typeOf value) type
      | _ => refused
    | _ => refused
where
  /-- Fails because there is no type. -/
  refused : Running Bool :=
    failType (ascii "isinstance() arg 2 must be a type, a tuple of types, or a union")

/-! ## Rows -/

/-- Makes values that are gone through once. -/
def giver (kind : String) (values : List Value) : Running Value :=
  make (.iterator kind values.toArray 0)

/-- Rows of the values of several things, taken one from each in turn.  Each step makes a row. -/
def zipped (caller : Caller) (sources : List Value) : Nat → List Value → Running (List Value)
  | 0, rows => return rows.reverse
  | fuel + 1, rows => do
    let row ← sources.foldlM (fun (row : Option (List Value)) source => do
      match row with
      | none => return none
      | some row =>
        match ← nextValue caller source with
        | some value => return some (value :: row)
        | none => return none) (some [])
    match row with
    | some row => zipped caller sources fuel (.tuple row.reverse :: rows)
    | none => return rows.reverse

/-- The value that comes first or last in the order of values. -/
def extreme (caller : Caller) (name : String) (arguments : List Value)
    (named : List (String × Value)) : Running Value := do
  let option (name : String) : Option Value := (named.find? fun entry => entry.1 = name).map Prod.snd
  let values ← match arguments with
    | [only] => items caller only
    | several => pure several
  let keyOf (value : Value) : Running Value := do
    match option "key" with
    | some .nothing => return value
    | none => return value
    | some key => caller.call key [value] []
  match values with
  | [] =>
    match option "default" with
    | some value => return value
    | none => fail "ValueError" (ascii (name ++ "() iterable argument is empty"))
  | first :: rest =>
    let best ← rest.foldlM (fun (best : Value × Value) value => do
      let key ← keyOf value
      let wins ←
        if name = "max" then ordered caller .greater key best.1 else ordered caller .less key best.1
      return if wins then (key, value) else best) (← keyOf first, first)
    return best.2

/-- Calls something until it gives a certain value. -/
def callUntil (caller : Caller) (function stop : Value) : Nat → List Value → Running (List Value)
  | 0, values => return values.reverse
  | fuel + 1, values => do
    tick
    let value ← caller.call function [] []
    if ← equal caller value stop then return values.reverse
    else callUntil caller function stop fuel (value :: values)

/-- Bytes of a value. -/
def toBytes (caller : Caller) (arguments : List Value) : Running Value := do
  match arguments with
  | [] => return .bytes []
  | [.text _] => failType (ascii "string argument without an encoding")
  | .text text :: .text name :: _ => return .bytes (← encodeAs name (ascii "strict") text)
  | .bytes bytes :: _ => return .bytes bytes
  | value :: _ =>
    match int? value with
    | some n => return .bytes (List.replicate n.toNat '\x00')
    | none =>
      let codes ← (← items caller value).mapM fun item => do
        match int? item with
        | some n =>
          if 0 ≤ n && n < 256 then return Char.ofNat n.toNat
          else fail "ValueError" (ascii "bytes must be in range(0, 256)")
        | none => failWhole item
      return .bytes codes

/-- Makes a range. -/
def toRange (caller : Caller) (arguments : List Value) : Running Value := do
  match ← arguments.mapM (wholeOf caller) with
  | [stop] => return .range 0 stop 1
  | [start, stop] => return .range start stop 1
  | [start, stop, step] =>
    if step = 0 then fail "ValueError" (ascii "range() arg 3 must not be zero")
    else return .range start stop step
  | [] => failType (ascii "range expected at least 1 argument, got 0")
  | several =>
    failType (ascii ("range expected at most 3 arguments, got " ++ toString several.length))

/-- A text in a base behind its mark. -/
def marked (mark : List Char) (base : Nat) (n : Int) : Value :=
  .text ((if n < 0 then ['-'] else []) ++ mark ++ ByteText.digitsIn base n.natAbs)

/-- Fails because a function was given the wrong number of arguments. -/
def failCount {α : Type} (name : String) (count : Nat) : Running α := do
  failType (ascii (name ++ "() takes exactly one argument (" ++ toString count ++ " given)"))

/-- Calls a function that is always there, unless it needs more than values. -/
def callBuiltIn (caller : Caller) (member : Value → String → Running Value) (name : String)
    (arguments : List Value) (named : List (String × Value)) : Running (Option Value) := do
  let option (name : String) : Option Value := (named.find? fun entry => entry.1 = name).map Prod.snd
  let one : Running Value := do
    match arguments with
    | [value] => return value
    | several => failCount name several.length
  let give (value : Value) : Running (Option Value) := return some value
  match name with
  | "print" => give (← print caller arguments named)
  | "len" => give (.int (← lengthOf caller (← one)))
  | "repr" => give (.text (← shown caller (← one)))
  | "ascii" => give (.text (Show.inAscii (← shown caller (← one))))
  | "str" =>
    match arguments with
    | [] => give (.text [])
    | [value] => give (.text (← plain caller value))
    | .bytes bytes :: .text name :: rest =>
      let errors := match rest with
        | .text errors :: _ => errors
        | _ => ascii "strict"
      give (.text (← decodeAs name errors bytes))
    | _ => failType (ascii "decoding str is not supported")
  | "int" =>
    match arguments with
    | [] => give (.int 0)
    | value :: rest => give (← toInt caller value (rest.head?.or (option "base")))
  | "float" =>
    match arguments with
    | [] => give (.float 0)
    | value :: _ => give (← toFloat caller value)
  | "bool" =>
    match arguments with
    | [] => give (.bool false)
    | value :: _ => give (.bool (← truth caller value))
  | "list" =>
    match arguments with
    | [] => give (← list [])
    | value :: _ => give (← list (← items caller value))
  | "tuple" =>
    match arguments with
    | [] => give (.tuple [])
    | value :: _ => give (.tuple (← items caller value))
  | "set" =>
    match arguments with
    | [] => give (← make (.set false {}))
    | value :: _ => give (← make (.set false (← setOf (← items caller value))))
  | "frozenset" =>
    match arguments with
    | [] => give (← make (.set true {}))
    | value :: _ => give (← make (.set true (← setOf (← items caller value))))
  | "dict" =>
    let table ← match arguments with
      | [] => pure {}
      | value :: _ => do withPairs {} (← pairsOf caller value)
    give (← make (.table .plain (← withPairs table (namedPairs named))))
  | "bytes" => give (← toBytes caller (arguments ++ (option "encoding").toList))
  | "bytearray" => give (← toBytes caller arguments)
  | "memoryview" => give (← one)
  | "range" => give (← toRange caller arguments)
  | "slice" =>
    match arguments with
    | [stop] => give (.slice .nothing stop .nothing)
    | [start, stop] => give (.slice start stop .nothing)
    | [start, stop, step] => give (.slice start stop step)
    | _ => failType (ascii "slice expected at least 1 argument, got 0")
  | "abs" =>
    match ← one with
    | .float n => give (.float n.abs)
    | value =>
      match int? value with
      | some n => give (.int n.natAbs)
      | none =>
        match ← special? value "__abs__" with
        | some function => give (← caller.call (.bound value function) [] [])
        | none =>
          failType (ascii ("bad operand type for abs(): '" ++ (← typeName value) ++ "'"))
  | "all" => give (.bool (← (← items caller (← one)).allM (truth caller)))
  | "any" => give (.bool (← (← items caller (← one)).anyM (truth caller)))
  | "bin" => give (marked ['0', 'b'] 2 (← wholeOf caller (← one)))
  | "oct" => give (marked ['0', 'o'] 8 (← wholeOf caller (← one)))
  | "hex" => give (marked ['0', 'x'] 16 (← wholeOf caller (← one)))
  | "chr" =>
    let n ← wholeOf caller (← one)
    if 0 ≤ n && n < 0x110000 then give (.text [Char.ofNat n.toNat])
    else fail "ValueError" (ascii "chr() arg not in range(0x110000)")
  | "ord" =>
    match ← one with
    | .text [c] => give (.int c.toNat)
    | .bytes [c] => give (.int c.toNat)
    | .text text =>
      failType (ascii ("ord() expected a character, but string of length " ++ toString text.length
        ++ " found"))
    | .bytes text =>
      failType (ascii ("ord() expected a character, but string of length " ++ toString text.length
        ++ " found"))
    | other =>
      failType (ascii ("ord() expected string of length 1, but " ++ (← typeName other) ++ " found"))
  | "divmod" =>
    match arguments with
    | [a, b] =>
      give (.tuple [← operate caller .floorDivide a b, ← operate caller .remainder a b])
    | _ => failType (ascii "divmod expected 2 arguments")
  | "pow" =>
    match arguments with
    | [a, b] => give (← operate caller .power a b)
    | [.int a, .int b, .int m] =>
      let rec power : Nat → Int → Nat → Int → Int
        | 0, _, _, result => result
        | fuel + 1, base, exponent, result =>
          if exponent = 0 then result
          else
            let result := if exponent % 2 = 1 then Int.fmod (result * base) m else result
            power fuel (Int.fmod (base * base) m) (exponent / 2) result
      give (.int (power (Nat.log2 (b.toNat + 1) + 2) (Int.fmod a m) b.toNat (Int.fmod 1 m)))
    | _ => failType (ascii "pow() missing required argument 'exp' (pos 2)")
  | "round" =>
    match arguments with
    | value :: rest => give (← roundValue caller value ((rest.head?.or (option "ndigits")).getD .nothing))
    | [] => failType (ascii "round() missing required argument 'number' (pos 1)")
  | "sum" =>
    match arguments with
    | values :: rest =>
      let start := (rest.head?.or (option "start")).getD (.int 0)
      give (← (← items caller values).foldlM (operate caller .add) start)
    | [] => failType (ascii "sum() takes at least 1 positional argument (0 given)")
  | "min" => give (← extreme caller "min" arguments named)
  | "max" => give (← extreme caller "max" arguments named)
  | "sorted" =>
    match arguments with
    | values :: _ => give (← list (← sortedWith caller (← items caller values) named))
    | [] => failType (ascii "sorted expected 1 argument, got 0")
  | "reversed" =>
    let value ← one
    match ← special? value "__reversed__" with
    | some function => give (← caller.call (.bound value function) [] [])
    | none => give (← giver "list_reverseiterator" (← items caller value).reverse)
  | "enumerate" =>
    match arguments with
    | values :: rest =>
      let start := ((rest.head?.or (option "start")).bind int?).getD 0
      let rows := (← items caller values).zipIdx.map fun (item, place) =>
        Value.tuple [.int (start + (place : Int)), item]
      give (← giver "enumerate" rows)
    | [] => failType (ascii "enumerate() missing required argument 'iterable' (pos 1)")
  | "zip" =>
    let sources ← arguments.mapM (iteratorOf caller)
    if sources.isEmpty then give (← giver "zip" [])
    else give (← giver "zip" (← zipped caller sources mostItems []))
  | "map" =>
    match arguments with
    | function :: [values] =>
      let results ← (← items caller values).mapM fun item => caller.call function [item] []
      give (← giver "map" results)
    | function :: several =>
      let sources ← several.mapM (iteratorOf caller)
      let rows ← zipped caller sources mostItems []
      let results ← rows.mapM fun row => do
        match row with
        | .tuple items => caller.call function items []
        | _ => return .nothing
      give (← giver "map" results)
    | [] => failType (ascii "map() must have at least two arguments.")
  | "filter" =>
    match arguments with
    | [function, values] =>
      let kept ← (← items caller values).filterM fun item => do
        match function with
        | .nothing => truth caller item
        | function => truth caller (← caller.call function [item] [])
      give (← giver "filter" kept)
    | _ => failType (ascii "filter expected 2 arguments")
  | "iter" =>
    match arguments with
    | [value] => give (← iteratorOf caller value)
    | [function, stop] =>
      give (← giver "callable_iterator" (← callUntil caller function stop mostItems []))
    | _ => failType (ascii "iter expected at least 1 argument, got 0")
  | "next" =>
    match arguments with
    | source :: rest =>
      match ← nextValue caller source, rest with
      | some value, _ => give value
      | none, other :: _ => give other
      | none, [] => raise (← makeException "StopIteration" [])
    | [] => failType (ascii "next expected at least 1 argument, got 0")
  | "input" =>
    if let some prompt := arguments.head? then
      writeStream caller (← streamOf "sys.stdout") (← plain caller prompt)
    flush
    match ← object? (← streamOf "sys.stdin") with
    | some (.file file) =>
      match ← lineOf file with
      | .text [] => fail "EOFError" (ascii "EOF when reading a line")
      | .text text => give (.text (if text.getLast? = some '\n' then text.dropLast else text))
      | _ => give (.text [])
    | _ => fail "RuntimeError" (ascii "input(): lost sys.stdin")
  | "open" =>
    match arguments with
    | path :: rest =>
      let mode ← match rest.head?.or (option "mode") with
        | some (.text mode) => pure mode
        | some other =>
          failType (ascii ("open() argument 'mode' must be str, not " ++ (← typeName other)))
        | none => pure ['r']
      give (← openFile path mode)
    | [] => failType (ascii "open() missing required argument 'file' (pos 1)")
  | "isinstance" =>
    match arguments with
    | [value, type] => give (.bool (← isInstance caller 20 value type))
    | several =>
      failType (ascii ("isinstance expected 2 arguments, got " ++ toString several.length))
  | "issubclass" =>
    match arguments with
    | [type, .tuple others] => give (.bool (← others.anyM fun other => isKindOf type other))
    | [type, other] => give (.bool (← isKindOf type other))
    | _ => failType (ascii "issubclass expected 2 arguments")
  | "callable" =>
    let value ← one
    let kind ← typeName value
    let isRecord := (← special? value "__call__").isSome
    give (.bool (isRecord || ["type", "function", "method", "builtin_function_or_method",
      "functools.partial"].contains kind))
  | "type" => give (← typeOf (← one))
  | "id" =>
    match ← one with
    | .object number => give (.int (140000000000000 + 64 * (number : Int)))
    | _ => give (.int 140000000000000)
  | "hash" =>
    let value ← one
    match int? value with
    | some n => give (.int n)
    | none => give (.int ((hash (← keyOf value)).toNat % 1000000007 : Nat))
  | "format" =>
    match arguments with
    | [value] => give (.text (← formatted caller value []))
    | value :: .text format :: _ => give (.text (← formatted caller value format))
    | _ => failType (ascii "format expected at least 1 argument, got 0")
  | "getattr" =>
    match arguments with
    | value :: .text name :: rest =>
      match ← attempt (member value (String.ofList name)), rest with
      | .ok found, _ => give found
      | .error (.raised exception), other :: _ =>
        if ← isException exception "AttributeError" then give other else throw (.raised exception)
      | .error leaving, _ => throw leaving
    | _ => failType (ascii "getattr expected at least 2 arguments")
  | "hasattr" =>
    match arguments with
    | value :: .text name :: _ =>
      match ← attempt (member value (String.ofList name)) with
      | .ok _ => give (.bool true)
      | .error (.raised exception) =>
        if ← isException exception "AttributeError" then give (.bool false) else throw (.raised exception)
      | .error leaving => throw leaving
    | _ => failType (ascii "hasattr expected 2 arguments")
  | "exit" =>
    raise (← makeException "SystemExit" (arguments.take 1))
  | "quit" =>
    raise (← makeException "SystemExit" (arguments.take 1))
  | "property" => give (← make (.marked "property" (arguments.head?.getD .nothing)))
  | "staticmethod" => give (← make (.marked "staticmethod" (← one)))
  | "classmethod" => give (← make (.marked "classmethod" (← one)))
  | "object" => give (← make (.record (.builtIn "object") []))
  | "vars" =>
    match arguments with
    | value :: _ =>
      match ← object? value with
      | some (.record _ fields) => give (← make (.table .plain (← withPairs {} (namedPairs fields))))
      | _ => failType (ascii "vars() argument must have __dict__ attribute")
    | [] => give (← make (.table .plain {}))
  | _ => return none

end Running

end SchemaDocs.Shell.Indent
