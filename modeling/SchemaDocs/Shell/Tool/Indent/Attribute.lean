import SchemaDocs.Shell.Tool.Indent.Library
/-!
# What stands behind a dot

The fields of objects, with functions tied to the object they are taken from, and what values that
are always there can do.
-/

namespace SchemaDocs.Shell.Indent

namespace Running

/-- The names of functions of whole numbers. -/
def intFunctions : List String :=
  ["bit_length", "bit_count", "to_bytes", "conjugate", "is_integer", "as_integer_ratio"]

/-- The names of functions that all exceptions have. -/
def exceptionFunctions : List String := ["with_traceback", "add_note"]

/-- Functions that operations stand for, which all values have that know the operation. -/
def operationFunctions : List String :=
  ["__len__", "__str__", "__repr__", "__iter__", "__next__", "__contains__", "__getitem__",
   "__setitem__", "__delitem__", "__add__", "__sub__", "__mul__", "__truediv__", "__mod__", "__eq__",
   "__ne__", "__lt__", "__le__", "__gt__", "__ge__", "__hash__", "__format__", "__bool__",
   "__int__", "__float__", "__and__", "__or__", "__xor__", "__enter__", "__exit__", "__call__"]

/-- The names of the functions that a value has without a program that defines them. -/
def functionsOf (value : Value) : Running (List String) := do
  match value with
  | .text _ => return textFunctions
  | .bytes _ => return bytesFunctions
  | .int _ => return intFunctions
  | .bool _ => return intFunctions
  | .float _ => return ["is_integer", "as_integer_ratio", "conjugate", "hex"]
  | .tuple _ => return ["count", "index"]
  | .range _ _ _ => return ["count", "index"]
  | .object number =>
    match ← objectAt number with
    | .list _ => return listFunctions
    | .queue _ _ => return queueFunctions
    | .table .counter _ => return tableFunctions ++ counterFunctions
    | .table _ _ => return tableFunctions
    | .set _ _ => return setFunctions
    | .view _ _ => return ["isdisjoint"]
    | .iterator _ _ _ => return ["send", "close", "throw"]
    | .file _ => return fileFunctions
    | .buffer _ _ => return ["getvalue", "read", "readline", "readlines", "write", "writelines", "seek",
        "close", "flush", "tell", "isatty"]
    | .pattern _ _ _ => return patternFunctions
    | .matched _ => return matchedFunctions
    | .marked "property" _ => return ["setter", "getter", "deleter"]
    | .record _ _ =>
      return if ← isException value "BaseException" then exceptionFunctions else []
    | _ => return []
  | _ => return []

/-- Whether a name is one of a function that belongs to a type of a library. -/
def isTypeFunction (name : String) : Bool :=
  match (name.splitOn ".").reverse with
  | _ :: type :: _ :: _ => type.toList.head?.any Char.isUpper
  | _ => false

/-- A thing of a type as it is seen from an object: functions are tied to it. -/
def tied (caller : Caller) (self type thing : Value) : Running Value := do
  match thing with
  | .builtIn name => return if isTypeFunction name then .bound self thing else thing
  | .object number =>
    match ← objectAt number with
    | .function _ => return .bound self thing
    | .marked "staticmethod" inner => return inner
    | .marked "classmethod" inner => return .bound type inner
    | .marked "property" (.tuple (getter :: _)) => caller.call getter [self] []
    | .marked "property" getter => caller.call getter [self] []
    | .marked "cached_property" getter => caller.call getter [self] []
    | .marked "cached" _ => return .bound self thing
    | _ => return thing
  | _ => return thing

/-- Whether a thing of a type is a property, which goes before the fields of an object. -/
def isProperty (thing : Value) : Running Bool := do
  match ← object? thing with
  | some (.marked "property" _) => return true
  | _ => return false

/-- The number of an argument of an exception under a name. -/
def exceptionPlace? (value : Value) (name : String) : Running (Option Nat) := do
  match name with
  | "errno" => return if ← isException value "OSError" then some 0 else none
  | "strerror" => return if ← isException value "OSError" then some 1 else none
  | "filename" => return if ← isException value "OSError" then some 2 else none
  | "code" => return if ← isException value "SystemExit" then some 0 else none
  | "value" => return if ← isException value "StopIteration" then some 0 else none
  | "msg" =>
    let isData ← isException value "SyntaxError"
    let isPattern ← isException value "re.error"
    return if isData || isPattern || (← isException value "ImportError") then some 0 else none
  | _ => return none

/-- What stands under a name in an object. -/
def recordMember (caller : Caller) (value type : Value) (fields : List (String × Value)) (name : String) :
    Running (Option Value) := do
  let own := (fields.find? fun field => field.1 = name).map Prod.snd
  match ← typeField? type name with
  | some thing =>
    if own.isNone || (← isProperty thing) then return some (← tied caller value type thing)
    else return own
  | none =>
    match own with
    | some found => return some found
    | none =>
      if name = "__dict__" then
        return some (← make (.table .plain (← withPairs {} (namedPairs fields))))
      else
        match ← exceptionPlace? value name with
        | some place =>
          match (fields.find? fun field => field.1 = "args").map Prod.snd with
          | some (.tuple arguments) => return some ((arguments[place]?).getD .nothing)
          | _ => return some .nothing
        | none =>
          let isKnown := ["__cause__", "__context__", "__traceback__", "__notes__"].contains name
          if isKnown && (← isException value "BaseException") then return some .nothing
          else
            match ← typeField? type "__getattr__" with
            | some function =>
              return some (← caller.call (.bound value function) [.text name.toList] [])
            | none => return none

/-- What stands under a name in a type of the program. -/
def typeMember (value : Value) (typeName : String) (bases : List Value) (name : String) :
    Running (Option Value) := do
  match ← typeField? value name with
  | some thing =>
    match ← object? thing with
    | some (.marked "staticmethod" inner) => return some inner
    | some (.marked "classmethod" inner) => return some (.bound value inner)
    | _ => return some thing
  | none =>
    match name with
    | "__name__" => return some (.text typeName.toList)
    | "__qualname__" => return some (.text typeName.toList)
    | "__module__" => return some (.text (ascii "__main__"))
    | "__doc__" => return some .nothing
    | "__bases__" => return some (.tuple bases)
    | "__mro__" => return some (.tuple (← kinds deepestType value))
    | "mro" => return some (.bound value (.builtIn "type.mro"))
    | "__dict__" =>
      match ← object? value with
      | some (.type _ _ fields) =>
        return some (← make (.table .plain (← withPairs {} (namedPairs fields))))
      | _ => return none
    | name =>
      let above ← kinds deepestType value
      let known := ["__init__", "__new__", "__repr__", "__str__", "__setattr__", "__getattribute__",
        "__eq__", "__hash__"]
      match (above.filterMap fun kind =>
        match kind with
        | .builtIn other => some other
        | _ => none).head? with
      | some other => return if known.contains name then some (.builtIn (other ++ "." ++ name)) else none
      | none => return none

/-- What the next type in line knows under a name: how a type calls what it overrides. -/
def higherMember (caller : Caller) (self owner : Value) (name : String) : Running (Option Value) := do
  let isType : Bool := (← typeName self) = "type"
  let own ← if isType then pure self else typeOf self
  let line ← kinds deepestType own
  let above := (line.dropWhile fun kind => !isSameType kind owner).drop 1
  let higher ← kinds deepestType owner
  let above := if above.isEmpty then higher.drop 1 else above
  above.foldlM (fun (found : Option Value) kind => do
    match found, kind with
    | some value, _ => return some value
    | none, .object number =>
      match ← objectAt number with
      | .type _ _ fields =>
        match (fields.find? fun field => field.1 = name).map Prod.snd with
        | some thing => return some (← tied caller self own thing)
        | none => return none
      | _ => return none
    | none, .builtIn other => return some (.bound self (.builtIn (other ++ "." ++ name)))
    | none, _ => return none) none

/-- What stands under a name in a type that is always there. -/
def builtInMember (type name : String) : Running (Option Value) := do
  let isType := (← typeName (.builtIn type)) = "type"
  if name = "__name__" || name = "__qualname__" then return some (.text (Show.lastPart type).toList)
  else if name = "__doc__" then return some .nothing
  else if name = "__module__" then return some (.text (ascii "builtins"))
  else
    let knows : Bool :=
      match type with
      | "str" => textFunctions.contains name
      | "bytes" => bytesFunctions.contains name
      | "int" => intFunctions.contains name || name = "from_bytes"
      | "float" => name = "is_integer"
      | "list" => listFunctions.contains name
      | "dict" => tableFunctions.contains name
      | "OrderedDict" => tableFunctions.contains name
      | "Counter" => tableFunctions.contains name || counterFunctions.contains name
      | "set" => setFunctions.contains name
      | "tuple" => name = "count" || name = "index"
      | "itertools.chain" => name = "from_iterable"
      | "datetime" => name = "now"
      | _ => false
    if knows then return some (.builtIn (type ++ "." ++ name))
    else if isType && (operationFunctions.contains name
        || ["__init__", "__new__", "__setattr__", "__getattribute__"].contains name) then
      return some (.builtIn (type ++ "." ++ name))
    else return none

/-- What stands under a name in a value. -/
def memberOf (caller : Caller) (value : Value) (name : String) : Running Value := do
  let found : Option Value ← match value with
    | .library library => do
      match ← libraryMember? library name with
      | some member => pure (some member)
      | none =>
        if isLibrary (library ++ "." ++ name) then pure (some (.library (library ++ "." ++ name)))
        else if name = "__name__" then pure (some (.text library.toList))
        else pure none
    | .builtIn type => builtInMember type name
    | .method self function =>
      pure (match name with
        | "__name__" => some (.text function.toList)
        | "__self__" => some self
        | _ => none)
    | .bound self function =>
      match name with
      | "__self__" => pure (some self)
      | "__func__" => pure (some function)
      | name => do
        match ← object? function, function with
        | some (.function function), _ =>
          pure (match name with
            | "__name__" => some (.text function.name.toList)
            | "__doc__" => some function.doc
            | _ => none)
        | _, .builtIn other => builtInMember other name
        | _, _ => pure none
    | .int _ =>
      pure (match name with
        | "real" => some value
        | "numerator" => some value
        | "imag" => some (.int 0)
        | "denominator" => some (.int 1)
        | _ => none)
    | .float _ => pure (if name = "real" then some value else none)
    | .range start stop step =>
      pure (match name with
        | "start" => some (.int start)
        | "stop" => some (.int stop)
        | "step" => some (.int step)
        | _ => none)
    | .slice start stop step =>
      pure (match name with
        | "start" => some start
        | "stop" => some stop
        | "step" => some step
        | _ => none)
    | .tuple [major, minor, micro, .text level, serial] =>
      pure (match name with
        | "major" => some major
        | "minor" => some minor
        | "micro" => some micro
        | "releaselevel" => some (.text level)
        | "serial" => some serial
        | _ => none)
    | .object number => do
      match ← objectAt number with
      | .record type fields => recordMember caller value type fields name
      | .type typeName bases _ => typeMember value typeName bases name
      | .function function =>
        match name with
        | "__name__" => pure (some (.text function.name.toList))
        | "__qualname__" => pure (some (.text function.name.toList))
        | "__doc__" => pure (some function.doc)
        | "__module__" => pure (some (.text (ascii "__main__")))
        | name => do
          let key := "function." ++ toString number ++ "." ++ name
          pure (((← look (·.settings)).find? fun entry => entry.1 = key).map Prod.snd)
      | .file file =>
        match name with
        | "name" => pure (some file.name)
        | "mode" => pure (some (.text file.mode))
        | "closed" => pure (some (.bool file.isClosed))
        | "encoding" => pure (if file.isBinary then none else some (.text (ascii "utf-8")))
        | "errors" => pure (if file.isBinary then none else some (.text (ascii "strict")))
        | "newlines" => pure (if file.isBinary then none else some .nothing)
        | "buffer" => do
          if file.isBinary then pure none
          else pure (some (← make (.file { file with isBinary := true })))
        | "raw" => pure (some value)
        | _ => pure none
      | .buffer _ _ => pure (if name = "closed" then some (.bool false) else none)
      | .pattern source flags pattern =>
        match name with
        | "pattern" => pure (some source)
        | "flags" => pure (some (.int (if flags = 0 then 32 else flags)))
        | "groups" => pure (some (.int pattern.groups))
        | "groupindex" => do
          let pairs := pattern.names.map fun (name, number) => (Value.text name, Value.int number)
          pure (some (← make (.table .plain (← withPairs {} pairs))))
        | _ => pure none
      | .matched matched =>
        match name with
        | "string" => pure (some matched.subject)
        | "re" => pure (some matched.pattern)
        | "pos" => pure (some (.int 0))
        | "endpos" => pure (some (.int matched.chars.size))
        | "lastindex" =>
          let filled := (matched.found.groups.toList.zipIdx.filter fun entry => entry.1.isSome).map Prod.snd
          pure (some (match filled.getLast? with
            | some place => .int (place + 1)
            | none => .nothing))
        | _ => pure none
      | .queue _ most =>
        pure (if name = "maxlen" then
            some (match most with
              | some most => .int most
              | none => .nothing)
          else none)
      | .marked "super" (.tuple [owner, self]) => higherMember caller self owner name
      | .marked "cached" _ =>
        pure (match name with
          | "cache_clear" => some (.builtIn "functools.nothing")
          | "cache_info" => some (.builtIn "functools.nothing")
          | _ => none)
      | .partly function arguments _ =>
        pure (match name with
          | "func" => some function
          | "args" => some (.tuple arguments)
          | _ => none)
      | _ => pure none
    | _ => pure none
  match found with
  | some member => return member
  | none =>
    if (← functionsOf value).contains name then return .method value name
    else if name = "__class__" then typeOf value
    else if name = "__doc__" then return .nothing
    else if operationFunctions.contains name then
      match value with
      | .library _ => failMember value name
      | .builtIn _ => failMember value name
      | value => return .method value name
    else failMember value name

/-- Puts a value under a name behind a dot. -/
def putMember (caller : Caller) (value : Value) (name : String) (member : Value) : Running Unit := do
  match value with
  | .library library =>
    let key := library ++ "." ++ name
    change fun machine =>
      { machine with settings := (key, member) :: machine.settings.filter fun entry => entry.1 != key }
  | .object number =>
    match ← objectAt number with
    | .record type _ =>
      let property? : Option Value ← match ← typeField? type name with
        | some thing => do
          match ← object? thing with
          | some (.marked "property" inner) => pure (some inner)
          | _ => pure none
        | none => pure none
      match property? with
      | some (.tuple [_, setter]) =>
        let _ ← caller.call setter [value, member] []
      | some _ =>
        fail "AttributeError" (ascii ("property '" ++ name ++ "' of '" ++ (← typeName value)
          ++ "' object has no setter"))
      | none =>
        match ← typeField? type "__setattr__" with
        | some function =>
          let _ ← caller.call (.bound value function) [.text name.toList, member] []
        | none => putField number name member
    | .type _ _ _ => putField number name member
    | .function _ =>
      let key := "function." ++ toString number ++ "." ++ name
      change fun machine =>
        { machine with settings := (key, member) :: machine.settings.filter fun entry => entry.1 != key }
    | _ => failMember value name
  | value => failMember value name

/-- Takes away what stands behind a dot. -/
def deleteMember (value : Value) (name : String) : Running Unit := do
  match value with
  | .object number =>
    match ← objectAt number with
    | .record type fields =>
      if fields.any fun field => field.1 = name then
        putObject number (.record type (fields.filter fun field => field.1 != name))
      else failMember value name
    | .type own bases fields =>
      putObject number (.type own bases (fields.filter fun field => field.1 != name))
    | _ => failMember value name
  | value => failMember value name

/-! ## Calls -/

/-- The bytes of a whole number. -/
def intBytes (n : Int) (length : Nat) (isLittle isSigned : Bool) : Running Value := do
  let bound : Int := (Nat.pow 256 length : Nat)
  if n < 0 && !isSigned then fail "OverflowError" (ascii "can't convert negative int to unsigned")
  else if bound ≤ n || (isSigned && (bound ≤ 2 * n || 2 * n < -bound)) then
    fail "OverflowError" (ascii "int too big to convert")
  else return .bytes (if isLittle then littleBytes length (Int.emod n bound).toNat
    else (littleBytes length (Int.emod n bound).toNat).reverse)

/-- Calls a function of a whole number. -/
def callInt (caller : Caller) (n : Int) (name : String) (arguments : List Value)
    (named : List (String × Value)) : Running Value := do
  match name with
  | "bit_length" => return .int (if n = 0 then 0 else (Nat.log2 n.natAbs + 1 : Nat))
  | "bit_count" => return .int ((Nat.toDigits 2 n.natAbs).filter (· = '1')).length
  | "to_bytes" =>
    let slots ← slotsFor "to_bytes" ["length", "byteorder", "signed"] arguments named
    let length ← intSlot slots 0 1
    let isSigned ← truth caller (slot slots 2)
    let isLittle : Bool := match slot slots 1 with
      | .text text => text = ascii "little"
      | _ => false
    intBytes n length.toNat isLittle isSigned
  | "is_integer" => return .bool true
  | "as_integer_ratio" => return .tuple [.int n, .int 1]
  | _ => return .int n

/-- The whole number that bytes stand for. -/
def intOfBytes (caller : Caller) (arguments : List Value) (named : List (String × Value)) :
    Running Value := do
  let slots ← slotsFor "from_bytes" ["bytes", "byteorder", "signed"] arguments named
  let isSigned ← truth caller (slot slots 2)
  match slot slots 0 with
  | .bytes bytes =>
    let isLittle : Bool := match slot slots 1 with
      | .text text => text = ascii "little"
      | _ => false
    let bytes := if isLittle then bytes.reverse else bytes
    let n := bytes.foldl (fun (n : Nat) c => n * 256 + c.toNat) 0
    let bound := Nat.pow 256 bytes.length
    let value : Int := if isSigned && bound ≤ 2 * n then (n : Int) - (bound : Int) else n
    return .int value
  | other => failType (ascii ("cannot convert '" ++ (← typeName other) ++ "' object to bytes"))

/-- Calls a function that an operation stands for. -/
def callOperation (caller : Caller) (self : Value) (name : String) (arguments : List Value) :
    Running Value := do
  let first := (arguments.head?).getD .nothing
  match name with
  | "__len__" => return .int (← lengthOf caller self)
  | "__str__" => return .text (← plain caller self)
  | "__repr__" => return .text (← shown caller self)
  | "__iter__" => iteratorOf caller self
  | "__next__" =>
    match ← nextValue caller self with
    | some value => return value
    | none => raise (← makeException "StopIteration" [])
  | "__contains__" => return .bool (← holds caller self first)
  | "__getitem__" => itemOf caller self first
  | "__setitem__" =>
    putItem caller self first ((arguments[1]?).getD .nothing)
    return .nothing
  | "__delitem__" =>
    deleteItem caller self first
    return .nothing
  | "__add__" => operate caller .add self first
  | "__sub__" => operate caller .subtract self first
  | "__mul__" => operate caller .multiply self first
  | "__truediv__" => operate caller .divide self first
  | "__mod__" => operate caller .remainder self first
  | "__and__" => operate caller .and self first
  | "__or__" => operate caller .or self first
  | "__xor__" => operate caller .xor self first
  | "__eq__" => return .bool (same self first || (← equal caller self first))
  | "__ne__" => return .bool !(← equal caller self first)
  | "__lt__" => compared caller .less self first
  | "__le__" => compared caller .lessEqual self first
  | "__gt__" => compared caller .greater self first
  | "__ge__" => compared caller .greaterEqual self first
  | "__bool__" => return .bool (← truth caller self)
  | "__int__" => toInt caller self none
  | "__float__" => toFloat caller self
  | "__hash__" => return .int ((hash (← keyOf self)).toNat % 1000000007 : Nat)
  | "__format__" =>
    match first with
    | .text format => return .text (← formatted caller self format)
    | _ => return .text (← plain caller self)
  | "__enter__" => return self
  | "__exit__" =>
    match self, ← object? self with
    | .object number, some (.file file) => callFile caller number file "close" []
    | _, _ => return .nothing
  | "__call__" => caller.call self arguments []
  | name => failMember self name

/-- Calls what a value that is always there can do. -/
def callMethod (caller : Caller) (self : Value) (name : String) (arguments : List Value)
    (named : List (String × Value)) : Running Value := do
  let first := (arguments.head?).getD .nothing
  if name = "maketrans" then replacementTable arguments
  else if operationFunctions.contains name then callOperation caller self name arguments
  else
    match self with
    | .text text => callChars caller (memberOf caller) false text name arguments named
    | .bytes bytes => callChars caller (memberOf caller) true bytes name arguments named
    | .int n => callInt caller n name arguments named
    | .bool b => callInt caller (if b then 1 else 0) name arguments named
    | .float n =>
      match name with
      | "is_integer" => return .bool (n.floor == n)
      | _ => return self
    | .tuple items =>
      match name with
      | "count" =>
        let same ← items.filterM fun other => equal caller other first
        return .int same.length
      | _ =>
        match ← indexAmong caller first 0 items with
        | some place => return .int place
        | none => fail "ValueError" (ascii "tuple.index(x): x not in tuple")
    | .range start stop step =>
      let items := rangeItems start stop step
      match ← indexAmong caller first 0 items with
      | some place => return if name = "count" then .int 1 else .int place
      | none =>
        if name = "count" then return .int 0
        else fail "ValueError" ((← shown caller first) ++ ascii " is not in range")
    | .object number =>
      match ← objectAt number with
      | .list items => callList caller number items name arguments named
      | .queue items most => callQueue caller number items most name arguments
      | .table kind table =>
        if name = "fromkeys" then
          let pairs := (← items caller first).map fun key => (key, (arguments[1]?).getD .nothing)
          make (.table .plain (← withPairs {} pairs))
        else callTable caller number kind table name arguments named
      | .set isFrozen table => callSet caller number isFrozen table name arguments
      | .iterator kind row _ =>
        match name with
        | "send" => callOperation caller self "__next__" []
        | "throw" => raise first
        | _ =>
          putObject number (.iterator kind row row.size)
          return .nothing
      | .file file => callFile caller number file name arguments
      | .buffer pieces isBinary =>
        match name with
        | "writelines" =>
          for piece in ← items caller first do
            match ← objectAt number with
            | .buffer pieces isBinary =>
              let _ ← callBuffer caller number pieces isBinary "write" [piece]
            | _ => pure ()
          return .nothing
        | "tell" => return .int pieces.reverse.flatten.length
        | "isatty" => return .bool false
        | name => callBuffer caller number pieces isBinary name arguments
      | .pattern source _ pattern => callPattern caller self source pattern name arguments named
      | .matched matched => callMatched caller self matched name arguments named
      | .marked "property" inner =>
        let getter : Value := match inner with
          | .tuple (getter :: _) => getter
          | getter => getter
        match name with
        | "setter" => make (.marked "property" (.tuple [getter, first]))
        | _ => return self
      | .record _ _ =>
        match name with
        | "add_note" =>
          let notes ← match ← fieldOf? self "__notes__" with
            | some (.object notes) => do
              match ← objectAt notes with
              | .list items => pure items.toList
              | _ => pure []
            | _ => pure []
          putField number "__notes__" (← list (notes ++ [first]))
          return .nothing
        | "with_traceback" => return self
        | name => failMember self name
      | _ => failMember self name
    | value => failMember value name

/-- Calls a function of a type that is always there with its object as the first argument. -/
def callTypeFunction (caller : Caller) (type name : String) (arguments : List Value)
    (named : List (String × Value)) : Running Value := do
  let first := (arguments.head?).getD .nothing
  match type, name, arguments with
  | "dict", "fromkeys", keys :: rest =>
    let pairs := (← items caller keys).map fun key => (key, rest.head?.getD .nothing)
    make (.table .plain (← withPairs {} pairs))
  | "int", "from_bytes", _ => intOfBytes caller arguments named
  | "bytes", "fromhex", [.text text] =>
    let digits := text.filter fun c => !isSpaceChar c
    if digits.length % 2 = 0 && digits.all (ByteText.isDigitIn 16) then
      let rec pairs : List Char → ByteText
        | a :: b :: rest => Char.ofNat (ByteText.valueIn 16 [a, b]) :: pairs rest
        | _ => []
      return .bytes (pairs digits)
    else
      let good := (digits.takeWhile (ByteText.isDigitIn 16)).length
      fail "ValueError" (ascii ("non-hexadecimal number found in fromhex() arg at position "
        ++ toString good))
  | _, "maketrans", _ => replacementTable arguments
  | _, "__init__", self :: arguments =>
    if ← isException self "BaseException" then
      if let .object number := self then putField number "args" (.tuple arguments)
    return .nothing
  | _, "__new__", type :: _ => make (.record type [])
  | _, "__setattr__", [.object number, .text name, value] =>
    putField number (String.ofList name) value
    return .nothing
  | _, "__getattribute__", [self, .text name] => memberOf caller self (String.ofList name)
  | "type", "mro", [self] => list (← kinds deepestType self)
  | "object", "__eq__", [a, b] => return .bool (same a b)
  | "object", "__repr__", [self] =>
    return .text (ascii ("<" ++ (← typeName self) ++ " object at 0x7f0000000000>"))
  | _, _, [] =>
    failType (ascii ("unbound method " ++ type ++ "." ++ name ++ "() needs an argument"))
  | _, _, _ :: rest => callMethod caller first name rest named

end Running

end SchemaDocs.Shell.Indent
