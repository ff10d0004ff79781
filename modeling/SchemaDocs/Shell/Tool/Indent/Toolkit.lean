import SchemaDocs.Shell.Tool.Indent.Outside
/-!
# Libraries of helpers

Patterns, data and its notations, tables that count, functions of functions, objects with given
fields, and paths as objects.
-/

namespace SchemaDocs.Shell.Indent

namespace Running

open Tool (Alphabet)

/-- The type of a library with some functions, which is made when it is first needed. -/
def libraryType (name : String) (functions : List String) : Running Value := do
  match ← setting? ("type." ++ name) with
  | some type => return type
  | none =>
    let type ← make (.type (Show.lastPart name) []
      (functions.map fun function => (function, .builtIn (name ++ "." ++ function))))
    putSetting ("type." ++ name) type
    return type

/-- The argument under a name. -/
def namedArgument (named : List (String × Value)) (name : String) : Value :=
  ((named.find? fun entry => entry.1 = name).map Prod.snd).getD .nothing

/-! ## Patterns -/

/-- A text in which all that means something in a pattern stands for itself. -/
def escapedPattern (text : List Char) : List Char :=
  text.flatMap fun c =>
    if (ascii "()[]\x7b\x7d?*+-|^$\\.&~# \t\n\x0d\x0b\x0c").contains c then ['\\', c] else [c]

/-- Calls a function of the library for patterns. -/
def callExpression (caller : Caller) (name : String) (arguments : List Value)
    (named : List (String × Value)) : Running Value := do
  match name, arguments with
  | "escape", .text text :: _ => return .text (escapedPattern text)
  | "escape", .bytes text :: _ => return .bytes (escapedPattern text)
  | "purge", _ => return .nothing
  | "compile", _ =>
    let slots ← slotsFor "compile" ["pattern", "flags"] arguments named
    patternOf (slot slots 0) (← intSlot slots 1 0).toNat
  | name, _ =>
    let names :=
      if name = "sub" || name = "subn" then ["pattern", "repl", "string", "count", "flags"]
      else if name = "split" then ["pattern", "string", "maxsplit", "flags"]
      else ["pattern", "string", "flags"]
    let slots ← slotsFor name names arguments named
    let needed := if name = "sub" || name = "subn" then 3 else 2
    match (names.zip slots).take needed |>.zipIdx.find? fun entry => entry.1.2.isNone with
    | some ((missing, _), place) =>
      failType (ascii (name ++ "() missing " ++ toString (needed - place) ++ " required positional argument"
        ++ (if needed - place = 1 then "" else "s") ++ ": "
        ++ (if needed - place = 1 then "'" ++ missing ++ "'"
          else " and ".intercalate ((names.take needed).drop place |>.map fun name => "'" ++ name ++ "'"))))
    | none =>
      let flags ← intSlot slots (names.length - 1) 0
      let self ← patternOf (slot slots 0) flags.toNat
      match ← object? self with
      | some (.pattern source _ pattern) =>
        let inner := ((slots.drop 1).take (names.length - 2)).map fun value => value.getD .nothing
        callPattern caller self source pattern name inner []
      | _ => return .nothing

/-! ## Data -/

/-- Calls a function of the library for data. -/
def callData (caller : Caller) (name : String) (arguments : List Value) (named : List (String × Value)) :
    Running Value := do
  let first := (arguments.head?).getD .nothing
  let read (value : Value) : Running Value := do
    match value with
    | .text text => readData text
    | .bytes bytes => readData (decoded bytes)
    | other =>
      failType (ascii ("the JSON object must be str, bytes or bytearray, not " ++ (← typeName other)))
  match name with
  | "loads" => read first
  | "load" => read (← caller.call (← memberOf caller first "read") [] [])
  | "dumps" => return .text (← writeData caller (← dataStyle caller named) deepestShown 0 first)
  | _ =>
    let text ← writeData caller (← dataStyle caller named) deepestShown 0 first
    match arguments with
    | _ :: file :: _ =>
      let _ ← caller.call (← memberOf caller file "write") [.text text] []
      return .nothing
    | _ => failType (ascii "dump() missing 1 required positional argument: 'fp'")

/-- The bytes of an argument. -/
def bytesOf (value : Value) : Running ByteText := do
  match value with
  | .bytes bytes => return bytes
  | .text text => return encoded text
  | other => failType (ascii ("a bytes-like object is required, not '" ++ (← typeName other) ++ "'"))

/-- Calls a function of a library for notations of bytes. -/
def callNotation (name : String) (arguments : List Value) : Running Value := do
  let first := (arguments.head?).getD .nothing
  let strict : Running ByteText := do
    match first with
    | .text _ => failType (ascii "a bytes-like object is required, not 'str'")
    | value => bytesOf value
  let decode (alphabet : Alphabet) : Running Value := do
    let bytes ← bytesOf first
    let kept := bytes.filter fun c => alphabet.letters.contains c || c = '='
    let (text, isGood) := alphabet.decode kept
    if isGood then return .bytes text
    else fail "binascii.Error" (ascii "Incorrect padding")
  match name with
  | "b64encode" => return .bytes (Alphabet.sixtyFour.encode (← strict))
  | "standard_b64encode" => return .bytes (Alphabet.sixtyFour.encode (← strict))
  | "urlsafe_b64encode" => return .bytes (Alphabet.addressSafe.encode (← strict))
  | "encodebytes" =>
    let text := Alphabet.sixtyFour.encode (← strict)
    let rec cut : Nat → List Char → List Char
      | 0, text => text
      | fuel + 1, text =>
        if text.isEmpty then [] else text.take 76 ++ ['\n'] ++ cut fuel (text.drop 76)
    return .bytes (cut (text.length + 1) text)
  | "b32encode" => return .bytes (Alphabet.thirtyTwo.encode (← strict))
  | "b16encode" => return .bytes (Alphabet.sixteen.encode (← strict))
  | "b64decode" => decode .sixtyFour
  | "standard_b64decode" => decode .sixtyFour
  | "urlsafe_b64decode" => decode .addressSafe
  | "b32decode" => decode .thirtyTwo
  | "b16decode" => decode .sixteen
  | "hexlify" => return .bytes ((← strict).flatMap fun c => twoDigits c.toNat)
  | "b2a_hex" => return .bytes ((← strict).flatMap fun c => twoDigits c.toNat)
  | "unhexlify" => return .bytes (pairs (← bytesOf first))
  | "a2b_hex" => return .bytes (pairs (← bytesOf first))
  | "crc32" => return .int (Digest.cyclicCheck (← strict)).toNat
  | _ =>
    let (a, b) := (← strict).foldl (fun ((a, b) : Nat × Nat) c =>
      let a := (a + c.toNat) % 65521
      (a, (b + a) % 65521)) (1, 0)
    return .int (b * 65536 + a : Nat)
where
  /-- The bytes that pairs of digits stand for. -/
  pairs : List Char → ByteText
    | a :: b :: rest => Char.ofNat (ByteText.valueIn 16 [a, b]) :: pairs rest
    | _ => []
  /-- A byte as two digits. -/
  twoDigits (n : Nat) : ByteText :=
    let digits := ByteText.digitsIn 16 n
    if digits.length < 2 then '0' :: digits else digits

/-- The digest of bytes under a name. -/
def digestBytes? (name : String) (bytes : ByteText) : Option (List Nat) :=
  match name with
  | "md5" => some (Digest.md5 bytes)
  | "sha1" => some (Digest.sha1 bytes)
  | "sha224" => some (Digest.sha224 bytes)
  | "sha256" => some (Digest.sha256 bytes)
  | "sha384" => some (Digest.sha384 bytes)
  | "sha512" => some (Digest.sha512 bytes)
  | _ => none

/-- Calls a function of the library for digests, or one of a digest. -/
def callDigest (name : String) (arguments : List Value) : Running Value := do
  let start (name : String) (bytes : Value) : Running Value := do
    let bytes ← match bytes with
      | .nothing => pure []
      | .text _ => failType (ascii "Strings must be encoded before hashing")
      | value => bytesOf value
    if (digestBytes? name []).isSome then
      let type ← libraryType "hashlib.Hash" ["update", "digest", "hexdigest"]
      make (.record type
        [("name", .text name.toList), ("_bytes", .bytes bytes)])
    else fail "ValueError" (ascii ("unsupported hash type " ++ name))
  match name, arguments with
  | "new", .text name :: rest => start (String.ofList name) (rest.head?.getD .nothing)
  | "Hash.update", [self, bytes] =>
    match self, ← fieldOf? self "_bytes" with
    | .object number, some (.bytes before) =>
      putField number "_bytes" (.bytes (before ++ (← bytesOf bytes)))
      return .nothing
    | _, _ => return .nothing
  | "Hash.digest", self :: _ => return .bytes ((← result self).map Char.ofNat)
  | "Hash.hexdigest", self :: _ => return .text (Digest.hex (← result self))
  | name, _ => start name ((arguments.head?).getD .nothing)
where
  /-- What a digest comes to. -/
  result (self : Value) : Running (List Nat) := do
    match ← fieldOf? self "name", ← fieldOf? self "_bytes" with
    | some (.text name), some (.bytes bytes) => return (digestBytes? (String.ofList name) bytes).getD []
    | _, _ => return []

/-! ## Functions of functions -/

/-- The key under which the result of a call is kept. -/
def callKey (arguments : List Value) (named : List (String × Value)) : Running Key :=
  keyOf (.tuple (arguments ++ named.map fun (name, value) => .tuple [.text name.toList, value]))

/-- Calls a function of the library for functions. -/
def callFunctions (caller : Caller) (name : String) (arguments : List Value)
    (named : List (String × Value)) : Running Value := do
  match name, arguments with
  | "reduce", function :: values :: start =>
    let values ← items caller values
    match start, values with
    | first :: _, values => values.foldlM (fun sum value => caller.call function [sum, value] []) first
    | [], first :: rest => rest.foldlM (fun sum value => caller.call function [sum, value] []) first
    | [], [] => failType (ascii "reduce() of empty iterable with no initial value")
  | "partial", function :: rest => make (.partly function rest named)
  | "kept", table :: function :: rest =>
    let key ← callKey rest named
    match ← object? table with
    | some (.table _ known) =>
      match known.find? key with
      | some value => return value
      | none =>
        let value ← caller.call function rest named
        match table, ← object? table with
        | .object number, some (.table kind known) =>
          putObject number (.table kind (known.insert key .nothing value))
        | _, _ => pure ()
        return value
    | _ => caller.call function rest named
  | "lru_cache", [.object number] =>
    let table ← make (.table .plain {})
    let inner ← make (.partly (.builtIn "functools.kept") [table, .object number] [])
    make (.marked "cached" inner)
  | "lru_cache", _ => return .builtIn "functools.cache"
  | "cache", [function] => callCache function
  | "wraps", [function] => make (.partly (.builtIn "functools.named") [function] [])
  | "update_wrapper", wrapper :: _ => return wrapper
  | "named", [function, wrapper] =>
    match function, wrapper with
    | .object number, .object other =>
      match ← objectAt number, ← objectAt other with
      | .function known, .function own =>
        putObject other (.function { own with name := known.name, doc := known.doc })
      | _, _ => pure ()
    | _, _ => pure ()
    return wrapper
  | "cached_property", [function] => make (.marked "cached_property" function)
  | "total_ordering", [type] => return type
  | "cmp_to_key", [function] => make (.partly (.builtIn "functools.keyed") [function] [])
  | "keyed", [function, value] =>
    let type ← libraryType "functools.Key" ["__lt__", "__gt__", "__eq__"]
    make (.record type [("function", function), ("value", value)])
  | "Key.__lt__", [a, b] => compareKeys a b (· < 0)
  | "Key.__gt__", [a, b] => compareKeys a b (0 < ·)
  | "Key.__eq__", [a, b] => compareKeys a b (· = 0)
  | "nothing", _ => return .nothing
  | name, _ => failType (ascii (name ++ "() was given the wrong arguments"))
where
  /-- Makes a function that keeps its results. -/
  callCache (function : Value) : Running Value := do
    let table ← make (.table .plain {})
    let inner ← make (.partly (.builtIn "functools.kept") [table, function] [])
    make (.marked "cached" inner)
  /-- Compares two values by a function. -/
  compareKeys (a b : Value) (holds : Int → Bool) : Running Value := do
    match ← fieldOf? a "function", ← fieldOf? a "value", ← fieldOf? b "value" with
    | some function, some x, some y =>
      let n ← caller.call function [x, y] []
      return .bool (holds ((int? n).getD 0))
    | _, _, _ => return .bool false

/-- Calls a function of the library for operations. -/
def callOperators (caller : Caller) (name : String) (arguments : List Value) : Running Value := do
  let follow (value : Value) (path : List Char) : Running Value :=
    (ByteText.splitAt '.' path).foldlM (fun value name => memberOf caller value (String.ofList name)) value
  match name, arguments with
  | "itemgetter", _ => make (.partly (.builtIn "operator.items") [.tuple arguments] [])
  | "items", [.tuple [index], value] => itemOf caller value index
  | "items", [.tuple indices, value] => return .tuple (← indices.mapM (itemOf caller value))
  | "attrgetter", _ => make (.partly (.builtIn "operator.members") [.tuple arguments] [])
  | "members", [.tuple [.text path], value] => follow value path
  | "members", [.tuple paths, value] =>
    return .tuple (← paths.mapM fun path => do
      match path with
      | .text path => follow value path
      | _ => return .nothing)
  | "methodcaller", _ => make (.partly (.builtIn "operator.calls") [.tuple arguments] [])
  | "calls", [.tuple (.text name :: rest), value] =>
    caller.call (← memberOf caller value (String.ofList name)) rest []
  | "add", [a, b] => operate caller .add a b
  | "concat", [a, b] => operate caller .add a b
  | "sub", [a, b] => operate caller .subtract a b
  | "mul", [a, b] => operate caller .multiply a b
  | "truediv", [a, b] => operate caller .divide a b
  | "floordiv", [a, b] => operate caller .floorDivide a b
  | "mod", [a, b] => operate caller .remainder a b
  | "pow", [a, b] => operate caller .power a b
  | "and_", [a, b] => operate caller .and a b
  | "or_", [a, b] => operate caller .or a b
  | "xor", [a, b] => operate caller .xor a b
  | "eq", [a, b] => compared caller .equal a b
  | "ne", [a, b] => compared caller .notEqual a b
  | "lt", [a, b] => compared caller .less a b
  | "le", [a, b] => compared caller .lessEqual a b
  | "gt", [a, b] => compared caller .greater a b
  | "ge", [a, b] => compared caller .greaterEqual a b
  | "neg", [a] => prefixedValue caller .minus a
  | "not_", [a] => return .bool !(← truth caller a)
  | "truth", [a] => return .bool (← truth caller a)
  | "contains", [a, b] => return .bool (← holds caller a b)
  | "getitem", [a, b] => itemOf caller a b
  | name, several =>
    failType (ascii (name ++ " expected 2 arguments, got " ++ toString several.length))

/-! ## Tables and rows -/

/-- The type with a name whose objects are rows with named places. -/
def rowType (name : String) (fields : List Value) (defaults : List Value) : Running Value := do
  let functions := ["__init__", "__iter__", "__getitem__", "__len__", "__repr__", "__eq__", "_asdict",
    "_replace"]
  make (.type name [] ([("_fields", .tuple fields), ("_field_defaults", .tuple defaults)]
    ++ functions.map fun function => (function, .builtIn ("collections.Row." ++ function))))

/-- The values of a row with named places. -/
def rowValues (self : Value) : Running (List (String × Value)) := do
  match ← typeField? (← typeOf self) "_fields" with
  | some (.tuple names) =>
    names.mapM fun name => do
      match name with
      | .text name => return (String.ofList name, (← fieldOf? self (String.ofList name)).getD .nothing)
      | _ => return ("", .nothing)
  | _ => return []

/-- Fails because arguments are missing. -/
def failMissing {α : Type} (function : String) (isNamed : Bool) (names : List String) : Running α := do
  let quoted := names.map fun name => "'" ++ name ++ "'"
  let listed := match quoted.reverse with
    | [] => ""
    | [only] => only
    | [last, first] => first ++ " and " ++ last
    | last :: rest => ", ".intercalate rest.reverse ++ ", and " ++ last
  failType (ascii (function ++ "() missing " ++ toString names.length ++ " required "
    ++ (if isNamed then "keyword-only" else "positional") ++ " argument"
    ++ (if names.length = 1 then "" else "s") ++ ": ") ++ listed.toList)

/-- Calls a function of the library for tables and rows. -/
def callCollections (caller : Caller) (name : String) (arguments : List Value)
    (named : List (String × Value)) : Running Value := do
  match name, arguments with
  | "Counter", _ =>
    let table ← arguments.foldlM (fun table value => withCounts caller table value 1) ({} : Table)
    make (.table .counter (← withPairs table (namedPairs named)))
  | "OrderedDict", _ =>
    let table ← arguments.foldlM (fun table value => do
      withPairs table (← pairsOf caller value)) ({} : Table)
    make (.table .plain (← withPairs table (namedPairs named)))
  | "defaultdict", _ =>
    let maker := (arguments.head?).getD .nothing
    let table ← (arguments.drop 1).foldlM (fun table value => do
      withPairs table (← pairsOf caller value)) ({} : Table)
    let table ← withPairs table (namedPairs named)
    match maker with
    | .nothing => make (.table .plain table)
    | maker => make (.table (.withDefault maker) table)
  | "deque", _ =>
    let values ← match arguments with
      | values :: _ => items caller values
      | [] => pure []
    let most := ((arguments[1]?).or ((named.find? fun entry => entry.1 = "maxlen").map Prod.snd)).bind int?
    let values := match most with
      | some most => values.drop (values.length - most.toNat)
      | none => values
    make (.queue values.toArray (most.map Int.toNat))
  | "namedtuple", .text name :: fields :: _ =>
    let fields ← match fields with
      | .text text =>
        pure ((ByteText.words (text.map fun c => if c = ',' then ' ' else c)).map Value.text)
      | values => items caller values
    let defaults ← match namedArgument named "defaults" with
      | .nothing => pure []
      | values => items caller values
    rowType (String.ofList name) fields defaults
  | "Row.__init__", self :: values =>
    let type ← typeOf self
    let names ← match ← typeField? type "_fields" with
      | some (.tuple names) => pure (names.filterMap fun name =>
          match name with
          | .text name => some (String.ofList name)
          | _ => none)
      | _ => pure []
    let defaults ← match ← typeField? type "_field_defaults" with
      | some (.tuple values) => pure values
      | _ => pure []
    if names.length < values.length then
      failType (ascii ((← typeName self) ++ ".__new__() takes " ++ toString (names.length + 1)
        ++ " positional arguments but " ++ toString (values.length + 1) ++ " were given"))
    let filled := names.zipIdx.map fun (name, place) =>
      let given := (values[place]?).or ((named.find? fun entry => entry.1 = name).map Prod.snd)
      let usual : Option Value :=
        if names.length ≤ place + defaults.length then defaults[place + defaults.length - names.length]?
        else none
      (name, given.or usual)
    let missing := (filled.filter fun entry => entry.2.isNone).map Prod.fst
    if !missing.isEmpty then failMissing ((← typeName self) ++ ".__new__") false missing
    for (name, value) in filled do
      if let .object number := self then putField number name (value.getD .nothing)
    return .nothing
  | "Row.__iter__", [self] => giver "tuple_iterator" ((← rowValues self).map Prod.snd)
  | "Row.__getitem__", [self, index] => itemOf caller (.tuple ((← rowValues self).map Prod.snd)) index
  | "Row.__len__", [self] => return .int (← rowValues self).length
  | "Row.__repr__", [self] =>
    let texts ← (← rowValues self).mapM fun (name, value) => do
      return name.toList ++ ['='] ++ (← shown caller value)
    return .text ((← typeName self).toList ++ ['('] ++ Show.commas texts ++ [')'])
  | "Row.__eq__", [self, other] =>
    let values ← match other with
      | .tuple values => pure values
      | other => do pure ((← rowValues other).map Prod.snd)
    return .bool (← equal caller (.tuple ((← rowValues self).map Prod.snd)) (.tuple values))
  | "Row._asdict", [self] => make (.table .plain (← withPairs {} (namedPairs (← rowValues self))))
  | "Row._replace", [self] =>
    let fields := (← rowValues self).map fun (name, value) =>
      (name, ((named.find? fun entry => entry.1 = name).map Prod.snd).getD value)
    make (.record (← typeOf self) fields)
  | name, _ => failType (ascii (name ++ "() was given the wrong arguments"))

/-! ## Objects with given fields -/

/-- The names of the fields that objects of a type are made of. -/
def dataFields (type : Value) : Running (List String) := do
  let line ← kinds deepestType type
  let all ← line.reverse.mapM fun kind => do
    match ← object? kind with
    | some (.type _ _ fields) =>
      match (fields.find? fun field => field.1 = "__annotations__").map Prod.snd with
      | some (.tuple names) => return names.filterMap fun name =>
          match name with
          | .text name => some (String.ofList name)
          | _ => none
      | _ => return []
    | _ => return []
  return all.flatten.foldl (fun names name => if names.contains name then names else names ++ [name]) []

/-- Calls a function of the library for objects with given fields. -/
def callDataTypes (caller : Caller) (name : String) (arguments : List Value)
    (named : List (String × Value)) : Running Value := do
  match name, arguments with
  | "dataclass", [.object number] =>
    match ← objectAt number with
    | .type own bases fields =>
      let functions := ["__init__", "__repr__", "__eq__"].filter fun function =>
        !fields.any fun field => field.1 = function
      let isOrdered := ["__lt__", "__gt__", "__le__", "__ge__"]
      let all := functions ++ isOrdered.filter fun function => !fields.any fun field => field.1 = function
      putObject number (.type own bases (fields ++ all.map fun function =>
        (function, .builtIn ("dataclasses.Data." ++ function))))
      return .object number
    | _ => return .object number
  | "dataclass", _ => return .builtIn "dataclasses.dataclass"
  | "field", _ =>
    make (.record (.builtIn "dataclasses.Field") named)
  | "Data.__init__", self :: values =>
    let type ← typeOf self
    let names ← dataFields type
    let own := (← typeName self) ++ ".__init__"
    if names.length < values.length then
      failType (ascii (own ++ "() takes " ++ toString (names.length + 1) ++ " positional argument"
        ++ (if names.isEmpty then "" else "s") ++ " but " ++ toString (values.length + 1) ++ " were given"))
    match named.find? fun entry => !names.contains entry.1 with
    | some (name, _) =>
      failType (ascii (own ++ "() got an unexpected keyword argument '" ++ name ++ "'"))
    | none =>
      let filled ← names.zipIdx.mapM fun (name, place) => do
        match (values[place]?).or ((named.find? fun entry => entry.1 = name).map Prod.snd) with
        | some value => return (name, some value)
        | none =>
          match ← typeField? type name with
          | none => return (name, none)
          | some usual =>
            match ← object? usual with
            | some (.record (.builtIn "dataclasses.Field") fields) =>
              match fields.find? fun field => field.1 = "default_factory" with
              | some (_, factory) => return (name, some (← caller.call factory [] []))
              | none => return (name, (fields.find? fun field => field.1 = "default").map Prod.snd)
            | _ => return (name, some usual)
      let missing := (filled.filter fun entry => entry.2.isNone).map Prod.fst
      if !missing.isEmpty then failMissing own false missing
      for (name, value) in filled do
        if let .object number := self then putField number name (value.getD .nothing)
      match ← typeField? type "__post_init__" with
      | some function =>
        let _ ← caller.call (.bound self function) [] []
      | none => pure ()
      return .nothing
  | "Data.__repr__", [self] =>
    let texts ← (← dataFields (← typeOf self)).mapM fun name => do
      return name.toList ++ ['='] ++ (← shown caller ((← fieldOf? self name).getD .nothing))
    return .text ((← typeName self).toList ++ ['('] ++ Show.commas texts ++ [')'])
  | "Data.__eq__", [self, other] =>
    if isSameType (← typeOf self) (← typeOf other) then
      return .bool (← equal caller (← values self) (← values other))
    else return .notImplemented
  | "Data.__lt__", [a, b] => compared caller .less (← values a) (← values b)
  | "Data.__le__", [a, b] => compared caller .lessEqual (← values a) (← values b)
  | "Data.__gt__", [a, b] => compared caller .greater (← values a) (← values b)
  | "Data.__ge__", [a, b] => compared caller .greaterEqual (← values a) (← values b)
  | "asdict", [self] =>
    let pairs ← (← dataFields (← typeOf self)).mapM fun name => do
      return (name, (← fieldOf? self name).getD .nothing)
    make (.table .plain (← withPairs {} (namedPairs pairs)))
  | "astuple", [self] => values self
  | "replace", [self] =>
    let fields ← (← dataFields (← typeOf self)).mapM fun name => do
      return (name, ((named.find? fun entry => entry.1 = name).map Prod.snd).getD
        ((← fieldOf? self name).getD .nothing))
    make (.record (← typeOf self) fields)
  | "fields", [self] =>
    let type ← match ← object? self with
      | some (.type _ _ _) => pure self
      | _ => typeOf self
    let all ← (← dataFields type).mapM fun name =>
      make (.record (.builtIn "dataclasses.Field") [("name", .text name.toList)])
    return .tuple all
  | name, _ => failType (ascii (name ++ "() was given the wrong arguments"))
where
  /-- The values of all fields. -/
  values (self : Value) : Running Value := do
    let names ← dataFields (← typeOf self)
    return .tuple (← names.mapM fun name => do return (← fieldOf? self name).getD .nothing)

/-! ## Paths as objects -/

/-- The functions of paths as objects. -/
def pathFunctions : List String :=
  ["read_text", "write_text", "read_bytes", "write_bytes", "exists", "is_file", "is_dir", "mkdir",
   "unlink", "open", "iterdir", "with_suffix", "with_name", "joinpath", "resolve", "absolute",
   "as_posix", "touch", "__truediv__", "__rtruediv__", "__repr__", "__str__", "__eq__", "__hash__",
   "__lt__", "__fspath__"]

/-- Makes a path. -/
def makePath (path : List Char) : Running Value := do
  let type ← match ← setting? "type.pathlib.Path" with
    | some type => pure type
    | none => do
      let properties ← ["name", "stem", "suffix", "parent", "parts"].mapM fun name => do
        return (name, ← make (.marked "property" (.builtIn ("pathlib.Path." ++ name))))
      let type ← make (.type "PosixPath" [] (properties ++ pathFunctions.map fun function =>
        (function, .builtIn ("pathlib.Path." ++ function))))
      putSetting "type.pathlib.Path" type
      pure type
  let steps := (ByteText.splitAt '/' path).filter fun step => !step.isEmpty && step != ['.']
  let text := (steps.intersperse ['/']).flatten
  let text := if path.head? = some '/' then '/' :: text else if text.isEmpty then ['.'] else text
  make (.record type [("_path", .text text)])

/-- Calls a function of the library for paths as objects. -/
def callPaths (caller : Caller) (name : String) (arguments : List Value)
    (named : List (String × Value)) : Running Value := do
  let self := (arguments.head?).getD .nothing
  let second := (arguments[1]?).getD .nothing
  let own : Running (List Char) := pathText self
  match name with
  | "Path" => makePath (joinPaths (← arguments.mapM pathText))
  | "PurePath" => makePath (joinPaths (← arguments.mapM pathText))
  | "Path.cwd" => makePath (← currentDirectory)
  | "Path.name" => return .text (lastName (← own))
  | "Path.stem" => return .text (splitEnding (lastName (← own))).1
  | "Path.suffix" => return .text (splitEnding (lastName (← own))).2
  | "Path.parent" => makePath (parentPath (← own))
  | "Path.parts" =>
    let path ← own
    let steps := (ByteText.splitAt '/' path).filter fun step => !step.isEmpty
    return .tuple ((if path.head? = some '/' then [.text ['/']] else []) ++ steps.map Value.text)
  | "Path.__truediv__" => makePath (joinPaths [← own, ← pathText second])
  | "Path.__rtruediv__" => makePath (joinPaths [← pathText second, ← own])
  | "Path.joinpath" => makePath (joinPaths (← arguments.mapM pathText))
  | "Path.__repr__" => return .text (ascii "PosixPath(" ++ Show.quoted false (← own) ++ [')'])
  | "Path.__str__" => return .text (← own)
  | "Path.__fspath__" => return .text (← own)
  | "Path.as_posix" => return .text (← own)
  | "Path.__hash__" => return .int 1
  | "Path.__eq__" =>
    match ← fieldOf? second "_path" with
    | some (.text other) => return .bool (other = (← own))
    | _ => return .bool false
  | "Path.__lt__" => return .bool (decide ((← own) < (← pathText second)))
  | "Path.resolve" => makePath (← absolutePath (← own))
  | "Path.absolute" => makePath (← absolutePath (← own))
  | "Path.read_text" =>
    return .text (withPlainLines (← decodeUsual (ascii "strict") (← readAllAt (.text (← own)))))
  | "Path.read_bytes" => return .bytes (← readAllAt (.text (← own)))
  | "Path.write_text" =>
    match second with
    | .text text =>
      writeAllAt (.text (← own)) false (encoded text)
      return .int text.length
    | other => failType (ascii ("data must be str, not " ++ (← typeName other)))
  | "Path.write_bytes" =>
    let bytes ← bytesOf second
    writeAllAt (.text (← own)) false bytes
    return .int bytes.length
  | "Path.touch" =>
    writeAllAt (.text (← own)) true []
    return .nothing
  | "Path.exists" => return .bool ((← kindAt (encoded (← own))) != .missing)
  | "Path.is_file" => return .bool ((← kindAt (encoded (← own))) = .file)
  | "Path.is_dir" => return .bool ((← kindAt (encoded (← own))) = .directory)
  | "Path.mkdir" =>
    let allows ← truth caller (namedArgument named "exist_ok")
    let path ← own
    if allows && (← kindAt (encoded path)) = .directory then return .nothing
    else
      callSystem caller (if ← truth caller (namedArgument named "parents") then "makedirs" else "mkdir")
        [.text path] []
  | "Path.unlink" =>
    removeAt (.text (← own))
    return .nothing
  | "Path.open" =>
    let mode := match second with
      | .text mode => mode
      | _ => ['r']
    openFile (.text (← own)) mode
  | "Path.iterdir" =>
    let path ← own
    let names ← namesAt (.text path)
    giver "generator" (← names.mapM fun name => makePath (joinPaths [path, name]))
  | "Path.with_suffix" =>
    let path ← own
    makePath ((splitEnding path).1 ++ (← pathText second))
  | "Path.with_name" =>
    let path ← own
    makePath (joinPaths [parentPath path, ← pathText second])
  | name => failMember (.library "pathlib") name

/-! ## Texts -/

/-- Calls a function of the library for filling texts. -/
def callFilling (caller : Caller) (name : String) (arguments : List Value)
    (named : List (String × Value)) : Running Value := do
  let text ← match arguments with
    | .text text :: _ => pure text
    | other :: _ => failType (ascii ("expected string, got '" ++ (← typeName other) ++ "'"))
    | [] => failType (ascii (name ++ "() missing 1 required positional argument: 'text'"))
  let width := (((arguments[1]?).bind int?).or (int? (namedArgument named "width"))).getD 70
  let mark (name : String) : List Char := match namedArgument named name with
    | .text text => text
    | _ => []
  let breaks ← match namedArgument named "break_long_words" with
    | .nothing => pure true
    | value => truth caller value
  let style : FillStyle :=
    { width := width.toNat, first := mark "initial_indent", later := mark "subsequent_indent"
      breaksLong := breaks }
  match name with
  | "dedent" => return .text (dedented text)
  | "indent" =>
    let front := match (arguments[1]?).getD (namedArgument named "prefix") with
      | .text front => front
      | _ => []
    return .text (indented front text)
  | "wrap" => list ((wrapped style text).map Value.text)
  | "fill" => return .text ((wrapped style text).intersperse ['\n']).flatten
  | _ =>
    let words := ByteText.words text
    let whole := (words.intersperse [' ']).flatten
    let holder := match namedArgument named "placeholder" with
      | .text holder => holder
      | _ => ascii " [...]"
    if whole.length ≤ width.toNat then return .text whole
    else
      let fitting := (List.range (words.length + 1)).filter fun count =>
        ((words.take count).intersperse [' ']).flatten.length + holder.length ≤ width.toNat
      let count := fitting.getLast?.getD 0
      let front := ((words.take count).intersperse [' ']).flatten
      return .text (if count = 0 then holder.dropWhile (· = ' ') else front ++ holder)

/-- Calls a function of a library for small things. -/
def callSmall (caller : Caller) (library name : String) (arguments : List Value)
    (named : List (String × Value)) : Running Value := do
  let first := (arguments.head?).getD .nothing
  let second := (arguments[1]?).getD .nothing
  let textArgument : Running (List Char) := do
    match first with
    | .text text => return text
    | other => failType (ascii ("expected str, not " ++ (← typeName other)))
  match library, name with
  | "string", "capwords" =>
    let words := ByteText.words (← textArgument)
    let capital (word : List Char) : List Char :=
      match word with
      | c :: rest => Text.upperOf c ++ (rest.map Text.lowerOf).flatten
      | [] => []
    return .text ((words.map capital).intersperse [' ']).flatten
  | "html", "escape" =>
    let isQuoted ← match arguments[1]?.or ((named.find? fun entry => entry.1 = "quote").map Prod.snd) with
      | some value => truth caller value
      | none => pure true
    return .text (escapedMarks isQuoted (← textArgument))
  | "html", "unescape" =>
    let text ← textArgument
    return .text (unescapedMarks (text.length + 1) text)
  | "copy", "copy" => copied false 1 first
  | "copy", "deepcopy" => copied true 100 first
  | "types", "SimpleNamespace" => make (.record (.builtIn "types.SimpleNamespace") named)
  | "io", "StringIO" =>
    match first with
    | .text text => make (.buffer [encoded text] false)
    | _ => make (.buffer [] false)
  | "io", "BytesIO" =>
    match first with
    | .bytes bytes => make (.buffer [bytes] true)
    | _ => make (.buffer [] true)
  | "io", "TextIOWrapper" =>
    match ← object? first with
    | some (.file file) => make (.file { file with isBinary := false })
    | _ => return first
  | "io", "open" => caller.call (.builtIn "open") arguments named
  | "codecs", "open" => caller.call (.builtIn "open") arguments named
  | "codecs", "encode" => caller.call (.method first "encode") (arguments.drop 1) named
  | "codecs", "decode" => caller.call (.method first "decode") (arguments.drop 1) named
  | "shlex", "quote" => return .text (shellWord (← textArgument))
  | "shlex", "split" =>
    let text ← textArgument
    match shellWords (text.length + 1) text none [] with
    | some words => list (words.map Value.text)
    | none => fail "ValueError" (ascii "No closing quotation")
  | "shlex", "join" =>
    let words ← (← items caller first).mapM fun value => do
      match value with
      | .text text => return shellWord text
      | other => failType (ascii ("expected string or bytes-like object, got '" ++ (← typeName other) ++ "'"))
    return .text ((words.intersperse [' ']).flatten)
  | "atexit", "register" =>
    change fun machine => { machine with endings := (first, arguments.drop 1) :: machine.endings }
    return first
  | "contextlib", "suppress" =>
    make (.record (.builtIn "contextlib.suppress") [("kinds", .tuple arguments)])
  | "contextlib", name => make (.record (.builtIn ("contextlib." ++ name)) [("value", first)])
  | "traceback", "format_exc" =>
    match (← look (·.handled)).head? with
    | some exception => return .text (← traceText caller longestChain exception (← wayOf exception))
    | none => return .text (ascii "NoneType: None\n")
  | "traceback", "print_exc" =>
    match (← look (·.handled)).head? with
    | some exception => writeError (← traceText caller longestChain exception (← wayOf exception))
    | none => writeError (ascii "NoneType: None\n")
    return .nothing
  | "pprint", "pformat" => return .text (← shown caller first)
  | "pprint", _ =>
    writeStream caller (← streamOf "sys.stdout") ((← shown caller first) ++ ['\n'])
    return .nothing
  | "platform", "system" => return .text (ascii "Linux")
  | "platform", "machine" => return .text (ascii "x86_64")
  | "platform", "python_version" => return .text (ascii "3.12.3")
  | "getpass", "getuser" => return .text (ascii "root")
  | "locale", "getpreferredencoding" => return .text (ascii "UTF-8")
  | "unicodedata", "normalize" => return second
  | "statistics", name =>
    let values ← items caller first
    let numbers := values.filterMap float?
    let isWhole := values.all fun value => (int? value).isSome
    let total := numbers.foldl (· + ·) 0.0
    let mean := total / Float.ofNat numbers.length
    if numbers.isEmpty then
      fail "ValueError" (ascii (name ++ " requires at least one data point"))
    else if name = "mean" then
      return if isWhole && mean.floor == mean then .int ((Record.Number.whole? mean).getD 0) else .float mean
    else if name = "median" then
      let sorted ← sortedWith caller values []
      let half := sorted.length / 2
      if sorted.length % 2 = 1 then return (sorted[half]?).getD .nothing
      else
        let sum ← operate caller .add ((sorted[half - 1]?).getD .nothing) ((sorted[half]?).getD .nothing)
        operate caller .divide sum (.int 2)
    else
      let counts ← values.mapM fun value => do
        let same ← values.filterM (equal caller value)
        return (value, same.length)
      let most := counts.foldl (fun n entry => max n entry.2) 0
      return ((counts.find? fun entry => entry.2 = most).map Prod.fst).getD .nothing
  | "bisect", name =>
    let values ← items caller first
    let before ← values.filterM fun value => do
      if name = "bisect_left" then ordered caller .less value second
      else return !(← ordered caller .less second value)
    if name.startsWith "insort" then
      let _ ← caller.call (.method first "insert") [.int before.length, second] []
      return .nothing
    else return .int before.length
  | "heapq", "nlargest" =>
    let sorted ← sortedWith caller (← items caller second) (("reverse", .bool true) :: named)
    list (sorted.take ((int? first).getD 0).toNat)
  | "heapq", "nsmallest" =>
    let sorted ← sortedWith caller (← items caller second) named
    list (sorted.take ((int? first).getD 0).toNat)
  | "heapq", name =>
    let values ← items caller first
    let values ← sortedWith caller (if name = "heappush" then values ++ [second] else values) []
    match first, name, values with
    | .object number, "heappop", least :: rest =>
      putObject number (.list rest.toArray)
      return least
    | .object number, _, values =>
      putObject number (.list values.toArray)
      return .nothing
    | _, _, _ => return .nothing
  | "random", "seed" => return .nothing
  | "random", "random" => return .float 0.5
  | "random", "randint" => return first
  | "random", "randrange" => return if arguments.length = 1 then .int 0 else first
  | "random", "choice" =>
    match ← items caller first with
    | value :: _ => return value
    | [] => fail "IndexError" (ascii "Cannot choose from an empty sequence")
  | "random", "sample" => list ((← items caller first).take ((int? second).getD 0).toNat)
  | "random", _ => return .nothing
  | "fileinput", "input" => caller.call (.builtIn "iter") [← streamOf "sys.stdin"] []
  | "warnings", _ => return .nothing
  | "gc", _ => return .int 0
  | "locale", _ => return .text ['C']
  | "abc", _ => return first
  | "enum", _ => return .nothing
  | "keyword", _ =>
    match first with
    | .text text => return .bool (Reading.keywords.contains (String.ofList text))
    | _ => return .bool false
  | library, name => failMember (.library library) name
where
  /-- The way of an exception that was caught. -/
  wayOf (exception : Value) : Running (List TraceEntry) := do
    match exception with
    | .object number =>
      return (((← look (·.traces)).find? fun entry => entry.1 = number).map Prod.snd).getD []
    | _ => return []

/-- Calls a function of a library. -/
def callLibrary (caller : Caller) (library name : String) (arguments : List Value)
    (named : List (String × Value)) : Running Value := do
  match library with
  | "sys" => callInterpreter name arguments
  | "os" => callSystem caller name arguments named
  | "os.path" => callPath caller name arguments
  | "time" => callTime caller name arguments
  | "signal" => callSignal caller name arguments
  | "shutil" => callCopying caller name arguments
  | "subprocess" => flush *> runProgram caller name arguments named
  | "re" => callExpression caller name arguments named
  | "json" => callData caller name arguments named
  | "math" => callMath caller name arguments named
  | "itertools" => callRows caller name arguments named
  | "functools" => callFunctions caller name arguments named
  | "operator" => callOperators caller name arguments
  | "collections" => callCollections caller name arguments named
  | "dataclasses" => callDataTypes caller name arguments named
  | "pathlib" => callPaths caller name arguments named
  | "textwrap" => callFilling caller name arguments named
  | "base64" => callNotation name arguments
  | "binascii" => callNotation name arguments
  | "zlib" => callNotation name arguments
  | "hashlib" => callDigest name arguments
  | library => callSmall caller library name arguments named

end Running

end SchemaDocs.Shell.Indent
