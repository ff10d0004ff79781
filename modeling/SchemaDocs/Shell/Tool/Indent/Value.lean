import SchemaDocs.Shell.Process
import SchemaDocs.Shell.Regex.OrderedRead
import SchemaDocs.Shell.Tool.Indent.Token
import Std.Data.HashMap
/-!
# Values of programs of indented blocks

Values are numbers, texts and rows of them, or objects that can change: lists, tables, functions
and what types describe.  Objects stand under numbers, so that two names may have the same one.
-/

namespace SchemaDocs.Shell.Indent

/-- A value. -/
inductive Value where
  | nothing
  | ellipsis
  | notImplemented
  | bool (b : Bool)
  | int (n : Int)
  | float (n : Float)
  | text (text : List Char)
  | bytes (bytes : ByteText)
  | tuple (items : List Value)
  | range (start stop step : Int)
  | slice (start stop step : Value)
  | object (number : Nat)
  /-- A function or a type that is always there. -/
  | builtIn (name : String)
  /-- What a value that is always there can do. -/
  | method (self : Value) (name : String)
  /-- A function of a type with its object. -/
  | bound (self function : Value)
  | library (name : String)
deriving Inhabited

/-- What a value is found by in a table. -/
inductive Key where
  | nothing
  | ellipsis
  | int (n : Int)
  | float (bits : UInt64)
  | text (text : List Char)
  | bytes (bytes : ByteText)
  | tuple (items : List Key)
  | object (number : Nat)
  | named (name : String)
deriving BEq, Hashable, Inhabited

/-- A table that keeps the order in which keys were put in. -/
structure Table where
  slots : Array (Option (Value × Value)) := #[]
  places : Std.HashMap Key Nat := ∅
deriving Inhabited

namespace Table

/-- The number of entries. -/
def size (table : Table) : Nat := table.places.size

/-- The entries in order. -/
def entries (table : Table) : List (Value × Value) := table.slots.toList.filterMap id

/-- The keys in order. -/
def keys (table : Table) : List Value := table.entries.map Prod.fst

/-- The value under a key. -/
def find? (table : Table) (key : Key) : Option Value :=
  match table.places[key]? with
  | some place => ((table.slots[place]?).join).map Prod.snd
  | none => none

/-- Whether there is a key. -/
def contains (table : Table) (key : Key) : Bool := table.places.contains key

/-- Puts a value under a key, which keeps its place if it is there. -/
def insert (table : Table) (key : Key) (name value : Value) : Table :=
  match table.places[key]? with
  | some place =>
    let name := (((table.slots[place]?).join).map Prod.fst).getD name
    { table with slots := table.slots.setIfInBounds place (some (name, value)) }
  | none =>
    { slots := table.slots.push (some (name, value))
      places := table.places.insert key table.slots.size }

/-- Takes a key away. -/
def erase (table : Table) (key : Key) : Table :=
  match table.places[key]? with
  | some place =>
    { slots := table.slots.setIfInBounds place none, places := table.places.erase key }
  | none => table

end Table

/-- What a table does beyond keeping values. -/
inductive TableKind where
  | plain
  /-- Counts its keys. -/
  | counter
  /-- Makes a value for a key that is missing by calling something. -/
  | withDefault (make : Value)
deriving Inhabited

/-- A parameter of a function that was made, with what it is if no argument is given. -/
structure Slot where
  name : String
  kind : ParameterKind
  default : Option Value
deriving Inhabited

/-- What a function does. -/
inductive Body where
  | statements (body : List Statement)
  | expression (value : Expr)
deriving Inhabited

/-- A function. -/
structure Function where
  name : String
  slots : List Slot
  body : Body
  /-- The scopes around it, the innermost one first. -/
  scopes : List Nat
  /-- The names that belong to a call. -/
  locals : List String
  globals : List String
  outers : List String
  /-- Whether it gives values one after the other. -/
  isGiver : Bool
  doc : Value
  /-- The type that it was defined in. -/
  owner : Value := .nothing
deriving Inhabited

/-- An open file. -/
structure File where
  name : Value
  /-- The number of the descriptor, or the open file itself. -/
  descriptor : Option Nat
  channel : Nat
  isBinary : Bool
  mode : List Char
  isClosed : Bool := false
deriving Inhabited

/-- A match of a pattern. -/
structure Matched where
  pattern : Value
  subject : Value
  chars : Array Char
  found : Ordered.Found
deriving Inhabited

/-- Something that can change. -/
inductive Object where
  | list (items : Array Value)
  | queue (items : Array Value) (most : Option Nat)
  | table (kind : TableKind) (table : Table)
  | set (isFrozen : Bool) (table : Table)
  /-- The keys, the values or both of a table. -/
  | view (kind : String) (table : Value)
  | function (function : Function)
  | type (name : String) (bases : List Value) (fields : List (String × Value))
  | record (type : Value) (fields : List (String × Value))
  /-- Values that are gone through once. -/
  | iterator (kind : String) (items : Array Value) (place : Nat)
  | file (file : File)
  | pattern (source : Value) (flags : Nat) (pattern : Ordered.Pattern)
  | matched (matched : Matched)
  | buffer (bytes : List ByteText) (isBinary : Bool)
  /-- A function with a mark: it belongs to a type, or is a property. -/
  | marked (mark : String) (inner : Value)
  | partly (function : Value) (arguments : List Value) (named : List (String × Value))
deriving Inhabited

/-- Where an exception passed through: the function and the place there. -/
structure TraceEntry where
  function : String
  span : Span
  /-- The place within that matters most, if it is not the whole. -/
  core : Option Span := none
deriving Inhabited

/-- What a program works on. -/
structure Machine where
  objects : Array Object := #[]
  scopes : Array (Std.HashMap String Value) := #[∅]
  /-- The way of the exception that is under way, the outermost place first. -/
  trace : List TraceEntry := []
  /-- Whether the running function is on it already. -/
  isTraced : Bool := false
  /-- The ways of exceptions that were caught. -/
  traces : List (Nat × List TraceEntry) := []
  /-- The exceptions that are dealt with, the last one first. -/
  handled : List Value := []
  /-- What was written to the output as text and is still kept, the last piece first. -/
  textOut : List ByteText := []
  textSize : Nat := 0
  bytesOut : List ByteText := []
  bytesSize : Nat := 0
  isUnbuffered : Bool := false
  arguments : List Value := []
  environment : Option Nat := none
  /-- Values of libraries that were set. -/
  settings : List (String × Value) := []
  /-- What is done at the end, the last one first. -/
  endings : List (Value × List Value) := []
  file : List Char := []
  lines : Array (List Char) := #[]
  depth : Nat := 0
  seed : Nat := 1
  /-- How many more steps are run before they count as endless. -/
  patience : Nat := 3000000
deriving Inhabited

/-- Why statements are left. -/
inductive Leaving where
  | loop | round
  | function (value : Value)
  | raised (exception : Value)
  /-- The program ends at once. -/
  | ended (code : Nat)
  | killed (signal : Nat)

/-- A step of a program. -/
abbrev Running := ExceptT Leaving (StateT Machine Program)

/-- A way to call values, and to start other programs. -/
structure Caller where
  call : Value → List Value → List (String × Value) → Running Value
  launcher : Launcher
  /-- The text that a value is shown as, from its own function if it has one. -/
  depth : Nat

namespace Running

/-- A step of the program that runs this one. -/
def program {α : Type} (step : Program α) : Running α := liftM step

/-- A step that may change what processes share. -/
def system {α : Type} (step : System α) : Running α := program (liftM step)

/-- What the program works on. -/
def machine : Running Machine := getThe Machine

/-- A part of what the program works on.  The part is taken out at once, so that nothing else is held. -/
@[noinline] def look {α : Type} (part : Machine → α) : Running α := do return part (← machine)

/-- Changes what the program works on. -/
def change (step : Machine → Machine) : Running Unit := modifyThe Machine step

/-- Makes a new object. -/
def make (object : Object) : Running Value := do
  modifyGetThe Machine fun machine =>
    (.object machine.objects.size, { machine with objects := machine.objects.push object })

/-- The object with a number. -/
def objectAt (number : Nat) : Running Object := do
  return ((← look fun machine => machine.objects[number]?)).getD (.list #[])

/-- Replaces an object. -/
def putObject (number : Nat) (object : Object) : Running Unit :=
  change fun machine => { machine with objects := machine.objects.setIfInBounds number object }

/-- Changes a list where it is. -/
def changeList (number : Nat) (step : Array Value → Array Value) : Running Unit :=
  change fun machine =>
    { machine with objects := machine.objects.modify number fun object =>
        match object with
        | .list items => .list (step items)
        | object => object }

/-- Changes a table or a set where it is. -/
def changeTable (number : Nat) (step : Table → Table) : Running Unit :=
  change fun machine =>
    { machine with objects := machine.objects.modify number fun object =>
        match object with
        | .table kind table => .table kind (step table)
        | .set isFrozen table => .set isFrozen (step table)
        | object => object }

/-- The object of a value, if it is one. -/
def object? (value : Value) : Running (Option Object) := do
  match value with
  | .object number => return (← look fun machine => machine.objects[number]?)
  | _ => return none

/-- Makes a list. -/
def list (items : List Value) : Running Value := make (.list items.toArray)

/-! ## Exceptions -/

/-- The exceptions that are always there, each with the one that it is a kind of. -/
def exceptionKinds : List (String × String) :=
  [("BaseException", "object"), ("Exception", "BaseException"), ("SystemExit", "BaseException"),
   ("KeyboardInterrupt", "BaseException"), ("GeneratorExit", "BaseException"),
   ("ArithmeticError", "Exception"), ("ZeroDivisionError", "ArithmeticError"),
   ("OverflowError", "ArithmeticError"), ("FloatingPointError", "ArithmeticError"),
   ("AssertionError", "Exception"), ("AttributeError", "Exception"), ("BufferError", "Exception"),
   ("EOFError", "Exception"), ("ImportError", "Exception"),
   ("ModuleNotFoundError", "ImportError"), ("LookupError", "Exception"),
   ("IndexError", "LookupError"), ("KeyError", "LookupError"), ("MemoryError", "Exception"),
   ("NameError", "Exception"), ("UnboundLocalError", "NameError"), ("OSError", "Exception"),
   ("BlockingIOError", "OSError"), ("ChildProcessError", "OSError"),
   ("ConnectionError", "OSError"), ("BrokenPipeError", "ConnectionError"),
   ("FileExistsError", "OSError"), ("FileNotFoundError", "OSError"),
   ("InterruptedError", "OSError"), ("IsADirectoryError", "OSError"),
   ("NotADirectoryError", "OSError"), ("PermissionError", "OSError"),
   ("ProcessLookupError", "OSError"), ("TimeoutError", "OSError"),
   ("ReferenceError", "Exception"), ("RuntimeError", "Exception"),
   ("NotImplementedError", "RuntimeError"), ("RecursionError", "RuntimeError"),
   ("StopIteration", "Exception"), ("StopAsyncIteration", "Exception"),
   ("SyntaxError", "Exception"), ("IndentationError", "SyntaxError"),
   ("TabError", "IndentationError"), ("SystemError", "Exception"), ("TypeError", "Exception"),
   ("ValueError", "Exception"), ("UnicodeError", "ValueError"),
   ("UnicodeDecodeError", "UnicodeError"), ("UnicodeEncodeError", "UnicodeError"),
   ("Warning", "Exception"), ("UserWarning", "Warning"), ("DeprecationWarning", "Warning"),
   ("RuntimeWarning", "Warning"), ("re.error", "Exception"),
   ("json.decoder.JSONDecodeError", "ValueError"), ("subprocess.SubprocessError", "Exception"),
   ("subprocess.CalledProcessError", "subprocess.SubprocessError"),
   ("subprocess.TimeoutExpired", "subprocess.SubprocessError"),
   ("binascii.Error", "ValueError")]

/-- Other names of exceptions. -/
def exceptionNames : List (String × String) :=
  [("IOError", "OSError"), ("EnvironmentError", "OSError")]

/-- Whether a type that is always there is an exception. -/
def isExceptionName (name : String) : Bool := exceptionKinds.any fun entry => entry.1 = name

/-- Makes an exception. -/
def makeException (type : String) (arguments : List Value) : Running Value :=
  make (.record (.builtIn type) [("args", .tuple arguments)])

/-- Raises an exception.  One that is dealt with meanwhile stands before it. -/
def raise {α : Type} (exception : Value) : Running α := do
  match exception, (← look (·.handled)).head? with
  | .object number, some (.object other) =>
    if number != other then
      match ← objectAt number with
      | .record type fields =>
        if !fields.any fun field => field.1 = "__context__" then
          putObject number (.record type (fields ++ [("__context__", .object other)]))
      | _ => pure ()
  | _, _ => pure ()
  change fun machine => { machine with trace := [], isTraced := false }
  throw (.raised exception)

/-- Fails with an exception of a type that has a message. -/
def fail {α : Type} (type : String) (message : List Char) : Running α := do
  raise (← makeException type [.text message])

/-- Fails because a value is of the wrong type. -/
def failType {α : Type} (message : List Char) : Running α := fail "TypeError" message

/-- Runs a step and gives what it raised, if it raised something. -/
def attempt {α : Type} (step : Running α) : Running (Except Leaving α) :=
  ExceptT.mk (do return .ok (← step.run))

/-- Counts a step. -/
def tick : Running Unit := do
  match (← look (·.patience)) with
  | 0 =>
    system (System.stall .busy)
    throw (.ended 0)
  | patience + 1 => change fun machine => { machine with patience := patience }

/-! ## Output -/

/-- Bytes that a text is written as. -/
def encoded (text : List Char) : ByteText := ByteText.ofString (String.ofList text)

/-- The text that bytes stand for. -/
def decoded (bytes : ByteText) : List Char := bytes.toString.toList

/-- Writes out the bytes that were kept. -/
def flushBytes : Running Unit := do
  let pieces := (← look (·.bytesOut))
  change fun machine => { machine with bytesOut := [], bytesSize := 0 }
  program (Program.out pieces.reverse.flatten)

/-- Keeps bytes that are written to the output. -/
def writeBytes (bytes : ByteText) : Running Unit := do
  change fun machine =>
    { machine with bytesOut := bytes :: machine.bytesOut
                   bytesSize := machine.bytesSize + bytes.length }
  let state ← machine
  if state.isUnbuffered || 8192 < state.bytesSize then flushBytes

/-- Hands on the text that was kept. -/
def flushText : Running Unit := do
  let pieces := (← look (·.textOut))
  change fun machine => { machine with textOut := [], textSize := 0 }
  if !pieces.isEmpty then writeBytes pieces.reverse.flatten

/-- Writes out all that was kept. -/
def flush : Running Unit := do
  flushText
  flushBytes

/-- Keeps text that is written to the output. -/
def writeText (text : List Char) : Running Unit := do
  let bytes := encoded text
  change fun machine =>
    { machine with textOut := bytes :: machine.textOut
                   textSize := machine.textSize + bytes.length }
  let state ← machine
  if state.isUnbuffered then flush
  else if 8192 < state.textSize then flushText

/-- Writes a message. -/
def writeError (text : List Char) : Running Unit := program (Program.err (encoded text))

/-! ## Types -/

/-- The name of the type of a value that is always there. -/
def typeName (value : Value) : Running String := do
  match value with
  | .nothing => return "NoneType"
  | .ellipsis => return "ellipsis"
  | .notImplemented => return "NotImplementedType"
  | .bool _ => return "bool"
  | .int _ => return "int"
  | .float _ => return "float"
  | .text _ => return "str"
  | .bytes _ => return "bytes"
  | .tuple _ => return "tuple"
  | .range _ _ _ => return "range"
  | .slice _ _ _ => return "slice"
  | .builtIn name =>
    return if isExceptionName name || typeNames.contains name then "type"
      else "builtin_function_or_method"
  | .method _ _ => return "builtin_function_or_method"
  | .bound _ _ => return "method"
  | .library _ => return "module"
  | .object number =>
    match ← objectAt number with
    | .list _ => return "list"
    | .queue _ _ => return "collections.deque"
    | .table .plain _ => return "dict"
    | .table .counter _ => return "Counter"
    | .table (.withDefault _) _ => return "collections.defaultdict"
    | .set isFrozen _ => return if isFrozen then "frozenset" else "set"
    | .view kind _ => return kind
    | .function _ => return "function"
    | .type _ _ _ => return "type"
    | .record type _ =>
      match type with
      | .builtIn name => return ((name.splitOn ".").getLast?).getD name
      | .object number =>
        match ← objectAt number with
        | .type name _ _ => return name
        | _ => return "object"
      | _ => return "object"
    | .iterator kind _ _ => return kind
    | .file file => return if file.isBinary then "_io.BufferedReader" else "_io.TextIOWrapper"
    | .pattern _ _ _ => return "re.Pattern"
    | .matched _ => return "re.Match"
    | .buffer _ isBinary => return if isBinary then "_io.BytesIO" else "_io.StringIO"
    | .marked mark _ => return mark
    | .partly _ _ _ => return "functools.partial"
where
  /-- The types that are always there, exceptions apart. -/
  typeNames : List String :=
    ["bool", "bytearray", "bytes", "dict", "float", "frozenset", "int", "list", "object", "range",
     "set", "slice", "str", "tuple", "type", "property", "staticmethod", "classmethod", "super",
     "enumerate", "filter", "map", "zip", "reversed", "complex", "memoryview", "NoneType",
     "Counter", "defaultdict", "deque", "OrderedDict"]

/-- The type of a value. -/
def typeOf (value : Value) : Running Value := do
  match ← object? value with
  | some (.record type _) => return type
  | _ => return .builtIn (← typeName value)

/-- The types that a type is a kind of, itself first.  Each step goes a level up. -/
def kinds : Nat → Value → Running (List Value)
  | 0, type => return [type]
  | fuel + 1, type => do
    match type with
    | .builtIn name =>
      match exceptionKinds.find? fun entry => entry.1 = name with
      | some (_, parent) => return type :: (← kinds fuel (.builtIn parent))
      | none =>
        if name = "bool" then return [type, .builtIn "int", .builtIn "object"]
        else if name = "object" then return [type]
        else if name = "Counter" || name = "collections.defaultdict" || name = "defaultdict"
            || name = "OrderedDict" then
          return [type, .builtIn "dict", .builtIn "object"]
        else return [type, .builtIn "object"]
    | .object number =>
      match ← objectAt number with
      | .type _ bases _ =>
        let above ← bases.mapM (kinds fuel)
        let all := above.flatten
        let all := if all.isEmpty then [.builtIn "object"] else all
        return type :: lastOf all
      | _ => return [type]
    | _ => return [type]
where
  /-- The types without those that come again later. -/
  lastOf : List Value → List Value
    | [] => []
    | type :: rest =>
      let isSame (a b : Value) : Bool :=
        match a, b with
        | .builtIn x, .builtIn y => x = y
        | .object x, .object y => x = y
        | _, _ => false
      if rest.any (isSame type) then lastOf rest else type :: lastOf rest

/-- Whether two types are the same. -/
def isSameType (a b : Value) : Bool :=
  match a, b with
  | .builtIn x, .builtIn y => x = y
  | .object x, .object y => x = y
  | _, _ => false

/-- How many levels types have at most. -/
def deepestType : Nat := 100

/-- Whether a type is a kind of another one. -/
def isKindOf (type other : Value) : Running Bool := do
  return (← kinds deepestType type).any fun kind => isSameType kind other

/-- Whether an exception is of a type that is always there. -/
def isException (exception : Value) (name : String) : Running Bool := do
  isKindOf (← typeOf exception) (.builtIn name)

/-- What stands under a name in a type or those that it is a kind of. -/
def typeField? (type : Value) (name : String) : Running (Option Value) := do
  let all ← kinds deepestType type
  all.foldlM (fun (found : Option Value) kind => do
    match found, kind with
    | some value, _ => return some value
    | none, .object number =>
      match ← objectAt number with
      | .type _ _ fields => return (fields.find? fun field => field.1 = name).map Prod.snd
      | _ => return none
    | none, _ => return none) none

/-- The function of the type of a value under a name, if the program defines it. -/
def special? (value : Value) (name : String) : Running (Option Value) := do
  match ← object? value with
  | some (.record type _) => typeField? type name
  | _ => return none

/-- The fields of an object. -/
def fieldOf? (value : Value) (name : String) : Running (Option Value) := do
  match ← object? value with
  | some (.record _ fields) => return (fields.find? fun field => field.1 = name).map Prod.snd
  | _ => return none

/-- Puts a value under the name of a field of an object. -/
def putField (number : Nat) (name : String) (value : Value) : Running Unit := do
  let put (fields : List (String × Value)) : List (String × Value) :=
    if fields.any fun field => field.1 = name then
      fields.map fun field => if field.1 = name then (name, value) else field
    else fields ++ [(name, value)]
  match ← objectAt number with
  | .record type fields => putObject number (.record type (put fields))
  | .type own bases fields => putObject number (.type own bases (put fields))
  | _ => return ()

end Running

end SchemaDocs.Shell.Indent
