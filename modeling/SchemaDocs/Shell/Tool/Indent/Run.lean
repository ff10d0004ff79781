import SchemaDocs.Shell.Tool.Indent.Arguments
import SchemaDocs.Shell.Tool.Indent.Token
/-!
# Running programs of indented blocks

Expressions are turned into values and statements are done one after the other.  Each step that
goes a level down, or once more around, takes from a bound.
-/

namespace SchemaDocs.Shell.Indent

/-- Where something is run. -/
structure Around where
  /-- The name of the function for traces. -/
  function : String := "<module>"
  /-- The scopes of comprehensions, the innermost one first. -/
  inner : List Nat := []
  /-- The scopes of functions and types, the innermost one first; the last one is the program's. -/
  scopes : List Nat := [0]
  /-- The names that belong to the running call, if it is one of a function. -/
  locals : Option (List String) := none
  globals : List String := []
  outers : List String := []
  isType : Bool := false
  /-- The type that the running function was defined in, or that is being defined. -/
  owner : Value := .nothing
  /-- The name of the first parameter. -/
  self : Option String := none
  /-- The list of the values that were given one after the other so far. -/
  given : Option Nat := none

/-- The scope of the program. -/
def Around.whole (around : Around) : Nat := (around.scopes.getLast?).getD 0

namespace Running

/-! ## Names -/

/-- The value of a name in a scope. -/
def inScope? (scope : Nat) (name : String) : Running (Option Value) := do
  return ((← look fun machine => machine.scopes[scope]?)).bind fun values => values[name]?

/-- Gives a name a value in a scope. -/
def putInScope (scope : Nat) (name : String) (value : Value) : Running Unit :=
  change fun machine =>
    { machine with scopes := machine.scopes.modify scope fun values => values.insert name value }

/-- Makes a scope with some values. -/
def newScope (values : List (String × Value)) : Running Nat := do
  let number := (← look (·.scopes)).size
  let scope := values.foldl (fun (scope : Std.HashMap String Value) (name, value) =>
    scope.insert name value) ∅
  change fun machine => { machine with scopes := machine.scopes.push scope }
  return number

/-- The value of a name in the first scope that has it. -/
def inScopes? (scopes : List Nat) (name : String) : Running (Option Value) := do
  match scopes with
  | [] => return none
  | scope :: rest =>
    match ← inScope? scope name with
    | some value => return some value
    | none => inScopes? rest name

/-- The value that a name has everywhere. -/
def always? (name : String) : Option Value :=
  if builtInNames.contains name || isExceptionName name then some (.builtIn name)
  else
    match name with
    | "NotImplemented" => some .notImplemented
    | "Ellipsis" => some .ellipsis
    | "__debug__" => some (.bool true)
    | "__builtins__" => some (.library "builtins")
    | name => ((exceptionNames.find? fun entry => entry.1 = name).map Prod.snd).map Value.builtIn

/-- Fails because a name is not known.  A name that may be meant is told. -/
def failName {α : Type} (around : Around) (name : String) : Running α := do
  let state ← machine
  let scopes := around.inner ++ around.scopes
  let known := scopes.flatMap fun scope =>
    ((state.scopes[scope]?).map fun values => values.keys).getD []
  let candidates := (known.mergeSort fun a b => decide (a ≤ b)) ++ builtInNames
    ++ exceptionKinds.map Prod.fst
  let near := Fault.nearest? name.toList (candidates.map String.toList)
  let isMissing := isLibrary name
  let hint := match near, isMissing with
    | some other, true =>
      ascii ". Did you mean: '" ++ other ++ ascii ("'? Or did you forget to import '" ++ name ++ "'?")
    | some other, false => ascii ". Did you mean: '" ++ other ++ ascii "'?"
    | none, true => ascii (". Did you forget to import '" ++ name ++ "'?")
    | none, false => []
  let exception ← makeException "NameError" [.text (ascii "name '" ++ name.toList ++ ascii "' is not defined")]
  if let .object number := exception then
    if !hint.isEmpty then putField number "__hint__" (.text hint)
  raise exception

/-- The value of a name. -/
def valueOf (around : Around) (name : String) : Running Value := do
  match ← inScopes? around.inner name with
  | some value => return value
  | none =>
    if around.globals.contains name then
      match (← inScope? around.whole name).or (always? name) with
      | some value => return value
      | none => failName around name
    else
      match around.locals with
      | some locals =>
        if locals.contains name && !around.outers.contains name then
          match ← inScopes? (around.scopes.take 1) name with
          | some value => return value
          | none =>
            fail "UnboundLocalError" (ascii "cannot access local variable '" ++ name.toList
              ++ ascii "' where it is not associated with a value")
        else wide
      | none => wide
where
  /-- The value of a name that does not belong to the running call. -/
  wide : Running Value := do
    match (← inScopes? around.scopes name).or (always? name) with
    | some value => return value
    | none => failName around name

/-- The scope that a name gets its value in. -/
def scopeFor (around : Around) (name : String) : Running Nat := do
  if around.globals.contains name then return around.whole
  else if around.outers.contains name then
    let outer := around.scopes.drop 1
    let found ← outer.filterM fun scope => do return (← inScope? scope name).isSome
    return (found.head?).getD ((outer.head?).getD 0)
  else return (around.scopes.head?).getD 0

/-- Takes a name away. -/
def deleteName (around : Around) (name : String) : Running Unit := do
  let scope ← scopeFor around name
  match ← inScope? scope name with
  | some _ =>
    change fun machine =>
      { machine with scopes := machine.scopes.modify scope fun values => values.erase name }
  | none => failName around name

/-- The values of a scope as a table. -/
def scopeTable (scope : Nat) : Running Value := do
  let values := (((← look fun machine => machine.scopes[scope]?)).getD ∅).toList
  let sorted := values.mergeSort fun a b => decide (a.1 ≤ b.1)
  make (.table .plain (← withPairs {} (namedPairs sorted)))

/-! ## Traces -/

/-- Runs a step at a place.  An exception that comes from it passed the place. -/
def traced {α : Type} (around : Around) (span : Span) (step : Running α) : Running α := do
  match ← attempt step with
  | .ok value => return value
  | .error (.raised exception) =>
    if !(← look (·.isTraced)) then
      change fun machine =>
        { machine with trace := { function := around.function, span := span } :: machine.trace
                       isTraced := true }
    throw (.raised exception)
  | .error leaving => throw leaving

/-- Keeps the way of an exception that was caught. -/
def keepTrace (exception : Value) : Running Unit := do
  if let .object number := exception then
    change fun machine =>
      { machine with traces := (number, machine.trace) :: machine.traces.filter fun entry => entry.1 != number }

/-- Raises an exception again, which goes on with the way that it took. -/
def raiseAgain {α : Type} (isSamePlace : Bool) (exception : Value) : Running α := do
  let way : Machine → List TraceEntry := match exception with
    | .object number => fun machine =>
      ((machine.traces.find? fun entry => entry.1 = number).map Prod.snd).getD []
    | _ => fun _ => []
  change fun machine => { machine with trace := way machine, isTraced := isSamePlace }
  throw (.raised exception)

/-! ## Functions -/

/-- How many calls may stand in each other. -/
def deepestCall : Nat := 1000

/-- The name of a function in messages. -/
def fullName (function : Function) : Running String := do
  match ← object? function.owner with
  | some (.type name _ _) => return name ++ "." ++ function.name
  | _ => return function.name

/-- Gives arguments to the parameters of a function. -/
def bindArguments (function : Function) (arguments : List Value) (named : List (String × Value)) :
    Running (List (String × Value)) := do
  let plains := function.slots.filter fun slot => slot.kind = .plain
  let onlyNamed := function.slots.filter fun slot => slot.kind = .named
  let rest? := function.slots.find? fun slot => slot.kind = .rest
  let others? := function.slots.find? fun slot => slot.kind = .namedRest
  let given := (plains.map Slot.name).zip arguments
  let known := (plains ++ onlyNamed).map Slot.name
  let foreign := named.filter fun entry => !known.contains entry.1
  match foreign, others? with
  | (name, _) :: _, none =>
    failType (ascii ((← fullName function) ++ "() got an unexpected keyword argument '" ++ name ++ "'"))
  | _, _ => pure ()
  match named.find? fun entry => given.any fun other => other.1 = entry.1 with
  | some (name, _) =>
    failType (ascii ((← fullName function) ++ "() got multiple values for argument '" ++ name ++ "'"))
  | none => pure ()
  if plains.length < arguments.length && rest?.isNone then
    let usual := (plains.filter fun slot => slot.default.isSome).length
    let count := arguments.length
    let takes :=
      if usual = 0 then
        toString plains.length ++ " positional argument" ++ (if plains.length = 1 then "" else "s")
      else "from " ++ toString (plains.length - usual) ++ " to " ++ toString plains.length
        ++ " positional arguments"
    failType (ascii ((← fullName function) ++ "() takes " ++ takes ++ " but " ++ toString count
      ++ (if count = 1 then " was" else " were") ++ " given"))
  let fill (slots : List Slot) : List (String × Option Value) := slots.map fun slot =>
    let own := ((given ++ named).find? fun entry => entry.1 = slot.name).map Prod.snd
    (slot.name, own.or slot.default)
  let filled := fill plains
  let missing := (filled.filter fun entry => entry.2.isNone).map Prod.fst
  if !missing.isEmpty then failMissing (← fullName function) false missing
  let filledNamed := fill onlyNamed
  let missing := (filledNamed.filter fun entry => entry.2.isNone).map Prod.fst
  if !missing.isEmpty then failMissing (← fullName function) true missing
  let rest := match rest? with
    | some slot => [(slot.name, Value.tuple (arguments.drop plains.length))]
    | none => []
  let others ← match others? with
    | some slot => do
      let table ← make (.table .plain (← withPairs {} (namedPairs foreign)))
      pure [(slot.name, table)]
    | none => pure []
  return (filled ++ filledNamed).map (fun entry => (entry.1, entry.2.getD .nothing)) ++ rest ++ others

/-- How many values are given one after the other at most. -/
def mostGiven : Nat := 10000

/-- The exception of a kind that a fault of the system belongs to. -/
def faultName (arguments : List Value) : String :=
  match arguments with
  | .int 1 :: _ :: _ => "PermissionError"
  | .int 2 :: _ :: _ => "FileNotFoundError"
  | .int 3 :: _ :: _ => "ProcessLookupError"
  | .int 4 :: _ :: _ => "InterruptedError"
  | .int 13 :: _ :: _ => "PermissionError"
  | .int 17 :: _ :: _ => "FileExistsError"
  | .int 20 :: _ :: _ => "NotADirectoryError"
  | .int 21 :: _ :: _ => "IsADirectoryError"
  | .int 32 :: _ :: _ => "BrokenPipeError"
  | _ => "OSError"

/-- Calls a function or a type that is always there. -/
def callNamed (caller : Caller) (name : String) (arguments : List Value) (named : List (String × Value)) :
    Running Value := do
  if isExceptionName name then
    makeException (if name = "OSError" then faultName arguments else name) arguments
  else
    match ← callBuiltIn caller (memberOf caller) name arguments named with
    | some value => return value
    | none =>
      match name, arguments with
      | "setattr", [value, .text name, member] =>
        putMember caller value (String.ofList name) member
        return .nothing
      | "delattr", [value, .text name] =>
        deleteMember value (String.ofList name)
        return .nothing
      | "super", [owner, self] => make (.marked "super" (.tuple [owner, self]))
      | "__import__", .text name :: _ => return .library (String.ofList name)
      | "dir", value :: _ =>
        let own ← match ← object? value with
          | some (.record _ fields) => pure (fields.map Prod.fst)
          | some (.type _ _ fields) => pure (fields.map Prod.fst)
          | _ => pure []
        let names := distinct (own ++ (← functionsOf value))
        list ((names.mergeSort fun a b => decide (a ≤ b)).map fun name => .text name.toList)
      | "help", _ => return .nothing
      | "complex", _ => failType (ascii "complex numbers are not there")
      | name, _ =>
        let steps := name.splitOn "."
        match steps with
        | [_] => callCollections caller name arguments named
        | "typing" :: _ => return (arguments[1]?).getD ((arguments.head?).getD .nothing)
        | first :: second :: rest =>
          if isLibrary (first ++ "." ++ second) && !rest.isEmpty then
            callLibrary caller (first ++ "." ++ second) (".".intercalate rest) arguments named
          else if first = "argparse" then
            callArguments caller (".".intercalate (second :: rest)) arguments named
          else if isLibrary first then
            callLibrary caller first (".".intercalate (second :: rest)) arguments named
          else callTypeFunction caller first second arguments named
        | [] => return .nothing

/-- Fails because a value cannot be called. -/
def failCall {α : Type} (value : Value) : Running α := do
  failType (ascii ("'" ++ (← typeName value) ++ "' object is not callable"))

/-- Whether a value can be gone through. -/
def isIterable (value : Value) : Running Bool := do
  match value with
  | .text _ => return true
  | .bytes _ => return true
  | .tuple _ => return true
  | .range _ _ _ => return true
  | .object number =>
    match ← objectAt number with
    | .record type _ =>
      return (← typeField? type "__iter__").isSome || (← typeField? type "__getitem__").isSome
        || (← typeField? type "__next__").isSome
    | .function _ => return false
    | .type _ _ _ => return false
    | .pattern _ _ _ => return false
    | .matched _ => return false
    | .marked _ _ => return false
    | .partly _ _ _ => return false
    | _ => return true
  | _ => return false

/-- A literal as a value. -/
def ofLiteral : Literal → Value
  | .nothing => .nothing
  | .ellipsis => .ellipsis
  | .bool b => .bool b
  | .int n => .int n
  | .float n => .float n
  | .text text => .text text
  | .bytes bytes => .bytes bytes

/-- Changes a value in its place by an operation, if it can change. -/
def changeInPlace (caller : Caller) (operator : Operator) (value other : Value) :
    Running (Option Value) := do
  match value with
  | .object number =>
    match operator, ← objectAt number with
    | .add, .list row =>
      if ← isIterable other then
        let _ ← callList caller number row "extend" [other] []
        return some value
      else
        let _ ← operate caller .add value other
        failType (ascii ("'" ++ (← typeName other) ++ "' object is not iterable"))
    | .add, .queue row most =>
      let _ ← callQueue caller number row most "extend" [other]
      return some value
    | .or, .set false table =>
      let result ← operate caller .or value other
      match ← object? result with
      | some (.set _ changed) => putObject number (.set false changed)
      | _ => putObject number (.set false table)
      return some value
    | .subtract, .set false _ => setTo number value other
    | .and, .set false _ => setTo number value other
    | .or, .table kind table =>
      let _ ← callTable caller number kind table "update" [other] []
      return some value
    | operator, .record type _ =>
      match ← typeField? type ("__i" ++ operatorWord operator ++ "__") with
      | some function => return some (← caller.call (.bound value function) [other] [])
      | none => return none
    | _, _ => return none
  | _ => return none
where
  /-- Changes a set to the result of an operation on it. -/
  setTo (number : Nat) (value other : Value) : Running (Option Value) := do
    match ← object? (← operate caller operator value other) with
    | some (.set _ changed) =>
      putObject number (.set false changed)
      return some value
    | _ => return none

/-! ## Blocks that something is done before and after -/

/-- What is done before a block. -/
def enter (caller : Caller) (value : Value) : Running Value := do
  match ← object? value with
  | some (.file _) => return value
  | some (.buffer _ _) => return value
  | some (.record (.builtIn "contextlib.suppress") _) => return .nothing
  | some (.record (.builtIn "contextlib.redirect_stdout") _) =>
    let inner := (← fieldOf? value "value").getD .nothing
    if let .object number := value then putField number "before" (← streamOf "sys.stdout")
    putSetting "sys.stdout" inner
    return inner
  | some (.record (.builtIn "contextlib.redirect_stderr") _) =>
    let inner := (← fieldOf? value "value").getD .nothing
    if let .object number := value then putField number "before" (← streamOf "sys.stderr")
    putSetting "sys.stderr" inner
    return inner
  | some (.record (.builtIn name) _) =>
    if name.startsWith "contextlib." then return (← fieldOf? value "value").getD .nothing else refused
  | some (.record _ _) =>
    match ← special? value "__enter__", ← special? value "__exit__" with
    | some function, some _ => caller.call (.bound value function) [] []
    | _, _ => refused
  | _ => refused
where
  /-- Fails because nothing can be done before a block. -/
  refused : Running Value := do
    failType (ascii ("'" ++ (← typeName value) ++ "' object does not support the context manager protocol"))

/-- What is done after a block, perhaps with the exception that it ended with.  Gives whether that one is
dealt with. -/
def exit (caller : Caller) (value : Value) (exception : Option Value) : Running Bool := do
  match value, ← object? value with
  | .object number, some (.file file) =>
    let _ ← callFile caller number file "close" []
    return false
  | _, some (.record (.builtIn "contextlib.suppress") _) =>
    match exception, ← fieldOf? value "kinds" with
    | some exception, some kinds => isInstance caller 20 exception kinds
    | _, _ => return false
  | _, some (.record (.builtIn "contextlib.redirect_stdout") _) =>
    putSetting "sys.stdout" ((← fieldOf? value "before").getD .nothing)
    return false
  | _, some (.record (.builtIn "contextlib.redirect_stderr") _) =>
    putSetting "sys.stderr" ((← fieldOf? value "before").getD .nothing)
    return false
  | _, some (.record (.builtIn "contextlib.closing") _) =>
    let inner := (← fieldOf? value "value").getD .nothing
    let _ ← caller.call (← memberOf caller inner "close") [] []
    return false
  | _, some (.record _ _) =>
    match ← special? value "__exit__" with
    | some function =>
      let arguments ← match exception with
        | some exception => do pure [← typeOf exception, exception, .nothing]
        | none => pure [.nothing, .nothing, .nothing]
      truth caller (← caller.call (.bound value function) arguments [])
    | none => return false
  | _, _ => return false

/-- What is done with an error of a block whose end is watched. -/
def afterBlock (caller : Caller) (value : Value) (result : Except Leaving Unit) : Running Unit := do
  match result with
  | .ok () =>
    let _ ← exit caller value none
  | .error (.raised exception) =>
    keepTrace exception
    let before := (← look (·.handled))
    change fun machine => { machine with handled := exception :: before }
    let isDealtWith ← exit caller value (some exception)
    change fun machine => { machine with handled := before }
    if !isDealtWith then raiseAgain true exception
  | .error leaving =>
    let _ ← exit caller value none
    throw leaving

/-! ## Libraries -/

/-- Loads a library, or tells that there is none. -/
def loadLibrary (readModule : List Char → Running (Option Value)) (path : List String) : Running Value := do
  let name := ".".intercalate path
  match (← look (·.settings)).find? fun entry => entry.1 = "module." ++ name with
  | some (_, value) => return value
  | none =>
    if isLibrary name then return .library name
    else
      match path with
      | [only] =>
        match ← readModule only.toList with
        | some value => return value
        | none => missing name
      | top :: _ =>
        if isLibrary top then
          missing' name top
        else missing top
      | [] => missing name
where
  /-- Fails because there is no library of a name. -/
  missing (name : String) : Running Value := do
    let exception ← makeException "ModuleNotFoundError"
      [.text (ascii ("No module named '" ++ name ++ "'"))]
    if let .object number := exception then putField number "name" (.text name.toList)
    raise exception
  /-- Fails because a library is no part of another one. -/
  missing' (name top : String) : Running Value :=
    fail "ModuleNotFoundError"
      (ascii ("No module named '" ++ name ++ "'; '" ++ top ++ "' is not a package"))

/-- What is loaded from a library under a name. -/
def loadedMember (library : Value) (path : List String) (name : String) : Running Value := do
  let found : Option Value ← match library with
    | .library own => do
      match ← libraryMember? own name with
      | some value => pure (some value)
      | none =>
        if isLibrary (own ++ "." ++ name) then pure (some (.library (own ++ "." ++ name))) else pure none
    | other => fieldOf? other name
  match found with
  | some value => return value
  | none =>
    let own := ".".intercalate path
    let place := if ["sys", "time", "math", "itertools", "signal", "builtins"].contains own then
        "unknown location"
      else "/usr/lib/python3.12/" ++ own ++ (if ["json", "collections"].contains own then "/__init__.py" else ".py")
    fail "ImportError" (ascii ("cannot import name '" ++ name ++ "' from '" ++ own ++ "' (" ++ place ++ ")"))

/-! ## Parts of expressions -/

/-- The place of an expression that stands for several values, if it does. -/
def isStarred : Expr → Option Span
  | .placed span inner => (isStarred inner).map fun _ => span
  | .starred _ => some ⟨0, 0, 0, 0⟩
  | _ => none

/-- The place of an expression, if it is known. -/
def spanOf? : Expr → Option Span
  | .placed span _ => some span
  | _ => none

/-- The ways to go on within parts of a program. -/
structure Runner where
  caller : Caller
  eval : Around → Expr → Running Value
  run : Around → List Statement → Running Unit

/-- How many turns loops have at most. -/
def mostTurns : Nat := 1000000000000

/-- The values of expressions, some of which may stand for several. -/
def evalItems (runner : Runner) (around : Around) (exprs : List Expr) : Running (List Value) := do
  let rows ← exprs.mapM fun e => do
    let value ← runner.eval around e
    match isStarred e with
    | some span =>
      traced around span do
        if ← isIterable value then items runner.caller value
        else
          failType (ascii ("Value after * must be an iterable, not " ++ (← typeName value)))
    | none => return [value]
  return rows.flatten

/-- The values of arguments. -/
def evalArguments (runner : Runner) (around : Around) (arguments : List Argument) :
    Running (List Value × List (String × Value)) :=
  arguments.foldlM (fun ((values, named) : List Value × List (String × Value)) argument => do
    match argument with
    | .plain value => return (values ++ [← runner.eval around value], named)
    | .all inner =>
      let inner ← runner.eval around inner
      if ← isIterable inner then return (values ++ (← items runner.caller inner), named)
      else
        failType (ascii ("Value after * must be an iterable, not " ++ (← typeName inner)))
    | .named name value => return (values, named ++ [(name, ← runner.eval around value)])
    | .allNamed inner =>
      let inner ← runner.eval around inner
      match ← object? inner with
      | some (.table _ table) =>
        let more ← table.entries.mapM fun (key, value) => do
          match key with
          | .text name => return (String.ofList name, value)
          | _ => failType (ascii "keywords must be strings")
        return (values, named ++ more)
      | _ =>
        failType (ascii ("argument after ** must be a mapping, not " ++ (← typeName inner))))
    ([], [])

/-- The result of comparisons in a row. -/
def evalComparisons (runner : Runner) (around : Around) :
    Value → List (Comparison × Expr) → Running Value
  | value, [] => return value
  | value, (comparison, e) :: rest => do
    let other ← runner.eval around e
    let result ← compared runner.caller comparison value other
    if rest.isEmpty then return result
    else if ← truth runner.caller result then evalComparisons runner around other rest
    else return result

/-- A text with values in it.  Each step goes a level down. -/
def evalPieces (runner : Runner) (around : Around) : Nat → List Piece → Running (List Char)
  | 0, _ => return []
  | fuel + 1, pieces => do
    let texts ← pieces.mapM fun piece => do
      match piece with
      | .text text => return text
      | .value value conversion format =>
        let value ← runner.eval around value
        let value ← match conversion with
          | some 'r' => do pure (Value.text (← shown runner.caller value))
          | some 's' => do pure (Value.text (← plain runner.caller value))
          | some 'a' => do pure (Value.text (Show.inAscii (← shown runner.caller value)))
          | _ => pure value
        formatted runner.caller value (← evalPieces runner around fuel format)
    return texts.flatten

/-- Makes a function. -/
def makeFunction (runner : Runner) (around : Around) (name : String) (parameters : List Parameter)
    (body : Body) (names globals outers : List String) (isGiver : Bool) (doc : Value) :
    Running Value := do
  let slots ← parameters.mapM fun parameter => do
    let usual ← match parameter.default with
      | some e => do pure (some (← runner.eval around e))
      | none => pure none
    return ({ name := parameter.name, kind := parameter.kind, default := usual } : Slot)
  make (.function
    { name := name, slots := slots, body := body
      scopes := around.inner ++ (if around.isType then around.scopes.drop 1 else around.scopes)
      locals := slots.map Slot.name ++ names, globals := globals, outers := outers, isGiver := isGiver
      doc := doc, owner := if around.isType then around.owner else .nothing })

/-! ## Targets -/

mutual

/-- Gives a value to what stands on the left of an assignment.  Each step goes a level down. -/
def assign (runner : Runner) (around : Around) (isInner : Bool) : Nat → Expr → Value → Running Unit
  | 0, _, _ => return ()
  | fuel + 1, target, value => do
    match target with
    | .placed span inner => traced around span (assign runner around isInner fuel inner value)
    | .name name =>
      let scope ← match isInner, around.inner with
        | true, scope :: _ => pure scope
        | _, _ => scopeFor around name
      putInScope scope name value
    | .member object name => putMember runner.caller (← runner.eval around object) name value
    | .subscript object index =>
      let object ← runner.eval around object
      let index ← runner.eval around index
      putItem runner.caller object index value
    | .starred inner => assign runner around isInner fuel inner value
    | .tuple targets => assignAll runner around isInner fuel targets value
    | .list targets => assignAll runner around isInner fuel targets value
    | _ => return ()

/-- Gives the values of a row to several targets. -/
def assignAll (runner : Runner) (around : Around) (isInner : Bool) :
    Nat → List Expr → Value → Running Unit
  | 0, _, _ => return ()
  | fuel + 1, targets, value => do
    if !(← isIterable value) then
      failType (ascii ("cannot unpack non-iterable " ++ (← typeName value) ++ " object"))
    let values ← items runner.caller value
    let before := targets.takeWhile fun target => (isStarred target).isNone
    if before.length = targets.length then
      if values.length < targets.length then
        fail "ValueError" (ascii ("not enough values to unpack (expected " ++ toString targets.length
          ++ ", got " ++ toString values.length ++ ")"))
      else if targets.length < values.length then
        fail "ValueError" (ascii ("too many values to unpack (expected " ++ toString targets.length ++ ")"))
      else (targets.zip values).forM fun (target, value) => assign runner around isInner fuel target value
    else
      let after := targets.drop (before.length + 1)
      let needed := before.length + after.length
      if values.length < needed then
        fail "ValueError" (ascii ("not enough values to unpack (expected at least " ++ toString needed
          ++ ", got " ++ toString values.length ++ ")"))
      else
        let middle := (values.drop before.length).take (values.length - needed)
        (before.zip values).forM fun (target, value) => assign runner around isInner fuel target value
        ((targets.drop before.length).take 1).forM fun target => do
          assign runner around isInner fuel target (← list middle)
        (after.zip (values.drop (values.length - after.length))).forM fun (target, value) =>
          assign runner around isInner fuel target value

end

/-- Takes away what stands on the right of a deletion. -/
def deleteTarget (runner : Runner) (around : Around) : Nat → Expr → Running Unit
  | 0, _ => return ()
  | fuel + 1, target => do
    match target with
    | .placed span inner => traced around span (deleteTarget runner around fuel inner)
    | .name name => deleteName around name
    | .member object name => deleteMember (← runner.eval around object) name
    | .subscript object index =>
      let object ← runner.eval around object
      deleteItem runner.caller object (← runner.eval around index)
    | .tuple targets => targets.forM (deleteTarget runner around fuel)
    | .list targets => targets.forM (deleteTarget runner around fuel)
    | _ => return ()

/-- Changes a target by an operation. -/
def update (runner : Runner) (around : Around) (operator : Operator) :
    Nat → Expr → Expr → Running Unit
  | 0, _, _ => return ()
  | fuel + 1, target, value => do
    let combine (before : Value) : Running Value := do
      let other ← runner.eval around value
      match ← changeInPlace runner.caller operator before other with
      | some result => return result
      | none =>
        match ← attempt (operate runner.caller operator before other) with
        | .ok result => return result
        | .error (.raised exception) =>
          match ← fieldOf? exception "args" with
          | some (.tuple [.text text]) =>
            let sign := ascii operator.sign
            let plainMark := ascii "unsupported operand type(s) for " ++ sign ++ [':']
            if plainMark.isPrefixOf text then
              failType (ascii "unsupported operand type(s) for "
                ++ (if operator = .power then ascii "** or pow()" else sign ++ ['=']) ++ [':']
                ++ text.drop plainMark.length)
            else throw (.raised exception)
          | _ => throw (.raised exception)
        | .error leaving => throw leaving
    match target with
    | .placed span inner =>
      match inner with
      | .name name => do
        let before ← traced around span (valueOf around name)
        let result ← combine before
        putInScope (← scopeFor around name) name result
      | inner => update runner around operator fuel inner value
    | .name name =>
      let result ← combine (← valueOf around name)
      putInScope (← scopeFor around name) name result
    | .member object name =>
      let object ← runner.eval around object
      let result ← combine (← memberOf runner.caller object name)
      putMember runner.caller object name result
    | .subscript object index =>
      let object ← runner.eval around object
      let index ← runner.eval around index
      let result ← combine (← itemOf runner.caller object index)
      putItem runner.caller object index result
    | _ => return ()

/-! ## Loops -/

/-- Does a block as long as a condition holds.  Gives whether it was left before. -/
def loop (holds : Running Bool) (body : Running Unit) : Nat → Running Bool
  | 0 => return false
  | fuel + 1 => do
    tick
    if ← holds then
      match ← attempt body with
      | .ok () => loop holds body fuel
      | .error .round => loop holds body fuel
      | .error .loop => return true
      | .error leaving => throw leaving
    else return false

/-- Does a block for a value.  Gives whether the loop is left. -/
def turn (runner : Runner) (around : Around) (target : Expr) (body : List Statement) (value : Value) :
    Running Bool := do
  tick
  assign runner around false deepestPart target value
  match ← attempt (runner.run around body) with
  | .ok () => return false
  | .error .round => return false
  | .error .loop => return true
  | .error leaving => throw leaving

/-- Has a turn for each number of a range.  Gives whether the loop was left before. -/
def overRange (turn : Value → Running Bool) (step : Int) : Int → Nat → Running Bool
  | _, 0 => return false
  | n, count + 1 => do
    if ← turn (.int n) then return true else overRange turn step (n + step) count

/-- Has a turn for each value of a list, which may change meanwhile.  Gives whether the loop was left
before. -/
def overList (turn : Value → Running Bool) (number : Nat) : Nat → Nat → Running Bool
  | 0, _ => return false
  | fuel + 1, place => do
    let item? : Option Value ← do
      match ← objectAt number with
      | .list items => pure items[place]?
      | _ => pure none
    match item? with
    | none => return false
    | some item =>
      if ← turn item then return true else overList turn number fuel (place + 1)

/-- Has a turn for each value that something gives.  Gives whether the loop was left before. -/
def overAll (caller : Caller) (turn : Value → Running Bool) (source : Value) : Nat → Running Bool
  | 0 => return false
  | fuel + 1 => do
    match ← nextValue caller source with
    | none => return false
    | some item => if ← turn item then return true else overAll caller turn source fuel

/-- Has turns for the values of something.  Gives whether the loop was left before. -/
def overValues (caller : Caller) (turn : Value → Running Bool) (values : Value) : Running Bool := do
  match values, ← object? values with
  | .range start stop step, _ => overRange turn step start (rangeLength start stop step)
  | .object number, some (.list _) => overList turn number mostTurns 0
  | .object number, some (.table _ table) =>
    let count := table.size
    overAll caller (fun value => do
      if ← turn value then return true
      else
        match ← objectAt number with
        | .table _ now =>
          if now.size != count then
            fail "RuntimeError" (ascii "dictionary changed size during iteration")
          else return false
        | _ => return false) (← iteratorOf caller values) mostTurns
  | values, _ => overAll caller turn (← iteratorOf caller values) mostTurns

/-- What a comprehension builds, the last one first. -/
def comprehend (runner : Runner) (around : Around) (element : Expr) (second : Option Expr) :
    List Clause → List (Value × Value) → Running (List (Value × Value))
  | [], pairs => do
    let value ← runner.eval around element
    let other ← match second with
      | some e => runner.eval around e
      | none => pure .nothing
    return (value, other) :: pairs
  | .only condition :: rest, pairs => do
    if ← truth runner.caller (← runner.eval around condition) then
      comprehend runner around element second rest pairs
    else return pairs
  | .each target values :: rest, pairs => do
    let values ← runner.eval around values
    let values ← items runner.caller values
    values.foldlM (fun pairs value => do
      tick
      assign runner around true deepestPart target value
      comprehend runner around element second rest pairs) pairs

/-! ## Exceptions -/

/-- Does what handlers say about an exception. -/
def handle (runner : Runner) (around : Around) (exception : Value) : List Handler → Running Unit
  | [] => throw (.raised exception)
  | .mk type name body :: rest => do
    keepTrace exception
    let before := (← look (·.handled))
    let fits ← match type with
      | none => pure true
      | some e => do
        change fun machine => { machine with handled := exception :: before }
        let type ← runner.eval around e
        change fun machine => { machine with handled := before }
        isInstance runner.caller 20 exception type
    if fits then
      change fun machine => { machine with handled := exception :: before }
      if let some name := name then putInScope (← scopeFor around name) name exception
      let result ← attempt (runner.run around body)
      change fun machine => { machine with handled := before }
      if let some name := name then
        let scope ← scopeFor around name
        change fun machine =>
          { machine with scopes := machine.scopes.modify scope fun values => values.erase name }
      match result with
      | .ok () => return ()
      | .error leaving => throw leaving
    else
      let way : Machine → List TraceEntry := match exception with
        | .object number => fun machine =>
          ((machine.traces.find? fun entry => entry.1 = number).map Prod.snd).getD []
        | _ => fun _ => []
      change fun machine => { machine with trace := way machine, isTraced := true }
      handle runner around exception rest

/-- An exception, which is made if only its kind is given. -/
def ofKind (caller : Caller) (value : Value) : Running Value := do
  let isKind ← match value with
    | .builtIn name => pure (isExceptionName name)
    | .object number => do
      match ← objectAt number with
      | .type _ _ _ => isKindOf value (.builtIn "BaseException")
      | _ => pure false
    | _ => pure false
  if isKind then caller.call value [] []
  else if ← isException value "BaseException" then return value
  else failType (ascii "exceptions must derive from BaseException")

/-- Raises what a statement says. -/
def raiseHere (runner : Runner) (around : Around) (exception cause : Option Expr) : Running Unit := do
  match exception with
  | none =>
    match (← look (·.handled)).head? with
    | some exception => raiseAgain true exception
    | none => fail "RuntimeError" (ascii "No active exception to reraise")
  | some e =>
    let made ← ofKind runner.caller (← runner.eval around e)
    match cause with
    | some cause =>
      let cause ← match ← runner.eval around cause with
        | .nothing => pure .nothing
        | cause => ofKind runner.caller cause
      if let .object number := made then putField number "__cause__" cause
    | none => pure ()
    let isKnown : Bool ← match made with
      | .object number => do pure ((← look (·.traces)).any fun entry => entry.1 = number)
      | _ => pure false
    if isKnown then raiseAgain false made else raise made

/-- Does a block between what is done before and after it. -/
def within (runner : Runner) (around : Around) (body : List Statement) :
    List (Expr × Option Expr) → Running Unit
  | [] => runner.run around body
  | (e, target) :: rest => do
    let value ← runner.eval around e
    let inner ← enter runner.caller value
    let result ← attempt do
      if let some target := target then assign runner around false deepestPart target inner
      within runner around body rest
    afterBlock runner.caller value result

/-! ## Cases -/

/-- The values of the names in a shape, if a value fits it.  Each step goes a level down. -/
def fits (runner : Runner) (around : Around) :
    Nat → Value → Shape → Running (Option (List (String × Value)))
  | 0, _, _ => return none
  | fuel + 1, value, shape => do
    let join (found : Option (List (String × Value))) (value : Value) (shape : Shape) :
        Running (Option (List (String × Value))) := do
      match found with
      | none => return none
      | some values =>
        match ← fits runner around fuel value shape with
        | some more => return some (values ++ more)
        | none => return none
    match shape with
    | .any none => return some []
    | .any (some name) => return some [(name, value)]
    | .rest _ => return some []
    | .value e =>
      let other ← runner.eval around e
      let isAlone : Bool := match other with
        | .nothing => true
        | .bool _ => true
        | _ => false
      let isFine ← if isAlone then pure (same value other) else equal runner.caller value other
      return if isFine then some [] else none
    | .sequence shapes =>
      let row? : Option (List Value) ← match value, ← object? value with
        | .tuple items, _ => pure (some items)
        | _, some (.list items) => pure (some items.toList)
        | _, some (.queue items _) => pure (some items.toList)
        | .range start stop step, _ => pure (some (rangeItems start stop step))
        | _, _ => pure none
      match row? with
      | none => return none
      | some row =>
        let isRest (shape : Shape) : Bool := match shape with
          | .rest _ => true
          | _ => false
        let before := shapes.takeWhile fun shape => !isRest shape
        if before.length = shapes.length then
          if row.length != shapes.length then return none
          else (row.zip shapes).foldlM (fun found (item, shape) => join found item shape) (some [])
        else
          let after := shapes.drop (before.length + 1)
          if row.length < before.length + after.length then return none
          else
            let middle := (row.drop before.length).take (row.length - before.length - after.length)
            let named : List (String × Value) ← match shapes[before.length]? with
              | some (.rest (some name)) => do pure [(name, ← list middle)]
              | _ => pure []
            let pairs := row.zip before ++ (row.drop (row.length - after.length)).zip after
            pairs.foldlM (fun found (item, shape) => join found item shape) (some named)
    | .mapping entries rest =>
      match ← object? value with
      | some (.table _ table) =>
        let keyed ← entries.mapM fun (e, shape) => do
          let key ← runner.eval around e
          return (key, shape)
        let found ← keyed.foldlM (fun found (key, shape) => do
          match table.find? (← keyOf key) with
          | some inner => join found inner shape
          | none => return none) (some [])
        match found, rest with
        | some values, some name =>
          let others ← keyed.foldlM (fun (table : Table) (key, _) => do
            return table.erase (← keyOf key)) table
          return some (values ++ [(name, ← make (.table .plain others))])
        | found, _ => return found
      | _ => return none
    | .object e items named =>
      let type ← runner.eval around e
      if !(← isInstance runner.caller 20 value type) then return none
      else
        let own ← match items with
          | [only] => do
            match type with
            | .builtIn _ => join (some []) value only
            | _ => byPlace items
          | items => byPlace items
        named.foldlM (fun found (name, shape) => do
          match ← attempt (memberOf runner.caller value name) with
          | .ok inner => join found inner shape
          | .error _ => return none) own
    | .either options =>
      options.foldlM (fun found option => do
        match found with
        | some values => return some values
        | none => fits runner around fuel value option) none
    | .named inner name =>
      match ← fits runner around fuel value inner with
      | some values => return some (values ++ [(name, value)])
      | none => return none
where
  /-- The values of the names in shapes for the fields of an object in their order. -/
  byPlace (items : List Shape) :
      Running (Option (List (String × Value))) := do
    return if items.isEmpty then some [] else none

/-- Does the first case that fits a value. -/
def selectCase (runner : Runner) (around : Around) (value : Value) : List Case → Running Unit
  | [] => return ()
  | .mk shape condition body :: rest => do
    match ← fits runner around deepestPart value shape with
    | none => selectCase runner around value rest
    | some values =>
      values.forM fun (name, value) => do putInScope (← scopeFor around name) name value
      let holds ← match condition with
        | some e => do truth runner.caller (← runner.eval around e)
        | none => pure true
      if holds then runner.run around body else selectCase runner around value rest

/-! ## Loading -/

/-- Runs a program that another one loads, and gives its names. -/
def readModule (runner : Runner) (name : List Char) : Running (Option Value) := do
  let paths ← match ← setting? "sys.path" with
    | some (.object number) => do
      match ← objectAt number with
      | .list items => pure (items.toList.filterMap fun item =>
          match item with
          | .text path => some path
          | _ => none)
      | _ => pure []
    | _ => pure []
  let candidates := paths.map fun path => joinPaths [path, name ++ ascii ".py"]
  let found ← candidates.filterM fun path => do return decide ((← kindAt (encoded path)) = .file)
  match found with
  | [] => return none
  | path :: _ =>
    let text := withPlainLines (decoded (← readAllAt (.text path)))
    match readProgram text with
    | .error fault => fail fault.kind fault.message
    | .ok (body, _) =>
      let scope ← newScope [("__name__", .text name), ("__file__", .text path)]
      runner.run { scopes := [scope] } body
      let values := (((← look fun machine => machine.scopes[scope]?)).getD ∅).toList
      let made ← make (.record (.builtIn "module") values)
      putSetting ("module." ++ String.ofList name) made
      return some made

/-- Gives a name to what is loaded. -/
def loadPath (runner : Runner) (around : Around) (path : List String) (name : Option String) :
    Running Unit := do
  let library ← loadLibrary (readModule runner) path
  match name with
  | some name => putInScope (← scopeFor around name) name library
  | none =>
    let top := (path.head?).getD ""
    let value := if path.length = 1 then library else .library top
    putInScope (← scopeFor around top) top value

/-- Gives names to all that a library holds. -/
def loadAllNames (runner : Runner) (around : Around) (path : List String) : Running Unit := do
  let library ← loadLibrary (readModule runner) path
  match library with
  | .library own =>
    let names := ((libraryFunctions.find? fun entry => entry.1 = own).map Prod.snd).getD []
    names.forM fun name => do
      if !name.startsWith "_" then
        match ← libraryMember? own name with
        | some value => putInScope (← scopeFor around name) name value
        | none => return ()
  | other =>
    match ← object? other with
    | some (.record _ fields) => fields.forM fun (name, value) => do
      if !name.startsWith "_" then putInScope (← scopeFor around name) name value
    | _ => return ()

/-! ## Expressions and statements -/

/-- Makes an object of a type. -/
def makeRecord (caller : Caller) (type : Value) (name : String) (arguments : List Value)
    (named : List (String × Value)) : Running Value := do
  let line ← kinds deepestType type
  let isFault := line.any fun kind => isSameType kind (.builtIn "BaseException")
  let plainKind := line.find? fun kind =>
    match kind with
    | .builtIn other => other != "object" && !isExceptionName other
    | _ => false
  let maker ← typeField? type "__init__"
  match plainKind, maker with
  | some kind, none => caller.call kind arguments named
  | _, _ =>
    let self ← make (.record type (if isFault then [("args", .tuple arguments)] else []))
    match maker with
    | some function =>
      let _ ← caller.call (.bound self function) arguments named
      return self
    | none =>
      if isFault || (arguments.isEmpty && named.isEmpty) then return self
      else failType (ascii (name ++ "() takes no arguments"))

/-- Calls what needs to know where it is called. -/
def callHere (runner : Runner) (around : Around) (callee : Value) (arguments : List Value)
    (named : List (String × Value)) : Running Value := do
  let own : Nat := (around.inner ++ around.scopes).head?.getD 0
  match callee, arguments with
  | .builtIn "super", [] =>
    let self ← match around.self with
      | some name => do pure ((← inScopes? (around.scopes.take 1) name).getD .nothing)
      | none => pure .nothing
    match around.owner with
    | .nothing => fail "RuntimeError" (ascii "super(): no arguments")
    | owner => make (.marked "super" (.tuple [owner, self]))
  | .builtIn "globals", [] => scopeTable around.whole
  | .builtIn "locals", [] => scopeTable own
  | .builtIn "vars", [] => scopeTable own
  | .builtIn "dir", [] =>
    let names := (((← look fun machine => machine.scopes[own]?)).getD ∅).keys
    list ((names.mergeSort fun a b => decide (a ≤ b)).map fun name => .text name.toList)
  | .builtIn "eval", .text text :: _ =>
    match readExpression (withoutBlanks text) with
    | .ok e => runner.eval around e
    | .error fault => fail fault.kind fault.message
  | .builtIn "exec", .text text :: _ =>
    match readProgram text with
    | .ok (body, _) =>
      runner.run around body
      return .nothing
    | .error fault => fail fault.kind fault.message
  | callee, arguments => runner.caller.call callee arguments named

/-- Defines a function. -/
def defineFunction (runner : Runner) (around : Around) (name : String) (parameters : List Parameter)
    (body : List Statement) (decorators : List Expr) : Running Unit := do
  let wrappers ← decorators.mapM (runner.eval around)
  let globals := body.flatMap (Statement.sharedNames false deepestPart)
  let outers := body.flatMap (Statement.sharedNames true deepestPart)
  let names := distinct (body.flatMap (Statement.names deepestPart))
  let doc := match docOf body with
    | some text => Value.text text
    | none => .nothing
  let function ← makeFunction runner around name parameters (.statements body)
    (names.filter fun name => !globals.contains name && !outers.contains name) globals outers
    (body.any (Statement.gives deepestPart)) doc
  let value ← wrappers.foldrM (fun wrapper value => runner.caller.call wrapper [value] []) function
  putInScope (← scopeFor around name) name value

/-- Defines a type. -/
def defineType (runner : Runner) (around : Around) (name : String) (bases : List Argument)
    (body : List Statement) (decorators : List Expr) : Running Unit := do
  let wrappers ← decorators.mapM (runner.eval around)
  let (parents, _) ← evalArguments runner around bases
  let type ← make (.type name parents [])
  let scope ← newScope []
  let inner : Around :=
    { function := name, scopes := scope :: (around.inner ++ around.scopes), isType := true, owner := type }
  match ← attempt (runner.run inner body) with
  | .ok () => pure ()
  | .error (.raised exception) =>
    change fun machine => { machine with isTraced := false }
    throw (.raised exception)
  | .error leaving => throw leaving
  let names := distinct (body.flatMap (Statement.names deepestPart))
  let fields ← names.filterMapM fun name => do
    return (← inScope? scope name).map fun value => (name, value)
  let declared := declaredNames body
  let extra := (if declared.isEmpty then [] else
      [("__annotations__", Value.tuple (declared.map fun name => .text name.toList))])
    ++ (match docOf body with
      | some text => [("__doc__", Value.text text)]
      | none => [])
  if let .object number := type then putObject number (.type name parents (fields ++ extra))
  let value ← wrappers.foldrM (fun wrapper value => runner.caller.call wrapper [value] []) type
  putInScope (← scopeFor around name) name value

mutual

/-- Calls a value. -/
def call (launcher : Launcher) : Nat → Value → List Value → List (String × Value) → Running Value
  | 0, _, _, _ => fail "RecursionError" (ascii "maximum recursion depth exceeded")
  | fuel + 1, callee, arguments, named => do
    let runner : Runner := ⟨⟨fun f a n => call launcher fuel f a n, launcher, fuel⟩,
      fun a e => eval launcher fuel a e, fun a b => run launcher fuel a b⟩
    match callee with
    | .builtIn name => callNamed runner.caller name arguments named
    | .method self name => callMethod runner.caller self name arguments named
    | .bound self function => call launcher fuel function (self :: arguments) named
    | .object number =>
      match ← objectAt number with
      | .function function =>
        let values ← bindArguments function arguments named
        callFunction launcher fuel function values
      | .type name _ _ => makeRecord runner.caller callee name arguments named
      | .partly function first others =>
        let others := others.filter fun entry => !named.any fun other => other.1 = entry.1
        call launcher fuel function (first ++ arguments) (others ++ named)
      | .marked "staticmethod" inner => call launcher fuel inner arguments named
      | .marked "cached" inner => call launcher fuel inner arguments named
      | .record type _ =>
        match ← typeField? type "__call__" with
        | some function => call launcher fuel (.bound callee function) arguments named
        | none => failCall callee
      | _ => failCall callee
    | callee => failCall callee

/-- Runs a function whose parameters have values. -/
def callFunction (launcher : Launcher) : Nat → Function → List (String × Value) → Running Value
  | 0, _, _ => fail "RecursionError" (ascii "maximum recursion depth exceeded")
  | fuel + 1, function, values => do
    tick
    let depth := (← look (·.depth))
    if deepestCall ≤ depth + 1 then fail "RecursionError" (ascii "maximum recursion depth exceeded")
    let scope ← newScope values
    let given ← if function.isGiver then
        match ← list [] with
        | .object number => pure (some number)
        | _ => pure none
      else pure none
    let around : Around :=
      { function := function.name, scopes := scope :: function.scopes, locals := some function.locals
        globals := function.globals, outers := function.outers, owner := function.owner
        self := (function.slots.head?).map Slot.name, given := given }
    change fun machine => { machine with depth := depth + 1 }
    let result ← attempt (match function.body with
      | .statements body => do
        run launcher fuel around body
        return Value.nothing
      | .expression value => eval launcher fuel around value)
    change fun machine => { machine with depth := depth }
    let result : Except Leaving Value := match result with
      | .error (.function value) => .ok value
      | result => result
    match result with
    | .ok value =>
      match given with
      | some number =>
        match ← objectAt number with
        | .list items => make (.iterator "generator" items 0)
        | _ => return value
      | none => return value
    | .error (.raised exception) =>
      change fun machine => { machine with isTraced := false }
      throw (.raised exception)
    | .error leaving => throw leaving

/-- The value of an expression. -/
def eval (launcher : Launcher) : Nat → Around → Expr → Running Value
  | 0, _, _ => fail "RecursionError" (ascii "maximum recursion depth exceeded")
  | fuel + 1, around, e => do
    let runner : Runner := ⟨⟨fun f a n => call launcher fuel f a n, launcher, fuel⟩,
      fun a e => eval launcher fuel a e, fun a b => run launcher fuel a b⟩
    match e with
    | .placed span inner => traced around span (eval launcher fuel around inner)
    | .literal value => return ofLiteral value
    | .name name => valueOf around name
    | .list items => list (← evalItems runner around items)
    | .tuple items => return .tuple (← evalItems runner around items)
    | .set items => make (.set false (← setOf (← evalItems runner around items)))
    | .dict entries =>
      let table ← entries.foldlM (fun (table : Table) (key, value) => do
        match key with
        | some key =>
          let key ← eval launcher fuel around key
          let value ← eval launcher fuel around value
          return table.insert (← keyOf key) key value
        | none =>
          let inner ← eval launcher fuel around value
          match ← object? inner with
          | some (.table _ _) => withPairs table (← pairsOf runner.caller inner)
          | _ => failType (ascii ("'" ++ (← typeName inner) ++ "' object is not a mapping"))) {}
      make (.table .plain table)
    | .starred inner => eval launcher fuel around inner
    | .member object name => memberOf runner.caller (← eval launcher fuel around object) name
    | .subscript object index =>
      let value ← eval launcher fuel around object
      let index ← eval launcher fuel around index
      match value, ← object? value with
      | .builtIn _, _ => return value
      | _, some (.type _ _ _) => return value
      | _, _ => itemOf runner.caller value index
    | .slice start stop step =>
      let part (e : Option Expr) : Running Value :=
        match e with
        | some e => eval launcher fuel around e
        | none => return .nothing
      return .slice (← part start) (← part stop) (← part step)
    | .call function arguments =>
      let callee ← eval launcher fuel around function
      let (values, named) ← evalArguments runner around arguments
      callHere runner around callee values named
    | .unary .not inner => return .bool !(← truth runner.caller (← eval launcher fuel around inner))
    | .unary operator inner => prefixedValue runner.caller operator (← eval launcher fuel around inner)
    | .binary operator first second =>
      let a ← eval launcher fuel around first
      let b ← eval launcher fuel around second
      operate runner.caller operator a b
    | .compare first rest =>
      let value ← eval launcher fuel around first
      evalComparisons runner around value rest
    | .and first second =>
      let value ← eval launcher fuel around first
      if ← truth runner.caller value then eval launcher fuel around second else return value
    | .or first second =>
      let value ← eval launcher fuel around first
      if ← truth runner.caller value then return value else eval launcher fuel around second
    | .choose condition first second =>
      if ← truth runner.caller (← eval launcher fuel around condition) then eval launcher fuel around first
      else eval launcher fuel around second
    | .function parameters body =>
      makeFunction runner around "<lambda>" parameters (.expression body)
        (body.boundNames deepestPart) [] [] (body.gives deepestPart) .nothing
    | .comprehension kind element value clauses =>
      let scope ← newScope []
      let isGiver := kind = .generator
      let inner := { around with inner := scope :: around.inner
                                 function := if isGiver then "<genexpr>" else around.function }
      let result ← attempt (comprehend runner inner element value clauses [])
      let pairs ← match result with
        | .ok pairs => pure pairs.reverse
        | .error (.raised exception) => do
          if isGiver then change fun machine => { machine with isTraced := false }
          throw (.raised exception)
        | .error leaving => throw leaving
      match kind with
      | .list => list (pairs.map Prod.fst)
      | .set => make (.set false (← setOf (pairs.map Prod.fst)))
      | .dict => make (.table .plain (← withPairs {} pairs))
      | .generator => giver "generator" (pairs.map Prod.fst)
    | .format pieces => return .text (← evalPieces runner around deepestPart pieces)
    | .bind name value =>
      let value ← eval launcher fuel around value
      putInScope (← scopeFor around name) name value
      return value
    | .give value isAll =>
      let value ← match value with
        | some value => eval launcher fuel around value
        | none => pure .nothing
      let values ← if isAll then items runner.caller value else pure [value]
      match around.given with
      | some number =>
        changeList number fun given => given ++ values.toArray
        match ← objectAt number with
        | .list given => if mostGiven < given.size then throw (.function .nothing)
        | _ => pure ()
      | none => pure ()
      return .nothing

/-- Does statements one after the other. -/
def run (launcher : Launcher) : Nat → Around → List Statement → Running Unit
  | 0, _, _ => return ()
  | _ + 1, _, [] => return ()
  | fuel + 1, around, statement :: rest => do
    step launcher fuel around statement
    run launcher fuel around rest

/-- Does a statement. -/
def step (launcher : Launcher) : Nat → Around → Statement → Running Unit
  | 0, _, _ => return ()
  | fuel + 1, around, statement => do
    let runner : Runner := ⟨⟨fun f a n => call launcher fuel f a n, launcher, fuel⟩,
      fun a e => eval launcher fuel a e, fun a b => run launcher fuel a b⟩
    match statement with
    | .placed span inner =>
      tick
      traced around span (step launcher fuel around inner)
    | .evaluate value =>
      let _ ← runner.eval around value
    | .assign targets value =>
      let value ← runner.eval around value
      targets.forM fun target => assign runner around false deepestPart target value
    | .update operator target value => update runner around operator deepestPart target value
    | .declare name value =>
      match value with
      | some value =>
        let value ← runner.eval around value
        putInScope (← scopeFor around name) name value
      | none => return ()
    | .choose condition first second =>
      if ← truth runner.caller (← runner.eval around condition) then runner.run around first
      else runner.run around second
    | .loop condition body otherwise =>
      let holds : Running Bool := do truth runner.caller (← runner.eval around condition)
      if !(← loop holds (runner.run around body) mostTurns) then runner.run around otherwise
    | .each target values body otherwise =>
      let values ← runner.eval around values
      if !(← overValues runner.caller (turn runner around target body) values) then
        runner.run around otherwise
    | .attempt body handlers otherwise final =>
      let result ← attempt do
        match ← attempt (runner.run around body) with
        | .ok () => runner.run around otherwise
        | .error (.raised exception) => handle runner around exception handlers
        | .error leaving => throw leaving
      if !final.isEmpty then
        let trace := (← look (·.trace))
        let isTraced := (← look (·.isTraced))
        runner.run around final
        change fun machine => { machine with trace := trace, isTraced := isTraced }
      match result with
      | .ok () => return ()
      | .error leaving => throw leaving
    | .within items body => within runner around body items
    | .function name parameters body decorators =>
      defineFunction runner around name parameters body decorators
    | .type name bases body decorators => defineType runner around name bases body decorators
    | .select subject cases => selectCase runner around (← runner.eval around subject) cases
    | .giveBack value =>
      match value with
      | some value => throw (.function (← runner.eval around value))
      | none => throw (.function .nothing)
    | .leaveLoop => throw .loop
    | .continueLoop => throw .round
    | .nothing => return ()
    | .raise exception cause => raiseHere runner around exception cause
    | .assert condition message =>
      if !(← truth runner.caller (← runner.eval around condition)) then
        let arguments ← match message with
          | some message => do pure [← runner.eval around message]
          | none => pure []
        let failing : Running Unit := do raise (← makeException "AssertionError" arguments)
        match spanOf? condition with
        | some span => traced around span failing
        | none => failing
    | .delete targets => targets.forM (deleteTarget runner around deepestPart)
    | .shared _ _ => return ()
    | .load paths => paths.forM fun (path, name) => loadPath runner around path name
    | .loadFrom path names =>
      let library ← loadLibrary (readModule runner) path
      names.forM fun (name, other) => do
        let value ← loadedMember library path name
        let own := other.getD name
        putInScope (← scopeFor around own) own value
    | .loadAll path => loadAllNames runner around path

end

end Running

end SchemaDocs.Shell.Indent
