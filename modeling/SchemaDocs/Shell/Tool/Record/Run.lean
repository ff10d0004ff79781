import SchemaDocs.Shell.Tool.Record.Machine
import SchemaDocs.Shell.Tool.Record.Read
/-!
# Running programs over records

Expressions are evaluated and statements are run on a depth that bounds how far they are
nested; the steps are counted as well, so that a loop that never ends is noticed.
-/

namespace SchemaDocs.Shell.Record

/-- What a program runs with. -/
structure Setting where
  launcher : Launcher
  functions : Std.HashMap ByteText Function

/-- A place that a value is put into. -/
inductive Spot where
  | name (name : ByteText)
  | entry (table : Nat) (key : ByteText)
  | field (place : Nat)

namespace Acting

/-- Counts a step. -/
def tick : Acting Unit := do
  match (← look (·.patience)) with
  | 0 =>
    system (System.stall .busy)
    throw .program
  | patience + 1 => change fun machine => { machine with patience := patience }

/-- The value at a place. -/
def load : Spot → Acting Datum
  | .name name => valueOf name
  | .entry table key => lookUp table key
  | .field place => fieldOf place

/-- Puts a value into a place. -/
def store (spot : Spot) (datum : Datum) : Acting Unit := do
  match spot with
  | .name name => setValue name datum
  | .entry number key => changeTable number fun table => table.insert key datum
  | .field place => setField place datum

/-- Arithmetic on two numbers. -/
def calculate (operation : Arithmetic) (a b : Float) : Float :=
  match operation with
  | .add => a + b
  | .subtract => a - b
  | .multiply => a * b
  | .divide => a / b
  | .remainder => Number.remainder a b
  | .power => Float.pow a b

/-- Whether a comparison holds of an order. -/
def holdsOf (comparison : Comparison) (order : Ordering) : Bool :=
  match comparison with
  | .less => order = .lt
  | .lessEqual => order ≠ .gt
  | .equal => order = .eq
  | .notEqual => order ≠ .eq
  | .greater => order = .gt
  | .greaterEqual => order ≠ .lt

/-! ## Records -/

/-- Adds one to a counter. -/
def countUp (name : String) : Acting Unit := do
  setGlobal name (.number ((← globalOf name).toNumber + 1))

/-- Whether an argument is an assignment. -/
def isAssignment (text : ByteText) : Bool :=
  let name := text.takeWhile Token.isNameChar
  !name.isEmpty && !(name.head?.any Char.isDigit) && (text.drop name.length).head? = some '='

/-- Gives a name the value of an assignment among arguments. -/
def assignArgument (text : ByteText) : Acting Unit := do
  let name := text.takeWhile Token.isNameChar
  setValue name (assigned (text.drop (name.length + 1)))

/-- Opens the next file among the arguments, or the input if none names a file.  Each step looks at
an argument. -/
def openNext : Nat → Acting (Option Source.Input)
  | 0 => return none
  | fuel + 1 => do
    let state ← machine
    let arguments ← tableAt ((state.tableNames[ascii "ARGV"]?).getD 0)
    let count := Number.toNat (← globalOf "ARGC").toNumber
    if state.argument < count then
      let key := ByteText.ofNat state.argument
      let text ← textOf (((arguments.entries[key]?).map Prod.snd).getD .unset)
      change fun machine => { machine with argument := machine.argument + 1 }
      if text.isEmpty then openNext fuel
      else if isAssignment text then
        assignArgument text
        openNext fuel
      else
        change fun machine => { machine with hadFile := true }
        openFile text
    else if state.hadFile then return none
    else
      change fun machine => { machine with hadFile := true }
      openFile ['-']
where
  openFile (name : ByteText) : Acting (Option Source.Input) := do
    setGlobal "FILENAME" (.text name)
    setGlobal "FNR" (.number 0)
    let opened : Except FileError Nat ← program do
      if name = ['-'] || name = ascii "/dev/stdin" then
        match ← Program.descriptor? 0 with
        | some channel => return .ok channel
        | none => return .error .badDescriptor
      else Program.openInput name
    match opened with
    | .error cause =>
      throw (.fault (ascii "cannot open \"" ++ name ++ ascii "\" (" ++ ascii cause.reason
        ++ ascii ")"))
    | .ok channel =>
      if ← program (Program.isDirectory channel) then
        throw (.fault (ascii ("read error (" ++ FileError.isADirectory.reason ++ ")")))
      return some { channel := channel }

/-- The next record of the input.  Each step looks at a file. -/
def nextMain : Nat → Acting (Option ByteText)
  | 0 => return none
  | fuel + 1 => do
    match (← look (·.main)) with
    | some input =>
      let (record, input) ← nextRecordOf input
      match record with
      | some record =>
        change fun machine => { machine with main := some input }
        countUp "NR"
        countUp "FNR"
        return some record
      | none =>
        change fun machine => { machine with main := none }
        nextMain fuel
    | none =>
      match ← openNext 100000 with
      | none => return none
      | some input =>
        change fun machine => { machine with main := some input }
        nextMain fuel

/-- How many files are looked at for one record at most. -/
def mostFiles : Nat := 100000

/-- The next record of an open file or command, and whether there is one. -/
def nextOfStream (name : ByteText) (stream : Stream) : Acting (Option ByteText) := do
  let put (stream : Stream) : Acting Unit := do
    let rest := (← look (·.streams)).filter fun entry => entry.1 ≠ name
    change fun machine => { machine with streams := (name, stream) :: rest }
  match stream with
  | .input input =>
    let (record, input) ← nextRecordOf input
    put (.input input)
    return record
  | .fromCommand input status =>
    let (record, input) ← nextRecordOf input
    put (.fromCommand input status)
    return record
  | _ => return none

/-- The next record of a file, or nothing if the file cannot be opened. -/
def nextOfFile (name : ByteText) : Acting (Option (Option ByteText)) := do
  match (← look (·.streams)).find? fun entry => entry.1 = name with
  | some (_, stream) => return some (← nextOfStream name stream)
  | none =>
    flushAll
    let opened : Except FileError Nat ← program do
      if name = ['-'] then
        match ← Program.descriptor? 0 with
        | some channel => return .ok channel
        | none => return .error .badDescriptor
      else Program.openInput name
    match opened with
    | .error _ => return none
    | .ok channel =>
      if ← program (Program.isDirectory channel) then return none
      else return some (← nextOfStream name (.input { channel := channel }))

/-- The next record that a command writes. -/
def nextOfCommand (launcher : Launcher) (command : ByteText) : Acting (Option ByteText) := do
  match (← look (·.streams)).find? fun entry => entry.1 = command with
  | some (_, stream) => nextOfStream command stream
  | none =>
    flushAll
    let sink ← system (System.add (.sink [] .ended))
    let status ← runCommand launcher command none (some sink)
    let (text, tail) ← system (System.collected sink)
    let source ← system (System.add (.source text tail 0))
    nextOfStream command (.fromCommand { channel := source } status)

/-- Ends an open file or command by its name, and gives its status. -/
def close (launcher : Launcher) (name : ByteText) : Acting Datum := do
  let streams := (← look (·.streams))
  match streams.find? fun entry => entry.1 = name with
  | none => return .number (-1)
  | some (_, stream) =>
    change fun machine => { machine with streams := streams.filter fun entry => entry.1 ≠ name }
    return Datum.ofNat (← finish launcher name stream)

/-- The key of a table for some values. -/
def keyOf (values : List Datum) : Acting ByteText := do
  match values with
  | [value] => textOf value
  | values =>
    let texts ← values.mapM textOf
    return (texts.intersperse (← textOf (← globalOf "SUBSEP"))).flatten

/-- Searches a text, and keeps where the match is. -/
def searchText (pattern : Pattern) (text : ByteText) : Acting Datum := do
  let subject : Subject := { chars := text.toArray }
  let (start, length) : Nat × Float :=
    match pattern.search subject 0 with
    | some found => (found.start + 1, Float.ofNat (found.stop - found.start))
    | none => (0, -1)
  setGlobal "RSTART" (Datum.ofNat start)
  setGlobal "RLENGTH" (.number length)
  return Datum.ofNat start

/-- The next number of a row without visible order, between zero and one. -/
def random : Acting Datum := do
  let seed := ((← look (·.seed)) * 6364136223846793005 + 1442695040888963407) % 18446744073709551616
  change fun machine => { machine with seed := seed }
  return .number (Float.ofNat (seed / 2048) / 9007199254740992)

/-- The greatest number of functions that may be running. -/
def deepestCall : Nat := 400

/-- What a function does that every program has and that works on values only. -/
def applyPlain (launcher : Launcher) (function : BuiltIn) (values : List Datum) : Acting Datum := do
  let number (f : Float → Float) : Acting Datum :=
    return .number (f ((values.head?.getD .unset).toNumber))
  match function, values with
  | .length, [] => return Datum.ofNat (← look (·.record)).length
  | .length, value :: _ => return Datum.ofNat (← textOf value).length
  | .index, [text, sought] => return Datum.ofNat (placeIn (← textOf sought) 1 (← textOf text))
  | .substr, [text, start] =>
    return .text (part (← textOf text) start.toNumber none)
  | .substr, [text, start, length] =>
    return .text (part (← textOf text) start.toNumber (some length.toNumber))
  | .sprintf, values =>
    let (text, fault) ← format "sprintf" values
    match fault with
    | some fault => fail fault
    | none => return .text text
  | .upper, value :: _ => return .text ((← textOf value).map Char.toUpper)
  | .lower, value :: _ => return .text ((← textOf value).map Char.toLower)
  | .sine, _ => number Float.sin
  | .cosine, _ => number Float.cos
  | .arctangent, [a, b] => return .number (Float.atan2 a.toNumber b.toNumber)
  | .exponential, _ => number Float.exp
  | .logarithm, _ => number Float.log
  | .root, _ => number Float.sqrt
  | .whole, _ => number fun n => if n < 0 then n.ceil else n.floor
  | .random, _ => random
  | .seed, values =>
    let before := (← look (·.seed))
    change fun machine => { machine with seed := Number.toNat ((values.head?.getD .unset).toNumber) }
    return Datum.ofNat before
  | .system, value :: _ =>
    let command ← textOf value
    flushAll
    return Datum.ofNat (← runCommand launcher command none none)
  | .close, value :: _ => close launcher (← textOf value)
  | .flush, _ =>
    flushAll
    return .number 0
  | _, _ => return .unset

/-- The binding that a name gets in a function if it is an argument there. -/
def bindingOf (name : ByteText) : Acting Binding := do
  let machine ← machine
  match machine.locals.find? fun entry => entry.1 = name with
  | some (_, binding) => return binding
  | none =>
    match machine.tableNames[name]? with
    | some number => return .table number
    | none => return .datum ((machine.values[name]?).getD .unset)

/-- Keeps the table that a function made of an argument without a value. -/
def keepTable (name : ByteText) (binding : Binding) : Acting Unit := do
  match binding with
  | .datum _ => return ()
  | .table number =>
    let machine ← machine
    if machine.locals.any fun entry => entry.1 = name then
      change fun machine =>
        { machine with locals := machine.locals.map fun entry =>
            match entry with
            | (other, .datum .unset) => (other, if other = name then .table number else .datum .unset)
            | entry => entry }
    else if !(machine.tableNames.contains name) then
      change fun machine => { machine with tableNames := machine.tableNames.insert name number }

/-- The names of arguments that are nothing but a name. -/
def plainNames (arguments : List Expr) : List (Option ByteText) :=
  arguments.map fun
    | .name name => some name
    | _ => none

/-- Why a loop is left, if it is. -/
inductive Round where
  | goOn
  | leave

/-- Runs something as a round of a loop. -/
def round (body : Acting Unit) : Acting Round := do
  tryCatchThe Leaving
    (do
      body
      return .goOn)
    fun
      | .loop => return .leave
      | .round => return .goOn
      | leaving => throw leaving

mutual

/-- The value of an expression. -/
def eval (setting : Setting) : Nat → Expr → Acting Datum
  | 0, _ => throw (.fault (ascii "program limit exceeded: eval stack size=1024"))
  | fuel + 1, expr => do
    match expr with
    | .number n => return .number n
    | .text chars => return .text chars
    | .pattern pattern =>
      let subject : Subject := { chars := (← look (·.record)).toArray }
      return Datum.ofBool (pattern.occursIn subject)
    | .several (value :: _) => eval setting fuel value
    | .several [] => return .unset
    | .assign place value =>
      let spot ← locate setting fuel place
      let datum ← eval setting fuel value
      store spot datum
      return datum
    | .update operation place value =>
      let spot ← locate setting fuel place
      let second ← eval setting fuel value
      let first ← load spot
      let datum := Datum.number (calculate operation first.toNumber second.toNumber)
      store spot datum
      return datum
    | .count operation isBefore place =>
      let spot ← locate setting fuel place
      let before := (← load spot).toNumber
      let after := calculate operation before 1
      store spot (.number after)
      return .number (if isBefore then after else before)
    | .sign isNegative inner =>
      let n := (← eval setting fuel inner).toNumber
      return .number (if isNegative then -n else n)
    | .not inner => return Datum.ofBool !(← eval setting fuel inner).isTrue
    | .arithmetic operation first second =>
      let a ← eval setting fuel first
      let b ← eval setting fuel second
      return .number (calculate operation a.toNumber b.toNumber)
    | .join first second =>
      let a ← textOf (← eval setting fuel first)
      let b ← textOf (← eval setting fuel second)
      return .text (a ++ b)
    | .compare comparison first second =>
      let a ← eval setting fuel first
      let b ← eval setting fuel second
      return Datum.ofBool (holdsOf comparison (Datum.order (← writerOf "CONVFMT") a b))
    | .search isNegated subject pattern =>
      let text ← textOf (← eval setting fuel subject)
      let pattern ← patternIn setting fuel pattern
      return Datum.ofBool (pattern.occursIn { chars := text.toArray } != isNegated)
    | .member keys table =>
      let key ← keyOf (← evalAll setting fuel keys)
      let table ← tableAt (← tableOf table)
      return Datum.ofBool (table.entries.contains key)
    | .and first second =>
      if (← eval setting fuel first).isTrue then
        return Datum.ofBool (← eval setting fuel second).isTrue
      else return Datum.ofBool false
    | .or first second =>
      if (← eval setting fuel first).isTrue then return Datum.ofBool true
      else return Datum.ofBool (← eval setting fuel second).isTrue
    | .choose condition first second =>
      if (← eval setting fuel condition).isTrue then eval setting fuel first
      else eval setting fuel second
    | .call name arguments => call setting fuel name arguments
    | .apply function arguments => apply setting fuel function arguments
    | .nextRecord place =>
      match ← nextMain mostFiles with
      | none => return .number 0
      | some record =>
        keep setting fuel place record
        return .number 1
    | .nextOfFile place file =>
      match ← nextOfFile (← textOf (← eval setting fuel file)) with
      | none => return .number (-1)
      | some none => return .number 0
      | some (some record) =>
        keep setting fuel place record
        return .number 1
    | .nextOfCommand place command =>
      match ← nextOfCommand setting.launcher (← textOf (← eval setting fuel command)) with
      | none => return .number 0
      | some record =>
        countUp "NR"
        keep setting fuel place record
        return .number 1
    | place => load (← locate setting fuel place)

/-- The values of some expressions, from left to right. -/
def evalAll (setting : Setting) : Nat → List Expr → Acting (List Datum)
  | 0, _ => return []
  | _ + 1, [] => return []
  | fuel + 1, first :: rest => do
    let datum ← eval setting fuel first
    return datum :: (← evalAll setting fuel rest)

/-- Puts a record into a place, or makes it the record. -/
def keep (setting : Setting) : Nat → Option Expr → ByteText → Acting Unit
  | 0, _, _ => return ()
  | _ + 1, none, record => setRecord record
  | fuel + 1, some place, record => do
    store (← locate setting fuel place) (Datum.ofInput record)

/-- The place that an expression stands for. -/
def locate (setting : Setting) : Nat → Expr → Acting Spot
  | 0, _ => return .name []
  | fuel + 1, expr => do
    match expr with
    | .name name => return .name name
    | .element table keys =>
      let key ← keyOf (← evalAll setting fuel keys)
      return .entry (← tableOf table) key
    | .field place => return .field (← placeOf (← eval setting fuel place))
    | _ => return .name []

/-- The pattern that an expression stands for. -/
def patternIn (setting : Setting) : Nat → Expr → Acting Pattern
  | 0, _ => patternOf []
  | fuel + 1, expr => do
    match expr with
    | .pattern pattern => return pattern
    | expr => patternOf (← textOf (← eval setting fuel expr))

/-- What a function gives that every program has. -/
def apply (setting : Setting) : Nat → BuiltIn → List Expr → Acting Datum
  | 0, _, _ => return .unset
  | fuel + 1, function, arguments => do
    let replaced (isAll : Bool) (pattern instead : Expr) (place : Expr) : Acting Datum := do
      let pattern ← patternIn setting fuel pattern
      let put ← textOf (← eval setting fuel instead)
      if Reading.isPlace place then
        let spot ← locate setting fuel place
        let text ← textOf (← load spot)
        let (changed, count) := replace pattern isAll put text
        if 0 < count then store spot (.text changed)
        return Datum.ofNat count
      else
        let text ← textOf (← eval setting fuel place)
        return Datum.ofNat (replace pattern isAll put text).2
    match function, arguments with
    | .length, [.name name] =>
      match ← bindingOf name with
      | .table number => return Datum.ofNat (← tableAt number).entries.size
      | .datum datum => return Datum.ofNat (← textOf datum).length
    | .search, [text, pattern] =>
      let text ← textOf (← eval setting fuel text)
      searchText (← patternIn setting fuel pattern) text
    | .substitute, [pattern, instead] => replaced false pattern instead (.field (.number 0))
    | .substitute, [pattern, instead, place] => replaced false pattern instead place
    | .substituteAll, [pattern, instead] => replaced true pattern instead (.field (.number 0))
    | .substituteAll, [pattern, instead, place] => replaced true pattern instead place
    | .split, text :: .name table :: rest =>
      let text ← textOf (← eval setting fuel text)
      let pieces ←
        match rest with
        | [] => split (← textOf (← globalOf "FS")) text
        | [.pattern pattern] =>
          if text.isEmpty then pure []
          else pure (piecesBetween pattern { chars := text.toArray } (text.length + 1) 0 0)
        | separator :: _ => do split (← textOf (← eval setting fuel separator)) text
      let number ← tableOf table
      changeTable number fun _ => Table.ofList (pieces.map Datum.ofInput)
      return Datum.ofNat pieces.length
    | function, arguments =>
      applyPlain setting.launcher function (← evalAll setting fuel arguments)

/-- What a function of the program gives. -/
def call (setting : Setting) : Nat → ByteText → List Expr → Acting Datum
  | 0, _, _ => return .unset
  | fuel + 1, name, arguments => do
    match setting.functions[name]? with
    | none => return .unset
    | some function =>
      let state ← machine
      if deepestCall ≤ state.calls then
        throw (.fault (ascii "program limit exceeded: eval stack size=1024"))
      let bindings ← bindAll setting fuel arguments
      let before := (← look (·.locals))
      let rest := List.replicate (function.parameters.length - bindings.length)
        (Binding.datum .unset)
      change fun machine =>
        { machine with
          locals := function.parameters.zip (bindings ++ rest), calls := machine.calls + 1 }
      let result ←
        tryCatchThe Leaving
          (do
            run setting fuel function.body
            return Datum.unset)
          fun
            | .function value => return value
            | leaving => throw leaving
      let after := (← look (·.locals))
      change fun machine => { machine with locals := before, calls := machine.calls - 1 }
      ((plainNames arguments).zip after).forM fun (argument, _, binding) => do
        match argument with
        | some argument => keepTable argument binding
        | none => return ()
      return result

/-- What the parameters of a function are bound to. -/
def bindAll (setting : Setting) : Nat → List Expr → Acting (List Binding)
  | 0, _ => return []
  | _ + 1, [] => return []
  | fuel + 1, first :: rest => do
    let binding ←
      match first with
      | .name name => bindingOf name
      | value => do pure (Binding.datum (← eval setting fuel value))
    return binding :: (← bindAll setting fuel rest)

/-- Runs a statement. -/
def run (setting : Setting) : Nat → Statement → Acting Unit
  | 0, _ => throw (.fault (ascii "program limit exceeded: eval stack size=1024"))
  | fuel + 1, statement => do
    tick
    match statement with
    | .evaluate value =>
      let _ ← eval setting fuel value
      return ()
    | .print isFormatted values target =>
      let data ← evalAll setting fuel values
      let (text, fault) ←
        if isFormatted then format "printf" data
        else
          let texts ←
            if data.isEmpty then do pure [(← look (·.record))] else data.mapM shownText
          let separator ← textOf (← globalOf "OFS")
          pure ((texts.intersperse separator).flatten ++ (← textOf (← globalOf "ORS")), none)
      match target with
      | none => change fun machine => { machine with written := text :: machine.written }
      | some (target, place) =>
        writeTo target (← textOf (← eval setting fuel place)) text
      match fault with
      | some fault => fail fault
      | none => return ()
    | .block body => runAll setting fuel body
    | .choose condition first second =>
      if (← eval setting fuel condition).isTrue then run setting fuel first
      else run setting fuel second
    | .loop checksFirst condition step body => loop setting fuel checksFirst condition step body
    | .forEach name table body =>
      let keys := (← tableAt (← tableOf table)).keys
      visit setting fuel name keys body
    | .leaveLoop => throw .loop
    | .continueLoop => throw .round
    | .next => throw .record
    | .nextFile => throw .file
    | .exit status =>
      match status with
      | none => throw .program
      | some status =>
        let n := (← eval setting fuel status).toNumber
        let code := (Number.bounded Number.least Number.most n % 256).toNat
        change fun machine => { machine with status := code }
        throw .program
    | .giveBack value =>
      match value with
      | none => throw (.function .unset)
      | some value => throw (.function (← eval setting fuel value))
    | .delete table keys =>
      let number ← tableOf table
      match keys with
      | none => changeTable number fun _ => {}
      | some keys =>
        let key ← keyOf (← evalAll setting fuel keys)
        changeTable number fun table => { table with entries := table.entries.erase key }

/-- Runs statements one after the other. -/
def runAll (setting : Setting) : Nat → List Statement → Acting Unit
  | 0, _ => return ()
  | _ + 1, [] => return ()
  | fuel + 1, first :: rest => do
    run setting fuel first
    runAll setting fuel rest

/-- Runs a loop.  Each step is a round. -/
def loop (setting : Setting) : Nat → Bool → Expr → Statement → Statement → Acting Unit
  | 0, _, _, _, _ => return ()
  | fuel + 1, checksFirst, condition, step, body => do
    tick
    let holds ← if checksFirst then do pure (← eval setting fuel condition).isTrue else pure true
    if !holds then return ()
    else
      match ← round (run setting fuel body) with
      | .leave => return ()
      | .goOn =>
        run setting fuel step
        loop setting fuel true condition step body

/-- Runs a statement for some keys.  Each step is a round. -/
def visit (setting : Setting) : Nat → ByteText → List ByteText → Statement → Acting Unit
  | 0, _, _, _ => return ()
  | _ + 1, _, [], _ => return ()
  | fuel + 1, name, key :: keys, body => do
    setValue name (.text key)
    match ← round (run setting fuel body) with
    | .leave => return ()
    | .goOn => visit setting fuel name keys body

end

/-- The depth that statements are run on. -/
def deepest : Nat := 100000000

/-- Whether a rule is for the current record. -/
def isSelected (setting : Setting) (place : Nat) (selector : Selector) : Acting Bool := do
  let holds (condition : Expr) : Acting Bool := do
    return (← eval setting deepest condition).isTrue
  match selector with
  | .always => return true
  | .satisfying condition => holds condition
  | .range start stop =>
    let isInside := ((← look fun machine => machine.ranges[place]?)).getD false
    if isInside || (← holds start) then
      let ends ← holds stop
      change fun machine => { machine with ranges := machine.ranges.setIfInBounds place !ends }
      return true
    else return false
  | _ => return false

/-- Runs the rules for the current record, from a place on. -/
def runRules (setting : Setting) : Nat → List Rule → Acting Unit
  | _, [] => return ()
  | place, rule :: rest => do
    if ← isSelected setting place rule.selector then
      run setting deepest (rule.action.getD (.print false [] none))
    runRules setting (place + 1) rest

/-- Runs the rules for all records.  Each step takes a record. -/
def runRecords (setting : Setting) (rules : List Rule) : Nat → Acting Unit
  | 0 => return ()
  | fuel + 1 => do
    tick
    match ← nextMain mostFiles with
    | none => return ()
    | some record =>
      setRecord record
      tryCatchThe Leaving (runRules setting 0 rules) fun
        | .record => return ()
        | .file => change fun machine => { machine with main := none }
        | leaving => throw leaving
      runRecords setting rules fuel

/-- Whether a rule is run at the begin. -/
def Rule.isAtBegin (rule : Rule) : Bool :=
  match rule.selector with
  | .atBegin => true
  | _ => false

/-- Whether a rule is run at the end. -/
def Rule.isAtEnd (rule : Rule) : Bool :=
  match rule.selector with
  | .atEnd => true
  | _ => false

/-- Runs the actions of some rules. -/
def runActions (setting : Setting) (rules : List Rule) : Acting Unit :=
  rules.forM fun rule =>
    match rule.action with
    | some action => run setting deepest action
    | none => return ()

/-- Runs a program as a whole. -/
def runSource (setting : Setting) (source : Source) : Acting Unit := do
  let atBegin := source.rules.filter Rule.isAtBegin
  let atEnd := source.rules.filter Rule.isAtEnd
  let others := source.rules.filter fun rule => !Rule.isAtBegin rule && !Rule.isAtEnd rule
  change fun machine => { machine with ranges := (others.map fun _ => false).toArray }
  tryCatchThe Leaving
    (do
      runActions setting atBegin
      if !others.isEmpty || !atEnd.isEmpty then runRecords setting others deepest)
    fun
      | .program => return ()
      | leaving => throw leaving
  tryCatchThe Leaving (runActions setting atEnd) fun
    | .program => return ()
    | leaving => throw leaving

end Acting

end SchemaDocs.Shell.Record

/-!
## Starting programs over records

The arguments of the command that runs a program over records: options, the program, and
files with assignments between them.
-/

namespace SchemaDocs.Shell.Tool

open Record

/-- What the options of the command ask for. -/
structure RecordSettings where
  /-- The parts of the program, the last one first. -/
  parts : List ByteText := []
  separator : Option ByteText := none
  /-- Assignments, the last one first. -/
  assignments : List ByteText := []
  operands : List ByteText := []

/-- Reads the options of the command.  Each step takes an argument.  What is wrong with one comes
with the code that the command ends with. -/
def recordOptions : Nat → RecordSettings → List ByteText → Program (Except Nat RecordSettings)
  | 0, settings, _ => return .ok settings
  | _ + 1, settings, [] => return .ok settings
  | fuel + 1, settings, argument :: rest => do
    let fail (text : ByteText) : Program (Except Nat RecordSettings) := do
      Program.complain text
      return .error 2
    match argument with
    | ['-', '-'] => return .ok { settings with operands := rest }
    | ['-'] => return .ok { settings with operands := argument :: rest }
    | '-' :: c :: more =>
      if c = 'F' || c = 'v' || c = 'f' then
        let (value, rest) : Option ByteText × List ByteText :=
          match more, rest with
          | [], value :: rest => (some value, rest)
          | [], [] => (none, [])
          | more, rest => (some more, rest)
        match value with
        | none => fail (ascii "option -" ++ [c] ++ ascii " lacks argument")
        | some value =>
          if c = 'F' then recordOptions fuel { settings with separator := some value } rest
          else if c = 'v' then
            if Acting.isAssignment value then
              recordOptions fuel { settings with assignments := value :: settings.assignments } rest
            else fail (ascii "improper assignment: -v " ++ value)
          else
            match ← Program.readOperand value with
            | .ok text => recordOptions fuel { settings with parts := text :: settings.parts } rest
            | .error cause =>
              fail (ascii "cannot open \"" ++ value ++ ascii ("\" (" ++ cause.reason ++ ")"))
      else fail (ascii "not an option: " ++ argument)
    | _ => return .ok { settings with operands := argument :: rest }

/-- How the command is used. -/
def recordUsage (name : ByteText) : ByteText :=
  ascii "Usage: " ++ name ++ ascii " [Options] [Program] [file ...]\n"

/-- The values of names before a program begins. -/
def firstValues : List (String × Datum) :=
  [("FS", .text [' ']), ("OFS", .text [' ']), ("RS", .text ['\n']), ("ORS", .text ['\n']),
   ("NR", .number 0), ("FNR", .number 0), ("NF", .number 0), ("SUBSEP", .text ['\x1c']),
   ("CONVFMT", .text (ascii "%.6g")), ("OFMT", .text (ascii "%.6g")), ("RSTART", .number 0),
   ("RLENGTH", .number (-1)), ("FILENAME", .text [])]

/-- What a program works on before it begins. -/
def firstMachine (settings : RecordSettings) (name : ByteText) (environment : Environment) :
    Machine :=
  let arguments := name :: settings.operands
  let table := arguments.zipIdx.foldl
    (fun (table : Table) (text, place) => table.insert (ByteText.ofNat place) (Datum.ofInput text)) {}
  let environment := environment.foldl
    (fun (table : Table) (name, value) => table.insert name (Datum.ofInput value)) {}
  let values := firstValues.foldl
    (fun (values : Std.HashMap ByteText Datum) (name, datum) => values.insert (ascii name) datum) ∅
  let values := values.insert (ascii "ARGC") (Datum.ofNat arguments.length)
  let values :=
    match settings.separator with
    | none => values
    | some text => values.insert (ascii "FS") (.text (Token.unescaped text))
  { values := values, tables := #[table, environment]
    tableNames := ((∅ : Std.HashMap ByteText Nat).insert (ascii "ARGV") 0).insert (ascii "ENVIRON") 1 }

/-- Runs a program over records. -/
def awk (launcher : Launcher) : Tool := do
  let process ← read
  match ← recordOptions (process.arguments.length + 1) {} process.arguments with
  | .error code => return code
  | .ok settings =>
    let (parts, operands) :=
      match settings.parts, settings.operands with
      | [], program :: operands => ([program], operands)
      | parts, operands => (parts.reverse, operands)
    if parts.isEmpty then
      Program.err (recordUsage process.name)
      return 0
    else
      match Source.read (parts.intersperse ['\n']).flatten with
      | .error messages =>
        messages.forM Program.complain
        return 2
      | .ok source =>
        let functions := source.functions.foldl
          (fun (functions : Std.HashMap ByteText Function) function =>
            functions.insert function.name function) ∅
        let setting : Setting := { launcher := launcher, functions := functions }
        let machine := firstMachine { settings with operands := operands } process.name
          process.environment
        let acting : Acting Unit := do
          settings.assignments.reverse.forM Acting.assignArgument
          Acting.runSource setting source
        let (result, machine) ← StateT.run (ExceptT.run acting) machine
        let (_, machine) ← StateT.run (ExceptT.run (Acting.finishAll launcher)) machine
        match result with
        | .error (.fault text) =>
          Program.complain text
          return 2
        | _ => return machine.status

end SchemaDocs.Shell.Tool
