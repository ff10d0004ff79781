import SchemaDocs.Shell.Session.Expand
import SchemaDocs.Shell.Session.Builtin.Meaning
/-!
# Running commands

What the commands of a script do.  The parts of a command are run by an interpreter that
goes one level less deep, so that functions which call themselves come to an end.
-/

namespace SchemaDocs.Shell

namespace Execution

/-! ## Signals and failures -/

/-- Does what is to be done on the signals that came. -/
def answerSignals (interpreter : Interpreter) : Action Unit := do
  let session ← Action.session
  if session.signals.isEmpty then return ()
  else
    Action.change fun session => { session with signals := [] }
    session.signals.forM fun signal => do
      match (← Action.session).traps.find? fun entry => entry.1 = signal with
      | none => return ()
      | some (_, text) =>
        let status := (← Action.session).status
        interpreter.script text
        Action.setStatus status

/-- Does what is to be done after a failure that nothing looks at. -/
def answerFailure (interpreter : Interpreter) : Action Unit := do
  let session ← Action.session
  match session.traps.find? fun entry => entry.1 = Builtin.failureTrap with
  | none => return ()
  | some (_, text) =>
    if session.callers.isEmpty || session.options.contains 'E' then
      let inner := session.traps.filter fun entry => entry.1 != Builtin.failureTrap
      Action.change fun session => { session with traps := inner }
      interpreter.script text
      Action.change fun now => { now with traps := session.traps, status := session.status }

/-- Ends the shell after a failure that nothing looks at, if it is to end then. -/
def leaveOnFailure (interpreter : Interpreter) (isTested : Bool) : Action Unit := do
  if !isTested && (← Action.session).status != 0 then
    answerFailure interpreter
    if ← Action.hasOption 'e' then throw .leave

/-! ## Simple commands -/

/-- The parts of a simple command after everything was worked out. -/
structure Call where
  fields : List ByteText
  /-- Whether functions are passed over, and special commands are taken for others. -/
  isPlain : Bool

/-- Cuts off a word that asks to pass over functions.  Each step cuts off one. -/
def withoutCommand : Nat → Call → Call
  | 0, call => call
  | fuel + 1, call =>
    match call.fields with
    | first :: rest =>
      if first = ascii "command" then
        match rest with
        | [] => call
        | ['-', '-'] :: [] => call
        | ['-', '-'] :: rest => withoutCommand fuel ⟨rest, true⟩
        | ['-', 'p'] :: [] => call
        | ['-', 'p'] :: rest => withoutCommand fuel ⟨rest, true⟩
        | ('-' :: _ :: _) :: _ => call
        | rest => withoutCommand fuel ⟨rest, true⟩
      else call
    | [] => call

/-- Whether arguments of a command may be assignments. -/
def takesAssignments (dialect : Dialect) (fields : List ByteText) : Bool :=
  let isIntroduction (name : ByteText) : Bool :=
    name = ascii "command" || (dialect = .bash && name = ascii "builtin")
  match fields.dropWhile isIntroduction with
  | first :: _ => (Builtin.find? dialect first).any Builtin.assigns
  | [] => false

/-- The fields of words, after those before them, the last one first, and the lists of elements that
are assigned by them. -/
def expandWords (interpreter : Interpreter) :
    List ByteText → List Assignment → List Word → Action (List ByteText × List Assignment)
  | before, lists, [] => return (before.reverse, lists.reverse)
  | before, lists, word :: rest => do
    let dialect := (← Action.session).dialect
    let assignment :=
      match WordPart.assignment? dialect word with
      | some assignment =>
        if takesAssignments dialect before.reverse then some assignment else none
      | none => none
    match assignment with
    | some (.assign name place appends [.elements items]) =>
      expandWords interpreter (name :: before)
        (.assign name place appends [.elements items] :: lists) rest
    | some (.assign name place appends value) =>
      let text ← Expansion.assigned interpreter value
      let place ← match place with
        | some place => do
          pure (['['] ++ (← Expansion.subscriptText interpreter place) ++ [']'])
        | none => pure []
      let sign := if appends then ['+', '='] else ['=']
      expandWords interpreter ((name ++ place ++ sign ++ text) :: before) lists rest
    | none =>
      let fields ← Expansion.fields interpreter word
      expandWords interpreter (fields.reverse ++ before) lists rest

/-- What is known of some variables. -/
def known (names : List ByteText) : Action (List (ByteText × Option Variable)) :=
  names.mapM fun name => do return (name, ← Action.pointer? name)

/-- Puts variables back. -/
def putBack (bindings : List (ByteText × Option Variable)) : Action Unit :=
  bindings.forM fun (name, old) => Action.putVariable name old

/-- Marks a variable as one that is handed on. -/
def handOn (name : ByteText) : Action Unit := do
  Action.putVariable name (some { (← Action.variableOf? name).getD {} with isExported := true })

/-- The text of an assignment that was made. -/
def tracedAssignment (assignment : Assignment) : Action ByteText := do
  let name := Assignment.name assignment
  let known := (← Action.variableOf? name).getD {}
  match known.elements with
  | some elements =>
    return name ++ ascii "=(" ++ ((elements.texts.map Quoted.traced).intersperse [' ']).flatten ++ [')']
  | none =>
    let value := known.value.getD []
    return name ++ ['='] ++ if value.isEmpty then [] else Quoted.traced value

/-- What stands before a command that is shown before it is run. -/
def traceMark : Action ByteText := do
  let mark := (← Action.value? (ascii "PS4")).getD (ascii "+ ")
  match mark with
  | c :: rest => return List.replicate (← Action.session).indirection c ++ c :: rest
  | [] => return []

/-- Shows a line before a command is run, if that is asked for. -/
def traceLine (words : List ByteText) : Action Unit := do
  if ← Action.hasOption 'x' then
    let line := (words.intersperse [' ']).flatten
    Action.program (Program.err ((← traceMark) ++ line ++ ['\n']))

/-- Gives variables their values, and hands them on if they are for a command. -/
def assignAll (interpreter : Interpreter) (isExported : Bool) : List Assignment → Action Unit
  | [] => return ()
  | first :: rest => do
    Assignment.perform interpreter first
    if ← Action.isBash then traceLine [← tracedAssignment first]
    if isExported then handOn (Assignment.name first)
    assignAll interpreter isExported rest

/-- Shows a command before it is run, if that is asked for. -/
def trace (assignments : List Assignment) (fields : List ByteText) : Action Unit := do
  if ← Action.isBash then
    if !fields.isEmpty then traceLine (fields.map Quoted.traced)
  else
    let values ← assignments.mapM fun assignment => do
      let name := Assignment.name assignment
      return name ++ ['='] ++ (← Action.value? name).getD []
    traceLine (values ++ fields)

/-- Says that the output of a command of the shell could not be written. -/
def warnOfWriting (name : ByteText) (fault : FileError) : Action Unit := do
  if ← Action.isBash then Action.warn (ascii "write error: " ++ ascii fault.reason)
  else Action.warn (name ++ ascii ": I/O error")

/-- Runs a command of the shell.  If a special one fails, the shell fails with it, unless it is the
one with more features. -/
def runBuiltin (interpreter : Interpreter) (builtin : Builtin) (isPlain : Bool)
    (arguments : List ByteText) : Action Unit := do
  let before := (← Action.session).commandName
  Action.change fun session =>
    { session with commandName := some (ascii builtin.name) }
  Action.system (modify fun world => { world with writeFault := none })
  let result ← Action.tried (do
    let status ← builtin.run interpreter arguments
    match (← Action.system get).writeFault with
    | none => Action.setStatus status
    | some fault =>
      warnOfWriting (ascii builtin.name) fault
      Action.setStatus (status ||| 1))
  Action.change fun session => { session with commandName := before }
  let isBash ← Action.isBash
  match result with
  | .error .fault => if builtin.isSpecial && !isPlain && !isBash then throw .fault else return ()
  | result => Action.resume result

/-- The greatest number of functions that may be running. -/
def deepestCall : Nat := 1000

/-- Fails because functions call each other too often. -/
def tooDeep {α : Type} : Action α :=
  Action.fail (ascii "Maximum function recursion depth (1000) reached")

/-- Runs a function with arguments of its own. -/
def runFunction (interpreter : Interpreter) (isTested : Bool) (name : ByteText)
    (function : ShellFunction) (arguments : List ByteText) : Action Unit := do
  let before ← Action.session
  if deepestCall ≤ before.calls then tooDeep
  Action.change fun session =>
    { session with
      arguments := arguments, loops := 0, calls := session.calls + 1
      hidden := [] :: session.hidden
      callers := (name, session.line) :: session.callers
      sources := function.source :: session.sources }
  let result ← Action.tried (interpreter.run isTested function.body)
  putBack ((← Action.session).hidden.head?.getD [])
  Action.change fun session =>
    { session with
      arguments := before.arguments, loops := before.loops, calls := before.calls
      hidden := before.hidden, callers := before.callers, sources := before.sources }
  match result with
  | .error .returnFrom => return ()
  | result => Action.resume result

/-- The reason that a program cannot be started, and the status for it. -/
def startFault (name : ByteText) (cause : FileError) : Action (ByteText × Nat) := do
  if (← Action.isBash) && name.contains '/'
      && (← Action.program (Program.kindOf name)) = .directory then
    return (ascii "Is a directory", 126)
  else return Action.startFault (← Action.session).dialect name cause

/-- Runs a program and takes its status. -/
def runProgram (interpreter : Interpreter) (name : ByteText) (arguments : List ByteText) :
    Action Unit := do
  match ← Action.execute interpreter name arguments with
  | .ok ending =>
    Action.mourn ending
    Action.setStatus ending.status
  | .error cause =>
    let (reason, status) ← startFault name cause
    Action.warn (name ++ ascii ": " ++ reason)
    Action.setStatus status

/-- What the first field of a command stands for. -/
inductive Meaning where
  | nothing
  | function (name : ByteText) (function : ShellFunction)
  | builtin (builtin : Builtin)
  | program

/-- What a call means. -/
def meaning (call : Call) : Action Meaning := do
  match call.fields with
  | [] => return .nothing
  | name :: _ =>
    let functions := (← Action.session).functions
    let function :=
      if call.isPlain then none else (functions.find? fun entry => entry.1 = name).map Prod.snd
    match function, Builtin.find? (← Action.session).dialect name with
    | some function, _ => return .function name function
    | none, some builtin => return .builtin builtin
    | none, none => return .program

/-- Whether assignments before a command stay after it. -/
def keepsAssignments (dialect : Dialect) (isPlain : Bool) : Meaning → Bool
  | .nothing => true
  | .builtin builtin => builtin.isSpecial && !isPlain && dialect = .sh
  | _ => false

/-- Runs what a call means, after its redirections. -/
def runMeaning (interpreter : Interpreter) (isTested : Bool) (call : Call) (meaning : Meaning) :
    Action Unit := do
  match meaning with
  | .nothing =>
    let session ← Action.session
    Action.setStatus session.substituted
  | .function name function =>
    runFunction interpreter isTested name function (call.fields.drop 1)
  | .builtin builtin => runBuiltin interpreter builtin call.isPlain (call.fields.drop 1)
  | .program => runProgram interpreter (call.fields.head?.getD []) (call.fields.drop 1)

/-- Whether a call becomes the shell, so that its redirections stay. -/
def isExec (call : Call) : Bool := call.fields.head? = some (ascii "exec")

/-- Gives the variables that a command declared their elements, even if they are not to change any
more. -/
def assignLists (interpreter : Interpreter) (lists : List Assignment) : Action Unit :=
  lists.forM fun assignment => do
    let name ← Action.target (Assignment.name assignment)
    let isReadOnly := ((← Action.variableOf? name).map Variable.isReadOnly).getD false
    let mark (isReadOnly : Bool) : Action Unit := do
      Action.putVariable name
        (some { (← Action.variableOf? name).getD {} with isReadOnly := isReadOnly })
    if isReadOnly then mark false
    Assignment.perform interpreter assignment
    if isReadOnly then mark true

/-- Runs a call with assignments for it alone. -/
def runWith (interpreter : Interpreter) (isTested : Bool) (assignments : List Assignment)
    (fields : List ByteText) (call : Call) (meaning : Meaning) : Action Unit := do
  let before ← known (assignments.map Assignment.name)
  match ← Action.tried (assignAll interpreter true assignments) with
  | .error .passLine => if !(← Action.isBash) then throw .passLine
  | .error jump => throw jump
  | .ok () => pure ()
  trace assignments fields
  let result ← Action.tried (runMeaning interpreter isTested call meaning)
  putBack before
  Action.resume result

/-- Notes what the shell knows of the command that it ran last. -/
def noteCommand (fields : List ByteText) : Action Unit := do
  if ← Action.isBash then
    Action.change fun session =>
      { session with
        lastArgument := fields.getLast?.getD [], stageStatuses := [session.status] }

/-- Runs a step and then forgets the processes that were started to be read or written by it. -/
def withReaders (interpreter : Interpreter) (step : Action Unit) : Action Unit := do
  if ← Action.isBash then
    let before := (← Action.session).descriptors.map Prod.fst
    let result ← Action.tried step
    Expansion.finishReaders interpreter
    Action.change fun session =>
      { session with
        descriptors := session.descriptors.filter fun entry =>
          entry.1 < Expansion.firstReader || before.contains entry.1 }
    Action.resume result
  else step

/-- Runs a simple command. -/
def simple (interpreter : Interpreter) (isTested : Bool) (line : Nat)
    (assignments : List Assignment) (words : List Word) (redirects : List Redirect) :
    Action Unit := do
  Action.count
  Action.change fun session => { session with line := line, substituted := 0 }
  withReaders interpreter do
    let (fields, lists) ← expandWords interpreter [] [] words
    let call := withoutCommand (fields.length + 1) ⟨fields, false⟩
    let meaning ← meaning call
    let dialect := (← Action.session).dialect
    let body : Action Unit := do
      if ← Redirection.redirect interpreter redirects then
        if keepsAssignments dialect call.isPlain meaning then
          assignAll interpreter (isExec call && 1 < call.fields.length) assignments
          trace assignments fields
          runMeaning interpreter isTested call meaning
        else runWith interpreter isTested assignments fields call meaning
        if !lists.isEmpty then assignLists interpreter lists
      else
        Action.setStatus (← Redirection.faultStatus)
        match meaning with
        | .builtin builtin =>
          if builtin.isSpecial && !call.isPlain && dialect = .sh then throw .fault
        | _ => return ()
    if isExec call && call.fields.length = 1 then body else Redirection.restored body
    noteCommand fields

/-! ## Pipelines -/

/-- What is known of the stages of a pipeline: the channel that the next one reads, when the last
one of them ended, whether one sleeps for ever, and how they ended, the last one first. -/
structure Flow where
  input : Option Nat
  latest : Nat
  sleeps : Bool
  statuses : List Nat

/-- Runs a stage of a pipeline as a process of its own. -/
def stage (interpreter : Interpreter) (command : Command) (input output : Option Nat) :
    Action Ending :=
  Action.apart interpreter do
    match input with
    | some channel => Action.setDescriptor 0 (some channel)
    | none => pure ()
    match output with
    | some channel => Action.setDescriptor 1 (some channel)
    | none => pure ()
    interpreter.run false command

/-- Runs a stage whose output another one reads. -/
def innerStage (interpreter : Interpreter) (start : Nat) (flow : Flow) (command : Command) :
    Action Flow := do
  Action.system (modify fun world => { world with milliseconds := start })
  let stream ← Action.streamed fun sink => stage interpreter command flow.input (some sink)
  stream.ending.forM Action.mourn
  let time := (← Action.system get).milliseconds
  let status := (stream.ending.map Ending.status).getD 141
  return ⟨some stream.channel, max flow.latest time, flow.sleeps || stream.sleeps,
    status :: flow.statuses⟩

/-- Runs the last stage of a pipeline, which may be the shell itself. -/
def lastStage (interpreter : Interpreter) (command : Command) (input : Option Nat) :
    Action Nat := do
  if ← Action.hasFeature "lastpipe" then
    Redirection.restored do
      match input with
      | some channel => Action.setDescriptor 0 (some channel)
      | none => pure ()
      interpreter.run false command
    return (← Action.session).status
  else
    let ending ← stage interpreter command input none
    Action.mourn ending
    return ending.status

/-- The status of a pipeline whose stages had some statuses, the last one first. -/
def pipelineStatus (isStrict : Bool) (statuses : List Nat) : Nat :=
  if isStrict then (statuses.find? (· != 0)).getD 0 else statuses.head?.getD 0

/-- Runs commands of which each reads what the one before it writes. -/
def pipeline (interpreter : Interpreter) (commands : List Command) : Action Unit := do
  Action.count
  let start := (← Action.system get).milliseconds
  let flow ← commands.dropLast.foldlM (innerStage interpreter start) ⟨none, start, false, []⟩
  Action.system (modify fun world => { world with milliseconds := start })
  match commands.getLast? with
  | none => return ()
  | some last =>
    let status ← lastStage interpreter last flow.input
    Action.system (modify fun world =>
      { world with milliseconds := max flow.latest world.milliseconds })
    if flow.sleeps then
      Action.system (System.stall .asleep)
      throw .stall
    let statuses := status :: flow.statuses
    let isStrict ← Action.hasOption '2'
    Action.change fun session =>
      { session with
        status := pipelineStatus isStrict statuses, stageStatuses := statuses.reverse }

/-! ## Processes of their own -/

/-- Runs a command as a process of its own. -/
def subshell (interpreter : Interpreter) (isTested : Bool) (line : Nat) (command : Command)
    (redirects : List Redirect) : Action Unit := do
  Action.count
  Action.change fun session => { session with line := line }
  let ending ← Action.apart interpreter do
    if ← Redirection.redirect interpreter redirects then interpreter.run isTested command
    else
      Action.setStatus (← Redirection.faultStatus)
      throw .leave
  Action.mourn ending
  Action.setStatus ending.status

/-- Runs a command as a process that is not waited for. -/
def background (interpreter : Interpreter) (command : Command) : Action Unit := do
  Action.count
  let world ← Action.system get
  let (start, writer) := (world.milliseconds, world.writer)
  let session ← Action.session
  let number := session.processId + 1 + session.jobs.length
  let budget := world.budget
  Action.system (modify fun world => { world with writer := number, budget := budget / 2 })
  let nowhere ← Action.system (System.add (.device .null))
  let result ← Action.tried (Action.apartWith interpreter 0 nowhere (interpreter.run false command))
  let world ← Action.system get
  let stop := if world.stall.isSome then world.milliseconds + 1000000 else world.milliseconds
  Action.system (modify fun world =>
    { world with milliseconds := start, stall := none, writer := writer
                 budget := if world.stall.isSome then budget / 2 else world.budget + budget / 2 })
  let ending ←
    match result with
    | .ok ending => pure ending
    | .error (.struck signal) => throw (.struck signal)
    | .error _ => pure (Ending.exited 0)
  Action.change fun session =>
    { session with jobs := ⟨number, ending, stop⟩ :: session.jobs, status := 0 }

/-! ## Loops -/

/-- Runs a step with one more loop around it. -/
def inLoop (step : Action Unit) : Action Unit := do
  let loops := (← Action.session).loops
  Action.change fun session => { session with loops := loops + 1 }
  let result ← Action.tried step
  Action.change fun session => { session with loops := loops }
  Action.resume result

/-- Runs a turn of a loop, and tells whether there may be another one. -/
def turn (step : Action Bool) : Action Bool := do
  match ← Action.tried step with
  | .error (.breakLoop levels) => if levels ≤ 1 then return false else throw (.breakLoop (levels - 1))
  | .error (.continueLoop levels) =>
    if levels ≤ 1 then return true else throw (.continueLoop (levels - 1))
  | result => Action.resume result

/-- Runs turns of a loop as long as its test says so.  Each turn is counted. -/
def loopFrom (interpreter : Interpreter) (isTested isUntil : Bool) (test body : Command) :
    Nat → Nat → Action Unit
  | 0, status => Action.setStatus status
  | fuel + 1, status => do
    Action.count
    let isOn ← turn do
      interpreter.run true test
      if ((← Action.session).status = 0) = !isUntil then
        interpreter.run isTested body
        return true
      else
        Action.setStatus status
        return false
    if isOn then
      loopFrom interpreter isTested isUntil test body fuel (← Action.session).status
    else return ()

/-- Runs a loop. -/
def loop (interpreter : Interpreter) (isTested isUntil : Bool) (test body : Command) :
    Action Unit := do
  let budget := (← Action.system get).budget
  inLoop (loopFrom interpreter isTested isUntil test body (budget + 1) 0)

/-- Gives the variable of an iteration its next value, and tells whether that worked. -/
def assignTurn (name value : ByteText) : Action Bool := do
  if ← Action.isBash then
    match ← Action.tried (Action.assign name value) with
    | .ok () => return true
    | .error .passLine => return false
    | .error jump => throw jump
  else
    Action.assign name value
    return true

/-- Runs a turn of an iteration for each value. -/
def iterateOver (interpreter : Interpreter) (isTested : Bool) (name : ByteText)
    (shown : List ByteText) (body : Command) : List ByteText → Action Unit
  | [] => return ()
  | value :: rest => do
    if ← Action.isBash then traceLine shown
    if ← assignTurn name value then
      let isOn ← turn do
        interpreter.run isTested body
        return true
      if isOn then iterateOver interpreter isTested name shown body rest else return ()
    else return ()

/-- Runs a command for each field of some words. -/
def iteration (interpreter : Interpreter) (isTested : Bool) (line : Nat) (name : ByteText)
    (words : List Word) (body : Command) : Action Unit := do
  Action.change fun session => { session with line := line }
  if !isName name then
    Action.warn (['\x60'] ++ name ++ ascii "': not a valid identifier")
    Action.setStatus 1
  else
    let values := (← words.mapM (Expansion.fields interpreter)).flatten
    Action.setStatus 0
    let shown := [ascii "for", name, ascii "in"] ++ words.map WordPart.written
    inLoop (iterateOver interpreter isTested name shown body values)

/-- The value of an expression between two parentheses, unless something is wrong with it. -/
def countingValue (interpreter : Interpreter) (expression : Word) : Action (Option Int64) := do
  let text := unmarked (← Expansion.wordText interpreter expression)
  traceLine [ascii "((", (text.dropWhile (· = ' ')), ascii "))"]
  Calculation.evaluate? (some (ascii "((")) text

/-- Runs turns of a loop over numbers as long as the test is other than zero. -/
def countFrom (interpreter : Interpreter) (isTested : Bool) (test step : Word) (body : Command) :
    Nat → Nat → Action Unit
  | 0, status => Action.setStatus status
  | fuel + 1, status => do
    Action.count
    let value ← if test.isEmpty then pure (some 1) else countingValue interpreter test
    match value with
    | none => Action.setStatus 1
    | some value =>
      if value = 0 then Action.setStatus status
      else
        let isOn ← turn do
          interpreter.run isTested body
          return true
        let status := (← Action.session).status
        if isOn then
          let next ← if step.isEmpty then pure (some 1) else countingValue interpreter step
          if next.isSome then countFrom interpreter isTested test step body fuel status
          else Action.setStatus 1
        else return ()

/-- Runs a loop over numbers. -/
def counting (interpreter : Interpreter) (isTested : Bool) (line : Nat) (start test step : Word)
    (body : Command) : Action Unit := do
  Action.change fun session => { session with line := line }
  let budget := (← Action.system get).budget
  let first ← if start.isEmpty then pure (some 0) else countingValue interpreter start
  if first.isSome then
    inLoop (countFrom interpreter isTested (withoutBlanks test) (withoutBlanks step) body
      (budget + 1) 0)
  else Action.setStatus 1
where
  /-- Nothing in place of a word of blanks. -/
  withoutBlanks (word : Word) : Word :=
    let isBlank : WordPart → Bool
      | .text chars _ => chars.all Calculation.isBlank
      | _ => false
    if word.all isBlank then [] else word

/-! ## Choices -/

/-- Whether a pattern of a choice matches a value. -/
def matchesChoice (interpreter : Interpreter) (value : ByteText) (pattern : Word) :
    Action Bool := do
  if ← Action.isBash then Truth.matchesCase interpreter value pattern
  else return (← Expansion.pattern interpreter pattern).matchesAll value

/-- Runs the command of the first choice with a pattern that matches a value, or of one that comes
after a choice that falls through. -/
def choose (interpreter : Interpreter) (isTested : Bool) (value : ByteText) :
    Bool → List (List Word × Option Command × ChoiceEnd) → Action Unit
  | _, [] => return ()
  | falls, (patterns, body, ending) :: rest => do
    let isMatch ← if falls then pure true else patterns.anyM (matchesChoice interpreter value)
    if isMatch then
      match body with
      | some body => interpreter.run isTested body
      | none => Action.setStatus 0
      match ending with
      | .stop => return ()
      | .fall => choose interpreter isTested value true rest
      | .search => choose interpreter isTested value false rest
    else choose interpreter isTested value false rest

/-- Runs the command that a value chooses. -/
def selection (interpreter : Interpreter) (isTested : Bool) (line : Nat) (word : Word)
    (choices : List (List Word × Option Command × ChoiceEnd)) : Action Unit := do
  Action.change fun session => { session with line := line }
  let value ← Expansion.text interpreter word
  if ← Action.isBash then traceLine [ascii "case", WordPart.written word, ascii "in"]
  Action.setStatus 0
  choose interpreter isTested value false choices

/-- Runs a command between two parentheses, which holds if its value is other than zero. -/
def arithmetic (interpreter : Interpreter) (line : Nat) (expression : Word) : Action Unit := do
  Action.count
  Action.change fun session => { session with line := line }
  let value ← countingValue interpreter expression
  Action.setStatus (if value.any (· ≠ 0) then 0 else 1)
  noteCommand []

/-- A condition as it is shown before it is looked at. -/
def shownTest (interpreter : Interpreter) : Test → Action ByteText
  | .unary operator operand => do
    return operator ++ [' '] ++ Quoted.traced (← Expansion.text interpreter operand)
  | .binary operator first second => do
    let first ← Expansion.text interpreter first
    let second ← Expansion.text interpreter second
    return Quoted.traced first ++ [' '] ++ operator ++ [' '] ++ second
  | .not test => do return ascii "! " ++ (← shownTest interpreter test)
  | .and first _ => shownTest interpreter first
  | .or first _ => shownTest interpreter first

/-- Looks at a condition between brackets. -/
def test (interpreter : Interpreter) (line : Nat) (test : Test) : Action Unit := do
  Action.count
  Action.change fun session => { session with line := line }
  if ← Action.hasOption 'x' then
    traceLine [ascii "[[", ← shownTest interpreter test, ascii "]]"]
  Action.setStatus (← Truth.judge interpreter test).status
  noteCommand []

/-- A time in seconds with so many digits behind the point. -/
def seconds (places milliseconds : Nat) : ByteText :=
  let digits := ByteText.ofNat (1000 + milliseconds % 1000)
  ByteText.ofNat (milliseconds / 1000) ++ ['.'] ++ (digits.drop 1).take places

/-- Runs a command and tells how long it took. -/
def timed (interpreter : Interpreter) (isTested isPlain : Bool) (command : Option Command) :
    Action Unit := do
  let start := (← Action.system get).milliseconds
  match command with
  | some command => interpreter.run isTested command
  | none => Action.setStatus 0
  let time := (← Action.system get).milliseconds - start
  let lines :=
    if isPlain then
      [ascii "real " ++ seconds 2 time, ascii "user 0.00", ascii "sys 0.00"]
    else
      [[], ascii "real\t" ++ ByteText.ofNat (time / 60000) ++ ['m'] ++ seconds 3 (time % 60000)
        ++ ['s'], ascii "user\t0m0.000s", ascii "sys\t0m0.000s"]
  Action.program (Program.err (ByteText.unlines lines))

/-- Runs a branch of a command. -/
def branch (interpreter : Interpreter) (isTested : Bool) (test body : Command)
    (otherwise : Option Command) : Action Unit := do
  interpreter.run true test
  if (← Action.session).status = 0 then interpreter.run isTested body
  else
    match otherwise with
    | some command => interpreter.run isTested command
    | none => Action.setStatus 0

/-! ## All commands -/

/-- The commands of a sequence, one after the other, before others. -/
def flatten : Command → List Command → List Command
  | .sequence first second, rest => flatten first (flatten second rest)
  | command, rest => command :: rest

/-- Runs a command, where the parts of it are run by an interpreter. -/
def runOne (interpreter : Interpreter) (isTested : Bool) : Command → Action Unit
  | .simple line assignments words redirects => do
    simple interpreter isTested line assignments words redirects
    leaveOnFailure interpreter isTested
  | .pipeline commands => do
    pipeline interpreter commands
    leaveOnFailure interpreter isTested
  | .negation command => do
    interpreter.run true command
    let status := (← Action.session).status
    Action.setStatus (if status = 0 then 1 else 0)
  | .conjunction first second => do
    interpreter.run true first
    if (← Action.session).status = 0 then interpreter.run isTested second
  | .disjunction first second => do
    interpreter.run true first
    if (← Action.session).status != 0 then interpreter.run isTested second
  | .sequence first second => do
    interpreter.run isTested first
    interpreter.run isTested second
  | .background line command => do
    Action.change fun session => { session with line := line }
    background interpreter command
  | .redirected line command redirects => do
    Action.change fun session => { session with line := line }
    withReaders interpreter do
      Redirection.restored do
        if ← Redirection.redirect interpreter redirects then interpreter.run isTested command
        else Action.setStatus (← Redirection.faultStatus)
  | .subshell line command redirects => do
    subshell interpreter isTested line command redirects
    leaveOnFailure interpreter isTested
  | .branch test body otherwise => branch interpreter isTested test body otherwise
  | .loop isUntil test body => loop interpreter isTested isUntil test body
  | .iteration line name words body => iteration interpreter isTested line name words body
  | .counting line start test step body =>
    counting interpreter isTested line start test step body
  | .selection line word choices => selection interpreter isTested line word choices
  | .arithmetic line expression => do
    arithmetic interpreter line expression
    leaveOnFailure interpreter isTested
  | .test line condition => do
    test interpreter line condition
    leaveOnFailure interpreter isTested
  | .timed isPlain command => timed interpreter isTested isPlain command
  | .definition _ name body => do
    Action.change fun session =>
      let others := session.functions.filter fun entry => entry.1 != name
      let source :=
        if session.scriptName = ascii "-c" && session.sources.isEmpty then ascii "environment"
        else session.sources.head?.getD session.name
      { session with functions := (name, ⟨body, source⟩) :: others, status := 0 }

/-- Runs a command and answers the signals that come meanwhile. -/
def run (interpreter : Interpreter) (isTested : Bool) (command : Command) : Action Unit :=
  (flatten command []).forM fun command => do
    if !(← Action.hasOption 'n') then
      runOne interpreter isTested command
      answerSignals interpreter

/-! ## Scripts -/

/-- Says what is wrong with a script of the shell with more features. -/
def warnOfScript (line : Nat) (text : ByteText) : Action Unit := do
  let session ← Action.session
  let script :=
    if session.scriptName.isEmpty || session.scriptName = (← Action.source) then []
    else session.scriptName ++ ascii ": "
  Action.program (Program.err ((← Action.source) ++ ascii ": " ++ script ++ ascii "line "
    ++ ByteText.ofNat line ++ ascii ": " ++ text ++ ['\n']))

/-- Says what was odd about a line of a script. -/
def tellWarnings (warnings : List (Nat × ByteText)) : Action Unit := do
  if ← Action.isBash then
    warnings.forM fun (line, text) => do
      let line := ByteText.ofNat line
      Action.program (Program.err
        ((← Action.source) ++ ascii ": line " ++ line ++ ascii ": " ++ text ++ ['\n']))

/-- Fails because a script is not well written, or stops there. -/
def refuseScript (fault : ScriptError) : Action Unit := do
  if ← Action.isBash then
    fault.texts.forM (warnOfScript fault.line)
    Action.setStatus fault.status
  else
    Action.change fun session => { session with line := fault.line }
    Action.fail fault.texts.flatten

/-- Runs a line of a script.  What goes wrong in some way makes the shell go on with the next line. -/
def runLine (interpreter : Interpreter) (command : Command) : Action Unit := do
  match ← Action.tried (interpreter.run false command) with
  | .error .passLine => Action.setStatus 1
  | result => Action.resume result

/-- Runs the lines of a script, each before the next one is read.  Each step reads a line. -/
def scriptFrom (interpreter : Interpreter) : Nat → Bool → Reader → Action Unit
  | 0, _, _ => return ()
  | fuel + 1, hasRun, reader => do
    let session ← Action.session
    let isBash := session.dialect = .bash
    let expandsAliases := !isBash || session.features.contains (ascii "expand_aliases")
    let reader :=
      { reader with
        documents := session.documents, nextDocument := session.documents.length
        aliases := if expandsAliases then session.aliases else []
        groupsPatterns := session.features.contains (ascii "extglob") }
    match readLine Grammar.full reader with
    | .error fault => refuseScript fault
    | .ok none => if hasRun then return () else Action.setStatus 0
    | .ok (some (command, reader)) =>
      Action.change fun session =>
        { session with documents := reader.documents, linesRead := reader.line - 1 }
      tellWarnings reader.warnings
      let reader := { reader with warnings := [] }
      match command with
      | none => scriptFrom interpreter fuel hasRun reader
      | some command =>
        runLine interpreter command
        scriptFrom interpreter fuel true reader

/-- A text that ends in a line feed, as far as that says nothing else. -/
def completed (text : ByteText) : ByteText :=
  match text.getLast? with
  | none => text
  | some c => if c = '\n' || c = '\\' then text else text ++ ['\n']

/-- Runs a text as a script, whose lines are counted from some number on. -/
def script (interpreter : Interpreter) (line : Nat) (text : ByteText) : Action Unit := do
  let dialect := (← Action.session).dialect
  let text := if dialect = .bash then completed text else text
  scriptFrom interpreter (text.length + 1) false { dialect := dialect, rest := text, line := line }

end Execution

/-- The interpreter that goes so many levels deep. -/
def Interpreter.ofDepth (launcher : Launcher) : Nat → Interpreter
  | 0 =>
    { run := fun _ _ => Execution.tooDeep
      expand := fun _ => Execution.tooDeep
      script := fun _ => Execution.tooDeep
      scriptFrom := fun _ _ => Execution.tooDeep
      launcher := launcher }
  | depth + 1 =>
    let inner := Interpreter.ofDepth launcher depth
    { run := Execution.run inner
      expand := Expansion.pieces inner
      script := Execution.script inner 1
      scriptFrom := Execution.script inner
      launcher := launcher }

end SchemaDocs.Shell
