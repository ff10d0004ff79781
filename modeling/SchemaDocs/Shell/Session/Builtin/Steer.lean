import SchemaDocs.Shell.Session.Builtin.Control
import SchemaDocs.Shell.Session.Builtin.Basic
import SchemaDocs.Shell.Session.Field
/-!
# Steering the shell with more features

Leaving loops, functions and the shell, running texts and files as scripts, signals and
jobs, and directories with those to go back to.
-/

namespace SchemaDocs.Shell

namespace Steer

/-- Fails with a message so that the rest of the line is passed over. -/
def abandonLine {α : Type} (status : Nat) (text : ByteText) : Action α := do
  Action.warn text
  Action.setStatus status
  throw .passLine

/-! ## Jumps -/

/-- A whole number as a status. -/
def statusOf (value : Int) : Nat := (value % 256).toNat

/-- Ends the shell with a status. -/
def exitShell (arguments : List ByteText) : Action Nat := do
  match arguments with
  | [] => throw .leave
  | text :: rest =>
    match Builtin.integer? text with
    | none =>
      Action.warn (text ++ ascii ": numeric argument required")
      Action.setStatus 2
      throw .leave
    | some value =>
      if !rest.isEmpty then abandonLine 1 (ascii "too many arguments")
      else
        Action.setStatus (statusOf value)
        throw .leave

/-- Ends the function or the script that is running. -/
def returnFrom (arguments : List ByteText) : Action Nat := do
  if (← Action.session).sources.isEmpty then
    Action.failWith 2 (ascii "can only \x60return' from a function or sourced script")
  else
    match arguments with
    | [] => throw .returnFrom
    | text :: rest =>
      match Builtin.integer? text with
      | none =>
        Action.warn (text ++ ascii ": numeric argument required")
        Action.setStatus 2
        throw .returnFrom
      | some value =>
        if !rest.isEmpty then abandonLine 1 (ascii "too many arguments")
        else
          Action.setStatus (statusOf value)
          throw .returnFrom

/-- Ends loops, or goes on with their next turn. -/
def leaveLoops (jump : Nat → Jump) (arguments : List ByteText) : Action Nat := do
  let loops := (← Action.session).loops
  if loops = 0 then
    Action.warn (ascii "only meaningful in a \x60for', \x60while', or \x60until' loop")
    return 0
  else
    match arguments with
    | [] =>
      Action.setStatus 0
      throw (jump 1)
    | text :: rest =>
      match Builtin.integer? text with
      | none =>
        Action.warn (text ++ ascii ": numeric argument required")
        Action.setStatus 128
        throw .leave
      | some value =>
        if !rest.isEmpty then abandonLine 1 (ascii "too many arguments")
        else if value ≤ 0 then
          Action.warn (text ++ ascii ": loop count out of range")
          Action.setStatus 1
          throw (.breakLoop loops)
        else
          Action.setStatus 0
          throw (jump (min value.toNat loops))

/-! ## Scripts -/

/-- Runs a step with a name for the script in messages about how it is written. -/
def named (name : ByteText) (step : Action Unit) : Action Unit := do
  let before ← Action.session
  Action.change fun session =>
    { session with
      scriptName := name, commandName := none, indirection := session.indirection + 1 }
  let result ← Action.tried step
  Action.change fun session =>
    { session with
      scriptName := before.scriptName, commandName := before.commandName
      indirection := before.indirection, linesRead := before.linesRead }
  Action.resume result

/-- Runs the arguments as a script. -/
def evaluate (interpreter : Interpreter) (arguments : List ByteText) : Action Nat := do
  let (_, arguments) ← Usage.options "" arguments
  if arguments.isEmpty then return 0
  else
    let line := (← Action.session).linesRead
    named (ascii "eval") (interpreter.scriptFrom line (arguments.intersperse [' ']).flatten)
    return (← Action.session).status

/-- The path of a script by its name. -/
def scriptPath (name : ByteText) : Action ByteText := do
  match ← Builtin.scriptPath? name with
  | some path => return path
  | none => return name

/-- Runs the text of a script that is read into this shell. -/
def runSource (interpreter : Interpreter) (path text : ByteText) (arguments : List ByteText) :
    Action Nat := do
  let before ← Action.session
  Action.change fun session =>
    { session with
      sources := path :: session.sources
      arguments := if arguments.isEmpty then session.arguments else arguments }
  let result ← Action.tried (named path (interpreter.script text))
  Action.change fun session =>
    { session with
      sources := before.sources, line := before.line
      arguments := if arguments.isEmpty then session.arguments else before.arguments }
  match result with
  | .error .returnFrom => return (← Action.session).status
  | result =>
    Action.resume result
    return (← Action.session).status

/-- Runs the file of a name as a script in this shell. -/
def source (interpreter : Interpreter) (arguments : List ByteText) : Action Nat := do
  let (_, operands) ← Usage.options "" arguments
  match operands with
  | [] => Usage.refuse (ascii "filename argument required")
  | name :: rest =>
    let path ← scriptPath name
    let complain (path : ByteText) (reason : ByteText) : Action Nat := do
      Action.change fun session => { session with commandName := none }
      Action.failWith 1 (path ++ ascii ": " ++ reason)
    if (← Action.program (Program.kindOf path)) = .directory then
      Action.failWith 1 (path ++ ascii ": is a directory")
    else
      match ← Action.program (Program.openInput path) with
      | .error cause => complain name (ascii cause.reason)
      | .ok channel =>
        let text ← Action.system (System.readAll channel)
        Action.settle
        runSource interpreter path text rest

/-- Becomes another program. -/
def become (interpreter : Interpreter) (arguments : List ByteText) : Action Nat := do
  let (_, operands) ← Usage.options "cla:" arguments
  match operands with
  | [] => return 0
  | name :: rest =>
    match ← Action.execute interpreter name rest with
    | .ok ending => throw (.finish ending)
    | .error cause =>
      let isDirectory := (← Action.program (Program.kindOf name)) = .directory
      if cause = .notFound then
        let reason := if name.contains '/' then "No such file or directory" else "not found"
        if name.contains '/' then
          let shown := (← Action.session).commandName
          Action.change fun session => { session with commandName := none }
          Action.warn (name ++ ascii ": " ++ ascii reason)
          Action.change fun session => { session with commandName := shown }
        else Action.warn (name ++ ascii ": " ++ ascii reason)
        Action.setStatus 127
      else
        let reason := ascii (if isDirectory then "Is a directory" else cause.reason)
        let shown := (← Action.session).commandName
        Action.change fun session => { session with commandName := none }
        Action.warn (name ++ ascii ": " ++ reason)
        Action.change fun session => { session with commandName := shown }
        Action.warn (name ++ ascii ": cannot execute: " ++ reason)
        Action.setStatus 126
      throw .leave

/-! ## Signals -/

/-- The number of a signal from its name or its number. -/
def signal? (text : ByteText) : Option Nat :=
  let name := text.map Char.toUpper
  if name = ascii "ERR" then some Builtin.failureTrap
  else if name = ascii "DEBUG" then some (Builtin.failureTrap + 1)
  else if name = ascii "RETURN" then some (Builtin.failureTrap + 2)
  else if (ascii "SIG").isPrefixOf name then Signal.ofName? (name.drop 3)
  else Builtin.signal? text

/-- The name of a signal. -/
def signalName (signal : Nat) : ByteText :=
  if signal = 0 then ascii "EXIT"
  else if signal = Builtin.failureTrap then ascii "ERR"
  else if signal = Builtin.failureTrap + 1 then ascii "DEBUG"
  else if signal = Builtin.failureTrap + 2 then ascii "RETURN"
  else
    match Signal.name? signal with
    | some name => ascii "SIG" ++ ascii name
    | none => ByteText.ofNat signal

/-- Lists what is done on signals. -/
def listTraps (signals : Option (List Nat)) : Action Unit := do
  let traps := (← Action.session).traps.mergeSort fun a b => a.1 ≤ b.1
  traps.forM fun (signal, text) => do
    if signals.all fun signals => signals.contains signal then
      Builtin.outLine (ascii "trap -- " ++ Quoted.single text ++ [' '] ++ signalName signal)

/-- Lists the signals by number, five in a line. -/
def listSignals : Action Unit := do
  let known := (List.range 65).filter fun signal => signal != 0 && signal != 32 && signal != 33
  let name (signal : Nat) : ByteText :=
    if signal < 32 then signalName signal
    else if signal = 34 then ascii "SIGRTMIN"
    else if signal = 64 then ascii "SIGRTMAX"
    else if signal < 50 then ascii "SIGRTMIN+" ++ ByteText.ofNat (signal - 34)
    else ascii "SIGRTMAX-" ++ ByteText.ofNat (64 - signal)
  let items := known.map fun signal =>
    ByteText.padLeft 2 (ByteText.ofNat signal) ++ ascii ") " ++ name signal
  let lines := items.zipIdx.map fun (item, n) =>
    item ++ if (n + 1) % 5 = 0 || n + 1 = items.length then ['\n'] else ['\t']
  Builtin.out lines.flatten

/-- Says what is to be done on signals. -/
def trap (arguments : List ByteText) : Action Nat := do
  let (options, operands) ← Usage.options "lp" arguments
  let numbers (names : List ByteText) (put : Nat → Action Unit) : Action Nat :=
    names.foldlM (fun status name => do
      match signal? name with
      | some signal =>
        put signal
        return status
      | none =>
        Action.warn (name ++ ascii ": invalid signal specification")
        return 1) 0
  let putText (text : Option ByteText) (signal : Nat) : Action Unit :=
    Action.change fun session =>
      let others := session.traps.filter fun entry => entry.1 != signal
      { session with traps := match text with
          | some text => (signal, text) :: others
          | none => others }
  if Usage.has options 'l' then
    listSignals
    return 0
  else
    match operands with
    | [] =>
      listTraps none
      return 0
    | first :: rest =>
      if Usage.has options 'p' then numbers operands fun signal => listTraps (some [signal])
      else if rest.isEmpty then
        match signal? first with
        | some signal =>
          putText none signal
          return 0
        | none =>
          Usage.tell
          return 2
      else if first = ['-'] || (ByteText.toNat? first).isSome then
        numbers (if first = ['-'] then rest else operands) (putText none)
      else numbers rest (putText (some first))

/-- Lets a signal come to the part of the shell that is run on its own. -/
def receiveApart (signal : Nat) : Action Unit := do
  if Signal.isHarmless signal || (← Action.session).traps.any fun entry => entry.1 = signal then
    Builtin.receive signal
  else throw (.finish (.killed signal))

/-- Sends a signal to processes. -/
def send (signal : Nat) (targets : List ByteText) : Action Nat :=
  targets.foldlM (fun status text => do
    match Builtin.integer? text with
    | none =>
      if text.head? = some '%' then
        let jobs := (← Action.session).jobs
        let chosen := match ByteText.toNat? (text.drop 1) with
          | some place => if place = 0 then none else jobs.reverse[place - 1]?
          | none => if text.drop 1 = ['-'] then jobs[1]? else jobs.head?
        match chosen with
        | some job =>
          Builtin.strike signal job.number
          return status
        | none => Action.warn (text ++ ascii ": no such job")
      else Action.warn (text ++ ascii ": arguments must be process or job IDs")
      return 1
    | some number =>
      let session ← Action.session
      if 0 < session.depth && number = session.processId + session.depth then
        receiveApart signal
        return status
      else if number = session.processId || number = 0 then
        Builtin.receive signal
        return status
      else if session.jobs.any fun job => (job.number : Int) = number then
        Builtin.strike signal number.toNat
        return status
      else
        Action.warn (['('] ++ ByteText.ofInt number ++ ascii ") - No such process")
        return 1) 0

/-- Lists signals by number, or tells the names or numbers of some. -/
def nameSignals (operands : List ByteText) : Action Nat := do
  if operands.isEmpty then
    listSignals
    return 0
  else
    operands.foldlM (fun status text => do
      match ByteText.toNat? text with
      | some number =>
        let signal := if 128 < number then number - 128 else number
        match Signal.name? signal with
        | some name =>
          Builtin.outLine (ascii name)
          return status
        | none =>
          if signal = 0 then
            Builtin.outLine (ascii "EXIT")
            return status
          else
            Action.warn (text ++ ascii ": invalid signal specification")
            return 1
      | none =>
        match signal? text with
        | some signal =>
          Builtin.outLine (ByteText.ofNat signal)
          return status
        | none =>
          Action.warn (text ++ ascii ": invalid signal specification")
          return 1) 0

/-- Sends a signal to processes, or lists the names of signals. -/
def kill (arguments : List ByteText) : Action Nat := do
  let usage : Action Nat := do
    Usage.tell
    return 2
  let sendNamed (name : ByteText) (targets : List ByteText) : Action Nat := do
    match signal? name with
    | some signal => if targets.isEmpty then usage else send signal targets
    | none => Action.failWith 1 (name ++ ascii ": invalid signal specification")
  match arguments with
  | [] => usage
  | ['-', 'l'] :: rest => nameSignals rest
  | ['-', 'L'] :: rest => nameSignals rest
  | ['-', '-'] :: rest => if rest.isEmpty then usage else send 15 rest
  | ['-', 's'] :: [] => Action.failWith 1 (ascii "-s: option requires an argument")
  | ['-', 'n'] :: [] => Action.failWith 1 (ascii "-n: option requires an argument")
  | ['-', 's'] :: name :: rest => sendNamed name rest
  | ['-', 'n'] :: name :: rest => sendNamed name rest
  | ('-' :: c :: cs) :: rest => sendNamed (c :: cs) rest
  | operands => send 15 operands

/-- Waits for processes in the background. -/
def waitFor (arguments : List ByteText) : Action Nat := do
  let (options, operands) ← Usage.options "fnp:" arguments
  let catchUp (time : Nat) : Action Unit :=
    Action.system (modify fun world => { world with milliseconds := max world.milliseconds time })
  if Usage.has options 'n' && operands.isEmpty then
    match (← Action.session).jobs.reverse with
    | [] => return 127
    | job :: rest =>
      let first := rest.foldl
        (fun (first : BackgroundJob) other =>
          if other.milliseconds < first.milliseconds then other else first) job
      catchUp first.milliseconds
      Action.change fun session =>
        { session with jobs := session.jobs.filter fun other => other.number != first.number }
      return first.ending.status
  else if operands.isEmpty then
    (← Action.session).jobs.forM fun job => catchUp job.milliseconds
    return 0
  else
    operands.foldlM (fun _ text => do
      match text with
      | '%' :: _ =>
        match (← Action.session).jobs.head? with
        | some job =>
          catchUp job.milliseconds
          return job.ending.status
        | none =>
          Action.warn (text ++ ascii ": no such job")
          return 127
      | text =>
        match ByteText.toNat? text with
        | none =>
          Action.warn (['\x60'] ++ text ++ ascii "': not a pid or valid job spec")
          return 1
        | some number =>
          match (← Action.session).jobs.find? fun job => job.number = number with
          | some job =>
            catchUp job.milliseconds
            return job.ending.status
          | none =>
            Action.warn (ascii "pid " ++ text ++ ascii " is not a child of this shell")
            return 127) 0

/-! ## Directories -/

/-- Moves to a directory, or fails with the reason that this is not possible. -/
def moveOrFail (isPhysical isShown : Bool) (path : ByteText) : Action Unit := do
  let candidates ← if path.isEmpty then pure [] else Builtin.candidates path
  if path.isEmpty then return ()
  else if ← Builtin.moveToFirst isPhysical isShown candidates then return ()
  else
    let reason := match ← Action.program (Program.kindOf path) with
      | .missing => FileError.notFound
      | _ => FileError.notADirectory
    Action.failWith 1 (path ++ ascii ": " ++ ascii reason.reason)

/-- The value of a variable that has to be there. -/
def needed (name : String) : Action ByteText := do
  match ← Action.value? (ascii name) with
  | some value => return value
  | none => Action.failWith 1 (ascii name ++ ascii " not set")

/-- Moves to another directory. -/
def changeDirectory (arguments : List ByteText) : Action Nat := do
  let (options, operands) ← Usage.options "eLP@" arguments
  let isPhysical := Builtin.asksForPhysical (options.filter fun option => option.1 != 'e')
  match operands with
  | [] => moveOrFail isPhysical false (← needed "HOME")
  | [['-']] => moveOrFail isPhysical true (← needed "OLDPWD")
  | [path] => moveOrFail isPhysical false path
  | _ => Action.failWith 1 (ascii "too many arguments")
  return 0

/-- Tells the directory. -/
def tellDirectory (arguments : List ByteText) : Action Nat := do
  let (options, _) ← Usage.options "LP" arguments
  let session ← Action.session
  Builtin.outLine
    (if Builtin.asksForPhysical options then Builtin.directoryPath session.directory
     else session.path)
  return 0

/-- A path with the home directory at its start written as a tilde. -/
def withHome (path : ByteText) : Action ByteText := do
  match ← Action.value? (ascii "HOME") with
  | some home =>
    if !home.isEmpty && (path = home || (home ++ ['/']).isPrefixOf path) then
      return '~' :: path.drop home.length
    else return path
  | none => return path

/-- Tells the directories to go back to. -/
def tellStack (arguments : List ByteText) : Action Nat := do
  let (options, operands) ← Usage.options "clpv" arguments
  if Usage.has options 'c' then
    Action.change fun session => { session with stack := [] }
    return 0
  else
    let session ← Action.session
    let whole := session.path :: session.stack
    let shown ← if Usage.has options 'l' then pure whole else whole.mapM withHome
    match operands with
    | [] =>
      if Usage.has options 'v' then
        shown.zipIdx.forM fun (path, n) =>
          Builtin.outLine (ByteText.padLeft 2 (ByteText.ofNat n) ++ ascii "  " ++ path)
      else if Usage.has options 'p' then shown.forM Builtin.outLine
      else Builtin.outLine (shown.intersperse [' ']).flatten
      return 0
    | text :: _ =>
      match ByteText.toNat? (text.drop 1) with
      | some n =>
        let found := if text.head? = some '-' then shown.reverse[n]? else shown[n]?
        match found with
        | some path =>
          Builtin.outLine path
          return 0
        | none =>
          if session.stack.isEmpty then Action.failWith 1 (ascii "directory stack empty")
          else Action.failWith 1 (text ++ ascii ": directory stack index out of range")
      | none => Action.failWith 1 (text ++ ascii ": invalid number")

/-- Moves to a directory to go back from. -/
def pushDirectory (arguments : List ByteText) : Action Nat := do
  let session ← Action.session
  match arguments with
  | [] =>
    match session.stack with
    | [] => Action.failWith 1 (ascii "no other directory")
    | top :: rest =>
      moveOrFail false false top
      Action.change fun now => { now with stack := session.path :: rest }
  | ['-', 'n'] :: path :: _ =>
    Action.change fun now => { now with stack := path :: session.stack }
  | (sign :: digits) :: _ =>
    let whole := session.path :: session.stack
    match if sign = '+' || sign = '-' then ByteText.toNat? digits else none with
    | some n =>
      let place := if sign = '+' then n else whole.length - 1 - n
      if whole.length ≤ n then
        Action.failWith 1 ((sign :: digits) ++ ascii ": directory stack index out of range")
      else
        match whole.drop place ++ whole.take place with
        | top :: rest =>
          moveOrFail false false top
          Action.change fun now => { now with stack := rest }
        | [] => pure ()
    | none =>
      moveOrFail false false (sign :: digits)
      Action.change fun now => { now with stack := session.path :: session.stack }
  | [] :: _ => pure ()
  tellStack []

/-- Goes back to a directory. -/
def popDirectory (arguments : List ByteText) : Action Nat := do
  let session ← Action.session
  match session.stack, arguments with
  | [], _ => Action.failWith 1 (ascii "directory stack empty")
  | _ :: rest, ['-', 'n'] :: _ =>
    Action.change fun now => { now with stack := rest }
    tellStack []
  | top :: rest, [] =>
    moveOrFail false false top
    Action.change fun now => { now with stack := rest }
    tellStack []
  | stack, (sign :: digits) :: _ =>
    match ByteText.toNat? digits with
    | some n =>
      let size := stack.length + 1
      if size ≤ n then
        Action.failWith 1 ((sign :: digits) ++ ascii ": directory stack index out of range")
      else
        let place := if sign = '-' then size - 1 - n else n
        if place = 0 then
          moveOrFail false false (stack.head?.getD [])
          Action.change fun now => { now with stack := stack.drop 1 }
        else
          Action.change fun now =>
            { now with stack := stack.take (place - 1) ++ stack.drop place }
        tellStack []
    | none => Action.failWith 1 ((sign :: digits) ++ ascii ": invalid argument")
  | _, [] :: _ => return 1

/-- Tells or sets the mask of new files. -/
def umask (arguments : List ByteText) : Action Nat := do
  let (options, operands) ← Usage.options "pS" arguments
  let put (mask : Nat) : Action Nat := do
    Action.change fun session => { session with mask := mask }
    return 0
  let mask := (← Action.session).mask
  match operands with
  | [] =>
    let digits := ByteText.digitsIn 8 mask
    let letters := Usage.has options 'S'
    let text := if letters then Builtin.maskLetters mask
      else List.replicate (4 - digits.length) '0' ++ digits
    let head := if !Usage.has options 'p' then [] else ascii (if letters then "umask -S " else "umask ")
    Builtin.outLine (head ++ text)
    return 0
  | text :: _ =>
    if text.head?.any Char.isDigit then
      if text.all (ByteText.isDigitIn 8) then put (ByteText.valueIn 8 text % 512)
      else Action.failWith 1 (text ++ ascii ": octal number out of range")
    else
      match Builtin.rightsAfter? (text.length + 1) (511 - mask) text with
      | some rights => put (511 - rights)
      | none =>
        let rest := text.dropWhile Builtin.isOwnerLetter
        Action.failWith 1 (['\x60'] ++ rest.take 1 ++ ascii "': invalid symbolic mode operator")

/-! ## Aliases -/

/-- Shows an alias as a command that would set it. -/
def showAlias (name text : ByteText) : Action Unit :=
  Builtin.outLine (ascii "alias " ++ name ++ ['='] ++ Quoted.single text)

/-- Lists or sets aliases. -/
def setAliases (arguments : List ByteText) : Action Nat := do
  let (_, operands) ← Usage.options "p" arguments
  let aliases := (← Action.session).aliases
  if operands.isEmpty then
    (aliases.mergeSort fun a b => ByteText.isBefore a.1 b.1).forM fun (name, text) =>
      showAlias name text
    return 0
  else
    operands.foldlM (fun status argument => do
      match Builtin.assignment argument with
      | (name, some text) =>
        Action.change fun session =>
          { session with
            aliases := (name, text) :: session.aliases.filter fun entry => entry.1 != name }
        return status
      | (name, none) =>
        match (← Action.session).aliases.find? fun entry => entry.1 = name with
        | some (_, text) =>
          showAlias name text
          return status
        | none =>
          Action.warn (name ++ ascii ": not found")
          return 1) 0

/-- Takes aliases away. -/
def dropAliases (arguments : List ByteText) : Action Nat := do
  let (options, operands) ← Usage.options "a" arguments
  if Usage.has options 'a' then
    Action.change fun session => { session with aliases := [] }
    return 0
  else if operands.isEmpty then
    Usage.tell
    return 2
  else
    operands.foldlM (fun status name => do
      if (← Action.session).aliases.any fun entry => entry.1 = name then
        Action.change fun session =>
          { session with aliases := session.aliases.filter fun entry => entry.1 != name }
        return status
      else
        Action.warn (name ++ ascii ": not found")
        return 1) 0

/-- Tells where the function was called that is running. -/
def caller (arguments : List ByteText) : Action Nat := do
  let session ← Action.session
  let place := (arguments.head?.bind ByteText.toNat?).getD 0
  match session.callers[place]? with
  | none =>
    if arguments.isEmpty && session.callers.isEmpty then
      Builtin.outLine (ascii "0 NULL")
      return 0
    else return 1
  | some (_, line) =>
    let source := (session.sources[place + 1]?).getD
      (if session.scriptName = ascii "-c" then ascii "NULL" else session.name)
    let name := ((session.callers[place + 1]?).map Prod.fst).getD (ascii "main")
    let shown := if arguments.isEmpty then [ByteText.ofNat line, source]
      else [ByteText.ofNat line, name, source]
    Builtin.outLine (shown.intersperse [' ']).flatten
    return 0

/-- The commands that steer the shell. -/
def builtins : List Builtin :=
  [{ name := ":", run := fun _ _ => return 0 },
   { name := "true", run := fun _ _ => return 0 },
   { name := "false", run := fun _ _ => return 1 },
   { name := "exit", run := fun _ => exitShell },
   { name := "logout", run := fun _ _ =>
      Action.failWith 1 (ascii "not login shell: use \x60exit'") },
   { name := "return", run := fun _ => returnFrom },
   { name := "break", run := fun _ => leaveLoops .breakLoop },
   { name := "continue", run := fun _ => leaveLoops .continueLoop },
   { name := "eval", run := evaluate },
   { name := ".", run := source },
   { name := "source", run := source },
   { name := "exec", run := become },
   { name := "trap", run := fun _ => trap },
   { name := "times", run := fun _ _ => do
      Builtin.out (ascii "0m0.000s 0m0.000s\n0m0.000s 0m0.000s\n")
      return 0 },
   { name := "kill", run := fun _ => kill },
   { name := "wait", run := fun _ => waitFor },
   { name := "jobs", run := fun _ _ => return 0 },
   { name := "fg", run := fun _ _ => Action.failWith 1 (ascii "no job control") },
   { name := "bg", run := fun _ _ => Action.failWith 1 (ascii "no job control") },
   { name := "suspend", run := fun _ _ =>
      Action.failWith 1 (ascii "cannot suspend: no job control") },
   { name := "disown", run := fun _ _ => return 0 },
   { name := "enable", run := fun _ _ => return 0 },
   { name := "history", run := fun _ _ => return 0 },
   { name := "cd", run := fun _ => changeDirectory },
   { name := "pwd", run := fun _ => tellDirectory },
   { name := "dirs", run := fun _ => tellStack },
   { name := "pushd", run := fun _ => pushDirectory },
   { name := "popd", run := fun _ => popDirectory },
   { name := "umask", run := fun _ => umask },
   { name := "ulimit", run := fun _ _ => do
      Builtin.outLine (ascii "unlimited")
      return 0 },
   { name := "alias", assigns := true, run := fun _ => setAliases },
   { name := "unalias", run := fun _ => dropAliases },
   { name := "caller", run := fun _ => caller }]

end Steer

end SchemaDocs.Shell
