import SchemaDocs.Shell.Session.Builtin.Basic
import SchemaDocs.Shell.Session.Subshell
/-!
# Commands of the shell that steer it

Leaving loops, functions and the shell itself, running texts and files as scripts, taking
care of signals, and moving through directories.
-/

namespace SchemaDocs.Shell

namespace Builtin

/-! ## Jumps -/

/-- Ends the shell with a status. -/
def exitShell (arguments : List ByteText) : Action Nat := do
  match arguments with
  | [] => throw .leave
  | text :: _ =>
    let status ← number text
    Action.setStatus status
    throw .leave

/-- Ends the function or the script that is running. -/
def returnFrom (arguments : List ByteText) : Action Nat := do
  match arguments with
  | [] => throw .returnFrom
  | text :: _ =>
    let status ← number text
    Action.setStatus status
    throw .returnFrom

/-- Ends loops, or goes on with their next turn. -/
def leaveLoops (jump : Nat → Jump) (arguments : List ByteText) : Action Nat := do
  let levels ← match arguments with
    | [] => pure 1
    | text :: _ =>
      let levels ← number text
      if levels = 0 then illegalNumber text else pure levels
  let levels := min levels (← Action.session).loops
  Action.setStatus 0
  if levels = 0 then return 0 else throw (jump levels)

/-! ## Scripts -/

/-- Runs the arguments as a script. -/
def evaluate (interpreter : Interpreter) (arguments : List ByteText) : Action Nat := do
  let arguments :=
    match arguments with
    | ['-', '-'] :: rest => rest
    | rest => rest
  if arguments.isEmpty then return 0
  else
    interpreter.script ((arguments.intersperse [' ']).flatten)
    return (← Action.session).status

/-- The path of a script by its name. -/
def scriptPath? (name : ByteText) : Action (Option ByteText) := do
  if name.contains '/' then return some name
  else
    let entries := ByteText.splitAt ':' (← Action.searchPath)
    let paths := entries.map fun entry =>
      if entry.isEmpty then name else entry ++ ['/'] ++ name
    let found ← paths.filterM fun path => do
      return (← Action.program (Program.kindOf path)) = .file
    return found.head?

/-- Runs the file of a name as a script in this shell. -/
def source (interpreter : Interpreter) (arguments : List ByteText) : Action Nat := do
  let (_, operands) ← options "" arguments
  match operands with
  | [] => return 0
  | name :: _ =>
    match ← scriptPath? name with
    | none => Action.fail (name ++ ascii ": not found")
    | some path =>
      match ← Action.program (Program.openInput path) with
      | .error cause =>
        let reason :=
          if cause = .notFound || cause = .notADirectory then "No such file" else cause.reason
        Action.fail (ascii "cannot open " ++ path ++ ascii ": " ++ ascii reason)
      | .ok channel =>
        let text ← Action.system (System.readAll channel)
        Action.settle
        let line := (← Action.session).line
        Action.change fun session => { session with commandName := some path }
        let result ← Action.tried (interpreter.script text)
        Action.change fun session => { session with line := line }
        match result with
        | .error .returnFrom => return (← Action.session).status
        | result =>
          Action.resume result
          return (← Action.session).status

/-- Becomes another program. -/
def become (interpreter : Interpreter) (arguments : List ByteText) : Action Nat := do
  let (_, operands) ← options "" arguments
  match operands with
  | [] => return 0
  | name :: rest =>
    match ← Action.execute interpreter name rest with
    | .ok ending => throw (.finish ending)
    | .error cause =>
      let (reason, status) := Action.startFault (← Action.session).dialect name cause
      Action.warn (name ++ ascii ": " ++ reason)
      Action.setStatus status
      throw .leave

/-! ## Signals -/

/-- The number of a signal from its name or its number. -/
def signal? (text : ByteText) : Option Nat :=
  match ByteText.toNat? text with
  | some number => if number ≤ Signal.greatest then some number else none
  | none => if text.map Char.toUpper = ascii "EXIT" then some 0 else Signal.ofName? text

/-- The name of a signal, or its number if it has none. -/
def signalName (signal : Nat) : ByteText :=
  if signal = 0 then ascii "EXIT"
  else
    match Signal.name? signal with
    | some name => ascii name
    | none => ByteText.ofNat signal

/-- Says what is to be done on signals. -/
def trap (arguments : List ByteText) : Action Nat := do
  let (_, operands) ← options "" arguments
  match operands with
  | [] =>
    let traps := (← Action.session).traps.mergeSort fun a b => a.1 ≤ b.1
    traps.forM fun (signal, text) =>
      outLine (ascii "trap -- " ++ quoted text ++ [' '] ++ signalName signal)
    return 0
  | first :: rest =>
    let isReset := rest.isEmpty || (ByteText.toNat? first).isSome || first = ['-']
    let isAction := !rest.isEmpty && (ByteText.toNat? first).isNone
    let names := if isAction then rest else operands
    let put (signal : Nat) : Action Unit :=
      Action.change fun session =>
        let others := session.traps.filter fun entry => entry.1 != signal
        { session with traps := if isReset then others else (signal, first) :: others }
    let rec each : List ByteText → Action Nat
      | [] => return 0
      | name :: rest => do
        match signal? name with
        | none =>
          Action.program (Program.err (ascii "trap: " ++ name ++ ascii ": bad trap\n"))
          return 1
        | some signal =>
          put signal
          each rest
    each names

/-- What is written of wrong use. -/
def killUsage : String :=
  "Usage: kill [-s sigspec | -signum | -sigspec] [pid | job]... or\nkill -l [exitstatus]"

/-- The number under which is kept what is done after failures. -/
def failureTrap : Nat := 66

/-- Lets a signal come to this shell. -/
def receive (signal : Nat) : Action Unit := do
  let session ← Action.session
  if session.isSubshell && !Signal.isHarmless signal then throw (.struck signal)
  else
    match session.traps.find? fun entry => entry.1 = signal && !Signal.isFinal signal with
    | some (_, text) =>
      if !text.isEmpty then
        Action.change fun session => { session with signals := session.signals ++ [signal] }
    | none =>
      if Signal.isHarmless signal then return ()
      else if Signal.stops signal then
        Action.system (System.stall .asleep)
        throw .stall
      else throw (.finish (.killed signal))

/-- Ends a process in the background by a signal, unless it has ended before. -/
def strike (signal process : Nat) : Action Unit := do
  let now := (← Action.system get).milliseconds
  let isRunning := (← Action.session).jobs.any fun job => job.number = process && now < job.milliseconds
  if isRunning && !Signal.isHarmless signal && !Signal.stops signal then
    Action.system (System.silence process)
    Action.change fun session =>
      { session with jobs := session.jobs.map fun job =>
          if job.number = process then { job with ending := .killed signal, milliseconds := now } else job }

/-- Sends a signal to processes. -/
def send (signal : Nat) : List ByteText → Action Nat
  | [] => return 0
  | text :: rest => do
    let job := match text with
      | '%' :: _ => true
      | _ => false
    if job then Action.fail (ascii "No such job: " ++ text)
    else
      let (isGroup, digits) :=
        match text with
        | '-' :: digits => (true, digits)
        | digits => (false, digits)
      let process ← number digits
      let session ← Action.session
      if process = session.processId || process = 0 then
        receive signal
        send signal rest
      else if !isGroup && session.jobs.any (fun job => job.number = process) then
        strike signal process
        send signal rest
      else
        Action.warn (ascii "No such process\n")
        let _ ← send signal rest
        return 1

/-- The names of all signals. -/
def signalList : List ByteText :=
  (List.range (Signal.greatest + 1)).map fun signal =>
    if signal = 0 then ['0']
    else if signal = 16 then ascii "16"
    else if signal = 34 then ascii "RTMIN"
    else if signal = 64 then ascii "RTMAX"
    else if 34 < signal && signal < 50 then ascii "RTMIN+" ++ ByteText.ofNat (signal - 34)
    else if 50 ≤ signal then ascii "RTMAX-" ++ ByteText.ofNat (64 - signal)
    else signalName signal

/-- Lists the names of signals. -/
def listSignals (operands : List ByteText) : Action Nat := do
  match operands with
  | [] =>
    signalList.forM outLine
    return 0
  | text :: _ =>
    let status ← number text
    let signal := if 128 < status then status - 128 else status
    match (if signal = 0 then none else signalList[signal]?) with
    | some name =>
      outLine name
      return 0
    | none => Action.fail (ascii "invalid signal number or exit status: " ++ text)

/-- Sends a signal to processes, or lists the names of signals. -/
def kill (arguments : List ByteText) : Action Nat := do
  let usage : Action Nat := Action.fail (ascii killUsage)
  match arguments with
  | [] => usage
  | ('-' :: text) :: rest =>
    match signal? text with
    | some signal => if rest.isEmpty then usage else send signal rest
    | none =>
      let (options, operands) ← options "ls:" arguments
      let isList := options.any fun option => option.1 = 'l'
      match (options.filter fun option => option.1 = 's').getLast? with
      | some (_, name) =>
        match signal? name with
        | some signal => if operands.isEmpty || isList then usage else send signal operands
        | none => Action.fail (ascii "invalid signal number or name: " ++ name)
      | none =>
        if isList then listSignals operands
        else if operands.isEmpty then usage
        else send 15 operands
  | operands => send 15 operands

/-! ## Jobs -/

/-- Waits for processes in the background. -/
def waitFor (arguments : List ByteText) : Action Nat := do
  let (_, operands) ← options "" arguments
  let catchUp (time : Nat) : Action Unit :=
    Action.system (modify fun world => { world with milliseconds := max world.milliseconds time })
  match operands with
  | [] =>
    (← Action.session).jobs.forM fun job => catchUp job.milliseconds
    return 0
  | operands =>
    operands.foldlM (fun _ text => do
      match text with
      | '%' :: _ => Action.fail (ascii "No such job: " ++ text)
      | text =>
        let process ← number text
        match (← Action.session).jobs.find? fun job => job.number = process with
        | some job =>
          catchUp job.milliseconds
          Action.mourn job.ending
          return job.ending.status
        | none => return 127) 0

/-! ## Directories -/

/-- The path of a directory from the root. -/
def directoryPath (steps : Steps) : ByteText :=
  if steps.isEmpty then ['/']
  else (steps.map fun name => '/' :: ByteText.ofString name).flatten

/-- The slashes at the start of a path from the root, where two are kept. -/
def rootOf (path : ByteText) : ByteText :=
  match path with
  | '/' :: '/' :: '/' :: _ => ['/']
  | '/' :: '/' :: _ => ['/', '/']
  | _ => ['/']

/-- The path after another one, where two dots take the name before them away. -/
def pathAfter (before path : ByteText) : ByteText :=
  let isRooted := path.head? = some '/'
  let names := (if isRooted then [] else ByteText.splitAt '/' before) ++ ByteText.splitAt '/' path
  let kept := names.foldl
    (fun (kept : List ByteText) name =>
      if name.isEmpty || name = ['.'] then kept
      else if name = ['.', '.'] then kept.drop 1
      else name :: kept)
    []
  rootOf (if isRooted then path else before) ++ (kept.reverse.intersperse ['/']).flatten

/-- Whether a path is not looked for in other directories. -/
def isFixedPath : ByteText → Bool
  | '/' :: _ => true
  | ['.'] => true
  | '.' :: '/' :: _ => true
  | ['.', '.'] => true
  | '.' :: '.' :: '/' :: _ => true
  | _ => false

/-- The paths that a directory may be reached by, each with whether it is shown. -/
def candidates (path : ByteText) : Action (List (ByteText × Bool)) := do
  let path := if path.isEmpty then ['.'] else path
  if isFixedPath path then return [(path, false)]
  else
    match ← Action.value? (ascii "CDPATH") with
    | none => return [(path, false)]
    | some entries =>
      let listed ← (ByteText.splitAt ':' entries).filterMapM fun entry => do
        let whole := if entry.isEmpty then path else entry ++ ['/'] ++ path
        if (← Action.program (Program.kindOf whole)) = .directory then
          return some (whole, !entry.isEmpty)
        else return none
      return listed ++ [(path, false)]

/-- Moves to the directory of a path, and tells whether that worked. -/
def moveTo (isPhysical : Bool) (path : ByteText) : Action Bool := do
  let session ← Action.session
  let reached := pathAfter session.path path
  let world ← Action.system get
  match world.tree.locate session.directory (if isPhysical then path else reached).toString with
  | .error _ => return false
  | .ok place =>
    if place.kind = .directory then
      let now := if isPhysical then directoryPath place.steps else reached
      Action.change fun session => { session with directory := place.steps, path := now }
      [(ascii "OLDPWD", session.path), (ascii "PWD", now)].forM fun (name, value) => do
        Action.assign name value
        Action.putVariable name
          (some { (← Action.variableOf? name).getD {} with isExported := true })
      return true
    else return false

/-- Moves to the directory of the first of some paths that leads to one, and tells whether one does. -/
def moveToFirst (isPhysical isShown : Bool) : List (ByteText × Bool) → Action Bool
  | [] => return false
  | (path, isListed) :: rest => do
    if ← moveTo isPhysical path then
      if isShown || isListed then outLine (← Action.session).path
      return true
    else if rest.isEmpty || isListed then return false
    else moveToFirst isPhysical isShown rest

/-- Whether the last of some options asks for a path without links. -/
def asksForPhysical (options : List (Char × ByteText)) : Bool :=
  (options.getLast?.map Prod.fst) = some 'P'

/-- Moves to another directory. -/
def changeDirectory (arguments : List ByteText) : Action Nat := do
  let (options, operands) ← options "PL" arguments
  let (path, isShown) ←
    match operands with
    | [] => pure ((← Action.value? (ascii "HOME")).getD [], false)
    | ['-'] :: _ => pure ((← Action.value? (ascii "OLDPWD")).getD [], true)
    | path :: _ => pure (path, false)
  if ← moveToFirst (asksForPhysical options) isShown (← candidates path) then return 0
  else Action.fail (ascii "can't cd to " ++ path)

/-- Tells the directory. -/
def tellDirectory (arguments : List ByteText) : Action Nat := do
  let (options, _) ← options "LP" arguments
  let session ← Action.session
  outLine (if asksForPhysical options then directoryPath session.directory else session.path)
  return 0

/-- The mask of new files in letters. -/
def maskLetters (mask : Nat) : ByteText :=
  let letters (shift : Nat) : ByteText :=
    ['r', 'w', 'x'].zipIdx.filterMap fun (letter, place) =>
      if (mask >>> (shift + 2 - place)) % 2 = 0 then some letter else none
  ascii "u=" ++ letters 6 ++ ascii ",g=" ++ letters 3 ++ ascii ",o=" ++ letters 0

/-- The bits of some letters of rights, where the rights so far count for some of them. -/
def rightsOf (now : Nat) (letters : ByteText) : Nat :=
  letters.foldl (fun bits c =>
    bits ||| (match c with
      | 'r' => 4
      | 'w' => 2
      | 'x' => 1
      | 'X' => if now &&& 73 = 0 then 0 else 1
      | 'u' => now / 64 % 8
      | 'g' => now / 8 % 8
      | 'o' => now % 8
      | _ => 0)) 0

/-- Whether a letter says whose rights are meant. -/
def isOwnerLetter (c : Char) : Bool := c = 'u' || c = 'g' || c = 'o' || c = 'a'

/-- Rights after changes to those of some owners.  Each step takes a change. -/
def changeRights (owners : ByteText) : Nat → Nat → ByteText → Option (Nat × ByteText)
  | 0, rights, rest => some (rights, rest)
  | fuel + 1, rights, text =>
    match text with
    | sign :: rest =>
      if sign = '+' || sign = '-' || sign = '=' then
        let letters := rest.takeWhile (ascii "rwxXstugo").contains
        let has (c : Char) : Bool := owners.isEmpty || owners.contains 'a' || owners.contains c
        let spread (bits : Nat) : Nat :=
          (if has 'u' then bits * 64 else 0) + (if has 'g' then bits * 8 else 0)
            + (if has 'o' then bits else 0)
        let bits := spread (rightsOf rights letters)
        let rights :=
          match sign with
          | '+' => rights ||| bits
          | '-' => rights &&& (511 - bits)
          | _ => rights &&& (511 - spread 7) ||| bits
        changeRights owners fuel rights (rest.drop letters.length)
      else some (rights, text)
    | [] => some (rights, [])

/-- Rights after changes that are written with letters.  Each step takes those of some owners. -/
def rightsAfter? : Nat → Nat → ByteText → Option Nat
  | 0, rights, _ => some rights
  | fuel + 1, rights, text => do
    let owners := text.takeWhile isOwnerLetter
    let changes := text.drop owners.length
    if changes.isEmpty then some rights
    else if !(changes.head?.any (ascii "+-=").contains) then none
    else
      let (rights, rest) ← changeRights owners changes.length rights changes
      match rest with
      | [] => some rights
      | [','] => some rights
      | ',' :: rest => rightsAfter? fuel rights rest
      | _ => none

/-- Tells or sets the mask of new files. -/
def umask (arguments : List ByteText) : Action Nat := do
  let (options, operands) ← options "S" arguments
  let put (mask : Nat) : Action Nat := do
    Action.change fun session => { session with mask := mask }
    return 0
  let mask := (← Action.session).mask
  match operands with
  | [] =>
    if options.isEmpty then
      let digits := ByteText.digitsIn 8 mask
      outLine (List.replicate (4 - digits.length) '0' ++ digits)
    else outLine (maskLetters mask)
    return 0
  | text :: _ =>
    if text.head?.any Char.isDigit then
      if text.all (ByteText.isDigitIn 8) then put (ByteText.valueIn 8 text % 512)
      else illegalNumber text
    else
      match rightsAfter? (text.length + 1) (511 - mask) text with
      | some rights => put (511 - rights)
      | none => Action.fail (ascii "Illegal mode: " ++ text)

/-! ## Aliases -/

/-- An alias as a command that would set it. -/
def aliasText (name text : ByteText) : ByteText := name ++ ['='] ++ quoted text

/-- Lists or sets aliases. -/
def setAliases (arguments : List ByteText) : Action Nat := do
  if arguments.isEmpty then
    (← Action.session).aliases.forM fun (name, text) => outLine (aliasText name text)
    return 0
  else
    arguments.foldlM (fun status argument => do
      match assignment argument with
      | (name, some text) =>
        if name.isEmpty then return status
        else
          Action.change fun session =>
            { session with
              aliases := (name, text) :: session.aliases.filter fun entry => entry.1 != name }
          return status
      | (name, none) =>
        match (← Action.session).aliases.find? fun entry => entry.1 = name with
        | some (_, text) =>
          outLine (aliasText name text)
          return status
        | none =>
          Action.program (Program.err (ascii "alias: " ++ name ++ ascii " not found\n"))
          return 1) 0

/-- Takes aliases away. -/
def dropAliases (arguments : List ByteText) : Action Nat := do
  let (options, operands) ← options "a" arguments
  if !options.isEmpty then
    Action.change fun session => { session with aliases := [] }
    return 0
  else
    operands.foldlM (fun status name => do
      if (← Action.session).aliases.any fun entry => entry.1 = name then
        Action.change fun session =>
          { session with aliases := session.aliases.filter fun entry => entry.1 != name }
        return status
      else
        Action.program (Program.err (ascii "unalias: " ++ name ++ ascii " not found\n"))
        return 1) 0

/-- The commands that steer the shell. -/
def controlBuiltins : List Builtin :=
  [{ name := ":", isSpecial := true, run := fun _ _ => return 0 },
   { name := "true", run := fun _ _ => return 0 },
   { name := "false", run := fun _ _ => return 1 },
   { name := "exit", isSpecial := true, run := fun _ => exitShell },
   { name := "return", isSpecial := true, run := fun _ => returnFrom },
   { name := "break", isSpecial := true, run := fun _ => leaveLoops .breakLoop },
   { name := "continue", isSpecial := true, run := fun _ => leaveLoops .continueLoop },
   { name := "eval", isSpecial := true, run := evaluate },
   { name := ".", isSpecial := true, run := source },
   { name := "exec", isSpecial := true, run := become },
   { name := "trap", isSpecial := true, run := fun _ => trap },
   { name := "times", isSpecial := true
     run := fun _ _ => do
      out (ascii "0m0.000000s 0m0.000000s\n0m0.000000s 0m0.000000s\n")
      return 0 },
   { name := "kill", run := fun _ => kill },
   { name := "wait", run := fun _ => waitFor },
   { name := "jobs", run := fun _ _ => return 0 },
   { name := "fg", run := fun _ _ => Action.fail (ascii "No current job") },
   { name := "bg", run := fun _ _ => Action.fail (ascii "No current job") },
   { name := "cd", run := fun _ => changeDirectory },
   { name := "chdir", run := fun _ => changeDirectory },
   { name := "pwd", run := fun _ => tellDirectory },
   { name := "umask", run := fun _ => umask },
   { name := "alias", assigns := true, run := fun _ => setAliases },
   { name := "unalias", run := fun _ => dropAliases }]

end Builtin

end SchemaDocs.Shell
