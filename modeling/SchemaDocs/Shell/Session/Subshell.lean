import SchemaDocs.Shell.Process
import SchemaDocs.Shell.Session.Basic
import SchemaDocs.Shell.Session.Field
/-!
# Parts of a session on their own

Commands that are run as a process of their own start with all that the session knows,
and nothing of what they change in it stays.
-/

namespace SchemaDocs.Shell

/-- How the parts of scripts are worked out. -/
structure Interpreter where
  /-- Runs a command, which may be one whose failure is looked at. -/
  run : Bool → Command → Action Unit
  /-- What a word stands for. -/
  expand : Word → Action (List Piece)
  /-- Runs a text as a script. -/
  script : ByteText → Action Unit
  /-- Runs a text as a script whose lines are counted from some number on. -/
  scriptFrom : Nat → ByteText → Action Unit
  launcher : Launcher

namespace Action

/-- Does what is to be done at the end of the shell.  The status stays unless it is changed by leaving
once more. -/
def runEndTrap (interpreter : Interpreter) : Action Unit := do
  match (← session).traps.find? fun entry => entry.1 = 0 with
  | none => return ()
  | some (_, text) =>
    let status := (← session).status
    change fun session =>
      { session with traps := session.traps.filter fun entry => entry.1 != 0 }
    match ← tried (interpreter.script text) with
    | .error .leave => return ()
    | .error (.finish ending) => throw (.finish ending)
    | .error (.struck signal) => throw (.struck signal)
    | .error .stall => throw .stall
    | _ => setStatus status

/-- How a process ends that went on in some way.  What never ends and what strikes the outermost
shell are left as they are. -/
def endingOf (interpreter : Interpreter) (result : Except Jump Unit) : Action Ending := do
  match result with
  | .error (.finish ending) => return ending
  | .error .stall => throw .stall
  | .error (.struck signal) => throw (.struck signal)
  | _ =>
    match ← tried (runEndTrap interpreter) with
    | .error (.finish ending) => return ending
    | .error .stall => throw .stall
    | .error (.struck signal) => throw (.struck signal)
    | _ => return .exited ((← session).status % 256)

/-- Runs a step as a process of its own. -/
def apart (interpreter : Interpreter) (step : Action Unit) : Action Ending := do
  let before ← session
  change fun session =>
    { session with
      isSubshell := true, depth := session.depth + 1, jobs := [], signals := []
      traps := session.traps.filter fun entry => entry.2.isEmpty }
  let result ← tried (do endingOf interpreter (← tried step))
  change fun _ => before
  resume result

/-- Runs a step as a process of its own with an open file under a descriptor. -/
def apartWith (interpreter : Interpreter) (number channel : Nat) (step : Action Unit) :
    Action Ending :=
  apart interpreter do
    setDescriptor number (some channel)
    step

/-- What follows the text that a process wrote which would never end. -/
def tailOf (stall : Stall) (pieces : List WrittenText) (tail : Tail) : Tail :=
  match tail, stall, pieces with
  | .ended, .busy, piece :: _ => .endless piece.text
  | .ended, _, _ => .silent
  | tail, _, _ => tail

/-- A process whose output others read: where it can be read, how the process ended if it did, and
whether it sleeps for ever. -/
structure Stream where
  channel : Nat
  ending : Option Ending
  sleeps : Bool

/-- Runs a process that writes into an open file, which can be read afterwards. -/
def streamed (run : Nat → Action Ending) : Action Stream := do
  let budget := (← system get).budget
  let sink ← system (System.add (.sink [] .ended))
  let (ending, sleeps) ←
    match ← tried (run sink) with
    | .error .stall => do
      let world ← system get
      let stall := world.stall.getD .asleep
      system (set { world with stall := none, budget := budget / 2 })
      match ← system (System.channel? sink) with
      | some (.sink pieces tail) =>
        let tail := tailOf stall pieces tail
        system (System.put sink (.sink pieces tail))
        pure (none, decide (tail = .silent))
      | _ => pure (none, true)
    | .error jump => throw jump
    | .ok ending => pure (some ending, false)
  let (text, tail) ← system (System.collected sink)
  let channel ← system (System.add (.source text tail 0))
  return ⟨channel, ending, sleeps⟩

/-- What a step writes to its output, without the line feeds at its end. -/
def captured (interpreter : Interpreter) (step : Action Unit) : Action ByteText := do
  let sink ← system (System.add (.sink [] .ended))
  let isBash ← isBash
  let ending ← apartWith interpreter 1 sink do
    if isBash then
      let keeps ← hasFeature "inherit_errexit"
      change fun session =>
        { session with
          indirection := session.indirection + 1
          options := if keeps then session.options else session.options.filter (· != 'e') }
    step
  change fun session => { session with substituted := ending.status }
  let (text, _) ← system (System.collected sink)
  if isBash && text.contains '\x00' then
    warn (ascii "warning: command substitution: ignored null byte in input")
  return ((text.filter (· != '\x00')).reverse.dropWhile (· = '\n')).reverse

end Action

end SchemaDocs.Shell

/-!
## Programs in a session

A program gets the open files of the session and the variables that are handed on.
-/

namespace SchemaDocs.Shell

namespace Action

/-- The directories in which programs are looked for. -/
def searchPath : Action ByteText := do
  return (← value? (ascii "PATH")).getD []

/-- Finds a program, and gives its path as well. -/
def findProgram (interpreter : Interpreter) (name : ByteText) :
    Action (Except FileError (ByteText × Runner)) := do
  let path ← searchPath
  let session ← session
  let result ← system (interpreter.launcher.find session.directory path name)
  match result with
  | .ok (path, _) =>
    if !name.contains '/' && !session.found.any (fun entry => entry.1 = name) then
      change fun session => { session with found := (name, path) :: session.found }
  | .error _ => pure ()
  return result

/-- The variables that are handed on to the program of a path.  In the shell with more features the
path is among them. -/
def environmentFor (path : ByteText) : Action Environment := do
  let environment ← environment
  if ← isBash then
    if environment.any fun entry => entry.1 = ['_'] then
      return environment.map fun (name, value) => (name, if name = ['_'] then path else value)
    else return environment ++ [(['_'], path)]
  else return environment

/-- Runs a program to its end, or tells why it cannot be started. -/
def execute (interpreter : Interpreter) (name : ByteText) (arguments : List ByteText) :
    Action (Except FileError Ending) := do
  match ← findProgram interpreter name with
  | .error cause => return .error cause
  | .ok (path, runner) =>
    let environment ← environmentFor path
    let session ← session
    let process : Process :=
      { name := name, arguments := arguments, environment := environment
        descriptors := session.descriptors, directory := session.directory, mask := session.mask }
    let ending ← system ((runner name arguments).run process)
    settle
    return .ok ending

/-- The reason that a program cannot be started, with the status for it. -/
def startFault (dialect : Dialect) (name : ByteText) (cause : FileError) : ByteText × Nat :=
  match dialect with
  | .sh =>
    if name.isEmpty then (ascii FileError.permissionDenied.reason, 127)
    else if cause = .notFound || cause = .notADirectory then (ascii "not found", 127)
    else (ascii cause.reason, 126)
  | .bash =>
    if name.contains '/' then
      (ascii cause.reason, if cause = .notFound then 127 else 126)
    else if cause = .notFound then (ascii "command not found", 127)
    else (ascii cause.reason, 126)

/-- Says how a process ended that a signal struck. -/
def mourn (ending : Ending) : Action Unit := do
  match ending with
  | .exited _ => return ()
  | .killed signal =>
    match Signal.obituary signal with
    | none => return ()
    | some text =>
      if !(← isBash) || signal = 15 then
        program (Program.err (ascii text ++ ['\n']))

end Action

end SchemaDocs.Shell
