import SchemaDocs.Config.Basic
import SchemaDocs.Shell.Programs
/-!
# Commands as converters

A converter that is a command: it gets the text as its input and the formats as its
last arguments, and what it writes is the converted text.
-/

namespace SchemaDocs

/-- A command to convert with. -/
structure ConverterCommand where
  command : String
  args : List String
  timeoutMilliseconds : Nat
  /-- Variables that the command is started with, besides the usual ones. -/
  settings : List (String × String) := []

namespace ConverterCommand

/-- The variables that every command is started with. -/
def usualVariables : Shell.Environment :=
  [("HOME", "/root"), ("PATH", "/usr/local/sbin:/usr/local/bin:/usr/sbin:/usr/bin:/sbin:/bin"),
   ("PWD", "/tmp/work")].map fun (name, value) => (Shell.ascii name, Shell.ascii value)

/-- The variables that a command is started with. -/
def environment (command : ConverterCommand) : Shell.Environment :=
  command.settings.foldl
    (fun environment (name, value) =>
      Shell.Tool.withVariable environment (Shell.ByteText.ofString name)
        (Shell.ByteText.ofString value))
    usualVariables

/-- The directories in which a command is looked for. -/
def path (command : ConverterCommand) : Shell.ByteText :=
  ((command.environment.find? fun entry => entry.1 = Shell.ascii "PATH").map Prod.snd).getD
    Shell.Launcher.usualPath

/-- The command of a configuration. -/
def ofConfig (config : ConverterConfig) : ConverterCommand :=
  ⟨config.command, config.args, config.timeoutSecs.toNat * 1000, []⟩

/-- All arguments of a call. -/
def arguments (command : ConverterCommand) (call : ConversionCall) : List String :=
  command.args ++ ["--from", call.sourceFormat, "--to", call.targetFormat]

/-- The number of bytes that can be written though nobody reads them. -/
def pipeCapacity : Nat := 65536

/-- The number of bytes that become free at once when they are read. -/
def pageSize : Nat := 4096

/-- The code of a process that ended without one. -/
def killedCode : Int := -1

/-- The number of commands after which a script seems to have no end. -/
def patience : Nat := 200000

/-- Why a command that has no program cannot be started. -/
def startError (tree : FileTree) (command : String) : FileError :=
  if command.toList.contains '/' then
    match tree.locateForReading FileTree.workSteps command with
    | .error cause => cause
    | .ok _ => .permissionDenied
  else if command = "." || command = ".." then .permissionDenied
  else if longestName < command.utf8ByteSize then .nameTooLong
  else .notFound

/-- Whether all of the input could be written, of which a part was read. -/
def fitsPipe (length taken : Nat) : Bool :=
  length ≤ pipeCapacity + taken / pageSize * pageSize || length ≤ taken

/-- What a command left behind: how it ended, its output and its messages, how much of its input it
took, and how long it ran unless it would never end. -/
structure CommandResult where
  ending : Shell.Ending
  output : Shell.ByteText
  errors : Shell.ByteText
  taken : Nat
  milliseconds : Option Nat

/-- The answer of a command that was run on a text of some length. -/
def answerOf (limit length : Nat) (result : CommandResult) : ConversionAnswer :=
  if result.milliseconds.all fun time => limit ≤ time then .error (.timeout limit)
  else
    match result.ending with
    | .killed _ => .error (.nonZeroExit killedCode result.errors.toString)
    | .exited (code + 1) => .error (.nonZeroExit (code + 1) result.errors.toString)
    | .exited 0 =>
      if fitsPipe length result.taken then .ok result.output.toString
      else .error (.io FileError.brokenPipe.message)

/-- Runs a program on a text, with streams of its own. -/
def perform (runner : Shell.Runner) (command : ConverterCommand) (arguments : List String)
    (text : Shell.ByteText) : Shell.System CommandResult := do
  let input ← Shell.System.add (.source text .ended 0)
  let output ← Shell.System.add (.sink [] .ended)
  let errors ← Shell.System.add (.sink [] .ended)
  let process : Shell.Process :=
    { name := Shell.ByteText.ofString command.command
      arguments := arguments.map Shell.ByteText.ofString
      environment := command.environment
      descriptors := [(0, input), (1, output), (2, errors)]
      directory := FileTree.workSteps }
  let ending ← (runner process.name process.arguments).run process
  let world ← get
  return {
    ending := ending
    output := (← Shell.System.collected output).1
    errors := (← Shell.System.collected errors).1
    taken := ← Shell.System.taken input
    milliseconds := if world.stall.isSome then none else some world.milliseconds }

/-- Converts a text with a command, which may change the files. -/
def convert (tree : FileTree) (command : ConverterCommand) (call : ConversionCall) :
    ConversionAnswer × FileTree :=
  let arguments := command.arguments call
  if (command.command :: arguments).any fun text => text.toList.contains '\x00' then
    (.error (.spawnFailed (command.command ++ ": nul byte found in provided data")), tree)
  else
    let world : Shell.World :=
      { tree := tree, channels := #[], milliseconds := 0, stall := none, budget := patience
        writeFault := none }
    let name := Shell.ByteText.ofString command.command
    let text := Shell.ByteText.ofString call.text
    match (Shell.Launcher.full.find FileTree.workSteps command.path name).run world with
    | (.error _, _) =>
      let cause := startError tree command.command
      (.error (.spawnFailed (command.command ++ ": " ++ cause.message)), tree)
    | (.ok (_, runner), world) =>
      let (result, world) := (perform runner command arguments text).run world
      (answerOf command.timeoutMilliseconds text.length result, world.tree)

end ConverterCommand

end SchemaDocs
