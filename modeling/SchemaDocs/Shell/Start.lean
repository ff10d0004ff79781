import SchemaDocs.Shell.Session.Builtin.Variables
import SchemaDocs.Shell.Session.Run
/-!
# Starting a shell

The arguments of a shell, and what it makes of them: options, and where its script comes from.
-/

/-!
## Starting the shell with more features

The options that this shell can be started with, and the variables that it begins with.
-/

namespace SchemaDocs.Shell

namespace Invocation

/-- How a shell is asked to get its script. -/
structure Plan where
  /-- Whether the first operand is the script itself. -/
  isText : Bool := false
  /-- Whether the script is read from the input. -/
  isInput : Bool := false
  operands : List ByteText

/-- The options that are written as words. -/
def words : List String :=
  ["debug", "debugger", "dump-po-strings", "dump-strings", "help", "init-file", "login",
   "noediting", "noprofile", "norc", "posix", "pretty-print", "rcfile", "restricted", "verbose",
   "version"]

/-- How the shell is used. -/
def usage (name : ByteText) : ByteText :=
  ByteText.unlines
    ([ascii "Usage:\t" ++ name ++ ascii " [GNU long option] [option] ...",
      ['\t'] ++ name ++ ascii " [GNU long option] [option] script-file ...",
      ascii "GNU long options:"]
    ++ words.map (fun word => ascii "\t--" ++ ascii word)
    ++ [ascii "Shell options:",
      ascii "\t-ilrsD or -c command or -O shopt_option\t\t(invocation only)",
      ascii "\t-abefhkmnptuvxBCEHPT or -o option"])

/-- Ends the shell with a status after a message. -/
def refuse {α : Type} (status : Nat) (text : ByteText) : Action α := do
  Action.program (Program.err ((← Action.session).name ++ ascii ": " ++ text ++ ['\n']))
  Action.setStatus (if ← Action.hasOption 'e' then 1 else status)
  throw .leave

/-- Ends the shell because it was started with an option that it does not know. -/
def refuseOption {α : Type} (option : ByteText) : Action α := do
  let name := (← Action.session).name
  Action.program (Program.err (name ++ ascii ": " ++ option ++ ascii ": invalid option\n"
    ++ usage name))
  Action.setStatus 2
  throw .leave

/-- Switches a feature on or off. -/
def putFeature (isOn : Bool) (name : ByteText) : Action Unit :=
  Action.change fun session =>
    let others := session.features.filter fun other => other != name
    { session with features := if isOn then name :: others else others }

/-- Does what an option says that is written as a word, and gives what follows it. -/
def putWord (word : ByteText) (rest : List ByteText) : Action (List ByteText) := do
  match String.ofList word with
  | "login" =>
    putFeature true (ascii "login_shell")
    return rest
  | "posix" =>
    Builtin.putOption true '3'
    return rest
  | "verbose" =>
    Builtin.putOption true 'v'
    return rest
  | "init-file" => return rest.drop 1
  | "rcfile" => return rest.drop 1
  | _ => return rest

/-- Reads the options at the start that are written as words.  Each step takes an argument. -/
def readWords : Nat → List ByteText → Action (List ByteText)
  | 0, rest => return rest
  | fuel + 1, argument :: rest => do
    let word? : Option ByteText :=
      match argument with
      | '-' :: '-' :: word => some word
      | '-' :: word => some word
      | _ => none
    match word? with
    | none => return argument :: rest
    | some word =>
      if words.any fun known => ascii known = word then readWords fuel (← putWord word rest)
      else if (ascii "--").isPrefixOf argument && !word.isEmpty then refuseOption argument
      else return argument :: rest
  | _, [] => return []

/-- Does what the letters of an option say, and gives what follows them. -/
def putLetters (isOn : Bool) (plan : Plan) : ByteText → Action Plan
  | [] => return plan
  | letter :: letters => do
    match letter with
    | 'c' => putLetters isOn { plan with isText := true } letters
    | 's' => putLetters isOn { plan with isInput := true } letters
    | 'l' =>
      putFeature true (ascii "login_shell")
      putLetters isOn plan letters
    | 'i' =>
      Builtin.putOption isOn 'i'
      putFeature true (ascii "expand_aliases")
      putLetters isOn plan letters
    | 'D' => putLetters isOn plan letters
    | 'O' =>
      match plan.operands with
      | [] =>
        Setting.features.forM fun (name, _) => Declaration.showFeature (!isOn) (ascii name)
        throw .leave
      | name :: rest =>
        if Setting.features.any fun entry => ascii entry.1 = name then
          putFeature isOn name
          putLetters isOn { plan with operands := rest } letters
        else refuse 2 (ascii "line 0: " ++ name ++ ascii ": invalid shell option name")
    | 'o' =>
      match plan.operands with
      | [] =>
        Declaration.listOptions (!isOn)
        throw .leave
      | name :: rest =>
        match Setting.options.find? fun entry => ascii entry.1 = name with
        | some (_, letter) =>
          Builtin.putOption isOn letter
          putLetters isOn { plan with operands := rest } letters
        | none =>
          refuse 2 (ascii "line 0: " ++ (← Action.session).name ++ ascii ": " ++ name
            ++ ascii ": invalid option name")
    | letter =>
      if Declaration.optionLetters.contains letter then
        Builtin.putOption isOn letter
        putLetters isOn plan letters
      else refuseOption [if isOn then '-' else '+', letter]

/-- Reads the options that are written as letters.  Each step takes an argument. -/
def readLetters : Nat → Plan → Action Plan
  | 0, plan => return plan
  | fuel + 1, plan => do
    match plan.operands with
    | ['-'] :: rest => return { plan with operands := rest }
    | ['-', '-'] :: rest => return { plan with operands := rest }
    | ('-' :: letters) :: rest =>
      readLetters fuel (← putLetters true { plan with operands := rest } letters)
    | ('+' :: letters) :: rest =>
      readLetters fuel (← putLetters false { plan with operands := rest } letters)
    | _ => return plan

/-- Reads the options of the shell. -/
def readOptions (arguments : List ByteText) : Action Plan := do
  let rest ← readWords (arguments.length + 1) arguments
  readLetters (rest.length + 1) { operands := rest }

/-- Reads all of the file of a path, which is to be a script. -/
def readScript (path : ByteText) : Action ByteText := do
  if (← Action.program (Program.kindOf path)) = .directory then
    Action.program (Program.err (path ++ ascii ": " ++ path ++ ascii ": Is a directory\n"))
    Action.setStatus 126
    throw .leave
  else
    match ← Action.program (Program.openInput path) with
    | .ok channel =>
      let text ← Action.system (System.readAll channel)
      Action.settle
      return text
    | .error cause =>
      refuse (if cause = .notFound then 127 else 126) (path ++ ascii ": " ++ ascii cause.reason)

/-- Finds the script of the shell, and sets the name and the arguments. -/
def prepare (arguments : List ByteText) : Action ByteText := do
  let plan ← readOptions arguments
  let put (name scriptName : ByteText) (arguments : List ByteText) : Action Unit :=
    Action.change fun session =>
      { session with name := name, scriptName := scriptName, arguments := arguments }
  let name := (← Action.session).name
  if plan.isText then
    match plan.operands with
    | [] => refuse 2 (ascii "-c: option requires an argument")
    | [text] =>
      put name (ascii "-c") []
      return text
    | text :: name :: rest =>
      put name (ascii "-c") rest
      return text
  else
    match plan.isInput, plan.operands with
    | false, path :: rest =>
      let text ← readScript path
      put path path rest
      return text
    | _, operands =>
      put name name operands
      Action.program do
        match ← Program.readInput with
        | .ok text => return text
        | .error _ => return []

/-- The variables of the shell itself. -/
def ownBindings : List (ByteText × Variable) :=
  let texts : List (String × String) :=
    [("BASH", "/usr/bin/bash"), ("BASH_VERSION", "5.2.21(1)-release"), ("HOSTTYPE", "x86_64"),
     ("IFS", " \t\n"), ("MACHTYPE", "x86_64-pc-linux-gnu"), ("OPTERR", "1"), ("OPTIND", "1"),
     ("OSTYPE", "linux-gnu"), ("PS4", "+ ")]
  let numbers : List (String × String) := [("EUID", "0"), ("PPID", "1"), ("UID", "0")]
  let version := ["5", "2", "21", "1", "release", "x86_64-pc-linux-gnu"]
  (texts.map fun (name, value) => (ascii name, { value := some (ascii value) : Variable }))
    ++ (numbers.map fun (name, value) =>
      (ascii name,
        { value := some (ascii value), isReadOnly := true, isNumber := true : Variable }))
    ++ [(ascii "BASH_VERSINFO",
        { elements := some (.ofList (version.map ascii)), isReadOnly := true })]

/-- How deep a shell is among others, as a text. -/
def levelAfter (text : Option ByteText) : ByteText :=
  match text.bind ByteText.toNat? with
  | some level => ByteText.ofNat (level + 1)
  | none => ['1']

/-- The variables that the shell begins with. -/
def bindings (environment : Environment) : List (ByteText × Variable) :=
  let old (name : String) : Option ByteText :=
    (environment.find? fun entry => entry.1 = ascii name).map Prod.snd
  let own := ownBindings
  let isOwn (name : ByteText) : Bool :=
    name = ascii "SHLVL" || own.any fun entry => entry.1 = name
  let handed := environment.filterMap fun (name, value) =>
    if isName name && !isOwn name then
      some (name, { value := some value, isExported := true : Variable })
    else none
  let usual : List (ByteText × Variable) :=
    [("PATH", Launcher.usualPath), ("SHELL", ascii "/bin/bash"),
      ("TERM", ascii "dumb")].filterMap fun (name, value) =>
      if (old name).isSome then none else some (ascii name, { value := some value })
  let mark (name : String) : List (ByteText × Variable) :=
    if (old name).isSome then [] else [(ascii name, { isExported := true })]
  own ++ usual ++ mark "OLDPWD"
    ++ [(ascii "SHLVL", { value := some (levelAfter (old "SHLVL")), isExported := true })]
    ++ handed

/-- What the shell does by itself from the start. -/
def usualOptions : List Char := ['h', 'B', '5']

end Invocation

end SchemaDocs.Shell

/-!
## Starting either shell

Options, and where the script comes from.
-/

namespace SchemaDocs.Shell

namespace Start

/-- How many levels a script goes deep. -/
def deepest : Nat := 1500

/-- What was said by the options of a shell. -/
structure Plan where
  /-- Whether the first operand is the script itself. -/
  isText : Bool := false
  operands : List ByteText

/-- Reads the options of a shell.  Each step takes an argument. -/
def readOptions : Nat → Bool → List ByteText → Action Plan
  | 0, isText, rest => return ⟨isText, rest⟩
  | fuel + 1, isText, arguments => do
    match arguments with
    | [] => return ⟨isText, []⟩
    | ['-'] :: rest => return ⟨isText, rest⟩
    | ['-', '-'] :: rest => return ⟨isText, rest⟩
    | ('-' :: letters) :: rest =>
      let rest ← Builtin.putLetters true (letters.filter fun c => c != 'c' && c != 'l') rest
      readOptions fuel (isText || letters.contains 'c') rest
    | ('+' :: letters) :: rest =>
      let rest ← Builtin.putLetters false letters rest
      readOptions fuel isText rest
    | rest => return ⟨isText, rest⟩

/-- Reads all of the file of a path. -/
def readScript (path : ByteText) : Action ByteText := do
  match ← Action.program (Program.openInput path) with
  | .ok channel =>
    if ← Action.program (Program.isDirectory channel) then return []
    else
      let text ← Action.system (System.readAll channel)
      Action.settle
      return text
  | .error cause =>
    let reason :=
      if cause = .notFound || cause = .notADirectory then "No such file" else cause.reason
    Action.fail (ascii "cannot open " ++ path ++ ascii ": " ++ ascii reason)

/-- Finds the script of a shell, and sets the name and the arguments. -/
def prepare (arguments : List ByteText) : Action ByteText := do
  let plan ← readOptions (arguments.length + 1) false arguments
  let put (name : ByteText) (arguments : List ByteText) : Action Unit :=
    Action.change fun session => { session with name := name, arguments := arguments }
  if plan.isText then
    match plan.operands with
    | [] =>
      Action.fail (ascii "-c requires an argument")
    | [text] => do
      put (← Action.session).name []
      return text
    | text :: name :: rest => do
      put name rest
      return text
  else if plan.operands.isEmpty || (← Action.hasOption 's') then
    Action.change fun session => { session with arguments := plan.operands }
    let text ← Action.program do
      match ← Program.readInput with
      | .ok text => return text
      | .error _ => return []
    return text
  else
    match plan.operands with
    | [] => return []
    | path :: rest => do
      let text ← readScript path
      put path rest
      return text

/-- The path by which the directory of a process was reached, as far as it is known. -/
def pathOf (process : Process) : System ByteText := do
  let physical := Builtin.directoryPath process.directory
  match process.environment.find? fun entry => entry.1 = ascii "PWD" with
  | some (_, '/' :: rest) =>
    match (← get).tree.locate process.directory (ByteText.toString ('/' :: rest)) with
    | .ok place => return if place.steps = process.directory then '/' :: rest else physical
    | .error _ => return physical
  | _ => return physical

/-- The variables that a shell begins with. -/
def bindings (environment : Environment) : List (ByteText × Variable) :=
  let handed := environment.filterMap fun (name, value) =>
    if isName name then some (name, { value := some value, isExported := true : Variable })
    else none
  let own := [("IFS", " \t\n"), ("OPTIND", "1"), ("PS1", "# "), ("PS2", "> "), ("PS4", "+ "),
    ("PATH", String.ofList Launcher.usualPath)].filterMap fun (name, value) =>
    if handed.any fun entry => entry.1 = ascii name then none
    else some (ascii name, { value := some (ascii value) : Variable })
  own ++ handed

end Start

/-- A shell as a program. -/
def shell (dialect : Dialect) (launcher : Launcher) (processId : Nat) : Program Ending := do
  let process ← read
  let path ← Start.pathOf process
  let handed := process.environment.filter fun entry =>
    entry.1 != ascii "IFS" && entry.1 != ascii "OPTIND" && entry.1 != ascii "PWD"
  let bindings := match dialect with
    | .sh => Start.bindings handed
    | .bash => Invocation.bindings handed
  let session : Session :=
    { dialect := dialect, name := process.name, arguments := []
      bindings := (ascii "PWD", { value := some path, isExported := true }) :: bindings
      options := if dialect = .bash then Invocation.usualOptions else []
      features := if dialect = .bash then Setting.usualFeatures else []
      lastArgument := process.name
      descriptors := process.descriptors, directory := process.directory, path := path
      line := 0, processId := processId, mask := process.mask }
  let interpreter := Interpreter.ofDepth launcher Start.deepest
  let whole : Action Ending := do
    let result ← Action.tried do
      let text ← match dialect with
        | .sh => Start.prepare process.arguments
        | .bash => Invocation.prepare process.arguments
      Action.change fun session => { session with line := 1 }
      interpreter.script text
    Action.endingOf interpreter result
  let (result, _) ← whole.run session
  match result with
  | .ok ending => return ending
  | .error (.struck signal) => return .killed signal
  | .error _ => return .exited 0

end SchemaDocs.Shell
