import SchemaDocs.Shell.ByteText
import SchemaDocs.Shell.Process
import SchemaDocs.Shell.Script.Read
import SchemaDocs.Shell.Signal
/-!
# Sessions

What a shell at work keeps, and where it is in its script.

## What the shell with more features keeps

Settings, and arrays of texts.

### Settings

What can be switched on and off: options, which have a letter each, and features.
-/

namespace SchemaDocs.Shell

namespace Setting

/-- The options of the shell by name, each with its letter. -/
def options : List (String × Char) :=
  [("allexport", 'a'), ("braceexpand", 'B'), ("emacs", '6'), ("errexit", 'e'), ("errtrace", 'E'),
   ("functrace", 'T'), ("hashall", 'h'), ("histexpand", 'H'), ("history", '4'),
   ("ignoreeof", 'I'), ("interactive-comments", '5'), ("keyword", 'k'), ("monitor", 'm'),
   ("noclobber", 'C'), ("noexec", 'n'), ("noglob", 'f'), ("nolog", '0'), ("notify", 'b'),
   ("nounset", 'u'), ("onecmd", 't'), ("physical", 'P'), ("pipefail", '2'), ("posix", '3'),
   ("privileged", 'p'), ("verbose", 'v'), ("vi", '7'), ("xtrace", 'x')]

/-- The features that can be switched on, each with whether it is on from the start. -/
def features : List (String × Bool) :=
  [("autocd", false), ("assoc_expand_once", false), ("cdable_vars", false), ("cdspell", false),
   ("checkhash", false), ("checkjobs", false), ("checkwinsize", true), ("cmdhist", true),
   ("compat31", false), ("compat32", false), ("compat40", false), ("compat41", false),
   ("compat42", false), ("compat43", false), ("compat44", false), ("complete_fullquote", true),
   ("direxpand", false), ("dirspell", false), ("dotglob", false), ("execfail", false),
   ("expand_aliases", false), ("extdebug", false), ("extglob", false), ("extquote", true),
   ("failglob", false), ("force_fignore", true), ("globasciiranges", true),
   ("globskipdots", true), ("globstar", false), ("gnu_errfmt", false), ("histappend", false),
   ("histreedit", false), ("histverify", false), ("hostcomplete", true), ("huponexit", false),
   ("inherit_errexit", false), ("interactive_comments", true), ("lastpipe", false),
   ("lithist", false), ("localvar_inherit", false), ("localvar_unset", false),
   ("login_shell", false), ("mailwarn", false), ("no_empty_cmd_completion", false),
   ("nocaseglob", false), ("nocasematch", false), ("noexpand_translation", false),
   ("nullglob", false), ("patsub_replacement", true), ("progcomp", true),
   ("progcomp_alias", false), ("promptvars", true), ("restricted_shell", false),
   ("shift_verbose", false), ("sourcepath", true), ("varredir_close", false),
   ("xpg_echo", false)]

/-- The features that are on from the start. -/
def usualFeatures : List ByteText :=
  (features.filter Prod.snd).map fun entry => ascii entry.1

/-- The names of the options that are set, with colons between them. -/
def shownOptions (letters : List Char) : ByteText :=
  let names := options.filterMap fun (name, letter) =>
    if letters.contains letter then some (ascii name) else none
  (names.intersperse [':']).flatten

/-- The names of the features that are on, with colons between them. -/
def shownFeatures (isOn : ByteText → Bool) : ByteText :=
  let names := (features.map fun entry => ascii entry.1).filter isOn
  ((names.mergeSort ByteText.isBefore).intersperse [':']).flatten

end Setting

end SchemaDocs.Shell

/-!
### Elements of arrays

An array holds texts, either under numbers, of which some may be missing, or under texts.
Under texts the elements come in an order that hangs on the texts only.
-/

namespace SchemaDocs.Shell

/-- The elements of an array. -/
inductive Elements where
  /-- Under numbers, in their order. -/
  | list (entries : List (Nat × ByteText))
  /-- Under texts, the one that was added last first. -/
  | table (entries : List (ByteText × ByteText))
deriving DecidableEq

/-- The place of an element. -/
inductive ElementPlace where
  | number (place : Nat)
  | key (key : ByteText)
deriving DecidableEq

namespace Elements

/-- Texts under the numbers from zero on. -/
def ofList (texts : List ByteText) : Elements := .list (texts.zipIdx.map fun (text, n) => (n, text))

/-- Puts a text under a number. -/
def insertAt (place : Nat) (text : ByteText) : List (Nat × ByteText) → List (Nat × ByteText)
  | [] => [(place, text)]
  | (other, old) :: rest =>
    if place < other then (place, text) :: (other, old) :: rest
    else if place = other then (place, text) :: rest
    else (other, old) :: insertAt place text rest

/-- The list, out of 1024, in which a text is kept. -/
def listOf (key : ByteText) : Nat :=
  (key.foldl (fun (hash : UInt32) c => (hash * 16777619) ^^^ UInt32.ofNat c.toNat)
    2166136261).toNat % 1024

/-- The elements under texts in the order in which they are listed. -/
def sorted (entries : List (ByteText × ByteText)) : List (ByteText × ByteText) :=
  entries.mergeSort fun a b => Nat.ble (listOf a.1) (listOf b.1)

/-- The texts of all elements. -/
def texts : Elements → List ByteText
  | .list entries => entries.map Prod.snd
  | .table entries => (sorted entries).map Prod.snd

/-- The places of all elements as they are written. -/
def places : Elements → List ByteText
  | .list entries => entries.map fun entry => ByteText.ofNat entry.1
  | .table entries => (sorted entries).map Prod.fst

/-- The number of elements. -/
def size : Elements → Nat
  | .list entries => entries.length
  | .table entries => entries.length

/-- The number behind the last one. -/
def next : Elements → Nat
  | .list entries => (entries.getLast?.map fun entry => entry.1 + 1).getD 0
  | .table _ => 0

/-- The text at a place. -/
def get? (elements : Elements) (place : ElementPlace) : Option ByteText :=
  match elements, place with
  | .list entries, .number n => (entries.find? fun entry => entry.1 = n).map Prod.snd
  | .table entries, .key key => (entries.find? fun entry => entry.1 = key).map Prod.snd
  | .table entries, .number n =>
    (entries.find? fun entry => entry.1 = ByteText.ofNat n).map Prod.snd
  | .list _, .key _ => none

/-- Puts a text at a place. -/
def insert (elements : Elements) (place : ElementPlace) (text : ByteText) : Elements :=
  let put (key : ByteText) (entries : List (ByteText × ByteText)) : Elements :=
    if entries.any fun entry => entry.1 = key then
      .table (entries.map fun entry => if entry.1 = key then (key, text) else entry)
    else .table ((key, text) :: entries)
  match elements, place with
  | .list entries, .number n => .list (insertAt n text entries)
  | .list entries, .key _ => .list entries
  | .table entries, .key key => put key entries
  | .table entries, .number n => put (ByteText.ofNat n) entries

/-- Takes away what is at a place. -/
def erase (elements : Elements) (place : ElementPlace) : Elements :=
  match elements, place with
  | .list entries, .number n => .list (entries.filter fun entry => entry.1 != n)
  | .list entries, .key _ => .list entries
  | .table entries, .key key => .table (entries.filter fun entry => entry.1 != key)
  | .table entries, .number n =>
    .table (entries.filter fun entry => entry.1 != ByteText.ofNat n)

end Elements

end SchemaDocs.Shell

/-!
## Sessions

A session is a shell at work: its variables, functions and open files, and where it is in
its script.  Commands change the session and what processes share.  Where one does not
simply go on to the next, it jumps.
-/

namespace SchemaDocs.Shell

/-- A variable.  It may be marked without having a value. -/
structure Variable where
  value : Option ByteText := none
  elements : Option Elements := none
  isExported : Bool := false
  isReadOnly : Bool := false
  /-- Whether values are worked out as numbers. -/
  isNumber : Bool := false
  /-- The case of letters in all values. -/
  letterCase : Option CaseChange := none
  /-- Whether the value is the name of the variable that is meant. -/
  isPointer : Bool := false
deriving DecidableEq

/-- What a variable stands for: its value, or the first element. -/
def Variable.text? (known : Variable) : Option ByteText :=
  match known.elements with
  | some elements => elements.get? (.number 0)
  | none => known.value

/-- A function: its body and the script that it is from. -/
structure ShellFunction where
  body : Command
  source : ByteText

/-- A process that was started in the background: its number, how it ended and when. -/
structure BackgroundJob where
  number : Nat
  ending : Ending
  milliseconds : Nat

/-- A shell at work. -/
structure Session where
  dialect : Dialect
  /-- The name of the shell, by which its messages begin. -/
  name : ByteText
  arguments : List ByteText
  bindings : List (ByteText × Variable) := []
  functions : List (ByteText × ShellFunction) := []
  /-- Texts that stand for the first words of commands. -/
  aliases : List (ByteText × ByteText) := []
  documents : Documents := []
  options : List Char := []
  /-- What is done at the end, which is signal zero, and on other signals. -/
  traps : List (Nat × ByteText) := []
  /-- The signals that came and were not looked at yet. -/
  signals : List Nat := []
  descriptors : Descriptors
  directory : Steps
  /-- The path by which the directory was reached. -/
  path : ByteText
  /-- The paths of programs that were found by their names. -/
  found : List (ByteText × ByteText) := []
  status : Nat := 0
  /-- The status of the last substitution in the command that is being made ready. -/
  substituted : Nat := 0
  line : Nat := 1
  /-- The command of the shell that is running. -/
  commandName : Option ByteText := none
  processId : Nat := 100
  isSubshell : Bool := false
  jobs : List BackgroundJob := []
  /-- The number of loops that are running. -/
  loops : Nat := 0
  /-- The number of functions that are running. -/
  calls : Nat := 0
  /-- The variables to put back after the functions that are running. -/
  hidden : List (List (ByteText × Option Variable)) := []
  /-- How many letters of an argument were looked at for options. -/
  optionOffset : Nat := 0
  /-- The bits that are taken from new files. -/
  mask : Nat := 18
  /-- How the script is called in messages about how it is written. -/
  scriptName : ByteText := []
  /-- The functions that are running, with the line of each call, and the scripts they are from. -/
  callers : List (ByteText × Nat) := []
  sources : List ByteText := []
  /-- The line up to which the script was read. -/
  linesRead : Nat := 0
  /-- How the stages of the last pipeline ended. -/
  stageStatuses : List Nat := [0]
  /-- The features that are switched on. -/
  features : List ByteText := []
  /-- The directories to go back to. -/
  stack : List ByteText := []
  /-- The last argument of the last command. -/
  lastArgument : ByteText := []
  /-- How many shells this one is in. -/
  depth : Nat := 0
  /-- How deep the script is in others that it runs. -/
  indirection : Nat := 0
  /-- What was started to be read or written by a command: how to go on after it. -/
  readers : List (Nat × List Command) := []

/-- Why a command does not go on to the next one. -/
inductive Jump where
  /-- The shell ends, after what is to be done at its end. -/
  | leave
  /-- The shell ends at once. -/
  | finish (ending : Ending)
  /-- A signal to the outermost shell ends it. -/
  | struck (signal : Nat)
  /-- A command of the shell failed so that the shell itself may have to end. -/
  | fault
  /-- The rest of the line is passed over. -/
  | passLine
  | breakLoop (levels : Nat)
  | continueLoop (levels : Nat)
  | returnFrom
  /-- Nothing ever comes next. -/
  | stall
deriving DecidableEq

/-- A step of a session. -/
abbrev Action := ExceptT Jump (StateT Session System)

namespace Action

/-- The session. -/
def session : Action Session := fun session => pure (.ok session, session)

/-- Changes the session. -/
def change (f : Session → Session) : Action Unit := fun session => pure (.ok (), f session)

/-- Changes what processes share. -/
def system {α : Type} (step : System α) : Action α := fun session => do
  let value ← step
  pure (.ok value, session)

/-- Runs a step and tells how it jumped, if it did. -/
def tried {α : Type} (step : Action α) : Action (Except Jump α) := fun session => do
  let (result, session) ← step.run session
  pure (.ok result, session)

/-- Goes on as a step did that was run before. -/
def resume {α : Type} (result : Except Jump α) : Action α :=
  match result with
  | .ok value => pure value
  | .error jump => throw jump

/-- Does nothing more, ever, if the process that was run would never end. -/
def settle : Action Unit := do
  match (← system get).stall with
  | some _ => throw .stall
  | none => return ()

/-- Counts a command.  After too many of them there seems to be no end. -/
def count : Action Unit := do
  match (← system get).budget with
  | 0 =>
    system (System.stall .busy)
    throw .stall
  | budget + 1 => system (modify fun world => { world with budget := budget })

/-! ### Messages -/

/-- The process of the shell itself. -/
def process : Action Process := do
  let session ← session
  return {
    name := session.name, arguments := session.arguments, environment := []
    descriptors := session.descriptors, directory := session.directory, mask := session.mask }

/-- Runs a step of a program as the shell itself. -/
def program {α : Type} (step : Program α) : Action α := do
  let process ← process
  let value ← system (step.run process)
  settle
  return value

/-- The name of the script that is running. -/
def source : Action ByteText := do
  let session ← session
  return session.sources.head?.getD session.name

/-- Whether this is the shell with more features. -/
def isBash : Action Bool := do return (← session).dialect = .bash

/-- What messages begin with. -/
def heading : Action ByteText := do
  let session ← session
  let line := ByteText.ofNat session.line
  let command :=
    match session.commandName with
    | some name => name ++ ascii ": "
    | none => []
  match session.dialect with
  | .sh => return session.name ++ ascii ": " ++ line ++ ascii ": " ++ command
  | .bash => return (← source) ++ ascii ": line " ++ line ++ ascii ": " ++ command

/-- Writes a message. -/
def warn (text : ByteText) : Action Unit := do
  let heading ← heading
  program (Program.err (heading ++ text ++ ['\n']))

/-- Sets the status. -/
def setStatus (status : Nat) : Action Unit :=
  change fun session => { session with status := status }

/-- Fails with a message and a status. -/
def failWith {α : Type} (status : Nat) (text : ByteText) : Action α := do
  warn text
  setStatus status
  throw .fault

/-- Fails with a message. -/
def fail {α : Type} (text : ByteText) : Action α := failWith 2 text

/-- Passes over the rest of the line after a message. -/
def passLine {α : Type} (text : ByteText) : Action α := do
  warn text
  setStatus 1
  throw .passLine

/-- Fails with a message that each shell words in its way.  One of them passes over the rest of the
line then. -/
def failByDialect {α : Type} (sh bash : ByteText) : Action α := do
  if ← isBash then passLine bash else fail sh

/-! ### Variables -/

/-- A list of texts as a variable. -/
def listVariable (texts : List ByteText) : Option Variable :=
  some { elements := some (.ofList texts) }

/-- A variable whose value the shell works out when it is looked up. -/
def computed? (name : ByteText) : Action (Option Variable) := do
  let session ← session
  let text (value : ByteText) : Option Variable := some { value := some value }
  let whole := (← system get).milliseconds
  match String.ofList name with
  | "LINENO" => return text (ByteText.ofNat session.line)
  | "SECONDS" => return text (ByteText.ofNat (whole / 1000))
  | "BASHPID" => return text (ByteText.ofNat (session.processId + session.depth))
  | "BASH_SUBSHELL" => return text (ByteText.ofNat session.depth)
  | "PIPESTATUS" => return listVariable (session.stageStatuses.map ByteText.ofNat)
  | "FUNCNAME" =>
    if session.callers.isEmpty then return none
    else return listVariable (session.callers.map Prod.fst
      ++ if session.scriptName = ascii "-c" then [] else [ascii "main"])
  | "BASH_LINENO" =>
    return listVariable (session.callers.map (fun caller => ByteText.ofNat caller.2) ++ [['0']])
  | "BASH_SOURCE" => return listVariable session.sources
  | "DIRSTACK" => return listVariable (session.path :: session.stack)
  | "GROUPS" => return listVariable [['0']]
  | "SHELLOPTS" =>
    let value := Setting.shownOptions session.options
    return some { value := some value, isReadOnly := true }
  | "BASHOPTS" =>
    let value := Setting.shownFeatures session.features.contains
    return some { value := some value, isReadOnly := true }
  | "_" => return text session.lastArgument
  | _ => return none

/-- A variable by its name, even if it points to another one. -/
def pointer? (name : ByteText) : Action (Option Variable) := do
  return ((← session).bindings.find? fun entry => entry.1 = name).map Prod.snd

/-- The name of the variable that is meant by a name.  Each step follows a pointer. -/
def targetFrom : Nat → ByteText → Action ByteText
  | 0, name => return name
  | fuel + 1, name => do
    match ← pointer? name with
    | some known =>
      if known.isPointer then
        match known.value with
        | some other => targetFrom fuel other
        | none => return name
      else return name
    | none => return name

/-- The name of the variable that is meant by a name. -/
def target (name : ByteText) : Action ByteText := do
  if ← isBash then targetFrom 8 name else return name

/-- A variable by its name. -/
def variableOf? (name : ByteText) : Action (Option Variable) := do
  let name ← target name
  if ← isBash then
    match ← computed? name with
    | some known => return some known
    | none => pointer? name
  else pointer? name

/-- The value of a variable. -/
def value? (name : ByteText) : Action (Option ByteText) := do
  return (← variableOf? name).bind Variable.text?

/-- Replaces what is known of a variable. -/
def putVariable (name : ByteText) (new : Option Variable) : Action Unit :=
  change fun session =>
    let others := session.bindings.filter fun entry => entry.1 != name
    match new with
    | some known =>
      { session with bindings := (name, known) :: others }
    | none => { session with bindings := others }

/-- Whether an option of the shell is set. -/
def hasOption (letter : Char) : Action Bool := do return (← session).options.contains letter

/-- Whether a feature is switched on. -/
def hasFeature (name : String) : Action Bool := do
  return (← session).features.contains (ascii name)

/-- A text with its letters in another case. -/
def changeCase (change : CaseChange) (c : Char) : Char :=
  match change with
  | .upper => c.toUpper
  | .lower => c.toLower
  | .swap => if c.isLower then c.toUpper else c.toLower

/-- A variable with another value, or with an element in place of another. -/
def withValue (old : Variable) (place : Option ElementPlace) (value : ByteText) : Variable :=
  let value := match old.letterCase with
    | some change => value.map (changeCase change)
    | none => value
  match old.elements, place with
  | some elements, place =>
    { old with elements := some (elements.insert (place.getD (.number 0)) value) }
  | none, some place =>
    let before : Elements := match old.value with
      | some text => .list [(0, text)]
      | none => .list []
    { old with elements := some (before.insert place value), value := none }
  | none, none => { old with value := some value }

/-- Refuses to change a variable.  A command of the shell fails by that alone. -/
def refuseChange {α : Type} (name : ByteText) : Action α := do
  if ← isBash then
    let command := (← session).commandName
    change fun session => { session with commandName := none }
    warn (name ++ ascii ": readonly variable")
    change fun session => { session with commandName := command }
    setStatus 1
    if command.isSome then throw .fault else throw .passLine
  else fail (name ++ ascii ": is read only")

/-- Notes that a variable has another value, as far as the shell cares for it. -/
def noteChange (name : ByteText) : Action Unit := do
  if name = ascii "OPTIND" then change fun session => { session with optionOffset := 0 }
  if name = ascii "PATH" then change fun session => { session with found := [] }

/-- Gives a variable or a place in an array a value. -/
def assignAt (name : ByteText) (place : Option ElementPlace) (value : ByteText) : Action Unit := do
  let name ← target name
  let old := (← variableOf? name).getD {}
  if old.isReadOnly then refuseChange name
  else
    let exportsAll ← hasOption 'a'
    putVariable name (some { withValue old place value with
      isExported := old.isExported || exportsAll })
    noteChange name

/-- Gives a variable a value. -/
def assign (name value : ByteText) : Action Unit := assignAt name none value

/-- Gives a variable elements instead of what it had. -/
def assignElements (name : ByteText) (elements : Elements) : Action Unit := do
  let name ← target name
  let old := (← variableOf? name).getD {}
  if old.isReadOnly then refuseChange name
  else putVariable name (some { old with elements := some elements, value := none })

/-- Takes a variable away. -/
def unassign (name : ByteText) : Action Unit := do
  let old := (← variableOf? name).getD {}
  if old.isReadOnly then
    if ← isBash then failWith 1 (name ++ ascii ": cannot unset: readonly variable")
    else fail (name ++ ascii ": is read only")
  else putVariable name none

/-- The characters that separate fields. -/
def separators : Action ByteText := do
  return (← value? (ascii "IFS")).getD [' ', '\t', '\n']

/-- The place of a name among the variables of a shell, which are handed on in the order of these
places. -/
def place (dialect : Dialect) (name : ByteText) : Nat :=
  match dialect with
  | .sh =>
    (((name.head?.map Char.toNat).getD 0) * 16 + ByteText.total (name.map Char.toNat)) % 39
  | .bash =>
    let hash := name.foldl
      (fun (hash : UInt32) c => (hash * 16777619) ^^^ UInt32.ofNat c.toNat) 2166136261
    hash.toNat % 1024

/-- The variables that are handed on. -/
def environment : Action Environment := do
  let session ← session
  let handed := session.bindings.reverse.filterMap fun (name, known) =>
    if known.isExported then known.value.map fun value => (name, value) else none
  return handed.mergeSort fun a b => place session.dialect a.1 ≤ place session.dialect b.1

/-! ### Open files -/

/-- Lets a descriptor lead to an open file, or to none. -/
def setDescriptor (number : Nat) (channel : Option Nat) : Action Unit :=
  change fun session =>
    let others := session.descriptors.filter fun entry => entry.1 != number
    match channel with
    | some channel => { session with descriptors := (number, channel) :: others }
    | none => { session with descriptors := others }

/-- The open file that a descriptor leads to. -/
def channelOf? (number : Nat) : Action (Option Nat) := do
  return ((← session).descriptors.find? fun entry => entry.1 = number).map Prod.snd

end Action

end SchemaDocs.Shell
