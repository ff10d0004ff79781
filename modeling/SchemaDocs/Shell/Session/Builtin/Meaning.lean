import SchemaDocs.Shell.Session.Builtin.Condition
import SchemaDocs.Shell.Session.Builtin.Control
import SchemaDocs.Shell.Session.Builtin.Text
import SchemaDocs.Shell.Session.Builtin.Variables
import SchemaDocs.Shell.Session.Builtin.Lines
import SchemaDocs.Shell.Session.Builtin.Steer
/-!
# Names of commands

What names stand for in both kinds of shell, and the commands of these by their names.

## Commands of the shell that tell of commands

What the name of a command stands for: a word of the language, an alias, a function, a
command of the shell or a program.
-/

namespace SchemaDocs.Shell

namespace Builtin

/-- The commands of the shell that tell of no others. -/
def plainBuiltins : List Builtin :=
  controlBuiltins ++ variableBuiltins ++ textBuiltins ++ Condition.builtins

/-- The names of commands of the shell that tell of others. -/
def describingNames : List String := ["command", "hash", "type", "ulimit"]

/-- Whether the shell has a command of a name, and whether it is a special one. -/
def named? (name : ByteText) : Option Bool :=
  match plainBuiltins.find? fun builtin => ascii builtin.name = name with
  | some builtin => some builtin.isSpecial
  | none => if describingNames.any fun other => ascii other = name then some false else none

/-- Tells what a name stands for, in words or as it can be used, and whether it stands for
anything. -/
def describe (interpreter : Interpreter) (isVerbose : Bool) (name : ByteText) : Action Bool := do
  let tell (short : ByteText) (long : ByteText) : Action Bool := do
    outLine (if isVerbose then name ++ [' '] ++ long else short)
    return true
  let session ← Action.session
  if (Keyword.ofText? .sh name).isSome then tell name (ascii "is a shell keyword")
  else
    match session.aliases.find? fun entry => entry.1 = name with
    | some (_, text) =>
      tell (ascii "alias " ++ aliasText name text) (ascii "is an alias for " ++ text)
    | none =>
      if session.functions.any fun entry => entry.1 = name then
        tell name (ascii "is a shell function")
      else
        match named? name with
        | some isSpecial =>
          tell name (ascii (if isSpecial then "is a special shell builtin" else "is a shell builtin"))
        | none =>
          match ← Action.findProgram interpreter name with
          | .ok (path, _) =>
            let isKnown := session.found.any fun entry => entry.1 = name
            tell path (ascii (if isKnown then "is a tracked alias for " else "is ") ++ path)
          | .error _ =>
            if isVerbose then outLine (name ++ ascii ": not found")
            return false

/-- Tells what names stand for. -/
def tellTypes (interpreter : Interpreter) (arguments : List ByteText) : Action Nat := do
  arguments.foldlM (fun status name => do
    return if ← describe interpreter true name then status else 127) 0

/-- The place of a name among all names that are listed. -/
def hashPlace (name : ByteText) : Nat :=
  (((name.head?.map Char.toNat).getD 0) * 16 + ByteText.total (name.map Char.toNat)) % 32768 % 31

/-- Lists the programs that were found, or looks for programs ahead of their use. -/
def hash (interpreter : Interpreter) (arguments : List ByteText) : Action Nat := do
  let (options, operands) ← options "r" arguments
  if !options.isEmpty then Action.change fun session => { session with found := [] }
  else if operands.isEmpty then
    let found := (← Action.session).found.reverse.mergeSort fun a b =>
      hashPlace a.1 ≤ hashPlace b.1
    found.forM fun (_, path) => outLine path
  operands.foldlM (fun status name => do
    if (named? name).isSome then return status
    else if (← Action.session).functions.any fun entry => entry.1 = name then return status
    else
      match ← Action.findProgram interpreter name with
      | .ok _ => return status
      | .error _ =>
        Action.warn (name ++ ascii ": not found")
        return 1) 0

/-- Tells what a name stands for under options that ask for it. -/
def tellCommand (interpreter : Interpreter) (arguments : List ByteText) : Action Nat := do
  let (options, operands) ← options "pvV" arguments
  match operands with
  | [] => return 0
  | name :: _ =>
    let isVerbose := options.any fun option => option.1 = 'V'
    return if ← describe interpreter isVerbose name then 0 else 127

/-- All commands of the plain shell. -/
def all : List Builtin :=
  plainBuiltins ++
  [{ name := "type", run := tellTypes },
   { name := "hash", run := hash },
   { name := "command", run := tellCommand },
   { name := "ulimit", run := fun _ arguments => do
      let _ ← options "HSatfdsmcnpvlwr" arguments
      outLine (ascii "unlimited")
      return 0 }]

end Builtin

end SchemaDocs.Shell

/-!
## What names stand for in the shell with more features

The first word of a command may be an alias, a word of the language, a function, a command
of the shell or a program.  Some commands tell which, or run one of these kinds alone.
-/

namespace SchemaDocs.Shell

namespace Meaning

/-- Reads options of scripts, after it was made sure that enough is given. -/
def nextOption (arguments : List ByteText) : Action Nat := do
  match arguments with
  | _ :: _ :: _ => Builtin.nextOption arguments
  | _ =>
    Usage.tell
    return 2

/-- The commands of the shell that know of no others. -/
def plainBuiltins : List Builtin :=
  Declaration.builtins ++ Lines.builtins ++ Truth.builtins ++ Steer.builtins
    ++ [{ name := "getopts", run := fun _ => nextOption }]

/-- The names of commands of the shell that know of others. -/
def describingNames : List String := ["builtin", "command", "hash", "help", "type"]

/-- A command of the shell by its name that knows of no others. -/
def plain? (name : ByteText) : Option Builtin :=
  plainBuiltins.find? fun builtin => ascii builtin.name = name

/-- What a name stands for. -/
inductive Kind where
  | alias (text : ByteText)
  | keyword
  | function
  | builtin
  | hashed (path : ByteText)
  | file (path : ByteText)

/-- The kind in a word. -/
def Kind.word : Kind → String
  | .alias _ => "alias"
  | .keyword => "keyword"
  | .function => "function"
  | .builtin => "builtin"
  | .hashed _ => "file"
  | .file _ => "file"

/-- What is said of a name of a kind. -/
def Kind.sentence (name : ByteText) : Kind → ByteText
  | .alias text => name ++ ascii " is aliased to \x60" ++ text ++ ['\'']
  | .keyword => name ++ ascii " is a shell keyword"
  | .function => name ++ ascii " is a function"
  | .builtin => name ++ ascii " is a shell builtin"
  | .hashed path => name ++ ascii " is hashed (" ++ path ++ [')']
  | .file path => name ++ ascii " is " ++ path

/-- A name as it can be used. -/
def Kind.usable (name : ByteText) : Kind → ByteText
  | .alias text => ascii "alias " ++ name ++ ['='] ++ Quoted.single text
  | .hashed path => path
  | .file path => path
  | _ => name

/-- The path of the program of the kind. -/
def Kind.path? : Kind → Option ByteText
  | .hashed path => some path
  | .file path => some path
  | _ => none

/-- The paths of all programs of a name. -/
def paths (name : ByteText) : Action (List ByteText) := do
  let candidates ←
    if name.contains '/' then pure [name]
    else do
      pure ((ByteText.splitAt ':' (← Action.searchPath)).map fun entry =>
        if entry.isEmpty then ascii "./" ++ name else entry ++ ['/'] ++ name)
  candidates.filterM fun path => Condition.fileHolds 'x' path

/-- All that a name may stand for, the first of which it does.  Only programs may be asked for. -/
def kinds (onlyFiles : Bool) (name : ByteText) : Action (List Kind) := do
  let session ← Action.session
  let expandsAliases ← Action.hasFeature "expand_aliases"
  let aliasOf := if expandsAliases then session.aliases.find? (fun entry => entry.1 = name) else none
  let words : List Kind :=
    (aliasOf.map fun entry => Kind.alias entry.2).toList
      ++ (if (Keyword.ofText? .bash name).isSome then [.keyword] else [])
      ++ (if session.functions.any fun entry => entry.1 = name then [.function] else [])
      ++ (if (plain? name).isSome || describingNames.any fun other => ascii other = name
          then [.builtin] else [])
  let found := if name.contains '/' then none else session.found.find? fun entry => entry.1 = name
  let files ← paths name
  let files := files.map Kind.file
  let files := match found, files with
    | some (_, path), _ :: rest => Kind.hashed path :: rest
    | _, files => files
  return if onlyFiles then files else words ++ files

/-- Tells what names stand for. -/
def type (arguments : List ByteText) : Action Nat := do
  let (options, operands) ← Usage.options "afptP" arguments
  let onlyFiles := Usage.has options 'P'
  operands.foldlM (fun status name => do
    let all ← kinds onlyFiles name
    let all := if Usage.has options 'f' then all.filter (fun kind => kind.word != "function") else all
    let shown := if Usage.has options 'a' then all else all.take 1
    if all.isEmpty then
      if !Usage.has options 't' && !Usage.has options 'p' && !onlyFiles then
        Action.warn (name ++ ascii ": not found")
      return 1
    else
      shown.forM fun kind => do
        if Usage.has options 't' then Builtin.outLine (ascii kind.word)
        else if Usage.has options 'p' || onlyFiles then
          match kind.path? with
          | some path => Builtin.outLine path
          | none => return ()
        else Builtin.outLine (kind.sentence name)
      return status) 0

/-- Tells what a name stands for under options that ask for it. -/
def command (arguments : List ByteText) : Action Nat := do
  let (options, operands) ← Usage.options "pvV" arguments
  let isVerbose := Usage.has options 'V'
  let statuses ← operands.mapM fun name => do
    match ← kinds false name with
    | [] =>
      if isVerbose then Action.warn (name ++ ascii ": not found")
      return 1
    | kind :: _ =>
      Builtin.outLine (if isVerbose then kind.sentence name else kind.usable name)
      return 0
  return if operands.isEmpty || statuses.any (· = 0) then 0 else 1

/-- Lists the programs that were found, looks for programs ahead of their use, or forgets them. -/
def hash (interpreter : Interpreter) (arguments : List ByteText) : Action Nat := do
  let (options, operands) ← Usage.options "dlrp:t" arguments
  if Usage.has options 'r' then Action.change fun session => { session with found := [] }
  let found := (← Action.session).found
  if operands.isEmpty && options.isEmpty then
    if found.isEmpty then Builtin.outLine (ascii "hash: hash table empty")
    else
      Builtin.outLine (ascii "hits\tcommand")
      found.reverse.forM fun (_, path) => Builtin.outLine (ascii "   1\t" ++ path)
    return 0
  else
    operands.foldlM (fun status name => do
      if Usage.has options 'd' then
        Action.change fun session =>
          { session with found := session.found.filter fun entry => entry.1 != name }
        return status
      else if Usage.has options 't' then
        match found.find? fun entry => entry.1 = name with
        | some (_, path) =>
          Builtin.outLine path
          return status
        | none =>
          Action.warn (name ++ ascii ": not found")
          return 1
      else if name.contains '/' || (plain? name).isSome then return status
      else
        match ← Action.findProgram interpreter name with
        | .ok _ => return status
        | .error _ =>
          Action.warn (name ++ ascii ": not found")
          return 1) 0

/-- Runs a command of the shell even if there is a function of its name. -/
def builtin (interpreter : Interpreter) (arguments : List ByteText) : Action Nat := do
  let (_, operands) ← Usage.options "" arguments
  match operands with
  | [] => return 0
  | name :: rest =>
    match plain? name with
    | some builtin =>
      Action.change fun session => { session with commandName := some name }
      builtin.run interpreter rest
    | none =>
      let known : List (String × (List ByteText → Action Nat)) :=
        [("command", command), ("hash", hash interpreter), ("type", type)]
      match known.find? fun entry => ascii entry.1 = name with
      | some (_, run) => run rest
      | none => Action.failWith 1 (name ++ ascii ": not a shell builtin")

/-- All commands of the shell. -/
def builtins : List Builtin :=
  plainBuiltins ++
  [{ name := "type", run := fun _ => type },
   { name := "command", run := fun _ => command },
   { name := "hash", run := hash },
   { name := "builtin", assigns := true, run := builtin }]

end Meaning

end SchemaDocs.Shell

/-!
## All commands of the shell

The commands of each kind of shell by their names.
-/

namespace SchemaDocs.Shell

namespace Builtin

/-- All commands of a shell. -/
def ofDialect : Dialect → List Builtin
  | .sh => all
  | .bash => Meaning.builtins

/-- A command of a shell by its name. -/
def find? (dialect : Dialect) (name : ByteText) : Option Builtin :=
  let name := String.ofList name
  (ofDialect dialect).find? fun builtin => builtin.name = name

end Builtin

end SchemaDocs.Shell
