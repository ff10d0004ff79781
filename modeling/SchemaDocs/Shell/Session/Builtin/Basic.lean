import SchemaDocs.Shell.Session.Expand
/-!
# Commands of the shell

What the shell does by itself.  Such a command gets its arguments and gives a status.
When a special one fails the shell ends.
-/

namespace SchemaDocs.Shell

/-- A command of the shell. -/
structure Builtin where
  name : String
  isSpecial : Bool := false
  /-- Whether arguments may be assignments, whose values are not cut into fields. -/
  assigns : Bool := false
  run : Interpreter → List ByteText → Action Nat

namespace Builtin

/-- Reads the options at the start of some arguments.  A colon behind a letter says that it has an
argument.  Each step takes a letter or an argument. -/
def optionsFrom (letters : ByteText) : Nat → ByteText → List ByteText →
    Action (List (Char × ByteText) × List ByteText)
  | 0, _, arguments => return ([], arguments)
  | fuel + 1, [], arguments => do
    match arguments with
    | ['-', '-'] :: rest => return ([], rest)
    | ('-' :: c :: cs) :: rest => optionsFrom letters fuel (c :: cs) rest
    | _ => return ([], arguments)
  | fuel + 1, c :: cs, arguments => do
    match letters.dropWhile (· != c) with
    | [] => Action.fail (ascii "Illegal option -" ++ [c])
    | _ :: ':' :: _ =>
      match cs, arguments with
      | [], [] => Action.fail (ascii "No arg for -" ++ [c] ++ ascii " option")
      | [], value :: rest =>
        let (options, rest) ← optionsFrom letters fuel [] rest
        return ((c, value) :: options, rest)
      | value, rest =>
        let (options, rest) ← optionsFrom letters fuel [] rest
        return ((c, value) :: options, rest)
    | _ =>
      let (options, rest) ← optionsFrom letters fuel cs arguments
      return ((c, []) :: options, rest)

/-- Reads the options at the start of some arguments. -/
def options (letters : String) (arguments : List ByteText) :
    Action (List (Char × ByteText) × List ByteText) :=
  optionsFrom (ascii letters) (ByteText.total (arguments.map List.length) + 2 * arguments.length + 1) []
    arguments

/-- Fails because a text is no number. -/
def illegalNumber {α : Type} (text : ByteText) : Action α :=
  Action.fail (ascii "Illegal number: " ++ text)

/-- A number that is not below zero. -/
def number (text : ByteText) : Action Nat := do
  match ByteText.toNat? text with
  | some number => if number ≤ 2147483647 then return number else illegalNumber text
  | none => illegalNumber text

/-- A whole number in decimal digits, with blanks around it and perhaps a sign. -/
def integer? (text : ByteText) : Option Int :=
  let text := (((text.dropWhile isSpaceChar).reverse).dropWhile isSpaceChar).reverse
  match text with
  | '-' :: digits => (ByteText.toNat? digits).map fun n => -(n : Int)
  | '+' :: digits => (ByteText.toNat? digits).map Int.ofNat
  | digits => (ByteText.toNat? digits).map Int.ofNat

/-- A whole number of 64 bits. -/
def integer (text : ByteText) : Action Int := do
  match integer? text with
  | some value =>
    if -(Arithmetic.greatest : Int) - 1 ≤ value && value ≤ Arithmetic.greatest then return value
    else illegalNumber text
  | none => illegalNumber text

/-- A text between single quotes, as a shell reads it. -/
def quoted (text : ByteText) : ByteText :=
  ['\''] ++ (text.map fun c => if c = '\'' then ascii "'\"'\"'" else [c]).flatten ++ ['\'']

/-- Writes to the output. -/
def out (text : ByteText) : Action Unit := Action.program (Program.out text)

/-- Writes a line to the output. -/
def outLine (text : ByteText) : Action Unit := Action.program (Program.outLine text)

/-- Refuses what is no name of a variable. -/
def requireName (name : ByteText) (text : ByteText) : Action Unit := do
  if isName name then return ()
  else Action.fail (text ++ ascii ": bad variable name")

/-- The name and the value of an argument that assigns. -/
def assignment (argument : ByteText) : ByteText × Option ByteText :=
  let name := argument.takeWhile (· != '=')
  match argument.drop name.length with
  | _ :: value => (name, some value)
  | [] => (name, none)

end Builtin

end SchemaDocs.Shell

/-!
## Use of commands of the shell

How commands of the shell with more features are used, and how their options are read.
Wrong use is answered with a message and a line that says how the command is used.
-/

namespace SchemaDocs.Shell

namespace Usage

/-- How commands are used. -/
def texts : List (String × String) :=
  [(".", ". filename [arguments]"),
   (":", ":"),
   ("alias", "alias [-p] [name[=value] ... ]"),
   ("bg", "bg [job_spec ...]"),
   ("break", "break [n]"),
   ("builtin", "builtin [shell-builtin [arg ...]]"),
   ("caller", "caller [expr]"),
   ("cd", "cd [-L|[-P [-e]] [-@]] [dir]"),
   ("command", "command [-pVv] command [arg ...]"),
   ("continue", "continue [n]"),
   ("declare",
    "declare [-aAfFgiIlnrtux] [name[=value] ...] or declare -p [-aAfFilnrtux] [name "
      ++ "...]"),
   ("dirs", "dirs [-clpv] [+N] [-N]"),
   ("disown", "disown [-h] [-ar] [jobspec ... | pid ...]"),
   ("echo", "echo [-neE] [arg ...]"),
   ("enable", "enable [-a] [-dnps] [-f filename] [name ...]"),
   ("eval", "eval [arg ...]"),
   ("exec", "exec [-cl] [-a name] [command [argument ...]] [redirection ...]"),
   ("exit", "exit [n]"),
   ("export", "export [-fn] [name[=value] ...] or export -p"),
   ("fg", "fg [job_spec]"),
   ("getopts", "getopts optstring name [arg ...]"),
   ("hash", "hash [-lr] [-p pathname] [-dt] [name ...]"),
   ("help", "help [-dms] [pattern ...]"),
   ("jobs", "jobs [-lnprs] [jobspec ...] or jobs -x command [args]"),
   ("kill", "kill [-s sigspec | -n signum | -sigspec] pid | jobspec ... or kill -l [sigspec]"),
   ("let", "let arg [arg ...]"),
   ("local", "local [option] name[=value] ..."),
   ("logout", "logout [n]"),
   ("mapfile",
    "mapfile [-d delim] [-n count] [-O origin] [-s count] [-t] [-u fd] [-C callback] "
      ++ "[-c quantum] [array]"),
   ("popd", "popd [-n] [+N | -N]"),
   ("printf", "printf [-v var] format [arguments]"),
   ("pushd", "pushd [-n] [+N | -N | dir]"),
   ("pwd", "pwd [-LP]"),
   ("read",
    "read [-ers] [-a array] [-d delim] [-i text] [-n nchars] [-N nchars] [-p prompt] "
      ++ "[-t timeout] [-u fd] [name ...]"),
   ("readarray",
    "readarray [-d delim] [-n count] [-O origin] [-s count] [-t] [-u fd] [-C "
      ++ "callback] [-c quantum] [array]"),
   ("readonly", "readonly [-aAf] [name[=value] ...] or readonly -p"),
   ("return", "return [n]"),
   ("set", "set [-abefhkmnptuvxBCEHPT] [-o option-name] [--] [-] [arg ...]"),
   ("shift", "shift [n]"),
   ("shopt", "shopt [-pqsu] [-o] [optname ...]"),
   ("source", "source filename [arguments]"),
   ("suspend", "suspend [-f]"),
   ("times", "times"),
   ("trap", "trap [-lp] [[arg] signal_spec ...]"),
   ("type", "type [-afptP] name [name ...]"),
   ("typeset",
    "typeset [-aAfFgiIlnrtux] name[=value] ... or typeset -p [-aAfFilnrtux] [name "
      ++ "...]"),
   ("ulimit", "ulimit [-SHabcdefiklmnpqrstuvxPRT] [limit]"),
   ("umask", "umask [-p] [-S] [mode]"),
   ("unalias", "unalias [-a] name [name ...]"),
   ("unset", "unset [-f] [-v] [-n] [name ...]"),
   ("wait", "wait [-fn] [-p var] [id ...]")]

/-- Says how the command that is running is used. -/
def tell : Action Unit := do
  let name := (← Action.session).commandName.getD []
  match texts.find? fun entry => ascii entry.1 = name with
  | some (_, text) =>
    Action.program (Program.err (name ++ ascii ": usage: " ++ ascii text ++ ['\n']))
  | none => return ()

/-- Fails because of wrong use. -/
def refuse {α : Type} (text : ByteText) : Action α := do
  Action.warn text
  tell
  Action.setStatus 2
  throw .fault

/-- Reads the options at the start of some arguments.  A colon behind a letter says that it has an
argument.  Each step takes a letter or an argument. -/
def optionsFrom (letters : ByteText) : Nat → ByteText → List ByteText →
    Action (List (Char × ByteText) × List ByteText)
  | 0, _, arguments => return ([], arguments)
  | fuel + 1, [], arguments => do
    match arguments with
    | ['-', '-'] :: rest => return ([], rest)
    | ('-' :: c :: cs) :: rest => optionsFrom letters fuel (c :: cs) rest
    | _ => return ([], arguments)
  | fuel + 1, c :: cs, arguments => do
    match letters.dropWhile (· != c) with
    | [] => refuse (['-', c] ++ ascii ": invalid option")
    | _ :: ':' :: _ =>
      match cs, arguments with
      | [], [] => refuse (['-', c] ++ ascii ": option requires an argument")
      | [], value :: rest =>
        let (options, rest) ← optionsFrom letters fuel [] rest
        return ((c, value) :: options, rest)
      | value, rest =>
        let (options, rest) ← optionsFrom letters fuel [] rest
        return ((c, value) :: options, rest)
    | _ =>
      let (options, rest) ← optionsFrom letters fuel cs arguments
      return ((c, []) :: options, rest)

/-- Reads the options at the start of some arguments. -/
def options (letters : String) (arguments : List ByteText) :
    Action (List (Char × ByteText) × List ByteText) :=
  optionsFrom (ascii letters)
    (ByteText.total (arguments.map List.length) + 2 * arguments.length + 1) [] arguments

/-- Whether an option was given. -/
def has (options : List (Char × ByteText)) (letter : Char) : Bool :=
  options.any fun option => option.1 = letter

/-- The last argument of an option. -/
def last? (options : List (Char × ByteText)) (letter : Char) : Option ByteText :=
  (options.filter fun option => option.1 = letter).getLast?.map Prod.snd

/-- Refuses what is no name of a variable. -/
def requireName (name text : ByteText) : Action Unit := do
  if isName name then return ()
  else Action.failWith 1 (['\x60'] ++ text ++ ascii "': not a valid identifier")

/-- A whole number as the argument of a command that ends something. -/
def number (text : ByteText) (status : Nat) : Action Int := do
  match Builtin.integer? text with
  | some value => return value
  | none => Action.failWith status (text ++ ascii ": numeric argument required")

end Usage

end SchemaDocs.Shell
