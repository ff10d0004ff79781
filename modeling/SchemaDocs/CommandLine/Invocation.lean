import SchemaDocs.Text.Basic
/-!
# Command lines

Arguments one by one, and what all of them ask the program to do.

## Arguments

What the arguments of a command line say one by one.  An option is written with two
dashes and its name, or with one dash and a letter, where several letters may follow
one dash.  Its value follows an equals sign, stands right behind the letter, or is the
next argument.  After two dashes alone there are no more options.
-/

namespace SchemaDocs.CommandLine

/-- The options. -/
inductive OptionName where
  | config | converter | verbose | version | help
deriving DecidableEq

namespace OptionName

/-- All options. -/
def all : List OptionName := [.config, .converter, .verbose, .version, .help]

/-- The name that follows two dashes. -/
def long : OptionName → String
  | .config => "config"
  | .converter => "pandoc"
  | .verbose => "verbose"
  | .version => "version"
  | .help => "help"

/-- The letter that follows one dash. -/
def short? : OptionName → Option Char
  | .config => some 'c'
  | .converter => none
  | .verbose => some 'v'
  | .version => some 'V'
  | .help => some 'h'

/-- Whether an option has a value. -/
def takesValue : OptionName → Bool
  | .config => true
  | .converter => true
  | _ => false

/-- The option with a name. -/
def ofLong? (name : List Char) : Option OptionName :=
  all.find? fun option => option.long.toList = name

/-- The option with a letter. -/
def ofShort? (letter : Char) : Option OptionName :=
  all.find? fun option => option.short? = some letter

/-- An option as it is written out. -/
def display (option : OptionName) : String := "--" ++ option.long

end OptionName

/-- Why a command line is refused. -/
inductive UsageError where
  | unknownOption (text : String)
  | missingValue (option : OptionName)
  | unexpectedValue (option : OptionName)
  | repeatedOption (option : OptionName)
  | unknownSubcommand (text : String)
  | unexpectedArgument (text : String)
  | missingArgument
  /-- A path without any character. -/
  | emptyPath
deriving DecidableEq

/-- The text of a refusal. -/
def UsageError.message : UsageError → String
  | .unknownOption text => "unknown option '" ++ text ++ "'"
  | .missingValue option => "option '" ++ option.display ++ "' needs a value"
  | .unexpectedValue option => "option '" ++ option.display ++ "' takes no value"
  | .repeatedOption option => "option '" ++ option.display ++ "' is given twice"
  | .unknownSubcommand text => "unknown subcommand '" ++ text ++ "'"
  | .unexpectedArgument text => "unexpected argument '" ++ text ++ "'"
  | .missingArgument => "an argument is missing"
  | .emptyPath => "a path must not be empty"

/-- What is said by an argument, or by an option and its value. -/
inductive Item where
  /-- An option, with the empty text for its value if it has none. -/
  | option (name : OptionName) (value : String)
  /-- An argument that may name a subcommand. -/
  | word (text : String)
  /-- Two dashes alone. -/
  | doubleDash
  /-- An argument that stands after two dashes. -/
  | operand (text : String)
  /-- Nothing that is allowed. -/
  | fault (cause : UsageError)
deriving DecidableEq

/-- What one argument says, and the option that waits for the next argument. -/
structure Reading where
  items : List Item
  waiting : Option OptionName

/-- An option with its value, which is a path. -/
def valued (option : OptionName) (value : List Char) : Item :=
  if value = [] then .fault .emptyPath else .option option (String.ofList value)

/-- Reads what follows two dashes. -/
def readLong (body : List Char) : Reading :=
  let (name, value?) := match Text.cutAt? '=' body with
    | some (name, value) => (name, some value)
    | none => (body, none)
  match OptionName.ofLong? name, value? with
  | none, _ => ⟨[.fault (.unknownOption ("--" ++ String.ofList name))], none⟩
  | some option, some value =>
    if option.takesValue then ⟨[valued option value], none⟩
    else ⟨[.fault (.unexpectedValue option)], none⟩
  | some option, none =>
    if option.takesValue then ⟨[], some option⟩ else ⟨[.option option ""], none⟩

/-- Reads the letters that follow one dash. -/
def readShort : List Char → Reading
  | [] => ⟨[], none⟩
  | letter :: rest =>
    match OptionName.ofShort? letter with
    | none => ⟨[.fault (.unknownOption (String.ofList ['-', letter]))], none⟩
    | some option =>
      if option.takesValue then
        match rest with
        | [] => ⟨[], some option⟩
        | '=' :: value => ⟨[valued option value], none⟩
        | value => ⟨[valued option value], none⟩
      else
        let more := readShort rest
        ⟨.option option "" :: more.items, more.waiting⟩

/-- Whether an argument is an option and not a value. -/
def isOption (argument : String) : Bool :=
  match argument.toList with
  | '-' :: _ :: _ => true
  | _ => false

/-- Reads one argument that is not two dashes. -/
def read (argument : String) : Reading :=
  match argument.toList with
  | '-' :: '-' :: body => readLong body
  | '-' :: letter :: letters => readShort (letter :: letters)
  | _ => ⟨[.word argument], none⟩

/-- What the arguments of a command line say. -/
def items : List String → List Item
  | [] => []
  | [argument] =>
    if argument = "--" then [.doubleDash]
    else
      let reading := read argument
      reading.items ++ (reading.waiting.map fun option => .fault (.missingValue option)).toList
  | argument :: next :: rest =>
    if argument = "--" then .doubleDash :: (next :: rest).map .operand
    else
      let reading := read argument
      match reading.waiting with
      | none => reading.items ++ items (next :: rest)
      | some option =>
        if isOption next then reading.items ++ [.fault (.missingValue option)]
        else reading.items ++ valued option next.toList :: items rest

end SchemaDocs.CommandLine

/-!
## Command lines

What a command line asks the program to do.  Every option may stand before and behind
the name of a subcommand, once at each place, and behind it counts more.  The first
thing that is not allowed decides, and so does a wish for help or for the version if
it comes before.
-/

namespace SchemaDocs.CommandLine

/-- The work of one run. -/
inductive Action where
  /-- Answers the request that is read from the input. -/
  | answerRequest
  /-- Converts the comments of a set of files. -/
  | convertDescriptors (source dest : String)
  /-- Shows what a request documents. -/
  | inspect (request : String)
deriving DecidableEq

/-- The options that are given at one place. -/
structure Options where
  configPath : Option String := none
  /-- The converter's command. -/
  command : Option String := none
  isVerbose : Bool := false
deriving DecidableEq

/-- All that is asked for. -/
structure Invocation where
  options : Options
  action : Action
deriving DecidableEq

/-- Why a command line leads to no run. -/
inductive Stop where
  | version
  | help
  | refused (cause : UsageError)
deriving DecidableEq

/-- The subcommands. -/
inductive Subcommand where
  | convertDescriptors | inspect
deriving DecidableEq

namespace Subcommand

/-- The name of a subcommand. -/
def name : Subcommand → String
  | .convertDescriptors => "convert-descriptors"
  | .inspect => "inspect"

/-- The subcommand with a name. -/
def ofName? (text : String) : Option Subcommand :=
  [convertDescriptors, inspect].find? fun subcommand => subcommand.name = text

/-- The number of arguments that a subcommand has. -/
def arity : Subcommand → Nat
  | .convertDescriptors => 2
  | .inspect => 1

/-- What a subcommand does with its arguments. -/
def action? : Subcommand → List String → Option Action
  | .convertDescriptors, [source, dest] => some (.convertDescriptors source dest)
  | .inspect, [request] => some (.inspect request)
  | _, _ => none

end Subcommand

namespace Options

/-- Takes an option with its value.  The version can only be asked for before a subcommand. -/
def take (isOutermost : Bool) (options : Options) (name : OptionName) (value : String) :
    Except Stop Options :=
  match name with
  | .config =>
    if options.configPath.isSome then .error (.refused (.repeatedOption name))
    else .ok { options with configPath := some value }
  | .converter =>
    if options.command.isSome then .error (.refused (.repeatedOption name))
    else .ok { options with command := some value }
  | .verbose =>
    if options.isVerbose then .error (.refused (.repeatedOption name))
    else .ok { options with isVerbose := true }
  | .version =>
    if isOutermost then .error .version
    else .error (.refused (.unknownOption name.display))
  | .help => .error .help

/-- The options with a command from the environment, if none is given. -/
def withEnvironment (environment : Option String) (options : Options) : Options :=
  { options with command := options.command.or environment }

/-- The options of a subcommand, and what is missing there from those before it. -/
def behind (inner outer : Options) : Options :=
  ⟨inner.configPath.or outer.configPath, inner.command.or outer.command,
    inner.isVerbose || outer.isVerbose⟩

end Options

/-- The options and arguments of a subcommand. -/
structure SubcommandLine where
  options : Options
  arguments : List String

/-- Reads an argument of a subcommand, which is a path. -/
def takeArgument (subcommand : Subcommand) (line : SubcommandLine) (text : String) :
    Except Stop SubcommandLine :=
  if subcommand.arity ≤ line.arguments.length then
    .error (.refused (.unexpectedArgument text))
  else if text = "" then .error (.refused .emptyPath)
  else .ok { line with arguments := line.arguments ++ [text] }

/-- Reads what follows the name of a subcommand. -/
def takeItem (subcommand : Subcommand) (line : SubcommandLine) :
    Item → Except Stop SubcommandLine
  | .option name value =>
    (line.options.take false name value).map fun options => { line with options := options }
  | .word text => takeArgument subcommand line text
  | .doubleDash => .ok line
  | .operand text => takeArgument subcommand line text
  | .fault cause => .error (.refused cause)

/-- What asking for help about some names leads to.  Two dashes are a name that nothing has. -/
def helpAbout : List Item → Stop
  | [] => .help
  | [.word text] =>
    if text = "help" || (Subcommand.ofName? text).isSome then .help
    else .refused (.unknownSubcommand text)
  | _ => .refused .missingArgument

/-- Refuses an empty command in the environment, unless one is given at every place. -/
def checkEnvironment (environment : Option String) (places : List Options) : Except Stop Unit :=
  if environment = some "" ∧ places.any fun options => options.command.isNone then
    .error (.refused .emptyPath)
  else .ok ()

/-- Reads a subcommand, behind options that stand before it. -/
def readSubcommand (environment : Option String) (outer : Options) (subcommand : Subcommand)
    (items : List Item) : Except Stop Invocation := do
  let line ← items.foldlM (takeItem subcommand) ⟨{}, []⟩
  match subcommand.action? line.arguments with
  | none => .error (.refused .missingArgument)
  | some action =>
    checkEnvironment environment [line.options, outer]
    .ok ⟨(line.options.behind outer).withEnvironment environment, action⟩

/-- Reads a command line from the first place on where a subcommand may stand. -/
def readItems (environment : Option String) (options : Options) :
    List Item → Except Stop Invocation
  | [] => do
    checkEnvironment environment [options]
    .ok ⟨options.withEnvironment environment, .answerRequest⟩
  | .option name value :: rest => do
    readItems environment (← options.take true name value) rest
  | .word text :: rest =>
    match Subcommand.ofName? text with
    | some subcommand => readSubcommand environment options subcommand rest
    | none =>
      if text = "help" then .error (helpAbout rest)
      else .error (.refused (.unknownSubcommand text))
  | .doubleDash :: rest => readItems environment options rest
  | .operand text :: _ => .error (.refused (.unexpectedArgument text))
  | .fault cause :: _ => .error (.refused cause)

/-- Reads a command line, with the converter's command that the environment names. -/
def parse (environment : Option String) (arguments : List String) : Except Stop Invocation :=
  readItems environment {} (items arguments)

end SchemaDocs.CommandLine
