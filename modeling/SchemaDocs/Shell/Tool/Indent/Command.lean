import SchemaDocs.Shell.Tool.Indent.Run
/-!
# Starting programs of indented blocks

The arguments of the command that runs a program of indented blocks, and how such a program ends.
-/

namespace SchemaDocs.Shell.Tool

open Indent

/-- Where a program comes from. -/
inductive IndentedSource where
  | text (text : ByteText)
  | file (path : ByteText)
  | library (name : ByteText)
  | input (isNamed : Bool)

/-- What the options of the command ask for. -/
structure IndentedSettings where
  isUnbuffered : Bool := false
  skipsLine : Bool := false
  source : IndentedSource := .input false
  operands : List ByteText := []

/-- How the command is used. -/
def indentedUsage (name : ByteText) : ByteText :=
  ascii "usage: " ++ name ++ ascii " [option] ... [-c cmd | -m mod | file | -] [arg] ...\n"
    ++ ascii "Try \x60python -h' for more information.\n"

/-- The version that the command tells of itself. -/
def indentedVersion : ByteText := ascii "Python 3.12.3\n"

/-- Reads the options of the command.  Each step takes an argument or a letter.  What is wrong with one,
or told instead of a run, comes with the code that the command ends with. -/
def indentedOptions : Nat → IndentedSettings → List ByteText → Program (Except Nat IndentedSettings)
  | 0, settings, _ => return .ok settings
  | _ + 1, settings, [] => return .ok settings
  | fuel + 1, settings, argument :: rest => do
    let name ← Program.name
    let misuse (text : ByteText) : Program (Except Nat IndentedSettings) := do
      Program.err (text ++ ['\n'] ++ indentedUsage name)
      return .error 2
    let tell (text : ByteText) : Program (Except Nat IndentedSettings) := do
      Program.out text
      return .error 0
    match argument with
    | ['-'] => return .ok { settings with source := .input true, operands := rest }
    | ['-', '-'] =>
      match rest with
      | path :: rest => return .ok { settings with source := .file path, operands := rest }
      | [] => return .ok settings
    | '-' :: '-' :: long =>
      if long = ascii "version" then tell indentedVersion
      else if long = ascii "help" then tell (indentedUsage name)
      else if long = ascii "check-hash-based-pycs" then indentedOptions fuel settings (rest.drop 1)
      else misuse (ascii "unknown option --" ++ long)
    | '-' :: c :: more =>
      let next (settings : IndentedSettings) : Program (Except Nat IndentedSettings) :=
        if more.isEmpty then indentedOptions fuel settings rest
        else indentedOptions fuel settings (('-' :: more) :: rest)
      let value : Option (ByteText × List ByteText) :=
        match more, rest with
        | [], value :: rest => some (value, rest)
        | [], [] => none
        | more, rest => some (more, rest)
      let lacking := misuse (ascii "Argument expected for the -" ++ [c] ++ ascii " option")
      match c with
      | 'c' =>
        match value with
        | some (text, rest) => return .ok { settings with source := .text text, operands := rest }
        | none => lacking
      | 'm' =>
        match value with
        | some (library, rest) => return .ok { settings with source := .library library, operands := rest }
        | none => lacking
      | 'W' =>
        match value with
        | some (_, rest) => indentedOptions fuel settings rest
        | none => lacking
      | 'X' =>
        match value with
        | some (_, rest) => indentedOptions fuel settings rest
        | none => lacking
      | 'u' => next { settings with isUnbuffered := true }
      | 'x' => next { settings with skipsLine := true }
      | 'V' => tell indentedVersion
      | 'h' => tell (indentedUsage name)
      | '?' => tell (indentedUsage name)
      | c =>
        if (ascii "bBdEiIOPqsSv").contains c then next settings
        else misuse (ascii "Unknown option: -" ++ [c])
    | _ => return .ok { settings with source := .file argument, operands := rest }

/-- The bound of the steps that a program of indented blocks takes. -/
def indentedFuel : Nat := 1000000000000

/-- Makes what is there before a program begins. -/
def prepareIndented (settings : IndentedSettings) (firstArgument : List Char) : Running Unit := do
  let process ← Running.program (readThe Process)
  let stream (number : Nat) (mode : String) (name : String) : Running Value := do
    match ← Running.program (Program.descriptor? number) with
    | some channel =>
      Running.make (.file { name := .text (ascii name), descriptor := some number, channel := channel
                            isBinary := false, mode := ascii mode })
    | none => return .nothing
  Running.putSetting "sys.stdin" (← stream 0 "r" "<stdin>")
  Running.putSetting "sys.stdout" (← stream 1 "w" "<stdout>")
  Running.putSetting "sys.stderr" (← stream 2 "w" "<stderr>")
  for name in ["stdin", "stdout", "stderr"] do
    Running.putSetting ("sys.__" ++ name ++ "__") (← Running.streamOf ("sys." ++ name))
  let arguments := firstArgument :: settings.operands.map Running.decoded
  Running.putSetting "sys.argv" (← Running.list (arguments.map Value.text))
  let directory := match settings.source with
    | .file path => Running.parentPath (Running.decoded path)
    | _ => []
  Running.putSetting "sys.path" (← Running.list [.text directory])
  Running.putSetting "sys.modules" (← Running.make (.table .plain {}))
  let pairs := process.environment.map fun (name, value) =>
    (Value.text (Running.decoded name), Value.text (Running.decoded value))
  Running.putSetting "os.environ" (← Running.make (.table .plain (← Running.withPairs {} pairs)))
  Running.putInScope 0 "__name__" (.text (ascii "__main__"))
  Running.putInScope 0 "__doc__" .nothing

/-- Tells about an exception that nothing was done about, and gives what the program ends with. -/
def tellIndented (caller : Caller) (exception : Value) : Running Ending := do
  if ← Running.isException exception "SystemExit" then
    let code ← Running.memberOf caller exception "code"
    match code with
    | .nothing => return .exited 0
    | value =>
      match Running.int? value with
      | some n => return .exited (Int.emod n 256).toNat
      | none =>
        let value ← match ← Running.fieldOf? exception "args" with
          | some (.tuple [only]) => pure only
          | some arguments => pure arguments
          | none => pure value
        Running.writeError ((← Running.plain caller value) ++ ['\n'])
        return .exited 1
  else
    let trace := (← Running.machine).trace
    Running.writeError (← Running.traceText caller Running.longestChain exception trace)
    if ← Running.isException exception "KeyboardInterrupt" then return .killed 2 else return .exited 1

/-- Does what is to be done at the end of a program. -/
def endIndented (caller : Caller) (ending : Ending) : Running Ending := do
  let endings := (← Running.machine).endings
  for (function, arguments) in endings do
    match ← Running.attempt (caller.call function arguments []) with
    | .ok _ => pure ()
    | .error (.raised exception) =>
      let _ ← tellIndented caller exception
    | .error leaving => throw leaving
  Running.system (modify fun world => { world with writeFault := none })
  Running.flush
  match (← Running.system get).writeFault with
  | none => return ending
  | some cause =>
    let (kind, number) := Running.faultKind cause
    Running.writeError (ascii "Exception ignored in: <_io.TextIOWrapper name='<stdout>' mode='w' encoding='utf-8'>\n"
      ++ ascii kind ++ ascii (": [Errno " ++ toString number ++ "] " ++ cause.reason ++ "\n"))
    return .exited 120

/-- Runs the text of a program. -/
def runIndented (launcher : Launcher) (settings : IndentedSettings) (file firstArgument : List Char)
    (hasLines : Bool) (text : List Char) : Program Ending := do
  let text := Running.withPlainLines text
  let lines := (ByteText.splitAt '\n' text).toArray
  let shownLines := if text.getLast? = some '\n' then lines.pop else lines
  match readProgram (if settings.skipsLine then text.dropWhile (· != '\n') else text) with
  | .error fault =>
    Program.err (Running.encoded (fault.text true file shownLines))
    return .exited 1
  | .ok (body, warnings) =>
  match body.findSome? (Statement.misplaced? false false deepestPart none) with
  | some (message, span) =>
    let fault : SyntaxFault := { message := ascii message, span := span.getD ⟨1, 0, 1, 0⟩ }
    Program.err (Running.encoded (fault.text hasLines file shownLines))
    return .exited 1
  | none =>
    Program.each warnings fun (line, warning) => do
      Program.err (Running.encoded (file ++ ascii (":" ++ toString line ++ ": SyntaxWarning: ")
        ++ warning ++ ['\n']))
      if hasLines then
        let shown := (Fault.trimmedLine ((shownLines[line - 1]?).getD [])).1
        Program.err (Running.encoded (ascii "  " ++ shown ++ ['\n']))
    let isUnbuffered := settings.isUnbuffered
      || ((← Program.lookup? (ascii "PYTHONUNBUFFERED")).any fun value => !value.isEmpty)
    let caller : Caller := ⟨fun f a n => Running.call launcher indentedFuel f a n, launcher, 0⟩
    let whole : Running Ending := do
      prepareIndented settings firstArgument
      if hasLines then Running.putInScope 0 "__file__" (.text file)
      match ← Running.attempt (Running.run launcher indentedFuel {} body) with
      | .ok () => endIndented caller (.exited 0)
      | .error (.raised exception) => endIndented caller (← tellIndented caller exception)
      | .error leaving => throw leaving
    let machine : Indent.Machine :=
      { file := file, lines := if hasLines then shownLines else #[], isUnbuffered := isUnbuffered }
    let (result, _) ← StateT.run (ExceptT.run whole) machine
    match result with
    | .ok ending => return ending
    | .error (.ended code) => return .exited code
    | .error (.killed signal) => return .killed signal
    | .error _ => return .exited 1

/-- The program that runs programs of indented blocks. -/
def python (launcher : Launcher) : Program Ending := do
  let process ← read
  let count := (process.arguments.map List.length).foldl (· + ·) process.arguments.length
  match ← indentedOptions (count + 1) {} process.arguments with
  | .error code => return .exited code
  | .ok settings =>
    match settings.source with
    | .text text =>
      runIndented launcher settings (ascii "<string>") (ascii "-c") false (Running.decoded text)
    | .input isNamed =>
      match ← Program.readInput with
      | .ok text =>
        runIndented launcher settings (ascii "<stdin>") (if isNamed then ['-'] else []) false
          (Running.decoded text)
      | .error _ => return .exited 1
    | .library name =>
      Program.err (ascii "/usr/bin/python3: No module named " ++ name ++ ['\n'])
      return .exited 1
    | .file path =>
      let whole := Running.normalPath
        (Running.joinPaths [Running.decoded (Filing.pathOf process.directory), Running.decoded path])
      if (← Program.kindOf path) = .directory then
        Program.err (ascii "/usr/bin/python3: can't find '__main__' module in '" ++ Running.encoded whole
          ++ ascii "'\n")
        return .exited 1
      else
        match ← Program.readOperand path with
        | .ok text => runIndented launcher settings whole (Running.decoded path) true (Running.decoded text)
        | .error cause =>
          let (_, number) := Running.faultKind cause
          Program.err (process.name ++ ascii ": can't open file '" ++ Running.encoded whole
            ++ ascii ("': [Errno " ++ toString number ++ "] " ++ cause.reason ++ "\n"))
          return .exited 2

end SchemaDocs.Shell.Tool
