import SchemaDocs.Shell.Tool.Sigil.Run
/-!
# Starting programs of signed names

The arguments of the command that runs a program of signed names, the loop that its options put
around the program, and how such a program ends.
-/

namespace SchemaDocs.Shell.Tool

open Sigil

/-- What the options of the command ask for. -/
structure SigilSettings where
  /-- The program, if it is an argument. -/
  code : Option ByteText := none
  isModern : Bool := false
  loops : Bool := false
  prints : Bool := false
  splits : Bool := false
  splitter : Option ByteText := none
  /-- Whether line ends are taken off and put back, and what is put behind records. -/
  chomps : Bool := false
  recordEnd : Value := .nothing
  separator : Value := .text ['\n']
  inPlace : Option ByteText := none
  preamble : ByteText := []
  roots : List ByteText := []
  onlyReads : Bool := false
  warns : Bool := false
  takesSwitches : Bool := false
  skipsText : Bool := false
  wideInput : Bool := false
  wideOutput : Bool := false
  wideErrors : Bool := false
  readsWide : Bool := false
  writesWide : Bool := false
  wideArguments : Bool := false
deriving Inhabited

namespace SigilSettings

/-- The settings with what some letters say about letters beyond bytes. -/
def withLetters? (settings : SigilSettings) : List Char → Except Char SigilSettings
  | [] => .ok settings
  | c :: rest =>
    match c with
    | 'I' => withLetters? { settings with wideInput := true } rest
    | 'O' => withLetters? { settings with wideOutput := true } rest
    | 'E' => withLetters? { settings with wideErrors := true } rest
    | 'S' =>
      withLetters? { settings with wideInput := true, wideOutput := true, wideErrors := true } rest
    | 'i' => withLetters? { settings with readsWide := true } rest
    | 'o' => withLetters? { settings with writesWide := true } rest
    | 'D' => withLetters? { settings with readsWide := true, writesWide := true } rest
    | 'A' => withLetters? { settings with wideArguments := true } rest
    | 'L' => withLetters? settings rest
    | 'a' => withLetters? settings rest
    | c => .error c

/-- The settings with what the bits of a number say about letters beyond bytes. -/
def withBits (settings : SigilSettings) (bits : Nat) : SigilSettings :=
  { settings with
    wideInput := settings.wideInput || bits.testBit 0
    wideOutput := settings.wideOutput || bits.testBit 1
    wideErrors := settings.wideErrors || bits.testBit 2
    readsWide := settings.readsWide || bits.testBit 3
    writesWide := settings.writesWide || bits.testBit 4
    wideArguments := settings.wideArguments || bits.testBit 5 }

/-- The statement that takes a library, as an option names it. -/
def useOf (isBare : Bool) (text : ByteText) : ByteText :=
  let (word, text) := match text with
    | '-' :: text => (ascii "no ", text)
    | text => (ascii "use ", text)
  let name := text.takeWhile (· != '=')
  match text.drop name.length with
  | _ :: names =>
    word ++ name ++ ascii " (" ++ ((ByteText.splitAt ',' names).map fun one =>
      ascii "q\x7b" ++ one ++ ascii "\x7d,").flatten ++ ascii ");"
  | [] => word ++ name ++ (if isBare then ascii " ();" else [';'])

/-- The text of the program with the loop around it. -/
def around (settings : SigilSettings) (text : ByteText) : ByteText :=
  let start := if settings.isModern then ascii "use feature ':5.38';" else []
  if settings.loops || settings.prints then
    let split :=
      if !settings.splits then []
      else
        match settings.splitter with
        | none => ascii "our @F=split(' ');"
        | some pattern =>
          let isDelimited := match pattern with
            | c :: rest => (ascii "/'\"").contains c && rest.contains c
            | [] => false
          if isDelimited then ascii "our @F=split(" ++ pattern ++ ascii ");"
          else
            ascii "our @F=split(q\x00" ++ (pattern.flatMap fun c => if c = '\\' then ['\\', '\\'] else [c])
              ++ ascii "\x00);"
    settings.preamble ++ start ++ ascii "LINE: while (<>) \x7b"
      ++ (if settings.chomps then ascii "chomp;" else []) ++ split ++ ['\n'] ++ text
      ++ (if settings.prints then
            ascii ";\x7dcontinue\x7bprint or die qq(-p destination: $!\\n);\x7d"
          else ascii ";\x7d")
  else settings.preamble ++ start ++ ['\n'] ++ text

end SigilSettings

/-- A message about the options of the command, which then ends. -/
def refuseSigil {α : Type} (message : ByteText) : Program (Except Nat α) := do
  Program.err (message ++ ['\n'])
  return .error 29

/-- Reads letters behind a dash, and gives the arguments that are left.  Each step takes a letter. -/
def sigilLetters : Nat → SigilSettings → ByteText → List ByteText →
    Program (Except Nat (SigilSettings × List ByteText))
  | 0, settings, _, arguments => return .ok (settings, arguments)
  | _ + 1, settings, [], arguments => return .ok (settings, arguments)
  | fuel + 1, settings, c :: letters, arguments =>
    let next (settings : SigilSettings) (letters : ByteText) := sigilLetters fuel settings letters arguments
    let last (settings : SigilSettings) (arguments : List ByteText) :
        Program (Except Nat (SigilSettings × List ByteText)) := return .ok (settings, arguments)
    let code (settings : SigilSettings) : Program (Except Nat (SigilSettings × List ByteText)) :=
      let withText (text : ByteText) : SigilSettings :=
        { settings with code := some (settings.code.getD [] ++ text ++ ['\n']) }
      match letters, arguments with
      | [], text :: arguments => last (withText text) arguments
      | [], [] => refuseSigil (ascii "No code specified for -" ++ [c, '.'])
      | text, arguments => last (withText text) arguments
    match c with
    | 'e' => code settings
    | 'E' => code { settings with isModern := true }
    | 'n' => next { settings with loops := true } letters
    | 'p' => next { settings with prints := true } letters
    | 'a' => next { settings with splits := true, loops := true } letters
    | 'F' =>
      last { settings with splits := true, loops := true, splitter := some letters } arguments
    | 'l' =>
      let digits := (letters.take 4).takeWhile fun c => '0' ≤ c && c ≤ '7'
      let settings := { settings with chomps := true }
      if digits.isEmpty then
        let ending := match settings.separator with
          | .text [] => .text ['\n', '\n']
          | separator => separator
        next { settings with recordEnd := ending } letters
      else
        next { settings with recordEnd := .text [Char.ofNat (ByteText.valueIn 8 digits % 256)] }
          (letters.drop digits.length)
    | '0' =>
      match letters with
      | 'x' :: more =>
        let digits := more.takeWhile Char.isHexDigit
        next { settings with separator := .text [Char.ofNat (ByteText.valueIn 16 digits)] }
          (more.drop digits.length)
      | letters =>
        let digits := (letters.take 3).takeWhile fun c => '0' ≤ c && c ≤ '7'
        let n := ByteText.valueIn 8 digits
        let separator : Value :=
          if 255 < n then .nothing
          else if n = 0 && !digits.isEmpty then .text []
          else .text [Char.ofNat n]
        next { settings with separator := separator } (letters.drop digits.length)
    | 'g' => next { settings with separator := .nothing } letters
    | 'i' =>
      let suffix := letters.takeWhile fun c => !isSpaceChar c
      last { settings with inPlace := some suffix } arguments
    | 'I' =>
      match letters, arguments with
      | [], path :: arguments => last { settings with roots := settings.roots ++ [path] } arguments
      | [], [] => refuseSigil (ascii "No directory specified for -I.")
      | path, arguments => last { settings with roots := settings.roots ++ [path] } arguments
    | 'C' =>
      let digits := letters.takeWhile Char.isDigit
      if letters.isEmpty then last { settings with wideArguments := false } arguments
      else if !digits.isEmpty then
        next (settings.withBits (ByteText.valueIn 10 digits)) (letters.drop digits.length)
      else
        match settings.withLetters? letters with
        | .ok settings => last settings arguments
        | .error c => refuseSigil (ascii "Unknown Unicode option letter '" ++ [c] ++ ascii "'.")
    | 'c' => next { settings with onlyReads := true } letters
    | 'w' => next { settings with warns := true } letters
    | 'W' => next { settings with warns := true } letters
    | 's' => next { settings with takesSwitches := true } letters
    | 'x' => last { settings with skipsText := true } arguments
    | 'v' => do
      Program.out (ascii ("\nThis is perl 5, version 38, subversion 2 (v5.38.2) built for "
        ++ "x86_64-linux-gnu-thread-multi\n"))
      return .error 0
    | 'h' => return .error 0
    | '?' => return .error 0
    | '-' =>
      refuseSigil (ascii "Unrecognized switch: --" ++ letters ++ ascii "  (-h will show valid options).")
    | '\r' => next settings letters
    | c =>
      if c = 'M' || c = 'm' then
        if letters.isEmpty then refuseSigil (ascii "Missing argument to -" ++ [c, '.'])
        else
          last { settings with preamble := settings.preamble ++ SigilSettings.useOf (c = 'm') letters }
            arguments
      else if (ascii "fSTtuUX").contains c then next settings letters
      else if isSpaceChar c then
        match letters with
        | '-' :: letters => next settings letters
        | letters => next settings letters
      else
        refuseSigil (ascii "Unrecognized switch: -" ++ (c :: letters) ++ ascii "  (-h will show valid options).")

/-- Reads the options of the command, and gives the operands behind them.  Each step takes an argument. -/
def sigilOptions : Nat → SigilSettings → List ByteText →
    Program (Except Nat (SigilSettings × List ByteText))
  | 0, settings, arguments => return .ok (settings, arguments)
  | fuel + 1, settings, arguments =>
    match arguments with
    | ['-', '-'] :: rest => return .ok (settings, rest)
    | ('-' :: c :: letters) :: rest => do
      match ← sigilLetters (letters.length + 2) settings (c :: letters) rest with
      | .ok (settings, rest) => sigilOptions fuel settings rest
      | .error code => return .error code
    | arguments => return .ok (settings, arguments)

/-- The options in the first line of a program. -/
def lettersOfFirstLine (text : ByteText) : ByteText :=
  let line := text.takeWhile (· != '\n')
  if (ascii "#!").isPrefixOf line then
    match (line.drop 2).dropWhile isSpaceChar |> ByteText.words with
    | command :: arguments =>
      let arguments := if (ascii "env").isPrefixOf command.reverse.reverse then arguments else arguments
      if ByteText.occursIn (ascii "perl") line then
        (arguments.filterMap fun argument =>
          match argument with
          | '-' :: letters => some letters
          | _ => none).flatten
      else []
    | [] => []
  else []

/-- The settings that arguments in front of the operands make. -/
def takeSwitches : List ByteText → List (String × Value) × List ByteText
  | [] => ([], [])
  | argument :: rest =>
    match argument with
    | ['-', '-'] => ([], rest)
    | '-' :: c :: letters =>
      let word := c :: letters
      let name := word.takeWhile (· != '=')
      let value : Value := match word.drop name.length with
        | _ :: value => .text value
        | [] => .int 1
      let (others, operands) := takeSwitches rest
      (("main::" ++ String.ofList name, value) :: others, operands)
    | _ => ([], argument :: rest)

/-- Libraries whose parts are looked for in vain before they are found. -/
def compiledLibraries : List String :=
  ["List::Util", "Scalar::Util", "Encode", "Text::Wrap", "MIME::Base64", "Digest::MD5", "Digest::SHA",
   "Storable", "Cwd", "Fcntl"]

/-- Libraries that only tell how a program is read. -/
def readingLibraries : List String := ["strict", "warnings", "utf8", "feature", "vars", "lib", "integer"]

/-- Makes what is there before a program begins. -/
def prepareSigil (settings : SigilSettings) (name : ByteText) (operands : List ByteText) : Running Unit := do
  let process ← Running.program (readThe Process)
  let standard (number : Nat) (name : String) (writes isWide : Bool) : Running Unit := do
    match ← Running.program (Program.descriptor? number) with
    | some channel =>
      Running.putStream name { channel := some channel, descriptor := some number, writes := writes
                               isUnbuffered := number = 2, isWide := isWide }
    | none => return ()
  standard 0 "main::STDIN" false settings.wideInput
  standard 1 "main::STDOUT" true settings.wideOutput
  standard 2 "main::STDERR" true settings.wideErrors
  let (switches, operands) := if settings.takesSwitches then takeSwitches operands else ([], operands)
  for (name, value) in switches do
    Running.putGlobal name value
  let environment ← Running.global .table "main::ENV"
  for (key, value) in process.environment do
    Running.putEntry environment key (.text value)
  let argument (text : ByteText) : Value :=
    if settings.wideArguments && text.any fun c => 127 < c.toNat then .wide (decodedText text) else .text text
  Running.putRow (← Running.global .row "main::ARGV") (operands.map argument)
  let roots := settings.roots ++ ByteText.splitAt ':' Reading.libraryRoots
  Running.putRow (← Running.global .row "main::INC") (roots.map Value.text)
  let now ← Running.secondsNow
  let values : List (String × Value) :=
    [("0", .text name), ("/", settings.separator), ("\\", settings.recordEnd), ("\"", .text [' ']),
     (";", .text ['\x1c']), ("^O", Running.plain "linux"), ("]", Running.plain "5.038002"),
     ("^T", .int now), ("<", .int 0), (">", .int 0), ("(", Running.plain "0 0"), (")", Running.plain "0 0"),
     ("@", .text []), ("?", .int 0), ("^W", Running.truth settings.warns), ("^X", Running.plain "/usr/bin/perl"),
     ("^V", Running.plain "v5.38.2"), ("\x2c", .nothing)]
  for (name, value) in values do
    Running.putGlobal ("main::" ++ name) value

/-- Says that a program was not read to its end, and gives what it ends with. -/
def refuseProgram (onlyReads goesOn : Bool) (file : List Char) (faults : List Fault) : Program Ending := do
  let message (fault : Fault) : List Char :=
    if fault.isSyntax then fault.message
    else if fault.line = 0 then fault.message ++ ascii ".\n"
    else fault.message ++ ascii " at " ++ file ++ ascii " line " ++ ByteText.ofNat fault.line ++ ascii ".\n"
  Program.err (Running.bytesFor false (faults.map message).flatten).1
  let isAboutLibrary := faults.any fun fault => (ascii "Can't locate ").isPrefixOf fault.message
  if isAboutLibrary then
    let line := ((faults.getLast?).map Fault.line).getD 1
    Program.err (ascii "BEGIN failed--compilation aborted" ++ (if line = 0 then ascii ".\n"
      else ascii " at " ++ file ++ ascii " line " ++ ByteText.ofNat line ++ ascii ".\n"))
    return .exited 2
  else if !goesOn then return .exited 255
  else
    Program.err (if onlyReads then file ++ ascii " had compilation errors.\n"
      else ascii "Execution of " ++ file ++ ascii " aborted due to compilation errors.\n")
    return .exited 255

/-- The depth up to which parts of a program may hold one another while it runs. -/
def sigilDepth : Nat := 1000000000

/-- Does what a step left behind: tells why the program died, and gives what it ends with. -/
def settleSigil (step : Running Unit) (suffix : Option (List Char)) : Running (Option Nat) := do
  match ← Running.attempt step with
  | .ok () => return none
  | .error (.ended code) => return some code
  | .error (.returned _) =>
    Running.writeError (ascii "Can't return outside a subroutine" ++ (← Running.whereabouts))
    return some 255
  | .error (.died message) =>
    let text ← Running.textOf message
    Running.writeError text
    let status ← Running.dyingStatus
    match suffix with
    | some suffix => Running.writeError suffix
    | none => pure ()
    return some status
  | .error (.next label) => outside "next" label
  | .error (.last label) => outside "last" label
  | .error (.redo label) => outside "redo" label
  | .error leaving => throw leaving
where
  /-- A step that leaves a loop where there is none. -/
  outside (word label : String) : Running (Option Nat) := do
    let message := if label = "" then "Can't \"" ++ word ++ "\" outside a loop block"
      else "Label not found for \"" ++ word ++ " " ++ label ++ "\""
    Running.writeError (ascii message ++ (← Running.whereabouts))
    return some 255

/-- Does what is done at the end of a program, whatever it ended with. -/
def endSigil (w : Running.Ways) (endings : List (List Statement)) (code : Nat) : Running Nat := do
  Running.putGlobal "main::?" (Running.natural code)
  if !endings.isEmpty && code = 0 then
    Running.change fun machine => { machine with fault := 22 }
  let mut code := code
  for ending in endings do
    match ← settleSigil (do let _ ← Running.inScope (w.run none ending)) none with
    | none => code := Running.natOf (← Running.globalValue "main::?") % 256
    | some other =>
      code := other
      Running.putGlobal "main::?" (Running.natural other)
  return code

/-- Closes all commands that are still written to, and hands on what was written. -/
def closeSigil (launcher : Launcher) : Running Unit := do
  Running.flush "main::STDOUT"
  for (name, stream) in (← Running.machine).streams.toList do
    if stream.command.isSome && stream.writes then
      let _ ← Running.closeStream launcher name
  Running.flushAll

/-- Runs the text of a program. -/
def runSigil (launcher : Launcher) (settings : SigilSettings) (file : List Char)
    (operands : List ByteText) (text : ByteText) : Program Ending := do
  let reader : Sigil.Reader :=
    { rest := settings.around text, line := 0, file := file, canSay := settings.isModern }
  match Reading.whole.run reader with
  | .error fault => refuseProgram settings.onlyReads fault.isSyntax file [fault]
  | .ok (script, reader) =>
  if !reader.faults.isEmpty then refuseProgram settings.onlyReads true file reader.faults
  else
    let w := Running.waysOf launcher sigilDepth
    let main : Running Unit := do
      let _ ← Running.inScope (w.run none script.body)
      Running.endInPlace
    let whole : Running Nat := do
      prepareSigil settings file operands
      match script.data with
      | some text =>
        let source ← Running.system (System.add (.source text .ended 0))
        Running.putStream (if file = ['-'] then "main::STDIN" else "main::DATA") { channel := some source }
      | none => pure ()
      for (name, body) in script.functions do
        let number ← Running.make (.function { name := name, package := Running.packageOf name
                                               body := body, pad := none })
        Running.change fun machine => { machine with globals := machine.globals.insert ("&" ++ name) number }
      let suffix := ascii "BEGIN failed--compilation aborted at " ++ file ++ ascii " line 1.\n"
      let code ← match ← settleSigil (do let _ ← w.run none script.beginnings) (some suffix) with
        | some code => pure code
        | none =>
          if settings.onlyReads then
            Running.writeError (file ++ ascii " syntax OK\n")
            pure 0
          else
            match (script.libraries.filter fun name => !(readingLibraries.contains name)).head? with
            | some name =>
              if compiledLibraries.contains name then
                Running.change fun machine => { machine with fault := 2 }
            | none => pure ()
            pure ((← settleSigil main none).getD 0)
      let code ← if settings.onlyReads then pure code else endSigil w script.endings code
      closeSigil launcher
      return code
    let machine : Sigil.Machine :=
      { file := file, outerPad := Array.replicate script.slots 0, isStrict := script.isStrict
        warns := settings.warns, readsWide := settings.readsWide, writesWide := settings.writesWide
        inPlace := settings.inPlace }
    let ending ← StateT.run (ExceptT.run whole) machine
    match ending with
    | (.ok code, _) => return .exited code
    | (.error (.ended code), _) => return .exited code
    | (.error (.killed signal), _) => return .killed signal
    | (.error (.gone code), machine) =>
      let _ ← StateT.run (ExceptT.run Running.flushAll) machine
      return .exited code
    | (.error _, _) => return .exited 255

/-- The lines of a text from the first one on that starts a program. -/
def fromProgramLine (text : ByteText) : Option ByteText :=
  let lines := ByteText.splitAt '\n' text
  let before := lines.takeWhile fun line =>
    !((ascii "#!").isPrefixOf line && ByteText.occursIn (ascii "perl") line)
  match lines.drop before.length with
  | [] => none
  | rest => some (rest.intersperse ['\n']).flatten

/-- The program that runs programs of signed names. -/
def perl (launcher : Launcher) : Program Ending := do
  let process ← read
  match ← sigilOptions (process.arguments.length + 1) {} process.arguments with
  | .error code => return .exited code
  | .ok (settings, operands) =>
    let run (file : ByteText) (operands : List ByteText) (text : ByteText) : Program Ending := do
      let found := if settings.skipsText then fromProgramLine text else some text
      match found with
      | none =>
        Program.err (ascii "No Perl script found in input\n")
        return .exited 255
      | some text =>
        let letters := lettersOfFirstLine text
        match ← sigilLetters (letters.length + 1) settings letters [] with
        | .error code => return .exited code
        | .ok (settings, _) =>
          if (ascii "#!").isPrefixOf text && settings.code.isNone
              && !(ByteText.occursIn (ascii "perl") (text.takeWhile (· != '\n')))
              && file != ['-'] then
            -- The first line names another program.
            let words := ByteText.words ((text.takeWhile (· != '\n')).drop 2)
            match words with
            | name :: arguments => Program.start launcher name (arguments ++ [file] ++ operands) |> settled
            | [] => runSigil launcher settings file operands text
          else runSigil launcher settings file operands text
    match settings.code with
    | some text => runSigil launcher settings (ascii "-e") operands text
    | none =>
      let fromInput (operands : List ByteText) : Program Ending := do
        match ← Program.readInput with
        | .ok text => run ['-'] operands text
        | .error cause =>
          Program.err (ascii "Can't read program: " ++ ascii cause.reason ++ ['\n'])
          return .exited 2
      match operands with
      | [] => fromInput []
      | ['-'] :: operands => fromInput operands
      | path :: operands =>
        match ← Program.readOperand path with
        | .ok text => run path operands text
        | .error cause =>
          Program.err (ascii "Can't open perl script \"" ++ path ++ ascii "\": " ++ ascii cause.reason ++ ['\n'])
          return .exited (if cause = .isADirectory then 25 else (cause.description.2).getD 2)
where
  /-- How a program that was started ends. -/
  settled (step : Program (Except FileError Ending)) : Program Ending := do
    match ← step with
    | .ok ending => return ending
    | .error _ => return .exited 2

end SchemaDocs.Shell.Tool
