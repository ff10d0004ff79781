import SchemaDocs.Shell.Process
import SchemaDocs.Shell.Signal
import SchemaDocs.Shell.Tool.Arguments
/-!
# Programs that start others

Programs that start another one under other conditions: with other variables, for some
time only, or once for each part of the input.
-/

namespace SchemaDocs.Shell

namespace Program

/-- A program that reads options into settings and goes on with its operands, and may end in any
way. -/
def withOperands {σ : Type} (rules : OptionRules) (settings : σ)
    (step : σ → String → ByteText → Program (Except Nat σ))
    (body : σ → List ByteText → Program Ending) (faultCode : Nat) : Program Ending := do
  let arguments := rules.read (← read).arguments
  match ← withOptions faultCode suggestHelp step settings arguments.items with
  | .error code => return .exited code
  | .ok settings => body settings arguments.operands

/-- The code for a program that could not be started. -/
def startCode (cause : FileError) : Nat := if cause = .notFound then 127 else 126

/-- Starts a program, or says in some words why it cannot be started. -/
def startOr (launcher : Launcher) (name : ByteText) (arguments : List ByteText)
    (complaint : ByteText) : Program Ending := do
  match ← start launcher name arguments with
  | .ok ending => return ending
  | .error cause =>
    complain (complaint ++ ascii ": " ++ ascii cause.reason)
    return .exited (startCode cause)

/-- Ends after a message that tells how to get help. -/
def misusedBy (code : Nat) (text : ByteText) : Program Ending := do
  return .exited (← misuse code text)

end Program

namespace Tool

/-! ## Other variables -/

/-- What is asked for of a program's surroundings. -/
structure EnvSettings where
  startsEmpty : Bool := false
  terminator : Char := '\n'
  directory : Option ByteText := none
  dropped : List ByteText := []

/-- The options of the program that changes variables. -/
def envRules : OptionRules :=
  { forms :=
    [.both 'i' "ignore-environment", .both '0' "null", .both 'u' "unset" .required,
     .both 'C' "chdir" .required, .both 'S' "split-string" .required, .both 'v' "debug",
     .word "block-signal" .optional, .word "default-signal" .optional,
     .word "ignore-signal" .optional, .word "list-signal-handling", .word "help",
     .word "version"]
    stopsAtOperand := true }

/-- Settings after an option of the program that changes variables. -/
def envOption (settings : EnvSettings) (key : String) (argument : ByteText) :
    Program (Except Nat EnvSettings) := do
  match key with
  | "i" => return .ok { settings with startsEmpty := true }
  | "0" => return .ok { settings with terminator := '\x00' }
  | "C" => return .ok { settings with directory := some argument }
  | "u" =>
    if argument.isEmpty || argument.contains '=' then
      return .error (← Program.die 125
        (ascii "cannot unset " ++ Program.quoted argument ++ ascii ": Invalid argument"))
    else return .ok { settings with dropped := argument :: settings.dropped }
  | _ => return .ok settings

/-- An environment in which a variable has a value. -/
def withVariable (environment : Environment) (name value : ByteText) : Environment :=
  if environment.any fun entry => entry.1 = name then
    environment.map fun entry => if entry.1 = name then (name, value) else entry
  else environment ++ [(name, value)]

/-- The arguments with a text that is split into words in the place of its option. -/
def splitStrings : List ByteText → List ByteText
  | [] => []
  | ['-', 'S'] :: text :: rest => ByteText.words text ++ rest
  | ('-' :: 'S' :: text) :: rest => ByteText.words text ++ rest
  | word :: rest => if word.head? = some '-' then word :: splitStrings rest else word :: rest

/-- Starts a program with other variables, or shows them. -/
def env (launcher : Launcher) : Program Ending :=
  withReader (fun process => { process with arguments := splitStrings process.arguments }) <|
    Program.withOperands envRules {} envOption (fun settings operands => do
      let (settings, operands) :=
        match operands with
        | ['-'] :: rest => ({ settings with startsEmpty := true }, rest)
        | operands => (settings, operands)
      let process ← read
      let start : Environment :=
        if settings.startsEmpty then []
        else process.environment.filter fun entry => !settings.dropped.contains entry.1
      let assigned := operands.takeWhile fun word => word.contains '='
      let environment := assigned.foldl (fun environment word =>
        let name := word.takeWhile (· != '=')
        withVariable environment name (word.drop (name.length + 1))) start
      match operands.drop assigned.length with
      | [] =>
        if settings.directory.isSome then
          Program.misusedBy 125 (ascii "must specify command with --chdir (-C)")
        else
          environment.forM fun (name, value) =>
            Program.out (name ++ ['='] ++ value ++ [settings.terminator])
          return .exited 0
      | command :: arguments =>
        if settings.terminator = '\x00' then
          Program.misusedBy 125 (ascii "cannot specify --null (-0) with command")
        else
          let go (directory : Steps) : Program Ending := do
            let changed (process : Process) : Process :=
              { process with environment := environment, directory := directory }
            match ← withReader changed (Program.start launcher command arguments) with
            | .ok ending => return ending
            | .error cause =>
              Program.complain (Program.quoted command ++ ascii ": " ++ ascii cause.reason)
              if cause = .notFound && command.any fun c => c = ' ' then
                Program.complain (ascii "use -[v]S to pass options in shebang lines")
              return .exited (Program.startCode cause)
          match settings.directory with
          | none => go process.directory
          | some path =>
            match (← get).tree.locate process.directory path.toString with
            | .ok place =>
              if place.kind = .directory then go place.steps
              else
                let cause : FileError := if place.kind = .missing then .notFound else .notADirectory
                return .exited (← Program.die 125 (ascii "cannot change directory to "
                  ++ Program.quoted path ++ ascii ": " ++ ascii cause.reason))
            | .error cause =>
              return .exited (← Program.die 125 (ascii "cannot change directory to "
                ++ Program.quoted path ++ ascii ": " ++ ascii cause.reason))) 125

/-! ## Other conditions -/

/-- Starts a program apart from the others. -/
def setsid (launcher : Launcher) : Program Ending :=
  Program.withOperands
    { forms := [.both 'c' "ctty", .both 'f' "fork", .both 'w' "wait", .both 'h' "help",
        .both 'V' "version"], stopsAtOperand := true } ()
    (fun _ _ _ => return .ok ()) (fun _ operands => do
      match operands with
      | [] => Program.misusedBy 1 (ascii "no command specified")
      | command :: arguments =>
        Program.startOr launcher command arguments (ascii "failed to execute " ++ command)) 1

/-- Starts a program that is not to be hung up. -/
def nohup (launcher : Launcher) : Program Ending :=
  Program.withOperands { forms := [.word "help", .word "version"], stopsAtOperand := true } ()
    (fun _ _ _ => return .ok ()) (fun _ operands => do
      match operands with
      | [] => Program.misusedBy 125 (ascii "missing operand")
      | command :: arguments =>
        Program.startOr launcher command arguments
          (ascii "failed to run command " ++ Program.quoted command)) 125

/-- Starts a program that reads and writes in other portions. -/
def stdbuf (launcher : Launcher) : Program Ending :=
  Program.withOperands
    { forms := [.both 'i' "input" .required, .both 'o' "output" .required,
        .both 'e' "error" .required, .word "help", .word "version"], stopsAtOperand := true } false
    (fun _ _ _ => return .ok true) (fun hasMode operands => do
      match operands with
      | [] => Program.misusedBy 125 (ascii "missing operand")
      | command :: arguments =>
        if hasMode then
          Program.startOr launcher command arguments
            (ascii "failed to run command " ++ Program.quoted command)
        else Program.misusedBy 125 (ascii "you must specify a buffering mode option")) 125

/-- Starts a program that gives way to others. -/
def nice (launcher : Launcher) : Program Ending :=
  Program.withOperands
    { forms := [.both 'n' "adjustment" .required, .word "help", .word "version"]
      stopsAtOperand := true } ([] : ByteText)
    (fun _ _ argument => return .ok argument) (fun adjustment operands => do
      let isNumber := (ByteText.toNat? (adjustment.dropWhile fun c => c = '-' || c = '+')).isSome
      if !adjustment.isEmpty && !isNumber then
        return .exited (← Program.die 125 (ascii "invalid adjustment " ++ Program.quoted adjustment))
      else
        match operands with
        | [] =>
          if adjustment.isEmpty then
            Program.outLine ['0']
            return .exited 0
          else Program.misusedBy 125 (ascii "a command must be given with an adjustment")
        | command :: arguments =>
          Program.startOr launcher command arguments (Program.quoted command)) 125

/-- How a program is started that has some time. -/
structure TimeoutSettings where
  signal : Nat := 15
  keepsStatus : Bool := false
  isVerbose : Bool := false

/-- The signal of a text: a number, or a name with or without its start. -/
def signal? (text : ByteText) : Option Nat :=
  match ByteText.toNat? text with
  | some number => if number ≤ Signal.greatest then some number else none
  | none =>
    let name := if (ascii "SIG").isPrefixOf (text.map Char.toUpper) then text.drop 3 else text
    if name.map Char.toUpper = ascii "EXIT" then some 0 else Signal.ofName? name

/-- The options of the program that gives others some time. -/
def timeoutRules : OptionRules :=
  { forms :=
    [.both 's' "signal" .required, .both 'k' "kill-after" .required, .both 'v' "verbose",
     .word "preserve-status", .word "foreground", .word "help", .word "version"]
    stopsAtOperand := true }

/-- Settings after an option of the program that gives others some time. -/
def timeoutOption (settings : TimeoutSettings) (key : String) (argument : ByteText) :
    Program (Except Nat TimeoutSettings) := do
  match key with
  | "s" =>
    match signal? argument with
    | some signal => return .ok { settings with signal := signal }
    | none =>
      return .error (← Program.misuse 125 (Program.quoted argument ++ ascii ": invalid signal"))
  | "k" =>
    if (milliseconds? argument).isSome then return .ok settings
    else
      return .error (← Program.misuse 125
        (ascii "invalid time interval " ++ Program.quoted argument))
  | "preserve-status" => return .ok { settings with keepsStatus := true }
  | "v" => return .ok { settings with isVerbose := true }
  | _ => return .ok settings

/-- How a program ended, or none if it took longer than some time, which ends it. -/
def endedWithin (limit : Option Nat) (program : Program Ending) : Program (Option Ending) := do
  let before ← get
  let ending ← program
  let after ← get
  match limit with
  | none => return some ending
  | some limit =>
    let isLate := before.milliseconds + limit < after.milliseconds
    if limit != 0 && (isLate || (after.stall.isSome && before.stall.isNone)) then
      set { after with
        milliseconds := before.milliseconds + limit, stall := none, budget := before.budget }
      return none
    else return some ending

/-- Gives a program some time. -/
def timeout (launcher : Launcher) : Program Ending :=
  Program.withOperands timeoutRules {} timeoutOption (fun settings operands => do
    match operands with
    | limit :: command :: arguments =>
      match milliseconds? limit with
      | none =>
        Program.misusedBy 125 (ascii "invalid time interval " ++ Program.quoted limit)
      | some limit =>
        let ending ← endedWithin limit (Program.startOr launcher command arguments
          (ascii "failed to run command " ++ Program.quoted command))
        match ending with
        | some ending => return ending
        | none =>
          if settings.isVerbose then
            Program.complain (ascii "sending signal "
              ++ ascii ((Signal.name? settings.signal).getD "0") ++ ascii " to command "
              ++ Program.quoted command)
          if settings.signal = 9 then return .killed 9
          else if settings.keepsStatus then return .exited (128 + settings.signal)
          else return .exited 124
    | _ =>
      Program.suggestHelp
      return .exited 125) 125

/-! ## Once for each part of the input -/

/-- How the input is cut into arguments. -/
inductive Cutting where
  /-- At blanks and line feeds, apart from those between quotes or behind a backslash. -/
  | words
  /-- At a character. -/
  | pieces (separator : Char)
  /-- At line feeds, where blanks at the start of a line do not count. -/
  | lines
deriving DecidableEq

/-- How programs are started for the input. -/
structure XargsSettings where
  cutting : Cutting := .words
  most : Option Nat := none
  mostLines : Option Nat := none
  placeholder : Option ByteText := none
  startsForNothing : Bool := true
  isVerbose : Bool := false
  input : Option ByteText := none
  stopWord : Option ByteText := none
  longest : Nat := 131072

/-- An argument from the input, and whether it is the last one of its line. -/
structure InputWord where
  text : ByteText
  endsLine : Bool

/-- Which quote is not closed. -/
inductive OpenQuote where
  | single | double
deriving DecidableEq

/-- The words of a text, the last one first, and the quote that is not closed if there is one.  Each
step takes a character. -/
def cutWords (isByLine : Bool) : Nat → Option ByteText → List InputWord → ByteText →
    List InputWord × Option OpenQuote
  | 0, _, words, _ => (words, none)
  | fuel + 1, word, words, text =>
    let closed (endsLine : Bool) : List InputWord :=
      match word with
      | some word => ⟨word.reverse, endsLine⟩ :: words
      | none => words
    match text with
    | [] => (closed true, none)
    | '\n' :: rest =>
      let words :=
        match word, words with
        | none, last :: before => { last with endsLine := !isByLine || last.endsLine } :: before
        | _, _ => closed true
      cutWords isByLine fuel none words rest
    | '\\' :: c :: rest => cutWords isByLine fuel (some (c :: word.getD [])) words rest
    | ['\\'] => (closed true, none)
    | c :: rest =>
      if c = '\'' || c = '"' then
        let quoted := rest.takeWhile fun d => d != c && d != '\n'
        match rest.drop quoted.length with
        | d :: after =>
          if d = c then
            cutWords isByLine fuel (some (quoted.reverse ++ word.getD [])) words after
          else (words, some (if c = '"' then .double else .single))
        | [] => (words, some (if c = '"' then .double else .single))
      else if (c = ' ' || c = '\t') && (!isByLine || word.isNone) then
        cutWords isByLine fuel none (closed false) rest
      else cutWords isByLine fuel (some (c :: word.getD [])) words rest

/-- The arguments that an input stands for, and the quote that is not closed if there is one. -/
def inputWords (settings : XargsSettings) (text : ByteText) :
    List InputWord × Option OpenQuote :=
  match settings.cutting with
  | .pieces separator =>
    let pieces := ByteText.splitAt separator text
    let pieces := if pieces.getLast? = some [] then pieces.dropLast else pieces
    (pieces.map fun piece => ⟨piece, true⟩, none)
  | cutting =>
    let (words, quote) := cutWords (cutting = .lines) (text.length + 1) none [] text
    let words := words.reverse
    let words :=
      match settings.stopWord with
      | some stop => words.takeWhile fun word => word.text != stop
      | none => words
    (words, quote)

/-- The number of arguments that come first, bounded by their number and their length. -/
def batchLength (settings : XargsSettings) (room : Nat) : Nat → List InputWord → Nat
  | _, [] => 0
  | taken, word :: rest =>
    let length := word.text.length + 1
    if settings.most.any fun most => most ≤ taken then 0
    else if taken != 0 && room < length then 0
    else 1 + batchLength settings (room - length) (taken + 1) rest

/-- The number of arguments on so many lines. -/
def linesLength : Nat → List InputWord → Nat
  | _, [] => 0
  | 0, _ => 0
  | lines + 1, word :: rest =>
    1 + (if word.endsLine then linesLength lines rest else linesLength (lines + 1) rest)

/-- A text with a placeholder replaced.  Each step takes a character. -/
def fillIn (placeholder value : ByteText) : Nat → ByteText → ByteText
  | 0, text => text
  | _ + 1, [] => []
  | fuel + 1, c :: rest =>
    if placeholder.isEmpty then c :: rest
    else if placeholder.isPrefixOf (c :: rest) then
      value ++ fillIn placeholder value fuel ((c :: rest).drop placeholder.length)
    else c :: fillIn placeholder value fuel rest

/-- Starts a program once.  The result is the code so far, or the code that ends all. -/
def startOnce (launcher : Launcher) (settings : XargsSettings) (code : Nat) (command : ByteText)
    (arguments : List ByteText) : Program (Except Nat Nat) := do
  if settings.isVerbose then
    Program.err (((command :: arguments).map Quoting.whereNeeded).intersperse [' ']).flatten
    Program.err ['\n']
  let nothing ← System.add (.device .null)
  let withoutInput (process : Process) : Process :=
    { process with
      descriptors := (0, nothing) :: process.descriptors.filter fun entry => entry.1 != 0 }
  match ← withReader withoutInput (Program.start launcher command arguments) with
  | .error cause =>
    Program.complain (command ++ ascii ": " ++ ascii cause.reason)
    return .error (Program.startCode cause)
  | .ok (.killed signal) =>
    Program.complain (command ++ ascii ": terminated by signal " ++ ByteText.ofNat signal)
    return .error 125
  | .ok (.exited 0) => return .ok code
  | .ok (.exited 255) =>
    Program.complain (command ++ ascii ": exited with status 255; aborting")
    return .error 124
  | .ok (.exited _) => return .ok 123

/-- Starts a program for batch after batch of arguments.  Each step takes one. -/
def startBatches (launcher : Launcher) (settings : XargsSettings) (command : ByteText)
    (arguments : List ByteText) : Nat → Nat → List InputWord → Program (Except Nat Nat)
  | 0, code, _ => return .ok code
  | fuel + 1, code, words => do
    if words.isEmpty then return .ok code
    else
      let fixed := ByteText.total ((command :: arguments).map fun word => word.length + 1)
      let length := batchLength settings (settings.longest - fixed) 0 words
      let length :=
        match settings.mostLines with
        | some lines => min length (linesLength lines words)
        | none => length
      let batch := (words.take (max 1 length)).map InputWord.text
      let next ←
        match settings.placeholder, batch with
        | some placeholder, [value] =>
          let filled := arguments.map fun word =>
            fillIn placeholder value (word.length + 1) word
          startOnce launcher settings code command filled
        | _, batch => startOnce launcher settings code command (arguments ++ batch)
      match next with
      | .error code => return .error code
      | .ok code =>
        startBatches launcher settings command arguments fuel code (words.drop (max 1 length))

/-- The options of the program that turns its input into arguments. -/
def xargsRules : OptionRules :=
  { forms :=
    [.both '0' "null", .both 'a' "arg-file" .required, .both 'd' "delimiter" .required,
     .letter 'E' .required, .both 'e' "eof" .optional, .letter 'I' .required,
     .both 'i' "replace" .optional, .letter 'L' .required, .both 'l' "max-lines" .optional,
     .both 'n' "max-args" .required, .both 'P' "max-procs" .required, .both 'o' "open-tty",
     .both 'p' "interactive", .word "process-slot-var" .required, .both 'r' "no-run-if-empty",
     .both 's' "max-chars" .required, .word "show-limits", .both 't' "verbose", .both 'x' "exit",
     .word "help", .word "version"]
    stopsAtOperand := true }

/-- Reads the number of an option, of which there is a least one. -/
def optionNumber (key : String) (argument : ByteText) (use : Nat → XargsSettings) :
    Program (Except Nat XargsSettings) := do
  match ByteText.toNat? argument with
  | some 0 =>
    return .error (← Program.misuse 1
      (ascii ("value 0 for -" ++ key ++ " option should be >= 1")))
  | some number => return .ok (use number)
  | none =>
    return .error (← Program.misuse 1
      (ascii "invalid number \"" ++ argument ++ ascii ("\" for -" ++ key ++ " option")))

/-- Settings after an option of the program that turns its input into arguments. -/
def xargsOption (settings : XargsSettings) (key : String) (argument : ByteText) :
    Program (Except Nat XargsSettings) := do
  let replaced : XargsSettings :=
    { settings with
      placeholder := some (if argument.isEmpty && key = "i" then ['\x7b', '\x7d'] else argument)
      cutting := if settings.cutting = .words then .lines else settings.cutting
      most := some 1, mostLines := none }
  match key with
  | "0" => return .ok { settings with cutting := .pieces '\x00' }
  | "a" => return .ok { settings with input := some argument }
  | "d" =>
    match argument, (Escape.interpret argument).1 with
    | [c], _ => return .ok { settings with cutting := .pieces c }
    | _, [c] => return .ok { settings with cutting := .pieces c }
    | _, _ =>
      return .error (← Program.die 1 (ascii "Invalid input delimiter specification "
        ++ argument ++ ascii (": the delimiter must be either a single character or an escape"
        ++ " sequence starting with \\.")))
  | "E" => return .ok { settings with stopWord := some argument }
  | "e" =>
    return .ok { settings with stopWord := if argument.isEmpty then none else some argument }
  | "I" => return .ok replaced
  | "i" => return .ok replaced
  | "L" => optionNumber key argument fun number => { settings with mostLines := some number }
  | "l" =>
    if argument.isEmpty then return .ok { settings with mostLines := some 1 }
    else optionNumber key argument fun number => { settings with mostLines := some number }
  | "n" =>
    optionNumber key argument fun number =>
      { settings with
        most := if settings.placeholder.isSome && number = 1 then settings.most else some number
        mostLines := none }
  | "s" => optionNumber key argument fun number => { settings with longest := number }
  | "r" => return .ok { settings with startsForNothing := false }
  | "t" => return .ok { settings with isVerbose := true }
  | _ => return .ok settings

/-- Starts a program with arguments from the input. -/
def xargs (launcher : Launcher) : Program Ending :=
  Program.withOperands xargsRules {} xargsOption (fun settings operands => do
    let (command, arguments) : ByteText × List ByteText :=
      match operands with
      | [] => (ascii "echo", [])
      | command :: arguments => (command, arguments)
    let read ←
      match settings.input with
      | none => Program.readInput
      | some path => Program.readOperand path
    match read with
    | .error cause =>
      let path := settings.input.getD ['-']
      return .exited (← Program.die 1 (ascii "Cannot open input file " ++ Program.quoted path
        ++ ascii ": " ++ ascii cause.reason))
    | .ok text =>
      let (words, quote) := inputWords settings text
      match quote with
      | some kind =>
        let name := if kind = .double then "double" else "single"
        Program.complain (ascii ("unmatched " ++ name
          ++ " quote; by default quotes are special to xargs unless you use the -0 option"))
      | none => pure ()
      let outcome ←
        if words.isEmpty && quote.isNone && settings.startsForNothing
            && settings.placeholder.isNone then
          startOnce launcher settings 0 command arguments
        else startBatches launcher settings command arguments (words.length + 1) 0 words
      match outcome with
      | .error code => return .exited code
      | .ok code => return .exited (if quote.isSome then 1 else code)) 1

end Tool

end SchemaDocs.Shell
