import SchemaDocs.Shell.Process
import SchemaDocs.Shell.Tool.Basic
import SchemaDocs.Shell.Tool.Edit.Read
import SchemaDocs.Shell.Tool.Edit.Basic
/-!
# Running editing scripts

A script is run once for each line of the input.  The line stands in a buffer that the
script works on, and is shown at the end.
-/

namespace SchemaDocs.Shell.Edit

/-- How a script is run. -/
structure Settings where
  script : Script
  isQuiet : Bool
  /-- Whether each file is an input of its own. -/
  isSeparate : Bool
  /-- Whether files are replaced by what comes of them. -/
  isInPlace : Bool := false
  /-- The ending of the name under which a file is kept that is replaced. -/
  backup : ByteText := []
  /-- Whether as little as can be is read at once. -/
  isUnbuffered : Bool := false
  terminator : Char := '\n'
  width : Nat := 70
  /-- The number of expressions that the script consists of. -/
  expressions : Nat := 1
  /-- Runs a command and gives what it writes. -/
  runs : ByteText → Program ByteText

/-- Where one is in a range of lines. -/
inductive RangeState where
  | outside
  | inside
  /-- Up to the line with a number. -/
  | upTo (last : Nat)
  /-- Behind a range that does not begin again. -/
  | closed

/-- What is shown after a line. -/
inductive Appendix where
  | text (text : ByteText)
  | file (name : ByteText)

/-- An input that lines are taken from. -/
structure OpenInput where
  name : ByteText
  lines : List ByteText.Line
  channel : Nat
  /-- How many characters there were, and how many were taken. -/
  length : Nat
  taken : Nat := 0
  /-- How many characters count as read from what is no file. -/
  read : Nat := 0
  /-- Whether it goes on for ever behind its lines. -/
  endless : Option Stall

/-- A buffer for a line. -/
structure Space where
  text : ByteText := []
  isEnded : Bool := true

/-- What a script works on. -/
structure Desk where
  space : Space := {}
  held : Space := {}
  input : Option OpenInput := none
  /-- The input after that one, if it was opened already. -/
  upcoming : Option OpenInput := none
  /-- The files that were not opened yet. -/
  files : List ByteText
  lineNumber : Nat := 0
  isReplaced : Bool := false
  /-- What is shown after the line, the last first. -/
  appendices : List Appendix := []
  ranges : Array RangeState
  lastSought : Option Sought := none
  channels : Array Nat := #[]
  /-- The targets whose last line has no terminator yet. -/
  unended : List Target := []
  /-- Lines of files that are read one at a time. -/
  readers : List (ByteText × List ByteText.Line) := []
  /-- What comes of the file that is edited in place, the last piece first. -/
  replacement : List ByteText := []
  /-- How many characters were worked on so far. -/
  work : Nat := 0
  code : Nat := 0

/-- A step of running a script. -/
abbrev Editing := StateT Desk Program

/-- What a command leads to. -/
inductive Next where
  | command (place : Nat)
  /-- The line is done, and shown or not. -/
  | done (isShown : Bool)
  /-- The script begins again without a new line. -/
  | again
  | quit (code : Nat) (isShown : Bool)
  | failed (code : Nat)

namespace Editing

/-! ## Output -/

/-- Writes to a target. -/
def writeTo (settings : Settings) (target : Target) (text : ByteText) : Editing Unit := do
  match target with
  | .output =>
    if settings.isInPlace then
      modify fun desk => { desk with replacement := text :: desk.replacement }
    else Program.out text
  | .stream => Program.out text
  | .messages => Program.err text
  | .file index =>
    match (← get).channels[index]? with
    | some channel => let _ ← System.write channel text
    | none => return ()

/-- Ends the last line of a target if it has no terminator yet. -/
def endLine (settings : Settings) (target : Target) : Editing Unit := do
  if (← get).unended.contains target then
    writeTo settings target [settings.terminator]
    modify fun desk => { desk with unended := desk.unended.filter (· != target) }

/-- Shows text that ends its own lines. -/
def showText (settings : Settings) (text : ByteText) : Editing Unit := do
  endLine settings .output
  writeTo settings .output text

/-- Shows a line.  One without a terminator gets it when another one follows. -/
def showLine (settings : Settings) (target : Target) (space : Space) : Editing Unit := do
  endLine settings target
  if space.isEnded then writeTo settings target (space.text ++ [settings.terminator])
  else
    writeTo settings target space.text
    modify fun desk => { desk with unended := target :: desk.unended }

/-- Shows what is shown after a line. -/
def showAppendices (settings : Settings) : Editing Unit := do
  let appendices := (← get).appendices.reverse
  modify fun desk => { desk with appendices := [] }
  appendices.forM fun appendix => do
    endLine settings .output
    match appendix with
    | .text text => writeTo settings .output text
    | .file name =>
      match ← (Program.readOperand name : Program _) with
      | .ok text => writeTo settings .output text
      | .error _ => return ()

/-! ## Input -/

/-- Refuses a file that cannot be edited. -/
def refuse (text : ByteText) (code : Nat) : Editing Unit := do
  Program.complain text
  modify fun desk => { desk with code := code }

/-- The number of characters that are read at once from what is no file. -/
def blockLength : Nat := 4096

/-- An input of which more characters were taken.  From what is no file whole blocks are read, unless
as little as can be is read. -/
def taking (settings : Settings) (input : OpenInput) (count : Nat) : Editing OpenInput := do
  let taken := input.taken + count
  match ← System.channel? input.channel with
  | some (.file ..) => return { input with taken := taken }
  | _ =>
    let read :=
      if settings.isUnbuffered then taken
      else min input.length ((taken + blockLength) / blockLength * blockLength)
    if input.read < read then System.advance input.channel (read - input.read)
    return { input with taken := taken, read := read }

/-- Opens a file as an input. -/
def openInput? (settings : Settings) (name : ByteText) : Editing (Option OpenInput) := do
  let opened : Except FileError Nat ←
    if name = ['-'] && !settings.isInPlace then
      match ← (Program.descriptor? 0 : Program _) with
      | some channel => pure (.ok channel)
      | none => pure (.error .badDescriptor)
    else Program.openInput name
  match opened with
  | .error cause =>
    refuse (ascii "can't read " ++ name ++ ascii ": " ++ ascii cause.reason) 2
    return none
  | .ok channel =>
    if ← (Program.isDirectory channel : Program _) then
      if settings.isInPlace then
        refuse (ascii "couldn't edit " ++ name ++ ascii ": not a regular file") 4
      else refuse (ascii "read error on " ++ name ++ ascii ": Is a directory") 4
      return none
    else
      let (text, tail) ← System.pending channel
      let (text, endless) : ByteText × Option Stall :=
        match tail with
        | .ended => (text, none)
        | .silent => (text, some .asleep)
        | .endless piece => (text ++ System.repeated piece System.longestPrefix, some .busy)
      let input : OpenInput :=
        { name := name, lines := ByteText.linesEndedBy settings.terminator text
          channel := channel, length := text.length, endless := endless }
      return some (← taking settings input 0)

/-- Lets an input go. -/
def close (input : OpenInput) : Editing Unit := do
  match ← System.channel? input.channel with
  | some (.file ..) => System.advance input.channel input.taken
  | _ => return ()

/-- Puts what came of a file in its place. -/
def replaceFile (settings : Settings) (input : OpenInput) : Editing Unit := do
  let desk ← get
  let text := desk.replacement.reverse.flatten
  if !settings.backup.isEmpty then
    match ← (Program.readOperand input.name : Program _) with
    | .ok old =>
      match ← (Program.openOutput (input.name ++ settings.backup) false : Program _) with
      | .ok channel => let _ ← System.write channel old
      | .error _ => pure ()
    | .error _ => pure ()
  match ← (Program.openOutput input.name false : Program _) with
  | .ok channel => let _ ← System.write channel text
  | .error _ => pure ()
  set { desk with replacement := [], unended := desk.unended.filter (· != Target.output) }

/-- Ends an input that has no more lines. -/
def finish (settings : Settings) (input : OpenInput) : Editing Unit := do
  close input
  match input.endless with
  | some stall => System.stall stall
  | none => pure ()
  if settings.isInPlace then replaceFile settings input

/-- The next of some files that has lines, and the files after it. -/
def nextFilled (settings : Settings) :
    List ByteText → Editing (Option OpenInput × List ByteText)
  | [] => return (none, [])
  | name :: names => do
    match ← openInput? settings name with
    | none => nextFilled settings names
    | some input =>
      if input.lines.isEmpty then
        finish settings input
        nextFilled settings names
      else return (some input, names)

/-- Makes sure that the next input is open, if there is one. -/
def lookAhead (settings : Settings) : Editing (Option OpenInput) := do
  match (← get).upcoming with
  | some input => return some input
  | none =>
    let (input, files) ← nextFilled settings (← get).files
    modify fun desk => { desk with upcoming := input, files := files }
    return input

/-- Whether the input that is open has no more lines. -/
def isAtEnd (input : Option OpenInput) : Bool :=
  match input with
  | some input => input.lines.isEmpty && input.endless.isNone
  | none => true

/-- Whether the line is the last one. -/
def isLastLine (settings : Settings) : Editing Bool := do
  if !isAtEnd (← get).input then return false
  else if settings.isSeparate then return true
  else return (← lookAhead settings).isNone

/-- Takes the next line, from the next input if need be. -/
def nextLine? (settings : Settings) : Editing (Option ByteText.Line) := do
  showAppendices settings
  let take (input : OpenInput) : Editing (Option ByteText.Line) := do
    match input.lines with
    | [] => return none
    | line :: lines =>
      let input ← taking settings { input with lines := lines }
        (line.text.length + (if line.isEnded then 1 else 0))
      modify fun desk =>
        { desk with
          input := some input
          lineNumber := desk.lineNumber + 1, isReplaced := false }
      return some line
  match (← get).input with
  | some input =>
    if !input.lines.isEmpty then take input
    else
      finish settings input
      modify fun desk => { desk with input := none }
      match ← lookAhead settings with
      | none => return none
      | some input =>
        modify fun desk => { desk with upcoming := none }
        if settings.isSeparate then
          modify fun desk =>
            { desk with lineNumber := 0, ranges := desk.ranges.map fun _ => .outside }
        take input
  | none =>
    match ← lookAhead settings with
    | none => return none
    | some input =>
      modify fun desk => { desk with upcoming := none }
      take input

/-! ## Addresses -/

/-- The pattern that is meant, which becomes the last one. -/
def patternOf (sought : Sought) : Editing (Option (Pattern × Sought)) := do
  match sought.pattern with
  | some pattern =>
    modify fun desk => { desk with lastSought := some sought }
    return some (pattern, sought)
  | none =>
    match (← get).lastSought with
    | some last => return last.pattern.map fun pattern => (pattern, last)
    | none => return none

/-- Whether an address is that of the line, if there is a pattern to look for. -/
def isAt? (settings : Settings) (address : Address) : Editing (Option Bool) := do
  let desk ← get
  match address with
  | .line number => return some (desk.lineNumber = number)
  | .step first width =>
    return some (if desk.lineNumber < first then false
      else (desk.lineNumber - first) % width = 0)
  | .last => return some (← isLastLine settings)
  | .text sought =>
    match ← patternOf sought with
    | none => return none
    | some (pattern, sought) =>
      return some (pattern.occursIn
        { chars := desk.space.text.toArray, ignoresCase := sought.ignoresCase
          hasLines := sought.hasLines })

/-- Notes where one is in a range. -/
def setRange (place : Nat) (state : RangeState) : Editing Unit :=
  modify fun desk => { desk with ranges := desk.ranges.setIfInBounds place state }

/-- The state of a range after its first line. -/
def rangeAfter (stop : RangeEnd) (lineNumber : Nat) : RangeState :=
  match stop with
  | .address (.line number) => if number ≤ lineNumber then .outside else .upTo number
  | .address _ => .inside
  | .after count => if count = 0 then .outside else .upTo (lineNumber + count)
  | .multiple factor =>
    if factor = 0 || lineNumber % factor = 0 then .outside
    else .upTo ((lineNumber / factor + 1) * factor)

/-- Whether a command is for the line, apart from being turned around. -/
def isSelected? (settings : Settings) (place : Nat) (selector : Selector) :
    Editing (Option Bool) := do
  match selector.start, selector.stop with
  | none, _ => return some true
  | some start, none => isAt? settings start
  | some start, some stop =>
    let desk ← get
    let begin : Editing (Option Bool) := do
      match ← isAt? settings start with
      | some true =>
        setRange place (rangeAfter stop desk.lineNumber)
        return some true
      | other => return other
    match desk.ranges[place]? with
    | some .inside =>
      match stop with
      | .address address =>
        match ← isAt? settings address with
        | none => return none
        | some isLast =>
          if isLast then setRange place .closed
          return some true
      | _ => return some true
    | some (.upTo last) =>
      if last ≤ desk.lineNumber then setRange place .closed
      if desk.lineNumber ≤ last then return some true else begin
    | _ => begin

/-! ## Commands -/

/-- Changes the buffer. -/
def setSpace (change : Space → Space) : Editing Unit :=
  modify fun desk =>
    let space := change desk.space
    { desk with space := space, work := desk.work + space.text.length }

/-- The first line in a buffer. -/
def firstLine (settings : Settings) (space : Space) : Space :=
  let first := space.text.takeWhile (· != settings.terminator)
  if first.length = space.text.length then space else ⟨first, true⟩

/-- The width at which lines are cut. -/
def lineWidth (settings : Settings) : Option Nat → Nat
  | some width => width
  | none => settings.width

/-- Takes the next line of a file that is read one line at a time. -/
def nextOf? (name : ByteText) : Editing (Option ByteText) := do
  let lines : List ByteText.Line ←
    match (← get).readers.find? fun reader => reader.1 = name with
    | some (_, lines) => pure lines
    | none =>
      match ← (Program.readOperand name : Program _) with
      | .ok text => pure (ByteText.lines text)
      | .error _ => pure []
  modify fun desk =>
    { desk with
      readers := (name, lines.drop 1) :: desk.readers.filter fun reader => reader.1 != name }
  return lines.head?.map ByteText.Line.text

/-- Runs the buffer as a command, whose output takes its place. -/
def runSpace (settings : Settings) : Editing Unit := do
  let output ← (settings.runs (← get).space.text : Program _)
  let output := if output.getLast? = some settings.terminator then output.dropLast else output
  setSpace fun space => { space with text := output }

/-- Replaces in the buffer. -/
def substitute (settings : Settings) (substitution : Substitution) (next : Next) :
    Editing Next := do
  match ← patternOf substitution.sought with
  | none =>
    Program.complain (ascii "-e expression #" ++ ByteText.ofNat settings.expressions
      ++ ascii ", char 0: no previous regular expression")
    return .failed 1
  | some (pattern, sought) =>
    match replace? substitution pattern sought (← get).space.text with
    | none => return next
    | some text =>
      setSpace fun space => { space with text := text }
      modify fun desk => { desk with isReplaced := true }
      if substitution.runs then runSpace settings
      if substitution.prints then showLine settings .output (← get).space
      match substitution.target with
      | some target => showLine settings target (← get).space
      | none => pure ()
      return next

/-- Runs a command that is for the line, at its place. -/
def run (settings : Settings) (place : Nat) (entry : Entry) : Editing Next := do
  let desk ← get
  let next : Next := .command (place + 1)
  let isShown := !settings.isQuiet
  match entry.command with
  | .openBlock => return next
  | .closeBlock => return next
  | .mark _ => return next
  | .jump condition _ =>
    let jumps :=
      match condition with
      | .always => true
      | .replaced => desk.isReplaced
      | .notReplaced => !desk.isReplaced
    if condition != .always then modify fun desk => { desk with isReplaced := false }
    return if jumps then .command entry.target else next
  | .append text =>
    modify fun desk => { desk with appendices := .text text :: desk.appendices }
    return next
  | .insert text =>
    showText settings text
    return next
  | .change text =>
    let isInRange : Bool :=
      match desk.ranges[place]? with
      | some .inside => true
      | some (.upTo _) => true
      | _ => false
    if !(isInRange && entry.selector.stop.isSome) then showText settings text
    return .done false
  | .delete => return .done false
  | .deleteFirst =>
    let first := (firstLine settings desk.space).text
    if first.length = desk.space.text.length then return .done false
    else
      setSpace fun space => { space with text := space.text.drop (first.length + 1) }
      return .again
  | .showNumber =>
    showText settings (ByteText.ofNat desk.lineNumber ++ ['\n'])
    return next
  | .showFile =>
    showText settings ((desk.input.map OpenInput.name).getD ['-'] ++ ['\n'])
    return next
  | .hold =>
    set { desk with held := desk.space }
    return next
  | .holdMore =>
    let text := desk.held.text ++ settings.terminator :: desk.space.text
    set { desk with held := ⟨text, desk.space.isEnded⟩, work := desk.work + text.length }
    return next
  | .fetch =>
    set { desk with space := desk.held }
    return next
  | .fetchMore =>
    setSpace fun space =>
      ⟨space.text ++ settings.terminator :: desk.held.text, desk.held.isEnded⟩
    return next
  | .swap =>
    set { desk with space := desk.held, held := desk.space }
    return next
  | .list width =>
    showText settings (shownLine (lineWidth settings width) desk.space.text)
    return next
  | .next =>
    if ← isLastLine settings then
      if settings.isSeparate && (← lookAhead settings).isSome then pure ()
      else return .quit 0 isShown
    if isShown then showLine settings .output desk.space
    match ← nextLine? settings with
    | none => return .quit 0 false
    | some line =>
      setSpace fun _ => ⟨line.text, line.isEnded⟩
      return next
  | .nextMore =>
    if ← isLastLine settings then
      if settings.isSeparate && (← lookAhead settings).isSome then pure ()
      else return .quit 0 isShown
    match ← nextLine? settings with
    | none => return .quit 0 isShown
    | some line =>
      setSpace fun space => ⟨space.text ++ settings.terminator :: line.text, line.isEnded⟩
      return next
  | .print =>
    showLine settings .output desk.space
    return next
  | .printFirst =>
    showLine settings .output (firstLine settings desk.space)
    return next
  | .quit code => return .quit code isShown
  | .quitSilently code => return .quit code false
  | .readFile name =>
    modify fun desk => { desk with appendices := .file name :: desk.appendices }
    return next
  | .readLine name =>
    match ← nextOf? name with
    | some line =>
      modify fun desk => { desk with appendices := .text (line ++ ['\n']) :: desk.appendices }
      return next
    | none => return next
  | .write target =>
    showLine settings target desk.space
    return next
  | .writeFirst target =>
    showLine settings target (firstLine settings desk.space)
    return next
  | .substitute substitution => substitute settings substitution next
  | .exchange pairs =>
    setSpace fun space => { space with text := exchange pairs space.text }
    return next
  | .execute [] =>
    runSpace settings
    return next
  | .execute command =>
    let output ← (settings.runs command : Program _)
    showText settings output
    return next
  | .clear =>
    setSpace fun space => { space with text := [] }
    return next

/-- Runs the command at a place, if it is for the line. -/
def step (settings : Settings) (place : Nat) : Editing Next := do
  match settings.script.entries[place]? with
  | none => return .done (!settings.isQuiet)
  | some entry =>
    match ← isSelected? settings place entry.selector with
    | none =>
      Program.complain (ascii "-e expression #" ++ ByteText.ofNat settings.expressions
        ++ ascii ", char 0: no previous regular expression")
      return .failed 1
    | some isSelected =>
      if isSelected != entry.selector.isNegated then run settings place entry
      else
        match entry.command with
        | .openBlock => return .command entry.target
        | _ => return .command (place + 1)

/-- The state in which a range begins. -/
def firstRange (entry : Entry) : RangeState :=
  match entry.selector.start, entry.selector.stop with
  | some (.line 0), some _ => .inside
  | _, _ => .outside

/-- Leaves the input after its last line that is looked at. -/
def leave (settings : Settings) : Editing Unit := do
  showAppendices settings
  match (← get).input with
  | none => return ()
  | some input =>
    if settings.isInPlace then
      input.lines.forM fun line => showLine settings .output ⟨line.text, line.isEnded⟩
      replaceFile settings input
    close input

/-- The number of commands that are run before they count as endless. -/
def patience : Nat := 10000000

/-- The number of characters that are worked on before that counts as endless. -/
def endurance : Nat := 100000000

/-- Runs commands from a place on, line after line, up to the end.  Each step runs a command or
takes a line. -/
def runFrom (settings : Settings) : Nat → Option Nat → Editing Nat
  | 0, _ => do
    System.stall .busy
    return 0
  | fuel + 1, none => do
    match ← nextLine? settings with
    | none => return (← get).code
    | some line =>
      setSpace fun _ => ⟨line.text, line.isEnded⟩
      runFrom settings fuel (some 0)
  | fuel + 1, some place => do
    if endurance < (← get).work then
      System.stall .busy
      return 0
    match ← step settings place with
    | .command place => runFrom settings fuel (some place)
    | .done isShown =>
      if isShown then showLine settings .output (← get).space
      runFrom settings fuel none
    | .again =>
      showAppendices settings
      runFrom settings fuel (some 0)
    | .quit code isShown =>
      if isShown then showLine settings .output (← get).space
      leave settings
      let desk ← get
      return if code = 0 then desk.code else code
    | .failed code => return code

/-- Opens the files that a script writes. -/
def openFiles : List ByteText → Array Nat → Program (Except (ByteText × FileError) (Array Nat))
  | [], channels => return .ok channels
  | name :: names, channels => do
    match ← Program.openOutput name false with
    | .ok channel => openFiles names (channels.push channel)
    | .error cause => return .error (name, cause)

/-- Runs a script on files. -/
def runOn (settings : Settings) (files : List ByteText) : Program Nat := do
  match ← openFiles settings.script.files #[] with
  | .error (name, cause) =>
    Program.die 4 (ascii "couldn't open file " ++ name ++ ascii ": " ++ ascii cause.reason)
  | .ok channels =>
    let desk : Desk :=
      { files := files, ranges := settings.script.entries.map firstRange, channels := channels }
    let (code, _) ← StateT.run (runFrom settings patience none) desk
    return code

end Editing

end SchemaDocs.Shell.Edit

namespace SchemaDocs.Shell.Tool

open Edit

/-- What the options of the editor ask for. -/
structure EditOptions where
  /-- The parts of the script, the last one first. -/
  parts : List ScriptPart := []
  isExtended : Bool := false
  isQuiet : Bool := false
  isSeparate : Bool := false
  isUnbuffered : Bool := false
  inPlace : Option ByteText := none
  terminator : Char := '\n'
  width : Nat := 70
  expressions : Nat := 0

/-- The options of the editor. -/
def sedRules : OptionRules :=
  { forms :=
    [.both 'n' "quiet", .word "silent", .word "debug", .both 'e' "expression" .required,
     .both 'f' "file" .required, .word "follow-symlinks", .both 'i' "in-place" .optional,
     .both 'l' "line-length" .required, .word "posix", .both 'E' "regexp-extended", .letter 'r',
     .both 's' "separate", .word "sandbox", .both 'u' "unbuffered", .both 'z' "null-data",
     .word "zero-terminated", .both 'b' "binary", .word "help", .word "version"] }

/-- Settings after an option of the editor. -/
def sedOption (options : EditOptions) (key : String) (argument : ByteText) :
    Program (Except Nat EditOptions) := do
  match key with
  | "n" => return .ok { options with isQuiet := true }
  | "silent" => return .ok { options with isQuiet := true }
  | "e" =>
    let number := options.expressions + 1
    let part : ScriptPart := ⟨argument, .expression number, options.isExtended⟩
    return .ok { options with parts := part :: options.parts, expressions := number }
  | "f" =>
    match ← Program.readOperand argument with
    | .error cause =>
      return .error (← Program.die 4
        (ascii "couldn't open file " ++ argument ++ ascii ": " ++ ascii cause.reason))
    | .ok text =>
      let text := if text.getLast? = some '\n' then text.dropLast else text
      let part : ScriptPart := ⟨text, .file argument, options.isExtended⟩
      return .ok { options with parts := part :: options.parts }
  | "i" => return .ok { options with inPlace := some argument, isSeparate := true }
  | "l" => return .ok { options with width := (ByteText.toNat? argument).getD 0 }
  | "E" => return .ok { options with isExtended := true }
  | "r" => return .ok { options with isExtended := true }
  | "s" => return .ok { options with isSeparate := true }
  | "u" => return .ok { options with isUnbuffered := true }
  | "z" => return .ok { options with terminator := '\x00' }
  | "zero-terminated" => return .ok { options with terminator := '\x00' }
  | _ => return .ok options

/-- What a command writes when a shell runs it. -/
def outputOf (launcher : Launcher) (command : ByteText) : Program ByteText := do
  let sink ← System.add (.sink [] .ended)
  let descriptors := (← read).descriptors.filter fun entry => entry.1 != 1
  withReader (fun process => { process with descriptors := (1, sink) :: descriptors }) do
    let _ ← Program.start launcher (ascii "sh") [ascii "-c", command]
  return (← System.collected sink).1

/-- Edits lines by a script. -/
def sed (launcher : Launcher) : Tool :=
  Program.withArguments sedRules {} sedOption fun options operands => do
    let (parts, files) : List ScriptPart × List ByteText :=
      match options.parts, operands with
      | [], script :: files => ([⟨script, .expression 1, options.isExtended⟩], files)
      | parts, files => (parts.reverse, files)
    if parts.isEmpty then return 1
    match Script.read parts with
    | .error fault => Program.die fault.code fault.message
    | .ok script =>
      if options.inPlace.isSome && files.isEmpty then Program.die 4 (ascii "no input files")
      else
        Editing.runOn
          { script := script, isQuiet := options.isQuiet || script.isQuiet
            isSeparate := options.isSeparate, isUnbuffered := options.isUnbuffered
            isInPlace := options.inPlace.isSome
            backup := options.inPlace.getD [], terminator := options.terminator
            width := options.width, expressions := max 1 options.expressions
            runs := outputOf launcher }
          (Program.inputsOr files)

end SchemaDocs.Shell.Tool
