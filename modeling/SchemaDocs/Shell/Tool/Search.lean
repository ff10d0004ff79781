import SchemaDocs.Shell.Regex.Read
import SchemaDocs.Shell.Tool.Basic
/-!
# Searching lines

Lines are selected that match one of some patterns, or none of them, and shown with what
tells where they stand.
-/

namespace SchemaDocs.Shell

namespace Tool

/-- How patterns are spelled. -/
inductive PatternKind where
  | basic | extended | fixed
deriving DecidableEq

/-- How lines are searched. -/
structure SearchSettings where
  kind : PatternKind := .basic
  patterns : List ByteText := []
  hasPatterns : Bool := false
  ignoresCase : Bool := false
  isTurned : Bool := false
  wholeWords : Bool := false
  wholeLines : Bool := false
  counts : Bool := false
  showsNumbers : Bool := false
  showsOffsets : Bool := false
  showsNames : Option Bool := none
  /-- Whether only the names of files are shown: those with selected lines, or those without. -/
  listsFiles : Option Bool := none
  onlyMatches : Bool := false
  isSilent : Bool := false
  hidesFaults : Bool := false
  most : Option Nat := none
  before : Option Nat := none
  after : Option Nat := none
  /-- The lines around on both sides, as single digits ask for them. -/
  around : Option Nat := none
  separator : Option ByteText := some (ascii "--")
  terminator : Char := '\n'
  isText : Bool := false
  label : ByteText := ascii "(standard input)"
  nameEnd : Char := ':'
  aligns : Bool := false
  isRecursive : Bool := false

/-- The options of the program that searches lines. -/
def grepRules : OptionRules :=
  { forms :=
    [.both 'E' "extended-regexp", .both 'F' "fixed-strings", .both 'G' "basic-regexp",
     .both 'P' "perl-regexp", .both 'e' "regexp" .required, .both 'f' "file" .required,
     .both 'i' "ignore-case", .letter 'y', .word "no-ignore-case", .both 'w' "word-regexp",
     .both 'x' "line-regexp", .both 'z' "null-data", .both 's' "no-messages",
     .both 'v' "invert-match", .both 'V' "version", .word "help", .both 'm' "max-count" .required,
     .both 'b' "byte-offset", .both 'n' "line-number", .word "line-buffered",
     .both 'H' "with-filename", .both 'h' "no-filename", .word "label" .required,
     .both 'o' "only-matching", .both 'q' "quiet", .word "silent",
     .word "binary-files" .required, .both 'a' "text", .letter 'I',
     .both 'd' "directories" .required, .both 'D' "devices" .required, .both 'r' "recursive",
     .both 'R' "dereference-recursive", .word "include" .required, .word "exclude" .required,
     .word "exclude-from" .required, .word "exclude-dir" .required,
     .both 'L' "files-without-match", .both 'l' "files-with-matches", .both 'c' "count",
     .both 'T' "initial-tab", .both 'Z' "null", .both 'B' "before-context" .required,
     .both 'A' "after-context" .required, .both 'C' "context" .required,
     .word "group-separator" .required, .word "no-group-separator", .word "color" .optional,
     .word "colour" .optional, .both 'U' "binary", .letter 'u', .letter 'X' .required]
    ++ "0123456789".toList.map fun c => .letter c }

/-- The patterns of a text, one on each line. -/
def patternLines (text : ByteText) : List ByteText := ByteText.splitAt '\n' text

/-- Reads how many lines there are around a selected one. -/
def contextLength (argument : ByteText) (use : Nat → SearchSettings) :
    Program (Except Nat SearchSettings) := do
  match ByteText.toNat? argument with
  | some number => return .ok (use number)
  | none =>
    return .error (← Program.die 2 (argument ++ ascii ": invalid context length argument"))

/-- Settings after an option of the program that searches lines. -/
def grepOption (settings : SearchSettings) (key : String) (argument : ByteText) :
    Program (Except Nat SearchSettings) := do
  match key with
  | "E" => return .ok { settings with kind := .extended }
  | "P" => return .ok { settings with kind := .extended }
  | "F" => return .ok { settings with kind := .fixed }
  | "G" => return .ok { settings with kind := .basic }
  | "e" =>
    return .ok { settings with
      patterns := settings.patterns ++ patternLines argument, hasPatterns := true }
  | "f" =>
    match ← Program.readOperand argument with
    | .error cause =>
      Program.complainOf argument cause
      return .error 2
    | .ok text =>
      let lines := (ByteText.lines text).map ByteText.Line.text
      return .ok { settings with patterns := settings.patterns ++ lines, hasPatterns := true }
  | "i" => return .ok { settings with ignoresCase := true }
  | "y" => return .ok { settings with ignoresCase := true }
  | "no-ignore-case" => return .ok { settings with ignoresCase := false }
  | "w" => return .ok { settings with wholeWords := true }
  | "x" => return .ok { settings with wholeLines := true }
  | "z" => return .ok { settings with terminator := '\x00' }
  | "s" => return .ok { settings with hidesFaults := true }
  | "v" => return .ok { settings with isTurned := true }
  | "m" =>
    match argument, ByteText.toNat? argument with
    | _, some number => return .ok { settings with most := some number }
    | '-' :: digits, none =>
      if (ByteText.toNat? digits).isSome then return .ok { settings with most := none }
      else return .error (← Program.die 2 (ascii "invalid max count"))
    | _, none => return .error (← Program.die 2 (ascii "invalid max count"))
  | "b" => return .ok { settings with showsOffsets := true }
  | "n" => return .ok { settings with showsNumbers := true }
  | "H" => return .ok { settings with showsNames := some true }
  | "h" => return .ok { settings with showsNames := some false }
  | "label" => return .ok { settings with label := argument }
  | "o" => return .ok { settings with onlyMatches := true }
  | "q" => return .ok { settings with isSilent := true }
  | "silent" => return .ok { settings with isSilent := true }
  | "binary-files" =>
    match String.ofList argument with
    | "text" => return .ok { settings with isText := true }
    | "binary" => return .ok settings
    | "without-match" => return .ok settings
    | _ => return .error (← Program.die 2 (ascii "unknown binary-files type"))
  | "a" => return .ok { settings with isText := true }
  | "L" => return .ok { settings with listsFiles := some false }
  | "l" => return .ok { settings with listsFiles := some true }
  | "c" => return .ok { settings with counts := true }
  | "T" => return .ok { settings with aligns := true }
  | "Z" => return .ok { settings with nameEnd := '\x00' }
  | "r" => return .ok { settings with isRecursive := true }
  | "R" => return .ok { settings with isRecursive := true }
  | "B" => contextLength argument fun number => { settings with before := some number }
  | "A" => contextLength argument fun number => { settings with after := some number }
  | "C" => contextLength argument fun number => { settings with around := some number }
  | "group-separator" => return .ok { settings with separator := some argument }
  | "no-group-separator" => return .ok { settings with separator := none }
  | key =>
    match key.toList with
    | [c] =>
      if c.isDigit then
        return .ok { settings with
          around := some (settings.around.getD 0 * 10 + (c.toNat - '0'.toNat)) }
      else return .ok settings
    | _ => return .ok settings

/-! ## Patterns -/

/-- A text that is looked for as it is. -/
def literal (text : ByteText) : Regex :=
  text.foldl (fun regex c => if regex = .empty then .char c else .sequence regex (.char c)) .empty

/-- A pattern that is matched by whole words or lines only, if it is to be. -/
def bounded (settings : SearchSettings) (pattern : Pattern) : Pattern :=
  let between (first last : Anchor) (regex : Regex) : Regex :=
    .sequence (.anchor first) (.sequence regex (.anchor last))
  if settings.wholeLines then
    Pattern.ofRegex (between .lineStart .lineEnd pattern.regex) pattern.groups
  else if settings.wholeWords then
    Pattern.ofRegex (between .clearBefore .clearAfter pattern.regex) pattern.groups
  else pattern

/-- Reads a pattern. -/
def readPattern (settings : SearchSettings) (text : ByteText) : Except RegexError Pattern := do
  let pattern ←
    match settings.kind with
    | .fixed => pure (Pattern.ofRegex (literal text) 0)
    | .basic => Pattern.read { isExtended := false } text
    | .extended => Pattern.read { isExtended := true, isLoose := true } text
  return bounded settings pattern

/-- The operators of the extended spelling that have nothing to work on.  Each step takes a part. -/
def strayOperators : Nat → Bool → ByteText → List String
  | 0, _, _ => []
  | fuel + 1, isAtStart, text =>
    let stray (sign : String) (rest : ByteText) : List String :=
      if isAtStart then sign :: strayOperators fuel isAtStart rest
      else strayOperators fuel isAtStart rest
    match RegexReader.token { isExtended := true, isLoose := true } isAtStart text with
    | (.stop, _) => []
    | (.star, rest) => stray "*" rest
    | (.plus, rest) => stray "+" rest
    | (.question, rest) => stray "?" rest
    | (.openBrace, rest) =>
      match RegexReader.interval { isExtended := true, isLoose := true } rest with
      | .ok (some (_, rest)) => stray "\x7b...\x7d" rest
      | _ => strayOperators fuel false rest
    | (.openGroup, rest) => strayOperators fuel true rest
    | (.bar, rest) => strayOperators fuel true rest
    | (.anchor .lineStart, rest) => strayOperators fuel isAtStart rest
    | (.bracket, rest) =>
      match RegexReader.bracket rest with
      | .ok (_, rest) => strayOperators fuel false rest
      | .error _ => []
    | (_, rest) => strayOperators fuel false rest

/-- The match of one of some patterns that begins first, and reaches farthest of those. -/
def firstMatch (patterns : List Pattern) (subject : Subject) (place : Nat) : Option Match :=
  patterns.foldl (fun best pattern =>
    match best, pattern.search subject place with
    | none, found => found
    | some best, none => some best
    | some best, some found =>
      if found.start < best.start || (found.start = best.start && best.stop < found.stop) then
        some found
      else some best) none

/-- The matches that are not empty, from a place on.  Each step finds one. -/
def allMatches (patterns : List Pattern) (subject : Subject) : Nat → Nat → List Match
  | 0, _ => []
  | fuel + 1, place =>
    if subject.chars.size < place then []
    else
      match firstMatch patterns subject place with
      | none => []
      | some found =>
        if found.start = found.stop then allMatches patterns subject fuel (found.stop + 1)
        else found :: allMatches patterns subject fuel found.stop

/-! ## Lines -/

/-- A line with its number, its place in the file and whether it is selected. -/
structure NumberedLine where
  number : Nat
  offset : Nat
  text : ByteText

/-- What searching a file has come to. -/
structure Searching where
  /-- The number of lines that were selected. -/
  selected : Nat := 0
  /-- The lines before that were not shown yet, the last one first. -/
  waiting : List NumberedLine := []
  /-- How many more lines are shown behind a selected one. -/
  following : Nat := 0
  /-- The number of the last line that was shown. -/
  lastShown : Nat := 0
  /-- How many characters belong to lines up to the last one that was selected. -/
  used : Nat := 0

/-- The lines that are shown before and behind a selected one. -/
def contextOf (settings : SearchSettings) : Nat × Nat :=
  let around := settings.around.getD 0
  (settings.before.getD around, settings.after.getD around)

/-- Whether lines are shown around selected ones. -/
def hasContext (settings : SearchSettings) : Bool := contextOf settings != (0, 0)

/-- What stands before a line: the name of the file, the number of the line and its place. -/
def heading (settings : SearchSettings) (name : Option ByteText) (mark : Char) (number offset : Nat) :
    ByteText :=
  let name : ByteText :=
    match name with
    | some name => name ++ [if settings.nameEnd = '\x00' then '\x00' else mark]
    | none => []
  let shown (width n : Nat) : ByteText :=
    if settings.aligns then ByteText.padLeft width (ByteText.ofNat n) else ByteText.ofNat n
  let number := if settings.showsNumbers then shown 4 number ++ [mark] else []
  let offset := if settings.showsOffsets then shown 8 offset ++ [mark] else []
  let text := name ++ number ++ offset
  if settings.aligns && !text.isEmpty then text ++ ['\t'] else text

/-- Shows a line that is not selected. -/
def showContext (settings : SearchSettings) (name : Option ByteText) (line : NumberedLine) :
    Program Unit := do
  if !settings.onlyMatches then
    Program.out (heading settings name '-' line.number line.offset ++ line.text
      ++ [settings.terminator])

/-- Shows a selected line, or the parts of it that match. -/
def showSelected (settings : SearchSettings) (patterns : List Pattern) (name : Option ByteText)
    (line : NumberedLine) : Program Unit := do
  if settings.onlyMatches then
    if !settings.isTurned then
      let subject : Subject :=
        { chars := line.text.toArray, ignoresCase := settings.ignoresCase }
      (allMatches patterns subject (line.text.length + 2) 0).forM fun found =>
        Program.out (heading settings name ':' line.number (line.offset + found.start)
          ++ subject.between found.start found.stop ++ [settings.terminator])
  else
    Program.out (heading settings name ':' line.number line.offset ++ line.text
      ++ [settings.terminator])

/-- Whether a line is selected. -/
def selects (settings : SearchSettings) (patterns : List Pattern) (text : ByteText) : Bool :=
  let subject : Subject := { chars := text.toArray, ignoresCase := settings.ignoresCase }
  (patterns.any fun pattern => pattern.occursIn subject) != settings.isTurned

/-- Shows a separator between lines that do not follow each other. -/
def separate (settings : SearchSettings) (state : Searching) (number : Nat) (hasShown : Bool) :
    Program Unit := do
  match settings.separator with
  | some separator =>
    if hasContext settings && state.lastShown + 1 < number && (state.lastShown != 0 || hasShown) then
      Program.out (separator ++ ['\n'])
  | none => return ()

/-- Whether nothing but the outcome for the whole file is shown. -/
def isSummary (settings : SearchSettings) : Bool :=
  settings.isSilent || settings.counts || settings.listsFiles.isSome

/-- Goes through lines up to the last one that matters, and shows what is to be shown. -/
def searchLines (settings : SearchSettings) (patterns : List Pattern) (name : Option ByteText)
    (isBinary hasShown : Bool) : List NumberedLine → Searching → Program (Searching × Bool)
  | [], state => return (state, false)
  | line :: lines, state => do
    let isFull : Bool := settings.most.any fun most => most ≤ state.selected
    let (before, after) := contextOf settings
    if isFull && (state.following = 0 || isSummary settings) then return (state, true)
    else if !isFull && selects settings patterns line.text then
      let stopsHere := settings.isSilent || settings.listsFiles.isSome
        || (isBinary && !settings.counts)
      let used := line.offset + line.text.length + 1
      if isSummary settings || isBinary then
        let state := { state with selected := state.selected + 1, used := used }
        if stopsHere then return (state, true)
        else searchLines settings patterns name isBinary hasShown lines state
      else
        let waiting := (state.waiting.take before).reverse
        let firstNumber := (waiting.head?.map NumberedLine.number).getD line.number
        separate settings state firstNumber hasShown
        waiting.forM (showContext settings name)
        showSelected settings patterns name line
        searchLines settings patterns name isBinary hasShown lines
          { selected := state.selected + 1, waiting := [], following := after
            lastShown := line.number, used := used }
    else if 0 < state.following && !isSummary settings then
      showContext settings name line
      searchLines settings patterns name isBinary hasShown lines
        { state with following := state.following - 1, lastShown := line.number }
    else
      searchLines settings patterns name isBinary hasShown lines
        { state with waiting := (line :: state.waiting).take before }

/-- The lines of a text with their numbers and places. -/
def numberedLines (terminator : Char) (text : ByteText) : List NumberedLine :=
  let (lines, _) := (ByteText.linesEndedBy terminator text).foldl
    (fun ((lines, number, offset) : List NumberedLine × Nat × Nat) line =>
      (⟨number, offset, line.text⟩ :: lines, number + 1, offset + line.text.length + 1))
    (([] : List NumberedLine), 1, 0)
  lines.reverse

/-- The number of characters that are read at once. -/
def searchBlock : Nat := 98304

/-- Searches an open file.  The result is the number of selected lines. -/
def searchChannel (settings : SearchSettings) (patterns : List Pattern) (name : ByteText)
    (showsName hasShown : Bool) (channel : Nat) : Program Nat := do
  let (text, tail) ← System.pending channel
  let (text, endless) : ByteText × Option Stall :=
    match tail with
    | .ended => (text, none)
    | .silent => (text, some .asleep)
    | .endless piece => (text ++ System.repeated piece System.longestPrefix, some .busy)
  let isBinary := text.contains '\x00' && settings.terminator != '\x00' && !settings.isText
  let shownName := if showsName then some name else none
  let (state, isStopped) ← searchLines settings patterns shownName isBinary hasShown
    (numberedLines settings.terminator text) {}
  match ← System.channel? channel with
  | some (.file ..) =>
    if isStopped && settings.most.isSome then System.advance channel (min state.used text.length)
    else System.advance channel (min searchBlock text.length)
  | _ => System.advance channel (if isStopped then min searchBlock text.length else text.length)
  if !isStopped then
    match endless with
    | some stall => System.stall stall
    | none => pure ()
  let ending := if settings.nameEnd = '\x00' then ['\x00'] else ['\n']
  if !settings.isSilent then
    match settings.listsFiles with
    | some wanted =>
      if (0 < state.selected) = wanted then Program.out (name ++ ending)
    | none =>
      if settings.counts then
        let before : ByteText :=
          if showsName then name ++ [if settings.nameEnd = '\x00' then '\x00' else ':'] else []
        Program.out (before ++ ByteText.ofNat state.selected ++ ['\n'])
      else if isBinary && 0 < state.selected then
        Program.complain (name ++ ascii ": binary file matches")
  return state.selected

/-- The files in a directory and in those within it, each as a path.  Each step goes one level
deep. -/
def filesUnder (tree : FileTree) : Nat → ByteText → Steps → List ByteText
  | 0, _, _ => []
  | depth + 1, path, steps =>
    let names := (tree.namesIn steps).mergeSort fun first second => decide (first ≤ second)
    (names.map fun name =>
      let inner := path ++ ['/'] ++ ByteText.ofString name
      match tree.kind (steps ++ [name]) with
      | .directory => filesUnder tree depth inner (steps ++ [name])
      | .file => [inner]
      | _ => []).flatten

/-- The files that are searched for an operand. -/
def expandOperand (settings : SearchSettings) (operand : ByteText) : Program (List ByteText) := do
  if !settings.isRecursive || operand = ['-'] then return [operand]
  else
    let process ← read
    let tree := (← get).tree
    match tree.locate process.directory operand.toString with
    | .error _ => return [operand]
    | .ok place =>
      if place.kind = .directory then return filesUnder tree 20 operand place.steps
      else return [operand]

/-- Tells how the program that searches lines is used. -/
def grepUsage : Program Unit := do
  Program.err (ascii "Usage: grep [OPTION]... PATTERNS [FILE]...\n")
  Program.suggestHelp

/-- Searches files one after the other.  The result is the number of files with selected lines, and
whether one could not be read. -/
def searchFiles (settings : SearchSettings) (patterns : List Pattern) (showsNames : Bool) :
    List ByteText → Nat → Bool → Program (Nat × Bool)
  | [], found, isBad => return (found, isBad)
  | file :: files, found, isBad => do
    if settings.isSilent && 0 < found then return (found, isBad)
    let opened : Except FileError Nat ←
      if file = ['-'] then
        match ← Program.descriptor? 0 with
        | some channel => pure (.ok channel)
        | none => pure (.error .badDescriptor)
      else Program.openInput file
    let opened : Except FileError Nat ←
      match opened with
      | .ok channel => do
        if ← Program.isDirectory channel then pure (.error .isADirectory) else pure (.ok channel)
      | .error cause => pure (.error cause)
    match opened with
    | .error cause =>
      if !settings.hidesFaults then Program.complain (file ++ ascii ": " ++ ascii cause.reason)
      searchFiles settings patterns showsNames files found true
    | .ok channel =>
      let name := if file = ['-'] then settings.label else file
      let selected ← searchChannel settings patterns name showsNames (0 < found) channel
      searchFiles settings patterns showsNames files
        (if 0 < selected then found + 1 else found) isBad

/-- Searches lines. -/
def grep (kind : PatternKind) : Tool :=
  Program.withArguments grepRules { kind := kind } grepOption (fun settings operands => do
    let (settings, operands) : SearchSettings × List ByteText :=
      if settings.hasPatterns then (settings, operands)
      else
        match operands with
        | pattern :: operands =>
          ({ settings with patterns := patternLines pattern, hasPatterns := true }, operands)
        | [] => (settings, [])
    if !settings.hasPatterns then
      grepUsage
      return 2
    else
      match settings.patterns.mapM (readPattern settings) with
      | .error cause => Program.die 2 (ascii cause.message)
      | .ok patterns =>
        if settings.kind = .extended then
          settings.patterns.forM fun text =>
            (strayOperators (text.length + 1) true text).forM fun sign =>
              Program.complain (ascii ("warning: " ++ sign ++ " at start of expression"))
        let isAlone := settings.isRecursive && operands.isEmpty
        let operands := if isAlone then [['.']] else Program.inputsOr operands
        let files := (← operands.mapM (expandOperand settings)).flatten
        let files := if isAlone then files.map fun file => file.drop 2 else files
        let isMany : Bool := 1 < operands.length
          || (settings.isRecursive && (decide (files != operands)))
        let (found, isBad) ←
          searchFiles settings patterns (settings.showsNames.getD isMany) files 0 false
        if settings.isSilent && 0 < found then return 0
        else if isBad then return 2
        else return if 0 < found then 0 else 1) 2 grepUsage

/-- Searches lines for patterns of a kind, under the name of the program for all kinds. -/
def grepOf (kind : PatternKind) : Tool :=
  withReader (fun process => { process with name := ascii "grep" }) (grep kind)

end Tool

end SchemaDocs.Shell
