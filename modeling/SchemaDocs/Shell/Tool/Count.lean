import SchemaDocs.Shell.Tool.Basic
/-!
# Counting

The lines, words and characters of files, and numbers before lines.
-/

namespace SchemaDocs.Shell

namespace Tool

/-! ## Counts of files -/

/-- The counts of a text. -/
structure Counts where
  lines : Nat := 0
  words : Nat := 0
  characters : Nat := 0
  bytes : Nat := 0
  longest : Nat := 0

/-- Which counts are shown. -/
structure WcSettings where
  lines : Bool := false
  words : Bool := false
  characters : Bool := false
  bytes : Bool := false
  longest : Bool := false
  total : ByteText := ascii "auto"

/-- The state of counting: the counts so far, the place in the line, and whether a word was begun. -/
structure Counting where
  lines : Nat := 0
  words : Nat := 0
  longest : Nat := 0
  place : Nat := 0
  isInWord : Bool := false

/-- Counts a character. -/
def Counting.add (state : Counting) (c : Char) : Counting :=
  let endWord (state : Counting) : Counting :=
    { state with words := state.words + (if state.isInWord then 1 else 0), isInWord := false }
  let endLine (state : Counting) : Counting :=
    { state with longest := max state.longest state.place, place := 0 }
  match c with
  | '\n' => endWord (endLine { state with lines := state.lines + 1 })
  | '\r' => endWord (endLine state)
  | '\x0c' => endWord (endLine state)
  | '\t' => endWord { state with place := state.place + (8 - state.place % 8) }
  | ' ' => endWord { state with place := state.place + 1 }
  | '\x0b' => endWord state
  | c =>
    if isShown c then { state with place := state.place + 1, isInWord := true } else state

/-- The counts of a text. -/
def countsOf (text : ByteText) : Counts :=
  let state := text.foldl Counting.add {}
  { lines := state.lines, words := state.words + (if state.isInWord then 1 else 0)
    characters := text.length, bytes := text.length, longest := max state.longest state.place }

/-- The counts of two texts together. -/
def Counts.join (a b : Counts) : Counts :=
  ⟨a.lines + b.lines, a.words + b.words, a.characters + b.characters, a.bytes + b.bytes,
    max a.longest b.longest⟩

/-- The options of the program that counts. -/
def wcRules : OptionRules :=
  { forms :=
    [.both 'c' "bytes", .both 'm' "chars", .both 'l' "lines", .both 'w' "words",
     .both 'L' "max-line-length", .word "files0-from" .required, .word "total" .required,
     .word "debug", .word "help", .word "version"] }

/-- Settings after an option of the program that counts. -/
def wcOption (settings : WcSettings) (key : String) (argument : ByteText) :
    Program (Except Nat WcSettings) :=
  return .ok (match key with
    | "c" => { settings with bytes := true }
    | "m" => { settings with characters := true }
    | "l" => { settings with lines := true }
    | "w" => { settings with words := true }
    | "L" => { settings with longest := true }
    | "total" => { settings with total := argument }
    | _ => settings)

/-- The settings if no count was chosen. -/
def WcSettings.completed (settings : WcSettings) : WcSettings :=
  if settings.lines || settings.words || settings.characters || settings.bytes || settings.longest
  then settings
  else { settings with lines := true, words := true, bytes := true }

/-- The counts that are shown. -/
def WcSettings.shown (settings : WcSettings) (counts : Counts) : List Nat :=
  (if settings.lines then [counts.lines] else [])
    ++ (if settings.words then [counts.words] else [])
    ++ (if settings.characters then [counts.characters] else [])
    ++ (if settings.bytes then [counts.bytes] else [])
    ++ (if settings.longest then [counts.longest] else [])

/-- The size of a file, if it is known before it is read. -/
def knownSize? (file : ByteText) : Program (Option Nat) := do
  if file = ['-'] then
    match ← Program.descriptor? 0 with
    | some channel =>
      match ← System.channel? channel with
      | some (.file steps _ _) => return some (← System.contents steps).length
      | _ => return none
    | none => return none
  else if (← Program.kindOf file) = .file then
    match ← Program.openInput file with
    | .ok channel =>
      match ← System.channel? channel with
      | some (.file steps _ _) => return some (← System.contents steps).length
      | _ => return none
    | .error _ => return none
  else return none

/-- The width of counts. -/
def countWidth (settings : WcSettings) (operands : List ByteText) : Program Nat := do
  let files := Program.inputsOr operands
  if files.length = 1 && (settings.shown {}).length = 1 then return 1
  else
    let kinds ← files.mapM fun file => do
      if file = ['-'] then return FileKind.file else Program.kindOf file
    if kinds.head? = some .missing then return 1
    else
      let sizes ← files.filterMapM fun file => do
        if file != ['-'] && (← Program.kindOf file) = .missing then return none
        else return some (← knownSize? file)
      let total := ByteText.total (sizes.filterMap id)
      let width := (ByteText.ofNat total).length
      return if sizes.contains none then max 7 width else width

/-- A line of counts. -/
def countLine (settings : WcSettings) (width : Nat) (counts : Counts) (name : Option ByteText) :
    ByteText :=
  let texts := (settings.shown counts).map fun n => ByteText.padLeft width (ByteText.ofNat n)
  (texts.intersperse [' ']).flatten
    ++ (match name with
      | some name => ' ' :: name
      | none => [])
    ++ ['\n']

/-- Counts the lines, words and characters of files. -/
def wc : Tool :=
  Program.withArguments wcRules {} wcOption fun settings operands => do
    let settings := settings.completed
    let width ← countWidth settings operands
    let showsEach := settings.total != ascii "only"
    let files := Program.inputsOr operands
    let (total, code) ← files.foldlM (fun ((total, code) : Counts × Nat) file => do
      let name := if operands.isEmpty then none else some (Quoting.whereNeeded file)
      match ← Program.readOperand file with
      | .error cause =>
        Program.complainOf file cause
        if cause = .isADirectory && showsEach then
          Program.out (countLine settings width {} name)
        return (total, 1)
      | .ok text =>
        let counts := countsOf text
        if showsEach then Program.out (countLine settings width counts name)
        return (total.join counts, code)) (({} : Counts), 0)
    let showsTotal :=
      if settings.total = ascii "always" then true
      else if settings.total = ascii "never" then false
      else if settings.total = ascii "only" then true
      else 1 < operands.length
    if showsTotal then
      if showsEach then Program.out (countLine settings width total (some (ascii "total")))
      else Program.out (countLine settings 1 total none)
    return code

/-! ## Numbers before lines -/

/-- Which lines get a number. -/
inductive NumberedLines where
  | all
  | filled
  | none
deriving DecidableEq

/-- How lines are numbered. -/
structure NlSettings where
  header : NumberedLines := .none
  body : NumberedLines := .filled
  footer : NumberedLines := .none
  width : Nat := 6
  separator : ByteText := ['\t']
  start : Int := 1
  step : Int := 1
  /-- How many empty lines count as one. -/
  join : Nat := 1
  isLeft : Bool := false
  isZeroFilled : Bool := false
  delimiter : ByteText := ascii "\\:"
  restarts : Bool := true

/-- The options of the program that numbers lines. -/
def nlRules : OptionRules :=
  { forms :=
    [.both 'b' "body-numbering" .required, .both 'd' "section-delimiter" .required,
     .both 'f' "footer-numbering" .required, .both 'h' "header-numbering" .required,
     .both 'i' "line-increment" .required, .both 'l' "join-blank-lines" .required,
     .both 'n' "number-format" .required, .both 'p' "no-renumber",
     .both 's' "number-separator" .required, .both 'v' "starting-line-number" .required,
     .both 'w' "number-width" .required, .word "help", .word "version"] }

/-- The lines that get a number, by a letter. -/
def numberedLines? (text : ByteText) : Option NumberedLines :=
  match text with
  | ['a'] => some .all
  | ['t'] => some .filled
  | ['n'] => some .none
  | _ => none

/-- A whole number with a sign. -/
def signed? (text : ByteText) : Option Int :=
  match text with
  | '-' :: digits => (ByteText.toNat? digits).map fun n => -(n : Int)
  | '+' :: digits => (ByteText.toNat? digits).map Int.ofNat
  | digits => (ByteText.toNat? digits).map Int.ofNat

/-- Settings after an option of the program that numbers lines. -/
def nlOption (settings : NlSettings) (key : String) (argument : ByteText) :
    Program (Except Nat NlSettings) := do
  let style (name : String) (put : NumberedLines → NlSettings) :
      Program (Except Nat NlSettings) := do
    match numberedLines? argument with
    | some lines => return .ok (put lines)
    | none =>
      Program.complain (ascii "invalid " ++ ascii name ++ ascii " numbering style: "
        ++ Program.quoted argument)
      Program.suggestHelp
      return .error 1
  let number (name : String) (isValid : Int → Bool) (put : Int → NlSettings) :
      Program (Except Nat NlSettings) := do
    match signed? argument with
    | some n =>
      if isValid n then return .ok (put n)
      else
        Program.complain (ascii name ++ ascii ": " ++ Program.quoted argument
          ++ ascii ": Numerical result out of range")
        return .error 1
    | none =>
      Program.complain (ascii name ++ ascii ": " ++ Program.quoted argument)
      return .error 1
  match key with
  | "b" => style "body" (fun lines => { settings with body := lines })
  | "h" => style "header" (fun lines => { settings with header := lines })
  | "f" => style "footer" (fun lines => { settings with footer := lines })
  | "i" =>
    number "invalid line number increment" (fun _ => true) (fun n => { settings with step := n })
  | "v" =>
    number "invalid starting line number" (fun _ => true) (fun n => { settings with start := n })
  | "l" =>
    number "invalid line number of blank lines" (fun n => 1 ≤ n)
      (fun n => { settings with join := n.toNat })
  | "w" =>
    number "invalid line number field width" (fun n => 1 ≤ n)
      (fun n => { settings with width := n.toNat })
  | "s" => return .ok { settings with separator := argument }
  | "p" => return .ok { settings with restarts := false }
  | "d" =>
    return .ok { settings with
      delimiter :=
        match argument with
        | [c] => [c, ':']
        | text => text }
  | "n" =>
    match String.ofList argument with
    | "ln" => return .ok { settings with isLeft := true, isZeroFilled := false }
    | "rn" => return .ok { settings with isLeft := false, isZeroFilled := false }
    | "rz" => return .ok { settings with isLeft := false, isZeroFilled := true }
    | _ =>
      Program.complain (ascii "invalid line numbering format: " ++ Program.quoted argument)
      Program.suggestHelp
      return .error 1
  | _ => return .ok settings

/-- The number of a line in its field. -/
def numberField (settings : NlSettings) (number : Int) : ByteText :=
  let digits := ByteText.ofInt number
  if settings.isLeft then ByteText.padRight settings.width digits
  else if settings.isZeroFilled then
    let plain := ByteText.ofNat number.natAbs
    let sign : ByteText := if number < 0 then ['-'] else []
    sign ++ List.replicate (settings.width - sign.length - plain.length) '0' ++ plain
  else ByteText.padLeft settings.width digits

/-- The state of numbering lines: the next number, which lines of this section get one, and how many
empty lines came last. -/
structure NlState where
  number : Int
  lines : NumberedLines
  blanks : Nat := 0

/-- Numbers a line. -/
def nlLine (settings : NlSettings) (state : NlState) (line : ByteText.Line) :
    ByteText × NlState :=
  let section? (count : Nat) (lines : NumberedLines) : Option (ByteText × NlState) :=
    if !settings.delimiter.isEmpty
        && line.text = (List.replicate count settings.delimiter).flatten then
      some (['\n'],
        { state with
          lines := lines
          number := if settings.restarts then settings.start else state.number })
    else none
  match (section? 3 settings.header).or ((section? 2 settings.body).or
      (section? 1 settings.footer)) with
  | some result => result
  | none =>
    let isBlank := line.text.isEmpty
    let (isNumbered, blanks) : Bool × Nat :=
      match state.lines with
      | .none => (false, state.blanks)
      | .filled => (!isBlank, state.blanks)
      | .all =>
        if isBlank && 1 < settings.join then
          if state.blanks + 1 = settings.join then (true, 0) else (false, state.blanks + 1)
        else (true, 0)
    let text := line.text ++ ['\n']
    if isNumbered then
      (numberField settings state.number ++ settings.separator ++ text,
        { state with number := state.number + settings.step, blanks := blanks })
    else
      (List.replicate (settings.width + settings.separator.length) ' ' ++ text,
        { state with blanks := blanks })

/-- Numbers the lines of files. -/
def nl : Tool :=
  Program.withArguments nlRules {} nlOption fun settings operands => do
    let (text, code) ← Program.allText operands
    let (pieces, _) := (ByteText.lines text).foldl
      (fun (pieces, state) line =>
        let (piece, state) := nlLine settings state line
        (piece :: pieces, state))
      (([] : List ByteText), ({ number := settings.start, lines := settings.body } : NlState))
    Program.out pieces.reverse.flatten
    return code

end Tool

end SchemaDocs.Shell
