import SchemaDocs.Shell.Tool.Basic
/-!
# Columns

Parts of lines, lines side by side, and lines of a greatest width.
-/

namespace SchemaDocs.Shell

namespace Tool

/-! ## Parts of lines -/

/-- Which places of a line are taken: ranges from one on, with an open end if there is none. -/
abbrev Places := List (Nat × Option Nat)

/-- What parts of lines are. -/
inductive CutUnit where
  | bytes | characters | fields
deriving DecidableEq

/-- Which parts of lines are shown. -/
structure CutSettings where
  list : Option (CutUnit × ByteText) := none
  delimiter : Option ByteText := none
  skipsOthers : Bool := false
  isComplement : Bool := false
  between : Option ByteText := none
  terminator : Char := '\n'

/-- The options of the program that cuts out parts of lines. -/
def cutRules : OptionRules :=
  { forms :=
    [.both 'b' "bytes" .required, .both 'c' "characters" .required,
     .both 'd' "delimiter" .required, .both 'f' "fields" .required, .letter 'n',
     .word "complement", .both 's' "only-delimited", .word "output-delimiter" .required,
     .both 'z' "zero-terminated", .word "help", .word "version"] }

/-- Settings after an option of the program that cuts out parts of lines. -/
def cutOption (settings : CutSettings) (key : String) (argument : ByteText) :
    Program (Except Nat CutSettings) := do
  let refuse (text : String) : Program (Except Nat CutSettings) := do
    let _ ← Program.misuse 1 (ascii text)
    return .error 1
  let list (unit : CutUnit) : Program (Except Nat CutSettings) :=
    if settings.list.isSome then refuse "only one list may be specified"
    else return .ok { settings with list := some (unit, argument) }
  match key with
  | "b" => list .bytes
  | "c" => list .characters
  | "f" => list .fields
  | "d" =>
    if 1 < argument.length then refuse "the delimiter must be a single character"
    else return .ok { settings with delimiter := some argument }
  | "s" => return .ok { settings with skipsOthers := true }
  | "complement" => return .ok { settings with isComplement := true }
  | "output-delimiter" => return .ok { settings with between := some argument }
  | "z" => return .ok { settings with terminator := '\x00' }
  | _ => return .ok settings

/-- Says that places are numbered from one. -/
def zeroPlace (unit : CutUnit) : ByteText :=
  ascii (if unit = .fields then "fields are numbered from 1"
    else "byte/character positions are numbered from 1")

/-- Says that a text is no place. -/
def noPlace (unit : CutUnit) (text : ByteText) : ByteText :=
  ascii (if unit = .fields then "invalid field value " else "invalid byte/character position ")
    ++ Quoting.inQuotes text

/-- Reads a range of places. -/
def readRange (unit : CutUnit) (text : ByteText) : Except ByteText (Nat × Option Nat) :=
  let first := text.takeWhile Char.isDigit
  match text.drop first.length with
  | [] =>
    match ByteText.toNat? first with
    | some (n + 1) => .ok (n + 1, some (n + 1))
    | _ => .error (zeroPlace unit)
  | '-' :: last =>
    let start := (ByteText.toNat? first).getD 1
    let digits := last.takeWhile Char.isDigit
    match last.drop digits.length with
    | '-' :: _ =>
      .error (ascii (if unit = .fields then "invalid field range"
        else "invalid byte or character range"))
    | [] =>
      if first.isEmpty && last.isEmpty then .error (ascii "invalid range with no endpoint: -")
      else if start = 0 then .error (zeroPlace unit)
      else
        match ByteText.toNat? last with
        | none => .ok (start, none)
        | some stop =>
          if stop < start then .error (ascii "invalid decreasing range")
          else .ok (start, some stop)
    | rest => .error (noPlace unit rest)
  | rest => .error (noPlace unit rest)

/-- Reads ranges of places between commas or blanks. -/
def readPlaces (unit : CutUnit) (text : ByteText) : Except ByteText Places :=
  let text := text.map fun c => if c = ' ' || c = '\t' then ',' else c
  (ByteText.splitAt ',' text).mapM (readRange unit)

/-- Whether a place is in some ranges. -/
def inPlaces (places : Places) (place : Nat) : Bool :=
  places.any fun (first, last) => first ≤ place && last.all fun last => place ≤ last

/-- Whether a place is the first of a range that touches no other one before it. -/
def beginsRange (places : Places) (place : Nat) : Bool :=
  places.any fun (first, _) => first = place

/-- The places of a list that are taken, as runs of neighbours, with their contents. -/
def takenPlaces (isTaken : Nat → Bool) (parts : List ByteText) : List (Nat × ByteText) :=
  (parts.zipIdx 1).filterMap fun (part, place) => if isTaken place then some (place, part) else none

/-- The parts of a line in bytes. -/
def cutBytes (settings : CutSettings) (places : Places) (line : ByteText) : ByteText :=
  let isTaken (place : Nat) : Bool := inPlaces places place != settings.isComplement
  let chars := takenPlaces isTaken (line.map fun c => [c])
  match settings.between with
  | none => (chars.map Prod.snd).flatten
  | some between =>
    let starts (place : Nat) : Bool :=
      if settings.isComplement then !isTaken (place - 1)
      else !isTaken (place - 1) || (beginsRange places place
        && !(places.any fun (first, last) => first < place && last.all fun last => place ≤ last))
    (chars.foldl
      (fun ((text, isFirst) : List ByteText × Bool) (place, char) =>
        if !isFirst && starts place then (char :: between :: text, false)
        else (char :: text, false))
      ([], true)).1.reverse.flatten

/-- The parts of a line in fields, if the line is shown. -/
def cutFields (settings : CutSettings) (places : Places) (line : ByteText) : Option ByteText :=
  let delimiter := ((settings.delimiter.getD ['\t']).head?).getD '\x00'
  if !line.contains delimiter then
    if settings.skipsOthers then none else some line
  else
    let isTaken (place : Nat) : Bool := inPlaces places place != settings.isComplement
    let fields := takenPlaces isTaken (ByteText.splitAt delimiter line)
    some ((fields.map Prod.snd).intersperse (settings.between.getD [delimiter])).flatten

/-- Cuts out parts of the lines of files. -/
def cut : Tool :=
  Program.withArguments cutRules {} cutOption fun settings operands => do
    match settings.list with
    | none => Program.misuse 1 (ascii "you must specify a list of bytes, characters, or fields")
    | some (unit, text) =>
      if unit ≠ .fields && settings.delimiter.isSome then
        Program.misuse 1
          (ascii "an input delimiter may be specified only when operating on fields")
      else if unit ≠ .fields && settings.skipsOthers then
        Program.misuse 1
          (ascii "suppressing non-delimited lines makes sense\n\tonly when operating on fields")
      else
        match readPlaces unit text with
        | .error fault => Program.misuse 1 fault
        | .ok places =>
          Program.eachText operands fun _ text => do
            let lines := ByteText.linesEndedBy settings.terminator text
            let cut := lines.filterMap fun line =>
              (if unit = .fields then cutFields settings places line.text
                else some (cutBytes settings places line.text)).map (· ++ [settings.terminator])
            Program.out cut.flatten

/-! ## Lines side by side -/

/-- How lines are put side by side. -/
structure PasteSettings where
  delimiters : ByteText := ['\t']
  isSerial : Bool := false
  terminator : Char := '\n'

/-- The options of the program that puts lines side by side. -/
def pasteRules : OptionRules :=
  { forms :=
    [.both 'd' "delimiters" .required, .both 's' "serial", .both 'z' "zero-terminated",
     .word "help", .word "version"] }

/-- Delimiters as they are written, where `none` is an empty one. -/
def readDelimiters : ByteText → List (Option Char)
  | [] => []
  | ['\\'] => [some '\\']
  | '\\' :: c :: rest =>
    (match c with
      | '0' => none
      | 'n' => some '\n'
      | 't' => some '\t'
      | 'b' => some '\x08'
      | 'f' => some '\x0c'
      | 'r' => some '\r'
      | 'v' => some '\x0b'
      | c => some c) :: readDelimiters rest
  | c :: rest => some c :: readDelimiters rest

/-- Settings after an option of the program that puts lines side by side. -/
def pasteOption (settings : PasteSettings) (key : String) (argument : ByteText) :
    Program (Except Nat PasteSettings) :=
  return .ok (match key with
    | "d" => { settings with delimiters := argument }
    | "s" => { settings with isSerial := true }
    | "z" => { settings with terminator := '\x00' }
    | _ => settings)

/-- Texts with delimiters between them, which take turns. -/
def joinWith (delimiters : List (Option Char)) (texts : List ByteText) : ByteText :=
  (texts.zipIdx.map fun (text, place) =>
    if place = 0 then text
    else
      match (delimiters[(place - 1) % max 1 delimiters.length]?).getD none with
      | some c => c :: text
      | none => text).flatten

/-- Puts the lines of some lists side by side.  Each step takes a line of each. -/
def pasteLines (delimiters : List (Option Char)) (terminator : Char) :
    Nat → List (List ByteText) → List ByteText
  | 0, _ => []
  | fuel + 1, lists =>
    if lists.all List.isEmpty then []
    else
      (joinWith delimiters (lists.map fun lines => lines.head?.getD []) ++ [terminator])
        :: pasteLines delimiters terminator fuel (lists.map List.tail)

/-- Deals lines that several operands share out to them, one after the other. -/
def deal (count : Nat) (place : Nat) (lines : List ByteText) : List ByteText :=
  (lines.zipIdx.filter fun (_, index) => index % max 1 count = place).map Prod.fst

/-- Puts the lines of files side by side. -/
def paste : Tool :=
  Program.withArguments pasteRules {} pasteOption fun settings operands => do
    let files := Program.inputsOr operands
    let delimiters := readDelimiters settings.delimiters
    let dashes := (files.filter (· = ['-'])).length
    let input ← if dashes = 0 then pure [] else do
      match ← Program.readInput with
      | .ok text => pure text
      | .error _ => pure []
    let inputLines := (ByteText.linesEndedBy settings.terminator input).map ByteText.Line.text
    let (texts, _, code) ← files.foldlM
      (fun ((texts, seen, code) : List (List ByteText) × Nat × Nat) file => do
        if file = ['-'] then
          let lines :=
            if settings.isSerial then (if seen = 0 then inputLines else [])
            else deal dashes seen inputLines
          return (lines :: texts, seen + 1, code)
        else
          match ← Program.readOperand file with
          | .ok text =>
            return ((ByteText.linesEndedBy settings.terminator text).map ByteText.Line.text :: texts,
              seen, code)
          | .error cause =>
            Program.complainOf file cause
            return (texts, seen, 1)) ([], 0, 0)
    let lists := texts.reverse
    if settings.isSerial then
      lists.forM fun lines =>
        Program.out (joinWith delimiters lines ++ [settings.terminator])
      return code
    else if code != 0 then return code
    else
      let longest := (lists.map List.length).foldl max 0
      Program.out (pasteLines delimiters settings.terminator longest lists).flatten
      return code

/-! ## Folding -/

/-- How lines are folded. -/
structure FoldSettings where
  width : Nat := 80
  countsBytes : Bool := false
  atBlanks : Bool := false

/-- The options of the program that folds lines. -/
def foldRules : OptionRules :=
  { forms :=
    [.both 'b' "bytes", .both 's' "spaces", .both 'w' "width" .required,
     .word "help", .word "version",
     .letter '0' .optional, .letter '1' .optional, .letter '2' .optional, .letter '3' .optional,
     .letter '4' .optional, .letter '5' .optional, .letter '6' .optional, .letter '7' .optional,
     .letter '8' .optional, .letter '9' .optional] }

/-- Settings with a width. -/
def withWidth (settings : FoldSettings) (text : ByteText) : Program (Except Nat FoldSettings) := do
  match ByteText.toNat? text with
  | some (width + 1) => return .ok { settings with width := width + 1 }
  | some 0 =>
    Program.complain (ascii "invalid number of columns: " ++ Program.quoted text
      ++ ascii ": Numerical result out of range")
    return .error 1
  | none =>
    Program.complain (ascii "invalid number of columns: " ++ Program.quoted text)
    return .error 1

/-- Settings after an option of the program that folds lines. -/
def foldOption (settings : FoldSettings) (key : String) (argument : ByteText) :
    Program (Except Nat FoldSettings) := do
  match key with
  | "b" => return .ok { settings with countsBytes := true }
  | "s" => return .ok { settings with atBlanks := true }
  | "w" => withWidth settings argument
  | key =>
    if key.toList.all Char.isDigit then withWidth settings (ascii key ++ argument)
    else return .ok settings

/-- The column after a character. -/
def columnAfter (countsBytes : Bool) (column : Nat) (c : Char) : Nat :=
  if countsBytes then column + 1
  else
    match c with
    | '\x08' => column - 1
    | '\r' => 0
    | '\t' => column + 8 - column % 8
    | _ => column + 1

/-- The column after a text. -/
def columnOf (countsBytes : Bool) (text : ByteText) : Nat :=
  text.foldl (columnAfter countsBytes) 0

/-- The state of folding: what was written, the last piece first, and the piece that was begun, the
last character first, with its column. -/
structure Folding where
  written : List ByteText := []
  piece : ByteText := []
  column : Nat := 0

/-- Takes a character. -/
def Folding.add (settings : FoldSettings) (state : Folding) (c : Char) : Folding :=
  if c = '\n' then ⟨('\n' :: state.piece).reverse :: state.written, [], 0⟩
  else
    let column := columnAfter settings.countsBytes state.column c
    if column ≤ settings.width || state.piece.isEmpty then
      { state with piece := c :: state.piece, column := column }
    else
      let begin (written : List ByteText) (rest : ByteText) : Folding :=
        let column := columnOf settings.countsBytes rest.reverse
        let column := columnAfter settings.countsBytes column c
        ⟨written, c :: rest, column⟩
      let rest := state.piece.takeWhile fun c => c != ' ' && c != '\t'
      if settings.atBlanks && rest.length < state.piece.length then
        begin (((state.piece.drop rest.length).reverse ++ ['\n']) :: state.written) rest
      else begin ((state.piece.reverse ++ ['\n']) :: state.written) []

/-- Folds a text. -/
def foldText (settings : FoldSettings) (text : ByteText) : ByteText :=
  let state := text.foldl (Folding.add settings) {}
  (state.piece.reverse :: state.written).reverse.flatten

/-- Folds the lines of files. -/
def fold : Tool :=
  Program.withArguments foldRules {} foldOption fun settings operands =>
    Program.eachText operands fun _ text => Program.out (foldText settings text)

/-! ## Tabs and blanks -/

/-- Where tabs stop. -/
structure TabStops where
  stops : List Nat := []
  /-- The distance of stops behind the last one, if they go on. -/
  every : Option Nat := some 8

/-- The next stop after a column, if there is one. -/
def TabStops.next? (tabs : TabStops) (column : Nat) : Option Nat :=
  match tabs.stops.find? (column < ·) with
  | some stop => some stop
  | none => tabs.every.map fun step => (column / max 1 step + 1) * max 1 step

/-- How tabs and blanks are changed. -/
structure TabSettings where
  tabs : TabStops := {}
  onlyFirst : Bool := false
  all : Bool := false

/-- Reads stops of tabs. -/
def readStops (text : ByteText) : Except ByteText TabStops :=
  let pieces := (ByteText.splitAt ',' (text.map fun c => if c = ' ' then ',' else c)).filter
    fun piece => !piece.isEmpty
  match pieces.find? fun piece => (ByteText.toNat? piece).isNone with
  | some piece =>
    .error (ascii "tab size contains invalid character(s): "
      ++ Quoting.inQuotes (piece.dropWhile Char.isDigit))
  | none =>
    match pieces.filterMap ByteText.toNat? with
    | [] => .ok {}
    | [0] => .error (ascii "tab size cannot be 0")
    | [step] => .ok ⟨[], some step⟩
    | stops =>
      if stops.contains 0 then .error (ascii "tab size cannot be 0")
      else if (stops.zip (stops.drop 1)).any fun (a, b) => b ≤ a then
        .error (ascii "tab sizes must be ascending")
      else .ok ⟨stops, none⟩

/-- The options of the program that turns tabs into blanks. -/
def expandRules : OptionRules :=
  { forms :=
    [.both 'i' "initial", .both 't' "tabs" .required, .word "help", .word "version",
     .letter '0' .optional, .letter '1' .optional, .letter '2' .optional, .letter '3' .optional,
     .letter '4' .optional, .letter '5' .optional, .letter '6' .optional, .letter '7' .optional,
     .letter '8' .optional, .letter '9' .optional] }

/-- The options of the program that turns blanks into tabs. -/
def unexpandRules : OptionRules :=
  { forms :=
    [.both 'a' "all", .word "first-only", .both 't' "tabs" .required, .word "help",
     .word "version",
     .letter '0' .optional, .letter '1' .optional, .letter '2' .optional, .letter '3' .optional,
     .letter '4' .optional, .letter '5' .optional, .letter '6' .optional, .letter '7' .optional,
     .letter '8' .optional, .letter '9' .optional] }

/-- Settings after an option of the programs that change tabs and blanks. -/
def tabOption (settings : TabSettings) (key : String) (argument : ByteText) :
    Program (Except Nat TabSettings) := do
  let withStops (text : ByteText) (all : Bool) : Program (Except Nat TabSettings) := do
    match readStops text with
    | .ok tabs => return .ok { settings with tabs := tabs, all := all }
    | .error fault =>
      Program.complain fault
      return .error 1
  match key with
  | "i" => return .ok { settings with onlyFirst := true }
  | "a" => return .ok { settings with all := true }
  | "first-only" => return .ok { settings with onlyFirst := true }
  | "t" => withStops argument true
  | key =>
    if key.toList.all Char.isDigit then withStops (ascii key ++ argument) settings.all
    else return .ok settings

/-- The state of going through columns: what was written, the last piece first, the column, and
whether only blanks came before. -/
structure Ruler where
  written : List ByteText := []
  column : Nat := 0
  isAtStart : Bool := true
  /-- The columns of blanks that were not written yet: where they begin. -/
  pending : Option Nat := none
  /-- The blanks that were not written yet, the last one first. -/
  blanks : ByteText := []

/-- Turns a tab into blanks. -/
def expandChar (settings : TabSettings) (state : Ruler) (c : Char) : Ruler :=
  let isOn := state.isAtStart || !settings.onlyFirst
  match c with
  | '\n' => { written := ['\n'] :: state.written }
  | '\t' =>
    if isOn then
      let next := (settings.tabs.next? state.column).getD (state.column + 1)
      { state with
        written := List.replicate (next - state.column) ' ' :: state.written, column := next }
    else { state with written := [c] :: state.written }
  | '\x08' =>
    { state with
      written := [c] :: state.written, column := state.column - 1, isAtStart := false }
  | c =>
    { state with
      written := [c] :: state.written, column := state.column + 1
      isAtStart := state.isAtStart && c = ' ' }

/-- Turns the tabs of files into blanks. -/
def expand : Tool :=
  Program.withArguments expandRules {} tabOption fun settings operands => do
    let (text, code) ← Program.allText operands
    Program.out ((text.foldl (expandChar settings) {}).written.reverse.flatten)
    return code

/-- Writes blanks up to a column, as tabs where they reach a stop.  A single blank before a stop
stays one.  Each step writes a tab. -/
def tabsTo (tabs : TabStops) (column : Nat) : Nat → Nat → ByteText → ByteText
  | 0, _, written => written
  | fuel + 1, start, written =>
    match tabs.next? start with
    | some stop =>
      if stop ≤ column then
        tabsTo tabs column fuel stop
          ((if stop = start + 1 && stop = column && written.isEmpty then ' ' else '\t') :: written)
      else List.replicate (column - start) ' ' ++ written
    | none => List.replicate (column - start) ' ' ++ written

/-- Writes the blanks that were held back. -/
def releaseBlanks (settings : TabSettings) (state : Ruler) : Ruler :=
  match state.pending with
  | none => state
  | some start =>
    let text :=
      if state.blanks = [' '] && state.column = start + 1 then [' ']
      else (tabsTo settings.tabs state.column (state.column + 1) start []).reverse
    { state with written := text :: state.written, pending := none, blanks := [] }

/-- Turns blanks into tabs. -/
def unexpandChar (settings : TabSettings) (state : Ruler) (c : Char) : Ruler :=
  let isOn := state.isAtStart || (settings.all && !settings.onlyFirst)
  match c with
  | '\n' => { written := ['\n'] :: (releaseBlanks settings state).written }
  | ' ' =>
    if isOn then
      { state with
        pending := some (state.pending.getD state.column), blanks := ' ' :: state.blanks
        column := state.column + 1 }
    else { state with written := [c] :: state.written, column := state.column + 1 }
  | '\t' =>
    if isOn then
      match settings.tabs.next? state.column with
      | some next =>
        { state with
          pending := some (state.pending.getD state.column), blanks := '\t' :: state.blanks
          column := next }
      | none =>
        let state := releaseBlanks settings state
        { state with written := [c] :: state.written, isAtStart := false }
    else
      { state with
        written := [c] :: state.written
        column := (settings.tabs.next? state.column).getD (state.column + 1) }
  | c =>
    let state := releaseBlanks settings state
    { state with written := [c] :: state.written, column := state.column + 1, isAtStart := false }

/-- Turns the blanks of files into tabs. -/
def unexpand : Tool :=
  Program.withArguments unexpandRules {} tabOption fun settings operands => do
    let (text, code) ← Program.allText operands
    let state := releaseBlanks settings (text.foldl (unexpandChar settings) {})
    Program.out state.written.reverse.flatten
    return code

end Tool

end SchemaDocs.Shell
