import SchemaDocs.Shell.Process
import SchemaDocs.Shell.NumberText
import SchemaDocs.Shell.Regex.Read
import SchemaDocs.Shell.Tool.Basic
/-!
# Cutting files into pieces

A file is cut into pieces of some length, or into some number of pieces, each of which goes into a
file of its own with a name that counts on.
-/

namespace SchemaDocs.Shell

namespace Tool

/-- How a file is cut. -/
inductive PieceKind where
  | lines (count : Nat)
  | bytes (size : Nat)
  /-- As many lines as there is room for. -/
  | filled (size : Nat)
  /-- Some number of pieces of the same length, perhaps only one of them. -/
  | chunks (count : Nat) (only : Option Nat)
  /-- Some number of pieces of whole lines. -/
  | lineChunks (count : Nat) (only : Option Nat)
  /-- Some number of pieces, to which lines are dealt in turn. -/
  | dealt (count : Nat) (only : Option Nat)

/-- How the pieces of a file are cut and named. -/
structure PieceSettings where
  kind : Option PieceKind := none
  letters : ByteText := ascii "abcdefghijklmnopqrstuvwxyz"
  start : ByteText := []
  width : Nat := 0
  ending : ByteText := []
  separator : Char := '\n'
  filter : Option ByteText := none
  leavesOutEmpty : Bool := false
  isVerbose : Bool := false
  /-- Digits that were given as options of their own. -/
  digits : ByteText := []

/-- The options of the program that cuts files into pieces. -/
def splitRules : OptionRules :=
  { forms :=
    [.both 'a' "suffix-length" .required, .word "additional-suffix" .required,
     .both 'b' "bytes" .required, .both 'C' "line-bytes" .required, .letter 'd',
     .word "numeric-suffixes" .optional, .letter 'x', .word "hex-suffixes" .optional,
     .both 'e' "elide-empty-files", .word "filter" .required, .both 'l' "lines" .required,
     .both 'n' "number" .required, .both 't' "separator" .required, .both 'u' "unbuffered",
     .word "verbose", .word "help", .word "version",
     .letter '0', .letter '1', .letter '2', .letter '3', .letter '4', .letter '5', .letter '6',
     .letter '7', .letter '8', .letter '9'] }

/-- Reads the number of pieces that an argument asks for. -/
def readChunks (argument : ByteText) : Except ByteText PieceKind :=
  let (make, text) : (Nat → Option Nat → PieceKind) × ByteText :=
    match argument with
    | 'l' :: '/' :: rest => (.lineChunks, rest)
    | 'r' :: '/' :: rest => (.dealt, rest)
    | text => (.chunks, text)
  let invalid (text : ByteText) : Except ByteText PieceKind :=
    .error (ascii "invalid number of chunks: " ++ Quoting.inQuotes text)
  let first := text.takeWhile (· != '/')
  match text.drop first.length with
  | _ :: second =>
    match ByteText.toNat? second with
    | some (count + 1) =>
      match ByteText.toNat? first with
      | some (only + 1) =>
        if only ≤ count then .ok (make (count + 1) (some (only + 1)))
        else .error (ascii "invalid chunk number: " ++ Quoting.inQuotes first)
      | _ => .error (ascii "invalid chunk number: " ++ Quoting.inQuotes first)
    | _ => invalid second
  | [] =>
    match ByteText.toNat? first with
    | some (count + 1) => .ok (make (count + 1) none)
    | _ => invalid first

/-- Settings after an option of the program that cuts files into pieces. -/
def splitOption (settings : PieceSettings) (key : String) (argument : ByteText) :
    Program (Except Nat PieceSettings) := do
  let put (settings : PieceSettings) : Program (Except Nat PieceSettings) := return .ok settings
  let fail (text : ByteText) : Program (Except Nat PieceSettings) := do
    return .error (← Program.die 1 text)
  let cut (kind : PieceKind) : Program (Except Nat PieceSettings) := do
    if settings.kind.isSome || !settings.digits.isEmpty then
      return .error (← Program.misuse 1 (ascii "cannot split in more than one way"))
    else return .ok { settings with kind := some kind }
  let amount (noun : String) (make : Nat → PieceKind) : Program (Except Nat PieceSettings) := do
    match Units.number? argument with
    | some (n + 1) => cut (make (n + 1))
    | _ => fail (ascii ("invalid number of " ++ noun ++ ": ") ++ Program.quoted argument)
  let counted (letters : String) (text : ByteText) : Program (Except Nat PieceSettings) := do
    let letters := ascii letters
    if text.all letters.contains then
      let start := text.dropWhile (· = '0')
      put { settings with
        letters := letters, start := if text.isEmpty then [] else if start.isEmpty then ['0'] else start }
    else fail (Program.quoted text ++ ascii ": invalid start value for numerical suffix")
  match key with
  | "a" =>
    match ByteText.toNat? argument with
    | some width => put { settings with width := width }
    | none => fail (ascii "invalid suffix length: " ++ Program.quoted argument)
  | "additional-suffix" =>
    if argument.contains '/' then
      return .error (← Program.misuse 1 (ascii "invalid suffix " ++ Program.quoted argument
        ++ ascii ", contains directory separator"))
    else put { settings with ending := argument }
  | "b" => amount "bytes" .bytes
  | "C" => amount "bytes" .filled
  | "l" => amount "lines" .lines
  | "d" => counted "0123456789" []
  | "numeric-suffixes" => counted "0123456789" argument
  | "x" => counted "0123456789abcdef" []
  | "hex-suffixes" => counted "0123456789abcdef" argument
  | "e" => put { settings with leavesOutEmpty := true }
  | "filter" => put { settings with filter := some argument }
  | "n" =>
    match readChunks argument with
    | .ok kind => cut kind
    | .error text => fail text
  | "t" =>
    match argument with
    | [c] => put { settings with separator := c }
    | [] => fail (ascii "empty record separator")
    | ['\\', '0'] => put { settings with separator := '\x00' }
    | _ => fail (ascii "multi-character separator " ++ Program.quoted argument)
  | "verbose" => put { settings with isVerbose := true }
  | _ =>
    match key.toList with
    | [c] => if c.isDigit then put { settings with digits := settings.digits ++ [c] } else put settings
    | _ => put settings

/-! ## Names -/

/-- The name of a piece: what stands before its letters, and the places of the letters in their
order. -/
structure PieceName where
  before : ByteText
  places : List Nat

/-- The places of letters one further on, and whether that went over the last one. -/
def countOn (letters : Nat) : List Nat → List Nat × Bool
  | [] => ([], true)
  | place :: rest =>
    let (rest, isOver) := countOn letters rest
    if !isOver then (place :: rest, false)
    else if place + 1 < letters then ((place + 1) :: rest, false)
    else (0 :: rest, true)

/-- The name after another one, unless there is none.  Names may grow before the last letter stands
first. -/
def PieceName.next? (letters : ByteText) (grows : Bool) (name : PieceName) : Option PieceName :=
  let (places, isOver) := countOn letters.length name.places
  if isOver then none
  else if grows && places.head? = some (letters.length - 1) then
    some ⟨name.before ++ [letters.getLastD 'z'], List.replicate (places.length + 1) 0⟩
  else some { name with places := places }

/-- A name as it is written. -/
def PieceName.written (letters : ByteText) (name : PieceName) : ByteText :=
  name.before ++ name.places.filterMap fun place => letters[place]?

/-- The number of pieces, where it is known. -/
def pieceCount? : PieceKind → Option Nat
  | .chunks count _ => some count
  | .lineChunks count _ => some count
  | .dealt count _ => some count
  | _ => none

/-- The first name, and whether names may grow, or what is wrong with the width that is asked for. -/
def firstName (settings : PieceSettings) (kind : PieceKind) (before : ByteText) :
    Except ByteText (PieceName × Bool) :=
  let base := settings.letters.length
  let start := (ByteText.toNat? settings.start).getD 0
  let needed :=
    match pieceCount? kind with
    | some count =>
      let last := count - 1 + (if start < count then start else 0)
      (ByteText.digitsIn base last).length
    | none => 0
  let grows := settings.start.isEmpty && (pieceCount? kind).isNone && settings.width = 0
  let width := if settings.width = 0 then max 2 needed else settings.width
  if settings.width != 0 && settings.width < needed then
    .error (ascii "the suffix length needs to be at least " ++ ByteText.ofNat needed)
  else if width < settings.start.length then
    .error (ascii "numerical suffix start value is too large for the suffix length")
  else
    let digits := settings.start.map fun c => (settings.letters.idxOf? c).getD 0
    .ok (⟨before, List.replicate (width - digits.length) 0 ++ digits⟩, grows)

/-! ## Pieces -/

/-- A text in groups of so many lines. -/
def lineGroups (separator : Char) (count : Nat) (text : ByteText) : List ByteText :=
  let written (line : ByteText.Line) : ByteText :=
    if line.isEnded then line.text ++ [separator] else line.text
  let rec group : Nat → List ByteText → List ByteText
    | 0, _ => []
    | fuel + 1, lines =>
      if lines.isEmpty then []
      else (lines.take count).flatten :: group fuel (lines.drop count)
  let lines := (ByteText.linesEndedBy separator text).map written
  group (lines.length + 1) lines

/-- A text in pieces of some length.  Each step takes a piece. -/
def byteGroups (size : Nat) : Nat → ByteText → List ByteText
  | 0, _ => []
  | fuel + 1, text =>
    if text.isEmpty then [] else text.take size :: byteGroups size fuel (text.drop size)

/-- Lines put together to pieces that are not longer than a bound.  A longer line is cut.  Each step
takes a line or a part of it. -/
def filledGroups (size : Nat) : Nat → ByteText → List ByteText → List ByteText
  | 0, piece, _ => [piece]
  | _ + 1, piece, [] => if piece.isEmpty then [] else [piece]
  | fuel + 1, piece, line :: rest =>
    if piece.length + line.length ≤ size then filledGroups size fuel (piece ++ line) rest
    else if piece.isEmpty then line.take size :: filledGroups size fuel [] (line.drop size :: rest)
    else piece :: filledGroups size fuel [] (line :: rest)

/-- The sizes of so many chunks of a text, of which the first may be longer by one. -/
def chunkSizes (length count : Nat) : List Nat :=
  (List.range count).map fun place => length / count + (if place < length % count then 1 else 0)

/-- A text cut into pieces of some lengths. -/
def cutBy : List Nat → ByteText → List ByteText
  | [], _ => []
  | size :: sizes, text => text.take size :: cutBy sizes (text.drop size)

/-- Chunks of whole lines, where a line belongs to the chunk that it begins in: how many bytes are
behind, where the next chunk ends, and the sizes of those after it.  Each step takes a line. -/
def lineChunksFrom (separator : Char) : List ByteText → Nat → Nat → List Nat → ByteText →
    List ByteText
  | [], _, _, sizes, piece => piece :: sizes.map fun _ => []
  | line :: lines, behind, stop, sizes, piece =>
    let behind := behind + line.length
    let piece := piece ++ line
    if behind < stop then lineChunksFrom separator lines behind stop sizes piece
    else
      let rec pass : List Nat → Nat → List ByteText × Nat × List Nat
        | [], stop => ([], stop, [])
        | size :: sizes, stop =>
          if behind < stop + size then ([], stop + size, sizes)
          else
            let (empty, stop, sizes) := pass sizes (stop + size)
            ([] :: empty, stop, sizes)
      let (empty, next, rest) := pass sizes stop
      if sizes.isEmpty || next ≤ behind then piece :: empty
      else piece :: (empty ++ lineChunksFrom separator lines behind next rest [])

/-- The pieces of a text. -/
def piecesOfText (separator : Char) (kind : PieceKind) (text : ByteText) : List ByteText :=
  match kind with
  | .lines count => lineGroups separator count text
  | .bytes size => byteGroups size (text.length + 1) text
  | .filled size =>
    let lines := lineGroups separator 1 text
    filledGroups size (2 * text.length + lines.length + 2) [] lines
  | .chunks count _ => cutBy (chunkSizes text.length count) text
  | .lineChunks count _ =>
    match chunkSizes text.length count with
    | [] => []
    | size :: sizes => lineChunksFrom separator (lineGroups separator 1 text) 0 size sizes []
  | .dealt count _ =>
    let lines := (lineGroups separator 1 text).zipIdx
    (List.range count).map fun place =>
      ((lines.filter fun (_, index) => index % count = place).map Prod.fst).flatten

/-- The only piece that is wanted, if there is one. -/
def onlyPiece? : PieceKind → Option Nat
  | .chunks _ only => only
  | .lineChunks _ only => only
  | .dealt _ only => only
  | _ => none

/-! ## Writing -/

/-- Hands a piece to a command that a shell runs, which finds the name of the file in a variable. -/
def filterPiece (launcher : Launcher) (command name piece : ByteText) : Program Unit := do
  let source ← System.add (.source piece .ended 0)
  let change (process : Process) : Process :=
    { process with
      descriptors := (0, source) :: process.descriptors.filter (fun entry => entry.1 != 0)
      environment := process.environment.filter (fun entry => entry.1 != ascii "FILE")
        ++ [(ascii "FILE", name)] }
  let _ ← withReader change (Program.start launcher (ascii "sh") [ascii "-c", command])

/-- Writes a piece into a file. -/
def writePiece (launcher : Launcher) (settings : PieceSettings) (name piece : ByteText) :
    Program Bool := do
  match settings.filter with
  | some command =>
    if settings.isVerbose then
      Program.outLine (ascii "executing with FILE=" ++ Quoting.whereNeeded name)
    filterPiece launcher command name piece
    return true
  | none =>
    if settings.isVerbose then Program.outLine (ascii "creating file " ++ Program.quoted name)
    match ← Program.openOutput name false with
    | .error cause =>
      Program.complain (Quoting.whereNeeded name ++ ascii (": " ++ cause.reason))
      return false
    | .ok channel =>
      Program.noteFault (← System.write channel piece)
      return true

/-- Writes pieces into files with names that count on. -/
def writePieces (launcher : Launcher) (settings : PieceSettings) (grows : Bool) :
    Option PieceName → List ByteText → Program Nat
  | _, [] => return 0
  | none, _ :: _ => Program.die 1 (ascii "output file suffixes exhausted")
  | some name, piece :: pieces => do
    let path := name.written settings.letters ++ settings.ending
    if ← writePiece launcher settings path piece then
      writePieces launcher settings grows (name.next? settings.letters grows) pieces
    else return 1

/-- Cuts a file into pieces. -/
def split (launcher : Launcher) : Tool :=
  Program.withArguments splitRules {} splitOption fun settings operands => do
    let number := ByteText.toNat? settings.digits
    let kind := (number.map PieceKind.lines).or settings.kind
    let kind := kind.getD (.lines 1000)
    match operands with
    | _ :: _ :: extra :: _ => Program.extraOperand extra
    | operands =>
      if number = some 0 then
        Program.die 1 (ascii "invalid number of lines: " ++ Program.quoted settings.digits)
      else if settings.filter.isSome && (onlyPiece? kind).isSome then
        Program.misuse 1 (ascii "--filter does not process a chunk extracted to stdout")
      else
        let input := operands.head?.getD ['-']
        let before := (operands.drop 1).head?.getD ['x']
        match firstName settings kind before with
        | .error text => Program.die 1 text
        | .ok (name, grows) =>
          match ← Program.readOperand input with
          | .error cause =>
            if cause = .isADirectory then
              Program.complainOf input cause
              return 1
            else
              Program.die 1 (ascii "cannot open " ++ Program.quoted input
                ++ ascii (" for reading: " ++ cause.reason))
          | .ok text =>
            let pieces := piecesOfText settings.separator kind text
            match onlyPiece? kind with
            | some only =>
              Program.out (pieces.getD (only - 1) [])
              return 0
            | none =>
              let pieces :=
                if settings.leavesOutEmpty then pieces.filter fun piece => !piece.isEmpty
                else pieces
              writePieces launcher settings grows (some name) pieces

end Tool

end SchemaDocs.Shell

/-!
## Cutting a file at lines

A file is cut where patterns say: before a line with some number, or before a line that matches.
Each section goes into a file of its own, and its length is shown.
-/

namespace SchemaDocs.Shell

namespace Tool

/-- Where a section ends. -/
inductive SectionEnd where
  /-- Before the line with a number, or with a multiple of it. -/
  | line (number : Nat)
  /-- Some lines from the next one that matches.  The lines before may be left out. -/
  | matching (pattern : Pattern) (offset : Int) (isLeftOut : Bool)

/-- A pattern, as it is written and as it is understood, and how often it is used again. -/
structure SectionRule where
  text : ByteText
  place : SectionEnd
  again : Nat := 0
  isForever : Bool := false

/-- How sections are written. -/
structure SectionSettings where
  before : ByteText := ascii "xx"
  format : Option ByteText := none
  digits : Nat := 2
  keeps : Bool := false
  isSilent : Bool := false
  leavesOutEmpty : Bool := false
  leavesOutMatched : Bool := false

/-- The options of the program that cuts at lines. -/
def csplitRules : OptionRules :=
  { forms :=
    [.both 'b' "suffix-format" .required, .both 'f' "prefix" .required, .both 'k' "keep-files",
     .both 'n' "digits" .required, .both 'q' "quiet", .both 's' "silent",
     .both 'z' "elide-empty-files", .word "suppress-matched", .word "help", .word "version"] }

/-- The directive of a format for numbers, with the text before and after it, or what is wrong with
it. -/
def readNumberFormat (format : ByteText) : Except ByteText (ByteText × Directive × ByteText) :=
  let before := format.takeWhile (· != '%')
  match format.drop before.length with
  | [] => .error (ascii "missing % conversion specification in suffix")
  | _ :: rest =>
    let flags := rest.takeWhile (ascii "-+ #0'").contains
    let rest := rest.drop flags.length
    let width := rest.takeWhile Char.isDigit
    let rest := rest.drop width.length
    let (precision, rest) :=
      match rest with
      | '.' :: more =>
        let digits := more.takeWhile Char.isDigit
        (some (ByteText.valueIn 10 digits), more.drop digits.length)
      | rest => (none, rest)
    match rest with
    | [] => .error (ascii "missing conversion specifier in suffix")
    | c :: after =>
      if !(ascii "diuoxX").contains c then
        .error (ascii "invalid conversion specifier in suffix: " ++ [c])
      else if after.contains '%' then
        .error (ascii "too many % conversion specifications in suffix")
      else
        .ok (before,
          { flags := flags, width := ByteText.valueIn 10 width, precision := precision
            conversion := c }, after)

/-- Settings after an option of the program that cuts at lines. -/
def csplitOption (settings : SectionSettings) (key : String) (argument : ByteText) :
    Program (Except Nat SectionSettings) := do
  match key with
  | "b" => return .ok { settings with format := some argument }
  | "f" => return .ok { settings with before := argument }
  | "k" => return .ok { settings with keeps := true }
  | "n" =>
    match ByteText.toNat? argument with
    | some digits => return .ok { settings with digits := digits }
    | none =>
      return .error (← Program.die 1 (ascii "invalid number: " ++ Program.quoted argument))
  | "q" => return .ok { settings with isSilent := true }
  | "s" => return .ok { settings with isSilent := true }
  | "z" => return .ok { settings with leavesOutEmpty := true }
  | "suppress-matched" => return .ok { settings with leavesOutMatched := true }
  | _ => return .ok settings

/-- The name of the section with a number. -/
def sectionName (settings : SectionSettings) (number : Nat) : ByteText :=
  settings.before ++ (match settings.format with
    | some format =>
      match readNumberFormat format with
      | .ok (before, directive, after) =>
        let shown :=
          if directive.conversion = 'd' || directive.conversion = 'i' then
            directive.writeSigned number
          else directive.writeUnsigned number
        before ++ shown ++ after
      | .error _ => []
    | none =>
      let digits := ByteText.ofNat number
      List.replicate (settings.digits - digits.length) '0' ++ digits)

/-! ### Reading patterns -/

/-- A whole number with a sign. -/
def readOffset? (text : ByteText) : Option Int :=
  match text with
  | [] => some 0
  | '+' :: digits => (ByteText.toNat? digits).map fun n => (n : Int)
  | '-' :: digits => (ByteText.toNat? digits).map fun n => -(n : Int)
  | digits => (ByteText.toNat? digits).map fun n => (n : Int)

/-- The place that a pattern stands for, or what is wrong with it. -/
def readSectionEnd (text : ByteText) : Except ByteText SectionEnd :=
  let delimited (mark : Char) (rest : ByteText) : Except ByteText SectionEnd :=
    if !rest.contains mark then
      .error (text ++ ascii ": closing delimiter '" ++ [mark] ++ ascii "' missing")
    else
      let behind := (rest.reverse.takeWhile (· != mark)).reverse
      let inner := rest.take (rest.length - behind.length - 1)
      match Pattern.read { isExtended := false } inner with
      | .error cause =>
        .error (Quoting.inQuotes text ++ ascii ": invalid regular expression: "
          ++ ascii cause.message)
      | .ok pattern =>
        match readOffset? behind with
        | some offset => .ok (.matching pattern offset (mark = '%'))
        | none => .error (Quoting.inQuotes text ++ ascii ": integer expected after delimiter")
  match text with
  | '/' :: rest => delimited '/' rest
  | '%' :: rest => delimited '%' rest
  | digits =>
    match ByteText.toNat? digits with
    | some 0 => .error (digits ++ ascii ": line number must be greater than zero")
    | some n => .ok (.line n)
    | none => .error (Quoting.inQuotes digits ++ ascii ": invalid pattern")

/-- How often a pattern is used again, if a word says so: some times or for ever. -/
def readAgain? (word : ByteText) : Option (Except ByteText (Option Nat)) :=
  match word with
  | '\x7b' :: rest =>
    if rest.getLast? != some '\x7d' then
      some (.error (word ++ ascii ": '\x7d' is required in repeat count"))
    else if rest = ascii "*\x7d" then some (.ok none)
    else
      match ByteText.toNat? rest.dropLast with
      | some n => some (.ok (some n))
      | none =>
        some (.error (Quoting.inQuotes word.dropLast ++ ascii "\x7d: integer required between '\x7b' and '\x7d'"))
  | _ => none

/-- Reads patterns after the last one of them, which may be used again. -/
def readSectionRulesAfter : Option SectionRule → List ByteText → Except ByteText (List SectionRule)
  | last, [] => .ok last.toList
  | last, word :: rest =>
    match last, readAgain? word with
    | some _, some (.error text) => .error text
    | some rule, some (.ok again) => do
      let rules ← readSectionRulesAfter none rest
      .ok ({ rule with again := again.getD 0, isForever := again.isNone } :: rules)
    | last, _ => do
      let place ← readSectionEnd word
      let rules ← readSectionRulesAfter (some { text := word, place := place }) rest
      .ok (last.toList ++ rules)

/-- Reads patterns. -/
def readSectionRules (words : List ByteText) : Except ByteText (List SectionRule) :=
  readSectionRulesAfter none words

/-- What is wrong with the order of line numbers, and which of them are the same as the one before. -/
def checkLineOrder : Nat → List SectionRule → Except ByteText (List ByteText)
  | _, [] => .ok []
  | last, rule :: rules =>
    match rule.place with
    | .line number => do
      if number < last then
        .error (ascii "line number " ++ Quoting.inQuotes rule.text
          ++ ascii " is smaller than preceding line number, " ++ ByteText.ofNat last)
      else
        let warnings ← checkLineOrder number rules
        .ok (if number = last then
          (ascii "warning: line number " ++ Quoting.inQuotes rule.text
            ++ ascii " is the same as preceding line number") :: warnings
        else warnings)
    | .matching .. => checkLineOrder last rules

/-! ### Sections -/

/-- How far a file was cut: the lines that are left, how many are behind, the line that was looked at
last, the number of sections, those that were written, and the section that is open. -/
structure SectionState where
  rest : List ByteText
  behind : Nat := 0
  looked : Nat := 0
  count : Nat := 0
  written : List ByteText := []
  open? : Option ByteText := none

/-- What ends the cutting: a fault, or a pattern that is used for ever. -/
inductive CuttingStop where
  | fault (text : ByteText)
  | finished

/-- A step of cutting a file. -/
abbrev CuttingStep := ExceptT CuttingStop (StateT SectionState Program)

/-- Takes some lines, as many as there are. -/
def takeLines (count : Nat) : CuttingStep (List ByteText) := do
  let state ← get
  let lines := state.rest.take count
  set { state with rest := state.rest.drop count, behind := state.behind + lines.length }
  return lines

/-- Opens a section. -/
def openSection : CuttingStep Unit := modify fun state => { state with open? := some [] }

/-- Writes lines to the section that is open. -/
def saveLines (lines : List ByteText) : CuttingStep Unit :=
  modify fun state => { state with open? := state.open?.map (· ++ lines.flatten) }

/-- Closes the section that is open, and shows its length. -/
def closeSection (settings : SectionSettings) (state : SectionState) : Program SectionState := do
  match state.open? with
  | none => return state
  | some text =>
    if text.isEmpty && settings.leavesOutEmpty then return { state with open? := none }
    else
      let name := sectionName settings state.count
      match ← Program.openOutput name false with
      | .ok channel => Program.noteFault (← System.write channel text)
      | .error cause => Program.complainOf name cause
      if !settings.isSilent then Program.outLine (ByteText.ofNat text.length)
      return { state with open? := none, count := state.count + 1, written := name :: state.written }

/-- How often a pattern was used again, as it stands in messages. -/
def onRepetition (count : Nat) : ByteText :=
  if count = 0 then [] else ascii " on repetition " ++ ByteText.ofNat count

/-- Cuts before a line with a number. -/
def cutAtLine (settings : SectionSettings) (rule : SectionRule) (number round : Nat) :
    CuttingStep Unit := do
  let fail : CuttingStep Unit :=
    throw (.fault (Quoting.inQuotes rule.text ++ ascii ": line number out of range"
      ++ onRepetition round))
  openSection
  let state ← get
  if state.rest.isEmpty && settings.leavesOutMatched then fail
  else
    let wanted := number * (round + 1) - (state.behind + 1)
    let lines ← takeLines wanted
    saveLines lines
    modify fun state => { state with looked := max state.looked state.behind }
    if lines.length < wanted then fail
    else
      let closed ← liftM (closeSection settings (← get))
      set closed
      if settings.leavesOutMatched then
        let _ ← takeLines 1
      else if closed.rest.isEmpty then fail

/-- Cuts at the next line that matches. -/
def cutAtMatch (settings : SectionSettings) (rule : SectionRule) (pattern : Pattern)
    (offset : Int) (isLeftOut : Bool) (round : Nat) : CuttingStep Unit := do
  let fail (text : String) : CuttingStep Unit :=
    throw (.fault (Quoting.inQuotes rule.text ++ ascii text))
  if !isLeftOut then openSection
  let state ← get
  let ahead := state.rest.drop (state.looked - state.behind)
  let found := ahead.findIdx? fun line =>
    let text := if line.getLast? = some '\n' then line.dropLast else line
    pattern.occursIn { chars := text.toArray }
  match found with
  | none =>
    saveLines (← takeLines state.rest.length)
    if rule.isForever then
      set (← liftM (closeSection settings (← get)))
      throw .finished
    else
      throw (.fault (Quoting.inQuotes rule.text ++ ascii ": match not found"
        ++ onRepetition round))
  | some index =>
    let line := max state.looked state.behind + index + 1
    let stop := (line : Int) + offset
    if stop < state.behind + 1 then fail ": line number out of range"
    else
      let wanted := (stop - (state.behind + 1)).toNat
      let lines ← takeLines wanted
      saveLines lines
      if lines.length < wanted then fail ": line number out of range"
      else
        set (← liftM (closeSection settings (← get)))
        modify fun state => { state with looked := if 0 < offset then stop.toNat else line }
        if settings.leavesOutMatched then
          let _ ← takeLines 1

/-- Cuts as a pattern says, some times or for ever.  Each step cuts once. -/
def cutAgain (settings : SectionSettings) (rule : SectionRule) : Nat → Nat → CuttingStep Unit
  | 0, _ => pure ()
  | fuel + 1, round => do
    match rule.place with
    | .line number => cutAtLine settings rule number round
    | .matching pattern offset isLeftOut =>
      cutAtMatch settings rule pattern offset isLeftOut round
    cutAgain settings rule fuel (round + 1)

/-- Cuts a file as patterns say. -/
def cutSections (settings : SectionSettings) (rules : List SectionRule) : CuttingStep Unit := do
  rules.forM fun rule => do
    let state ← get
    let rounds := if rule.isForever then state.rest.length + 2 else rule.again + 1
    cutAgain settings rule rounds 0
  openSection
  let state ← get
  saveLines (← takeLines state.rest.length)
  set (← liftM (closeSection settings (← get)))

/-- Cuts a text into sections. -/
def cutText (settings : SectionSettings) (rules : List SectionRule) (text : ByteText) :
    Program Nat := do
  let lines := (ByteText.lines text).map fun line => line.written
  match ← ((cutSections settings rules).run).run { rest := lines } with
  | (.error (.fault text), state) =>
    Program.complain text
    let state ← closeSection settings state
    if !settings.keeps then
      Program.each state.written fun name => do
        match ← Program.placeAt true name with
        | some place => System.changeTree fun tree => tree.remove place.steps
        | none => pure ()
    return 1
  | _ => return 0

/-- Cuts a file at lines. -/
def csplit : Tool :=
  Program.withArguments csplitRules {} csplitOption fun settings operands => do
    match operands with
    | [] => Program.missingOperand
    | [only] => Program.misuse 1 (ascii "missing operand after " ++ Program.quoted only)
    | file :: patterns =>
      let format := settings.format.map readNumberFormat
      match format with
      | some (.error text) => Program.die 1 text
      | _ =>
        match readSectionRules patterns with
        | .error text => Program.die 1 text
        | .ok rules =>
          match checkLineOrder 0 rules with
          | .error text => Program.die 1 text
          | .ok warnings =>
            Program.each warnings Program.complain
            match ← Program.readOperand file with
            | .error cause =>
              Program.die 1 (ascii "cannot open " ++ Program.quoted file
                ++ ascii (" for reading: " ++ cause.reason))
            | .ok text =>
              if text.isEmpty && (rules.head?.any fun rule => match rule.place with
                  | .line _ => true
                  | _ => false) then
                Program.die 1 (ascii "input disappeared")
              else cutText settings rules text

end Tool

end SchemaDocs.Shell
