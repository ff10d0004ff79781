import SchemaDocs.Shell.Tool.Basic
/-!
# Programs that copy text

Text goes on as it is, or turned around.

## Copies

Putting files one after the other, with lines numbered and marks shown.
-/

namespace SchemaDocs.Shell

namespace Tool

/-- What is shown of a text. -/
structure CatSettings where
  numbersLines : Bool := false
  numbersFilled : Bool := false
  showsEnds : Bool := false
  showsTabs : Bool := false
  showsMarks : Bool := false
  squeezes : Bool := false

/-- The options of the program that puts files one after the other. -/
def catRules : OptionRules :=
  { forms :=
    [.both 'b' "number-nonblank", .both 'n' "number", .both 's' "squeeze-blank",
     .both 'v' "show-nonprinting", .both 'E' "show-ends", .both 'T' "show-tabs",
     .both 'A' "show-all", .letter 'e', .letter 't', .letter 'u',
     .word "help", .word "version"] }

/-- Settings after an option. -/
def catOption (settings : CatSettings) (key : String) (_ : ByteText) :
    Program (Except Nat CatSettings) :=
  return .ok (match key with
    | "b" => { settings with numbersFilled := true }
    | "n" => { settings with numbersLines := true }
    | "s" => { settings with squeezes := true }
    | "v" => { settings with showsMarks := true }
    | "E" => { settings with showsEnds := true }
    | "T" => { settings with showsTabs := true }
    | "A" => { settings with showsMarks := true, showsEnds := true, showsTabs := true }
    | "e" => { settings with showsMarks := true, showsEnds := true }
    | "t" => { settings with showsMarks := true, showsTabs := true }
    | _ => settings)

/-- A character below 128 as it is shown. -/
def shownLow (c : Char) : ByteText :=
  if c.toNat < 32 then ['^', Char.ofNat (c.toNat + 64)]
  else if c = '\x7f' then ascii "^?"
  else [c]

/-- A character as it is shown. -/
def shownMark (settings : CatSettings) (c : Char) : ByteText :=
  if c = '\t' then (if settings.showsTabs then ascii "^I" else ['\t'])
  else if !settings.showsMarks then [c]
  else if c.toNat < 128 then shownLow c
  else ascii "M-" ++ shownLow (Char.ofNat (c.toNat - 128))

/-- The state of showing lines: the number of the last one, how many empty ones came last, and
whether a line was begun. -/
structure CatState where
  number : Nat := 0
  blanks : Nat := 0
  isInLine : Bool := false

/-- Shows a line. -/
def catLine (settings : CatSettings) (state : CatState) (line : ByteText.Line) :
    ByteText × CatState :=
  let isBlank := line.text.isEmpty && line.isEnded && !state.isInLine
  let blanks := if isBlank then state.blanks + 1 else 0
  if settings.squeezes && 1 < blanks then ([], { state with blanks := blanks })
  else
    let isNumbered :=
      !state.isInLine
        && (if settings.numbersFilled then !isBlank else settings.numbersLines)
    let number := if isNumbered then state.number + 1 else state.number
    let heading : ByteText :=
      if isNumbered then ByteText.padLeft 6 (ByteText.ofNat number) ++ ['\t'] else []
    let text := (line.text.map (shownMark settings)).flatten
    let text : ByteText :=
      if settings.showsEnds && line.isEnded && line.text.getLast? = some '\r' && !settings.showsMarks
      then text.dropLast ++ ascii "^M"
      else text
    let ending : ByteText :=
      if line.isEnded then (if settings.showsEnds then ['$', '\n'] else ['\n']) else []
    (heading ++ text ++ ending, { number := number, blanks := blanks, isInLine := !line.isEnded })

/-- Shows all lines of a text. -/
def catText (settings : CatSettings) (state : CatState) (text : ByteText) : ByteText × CatState :=
  let (pieces, state) := (ByteText.lines text).foldl
    (fun (pieces, state) line =>
      let (piece, state) := catLine settings state line
      (piece :: pieces, state))
    (([] : List ByteText), state)
  (pieces.reverse.flatten, state)

/-- Puts files one after the other. -/
def cat : Tool :=
  Program.withArguments catRules {} catOption fun settings operands => do
    let isPlain := !settings.numbersLines && !settings.numbersFilled && !settings.showsEnds
      && !settings.showsTabs && !settings.showsMarks && !settings.squeezes
    let files := if operands.isEmpty then [['-']] else operands
    let (_, code) ← files.foldlM (fun (state, code) file => do
      match ← Program.readOperand file with
      | .error cause =>
        Program.complainOf file cause
        return (state, 1)
      | .ok text =>
        if isPlain then
          Program.out text
          return (state, code)
        else
          let (shown, state) := catText settings state text
          Program.out shown
          return (state, code)) (({} : CatState), 0)
    return code

end Tool

end SchemaDocs.Shell

/-!
## Turning text around

Lines from the last to the first one, and the characters of lines from the last to the
first one.
-/

namespace SchemaDocs.Shell

namespace Tool

/-! ### Lines -/

/-- How lines are turned around. -/
structure TacSettings where
  separator : ByteText := ['\n']
  /-- Whether separators stand before their lines. -/
  isBefore : Bool := false
  isPattern : Bool := false

/-- The options of the program that turns lines around. -/
def tacRules : OptionRules :=
  { forms :=
    [.both 'b' "before", .both 'r' "regex", .both 's' "separator" .required,
     .word "help", .word "version"] }

/-- Cuts a text behind every separator.  Each step takes a character or a separator. -/
def cutBehind (separator : ByteText) : Nat → ByteText → ByteText → List ByteText
  | 0, piece, _ => if piece.isEmpty then [] else [piece.reverse]
  | _ + 1, piece, [] => if piece.isEmpty then [] else [piece.reverse]
  | fuel + 1, piece, c :: rest =>
    if separator.isPrefixOf (c :: rest) && !separator.isEmpty then
      (separator.reverse ++ piece).reverse
        :: cutBehind separator fuel [] ((c :: rest).drop separator.length)
    else cutBehind separator fuel (c :: piece) rest

/-- Cuts a text before every separator.  Each step takes a character or a separator. -/
def cutBefore (separator : ByteText) : Nat → ByteText → ByteText → List ByteText
  | 0, piece, _ => if piece.isEmpty then [] else [piece.reverse]
  | _ + 1, piece, [] => if piece.isEmpty then [] else [piece.reverse]
  | fuel + 1, piece, c :: rest =>
    if separator.isPrefixOf (c :: rest) && !separator.isEmpty then
      (if piece.isEmpty then [] else [piece.reverse])
        ++ cutBefore separator fuel separator.reverse ((c :: rest).drop separator.length)
    else cutBefore separator fuel (c :: piece) rest

/-- Settings after an option of the program that turns lines around. -/
def tacOption (settings : TacSettings) (key : String) (argument : ByteText) :
    Program (Except Nat TacSettings) := do
  match key with
  | "b" => return .ok { settings with isBefore := true }
  | "r" => return .ok { settings with isPattern := true }
  | "s" => return .ok { settings with separator := if argument.isEmpty then ['\x00'] else argument }
  | _ => return .ok settings

/-- Turns the lines of files around. -/
def tac : Tool :=
  Program.withArguments tacRules {} tacOption fun settings operands =>
    (Program.inputsOr operands).foldlM (fun code file => do
      match ← Program.readOperand file with
      | .error cause =>
        if cause = .isADirectory then
          Program.complain (Quoting.whereNeeded (if file = ['-'] then ascii "standard input" else file)
            ++ ascii ": read error: " ++ ascii "Invalid argument")
        else
          Program.complain (ascii "failed to open " ++ Program.quoted file ++ ascii " for reading: "
            ++ ascii cause.reason)
        return 1
      | .ok text =>
        let cut := if settings.isBefore then cutBehind else cutBefore
        let pieces := cut settings.separator.reverse (text.length + 1) [] text.reverse
        Program.out (pieces.map List.reverse).flatten
        return code) 0

/-! ### Characters -/

/-- The options of the program that turns characters around. -/
def revRules : OptionRules :=
  { forms :=
    [.both 'z' "zero", .both 'h' "help", .both 'V' "version"] }

/-- A line with its characters turned around. -/
def revLine (line : ByteText.Line) : ByteText :=
  line.text.reverse ++ (if line.isEnded then ['\n'] else [])

/-- Turns the characters of the lines of files around.  At a character outside of ASCII it does not
get on. -/
def rev : Tool :=
  Program.withArguments revRules () (fun _ _ _ => return .ok ()) fun _ operands =>
    (Program.inputsOr operands).foldlM (fun code file => do
      match ← Program.readOperand file with
      | .error .isADirectory =>
        System.stall .busy
        return code
      | .error cause =>
        Program.complain (ascii "cannot open " ++ file ++ ascii ": " ++ ascii cause.reason)
        return 1
      | .ok text =>
        if text.any fun c => 128 ≤ c.toNat then
          System.stall .busy
          return code
        else
          Program.out ((ByteText.lines text).map revLine).flatten
          return code) 0

end Tool

end SchemaDocs.Shell

/-!
## Comparing files byte by byte

Where two files differ first, or all places where they do.
-/

namespace SchemaDocs.Shell

namespace Tool

/-- How files are compared byte by byte. -/
structure CompareSettings where
  showsBytes : Bool := false
  isSilent : Bool := false
  showsAll : Bool := false
  limit : Option Nat := none
  skips : Nat × Nat := (0, 0)

/-- The options of the program that compares bytes. -/
def cmpRules : OptionRules :=
  { forms :=
    [.both 'b' "print-bytes", .both 'c' "print-chars", .both 'i' "ignore-initial" .required,
     .both 'l' "verbose", .both 'n' "bytes" .required, .both 's' "quiet", .word "silent",
     .both 'v' "version", .word "help"] }

/-- Ends after a message on how files are to be compared. -/
def cmpMisuse (text : ByteText) : Program Nat := do
  Program.complain text
  Program.complain (ascii "Try 'cmp --help' for more information.")
  return 2

/-- Settings after the numbers of bytes that are left out at the start of both files, or of each. -/
def withSkips (settings : CompareSettings) (argument : ByteText) :
    Program (Except Nat CompareSettings) := do
  let first := argument.takeWhile (· != ':')
  let second :=
    match argument.drop first.length with
    | _ :: second => second
    | [] => first
  match Units.number? first, Units.number? second with
  | some a, some b => return .ok { settings with skips := (a, b) }
  | _, _ =>
    return .error (← cmpMisuse (ascii "invalid --ignore-initial value " ++ Program.quoted argument))

/-- Settings after an option of the program that compares bytes. -/
def cmpOption (settings : CompareSettings) (key : String) (argument : ByteText) :
    Program (Except Nat CompareSettings) := do
  match key with
  | "b" => return .ok { settings with showsBytes := true }
  | "c" => return .ok { settings with showsBytes := true }
  | "i" => withSkips settings argument
  | "l" =>
    if settings.isSilent then
      return .error (← cmpMisuse (ascii "options -l and -s are incompatible"))
    else return .ok { settings with showsAll := true }
  | "n" =>
    match Units.number? argument with
    | some limit => return .ok { settings with limit := some limit }
    | none =>
      return .error (← cmpMisuse (ascii "invalid --bytes value " ++ Program.quoted argument))
  | "s" | "silent" =>
    if settings.showsAll then
      return .error (← cmpMisuse (ascii "options -l and -s are incompatible"))
    else return .ok { settings with isSilent := true }
  | _ => return .ok settings

/-- A byte in base eight, in three columns. -/
def octalByte (c : Char) : ByteText := ByteText.padLeft 3 (ByteText.digitsIn 8 c.toNat)

/-- A byte as it is shown. -/
def visibleByte (c : Char) : ByteText :=
  if c.toNat < 128 then shownLow c else ascii "M-" ++ shownLow (Char.ofNat (c.toNat - 128))

/-- The lines for all bytes that differ, with their places. -/
def differingLines (settings : CompareSettings) (width : Nat) (first second : ByteText) :
    ByteText :=
  (((first.zip second).zipIdx 1).filterMap fun ((a, b), place) =>
    if a = b then none
    else
      let start := ByteText.padLeft width (ByteText.ofNat place) ++ [' '] ++ octalByte a
      some (if settings.showsBytes then
        start ++ [' '] ++ ByteText.padRight 4 (visibleByte a) ++ [' '] ++ octalByte b ++ [' ']
          ++ visibleByte b ++ ['\n']
      else start ++ [' '] ++ octalByte b ++ ['\n'])).flatten

/-- Tells where two files differ, whose names and texts are given. -/
def reportFirst (settings : CompareSettings) (names : ByteText × ByteText) (place : Nat)
    (first second : ByteText) (a b : Char) : Program Unit := do
  let line := ((first.zip second).take (place - 1)).filter (fun (c, _) => c = '\n')
  let start := names.1 ++ [' '] ++ names.2 ++ ascii " differ: "
    ++ ascii (if settings.showsBytes then "byte " else "char ") ++ ByteText.ofNat place
    ++ ascii ", line " ++ ByteText.ofNat (line.length + 1)
  if settings.showsBytes then
    Program.outLine (start ++ ascii " is " ++ octalByte a ++ [' '] ++ visibleByte a ++ [' ']
      ++ octalByte b ++ [' '] ++ visibleByte b)
  else Program.outLine start

/-- Tells that one of two files, which are alike so far, is shorter. -/
def reportEnd (settings : CompareSettings) (name text : ByteText) : Program Unit := do
  let place := ascii " after byte " ++ ByteText.ofNat text.length
  let lines := (text.filter (· = '\n')).length
  let isEnded := text.getLast? = some '\n'
  Program.complain (ascii "EOF on " ++ name ++
    (if text.isEmpty then ascii " which is empty"
    else if settings.showsAll then place
    else if isEnded then place ++ ascii ", line " ++ ByteText.ofNat lines
    else place ++ ascii ", in line " ++ ByteText.ofNat (lines + 1)))

/-- Compares two texts. -/
def compareBytes (settings : CompareSettings) (names : ByteText × ByteText) (width : Nat)
    (first second : ByteText) : Program Nat := do
  let shared := min first.length second.length
  let found := ((first.zip second).zipIdx 1).find? fun ((a, b), _) => a != b
  if settings.isSilent then
    return if found.isSome || first.length != second.length then 1 else 0
  else
    if settings.showsAll then Program.out (differingLines settings width first second)
    match settings.showsAll, found with
    | false, some ((a, b), place) =>
      reportFirst settings names place first second a b
      return 1
    | _, _ =>
      if first.length < second.length then reportEnd settings names.1 first
      if second.length < first.length then reportEnd settings names.2 (second.take shared)
      return if found.isSome || first.length != second.length then 1 else 0

/-- The width of places in files of some lengths, of which none is known of an input. -/
def placeWidth (settings : CompareSettings) (lengths : List (Option Nat)) : Nat :=
  let bounds := lengths.filterMap id ++ settings.limit.toList
  (ByteText.ofNat (bounds.foldl min 9223372036854775807)).length

/-- Compares files byte by byte. -/
def cmp : Tool := do
  let last := (← read).arguments.getLast?
  let name ← Program.name
  Program.withArguments cmpRules {} cmpOption (fun settings operands => do
    match operands with
    | [] => cmpMisuse (ascii "missing operand after " ++ Program.quoted (last.getD name))
    | [only] => body settings only ['-']
    | first :: second :: rest =>
      let counts := rest.map Units.number?
      match rest, counts with
      | a :: _, none :: _ =>
        cmpMisuse (ascii "invalid --ignore-initial value " ++ Program.quoted a)
      | _ :: b :: _, _ :: none :: _ =>
        cmpMisuse (ascii "invalid --ignore-initial value " ++ Program.quoted b)
      | _ :: _ :: extra :: _, _ => cmpMisuse (ascii "extra operand " ++ Program.quoted extra)
      | _, [some a] => body { settings with skips := (a, settings.skips.2) } first second
      | _, [some a, some b] => body { settings with skips := (a, b) } first second
      | _, _ => body settings first second)
    2 (Program.complain (ascii "Try 'cmp --help' for more information."))
where
  /-- Compares two files that are named. -/
  body (settings : CompareSettings) (first second : ByteText) : Program Nat := do
    if first = second && settings.skips.1 = settings.skips.2 && first = ['-'] then return 0
    else
      let fail (file : ByteText) (cause : FileError) : Program Nat := do
        if !settings.isSilent then
          Program.complain (file ++ ascii ": " ++ ascii cause.reason)
        return 2
      match ← Program.readOperand first with
      | .error cause => fail first cause
      | .ok a =>
        match ← Program.readOperand second with
        | .error cause => fail second cause
        | .ok b =>
          let cut (text : ByteText) (skip : Nat) : ByteText :=
            let text := text.drop skip
            match settings.limit with
            | some limit => text.take limit
            | none => text
          let a' := cut a settings.skips.1
          let b' := cut b settings.skips.2
          let lengths := [if first = ['-'] then none else some (a.drop settings.skips.1).length,
            if second = ['-'] then none else some (b.drop settings.skips.2).length]
          compareBytes settings (first, second) (placeWidth settings lengths) a' b'

end Tool

end SchemaDocs.Shell
