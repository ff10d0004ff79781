import SchemaDocs.Shell.NumberText
import SchemaDocs.Shell.Tool.Basic
/-!
# Order

Sorting lines, and comparing lines that are in order.
-/

namespace SchemaDocs.Shell

namespace Tool

/-! ## Keys -/

/-- How keys are compared. -/
structure KeyOrder where
  ignoresBlanksBefore : Bool := false
  ignoresBlanksAfter : Bool := false
  onlyWords : Bool := false
  ignoresCase : Bool := false
  onlyShown : Bool := false
  isNumeric : Bool := false
  isGeneral : Bool := false
  isHuman : Bool := false
  isMonth : Bool := false
  isVersion : Bool := false
  isReverse : Bool := false
deriving DecidableEq

/-- Whether a way of comparing says nothing but that the order may be turned. -/
def KeyOrder.isUsual (order : KeyOrder) : Bool := { order with isReverse := false } = {}

/-- A place in a line: the number of a field from one on, and of a character in it. -/
structure KeyPlace where
  field : Nat
  char : Nat
deriving DecidableEq

/-- A part of lines by which they are compared. -/
structure SortKey where
  start : KeyPlace
  stop : Option KeyPlace
  order : KeyOrder
deriving DecidableEq

/-- The fields of a line with the places where each begins and ends. -/
def fieldBounds (separator : Option Char) (line : ByteText) : List (Nat × Nat) :=
  match separator with
  | some separator =>
    ((ByteText.splitAt separator line).foldl
      (fun ((bounds, place) : List (Nat × Nat) × Nat) field =>
        ((place, place + field.length) :: bounds, place + field.length + 1)) ([], 0)).1.reverse
  | none =>
    let (bounds, start, _, place) := line.foldl
      (fun ((bounds, start, wasBlank, place) : List (Nat × Nat) × Nat × Bool × Nat) c =>
        let isBlank := c = ' ' || c = '\t'
        if isBlank && !wasBlank && place != 0 then ((start, place) :: bounds, place, true, place + 1)
        else (bounds, start, isBlank, place + 1)) ([], 0, true, 0)
    ((start, place) :: bounds).reverse

/-- The number of blanks at the start of a text. -/
def blanksBefore (text : ByteText) : Nat :=
  (text.takeWhile fun c => c = ' ' || c = '\t' || c = '\n').length

/-- The part of a line that a key takes. -/
def SortKey.part (key : SortKey) (separator : Option Char) (line : ByteText) : ByteText :=
  let bounds := fieldBounds separator line
  let length := line.length
  let start :=
    match bounds[key.start.field - 1]? with
    | none => length
    | some (first, _) =>
      let first :=
        if key.order.ignoresBlanksBefore then first + blanksBefore (line.drop first) else first
      min length (first + (key.start.char - 1))
  let stop :=
    match key.stop with
    | none => length
    | some place =>
      match bounds[place.field - 1]? with
      | none => length
      | some (first, last) =>
        if place.char = 0 then last
        else
          let first :=
            if key.order.ignoresBlanksAfter then first + blanksBefore (line.drop first) else first
          min length (first + place.char)
  (line.take stop).drop start

/-! ## Comparing -/

/-- Compares two texts character by character. -/
def compareTexts (a b : ByteText) : Ordering :=
  if a = b then .eq else if a < b then .lt else .gt

/-- A decimal number as it is compared: its sign, the digits before the point without leading zeros
and those behind it without trailing zeros. -/
structure NumericKey where
  isNegative : Bool
  whole : ByteText
  fraction : ByteText

/-- The number at the start of a text after blanks. -/
def NumericKey.ofText (text : ByteText) : NumericKey :=
  let text := text.drop (blanksBefore text)
  let (isNegative, digits) :=
    match text with
    | '-' :: rest => (true, rest)
    | rest => (false, rest)
  let whole := digits.takeWhile Char.isDigit
  let fraction :=
    match digits.drop whole.length with
    | '.' :: rest => rest.takeWhile Char.isDigit
    | _ => []
  ⟨isNegative, whole.dropWhile (· = '0'),
    (fraction.reverse.dropWhile (· = '0')).reverse⟩

/-- Compares the sizes of two numbers. -/
def NumericKey.compareSizes (a b : NumericKey) : Ordering :=
  (compare a.whole.length b.whole.length).then
    ((compareTexts a.whole b.whole).then (compareTexts a.fraction b.fraction))

/-- Whether a number is zero. -/
def NumericKey.isZero (a : NumericKey) : Bool := a.whole.isEmpty && a.fraction.isEmpty

/-- Compares two numbers. -/
def NumericKey.compare (a b : NumericKey) : Ordering :=
  let aBelow := a.isNegative && !a.isZero
  let bBelow := b.isNegative && !b.isZero
  match aBelow, bBelow with
  | true, false => .lt
  | false, true => .gt
  | true, true => (a.compareSizes b).swap
  | false, false => a.compareSizes b

/-- The place of a unit behind a number. -/
def unitOrder (text : ByteText) : Nat :=
  let rest := text.drop (blanksBefore text)
  let rest :=
    match rest with
    | '-' :: rest => rest
    | rest => rest
  let rest := rest.dropWhile fun c => c.isDigit || c = '.'
  match rest with
  | c :: _ =>
    match (ascii "KMGTPEZY").findIdx? (· = c) with
    | some place => place + 1
    | none => if c = 'k' then 1 else 0
  | [] => 0

/-- The number of a month by the first letters of its name, zero if there is none. -/
def monthOf (text : ByteText) : Nat :=
  let name := ((text.drop (blanksBefore text)).take 3).map Char.toUpper
  match ["JAN", "FEB", "MAR", "APR", "MAY", "JUN", "JUL", "AUG", "SEP", "OCT", "NOV", "DEC"].findIdx?
      fun month => ascii month = name with
  | some place => place + 1
  | none => 0

/-- The rank of a character in the names of versions. -/
def versionRank (c : Char) : Nat :=
  if c = '~' then 0
  else if c.isDigit then 1
  else if c.isAlpha then c.toNat
  else c.toNat + 256

/-- Compares the parts of versions that are no numbers. -/
def compareWords : ByteText → ByteText → Ordering
  | [], [] => .eq
  | a :: as, [] => if a = '~' then .lt else if as.isEmpty then .gt else .gt
  | [], b :: _ => if b = '~' then .gt else .lt
  | a :: as, b :: bs =>
    match compare (versionRank a) (versionRank b) with
    | .eq => compareWords as bs
    | other => other

/-- Compares versions.  Each step takes a part that is no number and one that is. -/
def compareVersionsFrom : Nat → ByteText → ByteText → Ordering
  | 0, _, _ => .eq
  | fuel + 1, a, b =>
    if a.isEmpty && b.isEmpty then .eq
    else
      let wordA := a.takeWhile fun c => !c.isDigit
      let wordB := b.takeWhile fun c => !c.isDigit
      match compareWords wordA wordB with
      | .eq =>
        let restA := a.drop wordA.length
        let restB := b.drop wordB.length
        let numberA := restA.takeWhile Char.isDigit
        let numberB := restB.takeWhile Char.isDigit
        match compare (ByteText.valueIn 10 numberA) (ByteText.valueIn 10 numberB) with
        | .eq =>
          compareVersionsFrom fuel (restA.drop numberA.length) (restB.drop numberB.length)
        | other => other
      | other => other

/-- Compares versions. -/
def compareVersions (a b : ByteText) : Ordering :=
  compareVersionsFrom (a.length + b.length + 1) a b

/-- The exact order of two numbers with fractions. -/
def compareFractional (a b : Fractional) : Ordering :=
  match a.magnitude, b.magnitude with
  | .nothing, .nothing => .eq
  | .nothing, _ => .lt
  | _, .nothing => .gt
  | .infinite, .infinite => compare b.isNegative.toNat a.isNegative.toNat
  | .infinite, .finite .. => if a.isNegative then .lt else .gt
  | .finite .., .infinite => if b.isNegative then .gt else .lt
  | .finite wholeA exponentA, .finite wholeB exponentB =>
    let least := min exponentA exponentB
    let size (isNegative : Bool) (whole : Nat) (exponent : Int) : Int :=
      let n : Int := (whole * Nat.pow 2 (exponent - least).toNat : Nat)
      if isNegative then -n else n
    compare (size a.isNegative wholeA exponentA) (size b.isNegative wholeB exponentB)

/-- Compares texts as numbers with exponents.  What is no number comes first. -/
def compareGeneral (a b : ByteText) : Ordering :=
  match Fractional.read? 64 a, Fractional.read? 64 b with
  | none, none => .eq
  | none, some _ => .lt
  | some _, none => .gt
  | some (a, _), some (b, _) => compareFractional a b

/-- The characters of a key that are compared. -/
def KeyOrder.translate (order : KeyOrder) (text : ByteText) : ByteText :=
  let text :=
    if order.onlyWords then text.filter fun c => c.isAlphanum || c = ' ' || c = '\t' else text
  let text := if order.onlyShown then text.filter isShown else text
  if order.ignoresCase then text.map Char.toUpper else text

/-- Compares two parts of lines, as if the order were not turned. -/
def KeyOrder.compareForward (order : KeyOrder) (a b : ByteText) : Ordering :=
  if order.isNumeric then (NumericKey.ofText a).compare (NumericKey.ofText b)
  else if order.isGeneral then compareGeneral a b
  else if order.isHuman then
    let keyA := NumericKey.ofText a
    let keyB := NumericKey.ofText b
    let rank (key : NumericKey) (text : ByteText) : Int :=
      if key.isZero then 0
      else if key.isNegative then -(unitOrder text + 1 : Int) else (unitOrder text + 1 : Int)
    (compare (rank keyA a) (rank keyB b)).then (keyA.compare keyB)
  else if order.isMonth then compare (monthOf a) (monthOf b)
  else if order.isVersion then compareVersions (order.translate a) (order.translate b)
  else compareTexts (order.translate a) (order.translate b)

/-- Compares two parts of lines. -/
def KeyOrder.compare (order : KeyOrder) (a b : ByteText) : Ordering :=
  let forward := order.compareForward a b
  if order.isReverse then forward.swap else forward

/-! ## Sorting -/

/-- How lines are sorted. -/
structure SortSettings where
  order : KeyOrder := {}
  keys : List SortKey := []
  separator : Option Char := none
  isUnique : Bool := false
  isStable : Bool := false
  output : Option ByteText := none
  /-- Whether the order is only checked, and whether a message says where it fails. -/
  checks : Option Bool := none
  terminator : Char := '\n'

/-- The options of the program that sorts. -/
def sortRules : OptionRules :=
  { forms :=
    [.both 'b' "ignore-leading-blanks", .both 'd' "dictionary-order", .both 'f' "ignore-case",
     .both 'g' "general-numeric-sort", .both 'i' "ignore-nonprinting", .both 'M' "month-sort",
     .both 'h' "human-numeric-sort", .both 'n' "numeric-sort", .both 'R' "random-sort",
     .word "random-source" .required, .both 'r' "reverse", .word "sort" .required,
     .both 'V' "version-sort", .word "batch-size" .required, .both 'c' "check" .optional,
     .letter 'C', .word "compress-program" .required, .word "debug",
     .word "files0-from" .required, .both 'k' "key" .required, .both 'm' "merge",
     .both 'o' "output" .required, .both 's' "stable", .both 'S' "buffer-size" .required,
     .both 't' "field-separator" .required, .both 'T' "temporary-directory" .required,
     .word "parallel" .required, .both 'u' "unique", .both 'z' "zero-terminated",
     .letter 'y' .optional, .word "help", .word "version"] }

/-- A way of comparing with a letter added. -/
def KeyOrder.withLetter? (order : KeyOrder) (c : Char) (isStop : Bool) : Option KeyOrder :=
  match c with
  | 'b' =>
    some (if isStop then { order with ignoresBlanksAfter := true }
      else { order with ignoresBlanksBefore := true })
  | 'd' => some { order with onlyWords := true }
  | 'f' => some { order with ignoresCase := true }
  | 'g' => some { order with isGeneral := true }
  | 'h' => some { order with isHuman := true }
  | 'i' => some { order with onlyShown := true }
  | 'M' => some { order with isMonth := true }
  | 'n' => some { order with isNumeric := true }
  | 'r' => some { order with isReverse := true }
  | 'V' => some { order with isVersion := true }
  | 'R' => some order
  | _ => none

/-- A way of comparing with letters added, up to one that is none. -/
def KeyOrder.withLetters (order : KeyOrder) (isStop : Bool) : ByteText → KeyOrder × ByteText
  | [] => (order, [])
  | c :: rest =>
    match order.withLetter? c isStop with
    | some order => withLetters order isStop rest
    | none => (order, c :: rest)

/-- Reads a place of a key, and what follows it. -/
def readPlace (text : ByteText) (fallback : Nat) : Except ByteText (KeyPlace × ByteText) :=
  let field := text.takeWhile Char.isDigit
  let rest := text.drop field.length
  if field.isEmpty then
    .error (ascii "invalid number at field start: invalid count at start of "
      ++ Quoting.inQuotes text)
  else
    match rest with
    | '.' :: more =>
      let char := more.takeWhile Char.isDigit
      if char.isEmpty then
        .error (ascii "invalid number after '.': invalid count at start of "
          ++ Quoting.inQuotes more)
      else .ok (⟨ByteText.valueIn 10 field, ByteText.valueIn 10 char⟩, more.drop char.length)
    | rest => .ok (⟨ByteText.valueIn 10 field, fallback⟩, rest)

/-- Says what is wrong with the specification of a key. -/
def badKey (text : ByteText) (reason : String) : ByteText :=
  ascii reason ++ ascii ": invalid field specification " ++ Quoting.inQuotes text

/-- Reads a key. -/
def readKey (text : ByteText) : Except ByteText SortKey := do
  let (start, rest) ← readPlace text 1
  if start.field = 0 then .error (badKey text "field number is zero")
  else if start.char = 0 then .error (badKey text "character offset is zero")
  else
    let (order, rest) := ({} : KeyOrder).withLetters false rest
    match rest with
    | [] => .ok ⟨start, none, order⟩
    | ',' :: more =>
      let (stop, rest) ←
        match readPlace more 0 with
        | .ok found => .ok found
        | .error _ =>
          if more.head?.any Char.isDigit then
            .error (ascii "invalid number after '.': invalid count at start of "
              ++ Quoting.inQuotes ((more.dropWhile (· != '.')).drop 1))
          else
            .error (ascii "invalid number after ',': invalid count at start of "
              ++ Quoting.inQuotes more)
      if stop.field = 0 then .error (badKey text "field number is zero")
      else
        let (order, rest) := order.withLetters true rest
        if rest.isEmpty then .ok ⟨start, some stop, order⟩
        else .error (badKey text "stray character in field spec")
    | _ => .error (badKey text "stray character in field spec")

/-- Settings after an option of the program that sorts. -/
def sortOption (settings : SortSettings) (key : String) (argument : ByteText) :
    Program (Except Nat SortSettings) := do
  let refuse (text : ByteText) : Program (Except Nat SortSettings) := do
    Program.complain text
    return .error 2
  match key with
  | "k" =>
    match readKey argument with
    | .ok key => return .ok { settings with keys := settings.keys ++ [key] }
    | .error fault => refuse fault
  | "t" =>
    match argument with
    | [] => refuse (ascii "empty tab")
    | [c] => return .ok { settings with separator := some c }
    | ['\\', '0'] => return .ok { settings with separator := some '\x00' }
    | text => refuse (ascii "multi-character tab " ++ Program.quoted text)
  | "o" => return .ok { settings with output := some argument }
  | "u" => return .ok { settings with isUnique := true }
  | "s" => return .ok { settings with isStable := true }
  | "z" => return .ok { settings with terminator := '\x00' }
  | "c" => return .ok { settings with checks := some (argument.isEmpty
      || argument = ascii "diagnose-first") }
  | "C" => return .ok { settings with checks := some false }
  | "sort" =>
    let letter := match String.ofList argument with
      | "general-numeric" => 'g'
      | "human-numeric" => 'h'
      | "month" => 'M'
      | "numeric" => 'n'
      | "version" => 'V'
      | _ => 'R'
    return .ok { settings with order := (settings.order.withLetter? letter false).getD settings.order }
  | key =>
    match key.toList with
    | [c] =>
      return .ok { settings with order := (settings.order.withLetter? c false).getD settings.order }
    | _ => return .ok settings

/-- The keys that are compared, which take what is said for all of them if nothing is said for
them. -/
def SortSettings.allKeys (settings : SortSettings) : List SortKey :=
  if settings.keys.isEmpty then
    if settings.order.isUsual then []
    else [⟨⟨1, 1⟩, none, { settings.order with ignoresBlanksAfter := false }⟩]
  else settings.keys.map fun key =>
    if key.order = {} then
      { key with
        order := { settings.order with ignoresBlanksAfter := settings.order.ignoresBlanksBefore } }
    else key

/-- A line with the parts of it that are compared. -/
structure KeyedLine where
  line : ByteText
  parts : List ByteText

/-- Compares the parts of lines under their keys. -/
def compareParts : List SortKey → List ByteText → List ByteText → Ordering
  | key :: keys, a :: as, b :: bs => (key.order.compare a b).then (compareParts keys as bs)
  | _, _, _ => .eq

/-- Compares lines: by their keys, and as a whole if that does not tell them apart. -/
def compareLines (settings : SortSettings) (keys : List SortKey) (a b : KeyedLine) : Ordering :=
  let byKeys := compareParts keys a.parts b.parts
  let whole :=
    let forward := compareTexts a.line b.line
    if settings.order.isReverse then forward.swap else forward
  if keys.isEmpty then whole
  else if settings.isUnique || settings.isStable then byKeys
  else byKeys.then whole

/-- The lines of which no neighbours are the same, each the first of its kind. -/
def firstOfEach (isSame : KeyedLine → KeyedLine → Bool) (lines : List KeyedLine) :
    List KeyedLine :=
  (lines.foldl
    (fun kept line =>
      match kept with
      | [] => [line]
      | last :: _ => if isSame last line then kept else line :: kept) []).reverse

/-- Finds the first line that is not in order after the one before it, with its number. -/
def disorder? (isOrdered : KeyedLine → KeyedLine → Bool) :
    Nat → List KeyedLine → Option (Nat × KeyedLine)
  | number, first :: second :: rest =>
    if isOrdered first second then disorder? isOrdered (number + 1) (second :: rest)
    else some (number + 1, second)
  | _, _ => none

/-- The letters of ways to compare of which only one can hold. -/
def clashingLetters (order : KeyOrder) : ByteText :=
  let kinds := [(order.isGeneral, 'g'), (order.isHuman, 'h'), (order.isMonth, 'M'),
    (order.isNumeric, 'n'), (order.isVersion, 'V')].filterMap fun (isOn, c) =>
    if isOn then some c else none
  let words : ByteText := if order.onlyWords then ['d'] else []
  let shown : ByteText := if order.onlyShown && !order.onlyWords then ['i'] else []
  if 1 < kinds.length || (1 ≤ kinds.length && (order.onlyWords || order.onlyShown)
      && !order.isVersion) then
    words ++ (kinds.filter (· != 'V')) ++ shown ++ (kinds.filter (· = 'V'))
  else []

/-- Sorts the lines of files. -/
def sort : Tool :=
  Program.withArguments sortRules {} sortOption (fun settings operands => do
    let keys := settings.allKeys
    match ((keys.map fun key => clashingLetters key.order).filter fun letters => !letters.isEmpty)
        with
    | letters :: _ =>
      Program.die 2 (ascii "options '-" ++ letters ++ ascii "' are incompatible")
    | [] =>
      match settings.checks, operands with
      | some _, _ :: second :: _ =>
        Program.misuse 2 (ascii "extra operand " ++ Program.quoted second
          ++ ascii " not allowed with -c")
      | _, _ =>
        let texts ← (Program.inputsOr operands).mapM fun file => do
          return (file, ← Program.readOperand file)
        match texts.find? fun (_, outcome) => outcome.toOption.isNone with
        | some (file, .error cause) =>
          if cause = .isADirectory then
            Program.die 2 (ascii "read failed: " ++ Quoting.whereNeeded file ++ ascii ": "
              ++ ascii cause.reason)
          else
            Program.die 2 (ascii "cannot read: " ++ Quoting.whereNeeded file ++ ascii ": "
              ++ ascii cause.reason)
        | _ =>
          let lines := texts.flatMap fun (_, outcome) =>
            ((ByteText.linesEndedBy settings.terminator (outcome.toOption.getD [])).map
              ByteText.Line.text)
          let keyed := lines.map fun line =>
            (⟨line, keys.map fun key => key.part settings.separator line⟩ : KeyedLine)
          let compare := compareLines settings keys
          match settings.checks with
          | some isTold =>
            let isOrdered (a b : KeyedLine) : Bool :=
              if settings.isUnique then compare a b = .lt else compare a b != .gt
            match disorder? isOrdered 1 keyed with
            | none => return 0
            | some (number, line) =>
              if isTold then
                let file := operands.head?.getD ['-']
                Program.complain (file ++ ascii ":" ++ ByteText.ofNat number ++ ascii ": disorder: "
                  ++ line.line)
              return 1
          | none =>
            let sorted := keyed.mergeSort fun a b => compare a b != .gt
            let sorted :=
              if settings.isUnique then firstOfEach (fun a b => compare a b = .eq) sorted else sorted
            let text := (sorted.map fun line => line.line ++ [settings.terminator]).flatten
            match settings.output with
            | none =>
              Program.out text
              return 0
            | some path =>
              match ← Program.openOutput path false with
              | .ok channel =>
                let _ ← System.write channel text
                return 0
              | .error cause =>
                Program.die 2 (ascii "open failed: " ++ Quoting.whereNeeded path ++ ascii ": "
                  ++ ascii cause.reason)) 2

/-! ## Neighbours that are the same -/

/-- Which of some neighbours that are the same are shown. -/
structure UniqSettings where
  counts : Bool := false
  onlyRepeated : Bool := false
  onlyUnique : Bool := false
  showsAll : Bool := false
  ignoresCase : Bool := false
  skippedFields : Nat := 0
  skippedChars : Nat := 0
  comparedChars : Option Nat := none
  terminator : Char := '\n'

/-- The options of the program that passes over neighbours that are the same. -/
def uniqRules : OptionRules :=
  { forms :=
    [.both 'c' "count", .both 'd' "repeated", .letter 'D', .word "all-repeated" .optional,
     .both 'f' "skip-fields" .required, .word "group" .optional, .both 'i' "ignore-case",
     .both 's' "skip-chars" .required, .both 'u' "unique", .both 'z' "zero-terminated",
     .both 'w' "check-chars" .required, .word "help", .word "version"] }

/-- Settings after an option of the program that passes over neighbours that are the same. -/
def uniqOption (settings : UniqSettings) (key : String) (argument : ByteText) :
    Program (Except Nat UniqSettings) := do
  let number (noun : String) (put : Nat → UniqSettings) : Program (Except Nat UniqSettings) := do
    match ByteText.toNat? argument with
    | some n => return .ok (put n)
    | none =>
      Program.complain (argument ++ ascii ": invalid number of " ++ ascii noun)
      return .error 1
  match key with
  | "c" => return .ok { settings with counts := true }
  | "d" => return .ok { settings with onlyRepeated := true }
  | "D" => return .ok { settings with showsAll := true, onlyRepeated := true }
  | "all-repeated" => return .ok { settings with showsAll := true, onlyRepeated := true }
  | "u" => return .ok { settings with onlyUnique := true }
  | "i" => return .ok { settings with ignoresCase := true }
  | "z" => return .ok { settings with terminator := '\x00' }
  | "f" => number "fields to skip" (fun n => { settings with skippedFields := n })
  | "s" => number "bytes to skip" (fun n => { settings with skippedChars := n })
  | "w" => number "bytes to compare" (fun n => { settings with comparedChars := some n })
  | _ => return .ok settings

/-- A text without some fields at its start. -/
def dropFields : Nat → ByteText → ByteText
  | 0, text => text
  | count + 1, text =>
    let text := text.dropWhile fun c => c = ' ' || c = '\t'
    dropFields count (text.dropWhile fun c => c != ' ' && c != '\t')

/-- The part of a line that is compared. -/
def uniqKey (settings : UniqSettings) (line : ByteText) : ByteText :=
  let text := (dropFields settings.skippedFields line).drop settings.skippedChars
  let text :=
    match settings.comparedChars with
    | some count => text.take count
    | none => text
  if settings.ignoresCase then text.map Char.toUpper else text

/-- Lines in groups of neighbours that are the same. -/
def groupLines (settings : UniqSettings) (lines : List ByteText) : List (List ByteText) :=
  let groups := lines.foldl
    (fun (groups : List (ByteText × List ByteText)) line =>
      let key := uniqKey settings line
      match groups with
      | (last, group) :: rest =>
        if last = key then (last, line :: group) :: rest else (key, [line]) :: groups
      | [] => [(key, [line])]) []
  (groups.map fun (_, group) => group.reverse).reverse

/-- The lines of a group that are shown. -/
def shownOfGroup (settings : UniqSettings) (group : List ByteText) : List ByteText :=
  let isRepeated := 1 < group.length
  let isShown :=
    if settings.onlyRepeated && settings.onlyUnique then false
    else if settings.onlyRepeated then isRepeated
    else if settings.onlyUnique then !isRepeated
    else true
  if !isShown then []
  else if settings.showsAll then group
  else if settings.counts then
    (group.take 1).map fun line =>
      ByteText.padLeft 7 (ByteText.ofNat group.length) ++ [' '] ++ line
  else group.take 1

/-- Passes over lines that are the same as the ones before them. -/
def uniq : Tool :=
  Program.withArguments uniqRules {} uniqOption fun settings operands => do
    match operands with
    | _ :: _ :: third :: _ => Program.extraOperand third
    | _ =>
      if settings.showsAll && settings.counts then
        Program.misuse 1 (ascii "printing all duplicated lines and repeat counts is meaningless")
      else
        let input := operands.head?.getD ['-']
        match ← Program.readOperand input with
        | .error cause =>
          Program.complainOf input cause
          return 1
        | .ok text =>
          let lines := (ByteText.linesEndedBy settings.terminator text).map ByteText.Line.text
          let shown := (groupLines settings lines).flatMap (shownOfGroup settings)
          let text := (shown.map fun line => line ++ [settings.terminator]).flatten
          match operands with
          | [_, output] =>
            if output = ['-'] then
              Program.out text
              return 0
            else
              match ← Program.openOutput output false with
              | .ok channel =>
                let _ ← System.write channel text
                return 0
              | .error cause =>
                Program.complainOf output cause
                return 1
          | _ =>
            Program.out text
            return 0

/-! ## Two files in order -/

/-- Which columns are shown of two files, and what stands between them. -/
structure CommSettings where
  hidesFirst : Bool := false
  hidesSecond : Bool := false
  hidesBoth : Bool := false
  delimiter : ByteText := ['\t']
  showsTotal : Bool := false
  checks : Option Bool := none
  terminator : Char := '\n'

/-- The options of the program that compares two files in order. -/
def commRules : OptionRules :=
  { forms :=
    [.letter '1', .letter '2', .letter '3', .word "check-order", .word "nocheck-order",
     .word "output-delimiter" .required, .word "total", .both 'z' "zero-terminated",
     .word "help", .word "version"] }

/-- Settings after an option of the program that compares two files in order. -/
def commOption (settings : CommSettings) (key : String) (argument : ByteText) :
    Program (Except Nat CommSettings) :=
  return .ok (match key with
    | "1" => { settings with hidesFirst := true }
    | "2" => { settings with hidesSecond := true }
    | "3" => { settings with hidesBoth := true }
    | "check-order" => { settings with checks := some true }
    | "nocheck-order" => { settings with checks := some false }
    | "output-delimiter" => { settings with delimiter := argument }
    | "total" => { settings with showsTotal := true }
    | "z" => { settings with terminator := '\x00' }
    | _ => settings)

/-- The columns of two lists in order.  Each step takes a line of one of them or of both. -/
def commColumns : Nat → List ByteText → List ByteText → List (Nat × ByteText)
  | 0, _, _ => []
  | _ + 1, [], [] => []
  | _ + 1, as, [] => as.map fun line => (1, line)
  | _ + 1, [], bs => bs.map fun line => (2, line)
  | fuel + 1, a :: as, b :: bs =>
    match compareTexts a b with
    | .lt => (1, a) :: commColumns fuel as (b :: bs)
    | .gt => (2, b) :: commColumns fuel (a :: as) bs
    | .eq => (3, a) :: commColumns fuel as bs

/-- Whether lines are in order. -/
def areOrdered : List ByteText → Bool
  | a :: b :: rest => compareTexts a b != .gt && areOrdered (b :: rest)
  | _ => true

/-- Shows the lines of two files in order in columns. -/
def comm : Tool :=
  Program.withArguments commRules {} commOption fun settings operands => do
    match operands with
    | [] => Program.missingOperand
    | [only] => Program.misuse 1 (ascii "missing operand after " ++ Program.quoted only)
    | _ :: _ :: third :: _ => Program.extraOperand third
    | [first, second] =>
      match ← Program.readOperand first with
      | .error cause =>
        Program.complainOf first cause
        return 1
      | .ok textA =>
        match ← Program.readOperand second with
        | .error cause =>
          Program.complainOf second cause
          return 1
        | .ok textB =>
          let linesA := (ByteText.linesEndedBy settings.terminator textA).map ByteText.Line.text
          let linesB := (ByteText.linesEndedBy settings.terminator textB).map ByteText.Line.text
          let columns := commColumns (linesA.length + linesB.length + 1) linesA linesB
          let indent (isHidden : Bool) : ByteText := if isHidden then [] else settings.delimiter
          let shown := columns.filterMap fun (column, line) =>
            let ended := line ++ [settings.terminator]
            match column with
            | 1 => if settings.hidesFirst then none else some ended
            | 2 =>
              if settings.hidesSecond then none else some (indent settings.hidesFirst ++ ended)
            | _ =>
              if settings.hidesBoth then none
              else some (indent settings.hidesFirst ++ indent settings.hidesSecond ++ ended)
          Program.out shown.flatten
          if settings.showsTotal then
            let count (n : Nat) : ByteText :=
              ByteText.ofNat (columns.filter fun column => column.1 = n).length
            Program.out (count 1 ++ settings.delimiter ++ count 2 ++ settings.delimiter ++ count 3
              ++ settings.delimiter ++ ascii "total" ++ [settings.terminator])
          if settings.checks = some false then return 0
          else
            let isBad := !areOrdered linesA || !areOrdered linesB
            if isBad && (settings.checks = some true || columns.any fun column => column.1 != 3) then
              if !areOrdered linesA then Program.complain (ascii "file 1 is not in sorted order")
              if !areOrdered linesB then Program.complain (ascii "file 2 is not in sorted order")
              if settings.checks != some true then
                Program.complain (ascii "input is not in sorted order")
              return 1
            else return 0

end Tool

end SchemaDocs.Shell
