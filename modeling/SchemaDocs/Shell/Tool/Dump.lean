import SchemaDocs.Shell.NumberText
import SchemaDocs.Shell.Tool.Basic
/-!
# Bytes as numbers and names

The bytes of files in rows, each behind its place.  A row shows its bytes once for every
kind that is asked for; rows like the one before are left out.
-/

namespace SchemaDocs.Shell

namespace Tool

/-! ## Kinds -/

/-- How a number of some bytes is shown. -/
inductive DumpBase where
  | octal | unsigned | signed | hexadecimal | fraction
  /-- A character by itself or behind a backslash. -/
  | char
  /-- A character by its name. -/
  | name
deriving DecidableEq

/-- A kind of columns: how numbers are shown, of how many bytes they are, and whether the text of
the row follows. -/
structure DumpKind where
  base : DumpBase
  size : Nat
  hasText : Bool := false
deriving DecidableEq

namespace DumpKind

/-- The width of a column without the blank before it. -/
def width (kind : DumpKind) : Nat :=
  match kind.base with
  | .octal => ([0, 3, 6, 8, 11, 14, 16, 19, 22][kind.size]?).getD 22
  | .unsigned => ([0, 3, 5, 8, 10, 13, 15, 17, 20][kind.size]?).getD 20
  | .signed => ([1, 4, 6, 8, 11, 13, 16, 18, 20][kind.size]?).getD 20
  | .hexadecimal => 2 * kind.size
  | .fraction => if kind.size = 4 then 15 else 24
  | .char => 3
  | .name => 3

/-- The names of characters that are not shown by themselves. -/
def names : List String :=
  ["nul", "soh", "stx", "etx", "eot", "enq", "ack", "bel", "bs", "ht", "nl", "vt", "ff", "cr", "so",
   "si", "dle", "dc1", "dc2", "dc3", "dc4", "nak", "syn", "etb", "can", "em", "sub", "esc", "fs",
   "gs", "rs", "us", "sp"]

/-- Digits with zeros before them. -/
def zeroed (width : Nat) (digits : ByteText) : ByteText :=
  List.replicate (width - digits.length) '0' ++ digits

/-- A byte as a character. -/
def charText (byte : Nat) : ByteText :=
  match byte with
  | 0 => ascii "\\0"
  | 7 => ascii "\\a"
  | 8 => ascii "\\b"
  | 9 => ascii "\\t"
  | 10 => ascii "\\n"
  | 11 => ascii "\\v"
  | 12 => ascii "\\f"
  | 13 => ascii "\\r"
  | byte =>
    if isShown (Char.ofNat byte) then [Char.ofNat byte] else zeroed 3 (ByteText.digitsIn 8 byte)

/-- A byte by the name of its character, where the first bit does not count. -/
def nameText (byte : Nat) : ByteText :=
  let byte := byte % 128
  if byte = 127 then ascii "del"
  else
    match names[byte]? with
    | some name => ascii name
    | none => [Char.ofNat byte]

/-- Whether two numbers that are finite are the same. -/
def isSame (a b : Magnitude) : Bool :=
  match a, b with
  | .finite n e, .finite m f =>
    if e ≤ f then n = m * Nat.pow 2 (f - e).toNat else n * Nat.pow 2 (e - f).toNat = m
  | a, b => a = b

/-- A number with a fraction in as few digits as let it be read back.  Each step tries one more. -/
def shortest (bits : Nat) (number : Fractional) : Nat → Nat → ByteText
  | 0, digits => Fractional.write { conversion := 'g', precision := some digits } number
  | fuel + 1, digits =>
    let text := Fractional.write { conversion := 'g', precision := some digits } number
    let isBack := (Fractional.read? bits text).any fun (read, _) =>
      isSame read.magnitude number.magnitude
    if isBack then text else shortest bits number fuel (digits + 1)

/-- A number of some bytes under a kind. -/
def text (kind : DumpKind) (n : Nat) : ByteText :=
  match kind.base with
  | .octal => zeroed kind.width (ByteText.digitsIn 8 n)
  | .unsigned => ByteText.ofNat n
  | .signed =>
    let half := Nat.pow 256 kind.size / 2
    ByteText.ofInt (if n < half then (n : Int) else (n : Int) - (2 * half : Nat))
  | .hexadecimal => zeroed kind.width (ByteText.digitsIn 16 n)
  | .fraction =>
    if kind.size = 4 then
      if n / Nat.pow 2 23 % 256 = 0 then shortest (Nat.log2 (n % Nat.pow 2 23) + 1) (Fractional.ofBits 8 23 n) 8 1
      else shortest 24 (Fractional.ofBits 8 23 n) 3 6
    else if n / Nat.pow 2 52 % 2048 = 0 then
      shortest (Nat.log2 (n % Nat.pow 2 52) + 1) (Fractional.ofBits 11 52 n) 16 1
    else shortest 53 (Fractional.ofBits 11 52 n) 2 15
  | .char => charText n
  | .name => nameText n

/-- The size that a letter or digits stand for, if there are numbers of such a size. -/
def size? (isFraction : Bool) (text : ByteText) : Option (Option Nat × ByteText) :=
  match text with
  | 'C' :: rest => some (some 1, rest)
  | 'S' :: rest => some (some 2, rest)
  | 'I' :: rest => some (some 4, rest)
  | 'L' :: rest => some (some (if isFraction then 16 else 8), rest)
  | 'F' :: rest => if isFraction then some (some 4, rest) else some (none, text)
  | 'D' :: rest => if isFraction then some (some 8, rest) else some (none, text)
  | _ =>
    let digits := text.takeWhile Char.isDigit
    if digits.isEmpty then some (none, text)
    else
      let size := ByteText.valueIn 10 digits
      let isKnown := if isFraction then size = 4 || size = 8
        else size = 1 || size = 2 || size = 4 || size = 8
      if isKnown then some (some size, text.drop digits.length) else none

/-- The kinds that a text names.  Each step takes one of them. -/
def readAll (whole : ByteText) : Nat → ByteText → Except ByteText (List DumpKind)
  | 0, _ => .ok []
  | _ + 1, [] => .ok []
  | fuel + 1, c :: rest => do
    let finish (base : DumpBase) (size : Nat) (rest : ByteText) : Except ByteText (List DumpKind) :=
      match rest with
      | 'z' :: rest => (readAll whole fuel rest).map (⟨base, size, true⟩ :: ·)
      | rest => (readAll whole fuel rest).map (⟨base, size, false⟩ :: ·)
    let numbered (base : DumpBase) (usual : Nat) : Except ByteText (List DumpKind) :=
      match size? (base = .fraction) rest with
      | some (size, rest) => finish base (size.getD usual) rest
      | none =>
        .error (ascii "invalid type string " ++ Quoting.inQuotes whole
          ++ ascii ";\nthis system doesn't provide a "
          ++ ByteText.ofNat (ByteText.valueIn 10 (rest.takeWhile Char.isDigit))
          ++ ascii (if base = .fraction then "-byte floating point type" else "-byte integral type"))
    match c with
    | 'a' => finish .name 1 rest
    | 'c' => finish .char 1 rest
    | 'd' => numbered .signed 4
    | 'o' => numbered .octal 4
    | 'u' => numbered .unsigned 4
    | 'x' => numbered .hexadecimal 4
    | 'f' => numbered .fraction 8
    | c =>
      .error (ascii "invalid character '" ++ [c] ++ ascii "' in type string "
        ++ Quoting.inQuotes whole)

end DumpKind

/-! ## Settings -/

/-- How bytes are dumped. -/
structure DumpSettings where
  /-- The base of places, unless they are left out. -/
  addressBase : Option Nat := some 8
  skipped : Nat := 0
  limit : Option Nat := none
  /-- The kinds, the last one first. -/
  kinds : List DumpKind := []
  showsAll : Bool := false
  rowLength : Option Nat := none
  isBigFirst : Bool := false
  /-- Whether any option was given that rules operands out which are places. -/
  isModern : Bool := false

/-- The options of the program that dumps bytes. -/
def odRules : OptionRules :=
  { forms :=
    [.both 'A' "address-radix" .required, .word "endian" .required,
     .both 'j' "skip-bytes" .required, .both 'N' "read-bytes" .required,
     .both 'S' "strings" .optional, .both 't' "format" .required,
     .both 'v' "output-duplicates", .both 'w' "width" .optional, .word "traditional"]
    ++ (ascii "abcdfhiloxsBDFHILOXe").map (fun c => OptionForm.letter c)
    ++ [.word "help", .word "version"] }

/-- The kind that a letter stands for. -/
def letterKind? (letter : String) : Option DumpKind :=
  match letter with
  | "a" => some ⟨.name, 1, false⟩
  | "b" => some ⟨.octal, 1, false⟩
  | "c" => some ⟨.char, 1, false⟩
  | "d" => some ⟨.unsigned, 2, false⟩
  | "f" => some ⟨.fraction, 4, false⟩
  | "h" => some ⟨.hexadecimal, 2, false⟩
  | "i" => some ⟨.signed, 4, false⟩
  | "l" => some ⟨.signed, 8, false⟩
  | "o" => some ⟨.octal, 2, false⟩
  | "s" => some ⟨.signed, 2, false⟩
  | "x" => some ⟨.hexadecimal, 2, false⟩
  | "B" => some ⟨.octal, 2, false⟩
  | "D" => some ⟨.unsigned, 4, false⟩
  | "F" => some ⟨.fraction, 8, false⟩
  | "H" => some ⟨.hexadecimal, 4, false⟩
  | "I" => some ⟨.signed, 8, false⟩
  | "L" => some ⟨.signed, 8, false⟩
  | "O" => some ⟨.octal, 4, false⟩
  | "X" => some ⟨.hexadecimal, 4, false⟩
  | "e" => some ⟨.fraction, 8, false⟩
  | _ => none

/-- A number of bytes, which may be octal or hexadecimal and have a unit. -/
def byteCount? (text : ByteText) : Option Nat :=
  let read (base : Nat) (text : ByteText) : Option Nat :=
    let digits := text.takeWhile (ByteText.isDigitIn base)
    if digits.isEmpty then none
    else (Units.factor? (text.drop digits.length)).map fun factor =>
      ByteText.valueIn base digits * factor
  match text with
  | '0' :: 'x' :: rest => read 16 rest
  | '0' :: rest => read 8 ('0' :: rest)
  | text => read 10 text

/-- Settings after an option of the program that dumps bytes. -/
def odOption (settings : DumpSettings) (key : String) (argument : ByteText) :
    Program (Except Nat DumpSettings) := do
  let counted (letter : String) (put : Nat → DumpSettings) : Program (Except Nat DumpSettings) := do
    match byteCount? argument with
    | some count => return .ok { put count with isModern := true }
    | none =>
      Program.complain (ascii ("invalid -" ++ letter ++ " argument ") ++ Program.quoted argument)
      return .error 1
  match key with
  | "A" =>
    let put (base : Option Nat) : Program (Except Nat DumpSettings) :=
      return .ok { settings with addressBase := base, isModern := true }
    match argument with
    | 'd' :: _ => put (some 10)
    | 'o' :: _ => put (some 8)
    | 'x' :: _ => put (some 16)
    | 'n' :: _ => put none
    | argument =>
      Program.complain (ascii "invalid output address radix '" ++ argument.take 1
        ++ ascii "'; it must be one character from [doxn]")
      return .error 1
  | "endian" => return .ok { settings with isBigFirst := argument.head? = some 'b' }
  | "j" => counted "j" fun count => { settings with skipped := count }
  | "N" => counted "N" fun count => { settings with limit := some count }
  | "t" =>
    match DumpKind.readAll argument (argument.length + 1) argument with
    | .ok kinds => return .ok { settings with kinds := kinds.reverse ++ settings.kinds, isModern := true }
    | .error text =>
      Program.complain text
      return .error 1
  | "v" => return .ok { settings with showsAll := true, isModern := true }
  | "w" =>
    if argument.isEmpty then return .ok { settings with rowLength := some 32, isModern := true }
    else counted "w" fun count => { settings with rowLength := some count }
  | key =>
    match letterKind? key with
    | some kind => return .ok { settings with kinds := kind :: settings.kinds }
    | none => return .ok settings

/-! ## Rows -/

/-- A place in a file. -/
def placeText (settings : DumpSettings) (place : Nat) : ByteText :=
  match settings.addressBase with
  | none => []
  | some base => DumpKind.zeroed (if base = 16 then 6 else 7) (ByteText.digitsIn base place)

/-- The numbers of some bytes, each of a size. -/
def numbersOf (isBigFirst : Bool) (size : Nat) : Nat → List Nat → List Nat
  | 0, _ => []
  | count + 1, bytes =>
    let piece := bytes.take size
    let piece := if isBigFirst then piece.reverse else piece
    piece.foldr (fun byte n => n * 256 + byte) 0 :: numbersOf isBigFirst size count (bytes.drop size)

/-- The columns of a row under a kind.  The blanks that are left over are spread among them. -/
def columns (settings : DumpSettings) (kind : DumpKind) (rowLength rowWidth : Nat)
    (bytes : List Nat) : ByteText :=
  let fields := rowLength / kind.size
  let blank := (rowLength - bytes.length) / kind.size
  let extra := rowWidth - kind.width * fields
  let padded := bytes ++ List.replicate (kind.size - 1) 0
  let numbers := numbersOf settings.isBigFirst kind.size (fields - blank) padded
  let shown := numbers.zipIdx.map fun (n, place) =>
    let left := fields - place
    ByteText.padLeft (extra * left / fields - extra * (left - 1) / fields + kind.width) (kind.text n)
  let text :=
    if kind.hasText then
      List.replicate (blank * kind.width + extra * blank / fields) ' ' ++ ascii "  >"
        ++ (bytes.map fun byte =>
          if isShown (Char.ofNat byte) then Char.ofNat byte else '.') ++ ascii "<"
    else []
  shown.flatten ++ text

/-- A row, once for each kind. -/
def dumpRow (settings : DumpSettings) (kinds : List DumpKind) (rowLength rowWidth place : Nat)
    (bytes : List Nat) : ByteText :=
  let start := placeText settings place
  (kinds.zipIdx.map fun (kind, turn) =>
    (if turn = 0 then start else List.replicate start.length ' ')
      ++ columns settings kind rowLength rowWidth bytes ++ ['\n']).flatten

/-- The rows of some bytes, behind the row before them and whether it was left out.  Each step takes
a row. -/
def dumpRows (settings : DumpSettings) (kinds : List DumpKind) (rowLength rowWidth : Nat) :
    Nat → Nat → Option (List Nat) → Bool → List Nat → List ByteText
  | 0, _, _, _, _ => []
  | _ + 1, _, _, _, [] => []
  | fuel + 1, place, before, isLeftOut, bytes =>
    let row := bytes.take rowLength
    let rest := bytes.drop rowLength
    let next := place + row.length
    if !settings.showsAll && before = some row && row.length = rowLength then
      let later := dumpRows settings kinds rowLength rowWidth fuel next before true rest
      if isLeftOut then later else ascii "*\n" :: later
    else
      dumpRow settings kinds rowLength rowWidth place row
        :: dumpRows settings kinds rowLength rowWidth fuel next (some row) false rest

/-- The number of bytes of a row, with what is wrong with the number that was asked for. -/
def rowLengthOf (settings : DumpSettings) (kinds : List DumpKind) : Nat × Option Nat :=
  let unit := kinds.foldl (fun unit kind => Nat.lcm unit kind.size) 1
  match settings.rowLength with
  | some wanted =>
    if wanted != 0 && wanted % unit = 0 then (wanted, none) else (unit, some wanted)
  | none => (if unit < 16 then unit * (16 / unit) else unit, none)

/-- An operand that is a place. -/
def oldPlace? (text : ByteText) : Option Nat :=
  let text :=
    match text with
    | '+' :: rest => rest
    | text => text
  let read (base : Nat) (text : ByteText) : Option Nat :=
    let digits := text.takeWhile (ByteText.isDigitIn base)
    let factor? : Option Nat :=
      match text.drop digits.length with
      | [] => some 1
      | ['b'] => some 512
      | ['B'] => some 1024
      | _ => none
    if digits.isEmpty then none
    else factor?.map fun factor => ByteText.valueIn base digits * factor
  match text with
  | '0' :: 'x' :: rest => read 16 rest
  | text => read 8 text

/-- The files, and the place where a last operand says that they begin. -/
def oldOperands (settings : DumpSettings) (operands : List ByteText) :
    DumpSettings × List ByteText :=
  if settings.isModern then (settings, operands)
  else
    let placed (text : ByteText) (files : List ByteText) : DumpSettings × List ByteText :=
      match oldPlace? text with
      | some place => ({ settings with skipped := place }, files)
      | none => (settings, operands)
    match operands with
    | [text] => if text.head? = some '+' then placed text [] else (settings, operands)
    | [file, text] =>
      if text.head?.any fun c => c = '+' || c.isDigit then placed text [file] else (settings, operands)
    | _ => (settings, operands)

/-- Dumps the bytes of files. -/
def od : Tool :=
  Program.withArguments odRules {} odOption fun settings operands => do
    let (settings, operands) := oldOperands settings operands
    let kinds := if settings.kinds.isEmpty then [⟨.octal, 2, false⟩] else settings.kinds.reverse
    let (rowLength, refused) := rowLengthOf settings kinds
    match refused with
    | some wanted =>
      Program.complain (ascii "warning: invalid width " ++ ByteText.ofNat wanted
        ++ ascii "; using " ++ ByteText.ofNat rowLength ++ ascii " instead")
    | none => pure ()
    let (text, code) ← Program.allText operands
    let isAnyOpen ← (Program.inputsOr operands).anyM fun file => do
      return file = ['-'] || (match ← Program.openInput file with
        | .ok _ => true
        | .error _ => false)
    if !isAnyOpen then return code
    else if text.length < settings.skipped then
      Program.complain (ascii "cannot skip past end of combined input")
      return 1
    else
      let bytes := (text.drop settings.skipped).map fun c => c.toNat % 256
      let bytes := bytes.take (settings.limit.getD bytes.length)
      let rowWidth := kinds.foldl (fun width kind =>
        max width ((kind.width + 1) * (rowLength / kind.size))) 0
      Program.out (dumpRows settings kinds rowLength rowWidth (bytes.length + 1) settings.skipped
        none false bytes).flatten
      if settings.addressBase.isSome then
        Program.outLine (placeText settings (settings.skipped + bytes.length))
      return code

end Tool

end SchemaDocs.Shell
