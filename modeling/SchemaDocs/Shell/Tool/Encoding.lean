import SchemaDocs.Shell.Tool.Basic
/-!
# Bytes as letters

Bytes are written with letters of an alphabet, each of which stands for a few bits, and
read back.
-/

namespace SchemaDocs.Shell

namespace Tool

/-- An alphabet to write bytes with. -/
structure Alphabet where
  letters : ByteText
  /-- The number of whole bits of a letter. -/
  bits : Nat
  /-- The number of bytes of a group. -/
  size : Nat
  /-- The number of letters of a group. -/
  group : Nat
  /-- The number of letters below which a group says nothing. -/
  least : Nat
  /-- Whether the letter that weighs least stands first in a group. -/
  isTurned : Bool := false
  /-- Whether there are only whole groups. -/
  isWhole : Bool := false

namespace Alphabet

/-- The letters of bytes in base sixty-four, the last two of them apart. -/
def sixtyTwo : ByteText := ascii "ABCDEFGHIJKLMNOPQRSTUVWXYZabcdefghijklmnopqrstuvwxyz0123456789"

/-- Sixty-four letters. -/
def sixtyFour : Alphabet :=
  { letters := sixtyTwo ++ ['+', '/'], bits := 6, size := 3, group := 4, least := 2 }

/-- Sixty-four letters that may stand in addresses. -/
def addressSafe : Alphabet := { sixtyFour with letters := sixtyTwo ++ ['-', '_'] }

/-- Thirty-two letters. -/
def thirtyTwo : Alphabet :=
  { letters := ascii "ABCDEFGHIJKLMNOPQRSTUVWXYZ234567", bits := 5, size := 5, group := 8
    least := 8 }

/-- Thirty-two letters in the order of their bytes. -/
def thirtyTwoInOrder : Alphabet :=
  { thirtyTwo with letters := ascii "0123456789ABCDEFGHIJKLMNOPQRSTUV" }

/-- Hexadecimal digits. -/
def sixteen : Alphabet :=
  { letters := ascii "0123456789ABCDEF", bits := 4, size := 1, group := 2, least := 2 }

/-- Binary digits. -/
def two : Alphabet :=
  { letters := ascii "01", bits := 1, size := 1, group := 8, least := 8 }

/-- Eighty-five letters. -/
def eightyFive : Alphabet :=
  { letters := ascii ("0123456789abcdefghijklmnopqrstuvwxyzABCDEFGHIJKLMNOPQRSTUVWXYZ"
      ++ ".-:+=^!/*?&<>()[]\x7b\x7d@%$#")
    bits := 6, size := 4, group := 5, least := 5, isWhole := true }

/-- The number of letters. -/
def base (alphabet : Alphabet) : Nat := alphabet.letters.length

/-- The letters of up to a group of bytes. -/
def encodeGroup (alphabet : Alphabet) (bytes : ByteText) : ByteText :=
  let n := (bytes ++ List.replicate (alphabet.size - bytes.length) '\x00').foldl
    (fun n c => n * 256 + c.toNat % 256) 0
  let letters := (List.range alphabet.group).reverse.map fun place =>
    (alphabet.letters[n / Nat.pow alphabet.base place % alphabet.base]?).getD '='
  let letters := if alphabet.isTurned then letters.reverse else letters
  if bytes.length = alphabet.size then letters
  else
    let used := (8 * bytes.length + alphabet.bits - 1) / alphabet.bits
    letters.take used ++ List.replicate (alphabet.group - used) '='

/-- The letters of a text.  Each step takes a group. -/
def encodeFrom (alphabet : Alphabet) : Nat → ByteText → List ByteText
  | 0, _ => []
  | _ + 1, [] => []
  | fuel + 1, text =>
    alphabet.encodeGroup (text.take alphabet.size)
      :: encodeFrom alphabet fuel (text.drop alphabet.size)

/-- The letters of a text. -/
def encode (alphabet : Alphabet) (text : ByteText) : ByteText :=
  (alphabet.encodeFrom (text.length + 1) text).flatten

/-- The bytes of a group, as many as there are before the first letter that does not belong there,
and whether the group is right. -/
def decodeGroup (alphabet : Alphabet) (group : ByteText) : ByteText × Bool :=
  let values := (group.map fun c => alphabet.letters.findIdx? (· = c)).takeWhile Option.isSome
  let values := values.filterMap id
  let filled := values ++ List.replicate (alphabet.group - values.length) 0
  let filled := if alphabet.isTurned then filled.reverse else filled
  let n := filled.foldl (fun n value => n * alphabet.base + value) 0
  let count :=
    if values.length = alphabet.group then alphabet.size else alphabet.bits * values.length / 8
  let used :=
    if count = alphabet.size then alphabet.group
    else (8 * count + alphabet.bits - 1) / alphabet.bits
  let bytes := (List.range alphabet.size).reverse.map fun place =>
    Char.ofNat (n / Nat.pow 256 place % 256)
  let isRight := group.length = alphabet.group && used = values.length && count != 0
    && (group.drop values.length).all (· = '=') && n < Nat.pow 256 alphabet.size
    && !(alphabet.isWhole && values.length < alphabet.group)
  (if group.length < alphabet.least || (alphabet.isWhole && !isRight) then []
    else bytes.take count, isRight)

/-- The bytes of letters up to the first group that is not right, and whether all are.  Each step
takes a group. -/
def decodeFrom (alphabet : Alphabet) : Nat → ByteText → List ByteText × Bool
  | 0, _ => ([], true)
  | _ + 1, [] => ([], true)
  | fuel + 1, text =>
    let (bytes, isRight) := alphabet.decodeGroup (text.take alphabet.group)
    if isRight then
      let (more, isRight) := decodeFrom alphabet fuel (text.drop alphabet.group)
      (bytes :: more, isRight)
    else ([bytes], false)

/-- The bytes of letters up to the first group that is not right, and whether all are. -/
def decode (alphabet : Alphabet) (text : ByteText) : ByteText × Bool :=
  let (pieces, isRight) := alphabet.decodeFrom (text.length + 1) text
  (pieces.flatten, isRight)

end Alphabet

/-- How bytes are written with letters. -/
structure EncodingSettings where
  isDecoding : Bool := false
  ignoresOthers : Bool := false
  width : Nat := 76

/-- The options of the programs that write bytes with letters. -/
def encodingRules : OptionRules :=
  { forms :=
    [.both 'd' "decode", .both 'i' "ignore-garbage", .both 'w' "wrap" .required, .word "help",
     .word "version"] }

/-- Settings after an option of the programs that write bytes with letters. -/
def encodingOption (settings : EncodingSettings) (key : String) (argument : ByteText) :
    Program (Except Nat EncodingSettings) := do
  match key with
  | "d" => return .ok { settings with isDecoding := true }
  | "i" => return .ok { settings with ignoresOthers := true }
  | "w" =>
    match ByteText.toNat? argument with
    | some width => return .ok { settings with width := width }
    | none =>
      Program.complain (ascii "invalid wrap size: " ++ Program.quoted argument)
      return .error 1
  | _ => return .ok settings

/-- A text in lines of a width, or in one without an end.  Each step takes a line. -/
def wrapped (width : Nat) : Nat → ByteText → List ByteText
  | 0, _ => []
  | _ + 1, [] => []
  | fuel + 1, text =>
    if width = 0 then [text]
    else (text.take width ++ ['\n']) :: wrapped width fuel (text.drop width)

/-- Writes the bytes of a file with letters, or reads them back. -/
def encodeFile (alphabet : Alphabet) (settings : EncodingSettings) (operands : List ByteText) :
    Program Nat := do
  match operands with
  | _ :: extra :: _ => Program.extraOperand extra
  | operands =>
    let file := operands.head?.getD ['-']
    match ← Program.readOperand file with
    | .error cause =>
      if cause = .isADirectory then Program.complain (ascii ("read error: " ++ cause.reason))
      else Program.complainOf file cause
      return 1
    | .ok text =>
      if settings.isDecoding then
        let letters := text.filter fun c =>
          if settings.ignoresOthers then alphabet.letters.contains c || c = '=' else c != '\n'
        let (bytes, isRight) := alphabet.decode letters
        Program.out bytes
        if isRight then return 0
        else
          Program.complain (ascii "invalid input")
          return 1
      else if alphabet.isWhole && text.length % alphabet.size != 0 then
        Program.die 1 (ascii "invalid input (length must be multiple of "
          ++ ByteText.ofNat alphabet.size ++ ascii " characters)")
      else
        Program.out (wrapped settings.width (text.length + 1) (alphabet.encode text)).flatten
        return 0

/-- Writes the bytes of a file with letters, or reads them back. -/
def encodeWith (alphabet : Alphabet) : Tool :=
  Program.withArguments encodingRules {} encodingOption (encodeFile alphabet)

/-- The alphabets that can be chosen, by name. -/
def alphabets : List (String × Alphabet) :=
  [("base64", .sixtyFour), ("base64url", .addressSafe), ("base32", .thirtyTwo),
   ("base32hex", .thirtyTwoInOrder), ("base16", .sixteen), ("base2msbf", .two),
   ("base2lsbf", { Alphabet.two with isTurned := true }), ("z85", .eightyFive)]

/-- Writes the bytes of a file with the letters of a chosen alphabet, or reads them back. -/
def basenc : Tool :=
  Program.withArguments
    { forms := encodingRules.forms ++ alphabets.map fun (name, _) => .word name }
    ((none, {}) : Option Alphabet × EncodingSettings)
    (fun (chosen, settings) key argument => do
      match alphabets.find? fun (name, _) => name = key with
      | some (_, alphabet) => return .ok (some alphabet, settings)
      | none =>
        match ← encodingOption settings key argument with
        | .ok settings => return .ok (chosen, settings)
        | .error code => return .error code)
    fun (chosen, settings) operands => do
      match chosen with
      | none => Program.misuse 1 (ascii "missing encoding type")
      | some alphabet => encodeFile alphabet settings operands

end Tool

end SchemaDocs.Shell
