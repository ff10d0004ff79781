import SchemaDocs.Text.Utf8
/-!
# Text made of bytes

Programs read and write bytes, and most of them take every byte for a character.  Here
such a text is a list of characters below 256, each of which stands for a byte.
-/

namespace SchemaDocs.Shell

/-- A text in which every character stands for a byte. -/
abbrev ByteText := List Char

namespace ByteText

/-- Bytes as a text. -/
def ofBytes (bytes : Bytes) : ByteText := bytes.map fun byte => Char.ofNat byte.toNat

/-- The bytes of a text. -/
def toBytes (text : ByteText) : Bytes := text.map fun c => UInt8.ofNat c.toNat

/-- The UTF-8 form of a text, byte by byte. -/
def ofString (text : String) : ByteText := ofBytes (Text.toUtf8 text)

/-- The text of bytes in UTF-8. -/
def toString (text : ByteText) : String := Text.ofUtf8Lenient text.toBytes

/-- The hash of a text mixes its bytes one after the other. -/
instance : Hashable ByteText where
  hash text := text.foldl (fun hash c => mixHash hash (UInt64.ofNat c.toNat)) 7

/-- A text in lower case, as far as it is in ASCII. -/
def toLower (text : ByteText) : ByteText := text.map Char.toLower

/-- A text after blanks and tabs. -/
def dropBlanks (text : ByteText) : ByteText := text.dropWhile fun c => c = ' ' || c = '\t'

/-! ## Numbers -/

/-- The decimal digits of a number. -/
def ofNat (n : Nat) : ByteText := (Nat.toDigits 10 n)

/-- The decimal digits of a number, after a sign if it is below zero. -/
def ofInt : Int → ByteText
  | .ofNat n => ofNat n
  | .negSucc n => '-' :: ofNat (n + 1)

/-- The value of a digit in a base up to sixteen. -/
def digitValue? (c : Char) : Option Nat :=
  if c.isDigit then some (c.toNat - '0'.toNat)
  else if 'a' ≤ c && c ≤ 'z' then some (c.toNat - 'a'.toNat + 10)
  else if 'A' ≤ c && c ≤ 'Z' then some (c.toNat - 'A'.toNat + 10)
  else none

/-- Whether a character is a digit in a base. -/
def isDigitIn (base : Nat) (c : Char) : Bool := (digitValue? c).any fun value => value < base

/-- The value of digits in a base.  Other characters count nothing. -/
def valueIn (base : Nat) (digits : ByteText) : Nat :=
  digits.foldl (fun n c => n * base + (digitValue? c).getD 0) 0

/-- The number of a text of decimal digits only, of which there is at least one. -/
def toNat? (text : ByteText) : Option Nat :=
  if text.isEmpty || !text.all Char.isDigit then none else some (valueIn 10 text)

/-- The digits of a number in a base up to sixteen. -/
def digitsIn (base n : Nat) : ByteText := Nat.toDigits base n

/-- The sum of numbers. -/
def total (counts : List Nat) : Nat := counts.foldl (· + ·) 0

/-- Whether a text does not come behind another one in the order of bytes. -/
def isBefore (a b : ByteText) : Bool := !decide (b < a)

/-! ## Shapes -/

/-- A text with blanks before it, up to a width. -/
def padLeft (width : Nat) (text : ByteText) : ByteText :=
  List.replicate (width - text.length) ' ' ++ text

/-- A text with blanks after it, up to a width. -/
def padRight (width : Nat) (text : ByteText) : ByteText :=
  text ++ List.replicate (width - text.length) ' '

/-- Whether a text begins with another one. -/
def startsWith (start text : ByteText) : Bool := start.isPrefixOf text

/-- Whether a text occurs in another one. -/
def occursIn (part : ByteText) : ByteText → Bool
  | [] => part.isEmpty
  | c :: rest => part.isPrefixOf (c :: rest) || occursIn part rest

/-- The pieces of a text between the occurrences of a character. -/
def splitAt (separator : Char) (text : ByteText) : List ByteText :=
  let cut := text.foldl
    (fun (pieces, piece) c =>
      if c = separator then (piece.reverse :: pieces, []) else (pieces, c :: piece))
    (([] : List ByteText), ([] : ByteText))
  (cut.2.reverse :: cut.1).reverse

/-- The words of a text between blanks, tabs and line feeds. -/
def words (text : ByteText) : List ByteText :=
  let close := fun (words : List ByteText) (word : ByteText) =>
    if word.isEmpty then words else word.reverse :: words
  let cut := text.foldl
    (fun (words, word) c =>
      if c = ' ' || c = '\t' || c = '\n' then (close words word, []) else (words, c :: word))
    (([] : List ByteText), ([] : ByteText))
  (close cut.1 cut.2).reverse

/-! ## Lines -/

/-- A line, and whether a terminator ends it. -/
structure Line where
  text : ByteText
  isEnded : Bool
deriving DecidableEq

/-- The lines of a text under a terminator.  Only the last one may lack it. -/
def linesEndedBy (terminator : Char) (text : ByteText) : List Line :=
  let cut := text.foldl
    (fun (lines, line) c =>
      if c = terminator then (⟨line.reverse, true⟩ :: lines, []) else (lines, c :: line))
    (([] : List Line), ([] : ByteText))
  (if cut.2.isEmpty then cut.1 else ⟨cut.2.reverse, false⟩ :: cut.1).reverse

/-- The lines of a text. -/
def lines (text : ByteText) : List Line := linesEndedBy '\n' text

/-- The text of a line with its terminator, if it has one. -/
def Line.written (line : Line) : ByteText := if line.isEnded then line.text ++ ['\n'] else line.text

/-- Texts put together, each with a line feed after it. -/
def unlines (lines : List ByteText) : ByteText := (lines.map fun line => line ++ ['\n']).flatten

end ByteText

/-- Text in ASCII as a text of bytes. -/
def ascii (text : String) : ByteText := text.toList

/-! ## Classes of characters -/

/-- Whether a character is one of the blanks of the language C. -/
def isSpaceChar (c : Char) : Bool :=
  c = ' ' || c = '\t' || c = '\n' || c = '\x0b' || c = '\x0c' || c = '\r'

/-- Whether a character is a mark in ASCII, neither a letter nor a digit nor blank. -/
def isPunctuation (c : Char) : Bool := '!' ≤ c && c ≤ '~' && !c.isAlphanum

/-- Whether a character is shown in ASCII. -/
def isShown (c : Char) : Bool := ' ' ≤ c && c ≤ '~'

/-- Whether a character has a property of a given name. -/
def inClass? (name : ByteText) : Option (Char → Bool) :=
  match String.ofList name with
  | "alpha" => some Char.isAlpha
  | "digit" => some Char.isDigit
  | "alnum" => some Char.isAlphanum
  | "upper" => some Char.isUpper
  | "lower" => some Char.isLower
  | "space" => some isSpaceChar
  | "blank" => some fun c => c = ' ' || c = '\t'
  | "punct" => some isPunctuation
  | "print" => some isShown
  | "graph" => some fun c => isShown c && c != ' '
  | "cntrl" => some fun c => c.toNat < 0x20 || c = '\x7f'
  | "xdigit" => some (ByteText.isDigitIn 16)
  | _ => none

end SchemaDocs.Shell
