import SchemaDocs.Shell.ByteText
/-!
# Numbers in texts

How numbers are written under a directive: with a least width, a number of digits, a sign
and a base.  Numbers with a fraction are kept as a whole number times a power of two, so
that every rounding is exact; a tie goes to the even neighbour.
-/

namespace SchemaDocs.Shell

/-- How something is written. -/
structure Directive where
  flags : ByteText := []
  width : Nat := 0
  precision : Option Nat := none
  conversion : Char := 's'
deriving DecidableEq

namespace Directive

/-- Whether a directive has a flag. -/
def has (directive : Directive) (flag : Char) : Bool := directive.flags.contains flag

/-- A text with blanks up to the width. -/
def pad (directive : Directive) (text : ByteText) : ByteText :=
  if directive.has '-' then ByteText.padRight directive.width text
  else ByteText.padLeft directive.width text

/-- Digits behind a sign or another mark, with zeros between them up to the width, or with blanks
around both. -/
def padNumber (directive : Directive) (mayFill : Bool) (mark digits : ByteText) : ByteText :=
  if mayFill && directive.has '0' && !directive.has '-' then
    mark ++ List.replicate (directive.width - (mark.length + digits.length)) '0' ++ digits
  else directive.pad (mark ++ digits)

/-- A text, cut off after so many characters as the precision says. -/
def writeText (directive : Directive) (text : ByteText) : ByteText :=
  directive.pad (match directive.precision with
    | some length => text.take length
    | none => text)

/-- Digits with zeros before them up to the precision.  Without digits to show zero is nothing. -/
def withPrecision (directive : Directive) (n : Nat) (digits : ByteText) : ByteText :=
  match directive.precision with
  | none => digits
  | some 0 => if n = 0 then [] else digits
  | some least => List.replicate (least - digits.length) '0' ++ digits

/-- The mark of a number that is below zero or not. -/
def sign (directive : Directive) (isNegative : Bool) : ByteText :=
  if isNegative then ['-']
  else if directive.has '+' then ['+']
  else if directive.has ' ' then [' ']
  else []

/-- A whole number with its sign. -/
def writeSigned (directive : Directive) (n : Int) : ByteText :=
  let digits := directive.withPrecision n.natAbs (ByteText.ofNat n.natAbs)
  directive.padNumber directive.precision.isNone (directive.sign (n < 0)) digits

/-- A whole number without a sign in the base of the conversion. -/
def writeUnsigned (directive : Directive) (n : Nat) : ByteText :=
  let plain : ByteText :=
    match directive.conversion with
    | 'o' => ByteText.digitsIn 8 n
    | 'x' => ByteText.digitsIn 16 n
    | 'X' => (ByteText.digitsIn 16 n).map Char.toUpper
    | _ => ByteText.ofNat n
  let digits := directive.withPrecision n plain
  let isMarked := directive.has '#'
  let digits :=
    if isMarked && directive.conversion = 'o' && digits.head? != some '0' then '0' :: digits
    else digits
  let mark : ByteText :=
    if isMarked && n != 0 && directive.conversion = 'x' then ['0', 'x']
    else if isMarked && n != 0 && directive.conversion = 'X' then ['0', 'X']
    else []
  directive.padNumber directive.precision.isNone mark digits

end Directive

/-- A number that is finite, infinite or none at all. -/
inductive Magnitude where
  /-- A whole number times a power of two. -/
  | finite (whole : Nat) (exponent : Int)
  | infinite
  | nothing
deriving DecidableEq

/-- A number with a fraction. -/
structure Fractional where
  isNegative : Bool := false
  magnitude : Magnitude
deriving DecidableEq

namespace Fractional

/-- The quotient of two numbers rounded to a whole one, of two neighbours as near the even one. -/
def roundDiv (numerator denominator : Nat) : Nat :=
  let quotient := numerator / denominator
  let rest := 2 * (numerator % denominator)
  if denominator < rest || (rest = denominator && quotient % 2 = 1) then quotient + 1 else quotient

/-- A quotient rounded to a number of binary digits. -/
def ofRatio (bits : Nat) (isNegative : Bool) (numerator denominator : Nat) : Fractional :=
  if numerator = 0 then ⟨isNegative, .finite 0 0⟩
  else
    let shift : Int := (numerator.log2 : Int) - denominator.log2 - bits
    let scaled (shift : Int) : Nat :=
      if 0 ≤ shift then roundDiv numerator (denominator * Nat.pow 2 shift.toNat)
      else roundDiv (numerator * Nat.pow 2 (-shift).toNat) denominator
    let shift := if scaled shift < Nat.pow 2 bits then shift else shift + 1
    ⟨isNegative, .finite (scaled shift) shift⟩

/-- The exact quotient that a whole number times a power of two is. -/
def ratio (whole : Nat) (exponent : Int) : Nat × Nat :=
  if 0 ≤ exponent then (whole * Nat.pow 2 exponent.toNat, 1) else (whole, Nat.pow 2 (-exponent).toNat)

/-- The number with a fraction that some bits stand for, where the exponent and the digits have so
many of them. -/
def ofBits (exponentBits digitBits bits : Nat) : Fractional :=
  let isNegative := bits / Nat.pow 2 (exponentBits + digitBits) % 2 = 1
  let exponent := bits / Nat.pow 2 digitBits % Nat.pow 2 exponentBits
  let digits := bits % Nat.pow 2 digitBits
  let bias : Int := (Nat.pow 2 (exponentBits - 1) : Nat) - 1 + digitBits
  if exponent + 1 = Nat.pow 2 exponentBits then
    ⟨isNegative, if digits = 0 then .infinite else .nothing⟩
  else if exponent = 0 then ⟨isNegative, .finite digits (1 - bias)⟩
  else ⟨isNegative, .finite (digits + Nat.pow 2 digitBits) (exponent - bias)⟩

/-- A number in decimal digits, with a point and an exponent if it has them. -/
structure Decimal where
  isNegative : Bool
  digits : ByteText
  /-- The number of digits behind the point. -/
  places : Nat
  exponent : Int

/-- The exponent at the start of a text, and what follows it. -/
def readExponent (text : ByteText) : Int × ByteText :=
  match text with
  | e :: rest =>
    if e = 'e' || e = 'E' then
      let (isNegative, digits) :=
        match rest with
        | '-' :: rest => (true, rest)
        | '+' :: rest => (false, rest)
        | rest => (false, rest)
      let taken := digits.takeWhile Char.isDigit
      if taken.isEmpty then (0, text)
      else
        let value := min (ByteText.valueIn 10 taken) 100000
        ((if isNegative then -(value : Int) else value), digits.drop taken.length)
    else (0, text)
  | [] => (0, [])

/-- The number at the start of a text after a sign, and what follows it. -/
def readMagnitude (bits : Nat) (isNegative : Bool) (text : ByteText) : Option (Fractional × ByteText) :=
  let lower := ByteText.toLower text
  if ByteText.startsWith (ascii "infinity") lower then
    some (⟨isNegative, .infinite⟩, text.drop 8)
  else if ByteText.startsWith (ascii "inf") lower then some (⟨isNegative, .infinite⟩, text.drop 3)
  else if ByteText.startsWith (ascii "nan") lower then some (⟨isNegative, .nothing⟩, text.drop 3)
  else if ByteText.startsWith (ascii "0x") lower && (lower[2]?).any (ByteText.isDigitIn 16) then
    let digits := (text.drop 2).takeWhile (ByteText.isDigitIn 16)
    some (ofRatio bits isNegative (ByteText.valueIn 16 digits) 1, text.drop (2 + digits.length))
  else
    let whole := text.takeWhile Char.isDigit
    let rest := text.drop whole.length
    let (fraction, rest) :=
      match rest with
      | '.' :: more =>
        let fraction := more.takeWhile Char.isDigit
        if whole.isEmpty && fraction.isEmpty then ([], rest)
        else (fraction, more.drop fraction.length)
      | rest => ([], rest)
    if whole.isEmpty && fraction.isEmpty then none
    else
      let (exponent, rest) := readExponent rest
      let value := ByteText.valueIn 10 (whole ++ fraction)
      let power := exponent - fraction.length
      let size : Int := (whole ++ fraction).length + power
      let number :=
        if value != 0 && 5000 < size then ⟨isNegative, .infinite⟩
        else if size < -5000 then ⟨isNegative, .finite 0 0⟩
        else if 0 ≤ power then ofRatio bits isNegative (value * Nat.pow 10 power.toNat) 1
        else ofRatio bits isNegative value (Nat.pow 10 (-power).toNat)
      some (number, rest)

/-- The number at the start of a text, after blanks, and what follows it. -/
def read? (bits : Nat) (text : ByteText) : Option (Fractional × ByteText) :=
  match text.dropWhile isSpaceChar with
  | '-' :: rest => readMagnitude bits true rest
  | '+' :: rest => readMagnitude bits false rest
  | rest => readMagnitude bits false rest

/-- Digits with a point before the last so many of them. -/
def pointed (places : Nat) (isMarked : Bool) (n : Nat) : ByteText :=
  let digits := ByteText.ofNat n
  let digits := List.replicate (places + 1 - digits.length) '0' ++ digits
  let whole := digits.take (digits.length - places)
  if places = 0 then (if isMarked then whole ++ ['.'] else whole)
  else whole ++ ['.'] ++ digits.drop (digits.length - places)

/-- The digits of a number with so many places. -/
def fixed (whole : Nat) (exponent : Int) (places : Nat) (isMarked : Bool) : ByteText :=
  let (numerator, denominator) := ratio whole exponent
  pointed places isMarked (roundDiv (numerator * Nat.pow 10 places) denominator)

/-- The decimal exponent of a quotient that is not zero, where the digits after the first so many are
rounded off, with those digits. -/
def scientific (numerator denominator places : Nat) : Int × Nat :=
  let guess : Int :=
    (ByteText.ofNat numerator).length - (ByteText.ofNat denominator).length
  let isBelow : Bool :=
    if 0 ≤ guess then numerator < denominator * Nat.pow 10 guess.toNat
    else numerator * Nat.pow 10 (-guess).toNat < denominator
  let exponent := if isBelow then guess - 1 else guess
  let shift : Int := places - exponent
  let digits :=
    if 0 ≤ shift then roundDiv (numerator * Nat.pow 10 shift.toNat) denominator
    else roundDiv numerator (denominator * Nat.pow 10 (-shift).toNat)
  if digits = Nat.pow 10 (places + 1) then (exponent + 1, Nat.pow 10 places) else (exponent, digits)

/-- An exponent behind its letter, with two digits at least. -/
def exponentText (exponent : Int) : ByteText :=
  let digits := ByteText.ofNat exponent.natAbs
  ['e', if exponent < 0 then '-' else '+'] ++ List.replicate (2 - digits.length) '0' ++ digits

/-- The digits of a number with one before the point, and its exponent. -/
def exponential (whole : Nat) (exponent : Int) (places : Nat) (isMarked : Bool) : ByteText :=
  let (power, digits) :=
    if whole = 0 then ((0 : Int), 0)
    else
      let (numerator, denominator) := ratio whole exponent
      scientific numerator denominator places
  pointed places isMarked digits ++ exponentText power

/-- Digits without the zeros at the end of their fraction, and without a point at the end. -/
def dropZeros (text : ByteText) : ByteText :=
  if text.contains '.' then
    let kept := text.reverse.dropWhile (· = '0')
    (match kept with
      | '.' :: rest => rest
      | rest => rest).reverse
  else text

/-- A number in the shorter of both forms, with so many digits at most. -/
def general (whole : Nat) (exponent : Int) (digits : Nat) (isMarked : Bool) : ByteText :=
  let digits := max digits 1
  let power :=
    if whole = 0 then (0 : Int)
    else
      let (numerator, denominator) := ratio whole exponent
      (scientific numerator denominator (digits - 1)).1
  if -4 ≤ power && power < digits then
    let text := fixed whole exponent ((digits : Int) - 1 - power).toNat isMarked
    if isMarked then text else dropZeros text
  else
    let text := exponential whole exponent (digits - 1) isMarked
    let number := text.takeWhile (· != 'e')
    if isMarked then text else dropZeros number ++ text.drop number.length

/-- A number under a directive. -/
def write (directive : Directive) (number : Fractional) : ByteText :=
  let sign := directive.sign number.isNegative
  let lower := directive.conversion.toLower
  let places := directive.precision.getD 6
  let text :=
    match number.magnitude with
    | .infinite => directive.pad (sign ++ ascii "inf")
    | .nothing => directive.pad (sign ++ ascii "nan")
    | .finite whole exponent =>
      let digits :=
        if lower = 'f' then fixed whole exponent places (directive.has '#')
        else if lower = 'e' then exponential whole exponent places (directive.has '#')
        else general whole exponent places (directive.has '#')
      directive.padNumber true sign digits
  if directive.conversion.isUpper then text.map Char.toUpper else text

end Fractional

end SchemaDocs.Shell
