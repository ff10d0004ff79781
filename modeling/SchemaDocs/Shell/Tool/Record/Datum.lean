import SchemaDocs.Shell.NumberText
/-!
# Values of programs over records

A value is a number or a text, or both: a text from outside that looks like a number is
compared as one.  A value that was never set is zero and empty.
-/

namespace SchemaDocs.Shell.Record

/-- A value. -/
inductive Datum where
  | unset
  | number (n : Float)
  | text (text : ByteText)
  /-- A text from outside that looks like a number. -/
  | mixed (text : ByteText) (n : Float)
deriving Inhabited

namespace Number

/-- The parts of a number: a whole number times a power of two. -/
def parts (n : Float) : Fractional := Fractional.ofBits 11 52 n.toBits.toNat

/-- The number nearest to a whole number times a power of two. -/
def ofParts (number : Fractional) : Float :=
  let size : Float :=
    match number.magnitude with
    | .finite whole exponent => (Float.ofNat whole).scaleB exponent
    | .infinite => 1.0 / 0.0
    | .nothing => 0.0 / 0.0
  if number.isNegative then -size else size

/-- The number at the start of a text, zero if there is none. -/
def ofText (text : ByteText) : Float :=
  match Fractional.read? 53 text with
  | some (number, _) => ofParts number
  | none => 0

/-- The whole part of a number.  What is not finite has none. -/
def whole? (n : Float) : Option Int :=
  let number := parts n
  match number.magnitude with
  | .finite whole exponent =>
    let size : Nat :=
      if 0 ≤ exponent then whole * Nat.pow 2 exponent.toNat else whole / Nat.pow 2 (-exponent).toNat
    some (if number.isNegative then -(size : Int) else size)
  | _ => none

/-- The whole part of a number within some bounds. -/
def bounded (least most : Int) (n : Float) : Int :=
  match whole? n with
  | some whole => max least (min most whole)
  | none =>
    match (parts n).magnitude with
    | .infinite => if n < 0 then least else most
    | _ => least

/-- The least whole number of 64 bits. -/
def least : Int := -9223372036854775808

/-- The greatest whole number of 64 bits. -/
def most : Int := 9223372036854775807

/-- The greatest whole number of 64 bits without a sign. -/
def mostUnsigned : Int := 18446744073709551615

/-- A number as a natural one, which is zero below zero. -/
def toNat (n : Float) : Nat := (bounded 0 most n).toNat

/-- Whether a number is none at all. -/
def isNothing (n : Float) : Bool := n != n

/-- What is left of a number when another one is taken from it as often as possible. -/
def remainder (a b : Float) : Float :=
  let first := parts a
  let second := parts b
  match first.magnitude, second.magnitude with
  | .finite _ _, .infinite => a
  | .finite n e, .finite m f =>
    if m = 0 then 0.0 / 0.0
    else
      let low := min e f
      let rest := (n * Nat.pow 2 (e - low).toNat) % (m * Nat.pow 2 (f - low).toNat)
      let (numerator, denominator) := Fractional.ratio rest low
      ofParts (Fractional.ofRatio 53 first.isNegative numerator denominator)
  | _, _ => 0.0 / 0.0

/-- The directive that the text of a number is written under where no other one is given. -/
def usual : Directive := { conversion := 'g', precision := some 6 }

/-- A number under a directive for fractions. -/
def write (directive : Directive) (n : Float) : ByteText :=
  let number := parts n
  match number.magnitude with
  | .nothing => Fractional.write directive { number with isNegative := true }
  | _ => Fractional.write directive number

/-- The text of a whole number that fits into 64 bits. -/
def wholeText? (n : Float) : Option ByteText :=
  match whole? n with
  | none => none
  | some whole =>
    let kept := max least (min mostUnsigned whole)
    if Float.ofInt whole == n && Float.ofInt kept == n then some (ByteText.ofInt kept) else none

end Number

namespace Datum

/-- A truth value as a number. -/
def ofBool (holds : Bool) : Datum := .number (if holds then 1 else 0)

/-- A natural number as a value. -/
def ofNat (n : Nat) : Datum := .number (Float.ofNat n)

/-- Whether a text looks like a number, with blanks around it or not. -/
def looksNumeric (text : ByteText) : Bool :=
  let body := text.dropWhile isSpaceChar
  let digits :=
    match body with
    | '-' :: rest => rest
    | '+' :: rest => rest
    | rest => rest
  digits.head?.any (fun c => c.isDigit || c = '.')
    && (Fractional.read? 53 body).any fun (_, rest) => rest.all isSpaceChar

/-- A text from outside as a value. -/
def ofInput (text : ByteText) : Datum :=
  if looksNumeric text then .mixed text (Number.ofText text) else .text text

/-- The number of a value. -/
def toNumber : Datum → Float
  | .unset => 0
  | .number n => n
  | .text chars => Number.ofText chars
  | .mixed _ n => n

/-- The text of a value, where numbers that are not whole are written in some way. -/
def toText (write : Float → ByteText) : Datum → ByteText
  | .unset => []
  | .number n => (Number.wholeText? n).getD (write n)
  | .text chars => chars
  | .mixed chars _ => chars

/-- Whether a value counts as true. -/
def isTrue : Datum → Bool
  | .unset => false
  | .number n => n != 0
  | .text chars => !chars.isEmpty
  | .mixed _ n => n != 0

/-- Whether a value is compared as a number if the other one is. -/
def isNumeric : Datum → Bool
  | .text _ => false
  | _ => true

/-- The order of two values: as numbers if both are, otherwise as texts. -/
def order (write : Float → ByteText) (a b : Datum) : Ordering :=
  if a.isNumeric && b.isNumeric then
    let x := a.toNumber
    let y := b.toNumber
    if x < y then .lt else if x == y then .eq else .gt
  else
    let x := a.toText write
    let y := b.toText write
    if decide (x < y) then .lt else if x = y then .eq else .gt

end Datum

end SchemaDocs.Shell.Record
