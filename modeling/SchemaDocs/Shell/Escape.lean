import SchemaDocs.Shell.ByteText
/-!
# Characters behind a backslash

Characters that are hard to write are named by a backslash with a letter, or with their
number.
-/

namespace SchemaDocs.Shell

namespace Escape

/-- The character that a letter names. -/
def letter? (c : Char) : Option Char :=
  match c with
  | 'a' => some '\x07'
  | 'b' => some '\x08'
  | 'e' => some '\x1b'
  | 'f' => some '\x0c'
  | 'n' => some '\n'
  | 'r' => some '\r'
  | 't' => some '\t'
  | 'v' => some '\x0b'
  | '\\' => some '\\'
  | _ => none

/-- A character by its number, of which the last eight bits count. -/
def byte (number : Nat) : Char := Char.ofNat (number % 256)

/-- Up to some digits in a base at the start of a text, and what follows them. -/
def digits (base most : Nat) (text : ByteText) : ByteText × ByteText :=
  let digits := (text.take most).takeWhile (ByteText.isDigitIn base)
  (digits, text.drop digits.length)

/-- A text with what is behind backslashes replaced, up to a mark that ends all output, and whether
there is one.  Eight is the base of numbers.  Each step takes a character. -/
def interpretFrom : Nat → ByteText → ByteText → ByteText × Bool
  | 0, taken, _ => (taken.reverse, false)
  | _ + 1, taken, [] => (taken.reverse, false)
  | fuel + 1, taken, '\\' :: rest =>
    match rest with
    | [] => (('\\' :: taken).reverse, false)
    | 'c' :: _ => (taken.reverse, true)
    | '0' :: rest =>
      let (number, rest) := digits 8 3 rest
      interpretFrom fuel (byte (ByteText.valueIn 8 number) :: taken) rest
    | c :: after =>
      if ByteText.isDigitIn 8 c then
        let (number, rest) := digits 8 3 rest
        interpretFrom fuel (byte (ByteText.valueIn 8 number) :: taken) rest
      else
        match letter? c with
        | some named => interpretFrom fuel (named :: taken) after
        | none => interpretFrom fuel ('\\' :: taken) rest
  | fuel + 1, taken, c :: rest => interpretFrom fuel (c :: taken) rest

/-- A text with what is behind backslashes replaced, up to a mark that ends all output, and whether
there is one. -/
def interpret (text : ByteText) : ByteText × Bool := interpretFrom (text.length + 1) [] text

/-- A character outside ASCII by its number, as a shell writes it that knows only bytes. -/
def unknown (number : Nat) : ByteText :=
  let digits := (ByteText.digitsIn 16 number).map Char.toUpper
  let width := if number < 65536 then 4 else 8
  ['\\', if width = 4 then 'u' else 'U'] ++ List.replicate (width - digits.length) '0' ++ digits

/-- A character of ASCII by its number, or how a shell writes another one. -/
def codePoint (number : Nat) : ByteText :=
  if number < 128 then [Char.ofNat number] else unknown number

/-- The piece of text that stands behind a backslash stands for, in the spelling that knows more
characters, and what follows it. -/
def extended? (text : ByteText) : Option (ByteText × ByteText) :=
  let number (base most : Nat) (text : ByteText) (write : Nat → ByteText) :
      Option (ByteText × ByteText) :=
    let (found, after) := digits base most text
    if found.isEmpty then none else some (write (ByteText.valueIn base found), after)
  match text with
  | 'E' :: after => some (['\x1b'], after)
  | 'x' :: after => number 16 2 after fun n => [byte n]
  | 'u' :: after => number 16 4 after codePoint
  | 'U' :: after => number 16 8 after codePoint
  | c :: after => (letter? c).map fun named => ([named], after)
  | [] => none

/-- A text with what is behind backslashes replaced in the spelling that knows more characters, up to
a mark that ends all output, and whether there is one.  Digits in base eight may stand without a zero
before them if that is allowed.  Each step takes a character. -/
def interpretMoreFrom (allowsDigits : Bool) : Nat → ByteText → ByteText → ByteText × Bool
  | 0, taken, _ => (taken.reverse, false)
  | _ + 1, taken, [] => (taken.reverse, false)
  | fuel + 1, taken, '\\' :: rest =>
    match rest with
    | [] => (('\\' :: taken).reverse, false)
    | 'c' :: _ => (taken.reverse, true)
    | '0' :: rest =>
      let (number, rest) := digits 8 3 rest
      interpretMoreFrom allowsDigits fuel (byte (ByteText.valueIn 8 number) :: taken) rest
    | c :: after =>
      if ByteText.isDigitIn 8 c && allowsDigits then
        let (number, rest) := digits 8 3 rest
        interpretMoreFrom allowsDigits fuel (byte (ByteText.valueIn 8 number) :: taken) rest
      else
        match extended? rest with
        | some (piece, after) =>
          interpretMoreFrom allowsDigits fuel (piece.reverse ++ taken) after
        | none => interpretMoreFrom allowsDigits fuel (c :: '\\' :: taken) after
  | fuel + 1, taken, c :: rest => interpretMoreFrom allowsDigits fuel (c :: taken) rest

/-- A text with what is behind backslashes replaced in the spelling that knows more characters, up to
a mark that ends all output, and whether there is one. -/
def interpretMore (allowsDigits : Bool) (text : ByteText) : ByteText × Bool :=
  interpretMoreFrom allowsDigits (text.length + 1) [] text

/-- A text from between quotes behind a dollar sign, with what is behind backslashes replaced.  A
character of number zero ends it.  Each step takes a character. -/
def interpretQuotedFrom : Nat → ByteText → ByteText → ByteText
  | 0, taken, _ => taken.reverse
  | _ + 1, taken, [] => taken.reverse
  | fuel + 1, taken, '\\' :: rest =>
    let number (base most : Nat) (text : ByteText) (write : Nat → ByteText) (fallback : ByteText) :
        ByteText × ByteText :=
      let (found, after) := digits base most text
      if found.isEmpty then (fallback, text) else (write (ByteText.valueIn base found), after)
    let one (n : Nat) : ByteText := [byte n]
    let (piece, rest) : ByteText × ByteText :=
      match rest with
      | [] => (['\\'], [])
      | 'E' :: after => (['\x1b'], after)
      | '\'' :: after => (['\''], after)
      | '"' :: after => (['"'], after)
      | '?' :: after => (['?'], after)
      | 'x' :: after => number 16 2 after one ['\\', 'x']
      | 'u' :: after => number 16 4 after codePoint ['\\', 'u']
      | 'U' :: after => number 16 8 after codePoint ['\\', 'U']
      | 'c' :: c :: after => ([Char.ofNat (c.toUpper.toNat % 32)], after)
      | c :: after =>
        if ByteText.isDigitIn 8 c then number 8 3 rest one []
        else
          match letter? c with
          | some named => ([named], after)
          | none => (['\\', c], after)
    if piece = ['\x00'] then taken.reverse
    else interpretQuotedFrom fuel (piece.reverse ++ taken) rest
  | fuel + 1, taken, c :: rest => interpretQuotedFrom fuel (c :: taken) rest

/-- A text from between quotes behind a dollar sign, with what is behind backslashes replaced. -/
def interpretQuoted (text : ByteText) : ByteText := interpretQuotedFrom (text.length + 1) [] text

end Escape

end SchemaDocs.Shell
