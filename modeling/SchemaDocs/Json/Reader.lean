import SchemaDocs.Json.Value
/-!
# Reading JSON

A reader takes what it can from the front of a text and hands back the rest.  It
refuses text that is no JSON, and blanks may stand around every token.
-/

namespace SchemaDocs.Json

/-- Drops blanks. -/
def skipBlanks (s : List Char) : List Char :=
  s.dropWhile fun c => c = ' ' || c = '\t' || c = '\n' || c = '\r'

/-- The value of a hexadecimal digit. -/
def hexValue? (c : Char) : Option Nat :=
  if '0' ≤ c ∧ c ≤ '9' then some (c.toNat - 0x30)
  else if 'a' ≤ c ∧ c ≤ 'f' then some (c.toNat - 0x61 + 10)
  else if 'A' ≤ c ∧ c ≤ 'F' then some (c.toNat - 0x41 + 10)
  else none

/-- A code unit of four hexadecimal digits. -/
def unit? : List Char → Option (Nat × List Char)
  | a :: b :: c :: d :: rest => do
    let a ← hexValue? a
    let b ← hexValue? b
    let c ← hexValue? c
    let d ← hexValue? d
    some (((a * 16 + b) * 16 + c) * 16 + d, rest)
  | _ => none

theorem unit?_shorter {s rest : List Char} {unit : Nat} (h : unit? s = some (unit, rest)) :
    rest.length < s.length := by
  unfold unit? at h
  split at h
  · simp only [Option.bind_eq_bind, Option.bind_eq_some_iff, Option.some.injEq, Prod.mk.injEq] at h
    obtain ⟨-, -, -, -, -, -, -, -, -, rfl⟩ := h
    simp only [List.length_cons]
    omega
  · contradiction

/-- The character of an escape, whose backslash has been read.  Two code units that form a
surrogate pair are one character, and a surrogate alone is refused. -/
def escaped? : List Char → Option (Char × List Char)
  | '"' :: rest => some ('"', rest)
  | '\\' :: rest => some ('\\', rest)
  | '/' :: rest => some ('/', rest)
  | 'b' :: rest => some ('\x08', rest)
  | 'f' :: rest => some ('\x0c', rest)
  | 'n' :: rest => some ('\n', rest)
  | 'r' :: rest => some ('\r', rest)
  | 't' :: rest => some ('\t', rest)
  | 'u' :: rest => do
    let (high, rest) ← unit? rest
    if 0xD800 ≤ high ∧ high < 0xDC00 then
      match rest with
      | '\\' :: 'u' :: rest => do
        let (low, rest) ← unit? rest
        if 0xDC00 ≤ low ∧ low < 0xE000 then
          some (Char.ofNat (0x10000 + (high - 0xD800) * 0x400 + (low - 0xDC00)), rest)
        else none
      | _ => none
    else if 0xDC00 ≤ high ∧ high < 0xE000 then none
    else some (Char.ofNat high, rest)
  | _ => none

theorem escaped?_shorter {s rest : List Char} {c : Char} (h : escaped? s = some (c, rest)) :
    rest.length < s.length := by
  unfold escaped? at h
  split at h
  case h_9 tail =>
    simp only [Option.bind_eq_bind, Option.bind_eq_some_iff] at h
    obtain ⟨⟨high, after⟩, first, h⟩ := h
    have shorter := unit?_shorter first
    dsimp only at h
    split at h
    · split at h
      next more =>
        simp only [Option.bind_eq_some_iff] at h
        obtain ⟨⟨low, last⟩, second, h⟩ := h
        have shorter' := unit?_shorter second
        dsimp only at h
        split at h
        · simp only [Option.some.injEq, Prod.mk.injEq] at h
          obtain ⟨-, rfl⟩ := h
          simp only [List.length_cons] at *
          omega
        · contradiction
      · contradiction
    · split at h
      · contradiction
      · simp only [Option.some.injEq, Prod.mk.injEq] at h
        obtain ⟨-, rfl⟩ := h
        simp only [List.length_cons]
        omega
  case h_10 => contradiction
  all_goals
    simp only [Option.some.injEq, Prod.mk.injEq] at h
    obtain ⟨-, rfl⟩ := h
    exact Nat.lt_succ_self _

/-- The characters of a string up to its closing quote, whose opening quote has been read. -/
def stringBody? (s : List Char) : Option (List Char × List Char) :=
  match s with
  | [] => none
  | c :: rest =>
    if c = '"' then some ([], rest)
    else if c = '\\' then
      match h : escaped? rest with
      | some (d, after) =>
        have _shorter : after.length < rest.length := escaped?_shorter h
        (stringBody? after).map fun read => (d :: read.1, read.2)
      | none => none
    else if c.toNat < 0x20 then none
    else (stringBody? rest).map fun read => (c :: read.1, read.2)
termination_by s.length
decreasing_by
  · exact Nat.lt_succ_of_lt _shorter
  · exact Nat.lt_succ_self rest.length

/-- Whether a character may stand in a number. -/
def isNumberChar (c : Char) : Bool :=
  c.isDigit || c = '-' || c = '+' || c = '.' || c = 'e' || c = 'E'

/-- Whether digits have no leading zero and are some. -/
def isPlainNatural : List Char → Bool
  | [] => false
  | ['0'] => true
  | '0' :: _ => false
  | digits => digits.all Char.isDigit

/-- Whether a text is a number: a whole part, then perhaps a fraction and an exponent. -/
def isNumber (s : List Char) : Bool :=
  let unsigned := match s with
    | '-' :: rest => rest
    | _ => s
  let mantissa := unsigned.takeWhile fun c => c != 'e' && c != 'E'
  let exponent := (unsigned.dropWhile fun c => c != 'e' && c != 'E').drop 1
  let exponentDigits := match exponent with
    | '+' :: rest => rest
    | '-' :: rest => rest
    | _ => exponent
  let whole := mantissa.takeWhile (· != '.')
  let fraction := (mantissa.dropWhile (· != '.')).drop 1
  isPlainNatural whole
    && (whole.length == mantissa.length || (!fraction.isEmpty && fraction.all Char.isDigit))
    && (mantissa.length == unsigned.length
        || (!exponentDigits.isEmpty && exponentDigits.all Char.isDigit))

mutual

/-- A value and the text after it.  Every call into a value uses one unit of fuel, and a value
takes at least one character for each call. -/
def value? : Nat → List Char → Option (Json × List Char)
  | 0, _ => none
  | fuel + 1, s =>
    match skipBlanks s with
    | 'n' :: 'u' :: 'l' :: 'l' :: rest => some (.null, rest)
    | 't' :: 'r' :: 'u' :: 'e' :: rest => some (.bool true, rest)
    | 'f' :: 'a' :: 'l' :: 's' :: 'e' :: rest => some (.bool false, rest)
    | '"' :: rest => (stringBody? rest).map fun read => (.string (String.ofList read.1), read.2)
    | '[' :: rest =>
      match skipBlanks rest with
      | ']' :: rest => some (.array [], rest)
      | rest => (items? fuel rest).map fun read => (.array read.1, read.2)
    | '\x7b' :: rest =>
      match skipBlanks rest with
      | '\x7d' :: rest => some (.object [], rest)
      | rest => (entries? fuel rest).map fun read => (.object read.1, read.2)
    | s =>
      let text := s.takeWhile isNumberChar
      if isNumber text then some (.number (String.ofList text), s.dropWhile isNumberChar)
      else none

/-- The items of a list up to its closing bracket. -/
def items? : Nat → List Char → Option (List Json × List Char)
  | 0, _ => none
  | fuel + 1, s =>
    match value? fuel s with
    | none => none
    | some (item, rest) =>
      match skipBlanks rest with
      | ']' :: rest => some ([item], rest)
      | ',' :: rest => (items? fuel rest).map fun read => (item :: read.1, read.2)
      | _ => none

/-- The entries of an object up to its closing brace. -/
def entries? : Nat → List Char → Option (List (String × Json) × List Char)
  | 0, _ => none
  | fuel + 1, s =>
    match skipBlanks s with
    | '"' :: rest =>
      match stringBody? rest with
      | none => none
      | some (key, rest) =>
        match skipBlanks rest with
        | ':' :: rest =>
          match value? fuel rest with
          | none => none
          | some (value, rest) =>
            let entry := (String.ofList key, value)
            match skipBlanks rest with
            | '\x7d' :: rest => some ([entry], rest)
            | ',' :: rest => (entries? fuel rest).map fun read => (entry :: read.1, read.2)
            | _ => none
        | _ => none
    | _ => none

end

/-- The value that a whole text stands for. -/
def ofChars? (s : List Char) : Option Json :=
  match value? (s.length + 1) s with
  | some (json, rest) => if (skipBlanks rest).isEmpty then some json else none
  | none => none

/-- The value that a whole text stands for. -/
def parse? (text : String) : Option Json := ofChars? text.toList

end SchemaDocs.Json
