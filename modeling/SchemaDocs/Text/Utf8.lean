/-!
# UTF-8

Text as bytes.  Strict reading refuses ill-formed bytes; lenient reading puts the
replacement character in place of every maximal part of a sequence that is cut
short, and of every byte that begins none.
-/

namespace SchemaDocs

/-- A string of bytes. -/
abbrev Bytes := List UInt8

namespace Text

/-- The bytes of a text. -/
def toUtf8 (s : String) : Bytes := s.toUTF8.data.toList

/-- The text of well-formed bytes. -/
def ofUtf8? (bytes : Bytes) : Option String := String.fromUTF8? ⟨bytes.toArray⟩

theorem ofUtf8?_toUtf8 (s : String) : ofUtf8? (toUtf8 s) = some s := by
  have valid : (s.toUTF8).IsValidUTF8 := s.isValidUTF8
  simp only [ofUtf8?, toUtf8, String.fromUTF8?, Array.toArray_toList]
  exact dif_pos valid

theorem toUtf8_of_ofUtf8? {bytes : Bytes} {s : String} (h : ofUtf8? bytes = some s) :
    toUtf8 s = bytes := by
  unfold ofUtf8? String.fromUTF8? at h
  split at h
  next valid =>
    rw [Option.some.injEq] at h
    subst h
    rfl
  next => contradiction

/-- A sequence that has begun: the range of its next byte, the number of bytes after that one,
and the bits read so far. -/
structure Utf8Sequence where
  low : Nat
  high : Nat
  more : Nat
  bits : Nat

/-- The character that stands for bytes without meaning. -/
def replacement : Char := '\ufffd'

/-- The sequence that a byte begins, if it begins one of several bytes. -/
def Utf8Sequence.ofLead? (byte : Nat) : Option Utf8Sequence :=
  if 0xC2 ≤ byte ∧ byte ≤ 0xDF then some ⟨0x80, 0xBF, 0, byte - 0xC0⟩
  else if byte = 0xE0 then some ⟨0xA0, 0xBF, 1, 0⟩
  else if byte = 0xED then some ⟨0x80, 0x9F, 1, 0xD⟩
  else if 0xE1 ≤ byte ∧ byte ≤ 0xEF then some ⟨0x80, 0xBF, 1, byte - 0xE0⟩
  else if byte = 0xF0 then some ⟨0x90, 0xBF, 2, 0⟩
  else if byte = 0xF4 then some ⟨0x80, 0x8F, 2, 4⟩
  else if 0xF1 ≤ byte ∧ byte ≤ 0xF3 then some ⟨0x80, 0xBF, 2, byte - 0xF0⟩
  else none

/-- What lenient reading has met so far: a sequence that has begun, if any, and the characters
read, the last one first. -/
structure LenientState where
  sequence : Option Utf8Sequence
  text : List Char

namespace LenientState

/-- A byte outside a sequence. -/
def outside (text : List Char) (byte : Nat) : LenientState :=
  if byte < 0x80 then ⟨none, Char.ofNat byte :: text⟩
  else
    match Utf8Sequence.ofLead? byte with
    | some sequence => ⟨some sequence, text⟩
    | none => ⟨none, replacement :: text⟩

/-- One more byte.  A byte that does not go on with its sequence cuts it short and is read
anew. -/
def step (state : LenientState) (byte : UInt8) : LenientState :=
  match state.sequence with
  | none => outside state.text byte.toNat
  | some sequence =>
    if sequence.low ≤ byte.toNat ∧ byte.toNat ≤ sequence.high then
      let bits := sequence.bits * 64 + (byte.toNat - 0x80)
      match sequence.more with
      | 0 => ⟨none, Char.ofNat bits :: state.text⟩
      | more + 1 => ⟨some ⟨0x80, 0xBF, more, bits⟩, state.text⟩
    else outside (replacement :: state.text) byte.toNat

/-- The characters read, where a sequence that has begun is cut short. -/
def finish (state : LenientState) : List Char :=
  match state.sequence with
  | none => state.text.reverse
  | some _ => (replacement :: state.text).reverse

end LenientState

/-- The text of any bytes. -/
def ofUtf8Lenient (bytes : Bytes) : String :=
  String.ofList (bytes.foldl LenientState.step ⟨none, []⟩).finish

end Text

end SchemaDocs
