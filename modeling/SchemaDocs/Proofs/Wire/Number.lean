import SchemaDocs.Wire.Decode
import Mathlib.Algebra.Group.Nat.Defs
/-!
# Numbers and keys read back

What was written as a number, a key, a content or a word is read as the same, whatever bytes
follow it.  Numbers have to fit into 64 bits, as the tenth byte of a number has room for one bit.
-/

namespace SchemaDocs.Wire

/-! ## Numbers -/

theorem writeVarint_of_lt {n : Nat} (h : n < 128) : writeVarint n = [UInt8.ofNat n] := by
  rw [writeVarint, if_pos h]

theorem writeVarint_of_ge {n : Nat} (h : 128 ≤ n) :
    writeVarint n = UInt8.ofNat (n % 128 + 128) :: writeVarint (n / 128) := by
  rw [writeVarint, if_neg (Nat.not_lt.2 h)]

theorem writeVarint_ne_nil (n : Nat) : writeVarint n ≠ [] := by
  rw [writeVarint]
  split <;> simp

/-- Each byte after the first has room for seven bits more, and the last one for a single bit. -/
theorem readVarintWithin_writeVarint (left : Nat) {n : Nat} (h : n < 2 * 128 ^ left)
    (rest : Bytes) : readVarintWithin (left + 1) (writeVarint n ++ rest) = .ok (n, rest) := by
  induction left generalizing n with
  | zero =>
      have hsmall : (UInt8.ofNat n).toNat = n := by
        rw [UInt8.toNat_ofNat']
        omega
      rw [writeVarint_of_lt (by omega), List.singleton_append, readVarintWithin, hsmall,
        if_pos (by omega), if_neg (by omega)]
  | succ left ih =>
      by_cases hlast : n < 128
      · have hsmall : (UInt8.ofNat n).toNat = n := by
          rw [UInt8.toNat_ofNat']
          omega
        rw [writeVarint_of_lt hlast, List.singleton_append, readVarintWithin, hsmall,
          if_pos hlast, if_neg (by omega)]
      · have hbyte : (UInt8.ofNat (n % 128 + 128)).toNat = n % 128 + 128 := by
          rw [UInt8.toNat_ofNat']
          omega
        have hhigh : n / 128 < 2 * 128 ^ left := by
          rw [Nat.div_lt_iff_lt_mul (by omega)]
          rw [Nat.pow_succ] at h
          omega
        rw [writeVarint_of_ge (by omega), List.cons_append, readVarintWithin, hbyte,
          if_neg (by omega), ih hhigh]
        dsimp only
        rw [Nat.add_sub_cancel, Nat.mod_add_div]

theorem readVarint_writeVarint {n : Nat} (h : n < 2 ^ 64) (rest : Bytes) :
    readVarint (writeVarint n ++ rest) = .ok (n, rest) :=
  readVarintWithin_writeVarint 9 h rest

/-! ## Keys -/

theorem code_lt (type : WireType) : type.code < 8 := by
  cases type <;> decide

theorem readKey_writeKey {number : Nat} (hpos : 0 < number) (hlt : number < 2 ^ 29)
    (type : WireType) (rest : Bytes) :
    readKey (writeKey number type ++ rest) = .ok (number, type, rest) := by
  have hcode := code_lt type
  have hkey : number * 8 + type.code < UInt32.size := by
    have hsize : UInt32.size = 2 ^ 29 * 8 := rfl
    omega
  have hnumber : (number * 8 + type.code) / 8 = number := by omega
  have htype : (number * 8 + type.code) % 8 = type.code := by omega
  have hread : readVarint (writeVarint (number * 8 + type.code) ++ rest) =
      .ok (number * 8 + type.code, rest) :=
    readVarint_writeVarint (Nat.lt_trans hkey (by decide)) rest
  rw [readKey, writeKey, hread]
  dsimp only
  rw [if_neg (Nat.not_le.2 hkey), htype, WireType.ofCode?_code, hnumber]
  dsimp only
  rw [if_neg (by omega)]

theorem writeKey_ne_nil (number : Nat) (type : WireType) : writeKey number type ≠ [] :=
  writeVarint_ne_nil _

/-! ## Contents -/

theorem takeBytes_append (content rest : Bytes) :
    takeBytes content.length (content ++ rest) = .ok (content, rest) := by
  rw [takeBytes, if_neg (by simp), List.take_left, List.drop_left]

theorem length_le_writeDelimited (content : Bytes) :
    content.length ≤ (writeDelimited content).length := by
  rw [writeDelimited, List.length_append]
  omega

theorem readDelimited_writeDelimited {content : Bytes} (h : content.length < 2 ^ 64)
    (rest : Bytes) : readDelimited (writeDelimited content ++ rest) = .ok (content, rest) := by
  rw [readDelimited, writeDelimited, List.append_assoc, readVarint_writeVarint h]
  exact takeBytes_append content rest

/-! ## Words -/

@[simp] theorem length_littleEndian (count n : Nat) : (littleEndian count n).length = count := by
  induction count generalizing n with
  | zero => rfl
  | succ count ih => rw [littleEndian, List.length_cons, ih]

theorem ofLittleEndian_littleEndian (count : Nat) {n : Nat} (h : n < 256 ^ count) :
    ofLittleEndian (littleEndian count n) = n := by
  induction count generalizing n with
  | zero =>
      rw [Nat.pow_zero, Nat.lt_one_iff] at h
      rw [h]
      rfl
  | succ count ih =>
      have hbyte : (UInt8.ofNat (n % 256)).toNat = n % 256 := by
        rw [UInt8.toNat_ofNat']
        omega
      have hhigh : n / 256 < 256 ^ count := by
        rw [Nat.div_lt_iff_lt_mul (by omega), ← Nat.pow_succ]
        exact h
      rw [littleEndian, ofLittleEndian, hbyte, ih hhigh, Nat.mod_add_div]

end SchemaDocs.Wire
