import SchemaDocs.Wire.Encode
import SchemaDocs.Proofs.Wire.Number
import SchemaDocs.Wire.Decode
/-!
# Messages written and read

Writing a message and reading it gives the message, if it is of its type.
-/

/-!
## Records of a type

The records that messages of a type have, and how deep messages are nested in them.
-/

namespace SchemaDocs.Wire

/-- Whether a field may hold some number of values. -/
def FieldSpec.Holds (spec : FieldSpec) (count : Nat) : Prop :=
  match spec.occurrence with
  | .optional => count ≤ 1
  | .required => count = 1
  | .repeated | .packed => True

mutual

/-- A value is of a kind, and so are the values in it. -/
def Value.HasKind (kind : FieldKind) : Value → Prop
  | .int32 _ => kind = .plain .int32
  | .int64 _ => kind = .plain .int64
  | .uint64 _ => kind = .plain .uint64
  | .bool _ => kind = .plain .bool
  | .double _ => kind = .plain .double
  | .string _ => kind = .plain .string
  | .bytes _ => kind = .plain .bytes
  | .message slots =>
    match kind with
    | .message type => SlotsFit type.fields slots
    | .plain _ => False

/-- All of some values are of a kind. -/
def AllHaveKind (kind : FieldKind) : List Value → Prop
  | [] => True
  | value :: rest => value.HasKind kind ∧ AllHaveKind kind rest

/-- Slots hold values as fields allow. -/
def SlotsFit : List FieldSpec → List (List Value) → Prop
  | [], [] => True
  | spec :: specs, slot :: slots =>
    spec.Holds slot.length ∧ AllHaveKind spec.kind slot ∧ SlotsFit specs slots
  | [], _ :: _ => False
  | _ :: _, [] => False

end

mutual

/-- The number of messages around the innermost value, the value itself among them. -/
def Value.depth : Value → Nat
  | .int32 _ | .int64 _ | .uint64 _ | .bool _ | .double _ | .string _ | .bytes _ => 0
  | .message slots => slotsDepth slots + 1

/-- The depth of the deepest of some values. -/
def valuesDepth : List Value → Nat
  | [] => 0
  | value :: rest => max value.depth (valuesDepth rest)

/-- The depth of the deepest value in some slots. -/
def slotsDepth : List (List Value) → Nat
  | [] => 0
  | slot :: slots => max (valuesDepth slot) (slotsDepth slots)

end

section

variable {kind : FieldKind} {n : Nat}

theorem allHaveKind_iff {values : List Value} :
    AllHaveKind kind values ↔ ∀ value ∈ values, value.HasKind kind := by
  induction values with
  | nil => simp [AllHaveKind]
  | cons value rest ih => simp [AllHaveKind, ih]

theorem valuesDepth_le_iff {values : List Value} :
    valuesDepth values ≤ n ↔ ∀ value ∈ values, value.depth ≤ n := by
  induction values with
  | nil => simp [valuesDepth]
  | cons value rest ih => rw [valuesDepth, Nat.max_le, ih, List.forall_mem_cons]

theorem slotsDepth_le_iff {slots : List (List Value)} :
    slotsDepth slots ≤ n ↔ ∀ slot ∈ slots, valuesDepth slot ≤ n := by
  induction slots with
  | nil => simp [slotsDepth]
  | cons slot slots ih => rw [slotsDepth, Nat.max_le, ih, List.forall_mem_cons]

/-- A value that a field without parts holds has no levels below it. -/
theorem depth_of_plain {scalar : Scalar} {value : Value} (h : value.HasKind (.plain scalar)) :
    value.depth = 0 := by
  cases value with
  | message slots => simp [Value.HasKind] at h
  | _ => rfl

end

end SchemaDocs.Wire

/-!
## Messages read back

A message of a type that is written and then read is the same, provided that its messages are not
nested too deeply and its bytes can be counted in 64 bits.
-/

namespace SchemaDocs.Wire

/-! ### Steps over bytes -/

section

variable {σ : Type} {step : σ → Bytes → Except WireError (σ × Bytes)}

/-- Steps lead from one state to another over some bytes, whatever follows these. -/
inductive Consumes (step : σ → Bytes → Except WireError (σ × Bytes)) : σ → Bytes → σ → Prop
  | done {state : σ} : Consumes step state [] state
  | next {state after last : σ} {first more : Bytes} (hne : first ≠ [])
      (hstep : ∀ rest, step state (first ++ rest) = .ok (after, rest))
      (hmore : Consumes step after more last) : Consumes step state (first ++ more) last

namespace Consumes

theorem single {state after : σ} {first : Bytes} (hne : first ≠ [])
    (hstep : ∀ rest, step state (first ++ rest) = .ok (after, rest)) :
    Consumes step state first after := by
  have hfirst := next hne hstep done
  rwa [List.append_nil] at hfirst

theorem append {state middle last : σ} {first second : Bytes}
    (hfirst : Consumes step state first middle) (hsecond : Consumes step middle second last) :
    Consumes step state (first ++ second) last := by
  induction hfirst with
  | done => exact hsecond
  | next hne hstep _ ih =>
      rw [List.append_assoc]
      exact .next hne hstep (ih hsecond)

/-- A loop takes the steps and stops at their end. -/
theorem repeatUntil {state last : σ} {bytes : Bytes} (h : Consumes step state bytes last)
    (fuel : Nat) (hfuel : bytes.length ≤ fuel) (rest : Bytes) :
    repeatUntil rest.length step fuel state (bytes ++ rest) = .ok (last, rest) := by
  induction h generalizing fuel with
  | done =>
      cases fuel with
      | zero => rfl
      | succ fuel => rw [List.nil_append, Wire.repeatUntil, if_neg (Nat.lt_irrefl _)]
  | @next state after last first more hne hstep _ ih =>
      have hpos := List.length_pos_iff.2 hne
      rw [List.length_append] at hfuel
      cases fuel with
      | zero => omega
      | succ fuel =>
          have hlimit : rest.length < (first ++ more ++ rest).length := by
            simp only [List.length_append]
            omega
          rw [Wire.repeatUntil, if_pos hlimit, List.append_assoc, hstep]
          exact ih fuel (by omega)

/-- The steps take the contents of a value whose length comes first. -/
theorem readContents {state last : σ} {content : Bytes} (h : Consumes step state content last)
    (hlength : content.length < 2 ^ 64) (rest : Bytes) :
    readContents step state (writeDelimited content ++ rest) = .ok (last, rest) := by
  have hread : readVarint (writeDelimited content ++ rest) =
      .ok (content.length, content ++ rest) := by
    rw [writeDelimited, List.append_assoc, readVarint_writeVarint hlength]
  have hlimit : (content ++ rest).length - content.length = rest.length := by
    rw [List.length_append, Nat.add_sub_cancel_left]
  have hloop := h.repeatUntil (content ++ rest).length (by simp) rest
  rw [Wire.readContents, hread]
  simp only [bare, bind, Except.bind]
  rw [if_neg (by simp), hlimit, hloop]
  simp

end Consumes

end

/-! ### Values without parts -/

theorem wordOfInt_lt (n : Int) : wordOfInt n < 2 ^ 64 := by
  have hsize : (UInt64.size : Int) = 2 ^ 64 := rfl
  rw [wordOfInt, hsize]
  omega

/-- The low bits of a word are those of the number that it was made of. -/
theorem bmod_wordOfInt {m : Nat} (hdvd : (m : Int) ∣ UInt64.size) (n : Int) :
    (wordOfInt n : Int).bmod m = n.bmod m := by
  have hnonneg : 0 ≤ n % (UInt64.size : Int) := Int.emod_nonneg _ (by decide)
  rw [wordOfInt, Int.toNat_of_nonneg hnonneg, ← Int.emod_bmod, Int.emod_emod_of_dvd _ hdvd,
    Int.emod_bmod]

theorem ofNat_wordOfInt_int32 (value : Int32) : Int32.ofNat (wordOfInt value.toInt) = value := by
  apply Int32.toInt_inj.1
  rw [Int32.toInt_ofNat', bmod_wordOfInt (by decide)]
  exact value.toInt_bmod

theorem ofNat_wordOfInt_int64 (value : Int64) : Int64.ofNat (wordOfInt value.toInt) = value := by
  apply Int64.toInt_inj.1
  rw [Int64.toInt_ofNat', bmod_wordOfInt (by decide)]
  exact value.toInt_bmod

theorem readScalar_writeValue {scalar : Scalar} {value : Value}
    (hkind : value.HasKind (.plain scalar))
    (hlength : (writeValue (.plain scalar) value).length < 2 ^ 64) (rest : Bytes) :
    readScalar scalar (writeValue (.plain scalar) value ++ rest) = .ok (value, rest) := by
  cases value with
  | message slots => simp [Value.HasKind] at hkind
  | int32 value =>
      cases hkind
      rw [writeValue, readScalar, readVarint_writeVarint (wordOfInt_lt _), Except.map,
        ofNat_wordOfInt_int32]
  | int64 value =>
      cases hkind
      rw [writeValue, readScalar, readVarint_writeVarint (wordOfInt_lt _), Except.map,
        ofNat_wordOfInt_int64]
  | uint64 value =>
      cases hkind
      rw [writeValue, readScalar, readVarint_writeVarint value.toNat_lt, Except.map,
        UInt64.ofNat_toNat]
  | bool value =>
      cases hkind
      rw [writeValue, readScalar, readVarint_writeVarint (by cases value <;> decide), Except.map]
      cases value <;> rfl
  | double value =>
      cases hkind
      have hword := ofLittleEndian_littleEndian 8 value.bits.toNat_lt
      have htake := takeBytes_append (littleEndian 8 value.bits.toNat) rest
      rw [length_littleEndian] at htake
      rw [writeValue, readScalar, htake, Except.map, hword, UInt64.ofNat_toNat]
  | string value =>
      cases hkind
      rw [writeValue] at hlength ⊢
      rw [readScalar, readDelimited_writeDelimited
        (Nat.lt_of_le_of_lt (length_le_writeDelimited _) hlength)]
      dsimp only
      rw [Text.ofUtf8?_toUtf8]
  | bytes value =>
      cases hkind
      rw [writeValue] at hlength ⊢
      rw [readScalar, readDelimited_writeDelimited
        (Nat.lt_of_le_of_lt (length_le_writeDelimited _) hlength), Except.map]

/-! ### Fields of the schema -/

/-- What the fields of each message have in common. -/
theorem fields_distinct (type : MessageType) : (type.fields.map FieldSpec.number).Nodup := by
  cases type <;> decide

theorem number_of_mem_fields {type : MessageType} {spec : FieldSpec} (h : spec ∈ type.fields) :
    0 < spec.number ∧ spec.number < 2 ^ 29 := by
  have hall : ∀ spec ∈ type.fields, 0 < spec.number ∧ spec.number < 2 ^ 29 := by
    cases type <;> decide
  exact hall spec h

theorem packed_of_mem_fields {type : MessageType} {spec : FieldSpec} (h : spec ∈ type.fields)
    (hpacked : spec.occurrence = .packed) : spec.kind = .plain .int32 := by
  have hall : ∀ spec ∈ type.fields, spec.occurrence = .packed → spec.kind = .plain .int32 := by
    cases type <;> decide
  exact hall spec h hpacked

/-- A field is found under its number, at its place. -/
theorem field?_of_fields {type : MessageType} {before after : List FieldSpec} {spec : FieldSpec}
    (h : type.fields = before ++ spec :: after) :
    type.field? spec.number = some (before.length, spec) := by
  have hdistinct := fields_distinct type
  rw [h, List.map_append, List.map_cons, List.nodup_append] at hdistinct
  have hbefore : before.zipIdx.find? (fun entry => decide (entry.1.number = spec.number)) =
      none := by
    rw [List.find?_eq_none]
    rintro ⟨other, position⟩ hother
    have hmem := List.mem_map_of_mem (f := FieldSpec.number) (List.fst_mem_of_mem_zipIdx hother)
    simpa using hdistinct.2.2 _ hmem _ List.mem_cons_self
  rw [MessageType.field?, h, List.zipIdx_append, List.find?_append, hbefore]
  simp

theorem writeValue_ne_nil {scalar : Scalar} {value : Value}
    (hkind : value.HasKind (.plain scalar)) : writeValue (.plain scalar) value ≠ [] := by
  cases value with
  | message slots => simp [Value.HasKind] at hkind
  | _ => simp [writeValue, writeVarint_ne_nil, writeDelimited, littleEndian]

/-- Numbers without keys are steps that each add one. -/
theorem consumes_packed {scalar : Scalar} {values : List Value}
    (hkind : AllHaveKind (.plain scalar) values)
    (hlength : (writePacked (.plain scalar) values).length < 2 ^ 64) (slot : List Value) :
    Consumes (readPackedItem scalar) slot (writePacked (.plain scalar) values)
      (slot ++ values) := by
  induction values generalizing slot with
  | nil =>
      rw [List.append_nil]
      exact .done
  | cons value rest ih =>
      rw [AllHaveKind] at hkind
      rw [writePacked, List.length_append] at hlength
      have hvalue : ∀ more, readPackedItem scalar slot (writeValue (.plain scalar) value ++ more) =
          .ok (slot ++ [value], more) := by
        intro more
        rw [readPackedItem, readScalar_writeValue hkind.1 (by omega)]
        rfl
      have hrest := ih hkind.2 (by omega) (slot ++ [value])
      rw [List.append_assoc] at hrest
      exact .next (writeValue_ne_nil hkind.1) hvalue hrest

/-- The bytes of a field. -/
def writeSlot (spec : FieldSpec) (slot : List Value) : Bytes :=
  match spec.occurrence, slot with
  | .packed, [] => []
  | .packed, values =>
    writeKey spec.number .lengthDelimited ++ writeDelimited (writePacked spec.kind values)
  | _, values => writeEach spec.number spec.kind values

theorem writeSlots_cons (spec : FieldSpec) (specs : List FieldSpec) (slot : List Value)
    (slots : List (List Value)) :
    writeSlots (spec :: specs) (slot :: slots) = writeSlot spec slot ++ writeSlots specs slots := by
  rw [writeSlots.eq_def]
  rfl

/-! ### Single values -/

/-- Reads a value into the slot of a field. -/
def readSlot (reader : Option FieldReader) (spec : FieldSpec) (type : WireType)
    (slot : List Value) (bytes : Bytes) : Except WireError (List Value × Bytes) :=
  match spec.kind with
  | .plain scalar => mergeScalar spec.occurrence scalar type slot bytes
  | .message inner => mergeMessage reader spec.occurrence inner type slot bytes

theorem mergeFieldWith_eq (depth : Nat) (reader : Option FieldReader) (owner : MessageType)
    (record : Record) (bytes : Bytes) :
    mergeFieldWith depth reader owner record bytes = (do
      let (number, type, rest) ← bare (readKey bytes)
      match owner.field? number with
      | none =>
        let rest ← bare (skipField depth type number rest)
        .ok (record, rest)
      | some (position, spec) =>
        let (slot, rest) ← within owner.name spec.name
          (readSlot reader spec type (record[position]?.getD []) rest)
        .ok (record.set position slot, rest)) := rfl

/-- A field that is known is read into its slot, and no other slot is touched. -/
theorem mergeFieldWith_known {depth : Nat} {reader : Option FieldReader} {owner : MessageType}
    {before after : List FieldSpec} {spec : FieldSpec}
    (hfields : owner.fields = before ++ spec :: after)
    {done others : Record} (hdone : done.length = before.length) {old new : List Value}
    {type : WireType} {bytes rest : Bytes}
    (hslot : readSlot reader spec type old bytes = .ok (new, rest)) :
    mergeFieldWith depth reader owner (done ++ old :: others) (writeKey spec.number type ++ bytes) =
      .ok (done ++ new :: others, rest) := by
  have hmem : spec ∈ owner.fields := by simp [hfields]
  obtain ⟨hpos, hlt⟩ := number_of_mem_fields hmem
  have hold : (done ++ old :: others)[before.length]?.getD [] = old := by
    simp [← hdone]
  have hset : (done ++ old :: others).set before.length new = done ++ new :: others := by
    rw [← hdone, List.set_append_right _ _ (Nat.le_refl _), Nat.sub_self, List.set_cons_zero]
  rw [mergeFieldWith_eq, readKey_writeKey hpos hlt]
  simp only [bare, bind, Except.bind, field?_of_fields hfields, hold, hslot, within, hset]

/-- The reader of the messages in a message. -/
def readerBelow : Nat → Option FieldReader
  | 0 => none
  | n + 1 => some (mergeField n)

theorem mergeField_eq (n : Nat) : mergeField n = mergeFieldWith n (readerBelow n) := by
  cases n <;> rfl

/-- Numbers under one key are one step. -/
theorem consumes_packed_slot {n : Nat} {owner : MessageType} {before after : List FieldSpec}
    {spec : FieldSpec} (hfields : owner.fields = before ++ spec :: after) {done others : Record}
    (hdone : done.length = before.length) (hpacked : spec.occurrence = .packed)
    {values : List Value} (hkind : AllHaveKind spec.kind values)
    (hlength : (writeDelimited (writePacked spec.kind values)).length < 2 ^ 64) :
    Consumes (mergeField n owner) (done ++ [] :: others)
      (writeKey spec.number .lengthDelimited ++ writeDelimited (writePacked spec.kind values))
      (done ++ values :: others) := by
  have hmem : spec ∈ owner.fields := by simp [hfields]
  have hint := packed_of_mem_fields hmem hpacked
  refine .single ?_ ?_
  · simp [writeKey_ne_nil]
  · intro rest
    rw [hint] at hkind hlength ⊢
    have hcontent := Nat.lt_of_le_of_lt (length_le_writeDelimited _) hlength
    have hread := (consumes_packed hkind hcontent []).readContents hcontent rest
    rw [mergeField_eq, List.append_assoc]
    refine mergeFieldWith_known hfields hdone ?_
    rw [readSlot, hint, hpacked]
    dsimp only
    rw [mergeScalar, if_pos ⟨rfl, by decide, rfl⟩]
    exact hread

/-- What has to be known of the messages in a message to read it back. -/
def ReadsBack (reader : FieldReader) (n : Nat) : Prop :=
  ∀ (type : MessageType) (record : Record), SlotsFit type.fields record → slotsDepth record ≤ n →
    (encode type record).length < 2 ^ 64 →
      Consumes (reader type) (Record.initial type) (encode type record) record

section

variable {n : Nat} (hbelow : ∀ m, n = m + 1 → ReadsBack (mergeField m) m)

include hbelow

/-- A value is read as it was written, into a list or a slot in which nothing was read. -/
theorem readSlot_writeValue {spec : FieldSpec} {slot : List Value} {value : Value}
    (hslot : spec.occurrence.isList = true ∨ slot = spec.initial)
    (hkind : value.HasKind spec.kind) (hdepth : value.depth ≤ n)
    (hlength : (writeValue spec.kind value).length < 2 ^ 64) (rest : Bytes) :
    readSlot (readerBelow n) spec spec.kind.wireType slot (writeValue spec.kind value ++ rest) =
      .ok (putValue spec.occurrence slot value, rest) := by
  obtain ⟨number, name, occurrence, kind⟩ := spec
  cases kind with
  | plain scalar =>
      have hread := readScalar_writeValue hkind hlength rest
      dsimp only at hread ⊢
      rw [readSlot, FieldKind.wireType]
      dsimp only
      rw [mergeScalar, if_neg (fun h => h.2.1 h.2.2), expect, if_pos rfl]
      simp only [bare, bind, Except.bind, hread]
  | message inner =>
      cases value with
      | message record =>
          have hbase : messageBase occurrence inner slot = Record.initial inner := by
            rcases hslot with hlist | hinitial
            · rw [messageBase.eq_def]
              split
              · rw [if_pos hlist]
              · rfl
            · have hempty : slot = [] := by
                rw [hinitial, FieldSpec.initial.eq_def]
                cases occurrence <;> rfl
              rw [hempty]
              rfl
          have hlevel : slotsDepth record + 1 ≤ n := hdepth
          obtain ⟨m, rfl⟩ : ∃ m, n = m + 1 := ⟨n - 1, by omega⟩
          dsimp only at hlength hkind ⊢
          rw [writeValue] at hlength ⊢
          have hcontent := Nat.lt_of_le_of_lt (length_le_writeDelimited _) hlength
          have hconsumes := hbelow m rfl inner record hkind (by omega) hcontent
          have hread := hconsumes.readContents hcontent rest
          rw [readSlot, FieldKind.wireType]
          dsimp only
          rw [encode] at hread
          simp only [mergeMessage, expect, if_pos, readerBelow, hbase, bare, bind, Except.bind,
            hread]
      | _ => simp [Value.HasKind] at hkind

/-! ### Slots -/

section

variable {owner : MessageType} {before after : List FieldSpec} {spec : FieldSpec}
  (hfields : owner.fields = before ++ spec :: after) {done : Record}
  (hdone : done.length = before.length) (others : Record)

include hfields hdone

/-- One value with its key in front is one step. -/
theorem consumes_value (slot : List Value) {value : Value}
    (hslot : spec.occurrence.isList = true ∨ slot = spec.initial)
    (hkind : value.HasKind spec.kind) (hdepth : value.depth ≤ n)
    (hlength : (writeValue spec.kind value).length < 2 ^ 64) :
    Consumes (mergeField n owner) (done ++ slot :: others)
      (writeKey spec.number spec.kind.wireType ++ writeValue spec.kind value)
      (done ++ putValue spec.occurrence slot value :: others) := by
  refine .single ?_ ?_
  · simp [writeKey_ne_nil]
  · intro rest
    rw [mergeField_eq, List.append_assoc]
    exact mergeFieldWith_known hfields hdone
      (readSlot_writeValue hbelow hslot hkind hdepth hlength rest)

/-- Values of a list are steps that each add one. -/
theorem consumes_each (hlist : spec.occurrence.isList = true) {values : List Value}
    (hkind : AllHaveKind spec.kind values) (hdepth : valuesDepth values ≤ n)
    (hlength : (writeEach spec.number spec.kind values).length < 2 ^ 64) (slot : List Value) :
    Consumes (mergeField n owner) (done ++ slot :: others)
      (writeEach spec.number spec.kind values) (done ++ (slot ++ values) :: others) := by
  induction values generalizing slot with
  | nil =>
      rw [List.append_nil]
      exact .done
  | cons value rest ih =>
      rw [AllHaveKind] at hkind
      rw [valuesDepth, Nat.max_le] at hdepth
      rw [writeEach, List.length_append, List.length_append] at hlength
      have hfirst := consumes_value hbelow hfields hdone others slot (.inl hlist) hkind.1 hdepth.1
        (by omega)
      have hrest := ih hkind.2 hdepth.2 (by omega) (slot ++ [value])
      rw [putValue, if_pos hlist] at hfirst
      rw [List.append_assoc] at hrest
      exact hfirst.append hrest

/-- The value of a field that holds one replaces what the slot holds before it is read. -/
theorem consumes_singular (hsingle : spec.occurrence.isList = false) {value : Value}
    (hkind : value.HasKind spec.kind) (hdepth : value.depth ≤ n)
    (hlength : (writeEach spec.number spec.kind [value]).length < 2 ^ 64) :
    Consumes (mergeField n owner) (done ++ spec.initial :: others)
      (writeEach spec.number spec.kind [value]) (done ++ [value] :: others) := by
  rw [writeEach, writeEach, List.append_nil] at hlength ⊢
  rw [List.length_append] at hlength
  have hvalue := consumes_value hbelow hfields hdone others spec.initial (.inr rfl) hkind hdepth
    (by omega)
  rwa [putValue, hsingle, if_neg Bool.false_ne_true] at hvalue

/-- A slot is read as it was written, where nothing was read into it before. -/
theorem consumes_slot {slot : List Value} (hholds : spec.Holds slot.length)
    (hkind : AllHaveKind spec.kind slot) (hdepth : valuesDepth slot ≤ n)
    (hlength : (writeSlot spec slot).length < 2 ^ 64) :
    Consumes (mergeField n owner) (done ++ spec.initial :: others) (writeSlot spec slot)
      (done ++ slot :: others) := by
  rw [FieldSpec.Holds] at hholds
  rw [writeSlot.eq_def] at hlength ⊢
  cases hoccurrence : spec.occurrence with
  | optional =>
      rw [hoccurrence] at hholds hlength
      match slot with
      | [] =>
          rw [FieldSpec.initial.eq_def, hoccurrence]
          exact .done
      | [value] =>
          rw [valuesDepth, Nat.max_le] at hdepth
          exact consumes_singular hbelow hfields hdone others (by rw [hoccurrence]; rfl) hkind.1
            hdepth.1 hlength
      | _ :: _ :: _ => simp at hholds
  | required =>
      rw [hoccurrence] at hholds hlength
      obtain ⟨value, rfl⟩ := List.length_eq_one_iff.1 hholds
      rw [valuesDepth, Nat.max_le] at hdepth
      exact consumes_singular hbelow hfields hdone others (by rw [hoccurrence]; rfl) hkind.1
        hdepth.1 hlength
  | repeated =>
      rw [hoccurrence] at hlength
      have hinitial : spec.initial = [] := by
        rw [FieldSpec.initial.eq_def, hoccurrence]
      rw [hinitial]
      exact consumes_each hbelow hfields hdone others (by rw [hoccurrence]; rfl) hkind hdepth
        hlength []
  | packed =>
      rw [hoccurrence] at hlength
      have hinitial : spec.initial = [] := by
        rw [FieldSpec.initial.eq_def, hoccurrence]
      rw [hinitial]
      cases slot with
      | nil => exact .done
      | cons value rest =>
          dsimp only at hlength
          rw [List.length_append] at hlength
          exact consumes_packed_slot hfields hdone hoccurrence hkind (by omega)

end

/-- Slots are read one after the other. -/
theorem consumes_slots {owner : MessageType} (before : List FieldSpec) {specs : List FieldSpec}
    (hfields : owner.fields = before ++ specs) (done : Record) {slots : Record}
    (hdone : done.length = before.length) (hfit : SlotsFit specs slots)
    (hdepth : slotsDepth slots ≤ n) (hlength : (writeSlots specs slots).length < 2 ^ 64) :
    Consumes (mergeField n owner) (done ++ specs.map FieldSpec.initial) (writeSlots specs slots)
      (done ++ slots) := by
  -- behind the slots that are done stand those that nothing was read into yet
  induction specs generalizing before done slots with
  | nil =>
      cases slots with
      | nil => exact .done
      | cons slot slots => exact absurd hfit (by simp [SlotsFit])
  | cons spec specs ih =>
      cases slots with
      | nil => exact absurd hfit (by simp [SlotsFit])
      | cons slot slots =>
          obtain ⟨hholds, hkind, hrest⟩ := hfit
          rw [slotsDepth, Nat.max_le] at hdepth
          rw [writeSlots_cons, List.length_append] at hlength
          rw [writeSlots_cons, List.map_cons]
          have hslot := consumes_slot hbelow hfields hdone (specs.map FieldSpec.initial) hholds
            hkind hdepth.1 (by omega)
          have hslots := ih (before ++ [spec]) (by simp [hfields]) (done ++ [slot])
            (by simp [hdone]) hrest hdepth.2 (by omega)
          rw [List.append_assoc, List.append_assoc] at hslots
          exact hslot.append hslots

end

/-! ### Messages -/

/-- The reader for a number of levels reads back messages with that many levels below them. -/
theorem readsBack_mergeField (n : Nat) : ReadsBack (mergeField n) n := by
  -- the parts of a message are read by the reader for one level less
  induction n with
  | zero =>
      intro type record hfit hdepth hlength
      exact consumes_slots (fun m h => by omega) [] rfl [] rfl hfit hdepth hlength
  | succ n ih =>
      intro type record hfit hdepth hlength
      have hbelow : ∀ m, n + 1 = m + 1 → ReadsBack (mergeField m) m := by
        intro m h
        obtain rfl : n = m := by omega
        exact ih
      exact consumes_slots hbelow [] rfl [] rfl hfit hdepth hlength

/-- A record of a message type that is written and then read is the same. -/
theorem decode_encode {type : MessageType} {record : Record} (hfit : SlotsFit type.fields record)
    (hdepth : slotsDepth record ≤ nestingLimit) (hlength : (encode type record).length < 2 ^ 64) :
    decode type (encode type record) = .ok record := by
  have hloop := (readsBack_mergeField nestingLimit type record hfit hdepth hlength).repeatUntil
    _ (Nat.le_refl _) []
  rw [List.append_nil, List.length_nil] at hloop
  rw [decode, hloop]
  rfl

end SchemaDocs.Wire
