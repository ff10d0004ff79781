import SchemaDocs.Proofs.Wire.RoundTrip
/-!
# Levels of what was read

A message that was read has no more levels than the limit allows, since each level is read by a
reader that has one less below it.
-/

namespace SchemaDocs.Wire

theorem exists_of_bind_ok {ε α β : Type} {first : Except ε α} {next : α → Except ε β} {b : β}
    (h : first >>= next = .ok b) : ∃ a, first = .ok a ∧ next a = .ok b := by
  cases first with
  | error cause => simp [bind, Except.bind] at h
  | ok a => exact ⟨a, rfl, h⟩

theorem exists_of_map_ok {ε α β : Type} {outcome : Except ε α} {f : α → β} {b : β}
    (h : outcome.map f = .ok b) : ∃ a, outcome = .ok a ∧ f a = b := by
  cases outcome with
  | error cause => simp [Except.map] at h
  | ok a => exact ⟨a, rfl, Except.ok.inj h⟩

theorem eq_ok_of_bare {α : Type} {outcome : Except Fault α} {a : α} (h : bare outcome = .ok a) :
    outcome = .ok a := by
  cases outcome with
  | error fault => simp [bare] at h
  | ok b => exact congrArg Except.ok (Except.ok.inj h)

theorem eq_ok_of_within {α : Type} {message field : String} {outcome : Except WireError α} {a : α}
    (h : within message field outcome = .ok a) : outcome = .ok a := by
  cases outcome with
  | error cause => simp [within] at h
  | ok b => exact h

/-! ## What a loop keeps -/

section

variable {σ : Type} {P : σ → Prop} {step : σ → Bytes → Except WireError (σ × Bytes)}
  (hstep : ∀ {state bytes after rest}, P state → step state bytes = .ok (after, rest) → P after)

include hstep

/-- What each step keeps, a loop keeps. -/
theorem repeatUntil_keeps {limit fuel : Nat} {state after : σ} {bytes rest : Bytes} (h : P state)
    (hloop : repeatUntil limit step fuel state bytes = .ok (after, rest)) : P after := by
  induction fuel generalizing state bytes with
  | zero =>
      rw [repeatUntil, Except.ok.injEq, Prod.mk.injEq] at hloop
      exact hloop.1 ▸ h
  | succ fuel ih =>
      rw [repeatUntil] at hloop
      split at hloop
      · split at hloop
        · simp at hloop
        · rename_i hnext
          exact ih (hstep h hnext) hloop
      · rw [Except.ok.injEq, Prod.mk.injEq] at hloop
        exact hloop.1 ▸ h

theorem readContents_keeps {state after : σ} {bytes rest : Bytes} (h : P state)
    (hread : readContents step state bytes = .ok (after, rest)) : P after := by
  rw [readContents] at hread
  obtain ⟨⟨length, content⟩, -, hread⟩ := exists_of_bind_ok hread
  dsimp only at hread
  split at hread
  · simp at hread
  · obtain ⟨⟨last, more⟩, hloop, hread⟩ := exists_of_bind_ok hread
    dsimp only at hread
    split at hread
    · rw [Except.ok.injEq, Prod.mk.injEq] at hread
      exact hread.1 ▸ repeatUntil_keeps hstep h hloop
    · simp at hread

end

/-! ## Levels -/

theorem hasKind_of_readScalar {scalar : Scalar} {bytes rest : Bytes} {value : Value}
    (h : readScalar scalar bytes = .ok (value, rest)) : value.HasKind (.plain scalar) := by
  cases scalar with
  | string =>
      rw [readScalar] at h
      split at h
      · simp at h
      · split at h
        · rw [Except.ok.injEq, Prod.mk.injEq] at h
          exact h.1 ▸ rfl
        · simp at h
  | _ =>
      obtain ⟨read, -, hvalue⟩ := exists_of_map_ok h
      rw [Prod.mk.injEq] at hvalue
      exact hvalue.1 ▸ rfl

theorem valuesDepth_append (first second : List Value) :
    valuesDepth (first ++ second) = max (valuesDepth first) (valuesDepth second) := by
  induction first with
  | nil => simp [valuesDepth]
  | cons value rest ih => rw [List.cons_append, valuesDepth, valuesDepth, ih, Nat.max_assoc]

theorem valuesDepth_putValue_le {n : Nat} (occurrence : Occurrence) {slot : List Value}
    {value : Value} (hslot : valuesDepth slot ≤ n) (hvalue : value.depth ≤ n) :
    valuesDepth (putValue occurrence slot value) ≤ n := by
  have hsingle : valuesDepth [value] ≤ n := by
    rw [valuesDepth, valuesDepth, Nat.max_zero]
    exact hvalue
  rw [putValue]
  split
  · rw [valuesDepth_append]
    exact Nat.max_le.2 ⟨hslot, hsingle⟩
  · exact hsingle

theorem slotsDepth_initial (type : MessageType) : slotsDepth (Record.initial type) = 0 := by
  have hspec : ∀ spec : FieldSpec, valuesDepth spec.initial = 0 := by
    intro spec
    rw [FieldSpec.initial.eq_def]
    split
    · rename_i scalar _ _
      cases scalar <;> rfl
    · rfl
  apply Nat.le_zero.1
  rw [slotsDepth_le_iff]
  intro slot hslot
  obtain ⟨spec, -, rfl⟩ := List.mem_map.1 hslot
  exact Nat.le_zero.2 (hspec spec)

theorem slotsDepth_set_le {n : Nat} {record : Record} {slot : List Value}
    (hrecord : slotsDepth record ≤ n) (hslot : valuesDepth slot ≤ n) (position : Nat) :
    slotsDepth (record.set position slot) ≤ n := by
  rw [slotsDepth_le_iff] at hrecord ⊢
  intro other hother
  rcases List.mem_or_eq_of_mem_set hother with hmem | rfl
  · exact hrecord other hmem
  · exact hslot

theorem valuesDepth_getD_le {n : Nat} {record : Record} (hrecord : slotsDepth record ≤ n)
    (position : Nat) : valuesDepth (record[position]?.getD []) ≤ n := by
  cases hslot : record[position]? with
  | none => exact Nat.zero_le n
  | some slot => exact slotsDepth_le_iff.1 hrecord slot (List.mem_of_getElem? hslot)

/-! ## Readers -/

theorem valuesDepth_mergeScalar_le {n : Nat} {occurrence : Occurrence} {scalar : Scalar}
    {type : WireType} {slot after : List Value} {bytes rest : Bytes} (hslot : valuesDepth slot ≤ n)
    (h : mergeScalar occurrence scalar type slot bytes = .ok (after, rest)) :
    valuesDepth after ≤ n := by
  have hvalue : ∀ {value : Value} {bytes rest : Bytes},
      readScalar scalar bytes = .ok (value, rest) → value.depth ≤ n := by
    intro value bytes rest hread
    rw [depth_of_plain (hasKind_of_readScalar hread)]
    exact Nat.zero_le n
  rw [mergeScalar] at h
  split at h
  · refine readContents_keeps (P := fun values => valuesDepth values ≤ n) ?_ hslot h
    intro values bytes values' rest hvalues hitem
    rw [readPackedItem] at hitem
    obtain ⟨⟨value, more⟩, hread, hafter⟩ := exists_of_map_ok hitem
    rw [Prod.mk.injEq] at hafter
    rw [← hafter.1, valuesDepth_append, valuesDepth, valuesDepth, Nat.max_zero]
    exact Nat.max_le.2 ⟨hvalues, hvalue (eq_ok_of_bare hread)⟩
  · obtain ⟨_, -, h⟩ := exists_of_bind_ok h
    obtain ⟨⟨value, more⟩, hread, h⟩ := exists_of_bind_ok h
    rw [Except.ok.injEq, Prod.mk.injEq] at h
    rw [← h.1]
    exact valuesDepth_putValue_le occurrence hslot (hvalue (eq_ok_of_bare hread))

theorem slotsDepth_messageBase_le {n : Nat} (occurrence : Occurrence) (inner : MessageType)
    {slot : List Value} (hslot : valuesDepth slot ≤ n + 1) :
    slotsDepth (messageBase occurrence inner slot) ≤ n := by
  have hinitial : slotsDepth (Record.initial inner) ≤ n := by
    rw [slotsDepth_initial]
    exact Nat.zero_le n
  rw [messageBase.eq_def]
  split
  · rename_i record
    split
    · exact hinitial
    · have hlevel : slotsDepth record + 1 ≤ n + 1 := (Nat.max_le.1 hslot).1
      exact Nat.le_of_succ_le_succ hlevel
  · exact hinitial

theorem valuesDepth_readSlot_le {n : Nat}
    (hbelow : ∀ m, n = m + 1 → ∀ {owner record bytes after rest}, slotsDepth record ≤ m →
      mergeField m owner record bytes = .ok (after, rest) → slotsDepth after ≤ m)
    {spec : FieldSpec} {type : WireType} {slot after : List Value} {bytes rest : Bytes}
    (hslot : valuesDepth slot ≤ n)
    (h : readSlot (readerBelow n) spec type slot bytes = .ok (after, rest)) :
    valuesDepth after ≤ n := by
  rw [readSlot] at h
  split at h
  · exact valuesDepth_mergeScalar_le hslot h
  · rename_i inner _
    simp only [mergeMessage] at h
    obtain ⟨_, -, h⟩ := exists_of_bind_ok h
    cases n with
    | zero => simp [readerBelow] at h
    | succ m =>
        rw [readerBelow] at h
        obtain ⟨⟨record, more⟩, hread, h⟩ := exists_of_bind_ok h
        have hbase := slotsDepth_messageBase_le spec.occurrence inner hslot
        have hrecord : slotsDepth record ≤ m :=
          readContents_keeps (P := fun record => slotsDepth record ≤ m) (hbelow m rfl) hbase hread
        rw [Except.ok.injEq, Prod.mk.injEq] at h
        rw [← h.1]
        exact valuesDepth_putValue_le spec.occurrence hslot (Nat.succ_le_succ hrecord)

/-- The reader for a number of levels keeps records with that many levels. -/
theorem slotsDepth_mergeField_le {n : Nat} {owner : MessageType} {record after : Record}
    {bytes rest : Bytes} (hrecord : slotsDepth record ≤ n)
    (h : mergeField n owner record bytes = .ok (after, rest)) : slotsDepth after ≤ n := by
  induction n using Nat.strongRecOn generalizing owner record after bytes rest with
  | ind n ih =>
      rw [mergeField_eq, mergeFieldWith_eq] at h
      obtain ⟨⟨number, type, content⟩, -, h⟩ := exists_of_bind_ok h
      dsimp only at h
      split at h
      · -- a field that is not known changes no slot
        obtain ⟨_, -, h⟩ := exists_of_bind_ok h
        rw [Except.ok.injEq, Prod.mk.injEq] at h
        exact h.1 ▸ hrecord
      · rename_i position spec _
        obtain ⟨⟨slot, more⟩, hread, h⟩ := exists_of_bind_ok h
        have hbelow : ∀ m, n = m + 1 → ∀ {owner record bytes after rest}, slotsDepth record ≤ m →
            mergeField m owner record bytes = .ok (after, rest) → slotsDepth after ≤ m :=
          fun m hm _ _ _ _ _ hm' h' => ih m (by omega) hm' h'
        have hslot := valuesDepth_readSlot_le hbelow (valuesDepth_getD_le hrecord position)
          (eq_ok_of_within hread)
        rw [Except.ok.injEq, Prod.mk.injEq] at h
        exact h.1 ▸ slotsDepth_set_le hrecord hslot position

/-- A message that was read has no more levels than the limit. -/
theorem slotsDepth_decode_le {type : MessageType} {bytes : Bytes} {record : Record}
    (h : decode type bytes = .ok record) : slotsDepth record ≤ nestingLimit := by
  obtain ⟨⟨after, rest⟩, hloop, rfl⟩ := exists_of_map_ok h
  have hinitial : slotsDepth (Record.initial type) ≤ nestingLimit := by
    rw [slotsDepth_initial]
    exact Nat.zero_le _
  exact repeatUntil_keeps (P := fun record => slotsDepth record ≤ nestingLimit)
    slotsDepth_mergeField_le hinitial hloop

end SchemaDocs.Wire
