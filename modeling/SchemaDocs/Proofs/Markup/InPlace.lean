import SchemaDocs.Proofs.Markup.Reading
/-!
# Batches changed in place

The operations on a batch as programs that read and set its fields one after the other, so that a
failure keeps what was set before it, and a read takes its text out of the slot.  They answer as the
operations on batches as values do, and leave the same batch behind but for the texts taken out.
-/

namespace SchemaDocs

/-- A slot after its text was taken out. -/
def Slot.emptied : Slot → Slot
  | .ready _ => .ready ""
  | .waiting => .waiting
  | .converted _ => .converted ""

@[simp] theorem Slot.emptied_eq_waiting_iff {slot : Slot} :
    slot.emptied = .waiting ↔ slot = .waiting := by
  cases slot <;> simp [emptied]

/-- A converter that answers by a rule and does nothing else. -/
def Converter.ofRule (rule : ConversionCall → ConversionAnswer) : Converter Id :=
  fun call => pure (rule call)

namespace Batch

open SchemaDocs.Markup

/-- A program that changes a batch.  If it fails, the changes made so far stay. -/
abbrev InPlace := ExceptT BatchError (StateM Batch)

namespace InPlace

variable {α : Type}

/-- What a program answers, and the batch that it leaves behind. -/
def perform (program : InPlace α) (batch : Batch) : Except BatchError α × Batch :=
  (ExceptT.run program).run batch

/-- Adds a comment to the text, the count and the slots. -/
def submit (comment : String) : InPlace Unit := do
  if (← get).isConverted then throw .alreadyConverted
  let comment := replaceLinks (← get).settings.host comment
  if needsConversion comment then
    if 0 < (← get).pending then
      modify fun batch => { batch with text := batch.text ++ "\n" }
      modify fun batch => { batch with text := batch.text ++ token }
    modify fun batch => { batch with text := batch.text ++ comment }
    modify fun batch => { batch with pending := batch.pending + 1 }
    modify fun batch => { batch with slots := batch.slots ++ [.waiting] }
  else
    modify fun batch => { batch with slots := batch.slots ++ [.ready comment] }

/-- Calls the converter, checks the number of pieces, and fills the slots. -/
def convertAll (rule : ConversionCall → ConversionAnswer) : InPlace Unit := do
  if (← get).isConverted then throw .alreadyConverted
  if (← get).pending = 0 then
    modify fun batch => { batch with isConverted := true }
  else
    match rule (← get).call with
    | .error cause => throw (.convert cause)
    | .ok output =>
      let pieces := piecesOf output
      if pieces.length ≠ (← get).pending then
        throw (.pieceCountMismatch (← get).pending pieces.length)
      modify fun batch => { batch with slots := fill batch.slots pieces }
      modify fun batch => { batch with text := "" }
      modify fun batch => { batch with isConverted := true }

/-- Takes the text out of a slot. -/
def take (position : Nat) (text : String) : InPlace (Option String) := do
  modify fun batch => { batch with slots := batch.slots.modify position Slot.emptied }
  return some text

/-- Moves the cursor on, and takes the text out of the slot that it stood at. -/
def next : InPlace (Option String) := do
  if !(← get).isConverted then throw .notConverted
  let position := (← get).cursor
  match (← get).slots[position]? with
  | none => return none
  | some slot =>
    modify fun batch => { batch with cursor := batch.cursor + 1 }
    match slot with
    | .waiting => throw .notConverted
    | .ready text => take position text
    | .converted text => take position text

/-! ## Steps of a program -/

section

variable {β : Type} (batch : Batch)

@[simp] theorem perform_pure (answer : α) :
    (pure answer : InPlace α).perform batch = (.ok answer, batch) := rfl

@[simp] theorem perform_throw (cause : BatchError) :
    (throw cause : InPlace α).perform batch = (.error cause, batch) := rfl

@[simp] theorem perform_get : (get : InPlace Batch).perform batch = (.ok batch, batch) := rfl

@[simp] theorem perform_modify (change : Batch → Batch) :
    (modify change : InPlace Unit).perform batch = (.ok (), change batch) := rfl

@[simp] theorem perform_bind (first : InPlace α) (rest : α → InPlace β) :
    (first >>= rest).perform batch =
      match first.perform batch with
      | (.error cause, after) => (.error cause, after)
      | (.ok answer, after) => (rest answer).perform after := by
  rw [perform, perform, ExceptT.run_bind, StateT.run_bind]
  rcases (StateT.run (ExceptT.run first) batch : Except BatchError α × Batch) with
    ⟨_ | _, _⟩ <;> rfl

@[simp] theorem perform_map (f : α → β) (program : InPlace α) :
    (f <$> program).perform batch =
      match program.perform batch with
      | (.error cause, after) => (.error cause, after)
      | (.ok answer, after) => (.ok (f answer), after) := by
  rw [map_eq_pure_bind, perform_bind]
  rfl

end

end InPlace

/-! ## Batches without the texts that were read -/

/-- A batch after the texts before its cursor were taken out. -/
def emptied (batch : Batch) : Batch :=
  { batch with
    slots := batch.slots.mapIdx fun i slot => if i < batch.cursor then slot.emptied else slot }

section

variable (batch : Batch)

@[simp] theorem isConverted_emptied : batch.emptied.isConverted = batch.isConverted := rfl

@[simp] theorem cursor_emptied : batch.emptied.cursor = batch.cursor := rfl

@[simp] theorem length_slots_emptied : batch.emptied.slots.length = batch.slots.length :=
  List.length_mapIdx

theorem getElem?_slots_emptied (i : Nat) :
    batch.emptied.slots[i]? =
      batch.slots[i]?.map fun slot => if i < batch.cursor then slot.emptied else slot :=
  List.getElem?_mapIdx

theorem getElem?_slots_emptied_cursor :
    batch.emptied.slots[batch.cursor]? = batch.slots[batch.cursor]? := by
  simp [getElem?_slots_emptied]

theorem drop_slots_emptied :
    batch.emptied.slots.drop batch.cursor = batch.slots.drop batch.cursor := by
  apply List.ext_getElem?
  intro i
  have hahead : ¬ batch.cursor + i < batch.cursor := by omega
  simp [getElem?_slots_emptied, hahead]

theorem waiting_mem_of_mem_slots_emptied (h : .waiting ∈ batch.emptied.slots) :
    .waiting ∈ batch.slots := by
  obtain ⟨i, hi, hslot⟩ := List.mem_mapIdx.1 h
  have hwaiting : batch.slots[i] = .waiting := by
    split at hslot
    · exact Slot.emptied_eq_waiting_iff.1 hslot
    · exact hslot
  exact hwaiting ▸ List.getElem_mem hi

end

theorem emptied_of_cursor_eq_zero {batch : Batch} (h : batch.cursor = 0) :
    batch.emptied = batch := by
  have hslots : batch.emptied.slots = batch.slots := by
    simpa [h] using batch.drop_slots_emptied
  calc batch.emptied = { batch with slots := batch.emptied.slots } := rfl
    _ = batch := by rw [hslots]

/-- The text that a read takes out is the one before the new cursor. -/
theorem emptied_advance_one (batch : Batch) :
    (batch.advance 1).emptied =
      { batch.emptied.advance 1 with
        slots := batch.emptied.slots.modify batch.cursor Slot.emptied } := by
  have hslots : (batch.advance 1).emptied.slots =
      batch.emptied.slots.modify batch.cursor Slot.emptied := by
    apply List.ext_getElem?
    intro i
    rw [List.getElem?_modify, getElem?_slots_emptied, getElem?_slots_emptied]
    rcases Nat.lt_trichotomy i batch.cursor with hlt | rfl | hgt
    · simp [advance, hlt, Nat.lt_succ_of_lt hlt, Nat.ne_of_gt hlt]
    · simp [advance]
    · have hbehind : ¬ i < batch.cursor := by omega
      have hnew : ¬ i < batch.cursor + 1 := by omega
      simp [advance, hbehind, hnew, Nat.ne_of_lt hgt]
  rw [← hslots]
  rfl

/-! ## Agreement -/

/-- An answer with the batch after it, where a failure leaves the batch as it was. -/
def settled {α : Type} (batch : Batch) (outcome : Except BatchError (α × Batch)) :
    Except BatchError α × Batch :=
  match outcome with
  | .error cause => (.error cause, batch)
  | .ok (answer, after) => (.ok answer, after)

theorem snd_settled_of_error {α : Type} {batch : Batch}
    {outcome : Except BatchError (α × Batch)} {cause : BatchError}
    (h : (settled batch outcome).1 = .error cause) : (settled batch outcome).2 = batch := by
  cases outcome with
  | error _ => rfl
  | ok _ => simp [settled] at h

theorem next_of_text {batch : Batch} {slot : Slot} {text : String}
    (hconverted : batch.isConverted = true) (hslot : batch.slots[batch.cursor]? = some slot)
    (htext : slot.text? = some text) : batch.next = .ok (some text, batch.advance 1) := by
  cases slot with
  | ready _ => simp_all [next, Slot.text?, advance]
  | waiting => simp [Slot.text?] at htext
  | converted _ => simp_all [next, Slot.text?, advance]

namespace InPlace

theorem perform_submit (comment : String) (batch : Batch) :
    (submit comment).perform batch =
      settled batch ((batch.submit comment).map fun after => ((), after)) := by
  rw [submit, Batch.submit]
  by_cases hconverted : batch.isConverted = true
  · simp [hconverted, settled, Except.map]
  · by_cases hneeds : needsConversion (replaceLinks batch.settings.host comment) = true
    · by_cases hpending : batch.pending = 0
      · simp [hconverted, hneeds, hpending, settled, Except.map, extendText]
      · simp [hconverted, hneeds, hpending, settled, Except.map, extendText, Nat.pos_iff_ne_zero]
    · simp [hconverted, hneeds, settled, Except.map]

theorem perform_convertAll (rule : ConversionCall → ConversionAnswer) (batch : Batch) :
    (convertAll rule).perform batch =
      settled batch ((batch.convertAll (Converter.ofRule rule)).run.map fun after =>
        ((), after)) := by
  rw [convertAll, Batch.convertAll]
  by_cases hconverted : batch.isConverted = true
  · simp [hconverted, settled, Except.map]
  · by_cases hpending : batch.pending = 0
    · simp [hconverted, hpending, settled, Except.map]
    · cases hanswer : rule batch.call with
      | error cause =>
          simp [hconverted, hpending, hanswer, Converter.ofRule, settled, Except.map]
      | ok output =>
          by_cases hlength : (piecesOf output).length = batch.pending
          · simp [hconverted, hpending, hanswer, hlength, Converter.ofRule, accept, settled,
              Except.map]
          · simp [hconverted, hpending, hanswer, hlength, Converter.ofRule, accept, settled,
              Except.map]

theorem perform_next_of_text {batch : Batch} {slot : Slot} {text : String}
    (hconverted : batch.isConverted = true) (hslot : batch.slots[batch.cursor]? = some slot)
    (htext : slot.text? = some text) :
    next.perform batch =
      (.ok (some text),
        { batch.advance 1 with slots := batch.slots.modify batch.cursor Slot.emptied }) := by
  rw [next]
  cases slot with
  | ready _ => simp_all [Slot.text?, take, advance]
  | waiting => simp [Slot.text?] at htext
  | converted _ => simp_all [Slot.text?, take, advance]

theorem perform_next {batch : Batch}
    (h : batch.isConverted = true → batch.slots[batch.cursor]? ≠ some .waiting) :
    next.perform batch.emptied = Prod.map id emptied (settled batch batch.next) := by
  by_cases hconverted : batch.isConverted = true
  · cases hslot : batch.slots[batch.cursor]? with
    | none =>
        rw [next, Batch.next]
        simp [hconverted, hslot, settled, getElem?_slots_emptied_cursor]
    | some slot =>
        cases htext : slot.text? with
        | none =>
            cases slot <;> simp_all [Slot.text?]
        | some text =>
            have hmarked : batch.emptied.isConverted = true := hconverted
            have hread : batch.emptied.slots[batch.emptied.cursor]? = some slot :=
              batch.getElem?_slots_emptied_cursor.trans hslot
            rw [perform_next_of_text hmarked hread htext,
              next_of_text hconverted hslot htext, settled, Prod.map_apply, emptied_advance_one]
            rfl
  · rw [next, Batch.next]
    simp [hconverted, settled]

/-- At a slot that waits after a conversion, the cursor would have moved on before the failure. -/
theorem perform_next_of_waiting {batch : Batch} (hconverted : batch.isConverted = true)
    (h : batch.slots[batch.cursor]? = some .waiting) :
    next.perform batch = (.error .notConverted, { batch with cursor := batch.cursor + 1 }) := by
  rw [next]
  simp [hconverted, h]

/-- A read leaves a batch as it is, or moves its cursor on, or takes out the text there as well. -/
theorem snd_perform_next (batch : Batch) :
    (next.perform batch).2 = batch ∨ (next.perform batch).2 = batch.advance 1 ∨
      (next.perform batch).2 =
        { batch.advance 1 with slots := batch.slots.modify batch.cursor Slot.emptied } := by
  by_cases hconverted : batch.isConverted = true
  · cases hslot : batch.slots[batch.cursor]? with
    | none => exact .inl (by simp [next, hconverted, hslot])
    | some slot =>
        cases htext : slot.text? with
        | none =>
            cases slot with
            | waiting =>
                rw [perform_next_of_waiting hconverted hslot]
                exact .inr (.inl rfl)
            | ready _ => cases htext
            | converted _ => cases htext
        | some text =>
            rw [perform_next_of_text hconverted hslot htext]
            exact .inr (.inr rfl)
  · exact .inl (by simp [next, hconverted])

end InPlace

end Batch

end SchemaDocs
