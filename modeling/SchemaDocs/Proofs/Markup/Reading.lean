import SchemaDocs.Markup.Batch
/-!
# Reading a batch back

A converted batch answers with the texts of its slots in order, and with nothing once
all were read.
-/

namespace SchemaDocs

theorem exists_append_of_length {texts : List String} {m n : Nat} (h : texts.length = m + n) :
    ∃ first rest, texts = first ++ rest ∧ first.length = m ∧ rest.length = n := by
  refine ⟨texts.take m, texts.drop m, (List.take_append_drop m texts).symm, ?_, ?_⟩
  · rw [List.length_take, h]
    omega
  · rw [List.length_drop, h]
    omega

theorem eq_ok_of_toOption {ε α : Type} {outcome : Except ε α} {value : α}
    (h : outcome.toOption = some value) : outcome = .ok value := by
  cases outcome with
  | error _ => simp [Except.toOption] at h
  | ok _ => exact congrArg Except.ok (Option.some.inj h)

/-- The text of a slot that can be read. -/
def Slot.text? : Slot → Option String
  | .ready text => some text
  | .waiting => none
  | .converted text => some text

namespace Batch

/-- The answers to a number of reads, one after the other. -/
def reads (batch : Batch) : Nat → List (Except BatchError (Option String))
  | 0 => []
  | k + 1 =>
    match batch.next with
    | .error cause => .error cause :: batch.reads k
    | .ok (text, batch) => .ok text :: batch.reads k

/-- Reading a batch returns exactly some texts, and then nothing, however often it is read. -/
def Returns (batch : Batch) (texts : List String) : Prop :=
  ∀ k, batch.reads (texts.length + k) =
    texts.map (fun text => .ok (some text)) ++ List.replicate k (.ok none)

/-- A batch after a number of reads. -/
def advance (batch : Batch) (n : Nat) : Batch := { batch with cursor := batch.cursor + n }

/-- A batch is converted, and the slots that were not read yet hold some texts. -/
structure Remaining (batch : Batch) (texts : List String) : Prop where
  isConverted : batch.isConverted = true
  slots : (batch.slots.drop batch.cursor).map Slot.text? = texts.map some

theorem Remaining.next_nil {batch : Batch} (h : batch.Remaining []) :
    batch.next = .ok (none, batch) := by
  have hslots := h.slots
  rw [List.map_nil, List.map_eq_nil_iff, List.drop_eq_nil_iff] at hslots
  simp [next, h.isConverted, List.getElem?_eq_none hslots]

theorem Remaining.next_cons {batch : Batch} {text : String} {texts : List String}
    (h : batch.Remaining (text :: texts)) :
    batch.next = .ok (some text, batch.advance 1) ∧ (batch.advance 1).Remaining texts := by
  obtain ⟨slot, slots, hdrop, htext, hslots⟩ := List.map_eq_cons_iff.1 h.slots
  have hslot : batch.slots[batch.cursor]? = some slot := by
    rw [← List.head?_drop, hdrop, List.head?_cons]
  constructor
  · cases slot with
    | ready _ => simp_all [next, Slot.text?, advance, h.isConverted]
    | waiting => simp [Slot.text?] at htext
    | converted _ => simp_all [next, Slot.text?, advance, h.isConverted]
  · refine ⟨h.isConverted, ?_⟩
    rw [advance, ← List.tail_drop, hdrop]
    exact hslots

theorem Remaining.returns {batch : Batch} {texts : List String} (h : batch.Remaining texts) :
    batch.Returns texts := by
  intro k
  induction texts generalizing batch with
  | nil =>
      simp only [List.length_nil, Nat.zero_add, List.map_nil, List.nil_append]
      induction k with
      | zero => rfl
      | succ k ih => rw [reads, h.next_nil, List.replicate_succ, ← ih]
  | cons text texts ih =>
      obtain ⟨hnext, hrest⟩ := h.next_cons
      rw [List.length_cons, Nat.add_right_comm, reads, hnext]
      dsimp only
      rw [ih hrest, List.map_cons, List.cons_append]

end Batch

end SchemaDocs
