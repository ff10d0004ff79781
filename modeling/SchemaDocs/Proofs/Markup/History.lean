import SchemaDocs.Proofs.Markup.Conversion
import SchemaDocs.Proofs.Markup.InPlace
/-!
# Histories of a batch

Operations may come in any order and may fail.  A batch is filled until a conversion succeeds, and
read from then on.  What was submitted, converted and returned so far tells its state, and an
operation that fails leaves no trace.
-/

namespace SchemaDocs

namespace Batch

open SchemaDocs.Markup

/-- An operation on a batch.  Each conversion has a rule of its own for its converter. -/
inductive Operation where
  | submit (comment : String)
  | convertAll (rule : ConversionCall → ConversionAnswer)
  | next

/-- What an operation answers that succeeds. -/
inductive Reply where
  | done
  | read (text : Option String)

namespace Operation

/-- What an operation answers on a batch as a value, and the batch after it. -/
def answer : Operation → Batch → Except BatchError Reply × Batch
  | .submit comment, batch =>
    settled batch ((batch.submit comment).map fun after => (.done, after))
  | .convertAll rule, batch =>
    settled batch ((batch.convertAll (Converter.ofRule rule)).run.map fun after => (.done, after))
  | .next, batch => settled batch (batch.next.map fun (text, after) => (.read text, after))

/-- The program of an operation. -/
def program : Operation → InPlace Reply
  | .submit comment => do
    InPlace.submit comment
    return .done
  | .convertAll rule => do
    InPlace.convertAll rule
    return .done
  | .next => do
    let text ← InPlace.next
    return .read text

/-- What an operation answers on a batch changed in place, and the batch that it leaves behind. -/
def perform (operation : Operation) (batch : Batch) : Except BatchError Reply × Batch :=
  operation.program.perform batch

theorem snd_perform_next (batch : Batch) :
    (next.perform batch).2 = (InPlace.next.perform batch).2 := by
  rw [perform, program, InPlace.perform_bind]
  rcases InPlace.next.perform batch with ⟨_ | _, _⟩ <;> rfl

end Operation

/-- An operation and its answer. -/
structure Event where
  operation : Operation
  answer : Except BatchError Reply

namespace Event

/-- Whether an operation succeeded. -/
def succeeded : Event → Bool
  | ⟨_, .ok _⟩ => true
  | ⟨_, .error _⟩ => false

/-- The comment that was accepted. -/
def submitted? : Event → Option String
  | ⟨.submit comment, .ok _⟩ => some comment
  | _ => none

/-- Whether a conversion succeeded. -/
def isConversion : Event → Bool
  | ⟨.convertAll _, .ok _⟩ => true
  | _ => false

/-- The text that was returned. -/
def returned? : Event → Option String
  | ⟨.next, .ok (.read text)⟩ => text
  | _ => none

/-- An event from which a batch takes nothing and gives nothing. -/
structure Silent (event : Event) : Prop where
  submitted : event.submitted? = none
  conversion : event.isConversion = false
  returned : event.returned? = none

theorem silent_error (operation : Operation) (cause : BatchError) :
    Silent ⟨operation, .error cause⟩ := by
  cases operation <;> exact ⟨rfl, rfl, rfl⟩

theorem silent_end : Silent ⟨.next, .ok (.read none)⟩ := ⟨rfl, rfl, rfl⟩

end Event

/-- The comments that were accepted. -/
def submitted (events : List Event) : List String := events.filterMap Event.submitted?

/-- The texts that were returned. -/
def returned (events : List Event) : List String := events.filterMap Event.returned?

/-- Whether a conversion has succeeded. -/
def converted (events : List Event) : Bool := events.any Event.isConversion

@[simp] theorem submitted_concat (events : List Event) (event : Event) :
    submitted (events ++ [event]) = submitted events ++ event.submitted?.toList := by
  rw [submitted, List.filterMap_append, List.filterMap_cons]
  cases event.submitted? <;> rfl

@[simp] theorem returned_concat (events : List Event) (event : Event) :
    returned (events ++ [event]) = returned events ++ event.returned?.toList := by
  rw [returned, List.filterMap_append, List.filterMap_cons]
  cases event.returned? <;> rfl

@[simp] theorem converted_concat (events : List Event) (event : Event) :
    converted (events ++ [event]) = (converted events || event.isConversion) := by
  simp [converted]

/-! ## Runs -/

/-- Performs operations one after the other, each by a given step, and collects their answers. -/
def history (step : Operation → Batch → Except BatchError Reply × Batch) (batch : Batch) :
    List Operation → List Event × Batch
  | [] => ([], batch)
  | operation :: rest =>
    let later := history step (step operation batch).2 rest
    (⟨operation, (step operation batch).1⟩ :: later.1, later.2)

section

variable (step : Operation → Batch → Except BatchError Reply × Batch)

theorem history_append (batch : Batch) (first second : List Operation) :
    history step batch (first ++ second) =
      ((history step batch first).1 ++
          (history step (history step batch first).2 second).1,
        (history step (history step batch first).2 second).2) := by
  induction first generalizing batch with
  | nil => rfl
  | cons operation rest ih => simp [history, ih]

variable {step}

/-- Where a failure leaves the batch as it was, the operations that succeed do so too, with the same
answers, when those that fail are left out. -/
theorem history_succeeded
    (hkept : ∀ operation batch cause, (step operation batch).1 = .error cause →
      (step operation batch).2 = batch)
    (batch : Batch) (operations : List Operation) :
    history step batch (((history step batch operations).1.filter Event.succeeded).map
        Event.operation) =
      ((history step batch operations).1.filter Event.succeeded,
        (history step batch operations).2) := by
  induction operations generalizing batch with
  | nil => rfl
  | cons operation rest ih =>
      have hrest := ih (step operation batch).2
      cases hanswer : (step operation batch).1 with
      | error cause =>
          rw [hkept operation batch cause hanswer] at hrest
          rw [history, hkept operation batch cause hanswer]
          dsimp only
          rw [List.filter_cons_of_neg (by simp [Event.succeeded, hanswer])]
          exact hrest
      | ok reply =>
          rw [history]
          dsimp only
          rw [List.filter_cons_of_pos (by simp [Event.succeeded, hanswer]), List.map_cons, history,
            hrest]

end

theorem snd_answer_of_error (operation : Operation) (batch : Batch) (cause : BatchError)
    (h : (operation.answer batch).1 = .error cause) : (operation.answer batch).2 = batch := by
  cases operation with
  | submit _ => exact snd_settled_of_error h
  | convertAll _ => exact snd_settled_of_error h
  | next => exact snd_settled_of_error h

/-! ## Batches that are filled -/

theorem slotOf_ne_converted (comment text : String) : slotOf comment ≠ .converted text := by
  rw [slotOf]
  split <;> simp

theorem isWaiting_slotOf (comment : String) :
    (slotOf comment).isWaiting = needsConversion comment := by
  cases hneeds : needsConversion comment <;> simp [slotOf, hneeds, Slot.isWaiting]

theorem countP_isWaiting_slotOf (comments : List String) :
    (comments.map slotOf).countP Slot.isWaiting = (waiting comments).length := by
  rw [List.countP_map, waiting, ← List.countP_eq_length_filter]
  exact List.countP_congr fun comment _ => by simp [isWaiting_slotOf]

theorem joined_eq_intercalate_feed (comments : List String) :
    joined comments = "\n$#!".intercalate comments := by
  match comments with
  | [] => rfl
  | [last] => simp [joined]
  | comment :: next :: rest =>
      have htoken : "\n" ++ token = "\n$#!" := rfl
      rw [String.intercalate_cons_of_ne_nil (List.cons_ne_nil next rest),
        ← joined_eq_intercalate_feed (next :: rest), ← htoken]
      simp [joined, String.append_assoc]

section

variable (settings : MarkupSettings) (comments : List String)

theorem answer_submit_filled (comment : String) :
    (Operation.submit comment).answer (filled settings comments) =
      (.ok .done, filled settings (comments ++ [replaceLinks settings.host comment])) := by
  simp [Operation.answer, submit_filled, settled, Except.map]

theorem answer_convertAll_filled (rule : ConversionCall → ConversionAnswer) :
    (Operation.convertAll rule).answer (filled settings comments) =
      settled (filled settings comments)
        ((outcome rule settings comments).map fun after => (.done, after)) := by
  rw [Operation.answer, convertAll_filled_id]
  rfl

theorem answer_next_filled :
    Operation.next.answer (filled settings comments) =
      (.error .notConverted, filled settings comments) := rfl

end

/-! ## Batches that are read -/

section

variable {batch : Batch} (h : batch.isConverted = true)

include h

theorem answer_submit_of_isConverted (comment : String) :
    (Operation.submit comment).answer batch = (.error .alreadyConverted, batch) := by
  simp [Operation.answer, submit, h, settled, Except.map]

theorem answer_convertAll_of_isConverted (rule : ConversionCall → ConversionAnswer) :
    (Operation.convertAll rule).answer batch = (.error .alreadyConverted, batch) := by
  simp [Operation.answer, convertAll, h, settled, Except.map]

theorem answer_next_of_end (hslot : batch.slots[batch.cursor]? = none) :
    Operation.next.answer batch = (.ok (.read none), batch) := by
  simp [Operation.answer, next, h, hslot, settled, Except.map]

theorem answer_next_of_text {slot : Slot} {text : String}
    (hslot : batch.slots[batch.cursor]? = some slot) (htext : slot.text? = some text) :
    Operation.next.answer batch = (.ok (.read (some text)), batch.advance 1) := by
  simp [Operation.answer, next_of_text h hslot htext, settled, Except.map]

/-- Reads change no slot, and all else fails. -/
theorem answer_of_isConverted (operation : Operation) :
    (operation.answer batch).2.isConverted = true ∧
      (operation.answer batch).2.slots = batch.slots := by
  cases operation with
  | submit comment =>
      rw [answer_submit_of_isConverted h]
      exact ⟨h, rfl⟩
  | convertAll rule =>
      rw [answer_convertAll_of_isConverted h]
      exact ⟨h, rfl⟩
  | next =>
      rw [Operation.answer, next, h]
      cases batch.slots[batch.cursor]? with
      | none => exact ⟨h, rfl⟩
      | some slot =>
          cases slot with
          | ready _ => exact ⟨rfl, rfl⟩
          | waiting => exact ⟨h, rfl⟩
          | converted _ => exact ⟨rfl, rfl⟩

theorem slots_history_of_isConverted (operations : List Operation) :
    (history Operation.answer batch operations).2.slots = batch.slots := by
  induction operations generalizing batch with
  | nil => rfl
  | cons operation rest ih =>
      obtain ⟨hconverted, hslots⟩ := answer_of_isConverted h operation
      exact (ih hconverted).trans hslots

end

/-! ## The two phases -/

/-- What is known of a batch after the operations of a history. -/
inductive Phase (settings : MarkupSettings) (events : List Event) : Batch → Prop
  /-- No conversion has succeeded, and the batch holds what was submitted. -/
  | filling (hnone : converted events = false) (hunread : returned events = []) :
      Phase settings events
        (filled settings ((submitted events).map (replaceLinks settings.host)))
  /-- A conversion has succeeded, and the texts before the cursor were returned. -/
  | reading {batch : Batch} (hsome : converted events = true) (hbatch : batch.isConverted = true)
      (hlength : batch.slots.length = (submitted events).length)
      (hwaiting : .waiting ∉ batch.slots)
      (hcursor : batch.cursor ≤ batch.slots.length)
      (hread : (batch.slots.take batch.cursor).map Slot.text? = (returned events).map some) :
      Phase settings events batch

theorem exists_text_of_ne_waiting {slot : Slot} (h : slot ≠ .waiting) :
    ∃ text, slot.text? = some text := by
  cases slot with
  | ready text => exact ⟨text, rfl⟩
  | waiting => exact absurd rfl h
  | converted text => exact ⟨text, rfl⟩

theorem cursor_of_outcome_ok {rule : ConversionCall → ConversionAnswer}
    {settings : MarkupSettings} {comments : List String} {batch : Batch}
    (h : outcome rule settings comments = .ok batch) : batch.cursor = 0 := by
  rcases (outcome_ok_iff rule settings comments).1 h with ⟨-, rfl⟩ | ⟨-, output, -, -, rfl⟩
  · rfl
  · rfl

namespace Phase

variable {settings : MarkupSettings} {events : List Event} {batch : Batch}

theorem new (settings : MarkupSettings) : Phase settings [] (new settings) := .filling rfl rfl

theorem concat_silent (h : Phase settings events batch) {event : Event} (hsilent : event.Silent) :
    Phase settings (events ++ [event]) batch := by
  have hsubmitted : submitted (events ++ [event]) = submitted events := by
    simp [hsilent.submitted]
  have hreturned : returned (events ++ [event]) = returned events := by
    simp [hsilent.returned]
  have hconverted : converted (events ++ [event]) = converted events := by
    simp [hsilent.conversion]
  cases h with
  | filling hnone hunread =>
      rw [← hsubmitted]
      exact .filling (hconverted.trans hnone) (hreturned.trans hunread)
  | reading hsome hbatch hlength hwaiting hcursor hread =>
      exact .reading (hconverted.trans hsome) hbatch (hsubmitted ▸ hlength) hwaiting hcursor
        (hreturned ▸ hread)

theorem concat_submit (hnone : converted events = false) (hunread : returned events = [])
    (comment : String) :
    Phase settings (events ++ [⟨.submit comment, .ok .done⟩])
      (filled settings ((submitted events).map (replaceLinks settings.host) ++
        [replaceLinks settings.host comment])) := by
  have hcomments : (submitted events).map (replaceLinks settings.host) ++
      [replaceLinks settings.host comment] =
        (submitted (events ++ [⟨.submit comment, .ok .done⟩])).map
          (replaceLinks settings.host) := by
    simp [Event.submitted?]
  rw [hcomments]
  refine .filling ?_ ?_
  · simpa [Event.isConversion] using hnone
  · simpa [Event.returned?] using hunread

/-- A conversion that succeeds ends the filling, and the first slot is the next to be read. -/
theorem concat_convertAll (hunread : returned events = [])
    {rule : ConversionCall → ConversionAnswer}
    (h : outcome rule settings ((submitted events).map (replaceLinks settings.host)) = .ok batch) :
    Phase settings (events ++ [⟨.convertAll rule, .ok .done⟩]) batch := by
  obtain ⟨pieces, -, -, hremaining⟩ := exists_remaining_of_outcome_ok rule settings _ h
  have hstart := cursor_of_outcome_ok h
  have hslots := hremaining.slots
  rw [hstart, List.drop_zero] at hslots
  refine .reading ?_ hremaining.isConverted ?_ ?_ ?_ ?_
  · simp [Event.isConversion]
  · simpa [Event.submitted?] using congrArg List.length hslots
  · intro hwaiting
    have hmem := List.mem_map_of_mem (f := Slot.text?) hwaiting
    simp [hslots, Slot.text?] at hmem
  · rw [hstart]
    exact Nat.zero_le _
  · simp [hstart, hunread, Event.returned?]

/-- A read returns the text at the cursor and moves on, or returns nothing at the end. -/
theorem concat_next (h : Phase settings events batch) (hbatch : batch.isConverted = true) :
    Phase settings (events ++ [⟨.next, (Operation.next.answer batch).1⟩])
      (Operation.next.answer batch).2 := by
  cases hslot : batch.slots[batch.cursor]? with
  | none =>
      rw [answer_next_of_end hbatch hslot]
      exact h.concat_silent Event.silent_end
  | some slot =>
      cases h with
      | filling _ _ => exact absurd hbatch Bool.false_ne_true
      | reading hsome _ hlength hwaiting hcursor hread =>
          have hmem := List.mem_of_getElem? hslot
          obtain ⟨text, htext⟩ := exists_text_of_ne_waiting fun h => hwaiting (h ▸ hmem)
          rw [answer_next_of_text hbatch hslot htext]
          refine .reading ?_ hbatch ?_ hwaiting ?_ ?_
          · simpa [Event.isConversion] using hsome
          · simpa [Event.submitted?, advance] using hlength
          · exact (List.getElem?_eq_some_iff.1 hslot).1
          · simp [advance, List.take_add_one, hslot, htext, hread, Event.returned?]

/-- Each operation leads from phase to phase. -/
theorem step (h : Phase settings events batch) (operation : Operation) :
    Phase settings (events ++ [⟨operation, (operation.answer batch).1⟩])
      (operation.answer batch).2 := by
  by_cases hbatch : batch.isConverted = true
  · cases operation with
    | submit comment =>
        rw [answer_submit_of_isConverted hbatch]
        exact h.concat_silent (Event.silent_error _ _)
    | convertAll rule =>
        rw [answer_convertAll_of_isConverted hbatch]
        exact h.concat_silent (Event.silent_error _ _)
    | next => exact h.concat_next hbatch
  · cases h with
    | reading _ hconverted _ _ _ _ => exact absurd hconverted hbatch
    | filling hnone hunread =>
        cases operation with
        | submit comment =>
            rw [answer_submit_filled]
            exact concat_submit hnone hunread comment
        | convertAll rule =>
            rw [answer_convertAll_filled]
            cases houtcome : outcome rule settings _ with
            | error cause => exact (filling hnone hunread).concat_silent (Event.silent_error _ _)
            | ok after => exact concat_convertAll hunread houtcome
        | next =>
            rw [answer_next_filled]
            exact (filling hnone hunread).concat_silent (Event.silent_error _ _)

theorem history (h : Phase settings events batch) (operations : List Operation) :
    Phase settings (events ++ (history Operation.answer batch operations).1)
      (history Operation.answer batch operations).2 := by
  induction operations generalizing events batch with
  | nil => simpa [Batch.history] using h
  | cons operation rest ih => simpa [Batch.history] using ih (h.step operation)

end Phase

/-! ## Batches changed in place -/

theorem perform_submit (comment : String) (batch : Batch) :
    (Operation.submit comment).perform batch = (Operation.submit comment).answer batch := by
  rw [Operation.perform, Operation.program, InPlace.perform_bind, InPlace.perform_submit,
    Operation.answer]
  cases batch.submit comment <;> rfl

theorem perform_convertAll (rule : ConversionCall → ConversionAnswer) (batch : Batch) :
    (Operation.convertAll rule).perform batch = (Operation.convertAll rule).answer batch := by
  rw [Operation.perform, Operation.program, InPlace.perform_bind, InPlace.perform_convertAll,
    Operation.answer]
  cases (batch.convertAll (Converter.ofRule rule)).run <;> rfl

theorem perform_next {batch : Batch}
    (h : batch.isConverted = true → batch.slots[batch.cursor]? ≠ some .waiting) :
    Operation.next.perform batch.emptied =
      Prod.map id emptied (Operation.next.answer batch) := by
  rw [Operation.perform, Operation.program, InPlace.perform_bind, InPlace.perform_next h,
    Operation.answer]
  cases batch.next <;> rfl

namespace Phase

variable {settings : MarkupSettings} {events : List Event} {batch : Batch}

theorem slot_ne_waiting (h : Phase settings events batch) (hbatch : batch.isConverted = true) :
    batch.slots[batch.cursor]? ≠ some .waiting := by
  intro hslot
  cases h with
  | filling _ _ => exact absurd hbatch Bool.false_ne_true
  | reading _ _ _ hwaiting _ _ => exact hwaiting (List.mem_of_getElem? hslot)

/-- An operation in place answers as it does on the batch as a value. -/
theorem perform_emptied (h : Phase settings events batch) (operation : Operation) :
    operation.perform batch.emptied = Prod.map id emptied (operation.answer batch) := by
  by_cases hbatch : batch.isConverted = true
  · have hemptied : batch.emptied.isConverted = true := hbatch
    cases operation with
    | submit comment =>
        rw [perform_submit, answer_submit_of_isConverted hbatch,
          answer_submit_of_isConverted hemptied]
        rfl
    | convertAll rule =>
        rw [perform_convertAll, answer_convertAll_of_isConverted hbatch,
          answer_convertAll_of_isConverted hemptied]
        rfl
    | next => exact perform_next h.slot_ne_waiting
  · cases h with
    | reading _ hconverted _ _ _ _ => exact absurd hconverted hbatch
    | filling hnone hunread =>
        -- nothing was read, neither before nor by an operation other than a read
        rw [emptied_of_cursor_eq_zero rfl]
        cases operation with
        | submit comment =>
            rw [perform_submit, answer_submit_filled, Prod.map_apply,
              emptied_of_cursor_eq_zero rfl]
            rfl
        | convertAll rule =>
            rw [perform_convertAll, answer_convertAll_filled]
            cases houtcome : outcome rule settings _ with
            | error cause =>
                exact congrArg (Prod.mk _) (emptied_of_cursor_eq_zero rfl).symm
            | ok after =>
                exact congrArg (Prod.mk _)
                  (emptied_of_cursor_eq_zero (cursor_of_outcome_ok houtcome)).symm
        | next => exact congrArg (Prod.mk _) (emptied_of_cursor_eq_zero rfl).symm

/-- A run in place answers as it does on the batch as a value. -/
theorem history_emptied (h : Phase settings events batch) (operations : List Operation) :
    Batch.history Operation.perform batch.emptied operations =
      Prod.map id emptied (Batch.history Operation.answer batch operations) := by
  induction operations generalizing events batch with
  | nil => rfl
  | cons operation rest ih =>
      rw [Batch.history, h.perform_emptied operation, Prod.map_snd, Prod.map_fst,
        ih (h.step operation)]
      rfl

end Phase

/-! ## What a history tells -/

namespace Phase

variable {settings : MarkupSettings} {events : List Event} {batch : Batch}

theorem isConverted_eq (h : Phase settings events batch) :
    batch.isConverted = converted events := by
  cases h with
  | filling hnone _ => exact hnone.symm
  | reading hsome hbatch _ _ _ _ => exact hbatch.trans hsome.symm

theorem length_slots (h : Phase settings events batch) :
    batch.slots.length = (submitted events).length := by
  cases h with
  | filling _ _ => simp [filled]
  | reading _ _ hlength _ _ _ => exact hlength

theorem eq_filled (h : Phase settings events batch) (hnone : converted events = false) :
    batch = filled settings ((submitted events).map (replaceLinks settings.host)) ∧
      returned events = [] := by
  cases h with
  | filling _ hunread => exact ⟨rfl, hunread⟩
  | reading hsome _ _ _ _ _ => exact absurd (hnone.symm.trans hsome) Bool.false_ne_true

theorem waiting_not_mem (h : Phase settings events batch) (hsome : converted events = true) :
    .waiting ∉ batch.slots := by
  cases h with
  | filling hnone _ => exact absurd (hnone.symm.trans hsome) Bool.false_ne_true
  | reading _ _ _ hwaiting _ _ => exact hwaiting

/-- The slots before the cursor are those that were returned. -/
theorem read (h : Phase settings events batch) :
    batch.cursor ≤ batch.slots.length ∧
      (batch.slots.take batch.cursor).map Slot.text? = (returned events).map some := by
  cases h with
  | filling _ hunread => simp [hunread, filled]
  | reading _ _ _ _ hcursor hread => exact ⟨hcursor, hread⟩

theorem answer_submit_error_iff (h : Phase settings events batch) (comment : String)
    (cause : BatchError) :
    ((Operation.submit comment).answer batch).1 = .error cause ↔
      cause = .alreadyConverted ∧ converted events = true := by
  rw [← h.isConverted_eq]
  by_cases hbatch : batch.isConverted = true
  · simp [answer_submit_of_isConverted hbatch, hbatch, eq_comm]
  · cases h with
    | filling _ _ =>
        rw [answer_submit_filled]
        simp [filled]
    | reading _ hconverted _ _ _ _ => exact absurd hconverted hbatch

theorem answer_convertAll_error_iff (h : Phase settings events batch)
    (rule : ConversionCall → ConversionAnswer) :
    ((Operation.convertAll rule).answer batch).1 = .error .alreadyConverted ↔
      converted events = true := by
  rw [← h.isConverted_eq]
  by_cases hbatch : batch.isConverted = true
  · simp [answer_convertAll_of_isConverted hbatch, hbatch]
  · cases h with
    | reading _ hconverted _ _ _ _ => exact absurd hconverted hbatch
    | filling _ _ =>
        rw [answer_convertAll_filled]
        cases houtcome : outcome rule settings _ with
        | ok after => simp [settled, Except.map, filled]
        | error cause =>
            rcases outcome_error rule settings _ houtcome with ⟨_, rfl⟩ | ⟨_, _, rfl⟩
            · simp [settled, Except.map, filled]
            · simp [settled, Except.map, filled]

/-- A conversion that was not preceded by another succeeds if there is nothing to convert, or if the
converter returns a piece for each waiting comment. -/
theorem answer_convertAll_ok_iff (h : Phase settings events batch)
    (hnone : converted events = false) (rule : ConversionCall → ConversionAnswer) :
    ((Operation.convertAll rule).answer batch).1 = .ok .done ↔
      batch.pending = 0 ∨
        ∃ output, rule batch.call = .ok output ∧ (piecesOf output).length = batch.pending := by
  obtain ⟨rfl, -⟩ := h.eq_filled hnone
  generalize (submitted events).map (replaceLinks settings.host) = comments
  have hcall : (filled settings comments).call = callFor settings comments := rfl
  have hpending : (filled settings comments).pending = (waiting comments).length := rfl
  rw [answer_convertAll_filled, hcall, hpending]
  rcases outcome_cases rule settings comments with
    ⟨hempty, houtcome⟩ | ⟨hsome, cause, hrule, houtcome⟩ |
      ⟨hsome, output, hrule, hlength, houtcome⟩ | ⟨hsome, output, hrule, hlength, houtcome⟩
  · simp [houtcome, hempty, settled, Except.map]
  · simp [houtcome, hsome, hrule, settled, Except.map]
  · simp [houtcome, hrule, hlength, settled, Except.map]
  · simp [houtcome, hsome, hrule, hlength, settled, Except.map]

/-- A read answers once a conversion has succeeded, with what the slot at the cursor holds. -/
theorem answer_next (h : Phase settings events batch) :
    (Operation.next.answer batch).1 =
      if converted events then .ok (.read (batch.slots[batch.cursor]?.bind Slot.text?))
      else .error .notConverted := by
  rw [← h.isConverted_eq]
  by_cases hbatch : batch.isConverted = true
  · rw [if_pos hbatch]
    have hwaiting := h.slot_ne_waiting hbatch
    cases hslot : batch.slots[batch.cursor]? with
    | none => rw [answer_next_of_end hbatch hslot, Option.bind_none]
    | some slot =>
        obtain ⟨text, htext⟩ := exists_text_of_ne_waiting fun h => hwaiting (hslot.trans (h ▸ rfl))
        rw [answer_next_of_text hbatch hslot htext, Option.bind_some, htext]
  · rw [if_neg hbatch]
    simp [Operation.answer, next, hbatch, settled, Except.map]

/-- A conversion that succeeds puts the cursor before the first slot. -/
theorem of_convertAll_ok (h : Phase settings events batch)
    {rule : ConversionCall → ConversionAnswer}
    (hok : ((Operation.convertAll rule).answer batch).1 = .ok .done) :
    ((Operation.convertAll rule).answer batch).2.isConverted = true ∧
      ((Operation.convertAll rule).answer batch).2.cursor = 0 := by
  cases h with
  | reading _ hbatch _ _ _ _ => simp [answer_convertAll_of_isConverted hbatch] at hok
  | filling _ _ =>
      rw [answer_convertAll_filled] at hok ⊢
      cases houtcome : outcome rule settings _ with
      | error cause => simp [houtcome, settled, Except.map] at hok
      | ok after =>
          obtain ⟨_, -, -, hremaining⟩ := exists_remaining_of_outcome_ok rule settings _ houtcome
          exact ⟨hremaining.isConverted, cursor_of_outcome_ok houtcome⟩

end Phase

theorem history_perform_new (settings : MarkupSettings) (operations : List Operation) :
    history Operation.perform (new settings) operations =
      Prod.map id emptied (history Operation.answer (new settings) operations) := by
  have hsame := (Phase.new settings).history_emptied operations
  rwa [emptied_of_cursor_eq_zero rfl] at hsame

/-- The reads after a conversion leave its slots as they are but for the texts that they take. -/
theorem slots_of_convertAll_ok {settings : MarkupSettings} {before : List Operation}
    {rule : ConversionCall → ConversionAnswer}
    (hok : ((Operation.convertAll rule).perform
      (history Operation.perform (new settings) before).2).1 = .ok .done)
    (rest : List Operation) :
    ((Operation.convertAll rule).perform
        (history Operation.perform (new settings) before).2).2.slots =
      (history Operation.answer (new settings) (before ++ .convertAll rule :: rest)).2.slots := by
  have hphase := (Phase.new settings).history before
  rw [history_perform_new, Prod.map_snd, hphase.perform_emptied] at hok ⊢
  obtain ⟨hconverted, hcursor⟩ := hphase.of_convertAll_ok hok
  rw [Prod.map_snd, emptied_of_cursor_eq_zero hcursor, history_append]
  exact (slots_history_of_isConverted hconverted rest).symm

/-- Whatever operations were tried on a new batch, its state is told by those that succeeded.  Before
a conversion succeeds the batch holds what was submitted, and a conversion can be tried again.  From
then on the reads return the slots that the conversion left, each once and in order.  An operation
that fails changes nothing, so that the others go on as if it had not been tried. -/
theorem state_follows_history (settings : MarkupSettings) (operations : List Operation) :
    let run := history Operation.perform (new settings)
    let events := (run operations).1
    let batch := (run operations).2
    let pending := ((submitted events).map (replaceLinks settings.host)).filter needsConversion
    (events = (history Operation.answer (new settings) operations).1 ∧
      batch.isConverted = converted events ∧
      batch.slots.length = (submitted events).length) ∧
    (converted events = false →
      batch.cursor = 0 ∧ returned events = [] ∧
      (∀ slot ∈ batch.slots, ∀ text, slot ≠ .converted text) ∧
      batch.pending = batch.slots.countP Slot.isWaiting ∧
      batch.text = "\n$#!".intercalate pending ∧
      ∀ rule, ((Operation.convertAll rule).perform batch).1 = .ok .done ↔
        pending = [] ∨
          ∃ output, rule ⟨batch.text, settings.sourceFormat, settings.targetFormat⟩ = .ok output ∧
            (piecesOf output).length = pending.length) ∧
    (converted events = true →
      .waiting ∉ batch.slots ∧ batch.cursor ≤ batch.slots.length ∧
      (Operation.next.perform batch).1 =
        .ok (.read (batch.slots[batch.cursor]?.bind Slot.text?))) ∧
    (∀ before rule rest, operations = before ++ .convertAll rule :: rest →
      let conversion := (Operation.convertAll rule).perform (run before).2
      conversion.1 = .ok .done →
        (conversion.2.slots.take batch.cursor).map Slot.text? = (returned events).map some ∧
        conversion.2.slots.drop batch.cursor = batch.slots.drop batch.cursor) ∧
    (∀ comment cause, ((Operation.submit comment).perform batch).1 = .error cause ↔
      cause = .alreadyConverted ∧ converted events = true) ∧
    (∀ rule, ((Operation.convertAll rule).perform batch).1 = .error .alreadyConverted ↔
      converted events = true) ∧
    (∀ cause, (Operation.next.perform batch).1 = .error cause ↔
      cause = .notConverted ∧ converted events = false) ∧
    (∀ (operation : Operation) cause, (operation.perform batch).1 = .error cause →
      (operation.perform batch).2 = batch) ∧
    run ((events.filter Event.succeeded).map Event.operation) =
      (events.filter Event.succeeded, batch) := by
  intro run events batch pending
  have hrun : ∀ operations, run operations =
      Prod.map id emptied (history Operation.answer (new settings) operations) :=
    history_perform_new settings
  have hevents : events = (history Operation.answer (new settings) operations).1 := by
    simp only [events, hrun, Prod.map_fst, id_eq]
  obtain ⟨whole, hwhole⟩ : ∃ whole, whole = (history Operation.answer (new settings) operations).2 :=
    ⟨_, rfl⟩
  have hbatch : batch = whole.emptied := by
    simp only [batch, hrun, Prod.map_snd, hwhole]
  have hphase : Phase settings events whole := by
    rw [hevents, hwhole]
    exact (Phase.new settings).history operations
  have hperform : ∀ operation : Operation, operation.perform batch =
      Prod.map id emptied (operation.answer whole) := by
    intro operation
    rw [hbatch]
    exact hphase.perform_emptied operation
  have hanswer : ∀ operation : Operation,
      (operation.perform batch).1 = (operation.answer whole).1 := by
    intro operation
    rw [hperform, Prod.map_fst, id_eq]
  refine ⟨⟨hevents, ?_, ?_⟩, ?_, ?_, ?_, ?_, ?_, ?_, ?_, ?_⟩
  · rw [hbatch]
    exact hphase.isConverted_eq
  · rw [hbatch, length_slots_emptied]
    exact hphase.length_slots
  · intro hnone
    obtain ⟨hfilled, hunread⟩ := hphase.eq_filled hnone
    rw [hbatch, hfilled, emptied_of_cursor_eq_zero rfl]
    refine ⟨rfl, hunread, ?_, (countP_isWaiting_slotOf _).symm, joined_eq_intercalate_feed _, ?_⟩
    · intro slot hslot text
      obtain ⟨comment, -, rfl⟩ := List.mem_map.1 hslot
      exact slotOf_ne_converted comment text
    · intro rule
      have hconversion := hphase.answer_convertAll_ok_iff hnone rule
      rw [hfilled] at hconversion
      rw [perform_convertAll, hconversion, ← List.length_eq_zero_iff]
      rfl
  · intro hsome
    rw [hanswer, hphase.answer_next, if_pos hsome, hbatch, length_slots_emptied, cursor_emptied,
      getElem?_slots_emptied_cursor]
    refine ⟨fun hwaiting => ?_, hphase.read.1, rfl⟩
    exact hphase.waiting_not_mem hsome (whole.waiting_mem_of_mem_slots_emptied hwaiting)
  · intro before rule rest hsplit conversion hok
    have hslots : conversion.2.slots = whole.slots := by
      rw [hwhole, hsplit]
      exact slots_of_convertAll_ok hok rest
    rw [hslots, hbatch, cursor_emptied, drop_slots_emptied]
    exact ⟨hphase.read.2, rfl⟩
  · intro comment cause
    rw [hanswer]
    exact hphase.answer_submit_error_iff comment cause
  · intro rule
    rw [hanswer]
    exact hphase.answer_convertAll_error_iff rule
  · intro cause
    rw [hanswer, hphase.answer_next]
    cases converted events <;> simp [eq_comm]
  · intro operation cause herror
    rw [hanswer] at herror
    rw [hperform, hbatch, Prod.map_snd, snd_answer_of_error operation whole cause herror]
  · rw [hrun, hevents, history_succeeded snd_answer_of_error, hbatch, hwhole]
    rfl

end Batch

end SchemaDocs
