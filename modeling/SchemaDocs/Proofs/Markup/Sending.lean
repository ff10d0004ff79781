import SchemaDocs.Proofs.Markup.Cut
import SchemaDocs.Proofs.Markup.History
/-!
# Comments that are sent to the converter

Replacing the links of a comment neither takes its last sign of markup away nor brings a first one.
So whether a comment is sent to the converter shows in the comment itself, and one without signs
comes back as it was submitted.  The count of a batch is of all comments sent so far, and a
conversion does not set it back.
-/

namespace SchemaDocs

/-- Whether the comment of a slot waits for its conversion or was converted. -/
def Slot.isSent : Slot → Bool
  | .ready _ => false
  | .waiting => true
  | .converted _ => true

theorem Slot.isSent_emptied (slot : Slot) : slot.emptied.isSent = slot.isSent := by
  cases slot <;> rfl

namespace Markup

/-! ## Signs of markup and links -/

/-- A literal has quotes around it, in place of the brackets of its link. -/
theorem any_isTrigger_replace_reference (s : List Char) :
    (referencePattern.replace s).any isTrigger = s.any isTrigger := by
  cases hsigns : s.any isTrigger with
  | false => rw [replace_referencePattern_eq_self (open_not_mem_of_plain hsigns), hsigns]
  | true =>
      obtain ⟨cut, hcut, hwrite⟩ := finds_referencePattern.exists_cut s
      rw [hwrite]
      cases cut with
      | last gap =>
          obtain rfl : gap = s := hcut.text
          exact hsigns
      | more gap link rest => simp [Cut.write, ReferenceLink.literal, isTrigger]

/-- A link to the site keeps its brackets. -/
theorem any_isTrigger_replace_rooted (host s : List Char) :
    ((rootedPattern host).replace s).any isTrigger = s.any isTrigger := by
  cases hsigns : s.any isTrigger with
  | false => rw [replace_rootedPattern_eq_self (open_not_mem_of_plain hsigns), hsigns]
  | true =>
      obtain ⟨c, hmem, hsign⟩ := List.any_eq_true.1 hsigns
      exact List.any_eq_true.2 ⟨c, (sublist_replace_rootedPattern host s).subset hmem, hsign⟩

theorem needsConversion_replaceLinks (host comment : String) :
    needsConversion (replaceLinks host comment) = needsConversion comment := by
  rw [needsConversion, needsConversion, replaceLinks, Text.toList_onChars, replaceLinkChars,
    any_isTrigger_replace_rooted, any_isTrigger_replace_reference]

end Markup

namespace Batch

open Markup

/-! ## What is sent -/

theorem waiting_map_replaceLinks (host : String) (comments : List String) :
    waiting (comments.map (replaceLinks host)) =
      (comments.filter needsConversion).map (replaceLinks host) := by
  have hsame : needsConversion ∘ replaceLinks host = needsConversion :=
    funext (needsConversion_replaceLinks host)
  rw [waiting, List.filter_map, hsame]

/-! ## What is kept -/

theorem getElem?_fill_of_ready {slots : List Slot} {i : Nat} {text : String}
    (h : slots[i]? = some (.ready text)) (pieces : List String) :
    (fill slots pieces)[i]? = some (.ready text) := by
  induction slots generalizing pieces i with
  | nil => simp at h
  | cons slot slots ih =>
      cases i with
      | zero =>
          rw [List.getElem?_cons_zero, Option.some_inj] at h
          subst h
          rfl
      | succ i =>
          rw [List.getElem?_cons_succ] at h
          cases slot with
          | ready _ => exact ih h pieces
          | converted _ => exact ih h pieces
          | waiting => cases pieces <;> exact ih h _

/-- The comments without signs of markup stand in their slots as they were submitted. -/
def KeepsPlain (comments : List String) (slots : List Slot) : Prop :=
  ∀ (i : Nat) (comment : String), comments[i]? = some comment →
    needsConversion comment = false → slots[i]? = some (.ready comment)

/-- A conversion puts nothing into the slot of a comment that does not wait. -/
theorem KeepsPlain.of_outcome {settings : MarkupSettings} {comments replaced : List String}
    (h : KeepsPlain comments (filled settings replaced).slots)
    {rule : ConversionCall → ConversionAnswer} {batch : Batch}
    (hok : outcome rule settings replaced = .ok batch) : KeepsPlain comments batch.slots := by
  rcases (outcome_ok_iff rule settings replaced).1 hok with ⟨-, rfl⟩ | ⟨-, output, -, -, rfl⟩
  · exact h
  · exact fun i comment hi hplain => getElem?_fill_of_ready (h i comment hi hplain) _

namespace Phase

variable {settings : MarkupSettings} {events : List Event} {batch : Batch}

theorem keepsPlain_of_not_converted (h : Phase settings events batch)
    (hnone : converted events = false) : KeepsPlain (submitted events) batch.slots := by
  obtain ⟨rfl, -⟩ := h.eq_filled hnone
  intro i comment hi hplain
  have hsame := replaceLinks_of_not_needs hplain settings.host
  simp [filled, hi, hsame, slotOf, hplain]

/-- No operation changes the slot of a comment without signs of markup. -/
theorem keepsPlain_step (h : Phase settings events batch)
    (hkept : KeepsPlain (submitted events) batch.slots) (operation : Operation) :
    KeepsPlain (submitted (events ++ [⟨operation, (operation.answer batch).1⟩]))
      (operation.answer batch).2.slots := by
  by_cases hbatch : batch.isConverted = true
  · obtain ⟨-, hslots⟩ := answer_of_isConverted hbatch operation
    rw [hslots, submitted_concat]
    cases operation with
    | submit comment => simpa [answer_submit_of_isConverted hbatch, Event.submitted?] using hkept
    | convertAll rule => simpa [Event.submitted?] using hkept
    | next => simpa [Event.submitted?] using hkept
  · have hnone : converted events = false := by
      rw [← h.isConverted_eq]
      exact Bool.eq_false_iff.2 hbatch
    cases operation with
    | submit comment =>
        apply (h.step (.submit comment)).keepsPlain_of_not_converted
        simp [hnone, Event.isConversion]
    | next =>
        apply (h.step .next).keepsPlain_of_not_converted
        simp [hnone, Event.isConversion]
    | convertAll rule =>
        obtain ⟨rfl, -⟩ := h.eq_filled hnone
        rw [answer_convertAll_filled, submitted_concat]
        cases houtcome : outcome rule settings _ with
        | error cause => simpa [settled, Except.map, Event.submitted?] using hkept
        | ok after => simpa [settled, Except.map, Event.submitted?] using hkept.of_outcome houtcome

theorem keepsPlain_history (h : Phase settings events batch)
    (hkept : KeepsPlain (submitted events) batch.slots) (operations : List Operation) :
    KeepsPlain (submitted (events ++ (Batch.history Operation.answer batch operations).1))
      (Batch.history Operation.answer batch operations).2.slots := by
  induction operations generalizing events batch with
  | nil => simpa [Batch.history] using hkept
  | cons operation rest ih =>
      simpa [Batch.history] using ih (h.step operation) (h.keepsPlain_step hkept operation)

end Phase

theorem exists_texts_of_waiting_not_mem {slots : List Slot} (h : .waiting ∉ slots) :
    ∃ texts : List String, slots.map Slot.text? = texts.map some := by
  induction slots with
  | nil => exact ⟨[], rfl⟩
  | cons slot slots ih =>
      rw [List.mem_cons, not_or] at h
      obtain ⟨text, htext⟩ := exists_text_of_ne_waiting (Ne.symm h.1)
      obtain ⟨texts, htexts⟩ := ih h.2
      exact ⟨text :: texts, by rw [List.map_cons, htext, htexts, List.map_cons]⟩

/-- Once a conversion has succeeded, the slots hold the texts that were returned and then those that
will be. -/
theorem Phase.exists_texts {settings : MarkupSettings} {events : List Event} {batch : Batch}
    (h : Phase settings events batch) (hsome : converted events = true) :
    ∃ texts : List String, batch.Returns texts ∧
      batch.slots.map Slot.text? = (returned events ++ texts).map some := by
  have hunread : .waiting ∉ batch.slots.drop batch.cursor :=
    fun hmem => h.waiting_not_mem hsome (List.mem_of_mem_drop hmem)
  obtain ⟨texts, htexts⟩ := exists_texts_of_waiting_not_mem hunread
  have hremaining : batch.Remaining texts := ⟨h.isConverted_eq.trans hsome, htexts⟩
  refine ⟨texts, hremaining.returns, ?_⟩
  rw [List.map_append, ← h.read.2, ← htexts, ← List.map_append, List.take_append_drop]

/-- Whether a comment is sent to the converter depends on no host: it is sent if it holds a sign of
markup itself.  Whatever operations were tried on a new batch, its next call holds the comments with
such signs, and whether the conversion succeeds depends on the answer to them only.  Once it has
succeeded, each of the others comes back in its place as it was submitted. -/
theorem comments_sent_by_own_signs (settings : MarkupSettings) (operations : List Operation) :
    let events := (history Operation.answer (new settings) operations).1
    let batch := (history Operation.answer (new settings) operations).2
    let marked := (submitted events).filter needsConversion
    let call : ConversionCall := ⟨"\n$#!".intercalate (marked.map (replaceLinks settings.host)),
      settings.sourceFormat, settings.targetFormat⟩
    (∀ host comment, needsConversion (replaceLinks host comment) = needsConversion comment) ∧
      (converted events = false → ∀ rule,
        ((batch.convertAll (Converter.logged rule)).run []).2 =
            (if marked = [] then [] else [call]) ∧
          (((Operation.convertAll rule).answer batch).1 = .ok .done ↔
            marked = [] ∨ ∃ output, rule call = .ok output ∧
              (piecesOf output).length = marked.length)) ∧
      (converted events = true → ∃ texts, batch.Returns texts ∧
        (returned events ++ texts).length = (submitted events).length ∧
        ∀ (i : Nat) (comment : String), (submitted events)[i]? = some comment →
          needsConversion comment = false → (returned events ++ texts)[i]? = some comment) := by
  intro events batch marked call
  have hphase : Phase settings events batch := (Phase.new settings).history operations
  refine ⟨needsConversion_replaceLinks, ?_, ?_⟩
  · intro hnone rule
    obtain ⟨hfilled, -⟩ := hphase.eq_filled hnone
    have hwaiting : waiting ((submitted events).map (replaceLinks settings.host)) =
        marked.map (replaceLinks settings.host) :=
      waiting_map_replaceLinks settings.host (submitted events)
    have hcall : callFor settings ((submitted events).map (replaceLinks settings.host)) = call := by
      rw [callFor, hwaiting, joined_eq_intercalate_feed]
    constructor
    · rw [hfilled, convertAll_filled_logged, hwaiting, hcall]
      simp
    · have hpending : batch.pending = marked.length := by
        rw [hfilled, filled, hwaiting, List.length_map]
      have hsame : batch.call = call := by rw [hfilled, ← hcall]; rfl
      rw [hphase.answer_convertAll_ok_iff hnone rule, hpending, hsame, List.length_eq_zero_iff]
  · intro hsome
    obtain ⟨texts, hreturns, htexts⟩ := hphase.exists_texts hsome
    have hkept : KeepsPlain (submitted events) batch.slots :=
      (Phase.new settings).keepsPlain_history (fun _ _ hi => by simp [submitted] at hi) operations
    refine ⟨texts, hreturns, ?_, ?_⟩
    · rw [← hphase.length_slots, ← List.length_map (f := Slot.text?), htexts, List.length_map]
    · intro i comment hi hplain
      have htext : ((returned events ++ texts).map some)[i]? = some (some comment) := by
        rw [← htexts, List.getElem?_map, hkept i comment hi hplain]
        rfl
      simpa only [List.getElem?_map, Option.map_eq_some_iff, Option.some.injEq,
        exists_eq_right] using htext

/-! ## The count of comments that are sent -/

theorem countP_isSent_fill (slots : List Slot) (pieces : List String) :
    (fill slots pieces).countP Slot.isSent = slots.countP Slot.isSent := by
  induction slots generalizing pieces with
  | nil => rfl
  | cons slot slots ih =>
      cases slot with
      | ready _ => simp [fill, Slot.isSent, ih]
      | converted _ => simp [fill, List.countP_cons, Slot.isSent, ih]
      | waiting => cases pieces <;> simp [fill, List.countP_cons, Slot.isSent, ih]

theorem countP_isSent_modify_emptied (slots : List Slot) (i : Nat) :
    (slots.modify i Slot.emptied).countP Slot.isSent = slots.countP Slot.isSent := by
  induction slots generalizing i with
  | nil => simp
  | cons slot slots ih =>
      cases i with
      | zero => simp [List.countP_cons, Slot.isSent_emptied]
      | succ i => simp [List.countP_cons, ih]

theorem countP_isWaiting_eq_zero {slots : List Slot} (h : .waiting ∉ slots) :
    slots.countP Slot.isWaiting = 0 := by
  rw [List.countP_eq_zero]
  intro slot hslot hwaiting
  cases slot with
  | waiting => exact h hslot
  | ready _ => cases hwaiting
  | converted _ => cases hwaiting

/-- From one batch to another so many comments more were sent, by the count and by the slots. -/
structure SendsMore (before : Batch) (more : Nat) (after : Batch) : Prop where
  pending : after.pending = before.pending + more
  slots : after.slots.countP Slot.isSent = before.slots.countP Slot.isSent + more

namespace SendsMore

theorem refl (batch : Batch) : SendsMore batch 0 batch := ⟨rfl, rfl⟩

theorem trans {a b c : Batch} {m n : Nat} (hab : SendsMore a m b) (hbc : SendsMore b n c) :
    SendsMore a (m + n) c where
  pending := by rw [hbc.pending, hab.pending, Nat.add_assoc]
  slots := by rw [hbc.slots, hab.slots, Nat.add_assoc]

theorem of_submit {batch after : Batch} {comment : String} (h : batch.submit comment = .ok after) :
    SendsMore batch ([comment].countP needsConversion) after := by
  rw [submit] at h
  split at h
  · simp at h
  · dsimp only at h
    rw [needsConversion_replaceLinks] at h
    split at h
    · rename_i hneeds
      obtain rfl := Except.ok.inj h
      constructor <;> simp [Slot.isSent, hneeds]
    · rename_i hplain
      obtain rfl := Except.ok.inj h
      constructor <;> simp [Slot.isSent, hplain]

/-- A conversion changes what the slots hold, and neither their number nor the count. -/
theorem of_convertAll {batch after : Batch} {rule : ConversionCall → ConversionAnswer}
    (h : (batch.convertAll (Converter.ofRule rule)).run = .ok after) : SendsMore batch 0 after := by
  rw [convertAll] at h
  split at h
  · simp at h
  · split at h
    · obtain rfl := Except.ok.inj h
      exact ⟨rfl, rfl⟩
    · cases hanswer : rule batch.call with
      | error cause => simp [Converter.ofRule, hanswer] at h
      | ok output =>
          have haccept : batch.accept output = .ok after := by
            simpa [Converter.ofRule, hanswer] using h
          rw [accept] at haccept
          split at haccept
          · obtain rfl := Except.ok.inj haccept
            exact ⟨rfl, countP_isSent_fill batch.slots (piecesOf output)⟩
          · simp at haccept

theorem of_next (batch : Batch) : SendsMore batch 0 (Operation.next.perform batch).2 := by
  rw [Operation.snd_perform_next]
  rcases InPlace.snd_perform_next batch with hnext | hnext | hnext
  · rw [hnext]
    exact refl batch
  · rw [hnext]
    exact ⟨rfl, rfl⟩
  · rw [hnext]
    exact ⟨rfl, countP_isSent_modify_emptied batch.slots batch.cursor⟩

end SendsMore

/-- The comments with signs of markup among some that were submitted. -/
def signed (events : List Event) : Nat := (submitted events).countP needsConversion

theorem signed_cons (event : Event) (events : List Event) :
    signed (event :: events) = signed [event] + signed events := by
  rw [signed, signed, signed, ← List.countP_append, submitted, submitted, submitted,
    ← List.filterMap_append, List.singleton_append]

/-- An operation sends the comment that it brings, if that holds a sign of markup, and no other. -/
theorem sendsMore_perform (operation : Operation) (batch : Batch) :
    SendsMore batch (signed [⟨operation, (operation.perform batch).1⟩])
      (operation.perform batch).2 := by
  cases operation with
  | submit comment =>
      rw [perform_submit, Operation.answer]
      cases hsubmit : batch.submit comment with
      | error cause => exact .refl batch
      | ok after => exact .of_submit hsubmit
  | convertAll rule =>
      rw [perform_convertAll, Operation.answer]
      cases hconvert : (batch.convertAll (Converter.ofRule rule)).run with
      | error cause => exact .refl batch
      | ok after => exact .of_convertAll hconvert
  | next => exact .of_next batch

theorem sendsMore_history (batch : Batch) (operations : List Operation) :
    SendsMore batch (signed (history Operation.perform batch operations).1)
      (history Operation.perform batch operations).2 := by
  induction operations generalizing batch with
  | nil => exact .refl batch
  | cons operation rest ih =>
      rw [history, signed_cons]
      exact (sendsMore_perform operation batch).trans (ih _)

/-- Before a conversion succeeds, the comments that were sent are those that wait. -/
theorem countP_isWaiting_history (settings : MarkupSettings) (operations : List Operation) :
    (history Operation.perform (new settings) operations).2.slots.countP Slot.isWaiting =
      if converted (history Operation.perform (new settings) operations).1 then 0
      else (history Operation.perform (new settings) operations).2.pending := by
  have hphase := (Phase.new settings).history operations
  rw [List.nil_append] at hphase
  rw [history_perform_new, Prod.map_fst, id_eq, Prod.map_snd]
  split
  · rename_i hsome
    apply countP_isWaiting_eq_zero
    exact fun hmem => hphase.waiting_not_mem hsome (waiting_mem_of_mem_slots_emptied _ hmem)
  · rename_i hnone
    obtain ⟨hfilled, -⟩ := hphase.eq_filled (Bool.eq_false_iff.2 hnone)
    rw [hfilled, emptied_of_cursor_eq_zero rfl]
    exact countP_isWaiting_slotOf _

/-- Whatever operations were tried on a new batch, its count is the number of submitted comments
with signs of markup: of those that wait together with those that were converted.  A conversion
leaves the count as it is, so it is the number of those that wait until a conversion has succeeded,
and from then on only if there was nothing to convert. -/
theorem count_holds_comments_converted (settings : MarkupSettings)
    (operations : List Operation) :
    let events := (history Operation.perform (new settings) operations).1
    let batch := (history Operation.perform (new settings) operations).2
    batch.pending = ((submitted events).filter needsConversion).length ∧
      batch.pending = batch.slots.countP Slot.isSent ∧
      batch.slots.countP Slot.isWaiting = (if converted events then 0 else batch.pending) ∧
      (batch.pending = batch.slots.countP Slot.isWaiting ↔
        converted events = false ∨ batch.pending = 0) ∧
      ∀ rule, ((Operation.convertAll rule).perform batch).2.pending = batch.pending := by
  intro events batch
  have hsent : SendsMore (new settings) (signed events) batch :=
    sendsMore_history (new settings) operations
  have hpending : batch.pending = signed events := hsent.pending.trans (Nat.zero_add _)
  have hslots : batch.slots.countP Slot.isSent = signed events :=
    hsent.slots.trans (Nat.zero_add _)
  have hwaiting : batch.slots.countP Slot.isWaiting =
      if converted events then 0 else batch.pending :=
    countP_isWaiting_history settings operations
  refine ⟨?_, hpending.trans hslots.symm, hwaiting, ?_, fun rule => ?_⟩
  · rw [hpending, signed, List.countP_eq_length_filter]
  · rw [hwaiting]
    cases converted events <;> simp
  · rw [(sendsMore_perform (.convertAll rule) batch).pending]
    cases ((Operation.convertAll rule).perform batch).1 <;> rfl

/-- After the one comment of a batch was converted, none waits and the count is still one. -/
theorem count_stays_after_conversion :
    let convert : ConversionCall → ConversionAnswer := fun call => .ok call.text
    let run := history Operation.perform (new ⟨"https://x.org", "commonmark", "rst"⟩)
      [.submit "*a*", .convertAll convert]
    run.1.map Event.succeeded = [true, true] ∧ converted run.1 = true ∧
      run.2.slots.countP Slot.isWaiting = 0 ∧ run.2.pending = 1 ∧
      run.2.pending ≠ run.2.slots.countP Slot.isWaiting := by
  decide +kernel

end Batch

end SchemaDocs
