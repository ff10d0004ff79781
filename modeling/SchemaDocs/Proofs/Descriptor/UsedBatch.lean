import SchemaDocs.Proofs.Descriptor.WriteBack
import SchemaDocs.Proofs.Markup.History
/-!
# Converting a set in a used batch

A set may be converted in a batch that was used before.  A batch with which a conversion has
succeeded takes no more comments.  Any other holds all comments given to it, those of sets whose
conversion failed among them, and the texts are read from the first one on.
-/

namespace SchemaDocs

open SchemaDocs.Markup

namespace Batch

/-- What can be done with a batch: an operation on it, or the conversion of a set in it. -/
inductive Use where
  | operation (operation : Operation)
  | conversion (set : DescriptorSet) (rule : ConversionCall → ConversionAnswer)

namespace Use

/-- The batch that a use leaves behind, without the texts that were read. -/
def perform : Use → Batch → Batch
  | .operation step, batch => (step.perform batch).2
  | .conversion set rule, batch =>
    (set.convertComments (Converter.ofRule rule) batch).run.batch.emptied

/-- The comments that a use gives to a batch. -/
def comments : Use → List String
  | .operation (.submit comment) => [comment]
  | .operation (.convertAll _) => []
  | .operation .next => []
  | .conversion set _ => set.comments

end Use

/-- A new batch after some uses. -/
def used (settings : MarkupSettings) (uses : List Use) : Batch :=
  uses.foldl (fun batch use => use.perform batch) (new settings)

end Batch

namespace DescriptorSet

variable {m : Type → Type} [Monad m] [LawfulMonad m]

/-- What the conversion of a set comes to in a batch that holds some comments already, whose links
are replaced. -/
def conversionAfter (rule : ConversionCall → ConversionAnswer) (settings : MarkupSettings)
    (earlier : List String) (set : DescriptorSet) : SetConversion :=
  let comments := earlier ++ set.comments.map (replaceLinks settings.host)
  match Batch.outcome rule settings comments with
  | .error cause => ⟨.error cause, set, Batch.filled settings comments⟩
  | .ok converted =>
    let written := set.writeComments converted
    ⟨written.result, written.value, written.batch⟩

theorem convertComments_filled (rule : ConversionCall → ConversionAnswer)
    (settings : MarkupSettings) (earlier : List String) (set : DescriptorSet) :
    set.convertComments (fun call => (pure (rule call) : m ConversionAnswer))
        (Batch.filled settings earlier) = pure (set.conversionAfter rule settings earlier) := by
  rw [convertComments, Batch.submitAll_filled, conversionAfter]
  dsimp only
  rw [Batch.convertAll_filled_pure, pure_bind]
  cases Batch.outcome rule settings _ <;> rfl

theorem run_convertComments_filled (rule : ConversionCall → ConversionAnswer)
    (settings : MarkupSettings) (earlier : List String) (set : DescriptorSet) :
    (set.convertComments (Converter.ofRule rule) (Batch.filled settings earlier)).run =
      set.conversionAfter rule settings earlier :=
  set.convertComments_filled (m := Id) rule settings earlier

theorem convertComments_of_isConverted (convert : Converter m) (set : DescriptorSet)
    {batch : Batch} (h : batch.isConverted = true) :
    set.convertComments convert batch = pure ⟨.error .alreadyConverted, set, batch⟩ := by
  rw [convertComments]
  cases set.comments with
  | nil =>
      rw [Batch.submitAll]
      dsimp only
      rw [Batch.convertAll, if_pos h, pure_bind]
  | cons comment comments => rw [Batch.submitAll, Batch.submit, if_pos h]

section

variable (rule : ConversionCall → ConversionAnswer) (settings : MarkupSettings)
  (earlier : List String) (set : DescriptorSet)

/-- A conversion fails as that of its batch does, and then nothing was written.  Else the first
texts of the batch were written to the comments. -/
theorem conversionAfter_cases :
    let comments := earlier ++ set.comments.map (replaceLinks settings.host)
    let conversion := set.conversionAfter rule settings earlier
    (∃ cause, conversion = ⟨.error cause, set, Batch.filled settings comments⟩) ∨
    ∃ pieces, pieces.length = (Batch.waiting comments).length ∧
      (Batch.waiting comments ≠ [] → ∃ output,
        rule (Batch.callFor settings comments) = .ok output ∧ pieces = Batch.piecesOf output) ∧
      conversion.result = .ok set.comments.length ∧
      conversion.set.comments = (Batch.restored comments pieces).take set.comments.length ∧
      conversion.set.blanked = set.blanked ∧
      conversion.batch.Remaining ((Batch.restored comments pieces).drop set.comments.length) := by
  intro comments conversion
  cases houtcome : Batch.outcome rule settings comments with
  | error cause =>
      left
      refine ⟨cause, ?_⟩
      simp only [conversion, conversionAfter]
      rw [houtcome]
  | ok converted =>
      right
      obtain ⟨pieces, hlength, hpieces, hremaining⟩ :=
        Batch.exists_remaining_of_outcome_ok rule settings comments houtcome
      let texts := Batch.restored comments pieces
      have hwritten : conversion = ⟨(set.writeComments converted).result,
          (set.writeComments converted).value, (set.writeComments converted).batch⟩ := by
        simp only [conversion, conversionAfter]
        rw [houtcome]
      have hown : (texts.take set.comments.length).length = set.comments.length := by
        simp [texts, comments]
      have hsplit : texts.take set.comments.length ++ texts.drop set.comments.length = texts :=
        List.take_append_drop _ _
      have hdone := set.complete_writeComments converted (texts.take set.comments.length)
        (texts.drop set.comments.length) (hsplit.symm ▸ hremaining) hown
      rw [hwritten]
      exact ⟨pieces, hlength, hpieces, hdone.result.trans (by rw [hown]), hdone.comments,
        hdone.blank, hdone.remaining⟩

end

end DescriptorSet

namespace Batch

/-- What is known of a batch that was given some comments. -/
inductive Standing (settings : MarkupSettings) (comments : List String) : Batch → Prop
  /-- No conversion has succeeded, and the batch holds the comments. -/
  | filling :
      Standing settings comments (filled settings (comments.map (replaceLinks settings.host)))
  /-- A conversion has succeeded. -/
  | reading {batch : Batch} (h : batch.isConverted = true) : Standing settings comments batch

theorem isConverted_perform {batch : Batch} (h : batch.isConverted = true) (operation : Operation) :
    (operation.perform batch).2.isConverted = true := by
  cases operation with
  | submit comment =>
      rw [perform_submit]
      exact (answer_of_isConverted h _).1
  | convertAll rule =>
      rw [perform_convertAll]
      exact (answer_of_isConverted h _).1
  | next =>
      rw [Operation.snd_perform_next]
      rcases InPlace.snd_perform_next batch with hnext | hnext | hnext
      · rwa [hnext]
      · rwa [hnext]
      · rwa [hnext]

namespace Standing

variable {settings : MarkupSettings} {comments : List String} {batch : Batch}

/-- Each use leads from one standing to the next. -/
theorem step (h : Standing settings comments batch) (use : Use) :
    Standing settings (comments ++ use.comments) (use.perform batch) := by
  cases h with
  | reading h =>
      refine .reading ?_
      cases use with
      | operation step => exact isConverted_perform h step
      | conversion set rule =>
          rw [Use.perform, set.convertComments_of_isConverted _ h]
          exact h
  | filling =>
      cases use with
      | operation step =>
          cases step with
          | submit comment =>
              rw [Use.perform, perform_submit, answer_submit_filled,
                ← List.map_singleton (f := replaceLinks settings.host), ← List.map_append]
              exact .filling
          | convertAll rule =>
              rw [Use.perform, perform_convertAll, answer_convertAll_filled, Use.comments,
                List.append_nil]
              cases houtcome : outcome rule settings _ with
              | error cause => exact .filling
              | ok converted =>
                  obtain ⟨_, -, -, hremaining⟩ :=
                    exists_remaining_of_outcome_ok rule settings _ houtcome
                  exact .reading hremaining.isConverted
          | next =>
              rw [Use.comments, List.append_nil]
              exact .filling
      | conversion set rule =>
          rw [Use.perform, set.run_convertComments_filled]
          rcases set.conversionAfter_cases rule settings
              (comments.map (replaceLinks settings.host)) with
            ⟨cause, hfailed⟩ | ⟨_, -, -, -, -, -, hremaining⟩
          · -- the comments of the set stay in the batch although its conversion failed
            rw [hfailed, ← List.map_append]
            rw [emptied_of_cursor_eq_zero rfl]
            exact .filling
          · exact .reading hremaining.isConverted

theorem eq_filled (h : Standing settings comments batch) (hopen : batch.isConverted = false) :
    batch = filled settings (comments.map (replaceLinks settings.host)) := by
  cases h with
  | filling => rfl
  | reading h => exact absurd (hopen.symm.trans h) Bool.false_ne_true

end Standing

/-- A new batch holds what was given to it, as long as no conversion has succeeded. -/
theorem standing_used (settings : MarkupSettings) (uses : List Use) :
    Standing settings (uses.flatMap Use.comments) (used settings uses) := by
  have hrun : ∀ (uses : List Use) {comments : List String} {batch : Batch},
      Standing settings comments batch →
        Standing settings (comments ++ uses.flatMap Use.comments)
          (uses.foldl (fun batch use => use.perform batch) batch) := by
    intro uses
    induction uses with
    | nil => simp
    | cons use uses ih =>
        intro comments batch h
        rw [List.flatMap_cons, ← List.append_assoc]
        exact ih (h.step use)
  have hnew : Standing settings [] (new settings) := .filling
  simpa [used] using hrun uses hnew

end Batch

/-- Whatever was done with a batch before, a set whose conversion fails is left as it was. -/
theorem DescriptorSet.set_of_failed_conversion {settings : MarkupSettings} {comments : List String}
    {batch : Batch} (h : batch.Standing settings comments) (set : DescriptorSet)
    (rule : ConversionCall → ConversionAnswer) {cause : BatchError}
    (hfailed : (set.convertComments (Converter.ofRule rule) batch).run.result = .error cause) :
    (set.convertComments (Converter.ofRule rule) batch).run.set = set := by
  cases h with
  | reading h =>
      rw [set.convertComments_of_isConverted _ h]
      rfl
  | filling =>
      rw [set.run_convertComments_filled] at hfailed ⊢
      rcases set.conversionAfter_cases rule settings
          (comments.map (replaceLinks settings.host)) with
        ⟨cause, herror⟩ | ⟨_, -, -, hresult, -⟩
      · rw [herror]
      · exact absurd (hresult.symm.trans hfailed) (by simp)

/-! ## Texts of other comments -/

/-- In a batch with which no conversion has succeeded, the comments of a set get the first texts of
the batch, in order.  Those are the texts of its own comments where nothing was given to the batch
before. -/
theorem used_batch_writes_first_texts (settings : MarkupSettings) (uses : List Batch.Use)
    (set : DescriptorSet) (rule : ConversionCall → ConversionAnswer)
    (hopen : (Batch.used settings uses).isConverted = false) :
    let earlier := (uses.flatMap Batch.Use.comments).map (replaceLinks settings.host)
    let comments := earlier ++ set.comments.map (replaceLinks settings.host)
    let call : ConversionCall := ⟨Batch.joined (comments.filter needsConversion),
      settings.sourceFormat, settings.targetFormat⟩
    let conversion := (set.convertComments (Converter.ofRule rule)
      (Batch.used settings uses)).run
    ∀ count, conversion.result = .ok count →
      count = set.comments.length ∧ conversion.set.blanked = set.blanked ∧
      ∃ texts : List String, texts.length = comments.length ∧
        (∀ (i : Nat) comment, comments[i]? = some comment →
          (needsConversion comment = false → texts[i]? = some comment) ∧
          (needsConversion comment = true → ∃ output piece, rule call = .ok output ∧
            (Batch.piecesOf output)[(comments.take i).countP needsConversion]? = some piece ∧
            texts[i]? = some (insertSpaces piece))) ∧
        conversion.set.comments = texts.take set.comments.length ∧
        (earlier = [] → conversion.set.comments = texts.drop earlier.length) := by
  intro earlier comments call conversion count hcount
  have hbatch : Batch.used settings uses = Batch.filled settings earlier :=
    (Batch.standing_used settings uses).eq_filled hopen
  have hconversion : conversion = set.conversionAfter rule settings earlier := by
    simp only [conversion, hbatch]
    exact set.run_convertComments_filled rule settings earlier
  rw [hconversion] at hcount ⊢
  rcases set.conversionAfter_cases rule settings earlier with
    ⟨cause, hfailed⟩ | ⟨pieces, hlength, hpieces, hresult, hcomments, hblanked, -⟩
  · rw [hfailed] at hcount
    simp at hcount
  · rw [hresult, Except.ok.injEq] at hcount
    refine ⟨hcount.symm, hblanked, Batch.restored comments pieces, by simp,
      fun i comment hi => Batch.text_of_comment hlength hpieces hi, hcomments, ?_⟩
    intro hnone
    have hall : set.comments.length = (Batch.restored comments pieces).length := by
      simp [comments, hnone]
    rw [hcomments, hall, List.take_length, hnone, List.length_nil, List.drop_zero]

/-- A batch that only failed before gives a set the texts of its own comments. -/
theorem own_texts_after_failed_read :
    let uses : List Batch.Use := [.operation .next]
    let set : DescriptorSet :=
      ⟨[{ sourceInfo := some ⟨[{ leading := some " A *b*.\n", detached := [" Plain.\n"] }]⟩ }]⟩
    let conversion := (set.convertComments (Converter.ofRule fun call => .ok call.text)
      (Batch.used ({} : Config).markup uses)).run
    conversion.result = .ok 2 ∧ conversion.set.blanked = set.blanked ∧
      conversion.set.comments[1]? = some " Plain.\n" := by
  intro uses set conversion
  have hresult : conversion.result = .ok 2 := eq_ok_of_toOption (by decide +kernel)
  obtain ⟨-, hblanked, texts, -, htexts, -, hown⟩ :=
    used_batch_writes_first_texts ({} : Config).markup uses set (fun call => .ok call.text)
      (by decide +kernel) 2 hresult
  have hplain := (htexts 1 " Plain.\n" (by decide +kernel)).1 (by decide)
  have hcomments : conversion.set.comments = texts := hown (by decide)
  exact ⟨hresult, hblanked, hcomments ▸ hplain⟩

/-- A comment that was given to a batch before takes the place of the first comment of a set. -/
theorem earlier_text_in_place_of_first_comment :
    let batch := Batch.used ({} : Config).markup [.operation (.submit "Earlier.")]
    let set : DescriptorSet :=
      ⟨[{ sourceInfo := some ⟨[{ path := [4, 0], leading := some " A.\n" }]⟩ }]⟩
    let conversion := (set.convertComments (Converter.ofRule fun call => .ok call.text) batch).run
    batch.isConverted = false ∧ conversion.result.toOption = some 1 ∧
      set.comments = [" A.\n"] ∧ needsConversion " A.\n" = false ∧
      conversion.set.comments = ["Earlier."] := by
  decide +kernel

end SchemaDocs
