import SchemaDocs.Config.Basic
import SchemaDocs.Proofs.Markup.Filling
import SchemaDocs.Proofs.Markup.Reading
/-!
# Converting a batch

A batch with waiting comments is converted by one call, and one without them by none.
The pieces of the output go to the slots that wait, in order, and to no others.
-/

namespace SchemaDocs

/-- A converter that answers by a rule and keeps a list of the calls made to it. -/
def Converter.logged (rule : ConversionCall → ConversionAnswer) :
    Converter (StateM (List ConversionCall)) := fun call => do
  modify (· ++ [call])
  return rule call

namespace Batch

open SchemaDocs.Markup

/-! ## The texts that come back -/

/-- What comments come back as: those that wait for conversion as the next pieces, with spaces
inserted, and the others as they are. -/
def restored : List String → List String → List String
  | [], _ => []
  | comment :: rest, pieces =>
    if needsConversion comment then insertSpaces (pieces.headD "") :: restored rest pieces.tail
    else comment :: restored rest pieces

@[simp] theorem length_restored (comments pieces : List String) :
    (restored comments pieces).length = comments.length := by
  induction comments generalizing pieces with
  | nil => rfl
  | cons comment comments ih =>
      rw [restored]
      split <;> simp [ih]

theorem waiting_cons_of_needs {comment : String} (h : needsConversion comment = true)
    (comments : List String) : waiting (comment :: comments) = comment :: waiting comments :=
  List.filter_cons_of_pos h

theorem waiting_cons_of_not_needs {comment : String} (h : ¬ needsConversion comment = true)
    (comments : List String) : waiting (comment :: comments) = waiting comments :=
  List.filter_cons_of_neg h

/-- The pieces fill the slots that wait, when there is one for each. -/
theorem fill_map_slotOf {comments pieces : List String}
    (h : pieces.length = (waiting comments).length) :
    (fill (comments.map slotOf) pieces).map Slot.text? = (restored comments pieces).map some := by
  induction comments generalizing pieces with
  | nil => simp [fill, restored]
  | cons comment comments ih =>
      by_cases hneeds : needsConversion comment
      · rw [waiting_cons_of_needs hneeds, List.length_cons] at h
        cases pieces with
        | nil => simp at h
        | cons piece pieces =>
            rw [List.length_cons, Nat.add_right_cancel_iff] at h
            simp [slotOf, hneeds, fill, restored, Slot.text?, ih h]
      · rw [waiting_cons_of_not_needs hneeds] at h
        simp [slotOf, hneeds, fill, restored, Slot.text?, ih h]

/-- The text of a comment is its own, or the piece whose number is that of the waiting comments
before it. -/
theorem getElem?_restored {comments pieces : List String}
    (h : pieces.length = (waiting comments).length) {i : Nat} {comment : String}
    (hi : comments[i]? = some comment) :
    (restored comments pieces)[i]? =
      if needsConversion comment then
        pieces[(comments.take i).countP needsConversion]?.map insertSpaces
      else some comment := by
  induction comments generalizing pieces i with
  | nil => simp at hi
  | cons first comments ih =>
      by_cases hneeds : needsConversion first
      · rw [waiting_cons_of_needs hneeds, List.length_cons] at h
        cases pieces with
        | nil => simp at h
        | cons piece pieces =>
            rw [List.length_cons, Nat.add_right_cancel_iff] at h
            cases i with
            | zero =>
                rw [List.getElem?_cons_zero, Option.some_inj] at hi
                subst hi
                simp [restored, hneeds]
            | succ i =>
                rw [List.getElem?_cons_succ] at hi
                simp [restored, hneeds, ih h hi, List.countP_cons_of_pos]
      · rw [waiting_cons_of_not_needs hneeds] at h
        cases i with
        | zero =>
            rw [List.getElem?_cons_zero, Option.some_inj] at hi
            subst hi
            simp [restored, hneeds]
        | succ i =>
            rw [List.getElem?_cons_succ] at hi
            simp [restored, hneeds, ih h hi, List.countP_cons_of_neg]

/-- The number of a waiting comment among those that wait is that of the waiting ones before it. -/
theorem getElem?_waiting {comments : List String} {i : Nat} {comment : String}
    (hi : comments[i]? = some comment) (hneeds : needsConversion comment = true) :
    (waiting comments)[(comments.take i).countP needsConversion]? = some comment := by
  induction comments generalizing i with
  | nil => simp at hi
  | cons first comments ih =>
      cases i with
      | zero =>
          rw [List.getElem?_cons_zero, Option.some_inj] at hi
          subst hi
          simp [waiting_cons_of_needs hneeds]
      | succ i =>
          rw [List.getElem?_cons_succ] at hi
          by_cases hfirst : needsConversion first
          · simpa [waiting_cons_of_needs hfirst, hfirst] using ih hi
          · simpa [waiting_cons_of_not_needs hfirst, hfirst] using ih hi

/-! ## One call -/

/-- A batch of comments after its conversion into pieces. -/
def restoring (settings : MarkupSettings) (comments pieces : List String) : Batch :=
  ⟨settings, fill (comments.map slotOf) pieces, "", (waiting comments).length, true, 0⟩

theorem remaining_restoring {settings : MarkupSettings} {comments pieces : List String}
    (h : pieces.length = (waiting comments).length) :
    (restoring settings comments pieces).Remaining (restored comments pieces) :=
  ⟨rfl, fill_map_slotOf h⟩

theorem accept_filled (settings : MarkupSettings) (comments : List String) (output : String) :
    (filled settings comments).accept output =
      if (piecesOf output).length = (waiting comments).length then
        .ok (restoring settings comments (piecesOf output))
      else
        .error (.pieceCountMismatch (waiting comments).length (piecesOf output).length) := rfl

/-- The call for some comments whose links are replaced. -/
def callFor (settings : MarkupSettings) (comments : List String) : ConversionCall :=
  ⟨joined (waiting comments), settings.sourceFormat, settings.targetFormat⟩

/-- A batch that converts nothing. -/
def untouched (settings : MarkupSettings) (comments : List String) : Batch :=
  { filled settings comments with isConverted := true }

theorem fill_nil (slots : List Slot) : fill slots [] = slots := by
  induction slots with
  | nil => rfl
  | cons slot slots ih => cases slot <;> simp [fill, ih]

theorem remaining_untouched {settings : MarkupSettings} {comments : List String}
    (h : waiting comments = []) :
    (untouched settings comments).Remaining (restored comments []) := by
  refine ⟨rfl, ?_⟩
  have hlength : ([] : List String).length = (waiting comments).length := by rw [h]
  have hfill := fill_map_slotOf hlength
  rw [fill_nil] at hfill
  exact hfill

/-- What a batch of comments becomes by the answer to its call. -/
def answered (settings : MarkupSettings) (comments : List String) :
    ConversionAnswer → Except BatchError Batch
  | .error cause => .error (.convert cause)
  | .ok output => (filled settings comments).accept output

/-- The converter is called once, with the text of the waiting comments, or not at all. -/
theorem convertAll_filled {m : Type → Type} [Monad m] (convert : Converter m)
    (settings : MarkupSettings) (comments : List String) :
    (filled settings comments).convertAll convert =
      if waiting comments = [] then pure (.ok (untouched settings comments))
      else convert (callFor settings comments) >>= fun answer =>
        pure (answered settings comments answer) := by
  by_cases h : waiting comments = []
  · simp [convertAll, filled, untouched, h]
  · have hpending : (filled settings comments).pending ≠ 0 := by
      simpa [filled] using h
    rw [convertAll, if_neg (by simp [filled]), if_neg hpending, if_neg h]
    apply bind_congr
    intro answer
    cases answer <;> rfl

/-- What the conversion of some comments comes to when the converter follows a rule. -/
def outcome (rule : ConversionCall → ConversionAnswer) (settings : MarkupSettings)
    (comments : List String) : Except BatchError Batch :=
  if waiting comments = [] then .ok (untouched settings comments)
  else answered settings comments (rule (callFor settings comments))

theorem convertAll_filled_pure {m : Type → Type} [Monad m] [LawfulMonad m]
    (rule : ConversionCall → ConversionAnswer) (settings : MarkupSettings)
    (comments : List String) :
    (filled settings comments).convertAll (fun call => (pure (rule call) : m ConversionAnswer)) =
      pure (outcome rule settings comments) := by
  rw [convertAll_filled, outcome]
  split
  · rfl
  · rw [pure_bind]

theorem convertAll_filled_id (convert : Converter Id) (settings : MarkupSettings)
    (comments : List String) :
    ((filled settings comments).convertAll convert).run =
      outcome (fun call => (convert call).run) settings comments := by
  rw [convertAll_filled, outcome]
  split <;> rfl

theorem convertAll_filled_logged (rule : ConversionCall → ConversionAnswer)
    (settings : MarkupSettings) (comments : List String) :
    ((filled settings comments).convertAll (Converter.logged rule)).run [] =
      (outcome rule settings comments,
        if waiting comments = [] then [] else [callFor settings comments]) := by
  rw [convertAll_filled, outcome]
  split <;> rfl

/-! ## Outcomes -/

section

variable (rule : ConversionCall → ConversionAnswer) (settings : MarkupSettings)
  (comments : List String)

/-- The four ways in which a conversion can end. -/
theorem outcome_cases :
    (waiting comments = [] ∧
      outcome rule settings comments = .ok (untouched settings comments)) ∨
    (waiting comments ≠ [] ∧ ∃ cause, rule (callFor settings comments) = .error cause ∧
      outcome rule settings comments = .error (.convert cause)) ∨
    (waiting comments ≠ [] ∧ ∃ output, rule (callFor settings comments) = .ok output ∧
      (piecesOf output).length = (waiting comments).length ∧
      outcome rule settings comments = .ok (restoring settings comments (piecesOf output))) ∨
    (waiting comments ≠ [] ∧ ∃ output, rule (callFor settings comments) = .ok output ∧
      (piecesOf output).length ≠ (waiting comments).length ∧
      outcome rule settings comments =
        .error (.pieceCountMismatch (waiting comments).length (piecesOf output).length)) := by
  by_cases hnone : waiting comments = []
  · left
    exact ⟨hnone, by rw [outcome, if_pos hnone]⟩
  · right
    have houtcome : outcome rule settings comments =
        answered settings comments (rule (callFor settings comments)) := by
      rw [outcome, if_neg hnone]
    cases hanswer : rule (callFor settings comments) with
    | error cause =>
        left
        exact ⟨hnone, cause, rfl, by rw [houtcome, hanswer, answered]⟩
    | ok output =>
        right
        rw [hanswer, answered, accept_filled] at houtcome
        by_cases hlength : (piecesOf output).length = (waiting comments).length
        · left
          exact ⟨hnone, output, rfl, hlength, by rw [houtcome, if_pos hlength]⟩
        · right
          exact ⟨hnone, output, rfl, hlength, by rw [houtcome, if_neg hlength]⟩

theorem outcome_ok_iff {converted : Batch} :
    outcome rule settings comments = .ok converted ↔
      (waiting comments = [] ∧ converted = untouched settings comments) ∨
      (waiting comments ≠ [] ∧ ∃ output, rule (callFor settings comments) = .ok output ∧
        (piecesOf output).length = (waiting comments).length ∧
        converted = restoring settings comments (piecesOf output)) := by
  rcases outcome_cases rule settings comments with
    ⟨hnone, h⟩ | ⟨hsome, cause, hrule, h⟩ | ⟨hsome, output, hrule, hlength, h⟩ |
      ⟨hsome, output, hrule, hlength, h⟩
  · simp [h, hnone, eq_comm]
  · simp [h, hsome, hrule]
  · simp [h, hsome, hrule, hlength, eq_comm]
  · simp [h, hsome, hrule, hlength]

theorem outcome_mismatch_iff {expected actual : Nat} :
    outcome rule settings comments = .error (.pieceCountMismatch expected actual) ↔
      waiting comments ≠ [] ∧ ∃ output, rule (callFor settings comments) = .ok output ∧
        (piecesOf output).length ≠ (waiting comments).length ∧
        expected = (waiting comments).length ∧ actual = (piecesOf output).length := by
  rcases outcome_cases rule settings comments with
    ⟨hnone, h⟩ | ⟨hsome, cause, hrule, h⟩ | ⟨hsome, output, hrule, hlength, h⟩ |
      ⟨hsome, output, hrule, hlength, h⟩
  · simp [h, hnone]
  · simp [h, hrule]
  · simp [h, hrule, hlength]
  · simp [h, hsome, hrule, hlength, eq_comm]

theorem outcome_convert_iff {cause : ConvertError} :
    outcome rule settings comments = .error (.convert cause) ↔
      waiting comments ≠ [] ∧ rule (callFor settings comments) = .error cause := by
  rcases outcome_cases rule settings comments with
    ⟨hnone, h⟩ | ⟨hsome, cause, hrule, h⟩ | ⟨hsome, output, hrule, hlength, h⟩ |
      ⟨hsome, output, hrule, hlength, h⟩
  · simp [h, hnone]
  · simp [h, hsome, hrule]
  · simp [h, hrule]
  · simp [h, hrule]

/-- A conversion fails by its converter or by the number of pieces, and in no other way. -/
theorem outcome_error {failure : BatchError}
    (hfailure : outcome rule settings comments = .error failure) :
    (∃ cause, failure = .convert cause) ∨
      ∃ expected actual, failure = .pieceCountMismatch expected actual := by
  rcases outcome_cases rule settings comments with
    ⟨-, h⟩ | ⟨-, cause, -, h⟩ | ⟨-, output, -, -, h⟩ | ⟨-, output, -, -, h⟩
  · simp [h] at hfailure
  · rw [h, Except.error.injEq] at hfailure
    exact .inl ⟨cause, hfailure.symm⟩
  · simp [h] at hfailure
  · rw [h, Except.error.injEq] at hfailure
    exact .inr ⟨_, _, hfailure.symm⟩

/-- A converted batch holds the texts that its comments come back as. -/
theorem exists_remaining_of_outcome_ok {converted : Batch}
    (hconverted : outcome rule settings comments = .ok converted) :
    ∃ pieces, pieces.length = (waiting comments).length ∧
      (waiting comments ≠ [] →
        ∃ output, rule (callFor settings comments) = .ok output ∧ pieces = piecesOf output) ∧
      converted.Remaining (restored comments pieces) := by
  rcases (outcome_ok_iff rule settings comments).1 hconverted with
    ⟨hnone, rfl⟩ | ⟨hsome, output, hrule, hlength, rfl⟩
  · refine ⟨[], by rw [hnone], fun h => absurd hnone h, remaining_untouched hnone⟩
  · exact ⟨piecesOf output, hlength, fun _ => ⟨output, hrule, rfl⟩, remaining_restoring hlength⟩

end

/-- A comment that does not wait comes back as it is, and one that waits as the piece whose number is
that of the waiting comments before it. -/
theorem text_of_comment {rule : ConversionCall → ConversionAnswer} {settings : MarkupSettings}
    {comments pieces : List String} (hlength : pieces.length = (waiting comments).length)
    (hpieces : waiting comments ≠ [] →
      ∃ output, rule (callFor settings comments) = .ok output ∧ pieces = piecesOf output)
    {i : Nat} {comment : String} (hi : comments[i]? = some comment) :
    (needsConversion comment = false → (restored comments pieces)[i]? = some comment) ∧
      (needsConversion comment = true → ∃ output piece,
        rule (callFor settings comments) = .ok output ∧
        (piecesOf output)[(comments.take i).countP needsConversion]? = some piece ∧
        (restored comments pieces)[i]? = some (insertSpaces piece)) := by
  have htext := getElem?_restored hlength hi
  constructor
  · intro hkept
    simpa [hkept] using htext
  · intro hneeds
    obtain ⟨hrank, -⟩ := List.getElem?_eq_some_iff.1 (getElem?_waiting hi hneeds)
    have hsome : waiting comments ≠ [] := List.length_pos_iff.1 (by omega)
    obtain ⟨output, houtput, rfl⟩ := hpieces hsome
    rw [← hlength] at hrank
    rw [if_pos hneeds, List.getElem?_eq_getElem hrank] at htext
    exact ⟨output, _, houtput, List.getElem?_eq_getElem hrank, htext⟩

/-- Comments are submitted to a new batch, converted with at most one call, and read back in
order.  The number of a piece is that of the waiting comments before its comment, so that comments
which are kept as they are take no part in the conversion and yet keep their place. -/
theorem comments_return_in_order_after_one_call (config : Config) (comments : List String)
    (rule : ConversionCall → ConversionAnswer) :
    let rewritten := comments.map (replaceLinks config.docsHost)
    let pending := rewritten.filter needsConversion
    let call : ConversionCall := ⟨joined pending, config.sourceFormat, config.targetFormat⟩
    ∃ batch outcome, (new config.markup).submitAll comments = .ok batch ∧
      (batch.convertAll (Converter.logged rule)).run [] =
        (outcome, if pending = [] then [] else [call]) ∧
      (∀ converted, outcome = .ok converted →
        ∃ texts, converted.Returns texts ∧ texts.length = comments.length ∧
          ∀ i comment, rewritten[i]? = some comment →
            (needsConversion comment = false → texts[i]? = some comment) ∧
            (needsConversion comment = true → ∃ output piece, rule call = .ok output ∧
              (piecesOf output)[(rewritten.take i).countP needsConversion]? = some piece ∧
              texts[i]? = some (insertSpaces piece))) ∧
      (∀ expected actual, outcome = .error (.pieceCountMismatch expected actual) ↔
        pending ≠ [] ∧ ∃ output, rule call = .ok output ∧
          (piecesOf output).length ≠ pending.length ∧
          expected = pending.length ∧ actual = (piecesOf output).length) ∧
      (∀ cause, outcome = .error (.convert cause) ↔ pending ≠ [] ∧ rule call = .error cause) ∧
      ((∃ converted, outcome = .ok converted) ↔
        pending = [] ∨ ∃ output, rule call = .ok output ∧
          (piecesOf output).length = pending.length) := by
  intro rewritten pending call
  refine ⟨filled config.markup rewritten, outcome rule config.markup rewritten,
    submitAll_new config.markup comments, convertAll_filled_logged rule config.markup rewritten,
    ?_, ?_, ?_, ?_⟩
  · intro converted hconverted
    obtain ⟨pieces, hlength, hpieces, hremaining⟩ :=
      exists_remaining_of_outcome_ok rule config.markup rewritten hconverted
    exact ⟨restored rewritten pieces, hremaining.returns, by simp [rewritten],
      fun i comment hi => text_of_comment hlength hpieces hi⟩
  · exact fun expected actual => outcome_mismatch_iff rule config.markup rewritten
  · exact fun cause => outcome_convert_iff rule config.markup rewritten
  · constructor
    · rintro ⟨converted, hconverted⟩
      rcases (outcome_ok_iff rule config.markup rewritten).1 hconverted with
        ⟨hnone, -⟩ | ⟨-, output, hrule, hlength, -⟩
      · exact .inl hnone
      · exact .inr ⟨output, hrule, hlength⟩
    · intro h
      by_cases hnone : pending = []
      · exact ⟨_, (outcome_ok_iff rule config.markup rewritten).2 (.inl ⟨hnone, rfl⟩)⟩
      · obtain ⟨output, hrule, hlength⟩ := h.resolve_left hnone
        exact ⟨_, (outcome_ok_iff rule config.markup rewritten).2
          (.inr ⟨hnone, output, hrule, hlength, rfl⟩)⟩

end Batch

end SchemaDocs
