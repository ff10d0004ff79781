import SchemaDocs.Proofs.Markup.Conversion
import Mathlib.Algebra.GroupWithZero.Nat
/-!
# Converting comments one at a time

For a converter that treats the texts on both sides of a separator apart, a batch gives
each comment what a call of its own would have given it, but for the line feed that
stands before a separator.
-/

namespace SchemaDocs.Batch

open SchemaDocs.Markup

/-- A conversion that treats what stands on the two sides of a separator apart, and makes no
separator where there was none. -/
structure Separable (convert : String → String) : Prop where
  separator : ∀ x y, convert (x ++ token ++ y) = convert x ++ token ++ convert y
  free : ∀ x, ¬ HoldsToken x → ¬ HoldsToken (convert x)

/-! ## Conversions of single characters -/

/-- A change of characters is separable if the separator's characters stand for themselves and
come from no others. -/
theorem separable_map {f : Char → Char} (hkept : ∀ c ∈ token.toList, f c = c)
    (hmade : ∀ c, f c ∈ token.toList → f c = c) : Separable (String.map f) where
  separator x y := by
    apply String.toList_inj.1
    have htoken : token.toList.map f = token.toList :=
      (List.map_congr_left hkept).trans (List.map_id _)
    simp only [String.toList_map, String.toList_append, List.map_append, htoken]
  free x hx hmap := by
    apply hx
    rw [HoldsToken, String.toList_map, List.infix_map_iff] at hmap
    obtain ⟨s, hs, htoken⟩ := hmap
    have hsame : s.map f = s := by
      refine (List.map_congr_left fun c hc => ?_).trans (List.map_id _)
      exact hmade c (by rw [htoken]; exact List.mem_map_of_mem hc)
    rw [HoldsToken, htoken, hsame]
    exact hs

theorem separable_id : Separable id := ⟨fun _ _ => rfl, fun _ h => h⟩

theorem toUpper_eq_self_of_mem_token {c : Char} (h : c.toUpper ∈ token.toList) :
    c.toUpper = c := by
  unfold Char.toUpper at h ⊢
  split
  · rename_i hlower
    -- a capital letter is none of the separator's characters
    have hfirst := UInt32.le_iff_toNat_le.1 hlower.1
    have hlast := UInt32.le_iff_toNat_le.1 hlower.2
    rw [dif_pos hlower, token_toList] at h
    simp only [List.mem_cons, List.not_mem_nil, or_false, Char.ext_iff] at h
    rcases h with h | h | h <;>
    · have hcode := congrArg UInt32.toNat h
      rw [UInt32.toNat_add] at hcode
      simp at hcode hfirst hlast
      omega
  · rfl

theorem separable_toUpper : Separable String.toUpper :=
  separable_map (by simp [token_toList]) fun _ => toUpper_eq_self_of_mem_token

/-! ## Separable conversions and pieces -/

theorem Separable.intercalate {convert : String → String} (hc : Separable convert)
    {parts : List String} (hne : parts ≠ []) :
    convert (token.intercalate parts) = token.intercalate (parts.map convert) := by
  induction parts with
  | nil => exact absurd rfl hne
  | cons part parts ih =>
      by_cases hlast : parts = []
      · subst parts
        simp
      · have hmap : parts.map convert ≠ [] := by simpa using hlast
        rw [String.intercalate_cons_of_ne_nil hlast, hc.separator, ih hlast, List.map_cons,
          String.intercalate_cons_of_ne_nil hmap]

/-- The pieces of a converted text are the pieces of the text, converted one at a time. -/
theorem Separable.piecesOf {convert : String → String} (hc : Separable convert) (text : String) :
    piecesOf (convert text) = (piecesOf text).map convert := by
  obtain ⟨hne, hjoin, hfree⟩ := piecesOf_eq_iff.1 (rfl : Batch.piecesOf text = _)
  apply piecesOf_eq_iff.2
  refine ⟨by simpa using hne, ?_, ?_⟩
  · rw [← hc.intercalate hne, hjoin]
  · intro part hpart
    obtain ⟨piece, hpiece, rfl⟩ := List.mem_map.1 hpart
    exact hc.free piece (hfree piece hpiece)

/-! ## The pieces of a batch -/

theorem map_tokenCount_parts (comments : List String) :
    (parts comments).map tokenCount = comments.map tokenCount := by
  match comments with
  | [] => rfl
  | [_] => rfl
  | comment :: next :: rest =>
      rw [parts, List.map_cons, map_tokenCount_parts (next :: rest), tokenCount_append_feed]
      rfl

/-- A batch falls into one piece for each comment and one more for each occurrence of the
separator in a comment. -/
theorem length_piecesOf_joined {comments : List String} (hne : comments ≠ []) :
    (piecesOf (joined comments)).length =
      comments.length + (comments.map tokenCount).sum := by
  rw [joined_eq_intercalate, piecesOf_intercalate (parts_ne_nil hne), List.length_flatMap]
  simp only [length_piecesOf]
  rw [← map_tokenCount_parts, ← length_parts comments]
  induction parts comments with
  | nil => rfl
  | cons part parts ih =>
      simp only [List.map_cons, List.sum_cons, List.length_cons, ih]
      omega

theorem sum_tokenCount_eq_zero_iff {comments : List String} :
    (comments.map tokenCount).sum = 0 ↔ ∀ comment ∈ comments, ¬ HoldsToken comment := by
  rw [List.sum_eq_zero_iff_forall_eq_nat]
  simp [tokenCount_eq_zero_iff]

theorem piecesOf_joined {comments : List String} (hne : comments ≠ [])
    (hfree : ∀ comment ∈ comments, ¬ HoldsToken comment) :
    piecesOf (joined comments) = parts comments := by
  rw [joined_eq_intercalate]
  refine piecesOf_eq_iff.2 ⟨parts_ne_nil hne, rfl, ?_⟩
  have hsum := sum_tokenCount_eq_zero_iff.2 hfree
  rw [← map_tokenCount_parts] at hsum
  exact sum_tokenCount_eq_zero_iff.1 hsum

/-! ## Outcomes under a separable converter -/

section

variable {convert : ConversionCall → String} {settings : MarkupSettings} {comments : List String}
  (hc : Separable fun text => convert ⟨text, settings.sourceFormat, settings.targetFormat⟩)

include hc

theorem Separable.length_piecesOf_call (hne : waiting comments ≠ []) :
    (Batch.piecesOf (convert (callFor settings comments))).length =
      (waiting comments).length + ((waiting comments).map tokenCount).sum := by
  rw [callFor, hc.piecesOf, List.length_map, length_piecesOf_joined hne]

theorem Separable.outcome_ok_iff :
    (∃ converted, outcome (fun call => .ok (convert call)) settings comments = .ok converted) ↔
      ∀ comment ∈ waiting comments, ¬ HoldsToken comment := by
  rw [← sum_tokenCount_eq_zero_iff]
  by_cases hne : waiting comments = []
  · simp [outcome, hne]
  · have hlength := hc.length_piecesOf_call hne
    rw [outcome, if_neg hne, answered, accept_filled, hlength]
    by_cases hsum : ((waiting comments).map tokenCount).sum = 0
    · simp [hsum]
    · simp [hsum]

theorem Separable.outcome_mismatch
    (hheld : ¬ ∀ comment ∈ waiting comments, ¬ HoldsToken comment) :
    outcome (fun call => .ok (convert call)) settings comments =
      .error (.pieceCountMismatch (waiting comments).length
        ((waiting comments).length + ((waiting comments).map tokenCount).sum)) := by
  have hne : waiting comments ≠ [] := by
    intro hnone
    rw [hnone] at hheld
    exact hheld fun comment hcomment => absurd hcomment List.not_mem_nil
  rw [← sum_tokenCount_eq_zero_iff] at hheld
  rw [outcome, if_neg hne, answered, accept_filled, hc.length_piecesOf_call hne,
    if_neg (by omega)]

/-- The piece of a waiting comment is what a call for the comment alone gives. -/
theorem Separable.getElem?_piecesOf_call
    (hfree : ∀ comment ∈ waiting comments, ¬ HoldsToken comment) {k : Nat} {comment : String}
    (hk : (waiting comments)[k]? = some comment) :
    (Batch.piecesOf (convert (callFor settings comments)))[k]? =
      some (convert ⟨if k + 1 < (waiting comments).length then comment ++ "\n" else comment,
        settings.sourceFormat, settings.targetFormat⟩) := by
  have hne : waiting comments ≠ [] := by
    intro hnone
    simp [hnone] at hk
  rw [callFor, hc.piecesOf, piecesOf_joined hne hfree, List.getElem?_map, getElem?_parts, hk]
  rfl

end

/-- A batch agrees with conversions of single comments.  It fails exactly if a comment that waits
for conversion holds the separator, and then tells how often the separator occurs in such
comments; comments that are kept as they are may hold it. -/
theorem batch_agrees_with_single_conversions :
    Separable id ∧ Separable String.toUpper ∧
    ∀ (config : Config) (convert : ConversionCall → String) (comments : List String),
      let single := fun text => convert ⟨text, config.sourceFormat, config.targetFormat⟩
      let rewritten := comments.map (replaceLinks config.docsHost)
      let pending := rewritten.filter needsConversion
      Separable single →
      ∃ batch outcome, (new config.markup).submitAll comments = .ok batch ∧
        (batch.convertAll fun call => (pure (.ok (convert call)) : Id ConversionAnswer)).run =
          outcome ∧
        ((∃ converted, outcome = .ok converted) ↔
          ∀ comment ∈ pending, ¬ HoldsToken comment) ∧
        (∀ converted, outcome = .ok converted →
          ∃ texts, converted.Returns texts ∧ texts.length = comments.length ∧
            ∀ i comment, rewritten[i]? = some comment →
              (needsConversion comment = false → texts[i]? = some comment) ∧
              (needsConversion comment = true →
                texts[i]? = some (insertSpaces (single
                  (if (rewritten.take i).countP needsConversion + 1 < pending.length then
                    comment ++ "\n" else comment))))) ∧
        (¬ (∀ comment ∈ pending, ¬ HoldsToken comment) →
          outcome = .error (.pieceCountMismatch pending.length
            (pending.length + (pending.map tokenCount).sum))) := by
  refine ⟨separable_id, separable_toUpper, ?_⟩
  intro config convert comments single rewritten pending hsingle
  refine ⟨filled config.markup rewritten,
    outcome (fun call => .ok (convert call)) config.markup rewritten,
    submitAll_new config.markup comments, convertAll_filled_id _ config.markup rewritten,
    hsingle.outcome_ok_iff, ?_, hsingle.outcome_mismatch⟩
  intro converted hconverted
  have hfree := hsingle.outcome_ok_iff.1 ⟨converted, hconverted⟩
  obtain ⟨pieces, hlength, hpieces, hremaining⟩ :=
    exists_remaining_of_outcome_ok _ config.markup rewritten hconverted
  refine ⟨restored rewritten pieces, hremaining.returns, by simp [rewritten], ?_⟩
  intro i comment hi
  have htext := getElem?_restored hlength hi
  constructor
  · intro hkept
    simpa [hkept] using htext
  · intro hneeds
    have hk := getElem?_waiting hi hneeds
    have hsome : waiting rewritten ≠ [] := by
      intro hnone
      simp [hnone] at hk
    obtain ⟨output, houtput, rfl⟩ := hpieces hsome
    rw [Except.ok.injEq] at houtput
    subst houtput
    rw [if_pos hneeds, hsingle.getElem?_piecesOf_call hfree hk] at htext
    exact htext

/-- A comment that ends in a part of the separator and one that begins with a part of it. -/
theorem upper_case_batch_agrees :
    Separable (fun text => text.toUpper) ∧
    ∃ batch converted texts,
      (new (Config.markup {})).submitAll ["Plain $#!.", "*a*$#", "#!_b_"] = .ok batch ∧
      (batch.convertAll fun call => (pure (.ok call.text.toUpper) : Id ConversionAnswer)).run =
        .ok converted ∧
      converted.Returns texts ∧ texts = ["Plain $#!.", " *A*$#\n", " #!_B_"] := by
  refine ⟨separable_toUpper, ?_⟩
  obtain ⟨batch, outcome, hbatch, houtcome, hok, htexts, -⟩ :=
    batch_agrees_with_single_conversions.2.2 {} (fun call => call.text.toUpper)
      ["Plain $#!.", "*a*$#", "#!_b_"] separable_toUpper
  obtain ⟨converted, hconverted⟩ := hok.2 (by decide +kernel)
  obtain ⟨texts, hreturns, hlength, hread⟩ := htexts converted hconverted
  refine ⟨batch, converted, texts, hbatch, houtcome.trans hconverted, hreturns, ?_⟩
  have hfirst := (hread 0 "Plain $#!." (by decide +kernel)).1 (by decide)
  have hsecond := (hread 1 "*a*$#" (by decide +kernel)).2 (by decide)
  have hthird := (hread 2 "#!_b_" (by decide +kernel)).2 (by decide)
  apply List.ext_getElem?
  intro i
  match i with
  | 0 => exact hfirst
  | 1 => exact hsecond.trans (by decide +kernel)
  | 2 => exact hthird.trans (by decide +kernel)
  | i + 3 => simp [hlength]

end SchemaDocs.Batch
