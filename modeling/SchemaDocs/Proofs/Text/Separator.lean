import SchemaDocs.Text.Basic
import Mathlib.Data.List.Infix
/-!
# Cutting at a separator

The pieces of a text between the occurrences of a separator.  They are free of the
separator and give the text back when they are joined by it.  For a separator that
cannot overlap itself they are the only such pieces, and no occurrence can straddle
the place where two texts are joined.
-/

namespace SchemaDocs.Text

/-! ## Beginnings -/

theorem after?_eq_some_iff {token s rest : List Char} :
    after? token s = some rest ↔ s = token ++ rest := by
  induction token generalizing s with
  | nil => simp [after?]
  | cons t ts ih =>
      cases s with
      | nil => simp [after?]
      | cons c cs =>
          by_cases hc : t = c
          · subst t
            simpa [after?] using ih
          · have hc' : ¬ c = t := fun h => hc h.symm
            simp [after?, hc, hc']

theorem after?_eq_none_iff {token s : List Char} :
    after? token s = none ↔ ¬ token <+: s := by
  rw [Option.eq_none_iff_forall_ne_some]
  constructor
  · rintro hnone ⟨rest, rfl⟩
    exact hnone rest (after?_eq_some_iff.2 rfl)
  · intro hbegins rest hrest
    exact hbegins ⟨rest, (after?_eq_some_iff.1 hrest).symm⟩

/-! ## The recursion on pieces -/

theorem pieces_nil {token : List Char} (ht : token ≠ []) : pieces token [] = [[]] := by
  rw [pieces, dif_neg ht]

theorem pieces_token_append {token : List Char} (ht : token ≠ []) (rest : List Char) :
    pieces token (token ++ rest) = [] :: pieces token rest := by
  obtain ⟨t, ts, rfl⟩ := List.exists_cons_of_ne_nil ht
  rw [List.cons_append, pieces, dif_neg ht]
  dsimp only
  split
  · rename_i rest' hrest
    have hsame := after?_eq_some_iff.1 hrest
    rw [← List.cons_append, List.append_cancel_left_eq] at hsame
    rw [hsame]
  · rename_i hnone
    exact absurd ⟨rest, rfl⟩ (after?_eq_none_iff.1 hnone)

theorem pieces_cons_of_not_begins {token : List Char} (ht : token ≠ []) {c : Char}
    {cs : List Char} (hc : ¬ token <+: c :: cs) :
    pieces token (c :: cs) = (c :: (pieces token cs).headD []) :: (pieces token cs).tail := by
  rw [pieces, dif_neg ht]
  dsimp only
  split
  · rename_i rest hrest
    exact absurd ⟨rest, (after?_eq_some_iff.1 hrest).symm⟩ hc
  · cases pieces token cs <;> rfl

/-- Texts are taken apart as the pieces are: at their end, behind the separator at their head, or
behind one other character. -/
theorem separatorInduction {token : List Char} (ht : token ≠ []) {motive : List Char → Prop}
    (nil : motive [])
    (token_append : ∀ rest, motive rest → motive (token ++ rest))
    (cons : ∀ c cs, ¬ token <+: c :: cs → motive cs → motive (c :: cs)) (s : List Char) :
    motive s := by
  induction hn : s.length using Nat.strong_induction_on generalizing s with
  | h n ih =>
      cases s with
      | nil => exact nil
      | cons c cs =>
          by_cases hc : token <+: c :: cs
          · obtain ⟨rest, hrest⟩ := hc
            have hlength : rest.length < n := by
              have := List.length_pos_iff.2 ht
              have := congrArg List.length hrest
              simp only [List.length_append, hn] at this
              omega
            rw [← hrest]
            exact token_append rest (ih _ hlength rest rfl)
          · have hlength : cs.length < n := by
              rw [← hn]
              exact Nat.lt_succ_self _
            exact cons c cs hc (ih _ hlength cs rfl)

theorem pieces_ne_nil {token : List Char} (ht : token ≠ []) (s : List Char) :
    pieces token s ≠ [] := by
  induction s using separatorInduction ht with
  | nil => simp [pieces_nil ht]
  | token_append rest ih => simp [pieces_token_append ht]
  | cons c cs hc ih => simp [pieces_cons_of_not_begins ht hc]

/-- The pieces of a text that goes on are those of the rest, the first with one character more. -/
theorem exists_pieces_cons {token : List Char} (ht : token ≠ []) {c : Char} {cs : List Char}
    (hc : ¬ token <+: c :: cs) :
    ∃ piece more, pieces token cs = piece :: more ∧
      pieces token (c :: cs) = (c :: piece) :: more := by
  obtain ⟨piece, more, hmore⟩ := List.exists_cons_of_ne_nil (pieces_ne_nil ht cs)
  refine ⟨piece, more, hmore, ?_⟩
  rw [pieces_cons_of_not_begins ht hc, hmore]
  rfl

/-! ## Joining the pieces -/

theorem intercalate_pieces {token : List Char} (ht : token ≠ []) (s : List Char) :
    token.intercalate (pieces token s) = s := by
  induction s using separatorInduction ht with
  | nil => simp [pieces_nil ht]
  | token_append rest ih =>
      rw [pieces_token_append ht, List.intercalate_cons_of_ne_nil (pieces_ne_nil ht rest), ih]
      rfl
  | cons c cs hc ih =>
      obtain ⟨piece, more, hcs, hpieces⟩ := exists_pieces_cons ht hc
      rw [hcs] at ih
      rw [hpieces]
      cases more with
      | nil =>
          rw [List.intercalate_singleton] at ih ⊢
          rw [ih]
      | cons next more =>
          rw [List.intercalate_cons_cons] at ih ⊢
          rw [List.cons_append, List.cons_append, ih]

theorem head_pieces_prefix {token : List Char} (ht : token ≠ []) {s piece : List Char}
    {more : List (List Char)} (hs : pieces token s = piece :: more) : piece <+: s := by
  have hjoin := intercalate_pieces ht s
  rw [hs] at hjoin
  cases more with
  | nil => rw [← hjoin, List.intercalate_singleton]
  | cons next more =>
      rw [List.intercalate_cons_cons, List.append_assoc] at hjoin
      exact ⟨_, hjoin⟩

/-- No piece holds the separator. -/
theorem not_infix_of_mem_pieces {token : List Char} (ht : token ≠ []) {s piece : List Char}
    (hpiece : piece ∈ pieces token s) : ¬ token <:+: piece := by
  induction s using separatorInduction ht generalizing piece with
  | nil =>
      rw [pieces_nil ht, List.mem_singleton] at hpiece
      simpa [hpiece] using ht
  | token_append rest ih =>
      rw [pieces_token_append ht, List.mem_cons] at hpiece
      rcases hpiece with rfl | hpiece
      · simpa using ht
      · exact ih hpiece
  | cons c cs hc ih =>
      obtain ⟨first, more, hcs, hpieces⟩ := exists_pieces_cons ht hc
      rw [hpieces, List.mem_cons] at hpiece
      rcases hpiece with rfl | hpiece
      · rw [List.infix_cons_iff, not_or]
        constructor
        · -- an occurrence at the head of the piece would be one at the head of the text
          intro hbegins
          have hfirst := head_pieces_prefix ht hcs
          exact hc (hbegins.trans (List.cons_prefix_cons.2 ⟨rfl, hfirst⟩))
        · exact ih (by rw [hcs]; exact List.mem_cons_self)
      · exact ih (by rw [hcs]; exact List.mem_cons_of_mem _ hpiece)

theorem pieces_eq_singleton_iff {token : List Char} (ht : token ≠ []) {s : List Char} :
    pieces token s = [s] ↔ ¬ token <:+: s := by
  constructor
  · intro hs
    exact not_infix_of_mem_pieces ht (by rw [hs]; exact List.mem_singleton_self s)
  · intro hs
    induction s using separatorInduction ht with
    | nil => exact pieces_nil ht
    | token_append rest ih => exact absurd (List.prefix_append token rest).isInfix hs
    | cons c cs hc ih =>
        have hcs : ¬ token <:+: cs := fun h => hs (List.infix_cons h)
        rw [pieces_cons_of_not_begins ht hc, ih hcs]
        rfl

/-! ## Separators that cannot overlap themselves -/

/-- No end of the separator, but itself, is also one of its beginnings. -/
def Unbordered (token : List Char) : Prop :=
  token ≠ [] ∧ ∀ k < token.length, 0 < k → ¬ token.drop k <+: token

instance (token : List Char) : Decidable (Unbordered token) := by
  unfold Unbordered
  infer_instance

theorem Unbordered.not_begins {token s : List Char} (hu : Unbordered token) (hs : s <:+ token)
    (hne : s ≠ []) (hlength : s.length < token.length) : ¬ s <+: token := by
  obtain ⟨start, hstart⟩ := hs
  have hsum : start.length + s.length = token.length := by
    rw [← List.length_append, hstart]
  have hpos := List.length_pos_iff.2 hne
  have hdrop : token.drop start.length = s := by
    rw [← hstart, List.drop_left]
  rw [← hdrop]
  exact hu.2 start.length (by omega) (by omega)

theorem Unbordered.not_begins_append {token s : List Char} (hu : Unbordered token)
    (hs : s <:+ token) (hne : s ≠ []) (hlength : s.length < token.length) (rest : List Char) :
    ¬ token <+: s ++ rest := by
  intro htoken
  apply hu.not_begins hs hne hlength
  exact List.prefix_of_prefix_length_le (List.prefix_append s rest) htoken hlength.le

/-- What begins with the separator and goes on with it later has the first one in front of the
later one: the two do not overlap. -/
theorem Unbordered.prefix_of_prefix_append {token x y : List Char} (hu : Unbordered token)
    (hx : x ≠ []) (h : token <+: x ++ (token ++ y)) : token <+: x := by
  by_cases hlength : token.length ≤ x.length
  · exact List.prefix_of_prefix_length_le h (List.prefix_append x _) hlength
  · have hbegin : x <+: token := by
      apply List.prefix_of_prefix_length_le (List.prefix_append x (token ++ y)) h
      omega
    obtain ⟨rest, hrest⟩ := hbegin
    have hsum : x.length + rest.length = token.length := by
      rw [← List.length_append, hrest]
    have hpos := List.length_pos_iff.2 hx
    -- what of the first separator reaches past the text would begin the second one
    have hborder : rest <+: token := by
      have hover : rest <+: token ++ y := by
        rw [← List.prefix_append_right_inj x, hrest]
        exact h
      exact List.prefix_of_prefix_length_le hover (List.prefix_append token y) (by omega)
    refine absurd hborder (hu.not_begins ⟨x, hrest⟩ ?_ (by omega))
    apply List.length_pos_iff.1
    omega

/-- Cutting at a separator commutes with joining by it: no occurrence straddles the border. -/
theorem pieces_append_token {token : List Char} (hu : Unbordered token) (x y : List Char) :
    pieces token (x ++ (token ++ y)) = pieces token x ++ pieces token y := by
  induction x using separatorInduction hu.1 with
  | nil => rw [List.nil_append, pieces_token_append hu.1, pieces_nil hu.1, List.singleton_append]
  | token_append rest ih =>
      rw [List.append_assoc, pieces_token_append hu.1, pieces_token_append hu.1, ih,
        List.cons_append]
  | cons c cs hc ih =>
      have hlater : ¬ token <+: c :: (cs ++ (token ++ y)) := by
        rw [← List.cons_append]
        exact fun h => hc (hu.prefix_of_prefix_append (List.cons_ne_nil c cs) h)
      obtain ⟨piece, more, hcs, hpieces⟩ := exists_pieces_cons hu.1 hc
      rw [List.cons_append, pieces_cons_of_not_begins hu.1 hlater, ih, hpieces, hcs]
      rfl

theorem pieces_intercalate_flatMap {token : List Char} (hu : Unbordered token)
    {parts : List (List Char)} (hne : parts ≠ []) :
    pieces token (token.intercalate parts) = parts.flatMap (pieces token) := by
  induction parts with
  | nil => exact absurd rfl hne
  | cons part parts ih =>
      cases parts with
      | nil => simp [List.intercalate_singleton]
      | cons next parts =>
          rw [List.intercalate_cons_cons, List.append_assoc, pieces_append_token hu,
            ih (List.cons_ne_nil _ _)]
          rfl

/-- The pieces are the only texts without the separator that it joins to the given one. -/
theorem pieces_eq_iff {token : List Char} (hu : Unbordered token) {s : List Char}
    {parts : List (List Char)} :
    pieces token s = parts ↔
      parts ≠ [] ∧ token.intercalate parts = s ∧ ∀ part ∈ parts, ¬ token <:+: part := by
  constructor
  · rintro rfl
    exact ⟨pieces_ne_nil hu.1 s, intercalate_pieces hu.1 s,
      fun part hpart => not_infix_of_mem_pieces hu.1 hpart⟩
  · rintro ⟨hne, rfl, hfree⟩
    rw [pieces_intercalate_flatMap hu hne]
    have hsingle : ∀ part ∈ parts, pieces token part = [part] := fun part hpart =>
      (pieces_eq_singleton_iff hu.1).2 (hfree part hpart)
    rw [List.flatMap_congr hsingle, List.flatMap_singleton']

/-! ## Counting occurrences -/

/-- The number of places of a text at which the separator stands. -/
def occurrences (token s : List Char) : Nat := s.tails.countP token.isPrefixOf

theorem occurrences_cons (token : List Char) (c : Char) (cs : List Char) :
    occurrences token (c :: cs) =
      occurrences token cs + if token <+: c :: cs then 1 else 0 := by
  simp [occurrences, List.countP_cons]

theorem occurrences_nil {token : List Char} (ht : token ≠ []) : occurrences token [] = 0 := by
  cases token with
  | nil => exact absurd rfl ht
  | cons t ts => rfl

theorem occurrences_suffix_append {token s : List Char} (hu : Unbordered token)
    (hs : s <:+ token) (hlength : s.length < token.length) (rest : List Char) :
    occurrences token (s ++ rest) = occurrences token rest := by
  induction s with
  | nil => rfl
  | cons c cs ih =>
      have hc := hu.not_begins_append hs (List.cons_ne_nil c cs) hlength rest
      rw [List.cons_append] at hc ⊢
      rw [occurrences_cons, if_neg hc, Nat.add_zero]
      rw [List.length_cons] at hlength
      exact ih ((List.suffix_cons c cs).trans hs) (by omega)

theorem occurrences_token_append {token : List Char} (hu : Unbordered token) (rest : List Char) :
    occurrences token (token ++ rest) = occurrences token rest + 1 := by
  obtain ⟨t, ts, rfl⟩ := List.exists_cons_of_ne_nil hu.1
  have hhead : t :: ts <+: t :: (ts ++ rest) := List.prefix_append (t :: ts) rest
  rw [List.cons_append, occurrences_cons, if_pos hhead,
    occurrences_suffix_append hu (List.suffix_cons t ts) (Nat.lt_succ_self _)]

/-- There is one piece more than there are occurrences. -/
theorem length_pieces {token : List Char} (hu : Unbordered token) (s : List Char) :
    (pieces token s).length = occurrences token s + 1 := by
  induction s using separatorInduction hu.1 with
  | nil => rw [pieces_nil hu.1, occurrences_nil hu.1, List.length_singleton]
  | token_append rest ih =>
      rw [pieces_token_append hu.1, List.length_cons, ih, occurrences_token_append hu]
  | cons c cs hc ih =>
      obtain ⟨piece, more, hcs, hpieces⟩ := exists_pieces_cons hu.1 hc
      rw [hcs] at ih
      rw [hpieces, occurrences_cons, if_neg hc, Nat.add_zero, ← ih, List.length_cons,
        List.length_cons]

theorem occurrences_eq_zero_iff {token : List Char} (hu : Unbordered token) {s : List Char} :
    occurrences token s = 0 ↔ ¬ token <:+: s := by
  rw [← pieces_eq_singleton_iff hu.1]
  constructor
  · intro hzero
    have hone : (pieces token s).length = 1 := by rw [length_pieces hu, hzero]
    obtain ⟨piece, hpiece⟩ := List.length_eq_one_iff.1 hone
    have hjoin := intercalate_pieces hu.1 s
    rw [hpiece, List.intercalate_singleton] at hjoin
    rw [hpiece, hjoin]
  · intro hpieces
    have hlength := length_pieces hu s
    rw [hpieces, List.length_singleton] at hlength
    omega

/-- A character that the separator does not hold can be added without making an occurrence. -/
theorem occurrences_concat {token : List Char} (ht : token ≠ []) {c : Char} (hc : c ∉ token)
    (s : List Char) : occurrences token (s ++ [c]) = occurrences token s := by
  have hbegins : ∀ t, token <+: t ++ [c] ↔ token <+: t := by
    intro t
    rw [List.prefix_concat_iff]
    refine or_iff_right ?_
    rintro rfl
    exact hc (List.mem_append_right t (List.mem_singleton_self c))
  induction s with
  | nil =>
      have hsingle : ¬ token <+: [c] := fun h => ht (List.prefix_nil.1 ((hbegins []).1 h))
      rw [List.nil_append, occurrences_cons, if_neg hsingle, Nat.add_zero]
  | cons d ds ih =>
      simp only [List.cons_append, occurrences_cons, ih]
      simp only [← List.cons_append, hbegins]

/-! ## Cutting at a character -/

theorem splitAt_of_not_mem {mark : Char} {s : List Char} (h : mark ∉ s) :
    splitAt mark s = [s] := by
  induction s with
  | nil => rfl
  | cons c s ih =>
      rw [List.mem_cons, not_or] at h
      rw [splitAt, if_neg (Ne.symm h.1), ih h.2]

theorem splitAt_ne_nil (mark : Char) (s : List Char) : splitAt mark s ≠ [] := by
  cases s with
  | nil => simp [splitAt]
  | cons c s =>
      rw [splitAt]
      split
      · simp
      · split <;> simp

theorem splitAt_append (mark : Char) (s t : List Char) :
    splitAt mark (s ++ mark :: t) = splitAt mark s ++ splitAt mark t := by
  induction s with
  | nil => simp [splitAt]
  | cons c s ih =>
      rw [List.cons_append, splitAt, splitAt, ih]
      split
      · rfl
      · obtain ⟨part, more, hparts⟩ := List.exists_cons_of_ne_nil (splitAt_ne_nil mark s)
        rw [hparts]
        rfl

end SchemaDocs.Text
