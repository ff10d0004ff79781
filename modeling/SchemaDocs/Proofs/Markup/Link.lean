import SchemaDocs.Markup.Comment
import Mathlib.Data.List.TakeWhile
/-!
# Where a link begins

The first bracket of a text decides what is a link in it.

## Texts without links

Every link begins with a bracket, and a bracket is a sign of markup.  So a comment without such
signs is left as it is.
-/

namespace SchemaDocs.Markup

theorem Pattern.replace_nil (pattern : Pattern) : pattern.replace [] = [] := by
  rw [Pattern.replace]

theorem Pattern.replace_cons_of_none {pattern : Pattern} {c : Char} {cs : List Char}
    (h : pattern.find? (c :: cs) = none) : pattern.replace (c :: cs) = c :: pattern.replace cs := by
  rw [Pattern.replace]
  split
  · rename_i found
    simp [found] at h
  · rfl

theorem Pattern.replace_cons_of_some {pattern : Pattern} {c : Char} {cs out rest : List Char}
    (h : pattern.find? (c :: cs) = some (out, rest)) :
    pattern.replace (c :: cs) = out ++ pattern.replace rest := by
  rw [Pattern.replace]
  split
  · rename_i out' rest' found
    rw [h, Option.some.injEq, Prod.mk.injEq] at found
    rw [found.1, found.2]
  · rename_i found
    simp [found] at h

/-- What stands before a place is copied, if nothing is found at any of its characters. -/
theorem Pattern.replace_append {pattern : Pattern} {before s : List Char}
    (h : ∀ c ∈ before, ∀ cs, pattern.find? (c :: cs) = none) :
    pattern.replace (before ++ s) = before ++ pattern.replace s := by
  induction before with
  | nil => rfl
  | cons c before ih =>
      have hrest : ∀ d ∈ before, ∀ cs, pattern.find? (d :: cs) = none :=
        fun d hd => h d (List.mem_cons_of_mem c hd)
      rw [List.cons_append, Pattern.replace_cons_of_none (h c List.mem_cons_self _), ih hrest,
        List.cons_append]

/-- A text in which nothing is found stays as it is. -/
theorem Pattern.replace_eq_self {pattern : Pattern} {s : List Char}
    (h : ∀ rest, rest <:+ s → pattern.find? rest = none) : pattern.replace s = s := by
  induction s with
  | nil => exact pattern.replace_nil
  | cons c cs ih =>
      rw [Pattern.replace_cons_of_none (h _ List.suffix_rfl),
        ih fun rest hrest => h rest (hrest.trans (List.suffix_cons c cs))]

theorem enclosed?_eq_none {opening closing : Char} {s : List Char} (h : opening ∉ s) :
    enclosed? opening closing s = none := by
  cases s with
  | nil => rfl
  | cons c cs =>
      have hne : ¬ c = opening := fun heq => h (heq ▸ List.mem_cons_self)
      rw [enclosed?, if_neg hne]

/-- Nothing is enclosed where no closing mark follows. -/
theorem enclosed?_cons_eq_none {opening closing : Char} {cs : List Char} (h : closing ∉ cs)
    (c : Char) : enclosed? opening closing (c :: cs) = none := by
  have hdrop : cs.dropWhile (· != closing) = [] := by
    rw [List.dropWhile_eq_nil_iff]
    intro d hd
    rw [bne_iff_ne]
    exact fun heq => h (heq ▸ hd)
  rw [enclosed?, hdrop]
  split <;> rfl

theorem enclosed?_eq_none_of_open {opening closing : Char} {s : List Char} (h : closing ∉ s) :
    enclosed? opening closing s = none := by
  cases s with
  | nil => rfl
  | cons c cs => exact enclosed?_cons_eq_none (fun hmem => h (List.mem_cons_of_mem c hmem)) c

/-- The first closing mark ends what is enclosed. -/
theorem enclosed?_append {opening closing : Char} {inner : List Char} (h : closing ∉ inner)
    (rest : List Char) :
    enclosed? opening closing (opening :: (inner ++ closing :: rest)) = some (inner, rest) := by
  have hinner : ∀ c ∈ inner, (c != closing) = true := by
    intro c hc
    rw [bne_iff_ne]
    exact fun heq => h (heq ▸ hc)
  have htake : (inner ++ closing :: rest).takeWhile (· != closing) = inner := by
    rw [List.takeWhile_append_of_pos hinner]
    simp
  have hdrop : (inner ++ closing :: rest).dropWhile (· != closing) = closing :: rest := by
    rw [List.dropWhile_append_of_pos hinner]
    simp
  rw [enclosed?, if_pos rfl, hdrop, htake]

section

variable {s : List Char} (h : '[' ∉ s)

include h

theorem replace_referencePattern_eq_self : referencePattern.replace s = s := by
  apply Pattern.replace_eq_self
  intro rest hrest
  have hnone : reference? rest = none := by
    rw [reference?, enclosed?_eq_none fun hmem => h (hrest.subset hmem)]
  simp [referencePattern, hnone]

theorem replace_rootedPattern_eq_self (host : List Char) :
    (rootedPattern host).replace s = s := by
  apply Pattern.replace_eq_self
  intro rest hrest
  have hnone : rooted? rest = none := by
    rw [rooted?, enclosed?_eq_none fun hmem => h (hrest.subset hmem)]
  simp [rootedPattern, hnone]

end

theorem open_not_mem_of_plain {s : List Char} (h : s.any isTrigger = false) : '[' ∉ s :=
  fun hmem => List.any_eq_false.1 h '[' hmem rfl

/-- A comment without signs of markup has no links. -/
theorem replaceLinks_of_not_needs {comment : String} (h : needsConversion comment = false)
    (host : String) : replaceLinks host comment = comment := by
  have hbracket : '[' ∉ comment.toList := open_not_mem_of_plain h
  rw [replaceLinks, Text.onChars, replaceLinkChars, replace_referencePattern_eq_self hbracket,
    replace_rootedPattern_eq_self hbracket, String.ofList_toList]

end SchemaDocs.Markup

/-!
## Links behind an open bracket

The label of a link is looked for from the left and may hold opening brackets.  So a link keeps its
own label where no bracket was opened before it, and else takes all text from the first open
bracket for its label.
-/

namespace SchemaDocs.Markup

theorem not_mem_of_isIdentifierOrEmpty {id : List Char} (h : isIdentifierOrEmpty id = true) :
    ']' ∉ id := by
  cases id with
  | nil => exact List.not_mem_nil
  | cons c cs =>
      rw [isIdentifierOrEmpty, Bool.and_eq_true, List.all_eq_true] at h
      rw [List.mem_cons, not_or]
      refine ⟨?_, fun hmem => absurd (h.2 ']' hmem) (by decide)⟩
      rintro rfl
      exact absurd h.1 (by decide)

theorem reference?_label {label id : List Char} (hlabel : ']' ∉ label) (hne : label ≠ [])
    (hid : isIdentifierOrEmpty id = true) (rest : List Char) :
    reference? ('[' :: (label ++ ']' :: '[' :: (id ++ ']' :: rest))) = some (label, rest) := by
  have hlabel' : label.isEmpty = false := by simpa using hne
  rw [reference?, enclosed?_append hlabel]
  dsimp only
  rw [enclosed?_append (not_mem_of_isIdentifierOrEmpty hid)]
  dsimp only
  rw [if_pos (by rw [hlabel', hid]; rfl)]

/-- Nothing that begins with another character is a link. -/
theorem referencePattern_find?_cons {c : Char} (h : c ≠ '[') (cs : List Char) :
    referencePattern.find? (c :: cs) = none := by
  have hnone : reference? (c :: cs) = none := by
    rw [reference?, enclosed?, if_neg h]
  simp [referencePattern, hnone]

/-- A text without closing brackets has no links to the site. -/
theorem replace_rootedPattern_of_open {s : List Char} (h : ']' ∉ s) (host : List Char) :
    (rootedPattern host).replace s = s := by
  apply Pattern.replace_eq_self
  intro rest hrest
  have hnone : rooted? rest = none := by
    rw [rooted?, enclosed?_eq_none_of_open fun hmem => h (hrest.subset hmem)]
  simp [rootedPattern, hnone]

/-- The one link of a text begins at the first bracket of the text. -/
theorem replaceLinkChars_first_bracket {before label id v : List Char} (host : List Char)
    (hbefore : '[' ∉ before ∧ ']' ∉ before) (hlabel : ']' ∉ label) (hne : label ≠ [])
    (hid : isIdentifierOrEmpty id = true) (hv : '[' ∉ v ∧ ']' ∉ v) :
    replaceLinkChars host (before ++ '[' :: (label ++ ']' :: '[' :: (id ++ ']' :: v))) =
      before ++ '\x60' :: (label ++ '\x60' :: v) := by
  have hnone : ∀ c ∈ before, ∀ cs, referencePattern.find? (c :: cs) = none :=
    fun c hc cs => referencePattern_find?_cons (fun heq => hbefore.1 (heq ▸ hc)) cs
  have hfound : referencePattern.find? ('[' :: (label ++ ']' :: '[' :: (id ++ ']' :: v))) =
      some ('\x60' :: label ++ ['\x60'], v) := by
    simp [referencePattern, reference?_label hlabel hne hid]
  have hreference : referencePattern.replace
      (before ++ '[' :: (label ++ ']' :: '[' :: (id ++ ']' :: v))) =
        before ++ '\x60' :: (label ++ '\x60' :: v) := by
    rw [Pattern.replace_append hnone, Pattern.replace_cons_of_some hfound,
      replace_referencePattern_eq_self hv.1, List.append_assoc]
    rfl
  -- the pass has taken every closing bracket away
  have hopen : ']' ∉ before ++ '\x60' :: (label ++ '\x60' :: v) := by
    simp [hbefore.2, hlabel, hv.2]
  rw [replaceLinkChars, hreference, replace_rootedPattern_of_open hopen]

section

variable (host : String) {t id v : String} (ht : '[' ∉ t.toList ∧ ']' ∉ t.toList)
  (hid : isIdentifierOrEmpty id.toList = true) (hv : '[' ∉ v.toList ∧ ']' ∉ v.toList)

include ht hid hv

/-- Without an open bracket before it, a link becomes the literal of its label. -/
theorem replaceLinks_of_no_bracket {u : String} (hu : '[' ∉ u.toList ∧ ']' ∉ u.toList)
    (hne : t ≠ "") :
    replaceLinks host (u ++ "[" ++ t ++ "][" ++ id ++ "]" ++ v) = u ++ "`" ++ t ++ "`" ++ v := by
  have hlabel : t.toList ≠ [] := by simpa using hne
  have hchars := replaceLinkChars_first_bracket host.toList hu ht.2 hlabel hid hv
  rw [← String.toList_inj, replaceLinks, Text.toList_onChars]
  simpa using hchars

/-- Behind an open bracket, all text from the first one on goes into the literal. -/
theorem replaceLinks_of_first_bracket {before between : String}
    (hbefore : '[' ∉ before.toList ∧ ']' ∉ before.toList) (hbetween : ']' ∉ between.toList) :
    replaceLinks host (before ++ "[" ++ between ++ "[" ++ t ++ "][" ++ id ++ "]" ++ v) =
      before ++ "`" ++ between ++ "[" ++ t ++ "`" ++ v := by
  have hlabel : ']' ∉ between.toList ++ '[' :: t.toList := by simp [hbetween, ht.2]
  have hchars := replaceLinkChars_first_bracket host.toList hbefore hlabel (by simp) hid hv
  rw [← String.toList_inj, replaceLinks, Text.toList_onChars]
  simpa using hchars

end

/-- A text with a bracket is cut at the first one. -/
theorem exists_first_bracket {u : String} (h : '[' ∈ u.toList) :
    ∃ before between : String, u = before ++ "[" ++ between ∧ '[' ∉ before.toList := by
  obtain ⟨before, between, hu, hfree⟩ := List.eq_append_cons_of_mem h
  refine ⟨String.ofList before, String.ofList between, ?_, by simpa using hfree⟩
  rw [← String.toList_inj, hu]
  simp

/-- A link becomes the literal of its own label only where no bracket was opened before it.  Else
the literal holds all text from the first open bracket on, and that bracket is lost. -/
theorem label_begins_at_first_bracket (host : String) {u t id v : String}
    (hu : ']' ∉ u.toList) (hne : t ≠ "") (ht : '[' ∉ t.toList ∧ ']' ∉ t.toList)
    (hid : isIdentifierOrEmpty id.toList = true) (hv : '[' ∉ v.toList ∧ ']' ∉ v.toList) :
    let comment := u ++ "[" ++ t ++ "][" ++ id ++ "]" ++ v
    (replaceLinks host comment = u ++ "`" ++ t ++ "`" ++ v ↔ '[' ∉ u.toList) ∧
      ∀ before between : String, u = before ++ "[" ++ between → '[' ∉ before.toList →
        replaceLinks host comment = before ++ "`" ++ between ++ "[" ++ t ++ "`" ++ v := by
  intro comment
  have hbehind : ∀ before between : String, u = before ++ "[" ++ between →
      '[' ∉ before.toList →
        replaceLinks host comment = before ++ "`" ++ between ++ "[" ++ t ++ "`" ++ v := by
    intro before between hfirst hfree
    have hparts : ']' ∉ before.toList ∧ ']' ∉ between.toList := by simpa [hfirst] using hu
    simp only [comment, hfirst]
    exact replaceLinks_of_first_bracket host ht hid hv ⟨hfree, hparts.1⟩ hparts.2
  refine ⟨⟨?_, fun hfree => replaceLinks_of_no_bracket host ht hid hv ⟨hfree, hu⟩ hne⟩, hbehind⟩
  intro hkept hmem
  obtain ⟨before, between, hfirst, hfree⟩ := exists_first_bracket hmem
  -- in the place of the bracket there now stands a quote
  rw [hbehind before between hfirst hfree, hfirst, ← String.toList_inj] at hkept
  simp at hkept

/-- A comment that opens a parenthesis in brackets before a link without an identifier. -/
theorem label_behind_open_bracket :
    replaceLinks "https://cloud.google.com"
        ("One of [A, B or the " ++ "[" ++ "Group" ++ "][" ++ "" ++ "]" ++ "\n(see *there*).") =
      "One of " ++ "`" ++ "A, B or the " ++ "[" ++ "Group" ++ "`" ++ "\n(see *there*)." :=
  (label_begins_at_first_bracket "https://cloud.google.com" (by decide) (by decide) (by decide)
    (by decide) (by decide)).2 "One of " "A, B or the " (by decide) (by decide)

/-- The bracket of an interval is taken for the beginning of the link behind it. -/
theorem interval_taken_into_label :
    let u := "Values in [0, n) used by "
    let comment := u ++ "[" ++ "Foo" ++ "][" ++ "pkg.Foo" ++ "]" ++ "."
    ']' ∉ u.toList ∧ ('[' ∉ "Foo".toList ∧ ']' ∉ "Foo".toList) ∧
      isIdentifierOrEmpty "pkg.Foo".toList = true ∧
      replaceLinks "https://cloud.google.com" comment = "Values in `0, n) used by [Foo`." ∧
      replaceLinks "https://cloud.google.com" comment ≠ u ++ "`" ++ "Foo" ++ "`" ++ "." := by
  intro u comment
  have hfirst : u = "Values in " ++ "[" ++ "0, n) used by " := by decide
  have hvalue : replaceLinks "https://cloud.google.com" comment =
      "Values in `0, n) used by [Foo`." := by
    simp only [comment, hfirst]
    rw [replaceLinks_of_first_bracket _ (by decide) (by decide) (by decide) (by decide) (by decide)]
    decide
  refine ⟨by decide, by decide, by decide, hvalue, ?_⟩
  rw [hvalue]
  decide

end SchemaDocs.Markup
