import SchemaDocs.Proofs.Markup.Spacing
import Mathlib.Data.List.DropRight
/-!
# Lines that were put together

Lines without line feeds and without blanks at their ends are found again in the text that they make
up, whether a feed stands between any two of them or behind each one.
-/

namespace SchemaDocs.Text

/-! ## Blanks at the end -/

theorem trimEnd_append_blank (s : List Char) {blanks : List Char} (h : allBlank blanks = true) :
    trimEnd (s ++ blanks) = trimEnd s := by
  induction s with
  | nil => rw [List.nil_append, trimEnd_nil, trimEnd_eq_nil_iff, h]
  | cons c cs ih => exact trimEnd_cons_congr ih c

theorem trimEnd_eq_self_iff {s : List Char} :
    trimEnd s = s ↔ ∀ c, s.getLast? = some c → isBlank c = false := by
  constructor
  · intro h c hlast
    rw [← h] at hlast
    exact isBlank_of_getLast?_trimEnd hlast
  · intro h
    induction s with
    | nil => rfl
    | cons c cs ih =>
        cases cs with
        | nil => simp [trimEnd, h c rfl]
        | cons d ds =>
            have hrest : trimEnd (d :: ds) = d :: ds := ih fun e he => h e (by simpa using he)
            rw [trimEnd, hrest]

theorem trimEnd_isPrefix (s : List Char) : trimEnd s <+: s := by
  induction s with
  | nil => exact List.prefix_rfl
  | cons c cs ih =>
      rw [trimEnd]
      split
      · split
        · exact List.nil_prefix
        · exact List.prefix_append [c] cs
      · rename_i d ds hrest
        rw [hrest] at ih
        exact (List.prefix_cons_inj c).2 ih

theorem trimEnd_append_of_ne_nil (s : List Char) {t : List Char} (h : trimEnd t ≠ []) :
    trimEnd (s ++ t) = s ++ trimEnd t := by
  induction s with
  | nil => rfl
  | cons c cs ih =>
      obtain ⟨d, ds, hrest⟩ : ∃ d ds, cs ++ trimEnd t = d :: ds :=
        List.exists_cons_of_ne_nil (List.append_ne_nil_of_right_ne_nil cs h)
      rw [List.cons_append, trimEnd, ih, hrest, List.cons_append, hrest]

/-! ## Lines with feeds between them -/

theorem feed_not_mem_of_mem_lines {s line : List Char} (h : line ∈ lines s) : '\n' ∉ line := by
  induction s using lines.induct generalizing line with
  | case1 => simp [lines] at h
  | case2 cs ih =>
      rw [lines, List.mem_cons] at h
      rcases h with rfl | h
      · exact List.not_mem_nil
      · exact ih h
  | case3 cs ih =>
      rw [lines, List.mem_cons] at h
      rcases h with rfl | h
      · exact List.not_mem_nil
      · exact ih h
  | case4 c cs hfeed hbreak hlines ih =>
      rw [lines.eq_4 _ _ hfeed hbreak, hlines, List.mem_singleton] at h
      rw [h, List.mem_singleton]
      exact fun hc => hfeed hc.symm
  | case5 c cs hfeed hbreak first more hlines ih =>
      rw [lines.eq_4 _ _ hfeed hbreak, hlines, List.mem_cons] at h
      rw [hlines] at ih
      rcases h with rfl | h
      · rw [List.mem_cons, not_or]
        exact ⟨fun hc => hfeed hc.symm, ih List.mem_cons_self⟩
      · exact ih (List.mem_cons_of_mem _ h)

/-- A line with a feed behind it is the first line of a text, unless it ends in a carriage
return. -/
theorem lines_append_feed {line : List Char} (hfeed : '\n' ∉ line)
    (hreturn : line.getLast? ≠ some '\r') (rest : List Char) :
    lines (line ++ '\n' :: rest) = line :: lines rest := by
  induction line with
  | nil => rw [List.nil_append, lines]
  | cons c cs ih =>
      rw [List.mem_cons, not_or] at hfeed
      have hbreak : ∀ ds, c = '\r' → cs ++ '\n' :: rest = '\n' :: ds → False := by
        rintro ds rfl hcs
        cases cs with
        | nil => exact hreturn rfl
        | cons d _ => exact hfeed.2 (by simp [(List.cons.inj hcs).1])
      have hcs : cs.getLast? ≠ some '\r' := by
        cases cs with
        | nil => simp
        | cons d ds => rwa [List.getLast?_cons_cons] at hreturn
      rw [List.cons_append, lines.eq_4 _ _ (fun hc => hfeed.1 hc.symm) hbreak, ih hfeed.2 hcs]

theorem lines_of_not_mem {line : List Char} (hfeed : '\n' ∉ line) (hne : line ≠ []) :
    lines line = [line] := by
  induction line with
  | nil => exact absurd rfl hne
  | cons c cs ih =>
      rw [List.mem_cons, not_or] at hfeed
      have hbreak : ∀ ds, c = '\r' → cs = '\n' :: ds → False := by
        rintro ds - rfl
        exact hfeed.2 List.mem_cons_self
      rw [lines.eq_4 _ _ (fun hc => hfeed.1 hc.symm) hbreak]
      cases cs with
      | nil => rfl
      | cons d ds => rw [ih hfeed.2 (List.cons_ne_nil d ds)]

/-- A line without line feeds and without blanks at its end. -/
structure Bare (line : List Char) : Prop where
  feed : '\n' ∉ line
  trimmed : trimEnd line = line

theorem bare_nil : Bare [] := ⟨List.not_mem_nil, rfl⟩

theorem Bare.getLast?_ne_return {line : List Char} (h : Bare line) :
    line.getLast? ≠ some '\r' := by
  intro hend
  have hblank := trimEnd_eq_self_iff.1 h.trimmed _ hend
  revert hblank
  decide

/-- Lines with a line feed behind each. -/
def withFeeds (ls : List (List Char)) : List Char := ls.flatMap fun line => line ++ ['\n']

@[simp] theorem withFeeds_nil : withFeeds [] = [] := rfl

@[simp] theorem withFeeds_cons (line : List Char) (rest : List (List Char)) :
    withFeeds (line :: rest) = line ++ '\n' :: withFeeds rest :=
  List.append_assoc line ['\n'] (withFeeds rest)

@[simp] theorem withFeeds_append (ls more : List (List Char)) :
    withFeeds (ls ++ more) = withFeeds ls ++ withFeeds more :=
  List.flatMap_append

theorem joinLines_cons_of_ne_nil (line : List Char) {rest : List (List Char)} (h : rest ≠ []) :
    joinLines (line :: rest) = line ++ '\n' :: joinLines rest := by
  obtain ⟨other, more, rfl⟩ := List.exists_cons_of_ne_nil h
  rfl

theorem joinLines_concat (ls : List (List Char)) (last : List Char) :
    joinLines (ls ++ [last]) = withFeeds ls ++ last := by
  induction ls with
  | nil => rfl
  | cons line rest ih =>
      rw [List.cons_append, joinLines_cons_of_ne_nil line (by simp), ih, withFeeds_cons,
        List.append_assoc, List.cons_append]

theorem joinLines_append_feed {ls : List (List Char)} (h : ls ≠ []) :
    joinLines ls ++ ['\n'] = withFeeds ls := by
  obtain ⟨init, last, rfl⟩ := (List.eq_nil_or_concat' ls).resolve_left h
  rw [joinLines_concat, withFeeds_append, withFeeds_cons, withFeeds_nil, List.append_assoc]

theorem allBlank_withFeeds {ls : List (List Char)} (h : ∀ line ∈ ls, line = []) :
    allBlank (withFeeds ls) = true := by
  induction ls with
  | nil => rfl
  | cons line rest ih =>
      obtain ⟨rfl, hrest⟩ := List.forall_mem_cons.1 h
      exact ih hrest

theorem lines_withFeeds_append {ls : List (List Char)} (h : ∀ line ∈ ls, Bare line)
    (rest : List Char) : lines (withFeeds ls ++ rest) = ls ++ lines rest := by
  induction ls with
  | nil => rfl
  | cons line more ih =>
      obtain ⟨hline, hmore⟩ := List.forall_mem_cons.1 h
      rw [withFeeds_cons, List.append_assoc, List.cons_append,
        lines_append_feed hline.feed hline.getLast?_ne_return, ih hmore, List.cons_append]

/-- Lines can be read again when they are joined, unless the last one is empty. -/
theorem lines_joinLines {ls : List (List Char)} (h : ∀ line ∈ ls, Bare line)
    (hlast : ls.getLast? ≠ some []) : lines (joinLines ls) = ls := by
  rcases List.eq_nil_or_concat' ls with rfl | ⟨init, last, rfl⟩
  · rfl
  · obtain ⟨hinit, hline⟩ := List.forall_mem_append.1 h
    have hne : last ≠ [] := by simpa using hlast
    rw [joinLines_concat, lines_withFeeds_append hinit,
      lines_of_not_mem (hline last List.mem_cons_self).feed hne]

/-- To trim lines with feeds behind them is to drop the empty ones at the end, and one feed. -/
theorem trimEnd_withFeeds {ls blanks : List (List Char)} (h : ∀ line ∈ ls, Bare line)
    (hlast : ls.getLast? ≠ some []) (hblanks : ∀ line ∈ blanks, line = []) :
    trimEnd (withFeeds (ls ++ blanks)) = joinLines ls := by
  have hblank := allBlank_withFeeds hblanks
  rcases List.eq_nil_or_concat' ls with rfl | ⟨init, last, rfl⟩
  · rw [List.nil_append, joinLines, (trimEnd_eq_nil_iff _).2 hblank]
  · have hne : last ≠ [] := by simpa using hlast
    have hend : trimEnd (last ++ '\n' :: withFeeds blanks) = last := by
      have hfeed : allBlank ('\n' :: withFeeds blanks) = true := hblank
      rw [trimEnd_append_blank last hfeed]
      exact (h last (by simp)).trimmed
    rw [withFeeds_append, withFeeds_append, withFeeds_cons, withFeeds_nil, List.append_assoc,
      List.append_assoc, List.cons_append, List.nil_append, trimEnd_append_of_ne_nil, hend,
      joinLines_concat]
    rwa [hend]

end SchemaDocs.Text
