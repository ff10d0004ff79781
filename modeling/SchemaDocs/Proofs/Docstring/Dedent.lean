import SchemaDocs.Docstring.Basic
import SchemaDocs.Proofs.Markup.Spacing
import Mathlib.Data.List.DropRight
/-!
# Texts that are set alike

Before a text is set, its blank edges and the indentation that its lines share are taken away.  So
neither a line feed at its end nor a space more in front of every line can be seen in a docstring.
-/

namespace SchemaDocs.Docstring

open SchemaDocs.Text SchemaDocs.Markup

/-! ## The lines that count -/

theorem dropEmptyEdges_append {before after : List (List Char)}
    (hbefore : ∀ line ∈ before, line = []) (hafter : ∀ line ∈ after, line = [])
    (lines : List (List Char)) :
    dropEmptyEdges (before ++ lines ++ after) = dropEmptyEdges lines := by
  have hfront : ∀ line ∈ before, line.isEmpty = true :=
    fun line h => List.isEmpty_iff.2 (hbefore line h)
  have hback : ∀ line ∈ after, line.isEmpty = true :=
    fun line h => List.isEmpty_iff.2 (hafter line h)
  rw [dropEmptyEdges, dropEmptyEdges, List.append_assoc, List.dropWhile_append_of_pos hfront,
    List.dropWhile_append]
  split
  · rename_i hnone
    rw [List.isEmpty_iff.1 hnone, List.dropWhile_eq_nil_iff.2 hback]
  · have hreversed : ∀ line ∈ after.reverse, line.isEmpty = true :=
      fun line h => hback line (List.mem_reverse.1 h)
    rw [List.reverse_append, List.dropWhile_append_of_pos hreversed]

theorem dropEmptyEdges_concat_nil (lines : List (List Char)) :
    dropEmptyEdges (lines ++ [[]]) = dropEmptyEdges lines := by
  simpa using dropEmptyEdges_append (List.forall_mem_nil _) (List.forall_mem_singleton.2 rfl) lines

/-- The lines that count are those between line feeds, without blanks at their ends. -/
theorem contentLines_eq (s : List Char) :
    contentLines s = dropEmptyEdges ((splitAt '\n' s).map trimEnd) := by
  obtain ⟨rest, rfl | rfl, hsplit⟩ := exists_map_trimEnd_splitAt s
  · rw [hsplit, List.append_nil, contentLines]
  · rw [hsplit, dropEmptyEdges_concat_nil, contentLines]

theorem dedentChars_congr {s t : List Char} (h : contentLines s = contentLines t) :
    dedentChars s = dedentChars t := by
  rw [dedentChars, dedentChars, dedentedLines, dedentedLines, h]

theorem dedentChars_concat_feed (s : List Char) : dedentChars (s ++ ['\n']) = dedentChars s := by
  apply dedentChars_congr
  rw [contentLines_eq, splitAt_concat_self, List.map_append, List.map_singleton, trimEnd_nil,
    dropEmptyEdges_concat_nil, contentLines_eq]

/-! ## The lines at the edges -/

theorem dropEmptyEdges_prefix (lines : List (List Char)) :
    dropEmptyEdges lines <+: lines.dropWhile List.isEmpty :=
  List.rdropWhile_prefix List.isEmpty _

theorem mem_of_mem_dropEmptyEdges {lines : List (List Char)} {line : List Char}
    (h : line ∈ dropEmptyEdges lines) : line ∈ lines := by
  have hpart := dropEmptyEdges_prefix lines
  exact (List.dropWhile_sublist _).subset (hpart.subset h)

/-- The first line that is left is not empty. -/
theorem head_dropEmptyEdges_ne_nil {lines rest : List (List Char)} {first : List Char}
    (h : dropEmptyEdges lines = first :: rest) : first ≠ [] := by
  obtain ⟨more, hmore⟩ := dropEmptyEdges_prefix lines
  have hhead := List.head?_dropWhile_not List.isEmpty lines
  rw [← hmore, h] at hhead
  rintro rfl
  exact Bool.noConfusion hhead

/-- The last line that is left is not empty. -/
theorem getLast?_dropEmptyEdges_ne (lines : List (List Char)) :
    (dropEmptyEdges lines).getLast? ≠ some [] := by
  intro hlast
  have hne : dropEmptyEdges lines ≠ [] := by
    rintro hnil
    rw [hnil] at hlast
    cases hlast
  have hfull := List.rdropWhile_last_not List.isEmpty (lines.dropWhile List.isEmpty) hne
  rw [List.getLast?_eq_some_getLast hne, Option.some.injEq] at hlast
  exact hfull (List.isEmpty_iff.2 hlast)

theorem dropEmptyEdges_eq_nil_iff {lines : List (List Char)} :
    dropEmptyEdges lines = [] ↔ ∀ line ∈ lines, line = [] := by
  constructor
  · intro hnone
    rw [dropEmptyEdges, List.reverse_eq_nil_iff, List.dropWhile_eq_nil_iff] at hnone
    have hdropped : lines.dropWhile List.isEmpty = [] := by
      by_contra hsome
      -- the first line that is left is not empty, and yet would be dropped from the other end
      have hhead := List.head_dropWhile_not List.isEmpty hsome
      rw [hnone _ (List.mem_reverse.2 (List.head_mem hsome))] at hhead
      exact Bool.noConfusion hhead
    simpa [List.dropWhile_eq_nil_iff] using hdropped
  · intro hall
    by_contra hsome
    obtain ⟨first, rest, hlines⟩ := List.exists_cons_of_ne_nil hsome
    have hmem : first ∈ dropEmptyEdges lines := by
      rw [hlines]
      exact List.mem_cons_self
    exact head_dropEmptyEdges_ne_nil hlines (hall first (mem_of_mem_dropEmptyEdges hmem))

theorem contentLines_eq_nil_iff (s : List Char) : contentLines s = [] ↔ allBlank s = true := by
  rw [contentLines_eq, dropEmptyEdges_eq_nil_iff, List.forall_mem_map, allBlank_iff_splitAt]
  simp only [trimEnd_eq_nil_iff]

/-! ## Margins -/

/-- The margin is the least indentation of the lines that are not empty. -/
theorem margin_eq_iff {lines : List (List Char)} (h : ∃ line ∈ lines, line ≠ []) {width : Nat} :
    margin lines = width ↔
      (∃ line ∈ lines, line ≠ [] ∧ indentWidth line = width) ∧
        ∀ line ∈ lines, line ≠ [] → width ≤ indentWidth line := by
  obtain ⟨widths, hwidths⟩ : ∃ widths, widths =
      (lines.filter fun line => !line.isEmpty).map indentWidth := ⟨_, rfl⟩
  have hmem : ∀ n, n ∈ widths ↔ ∃ line ∈ lines, line ≠ [] ∧ indentWidth line = n := by
    intro n
    simp [hwidths, and_assoc]
  obtain ⟨line, hline, hne⟩ := h
  have hsome : widths ≠ [] := List.ne_nil_of_mem ((hmem _).2 ⟨line, hline, hne, rfl⟩)
  obtain ⟨least, hleast⟩ := Option.isSome_iff_exists.1 (List.isSome_min?_of_ne_nil hsome)
  have hmargin : margin lines = least := by
    rw [margin, ← hwidths, hleast, Option.getD_some]
  obtain ⟨hattained, hbound⟩ := List.min?_eq_some_iff.1 hleast
  rw [hmargin]
  constructor
  · rintro rfl
    refine ⟨(hmem _).1 hattained, fun line hline hne => ?_⟩
    exact hbound _ ((hmem _).2 ⟨line, hline, hne, rfl⟩)
  · rintro ⟨hwidth, hother⟩
    obtain ⟨first, hfirst, hfull, rfl⟩ := (hmem _).1 hattained
    exact Nat.le_antisymm (hbound _ ((hmem _).2 hwidth)) (hother first hfirst hfull)

/-! ## Indentation in front -/

/-- A line with a text in front, if it is not empty. -/
def indented (front : List Char) : List Char → List Char
  | [] => []
  | c :: cs => front ++ c :: cs

@[simp] theorem indented_nil (front : List Char) : indented front [] = [] := rfl

theorem indented_of_ne_nil (front : List Char) {line : List Char} (h : line ≠ []) :
    indented front line = front ++ line := by
  obtain ⟨c, cs, rfl⟩ := List.exists_cons_of_ne_nil h
  rfl

theorem indented_eq_nil_iff {front line : List Char} : indented front line = [] ↔ line = [] := by
  cases line <;> simp [indented]

theorem dropEmptyEdges_map_indented (front : List Char) (lines : List (List Char)) :
    dropEmptyEdges (lines.map (indented front)) = (dropEmptyEdges lines).map (indented front) := by
  have hempty : List.isEmpty ∘ indented front = List.isEmpty := by
    funext line
    cases line <;> simp [indented]
  rw [dropEmptyEdges, dropEmptyEdges, List.dropWhile_map, hempty, ← List.map_reverse,
    List.dropWhile_map, hempty, ← List.map_reverse]

section

variable {front : List Char} (hfront : ∀ c ∈ front, isIndent c = true)

include hfront

theorem indentWidth_append (line : List Char) :
    indentWidth (front ++ line) = front.length + indentWidth line := by
  rw [indentWidth, List.takeWhile_append_of_pos hfront, List.length_append, indentWidth]

theorem margin_map_indented {lines : List (List Char)} (h : ∃ line ∈ lines, line ≠ []) :
    margin (lines.map (indented front)) = margin lines + front.length := by
  obtain ⟨⟨line, hline, hne, hwidth⟩, hleast⟩ := (margin_eq_iff h).1 rfl
  have hindented : ∃ line ∈ lines.map (indented front), line ≠ [] :=
    ⟨_, List.mem_map_of_mem hline, fun hnil => hne (indented_eq_nil_iff.1 hnil)⟩
  refine (margin_eq_iff hindented).2 ⟨⟨_, List.mem_map_of_mem hline, ?_, ?_⟩, ?_⟩
  · exact fun hnil => hne (indented_eq_nil_iff.1 hnil)
  · rw [indented_of_ne_nil front hne, indentWidth_append hfront, hwidth, Nat.add_comm]
  · intro other hother hfull
    obtain ⟨raw, hraw, rfl⟩ := List.mem_map.1 hother
    have hrawne : raw ≠ [] := fun hnil => hfull (indented_eq_nil_iff.2 hnil)
    rw [indented_of_ne_nil front hrawne, indentWidth_append hfront, Nat.add_comm]
    exact Nat.add_le_add_left (hleast raw hraw hrawne) _

theorem map_drop_margin_indented (lines : List (List Char)) :
    (lines.map (indented front)).map (List.drop (margin (lines.map (indented front)))) =
      lines.map (List.drop (margin lines)) := by
  rw [List.map_map]
  apply List.map_congr_left
  intro line hline
  by_cases hne : line = []
  · rw [hne, Function.comp_apply, indented_nil, List.drop_nil, List.drop_nil]
  · rw [Function.comp_apply, margin_map_indented hfront ⟨line, hline, hne⟩,
      indented_of_ne_nil front hne, Nat.add_comm, List.drop_length_add_append]

/-- The same indentation in front of all lines is taken away again. -/
theorem dedentChars_of_indented {s t : List Char}
    (h : contentLines t = (contentLines s).map (indented front)) :
    dedentChars t = dedentChars s := by
  have hlines := map_drop_margin_indented hfront (contentLines s)
  rw [← h] at hlines
  exact congrArg joinLines hlines

end

/-- A line with one more blank in front, if it is not empty. -/
def shifted : List Char → List Char
  | [] => []
  | c :: cs => ' ' :: c :: cs

theorem shifted_eq : shifted = indented [' '] := by
  funext line
  cases line <;> rfl

/-! ## Texts of which nothing is left -/

theorem isBlank_of_isIndent {c : Char} (h : isIndent c = true) : isBlank c = true := by
  have hcases : c = ' ' ∨ c = '\t' := by simpa [isIndent] using h
  rcases hcases with rfl | rfl <;> rfl

/-- A trimmed line is not all indentation. -/
theorem indentWidth_lt_of_trimEnd {line : List Char} (h : trimEnd line ≠ []) :
    indentWidth (trimEnd line) < (trimEnd line).length := by
  have hlast := isBlank_of_getLast?_trimEnd (List.getLast?_eq_some_getLast h)
  apply Nat.lt_of_le_of_ne (List.takeWhile_sublist _).length_le
  intro hall
  have hindent := List.takeWhile_eq_self_iff.1
    ((List.takeWhile_sublist isIndent).eq_of_length hall) _ (List.getLast_mem h)
  rw [isBlank_of_isIndent hindent] at hlast
  exact Bool.noConfusion hlast

/-- A line that counts begins with as much indentation as the margin is wide, and then goes on. -/
theorem margin_cuts_line {s line : List Char} (h : line ∈ contentLines s) (hne : line ≠ []) :
    (line.take (margin (contentLines s))).length = margin (contentLines s) ∧
      (∀ c ∈ line.take (margin (contentLines s)), isIndent c = true) ∧
      line.drop (margin (contentLines s)) ≠ [] := by
  have hmargin := ((margin_eq_iff ⟨line, h, hne⟩).1 rfl).2 line h hne
  have hwidth : indentWidth line < line.length := by
    rw [contentLines_eq] at h
    obtain ⟨raw, -, rfl⟩ := List.mem_map.1 (mem_of_mem_dropEmptyEdges h)
    exact indentWidth_lt_of_trimEnd hne
  refine ⟨?_, fun c hc => ?_, ?_⟩
  · rw [List.length_take]
    omega
  · have hbegin : line.take (margin (contentLines s)) <+: line.takeWhile isIndent :=
      List.prefix_of_prefix_length_le (List.take_prefix _ _) (List.takeWhile_prefix _)
        ((List.length_take_le _ _).trans hmargin)
    exact List.mem_takeWhile_imp (hbegin.subset hc)
  · rw [Ne, List.drop_eq_nil_iff]
    omega

theorem eq_nil_of_joinLines_cons {line : List Char} {rest : List (List Char)}
    (h : joinLines (line :: rest) = []) : line = [] := by
  cases rest with
  | nil => exact h
  | cons other rest => exact (List.append_eq_nil_iff.1 h).1

theorem dedentChars_eq_nil_iff (s : List Char) : dedentChars s = [] ↔ allBlank s = true := by
  rw [← contentLines_eq_nil_iff]
  constructor
  · intro hnone
    by_contra hsome
    obtain ⟨first, rest, hcontent⟩ := List.exists_cons_of_ne_nil hsome
    have hfull : first ≠ [] := head_dropEmptyEdges_ne_nil hcontent
    have hmem : first ∈ contentLines s := by
      rw [hcontent]
      exact List.mem_cons_self
    rw [dedentChars, dedentedLines] at hnone
    rw [hcontent, List.map_cons, ← hcontent] at hnone
    exact (margin_cuts_line hmem hfull).2.2 (eq_nil_of_joinLines_cons hnone)
  · intro hnone
    rw [dedentChars, dedentedLines, hnone]
    rfl

/-! ## Spaced texts -/

/-- A text in which no line behind a line feed begins with a carriage return, unless it is blank. -/
def FreeOfReturns (s : List Char) : Prop :=
  ∀ line ∈ (splitAt '\n' s).tail, line.head? = some '\r' → allBlank line = true

theorem trimEnd_append_indent {front : List Char} (h : ∀ c ∈ front, isIndent c = true)
    (line : List Char) : trimEnd (front ++ line) = indented front (trimEnd line) := by
  induction front with
  | nil => cases htrim : trimEnd line <;> simp [htrim, indented]
  | cons c front ih =>
      obtain ⟨hc, hfront⟩ := List.forall_mem_cons.1 h
      rw [List.cons_append, trimEnd, ih hfront]
      cases trimEnd line with
      | nil => exact if_pos (isBlank_of_isIndent hc)
      | cons d ds => cases front <;> rfl

theorem trimEnd_cons_blank (line : List Char) : trimEnd (' ' :: line) = shifted (trimEnd line) := by
  have hspace : ∀ c ∈ [' '], isIndent c = true := List.forall_mem_singleton.2 rfl
  rw [shifted_eq]
  exact trimEnd_append_indent hspace line

theorem trimEnd_spacedLine {line : List Char}
    (h : line.head? = some '\r' → allBlank line = true) :
    trimEnd (spacedLine line) = shifted (trimEnd line) := by
  cases line with
  | nil => rfl
  | cons c cs =>
      rw [spacedLine]
      split
      · rename_i hreturn
        have hblank : trimEnd (c :: cs) = [] :=
          (trimEnd_eq_nil_iff _).2 (h (congrArg some hreturn))
        rw [hblank, shifted]
      · exact trimEnd_cons_blank (c :: cs)

/-- The spaces in front of the lines of a text are taken away again. -/
theorem dedentChars_spacedChars {s : List Char} (h : FreeOfReturns s) :
    dedentChars (spacedChars s) = dedentChars s := by
  obtain ⟨first, rest, hsplit⟩ := List.exists_cons_of_ne_nil (splitAt_ne_nil '\n' s)
  rw [FreeOfReturns, hsplit, List.tail_cons] at h
  have hspace : ∀ c ∈ [' '], isIndent c = true := List.forall_mem_singleton.2 rfl
  apply dedentChars_of_indented hspace
  rw [contentLines_eq, contentLines_eq, splitAt_spacedChars hsplit, hsplit,
    ← dropEmptyEdges_map_indented, ← shifted_eq, List.map_cons, List.map_cons, List.map_cons,
    trimEnd_cons_blank, List.map_map, List.map_map]
  congr 2
  exact List.map_congr_left fun line hline => trimEnd_spacedLine (h line hline)

theorem freeOfReturns_concat_feed {s : List Char} (h : FreeOfReturns s) :
    FreeOfReturns (s ++ ['\n']) := by
  intro line hline
  rw [splitAt_concat_self, List.tail_append_of_ne_nil (splitAt_ne_nil '\n' s), List.mem_append,
    List.mem_singleton] at hline
  rcases hline with hline | rfl
  · exact h line hline
  · intro hreturn
    simp at hreturn

theorem toList_dedent (text : String) : (dedent text).toList = dedentChars text.toList :=
  toList_onChars dedentChars text

theorem dedent_insertSpaces {text : String} (h : FreeOfReturns text.toList) :
    dedent (insertSpaces text) = dedent text := by
  apply String.toList_inj.1
  rw [toList_dedent, insertSpaces, Text.toList_onChars, dedentChars_spacedChars h, toList_dedent]

theorem toList_append_feed (text : String) : (text ++ "\n").toList = text.toList ++ ['\n'] :=
  String.toList_append

theorem dedent_append_feed (text : String) : dedent (text ++ "\n") = dedent text := by
  apply String.toList_inj.1
  rw [toList_dedent, toList_append_feed, dedentChars_concat_feed, toList_dedent]

theorem freeOfReturns_append_feed {text : String} (h : FreeOfReturns text.toList) :
    FreeOfReturns (text ++ "\n").toList := by
  rw [toList_append_feed]
  exact freeOfReturns_concat_feed h

/-- A comment is set as it is written, whether or not a batch has put a line feed behind it and spaces
before its lines.  This holds where no line behind a line feed begins with a carriage return, unless
it is blank. -/
theorem comments_set_as_written {text : String}
    (h : ∀ line ∈ (splitAt '\n' text.toList).tail,
      line.head? = some '\r' → allBlank line = true) :
    dedent (insertSpaces text) = dedent text ∧ dedent (text ++ "\n") = dedent text ∧
      dedent (insertSpaces (text ++ "\n")) = dedent text := by
  refine ⟨dedent_insertSpaces h, dedent_append_feed text, ?_⟩
  rw [dedent_insertSpaces (freeOfReturns_append_feed h), dedent_append_feed]

/-- A text with a first line further in, tabs among its spaces, a line of blanks, breaks of two
characters, and a carriage return within a line. -/
theorem tabs_and_blank_lines_set_as_written :
    let text := "   One \r\n\r\n \t\n \tTwo\n\r \r\n \t\rThree\u00a0"
    (∀ line ∈ (splitAt '\n' text.toList).tail, line.head? = some '\r' → allBlank line = true) ∧
      dedent (insertSpaces text) = " One\n\n\nTwo\n\n\rThree" ∧
      dedent (insertSpaces (text ++ "\n")) = " One\n\n\nTwo\n\n\rThree" := by
  intro text
  have hfree : ∀ line ∈ (splitAt '\n' text.toList).tail,
      line.head? = some '\r' → allBlank line = true := by decide
  have hset : dedent text = " One\n\n\nTwo\n\n\rThree" := by decide
  obtain ⟨hspaces, -, hboth⟩ := comments_set_as_written hfree
  exact ⟨hfree, hspaces.trans hset, hboth.trans hset⟩

/-! ## Documents -/

/-- Two documents that differ in nothing that is set: they have the same name, the same members in
the same order, and comments of which the same is left. -/
structure SetAlike (a b : ClassDoc) : Prop where
  name : a.name = b.name
  summary : dedent a.summary = dedent b.summary
  members : (a.members.map fun member => (member.name, dedent member.comment)) =
    b.members.map fun member => (member.name, dedent member.comment)

theorem dedent_eq_empty_iff (text : String) : dedent text = "" ↔ allBlank text.toList = true := by
  rw [← String.toList_eq_nil_iff, toList_dedent, dedentChars_eq_nil_iff]

theorem isUndocumented_iff (doc : ClassDoc) :
    doc.isUndocumented = true ↔ dedent doc.summary = "" ∧
      ∀ entry ∈ doc.members.map fun member => (member.name, dedent member.comment),
        entry.2 = "" := by
  rw [List.forall_mem_map, ClassDoc.isUndocumented_iff]
  simp only [dedent_eq_empty_iff]

theorem attributesChars_eq (members : List Member) :
    attributesChars members =
      if members.map (fun member => (member.name, dedent member.comment)) = [] then []
      else attributesHeader.toList ++ '\n' ::
        (members.map fun member => (member.name, dedent member.comment)).flatMap fun entry =>
          List.replicate 4 ' ' ++ entry.1.toList ++ [':', '\n']
            ++ indentChars 8 entry.2.toList ++ ['\n'] := by
  cases members with
  | nil => rfl
  | cons member rest =>
      rw [List.flatMap_map]
      simp only [toList_dedent]
      rfl

/-- A body depends on what is set of a document alone. -/
theorem body_congr {a b : ClassDoc} (hsummary : dedent a.summary = dedent b.summary)
    (hmembers : (a.members.map fun member => (member.name, dedent member.comment)) =
      b.members.map fun member => (member.name, dedent member.comment)) : body a = body b := by
  have hattributes : attributesChars a.members = attributesChars b.members := by
    rw [attributesChars_eq, attributesChars_eq, hmembers]
  have hchars : dedentChars a.summary.toList = dedentChars b.summary.toList := by
    rw [← toList_dedent, ← toList_dedent, hsummary]
  have hnone : a.members.isEmpty = b.members.isEmpty := by
    simpa using congrArg List.isEmpty hmembers
  rw [body, body, bodyChars, bodyChars, summaryChars, summaryChars, hattributes, hchars, hnone]

namespace SetAlike

variable {a b : ClassDoc} (h : SetAlike a b)

include h

theorem isUndocumented_eq : a.isUndocumented = b.isUndocumented := by
  rw [Bool.eq_iff_iff, isUndocumented_iff, isUndocumented_iff, h.summary, h.members]

theorem body_eq : body a = body b := body_congr h.summary h.members

end SetAlike

end SchemaDocs.Docstring
