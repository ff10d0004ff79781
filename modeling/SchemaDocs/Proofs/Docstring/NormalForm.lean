import SchemaDocs.Proofs.Docstring.Dedent
import SchemaDocs.Proofs.Text.Lines
import SchemaDocs.Text.Utf8
/-!
# The normal form of a text

The lines that a text is set in are settled: they have no blanks at their ends, begin and end with
a line that is not empty, and share no indentation.  Settled lines are set as they are, so that to
set a text twice is to set it once.
-/

namespace SchemaDocs.Docstring

open SchemaDocs.Text

/-! ## Settled lines -/

/-- Lines without blanks at their ends, of which the first and the last are not empty, and which
share no indentation. -/
structure Settled (lines : List (List Char)) : Prop where
  bare : ∀ line ∈ lines, Bare line
  first : lines.head? ≠ some []
  last : lines.getLast? ≠ some []
  flush : margin lines = 0

theorem dropEmptyEdges_eq_self {lines : List (List Char)} (hfirst : lines.head? ≠ some [])
    (hlast : lines.getLast? ≠ some []) : dropEmptyEdges lines = lines := by
  have hfront : lines.dropWhile List.isEmpty = lines := by
    cases lines with
    | nil => rfl
    | cons line rest =>
        refine List.dropWhile_cons_of_neg fun hempty => hfirst ?_
        rw [List.isEmpty_iff.1 hempty]
        rfl
  have hback : lines.rdropWhile List.isEmpty = lines := by
    rw [List.rdropWhile_eq_self_iff]
    intro hne hempty
    exact hlast (by rw [List.getLast?_eq_some_getLast hne, List.isEmpty_iff.1 hempty])
  rw [dropEmptyEdges, hfront]
  exact hback

namespace Settled

variable {ls : List (List Char)} (h : Settled ls)

include h

theorem lines_joinLines : lines (joinLines ls) = ls :=
  Text.lines_joinLines h.bare h.last

theorem map_trimEnd : ls.map trimEnd = ls := by
  conv_rhs => rw [← List.map_id ls]
  exact List.map_congr_left fun line hline => (h.bare line hline).trimmed

theorem contentLines_joinLines : contentLines (joinLines ls) = ls := by
  rw [contentLines, h.lines_joinLines, h.map_trimEnd, dropEmptyEdges_eq_self h.first h.last]

theorem dedentedLines_joinLines : dedentedLines (joinLines ls) = ls := by
  rw [dedentedLines, h.contentLines_joinLines]
  simp only [h.flush, List.drop_zero, List.map_id']

end Settled

theorem head?_contentLines_ne (s : List Char) : (contentLines s).head? ≠ some [] := by
  intro hfirst
  obtain ⟨rest, hcontent⟩ := List.head?_eq_some_iff.1 hfirst
  exact head_dropEmptyEdges_ne_nil hcontent rfl

theorem mem_contentLines {s line : List Char} (h : line ∈ contentLines s) :
    ∃ raw ∈ lines s, trimEnd raw = line :=
  List.mem_map.1 (mem_of_mem_dropEmptyEdges h)

theorem margin_map_drop (s : List Char) :
    margin ((contentLines s).map (List.drop (margin (contentLines s)))) = 0 := by
  by_cases hnone : contentLines s = []
  · rw [hnone]
    rfl
  · obtain ⟨first, rest, hcontent⟩ := List.exists_cons_of_ne_nil hnone
    have hsome : ∃ line ∈ contentLines s, line ≠ [] :=
      ⟨first, by rw [hcontent]; exact List.mem_cons_self, head_dropEmptyEdges_ne_nil hcontent⟩
    obtain ⟨⟨line, hline, hne, hwidth⟩, -⟩ := (margin_eq_iff hsome).1 rfl
    obtain ⟨hlength, hindent, hbehind⟩ := margin_cuts_line hline hne
    have hkept := List.mem_map_of_mem (f := List.drop (margin (contentLines s))) hline
    refine (margin_eq_iff ⟨_, hkept, hbehind⟩).2
      ⟨⟨_, hkept, hbehind, ?_⟩, fun _ _ _ => Nat.zero_le _⟩
    -- the line that has the least indentation begins right behind it
    have hsum := indentWidth_append hindent (line.drop (margin (contentLines s)))
    rw [List.take_append_drop, hwidth, hlength] at hsum
    omega

/-- The lines that a text is set in are settled. -/
theorem settled_dedentedLines (s : List Char) : Settled (dedentedLines s) where
  bare := by
    intro kept hkept
    obtain ⟨line, hline, rfl⟩ := List.mem_map.1 hkept
    obtain ⟨raw, hraw, rfl⟩ := mem_contentLines hline
    constructor
    · intro hfeed
      exact feed_not_mem_of_mem_lines hraw
        ((trimEnd_isPrefix raw).subset (List.mem_of_mem_drop hfeed))
    · rw [trimEnd_eq_self_iff]
      intro c hc
      rw [List.getLast?_drop] at hc
      split at hc
      · cases hc
      · exact isBlank_of_getLast?_trimEnd hc
  first := by
    intro hfirst
    rw [dedentedLines, List.head?_map, Option.map_eq_some_iff] at hfirst
    obtain ⟨line, hline, hempty⟩ := hfirst
    have hne : line ≠ [] := by
      rintro rfl
      exact head?_contentLines_ne s hline
    exact (margin_cuts_line (List.mem_of_mem_head? hline) hne).2.2 hempty
  last := by
    intro hlast
    rw [dedentedLines, List.getLast?_map, Option.map_eq_some_iff] at hlast
    obtain ⟨line, hline, hempty⟩ := hlast
    have hne : line ≠ [] := by
      rintro rfl
      exact getLast?_dropEmptyEdges_ne _ hline
    exact (margin_cuts_line (List.mem_of_getLast? hline) hne).2.2 hempty
  flush := margin_map_drop s

theorem lines_dedentChars (s : List Char) : lines (dedentChars s) = dedentedLines s :=
  (settled_dedentedLines s).lines_joinLines

theorem dedentChars_dedentChars (s : List Char) : dedentChars (dedentChars s) = dedentChars s :=
  congrArg joinLines (settled_dedentedLines s).dedentedLines_joinLines

/-! ## What does not count -/

/-- A way to cut a text in lines: a carriage return before a line feed may belong to the break or to
the line, and there may or may not be an empty line behind the last break. -/
def CutsLines (cut : List Char → List (List Char)) : Prop := cut = lines ∨ cut = splitAt '\n'

/-- A line, and the same with blanks at its end. -/
def LongerByBlanks (line longer : List Char) : Prop :=
  ∃ blanks, allBlank blanks = true ∧ longer = line ++ blanks

theorem map_trimEnd_of_blank_ends {ls longer : List (List Char)}
    (h : List.Forall₂ LongerByBlanks ls longer) : longer.map trimEnd = ls.map trimEnd := by
  induction h with
  | nil => rfl
  | cons hline _ ih =>
      obtain ⟨blanks, hblank, rfl⟩ := hline
      rw [List.map_cons, List.map_cons, trimEnd_append_blank _ hblank, ih]

theorem exists_dropEmptyEdges_eq (lines : List (List Char)) :
    ∃ before after, lines = before ++ dropEmptyEdges lines ++ after ∧
      (∀ line ∈ before, line = []) ∧ ∀ line ∈ after, line = [] := by
  refine ⟨lines.takeWhile List.isEmpty, (lines.dropWhile List.isEmpty).rtakeWhile List.isEmpty,
    ?_, ?_, ?_⟩
  · have hback : dropEmptyEdges lines ++ (lines.dropWhile List.isEmpty).rtakeWhile List.isEmpty =
        lines.dropWhile List.isEmpty := List.rdropWhile_append_rtakeWhile
    rw [List.append_assoc, hback, List.takeWhile_append_dropWhile]
  · exact fun line hline => List.isEmpty_iff.1 (List.mem_takeWhile_imp hline)
  · exact fun line hline => List.isEmpty_iff.1 (List.mem_rtakeWhile_imp hline)

section

variable {cut : List Char → List (List Char)} (hcut : CutsLines cut) {s t : List Char}

include hcut

theorem contentLines_eq_of_cut (s : List Char) :
    contentLines s = dropEmptyEdges ((cut s).map trimEnd) := by
  rcases hcut with rfl | rfl
  · rfl
  · exact contentLines_eq s

theorem dedentChars_of_blank_lines {before after : List (List Char)}
    (hblank : ∀ line ∈ before ++ after, allBlank line = true)
    (h : cut t = before ++ cut s ++ after) : dedentChars t = dedentChars s := by
  have hempty : ∀ line ∈ (before ++ after).map trimEnd, line = [] := by
    rw [List.forall_mem_map]
    exact fun line hline => (trimEnd_eq_nil_iff line).2 (hblank line hline)
  rw [List.map_append, List.forall_mem_append] at hempty
  apply dedentChars_congr
  rw [contentLines_eq_of_cut hcut, h, List.map_append, List.map_append,
    dropEmptyEdges_append hempty.1 hempty.2, contentLines_eq_of_cut hcut]

theorem dedentChars_of_blank_ends
    (h : List.Forall₂ LongerByBlanks (cut s) (cut t)) : dedentChars t = dedentChars s := by
  apply dedentChars_congr
  rw [contentLines_eq_of_cut hcut, map_trimEnd_of_blank_ends h, contentLines_eq_of_cut hcut]

theorem dedentChars_of_front {front : List Char} (hfront : ∀ c ∈ front, isIndent c = true)
    (h : cut t = (cut s).map (front ++ ·)) : dedentChars t = dedentChars s := by
  apply dedentChars_of_indented hfront
  rw [contentLines_eq_of_cut hcut, contentLines_eq_of_cut hcut, h, ← dropEmptyEdges_map_indented,
    List.map_map, List.map_map]
  exact congrArg dropEmptyEdges
    (List.map_congr_left fun line _ => trimEnd_append_indent hfront line)

/-- The lines that count are those from the first to the last that is not blank, without the blanks
at their ends. -/
theorem exists_contentLines_eq (s : List Char) :
    ∃ before middle after, cut s = before ++ middle ++ after ∧
      (∀ line ∈ before ++ after, allBlank line = true) ∧ contentLines s = middle.map trimEnd := by
  obtain ⟨before, after, hlines, hbefore, hafter⟩ := exists_dropEmptyEdges_eq ((cut s).map trimEnd)
  obtain ⟨front, rear, hcuts, hfront, rfl⟩ := List.map_eq_append_iff.1 hlines
  obtain ⟨first, middle, rfl, rfl, hmiddle⟩ := List.map_eq_append_iff.1 hfront
  rw [List.forall_mem_map] at hbefore hafter
  refine ⟨first, middle, rear, hcuts, ?_, ?_⟩
  · rw [List.forall_mem_append]
    exact ⟨fun line hline => (trimEnd_eq_nil_iff line).1 (hbefore line hline),
      fun line hline => (trimEnd_eq_nil_iff line).1 (hafter line hline)⟩
  · rw [contentLines_eq_of_cut hcut, hmiddle]

end

/-! ## Bytes -/

/-- A line begins with as much indentation as a width says and goes on behind it, in its bytes as in
its characters. -/
structure IndentedBy (width : Nat) (line : List Char) : Prop where
  full : (line.take width).length = width
  indent : ∀ c ∈ line.take width, isIndent c = true
  more : line.drop width ≠ []
  bytes : (toUtf8 (String.ofList line)).drop width = toUtf8 (String.ofList (line.drop width))

theorem toUtf8_ofList (line : List Char) :
    toUtf8 (String.ofList line) = line.flatMap String.utf8EncodeChar := by
  rw [toUtf8, String.toUTF8, String.toByteArray_ofList, List.utf8Encode]
  simp

theorem length_toUtf8_indent {front : List Char} (h : ∀ c ∈ front, isIndent c = true) :
    (toUtf8 (String.ofList front)).length = front.length := by
  have hone : ∀ c ∈ front, (String.utf8EncodeChar c).length = 1 := by
    intro c hc
    have hcases : c = ' ' ∨ c = '\t' := by simpa [isIndent] using h c hc
    rcases hcases with rfl | rfl <;> rfl
  rw [toUtf8_ofList, List.length_flatMap, List.map_congr_left hone, List.map_const',
    List.sum_replicate_nat, Nat.mul_one]

/-- The characters that a width takes from a line are as many bytes. -/
theorem drop_toUtf8_indent {line : List Char} {width : Nat}
    (hfull : (line.take width).length = width)
    (h : ∀ c ∈ line.take width, isIndent c = true) :
    (toUtf8 (String.ofList line)).drop width = toUtf8 (String.ofList (line.drop width)) := by
  have hparts : toUtf8 (String.ofList line) =
      toUtf8 (String.ofList (line.take width)) ++ toUtf8 (String.ofList (line.drop width)) := by
    rw [toUtf8_ofList, toUtf8_ofList, toUtf8_ofList, ← List.flatMap_append, List.take_append_drop]
  rw [hparts, List.drop_left' ((length_toUtf8_indent h).trans hfull)]

theorem indentedBy_margin {s line : List Char} (h : line ∈ contentLines s) (hne : line ≠ []) :
    IndentedBy (margin (contentLines s)) line := by
  obtain ⟨hfull, hindent, hmore⟩ := margin_cuts_line h hne
  exact ⟨hfull, hindent, hmore, drop_toUtf8_indent hfull hindent⟩

/-! ## The normal form -/

/-- There are lines, and neither the first nor the last is blank. -/
structure FullEdges (ls : List (List Char)) : Prop where
  nonempty : ls ≠ []
  first : ∀ line ∈ ls.head?, allBlank line = false
  last : ∀ line ∈ ls.getLast?, allBlank line = false

theorem allBlank_eq_false_iff {line : List Char} : allBlank line = false ↔ trimEnd line ≠ [] := by
  rw [Ne, trimEnd_eq_nil_iff, Bool.not_eq_true]

theorem fullEdges_of_map_trimEnd {ls : List (List Char)} (hsome : ls ≠ [])
    (hfirst : (ls.map trimEnd).head? ≠ some []) (hlast : (ls.map trimEnd).getLast? ≠ some []) :
    FullEdges ls where
  nonempty := hsome
  first := by
    intro line hline
    refine allBlank_eq_false_iff.2 fun hnil => hfirst ?_
    rw [List.head?_map, hline, Option.map_some, hnil]
  last := by
    intro line hline
    refine allBlank_eq_false_iff.2 fun hnil => hlast ?_
    rw [List.getLast?_map, hline, Option.map_some, hnil]

theorem contentLines_ne_nil {s : List Char} (h : allBlank s = false) : contentLines s ≠ [] := by
  rw [Ne, contentLines_eq_nil_iff, h]
  exact Bool.false_ne_true

/-- A text that is not blank is set in lines that are its own, from the first to the last that is
not blank.  Only the blanks at their ends and one width of indentation are taken from them. -/
theorem exists_dedentedLines_eq {cut : List Char → List (List Char)} (hcut : CutsLines cut)
    {s : List Char} (hfull : allBlank s = false) :
    ∃ before middle after, cut s = before ++ middle ++ after ∧
      (∀ line ∈ before ++ after, allBlank line = true) ∧ FullEdges middle ∧
      dedentedLines s = middle.map (fun line =>
        if allBlank line then [] else (trimEnd line).drop (margin (contentLines s))) ∧
      ∀ line ∈ middle, allBlank line = false →
        IndentedBy (margin (contentLines s)) (trimEnd line) := by
  obtain ⟨before, middle, after, hlines, hblank, hcontent⟩ := exists_contentLines_eq hcut s
  refine ⟨before, middle, after, hlines, hblank, ?_, ?_, ?_⟩
  · apply fullEdges_of_map_trimEnd
    · rintro rfl
      exact contentLines_ne_nil hfull hcontent
    · rw [← hcontent]
      exact head?_contentLines_ne s
    · rw [← hcontent]
      exact getLast?_dropEmptyEdges_ne _
  · rw [dedentedLines, hcontent, List.map_map]
    refine List.map_congr_left fun line _ => ?_
    rw [Function.comp_apply]
    split
    · rename_i hempty
      rw [(trimEnd_eq_nil_iff line).2 hempty, List.drop_nil]
    · rfl
  · intro line hline hne
    apply indentedBy_margin
    · rw [hcontent]
      exact List.mem_map_of_mem hline
    · exact allBlank_eq_false_iff.1 hne

theorem dedentedLines_ne_nil {s : List Char} (h : allBlank s = false) : dedentedLines s ≠ [] :=
  fun hnone => contentLines_ne_nil h (List.map_eq_nil_iff.1 hnone)

theorem fullEdges_dedentedLines {s : List Char} (h : allBlank s = false) :
    FullEdges (dedentedLines s) := by
  have hsettled := settled_dedentedLines s
  apply fullEdges_of_map_trimEnd (dedentedLines_ne_nil h)
  · rw [hsettled.map_trimEnd]
    exact hsettled.first
  · rw [hsettled.map_trimEnd]
    exact hsettled.last

/-- One of the lines begins without indentation. -/
theorem Settled.exists_flush {ls : List (List Char)} (h : Settled ls) (hsome : ls ≠ []) :
    ∃ line ∈ ls, allBlank line = false ∧ ∀ c ∈ line.head?, isIndent c = false := by
  obtain ⟨first, rest, rfl⟩ := List.exists_cons_of_ne_nil hsome
  have hfirst : first ≠ [] := by
    rintro rfl
    exact h.first rfl
  obtain ⟨⟨line, hline, hne, hwidth⟩, -⟩ :=
    (margin_eq_iff ⟨first, List.mem_cons_self, hfirst⟩).1 h.flush
  refine ⟨line, hline, allBlank_eq_false_iff.2 ?_, fun c hc => ?_⟩
  · rwa [(h.bare line hline).trimmed]
  · obtain ⟨more, rfl⟩ := List.head?_eq_some_iff.1 hc
    by_contra hindent
    rw [indentWidth, List.takeWhile_cons_of_pos (Bool.not_eq_false _ ▸ hindent)] at hwidth
    cases hwidth

/-- A text is set in a normal form.  To set it again changes nothing, and neither does the same
indentation in front of all its lines, a blank line before or behind them, or a blank at the end of
one.  Nothing is left only of a blank text.  Of any other text all lines are left from the first to
the last that is not blank, less the blanks at their ends and one width of indentation. -/
theorem dedent_is_normal_form (text : String) :
    dedent (dedent text) = dedent text ∧
    (∀ cut, CutsLines cut → ∀ other : String,
      (∀ front, (∀ c ∈ front, isIndent c = true) →
        cut other.toList = (cut text.toList).map (front ++ ·) → dedent other = dedent text) ∧
      (∀ before after, (∀ line ∈ before ++ after, allBlank line = true) →
        cut other.toList = before ++ cut text.toList ++ after → dedent other = dedent text) ∧
      (List.Forall₂ LongerByBlanks (cut text.toList) (cut other.toList) →
        dedent other = dedent text)) ∧
    (dedent text = "" ↔ allBlank text.toList = true) ∧
    (allBlank text.toList = false →
      ∃ set, (dedent text).toList = joinLines set ∧ lines (dedent text).toList = set ∧
        FullEdges set ∧
        (∀ line ∈ set, ∀ c ∈ line.getLast?, isBlank c = false) ∧
        (∃ line ∈ set, allBlank line = false ∧ ∀ c ∈ line.head?, isIndent c = false) ∧
        ∃ width, ∀ cut, CutsLines cut → ∃ before middle after,
          cut text.toList = before ++ middle ++ after ∧
          (∀ line ∈ before ++ after, allBlank line = true) ∧ FullEdges middle ∧
          set = middle.map (fun line =>
            if allBlank line then [] else (trimEnd line).drop width) ∧
          ∀ line ∈ middle, allBlank line = false → IndentedBy width (trimEnd line)) := by
  refine ⟨?_, fun cut hcut other => ⟨?_, ?_, ?_⟩, dedent_eq_empty_iff text, fun hfull => ?_⟩
  · rw [← String.toList_inj, toList_dedent, toList_dedent, dedentChars_dedentChars]
  · intro front hfront h
    rw [← String.toList_inj, toList_dedent, toList_dedent, dedentChars_of_front hcut hfront h]
  · intro before after hblank h
    rw [← String.toList_inj, toList_dedent, toList_dedent, dedentChars_of_blank_lines hcut hblank h]
  · intro h
    rw [← String.toList_inj, toList_dedent, toList_dedent, dedentChars_of_blank_ends hcut h]
  · have hsettled := settled_dedentedLines text.toList
    have hset := toList_dedent text
    refine ⟨dedentedLines text.toList, hset, ?_, fullEdges_dedentedLines hfull, ?_,
      hsettled.exists_flush (dedentedLines_ne_nil hfull), margin (contentLines text.toList),
      fun cut hcut => exists_dedentedLines_eq hcut hfull⟩
    · rw [hset, lines_dedentChars]
    · exact fun line hline => trimEnd_eq_self_iff.1 (hsettled.bare line hline).trimmed

/-- A text with tabs among its spaces, a blank line in the middle and breaks of two characters; then
the same text further in, between blank lines, and with blanks at the ends of its lines. -/
theorem tabs_spaces_and_breaks_set_alike :
    let text := "\n \t \tOne \r\n\t\r\n \t\tTwo é\u00a0\n"
    let further := "\t\n\t \t \tOne \r\n\t\t\r\n\t \t\tTwo é\u00a0\n"
    let between := " \n\n \t \tOne \r\n\t\r\n \t\tTwo é\u00a0\n\r\n\u2003"
    let trailing := "\u3000\n \t \tOne \t\r\n\t\r\n \t\tTwo é\u00a0 \r\n"
    dedent text = "\tOne\n\nTwo é" ∧ dedent (dedent text) = dedent text ∧
      dedent further = dedent text ∧ dedent between = dedent text ∧
      dedent trailing = dedent text := by
  intro text further between trailing
  obtain ⟨hagain, halike, -, -⟩ := dedent_is_normal_form text
  have hlines : CutsLines lines := Or.inl rfl
  refine ⟨by decide, hagain, ?_, ?_, ?_⟩
  · exact (halike lines hlines further).1 ['\t'] (List.forall_mem_singleton.2 rfl) (by decide)
  · exact (halike lines hlines between).2.1 [[' ']] [[], ['\u2003']] (by decide) (by decide)
  · have htext : lines text.toList = ["".toList, " \t \tOne ".toList, "\t".toList,
      " \t\tTwo é\u00a0".toList] := by decide
    have htrailing : lines trailing.toList = ["\u3000".toList, " \t \tOne \t".toList, "\t".toList,
      " \t\tTwo é\u00a0 ".toList] := by decide
    apply (halike lines hlines trailing).2.2
    rw [htext, htrailing]
    exact .cons ⟨['\u3000'], by decide, rfl⟩ (.cons ⟨['\t'], by decide, rfl⟩
      (.cons ⟨[], by decide, rfl⟩ (.cons ⟨[' '], by decide, rfl⟩ .nil)))

end SchemaDocs.Docstring
