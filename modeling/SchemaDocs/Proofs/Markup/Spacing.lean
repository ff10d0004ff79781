import SchemaDocs.Proofs.Text.Separator
import SchemaDocs.Proofs.Markup.Link
import SchemaDocs.Text.Blank
/-!
# Lines and spaces in front of them

What is known of the lines of a text, and of a text whose lines got a space in front.
-/

/-!
## Lines and line feeds

The lines of a text are what stands between its line feeds, but for carriage returns before them and
for the nothing behind a last line feed.  Where blanks at the ends of lines do not count, that is no
difference but for one empty line.
-/

namespace SchemaDocs.Text

theorem splitAt_cons_self (mark : Char) (s : List Char) :
    splitAt mark (mark :: s) = [] :: splitAt mark s := by
  rw [splitAt, if_pos rfl]

/-- The parts of a text that goes on are those of the rest, the first with one character more. -/
theorem exists_splitAt_cons {mark c : Char} (h : c ≠ mark) (s : List Char) :
    ∃ part more, splitAt mark s = part :: more ∧ splitAt mark (c :: s) = (c :: part) :: more := by
  obtain ⟨part, more, hparts⟩ := List.exists_cons_of_ne_nil (splitAt_ne_nil mark s)
  refine ⟨part, more, hparts, ?_⟩
  rw [splitAt, if_neg h, hparts]

theorem splitAt_concat_self (mark : Char) (s : List Char) :
    splitAt mark (s ++ [mark]) = splitAt mark s ++ [[]] := by
  rw [splitAt_append, splitAt]

/-- What was cut at line feeds is put together again. -/
theorem joinLines_splitAt (s : List Char) : joinLines (splitAt '\n' s) = s := by
  induction s with
  | nil => rfl
  | cons c cs ih =>
      by_cases hfeed : c = '\n'
      · subst c
        obtain ⟨part, more, hcs⟩ := List.exists_cons_of_ne_nil (splitAt_ne_nil '\n' cs)
        rw [splitAt_cons_self, hcs, joinLines, ← hcs, ih, List.nil_append]
        simp
      · obtain ⟨part, more, hcs, hsplit⟩ := exists_splitAt_cons hfeed cs
        rw [hcs] at ih
        rw [hsplit, ← ih]
        cases more <;> rfl

/-! ### Trimmed lines -/

theorem isBlank_of_getLast?_trimEnd {s : List Char} {c : Char}
    (h : (trimEnd s).getLast? = some c) : isBlank c = false := by
  induction s with
  | nil => simp at h
  | cons first rest ih =>
      rw [trimEnd] at h
      split at h
      · split at h
        · simp at h
        · rename_i hfirst
          rw [List.getLast?_singleton, Option.some.injEq] at h
          rwa [← h, ← Bool.not_eq_true]
      · rename_i d ds hrest
        apply ih
        rwa [hrest, ← List.getLast?_cons_cons]

theorem trimEnd_cons_congr {s t : List Char} (h : trimEnd s = trimEnd t) (c : Char) :
    trimEnd (c :: s) = trimEnd (c :: t) := by
  rw [trimEnd, trimEnd, h]

/-! ### Lines and parts between line feeds -/

/-- A text is blank if all of its lines are. -/
theorem allBlank_iff_splitAt (s : List Char) :
    allBlank s = true ↔ ∀ part ∈ splitAt '\n' s, allBlank part = true := by
  induction s with
  | nil => simp [splitAt, allBlank]
  | cons c cs ih =>
      have hcons : ∀ part, allBlank (c :: part) = true ↔ isBlank c = true ∧ allBlank part = true :=
        fun part => by simp [allBlank]
      by_cases hfeed : c = '\n'
      · subst c
        have hblank : isBlank '\n' = true := by decide
        rw [splitAt_cons_self, List.forall_mem_cons, hcons, ih]
        simp [hblank, allBlank]
      · obtain ⟨part, more, hcs, hsplit⟩ := exists_splitAt_cons hfeed cs
        rw [hcs, List.forall_mem_cons] at ih
        rw [hsplit, List.forall_mem_cons, hcons, hcons, ih, and_assoc]

theorem lines_eq_nil_iff {s : List Char} : lines s = [] ↔ s = [] := by
  fun_cases lines s <;> simp

/-- Without the blanks at their ends, the lines are what stands between the line feeds, but for an
empty line at the end. -/
theorem exists_map_trimEnd_splitAt (s : List Char) :
    ∃ rest, (rest = [] ∨ rest = [[]]) ∧
      (splitAt '\n' s).map trimEnd = (lines s).map trimEnd ++ rest := by
  fun_induction lines s with
  | case1 => exact ⟨[[]], .inr rfl, rfl⟩
  | case2 cs ih =>
      obtain ⟨rest, hrest, heq⟩ := ih
      refine ⟨rest, hrest, ?_⟩
      rw [splitAt_cons_self, List.map_cons, heq, List.map_cons, List.cons_append]
  | case3 cs ih =>
      obtain ⟨rest, hrest, heq⟩ := ih
      refine ⟨rest, hrest, ?_⟩
      have hbreak : splitAt '\n' ('\r' :: '\n' :: cs) = ['\r'] :: splitAt '\n' cs := by
        rw [splitAt, if_neg (by decide), splitAt_cons_self]
      have hblank : trimEnd ['\r'] = [] := by decide
      rw [hbreak, List.map_cons, heq, List.map_cons, List.cons_append, hblank, trimEnd_nil]
  | case4 c cs hfeed _ hlines _ =>
      obtain rfl := lines_eq_nil_iff.1 hlines
      refine ⟨[], .inl rfl, ?_⟩
      rw [splitAt, if_neg hfeed, splitAt]
      rfl
  | case5 c cs hfeed _ line more hlines ih =>
      obtain ⟨rest, hrest, heq⟩ := ih
      obtain ⟨part, others, hcs, hsplit⟩ := exists_splitAt_cons hfeed cs
      rw [hcs, hlines, List.map_cons, List.map_cons, List.cons_append] at heq
      obtain ⟨hfirst, hothers⟩ := List.cons.inj heq
      refine ⟨rest, hrest, ?_⟩
      rw [hsplit, List.map_cons, trimEnd_cons_congr hfirst, hothers, List.map_cons,
        List.cons_append]

end SchemaDocs.Text

/-!
## Spaces in front of lines

A text whose lines are to be read with one space in front has the same lines, the first with a space
and every later one with a space unless it is empty or begins with a carriage return.
-/

namespace SchemaDocs.Markup

open SchemaDocs.Text

/-- A line behind a line feed with a space in front, unless it begins with a break. -/
def spacedLine : List Char → List Char
  | [] => []
  | c :: cs => if c = '\r' then c :: cs else ' ' :: c :: cs

theorem splitAt_spaceLines {s first : List Char} {rest : List (List Char)}
    (h : splitAt '\n' s = first :: rest) (afterFeed : Bool) :
    splitAt '\n' (spaceLines afterFeed s) =
      (if afterFeed then spacedLine first else first) :: rest.map spacedLine := by
  induction s generalizing first rest afterFeed with
  | nil =>
      obtain ⟨rfl, rfl⟩ := List.cons.inj h
      cases afterFeed <;> rfl
  | cons c cs ih =>
      by_cases hfeed : c = '\n'
      · subst c
        rw [splitAt_cons_self] at h
        obtain ⟨rfl, rfl⟩ := List.cons.inj h
        obtain ⟨line, others, hcs⟩ := List.exists_cons_of_ne_nil (splitAt_ne_nil '\n' cs)
        have hspaced : spaceLines afterFeed ('\n' :: cs) = '\n' :: spaceLines true cs := by
          simp [spaceLines]
        rw [hspaced, splitAt_cons_self, ih hcs true, hcs, if_pos rfl, List.map_cons]
        cases afterFeed <;> rfl
      · obtain ⟨line, others, hcs, hsplit⟩ := exists_splitAt_cons hfeed cs
        rw [hsplit] at h
        obtain ⟨rfl, rfl⟩ := List.cons.inj h
        have hrest : splitAt '\n' (c :: spaceLines false cs) =
            (c :: line) :: others.map spacedLine := by
          rw [splitAt, if_neg hfeed, ih hcs false, if_neg Bool.false_ne_true]
        have hnone : (c = '\n' : Bool) = false := decide_eq_false hfeed
        rw [spaceLines, hnone]
        by_cases hspaced : (afterFeed && c != '\n' && c != '\r') = true
        · rw [if_pos hspaced, splitAt, if_neg (by decide), hrest]
          simp only [Bool.and_eq_true, bne_iff_ne, ne_eq] at hspaced
          rw [if_pos hspaced.1.1, spacedLine, if_neg hspaced.2]
        · rw [if_neg hspaced, hrest]
          cases afterFeed with
          | false => rw [if_neg Bool.false_ne_true]
          | true =>
              have hreturn : c = '\r' := by simpa [hfeed] using hspaced
              rw [if_pos rfl, spacedLine, if_pos hreturn]

/-- The lines of a text with spaces: the first has one more in any case. -/
theorem splitAt_spacedChars {s first : List Char} {rest : List (List Char)}
    (h : splitAt '\n' s = first :: rest) :
    splitAt '\n' (spacedChars s) = (' ' :: first) :: rest.map spacedLine := by
  rw [spacedChars, splitAt, if_neg (by decide), splitAt_spaceLines h false,
    if_neg Bool.false_ne_true]

/-!
### Runs of breaks

The spaces can also be put in run by run: behind each run of breaks and before the character that
follows it, if that is neither a line feed nor a carriage return.
-/

/-- The breaks at the head of a text, and the text after them.  A carriage return belongs to a break
only right before a line feed. -/
def leadingBreaks : List Char → List Char × List Char
  | '\n' :: cs => ('\n' :: (leadingBreaks cs).1, (leadingBreaks cs).2)
  | '\r' :: '\n' :: cs => ('\r' :: '\n' :: (leadingBreaks cs).1, (leadingBreaks cs).2)
  | cs => ([], cs)

theorem leadingBreaks_append (s : List Char) : (leadingBreaks s).1 ++ (leadingBreaks s).2 = s := by
  fun_induction leadingBreaks s with
  | case1 cs ih => rw [List.cons_append, ih]
  | case2 cs ih => rw [List.cons_append, List.cons_append, ih]
  | case3 cs => rfl

/-- A run of breaks with the character behind it: the same with a space between them, and the text
behind it. -/
def spacedRun? (s : List Char) : Option (List Char × List Char) :=
  match (leadingBreaks s).2 with
  | [] => none
  | c :: rest =>
    if (leadingBreaks s).1 = [] ∨ c = '\n' ∨ c = '\r' then none
    else some ((leadingBreaks s).1 ++ [' ', c], rest)

theorem spacedRun?_eq_some_iff {s out rest : List Char} :
    spacedRun? s = some (out, rest) ↔
      ∃ c, (leadingBreaks s).2 = c :: rest ∧ (leadingBreaks s).1 ≠ [] ∧
        (c ≠ '\n' ∧ c ≠ '\r') ∧ out = (leadingBreaks s).1 ++ [' ', c] := by
  rw [spacedRun?]
  cases (leadingBreaks s).2 with
  | nil => simp
  | cons d behind =>
      by_cases hnone : (leadingBreaks s).1 = [] ∨ d = '\n' ∨ d = '\r'
      · simp only [if_pos hnone, reduceCtorEq, List.cons.injEq, false_iff]
        rintro ⟨c, ⟨rfl, -⟩, hrun, hbreak, -⟩
        simp [hrun, hbreak] at hnone
      · simp only [if_neg hnone, Option.some.injEq, Prod.mk.injEq, List.cons.injEq]
        rw [not_or, not_or] at hnone
        constructor
        · rintro ⟨rfl, rfl⟩
          exact ⟨d, ⟨rfl, rfl⟩, hnone.1, hnone.2, rfl⟩
        · rintro ⟨c, ⟨rfl, rfl⟩, -, -, rfl⟩
          exact ⟨rfl, rfl⟩

/-- A run of breaks and the character behind it, to be parted by a space. -/
def breakPattern : Pattern where
  find? := spacedRun?
  shorter := by
    intro s out rest h
    obtain ⟨c, hbehind, -⟩ := spacedRun?_eq_some_iff.1 h
    rw [← leadingBreaks_append s, List.length_append, hbehind, List.length_cons]
    omega

/-- No space comes into a run of breaks. -/
theorem spaceLines_eq_append (afterFeed : Bool) (s : List Char) :
    spaceLines afterFeed s = (leadingBreaks s).1 ++
      spaceLines (afterFeed || !(leadingBreaks s).1.isEmpty) (leadingBreaks s).2 := by
  fun_induction leadingBreaks s generalizing afterFeed with
  | case1 cs ih => simp [spaceLines, ih]
  | case2 cs ih => simp [spaceLines, ih]
  | case3 cs => simp

/-- Where no character is to be spaced, it does not count what stands before. -/
theorem spaceLines_of_break {s : List Char} (h : ∀ c cs, s = c :: cs → c = '\n' ∨ c = '\r')
    (a b : Bool) : spaceLines a s = spaceLines b s := by
  cases s with
  | nil => rfl
  | cons c cs => rcases h c cs rfl with rfl | rfl <;> simp [spaceLines]

/-- To put in the spaces run by run is the same as line by line. -/
theorem replace_breakPattern (s : List Char) : breakPattern.replace s = spaceLines false s := by
  fun_induction Pattern.replace breakPattern s with
  | case1 => rfl
  | case2 c cs out rest hfound _ ih =>
      obtain ⟨d, hbehind, hrun, hbreak, rfl⟩ := spacedRun?_eq_some_iff.1 hfound
      rw [spaceLines_eq_append, hbehind, ih]
      simp [spaceLines, hrun, hbreak]
  | case3 c cs hnone ih =>
      rw [ih, spaceLines]
      by_cases hfeed : c = '\n'
      · subst c
        -- the run goes on in the rest, and nothing to be spaced stands behind it
        have hbehind : ∀ d ds, (leadingBreaks cs).2 = d :: ds → d = '\n' ∨ d = '\r' := by
          intro d ds hrest
          by_contra hspaced
          rw [not_or] at hspaced
          have hfound : breakPattern.find? ('\n' :: cs) = some (_, ds) :=
            spacedRun?_eq_some_iff.2 ⟨d, hrest, List.cons_ne_nil '\n' _, hspaced, rfl⟩
          simp [hnone] at hfound
        have hsame : spaceLines true cs = spaceLines false cs := by
          rw [spaceLines_eq_append true, spaceLines_eq_append false cs]
          exact congrArg _ (spaceLines_of_break hbehind _ _)
        simp [hsame]
      · simp [hfeed]

/-! ### Taking the spaces away -/

/-- A line without the space that it begins with, if it does. -/
def dropSpace : List Char → List Char
  | ' ' :: cs => cs
  | cs => cs

/-- A text of whose lines each one that begins with a space has lost it. -/
def takeSpaces (text : String) : String :=
  Text.onChars (fun s => joinLines ((splitAt '\n' s).map dropSpace)) text

theorem dropSpace_spacedLine (line : List Char) : dropSpace (spacedLine line) = line := by
  cases line with
  | nil => rfl
  | cons c cs =>
      rw [spacedLine]
      split
      · rename_i hreturn
        rw [hreturn]
        rfl
      · rfl

theorem takeSpaces_insertSpaces (text : String) : takeSpaces (insertSpaces text) = text := by
  obtain ⟨first, rest, hsplit⟩ := List.exists_cons_of_ne_nil (splitAt_ne_nil '\n' text.toList)
  have hrest : (rest.map spacedLine).map dropSpace = rest := by
    rw [List.map_map]
    exact List.map_id'' dropSpace_spacedLine rest
  rw [takeSpaces, insertSpaces, Text.onChars, Text.toList_onChars, splitAt_spacedChars hsplit,
    List.map_cons, hrest, dropSpace, ← hsplit, joinLines_splitAt, String.ofList_toList]

theorem spacedLine_eq (line : List Char) :
    spacedLine line = if line = [] ∨ line.head? = some '\r' then line else ' ' :: line := by
  cases line with
  | nil => rfl
  | cons c cs => simp [spacedLine]

/-- One space comes before the first line and before every later line that is neither empty nor
begins with a carriage return, whether the spaces are put in line by line or run by run.  A reader
who takes a space from each line that begins with one gets the text back, so that no two texts are
spaced alike. -/
theorem spaces_before_lines_are_taken_away :
    (∀ text : String, (insertSpaces text).toList = ' ' :: breakPattern.replace text.toList) ∧
      (∀ text : String, ∃ first rest, splitAt '\n' text.toList = first :: rest ∧
        splitAt '\n' (insertSpaces text).toList = (' ' :: first) :: rest.map fun line =>
          if line = [] ∨ line.head? = some '\r' then line else ' ' :: line) ∧
      (∀ text, takeSpaces (insertSpaces text) = text) ∧
      Function.Injective insertSpaces := by
  refine ⟨?_, ?_, takeSpaces_insertSpaces, Function.LeftInverse.injective takeSpaces_insertSpaces⟩
  · intro text
    rw [insertSpaces, Text.toList_onChars, spacedChars, replace_breakPattern]
  · intro text
    obtain ⟨first, rest, hsplit⟩ := List.exists_cons_of_ne_nil (splitAt_ne_nil '\n' text.toList)
    refine ⟨first, rest, hsplit, ?_⟩
    rw [insertSpaces, Text.toList_onChars, splitAt_spacedChars hsplit]
    exact congrArg (List.cons _) (List.map_congr_left fun line _ => spacedLine_eq line)

end SchemaDocs.Markup
