import SchemaDocs.Markup.Batch
import SchemaDocs.Proofs.Text.Separator
/-!
# Filling a batch and cutting it again

The text that a batch gives to its converter, and the pieces of the text that comes back.
-/

/-!
## Pieces of a converted text

The separator of a batch cannot overlap itself and holds no line feed.  What is known
of cutting at such a separator is carried over to the texts that a converter returns.
-/

namespace SchemaDocs.Batch

open SchemaDocs.Text

theorem token_toList : token.toList = ['$', '#', '!'] := rfl

theorem unbordered_token : Unbordered token.toList := by decide

theorem token_ne_nil : token.toList ≠ [] := unbordered_token.1

theorem feed_not_mem_token : '\n' ∉ token.toList := by decide

/-- Whether the separator occurs in a text. -/
def HoldsToken (text : String) : Prop := token.toList <:+: text.toList

instance (text : String) : Decidable (HoldsToken text) :=
  inferInstanceAs (Decidable (token.toList <:+: text.toList))

/-- The number of occurrences of the separator in a text. -/
def tokenCount (text : String) : Nat := occurrences token.toList text.toList

theorem tokenCount_eq_zero_iff {text : String} : tokenCount text = 0 ↔ ¬ HoldsToken text :=
  occurrences_eq_zero_iff unbordered_token

/-- A line feed at the end of a text makes no occurrence of the separator. -/
theorem tokenCount_append_feed (text : String) : tokenCount (text ++ "\n") = tokenCount text := by
  have hfeed : (text ++ "\n").toList = text.toList ++ ['\n'] := String.toList_append
  rw [tokenCount, hfeed, occurrences_concat token_ne_nil feed_not_mem_token, tokenCount]

theorem length_piecesOf (output : String) : (piecesOf output).length = tokenCount output + 1 := by
  rw [piecesOf, List.length_map, length_pieces unbordered_token, tokenCount]

theorem piecesOf_intercalate {parts : List String} (hne : parts ≠ []) :
    piecesOf (token.intercalate parts) = parts.flatMap piecesOf := by
  have hmap : parts.map String.toList ≠ [] := by simpa using hne
  rw [piecesOf, String.toList_intercalate, pieces_intercalate_flatMap unbordered_token hmap,
    List.flatMap_map, List.map_flatMap]
  rfl

/-- The pieces of an output are the only texts without the separator that it joins to the
output. -/
theorem piecesOf_eq_iff {output : String} {parts : List String} :
    piecesOf output = parts ↔
      parts ≠ [] ∧ token.intercalate parts = output ∧ ∀ part ∈ parts, ¬ HoldsToken part := by
  have hchars : piecesOf output = parts ↔
      pieces token.toList output.toList = parts.map String.toList := by
    constructor
    · rintro rfl
      simp [piecesOf, Function.comp_def]
    · intro h
      simp [piecesOf, h, Function.comp_def]
  rw [hchars, pieces_eq_iff unbordered_token, ← String.toList_intercalate, String.toList_inj]
  simp [HoldsToken]

end SchemaDocs.Batch

/-!
## Filling a batch

What a new batch holds after comments were submitted: a slot for each in order, and
the text of those that wait for conversion, with a separator between any two.
-/

namespace SchemaDocs.Batch

open SchemaDocs.Markup

/-- The slot of a comment whose links are replaced. -/
def slotOf (comment : String) : Slot :=
  if needsConversion comment then .waiting else .ready comment

/-- Those of some comments that wait for conversion. -/
def waiting (comments : List String) : List String := comments.filter needsConversion

/-- The text of waiting comments: every one after the first stands behind a line feed and the
separator. -/
def joined : List String → String
  | [] => ""
  | first :: rest => first ++ String.join (rest.map fun comment => "\n" ++ token ++ comment)

/-- The batch that holds some comments whose links are replaced. -/
def filled (settings : MarkupSettings) (comments : List String) : Batch :=
  ⟨settings, comments.map slotOf, joined (waiting comments), (waiting comments).length, false, 0⟩

/-! ### Submission -/

theorem joined_concat (comments : List String) (comment : String) :
    joined (comments ++ [comment]) =
      if comments = [] then joined comments ++ comment
      else joined comments ++ "\n" ++ token ++ comment := by
  cases comments with
  | nil => simp [joined]
  | cons first rest => simp [joined, String.append_assoc]

theorem waiting_concat (comments : List String) (comment : String) :
    waiting (comments ++ [comment]) =
      if needsConversion comment then waiting comments ++ [comment] else waiting comments := by
  rw [waiting, waiting, List.filter_append, List.filter_singleton]
  cases needsConversion comment
  · simp
  · simp

theorem extendText_filled (settings : MarkupSettings) (comments : List String)
    (comment : String) :
    (filled settings comments).extendText comment = joined (waiting comments ++ [comment]) := by
  rw [joined_concat]
  simp only [extendText, filled, List.length_eq_zero_iff]

/-- One submission adds one comment, with its links replaced. -/
theorem submit_filled (settings : MarkupSettings) (comments : List String) (comment : String) :
    (filled settings comments).submit comment =
      .ok (filled settings (comments ++ [replaceLinks settings.host comment])) := by
  have htext := extendText_filled settings comments (replaceLinks settings.host comment)
  have hwaiting := waiting_concat comments (replaceLinks settings.host comment)
  by_cases hneeds : needsConversion (replaceLinks settings.host comment)
  · rw [if_pos hneeds] at hwaiting
    rw [← hwaiting] at htext
    simp [submit, filled, hneeds, slotOf, hwaiting] at htext ⊢
    exact htext
  · rw [if_neg hneeds] at hwaiting
    simp [submit, filled, hneeds, slotOf, hwaiting]

theorem submitAll_filled (settings : MarkupSettings) (before comments : List String) :
    (filled settings before).submitAll comments =
      .ok (filled settings (before ++ comments.map (replaceLinks settings.host))) := by
  induction comments generalizing before with
  | nil => simp [submitAll]
  | cons comment comments ih =>
      rw [submitAll, submit_filled]
      dsimp only
      rw [ih, List.append_assoc, List.map_cons, List.singleton_append]

/-- A new batch takes every list of comments. -/
theorem submitAll_new (settings : MarkupSettings) (comments : List String) :
    (new settings).submitAll comments =
      .ok (filled settings (comments.map (replaceLinks settings.host))) :=
  submitAll_filled settings [] comments

/-! ### The text as a whole -/

/-- The parts that the separator stands between: every waiting comment but the last has a line
feed at its end. -/
def parts : List String → List String
  | [] => []
  | [last] => [last]
  | comment :: next :: rest => (comment ++ "\n") :: parts (next :: rest)

theorem parts_ne_nil {comments : List String} (h : comments ≠ []) : parts comments ≠ [] := by
  match comments, h with
  | [_], _ => simp [parts]
  | _ :: _ :: _, _ => simp [parts]

@[simp] theorem length_parts (comments : List String) :
    (parts comments).length = comments.length := by
  match comments with
  | [] => rfl
  | [_] => rfl
  | _ :: next :: rest => simp [parts, length_parts (next :: rest)]

theorem joined_eq_intercalate (comments : List String) :
    joined comments = token.intercalate (parts comments) := by
  match comments with
  | [] => simp [joined, parts]
  | [last] => simp [joined, parts]
  | comment :: next :: rest =>
      rw [parts, String.intercalate_cons_of_ne_nil (parts_ne_nil (List.cons_ne_nil next rest)),
        ← joined_eq_intercalate (next :: rest)]
      simp [joined, String.append_assoc]

theorem getElem?_parts (comments : List String) (k : Nat) :
    (parts comments)[k]? =
      comments[k]?.map fun comment =>
        if k + 1 < comments.length then comment ++ "\n" else comment := by
  match comments, k with
  | [], _ => simp [parts]
  | [last], 0 => simp [parts]
  | [last], k + 1 => simp [parts]
  | comment :: next :: rest, 0 => simp [parts]
  | comment :: next :: rest, k + 1 =>
      rw [parts, List.getElem?_cons_succ, getElem?_parts (next :: rest) k]
      simp

end SchemaDocs.Batch
