/-!
# Text and its characters

The rules of this library are stated on lists of characters.  Here they are carried
over to strings.
-/

namespace SchemaDocs.Text

/-- A rule on characters, applied to a string. -/
def onChars (rule : List Char → List Char) (s : String) : String :=
  String.ofList (rule s.toList)

@[simp] theorem toList_onChars (rule : List Char → List Char) (s : String) :
    (onChars rule s).toList = rule s.toList :=
  String.toList_ofList

end SchemaDocs.Text

/-!
## Separated text

Cutting a text at every occurrence of a separator, and putting pieces together
with one.  Occurrences are found from the left and do not overlap.
-/

namespace SchemaDocs.Text

/-- What follows a given beginning, if the text has it. -/
def after? : List Char → List Char → Option (List Char)
  | [], s => some s
  | _ :: _, [] => none
  | t :: ts, c :: cs => if t = c then after? ts cs else none

theorem length_of_after? {token s rest : List Char} (h : after? token s = some rest) :
    s.length = token.length + rest.length := by
  induction token generalizing s with
  | nil => simp_all [after?]
  | cons t ts ih =>
    cases s with
    | nil => simp [after?] at h
    | cons c cs =>
      by_cases same : t = c
      · have tail : after? ts cs = some rest := by simpa [after?, same] using h
        have size := ih tail
        simp only [List.length_cons]
        omega
      · simp [after?, same] at h

theorem lt_length_of_after? {token s rest : List Char} (nonempty : token ≠ [])
    (h : after? token s = some rest) : rest.length < s.length := by
  have size := length_of_after? h
  have positive : 0 < token.length := List.length_pos_iff.mpr nonempty
  omega

/-- The pieces of a text between the occurrences of a separator.  An empty separator stands
before, between and after all characters. -/
def pieces (token s : List Char) : List (List Char) :=
  if empty : token = [] then [] :: s.map (fun c => [c]) ++ [[]]
  else
    match s with
    | [] => [[]]
    | c :: cs =>
      match h : after? token (c :: cs) with
      | some rest =>
        have _shorter : rest.length < (c :: cs).length := lt_length_of_after? empty h
        [] :: pieces token rest
      | none =>
        match pieces token cs with
        | [] => [[c]]
        | piece :: more => (c :: piece) :: more
termination_by s.length
decreasing_by
  · exact _shorter
  · exact Nat.lt_succ_self cs.length

/-- Replaces every occurrence of a text by another. -/
def replaceAll (old new s : List Char) : List Char :=
  new.intercalate (pieces old s)

/-- The parts of a text before and after the first occurrence of a character. -/
def cutAt? (mark : Char) : List Char → Option (List Char × List Char)
  | [] => none
  | c :: cs =>
    if c = mark then some ([], cs)
    else (cutAt? mark cs).map fun parts => (c :: parts.1, parts.2)

/-- The parts of a text between the occurrences of a character. -/
def splitAt (mark : Char) : List Char → List (List Char)
  | [] => [[]]
  | c :: cs =>
    if c = mark then [] :: splitAt mark cs
    else
      match splitAt mark cs with
      | [] => [[c]]
      | part :: more => (c :: part) :: more

end SchemaDocs.Text
