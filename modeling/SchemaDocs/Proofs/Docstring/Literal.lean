import SchemaDocs.Docstring.Basic
/-!
# Reading a literal

A triple-quoted literal is read one character after the other.  A backslash takes the next
character with it, and the first three quotes that no backslash took are the end.  Read in this
way, the literal of a body ends where it was ended, and stands for the body.
-/

namespace SchemaDocs.Docstring

/-- What a reader takes at a time: a character, or a backslash and the character after it. -/
inductive LiteralPart where
  | plain (c : Char)
  | escape (c : Char)
deriving DecidableEq

/-- The character that a part stands for.  Of the escapes only those of the backslash and of the
quote are known here. -/
def LiteralPart.meaning? : LiteralPart → Option Char
  | .plain c => some c
  | .escape c => if c = '\\' ∨ c = '"' then some c else none

/-- Reads up to the closing quotes.  The result is the parts before them, and the text behind. -/
def readParts : List Char → Option (List LiteralPart × List Char)
  | [] => none
  | ['\\'] => none
  | '\\' :: c :: rest => (readParts rest).map fun read => (.escape c :: read.1, read.2)
  | '"' :: '"' :: '"' :: rest => some ([], rest)
  | c :: rest => (readParts rest).map fun read => (.plain c :: read.1, read.2)

/-- Reads a literal from its opening quotes on. -/
def readLiteral? (s : List Char) : Option (List LiteralPart × List Char) :=
  (Text.after? tripleQuote s).bind readParts

/-! ## Single characters -/

/-- The part that a character of a body is written as. -/
def partOf (c : Char) : LiteralPart := if c = '\\' ∨ c = '"' then .escape c else .plain c

@[simp] theorem meaning?_partOf (c : Char) : (partOf c).meaning? = some c := by
  by_cases h : c = '\\' ∨ c = '"'
  · rw [partOf, if_pos h, LiteralPart.meaning?, if_pos h]
  · rw [partOf, if_neg h, LiteralPart.meaning?]

theorem escape_eq_partOf {c d : Char} (h : partOf c = .escape d) : d = '\\' ∨ d = '"' := by
  rw [partOf] at h
  split at h
  · rename_i hc
    rwa [LiteralPart.escape.inj h] at hc
  · simp at h

theorem readParts_plain {c : Char} (hslash : c ≠ '\\') (hquote : c ≠ '"') (s : List Char) :
    readParts (c :: s) = (readParts s).map fun read => (.plain c :: read.1, read.2) := by
  rw [readParts.eq_def]
  split <;> simp_all

theorem readParts_escapeLiteral (c : Char) (s : List Char) :
    readParts (escapeLiteral c ++ s) =
      (readParts s).map fun read => (partOf c :: read.1, read.2) := by
  by_cases hslash : c = '\\'
  · subst hslash
    simp [escapeLiteral, readParts, partOf]
  · by_cases hquote : c = '"'
    · subst hquote
      simp [escapeLiteral, readParts, partOf]
    · have hplain : escapeLiteral c = [c] := by simp [escapeLiteral, hslash, hquote]
      rw [hplain, List.singleton_append, readParts_plain hslash hquote, partOf,
        if_neg (by simp [hslash, hquote])]

/-! ## Whole bodies -/

/-- The escaped characters of a body hold no end, whatever runs of backslashes and quotes there
are. -/
theorem readParts_flatMap_escapeLiteral (body rest : List Char) :
    readParts (body.flatMap escapeLiteral ++ (tripleQuote ++ rest)) =
      some (body.map partOf, rest) := by
  induction body with
  | nil => rfl
  | cons c body ih =>
      rw [List.flatMap_cons, List.append_assoc, readParts_escapeLiteral, ih]
      rfl

/-- A body of several lines and a line feed behind it, and any other body as it is. -/
def terminated (body : List Char) : List Char :=
  if body.contains '\n' then body ++ ['\n'] else body

theorem literalChars_eq (body : List Char) :
    literalChars body =
      tripleQuote ++ ((terminated body).flatMap escapeLiteral ++ tripleQuote) := by
  have hfeed : escapeLiteral '\n' = ['\n'] := rfl
  rw [literalChars, terminated]
  split <;> simp [hfeed]

/-- A reader takes a literal and nothing of what follows, and finds the characters of the body. -/
theorem readLiteral?_literal (body : String) (rest : List Char) :
    readLiteral? ((literal body).toList ++ rest) =
      some ((terminated body.toList).map partOf, rest) := by
  have hopen : ∀ s, Text.after? tripleQuote (tripleQuote ++ s) = some s := fun _ => rfl
  rw [literal, Text.toList_onChars, literalChars_eq, List.append_assoc, List.append_assoc,
    readLiteral?, hopen, Option.bind_some, readParts_flatMap_escapeLiteral]

theorem terminated_injective {a b : List Char} (h : terminated a = terminated b) : a = b := by
  rw [terminated, terminated] at h
  split at h <;> split at h
  · exact List.append_cancel_right h
  · rename_i hb
    simp [← h] at hb
  · rename_i ha hb
    simp [h] at ha
  · exact h

theorem literal_injective {a b : String} (h : literal a = literal b) : a = b := by
  have hread := readLiteral?_literal a []
  rw [h, readLiteral?_literal b [], Option.some.injEq, Prod.mk.injEq] at hread
  have hmeaning := congrArg (List.map LiteralPart.meaning?) hread.1
  simp only [List.map_map, Function.comp_def, meaning?_partOf] at hmeaning
  have hchars := (List.map_inj_right fun _ _ => Option.some.inj).1 hmeaning
  exact String.toList_inj.1 (terminated_injective hchars.symm)

theorem classEntry_injective {a b : String} (h : classEntry a = classEntry b) : a = b := by
  have hchars := congrArg String.toList h
  simp only [classEntry, String.toList_append] at hchars
  have hliteral := List.append_cancel_left (List.append_cancel_right hchars)
  exact literal_injective (String.toList_inj.1 hliteral)

end SchemaDocs.Docstring
