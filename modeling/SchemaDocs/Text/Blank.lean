/-!
# Blanks and lines

What counts as white space, and what counts as a line.
-/

/-!
## Blank characters

The characters that count as white space, and trimming by them.  A trimmed text
neither begins nor ends with a blank, and trimming removes blanks only.
-/

namespace SchemaDocs.Text

/-- Whether a code point lies in one of the inclusive ranges. -/
def inRanges (ranges : List (Nat × Nat)) (code : Nat) : Bool :=
  ranges.any fun range => range.1 ≤ code && code ≤ range.2

/-- The code points with the property White_Space. -/
def blankRanges : List (Nat × Nat) :=
  [(0x9, 0xD), (0x20, 0x20), (0x85, 0x85), (0xA0, 0xA0), (0x1680, 0x1680), (0x2000, 0x200A),
   (0x2028, 0x2029), (0x202F, 0x202F), (0x205F, 0x205F), (0x3000, 0x3000)]

/-- Whether a character is white space. -/
def isBlank (c : Char) : Bool := inRanges blankRanges c.toNat

/-- Drops the blanks at the start. -/
def trimStart (s : List Char) : List Char := s.dropWhile isBlank

/-- Drops the blanks at the end. -/
def trimEnd : List Char → List Char
  | [] => []
  | c :: cs =>
    match trimEnd cs with
    | [] => if isBlank c then [] else [c]
    | d :: ds => c :: d :: ds

/-- Drops the blanks at both ends. -/
def trim (s : List Char) : List Char := trimEnd (trimStart s)

/-- Whether a text holds nothing but blanks. -/
def allBlank (s : List Char) : Bool := s.all isBlank

/-! ### Small facts -/

theorem isBlank_of_isWhitespace {c : Char} (h : c.isWhitespace = true) : isBlank c = true := by
  have codes : c = ' ' ∨ c = '\t' ∨ c = '\r' ∨ c = '\n' := by
    simpa [Char.isWhitespace, or_assoc] using h
  rcases codes with rfl | rfl | rfl | rfl <;> rfl

@[simp] theorem trimEnd_nil : trimEnd [] = [] := rfl

theorem trimEnd_eq_nil_iff (s : List Char) : trimEnd s = [] ↔ allBlank s = true := by
  induction s with
  | nil => simp [allBlank]
  | cons c cs ih =>
    rw [trimEnd]
    split
    next h => simp_all [allBlank]
    next d ds h => simp_all [allBlank]

end SchemaDocs.Text

/-!
## Lines

Cutting a text at line feeds.  A carriage return right before a line feed belongs
to the break, and a text that ends in a break has no empty line after it.
-/

namespace SchemaDocs.Text

/-- The lines of a text, without their breaks. -/
def lines : List Char → List (List Char)
  | [] => []
  | '\n' :: cs => [] :: lines cs
  | '\r' :: '\n' :: cs => [] :: lines cs
  | c :: cs =>
    match lines cs with
    | [] => [[c]]
    | line :: rest => (c :: line) :: rest

/-- Lines put together with a line feed between any two. -/
def joinLines : List (List Char) → List Char
  | [] => []
  | [line] => line
  | line :: rest => line ++ '\n' :: joinLines rest

end SchemaDocs.Text
