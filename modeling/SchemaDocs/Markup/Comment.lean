import SchemaDocs.Text.Basic
/-!
# Comments as markup

Which comments have to be converted at all, how converted text is spaced to be written
back as a comment, and the links in comments.
-/

namespace SchemaDocs.Markup

/-- Whether a character can be the sign of markup. -/
def isTrigger (c : Char) : Bool :=
  c = '\x60' || c = '[' || c = ']' || c = '*' || c = '_'

/-- Whether a comment holds a sign of markup. -/
def needsConversion (comment : String) : Bool := comment.toList.any isTrigger

/-- Puts a space before every line that begins with a character other than a break.  The flag
tells whether a line feed stands right before. -/
def spaceLines (afterFeed : Bool) : List Char → List Char
  | [] => []
  | c :: cs =>
    let spaced := c :: spaceLines (c = '\n') cs
    if afterFeed && c != '\n' && c != '\r' then ' ' :: spaced else spaced

/-- The characters of a spaced text. -/
def spacedChars (s : List Char) : List Char := ' ' :: spaceLines false s

/-- A text whose first line, and every later line that is not empty, has one more space in front.
Readers of comments take one space away again. -/
def insertSpaces (comment : String) : String := Text.onChars spacedChars comment

end SchemaDocs.Markup

/-!
## Links

Links that mean nothing outside the documentation site.  A reference link
`[label][id]` becomes a literal of its label, and a link to a path of the site gets
the host in front of the path.  Both passes look from the left, and what one match
has taken no later match can use.
-/

namespace SchemaDocs.Markup

/-- What stands between an opening mark at the head of a text and the next closing mark, and
the text after it. -/
def enclosed? (opening closing : Char) : List Char → Option (List Char × List Char)
  | [] => none
  | c :: cs =>
    if c = opening then
      match cs.dropWhile (· != closing) with
      | [] => none
      | _ :: rest => some (cs.takeWhile (· != closing), rest)
    else none

theorem enclosed?_shorter {opening closing : Char} {s inner rest : List Char}
    (h : enclosed? opening closing s = some (inner, rest)) : rest.length < s.length := by
  cases s with
  | nil => simp [enclosed?] at h
  | cons c cs =>
    have bound : (cs.dropWhile (· != closing)).length ≤ cs.length :=
      List.Sublist.length_le (List.dropWhile_sublist _)
    simp only [enclosed?] at h
    split at h
    · split at h
      · contradiction
      next tail shape =>
        simp only [Option.some.injEq, Prod.mk.injEq] at h
        obtain ⟨-, rfl⟩ := h
        rw [shape] at bound
        simp only [List.length_cons] at bound ⊢
        omega
    · contradiction

/-- Whether a character may begin an identifier. -/
def isIdentifierStart (c : Char) : Bool := c.isAlpha || c = '_'

/-- Whether a character may stand in a dotted identifier after its beginning. -/
def isIdentifierRest (c : Char) : Bool := c.isAlphanum || c = '_' || c = '.'

/-- Whether a text is a dotted identifier or empty. -/
def isIdentifierOrEmpty : List Char → Bool
  | [] => true
  | c :: cs => isIdentifierStart c && cs.all isIdentifierRest

/-- A form that is looked for at the head of a text: what replaces it, and the text after it. -/
structure Pattern where
  find? : List Char → Option (List Char × List Char)
  shorter : ∀ {s out rest}, find? s = some (out, rest) → rest.length < s.length

/-- Replaces every match from the left. -/
def Pattern.replace (pattern : Pattern) (s : List Char) : List Char :=
  match s with
  | [] => []
  | c :: cs =>
    match h : pattern.find? (c :: cs) with
    | some (out, rest) =>
      have _less : rest.length < (c :: cs).length := pattern.shorter h
      out ++ pattern.replace rest
    | none => c :: pattern.replace cs
termination_by s.length
decreasing_by
  · exact _less
  · exact Nat.lt_succ_self cs.length

/-- The label and the text after a link `[label][id]`, whose `id` may be empty. -/
def reference? (s : List Char) : Option (List Char × List Char) :=
  match enclosed? '[' ']' s with
  | none => none
  | some (label, rest) =>
    match enclosed? '[' ']' rest with
    | none => none
    | some (id, rest) =>
      if !label.isEmpty && isIdentifierOrEmpty id then some (label, rest) else none

/-- The label, the path and the text after a link `[label](/path)`. -/
def rooted? (s : List Char) : Option (List Char × List Char × List Char) :=
  match enclosed? '[' ']' s with
  | none => none
  | some (label, rest) =>
    match enclosed? '(' ')' rest with
    | some ('/' :: c :: path, rest) =>
      if label.isEmpty then none else some (label, '/' :: c :: path, rest)
    | _ => none

theorem reference?_shorter {s label rest : List Char} (h : reference? s = some (label, rest)) :
    rest.length < s.length := by
  simp only [reference?] at h
  split at h
  · contradiction
  next after first =>
    split at h
    · contradiction
    next second =>
      split at h
      · simp only [Option.some.injEq, Prod.mk.injEq] at h
        obtain ⟨-, rfl⟩ := h
        exact Nat.lt_trans (enclosed?_shorter second) (enclosed?_shorter first)
      · contradiction

theorem rooted?_shorter {s label path rest : List Char}
    (h : rooted? s = some (label, path, rest)) : rest.length < s.length := by
  simp only [rooted?] at h
  split at h
  · contradiction
  next after first =>
    split at h
    next second =>
      split at h
      · contradiction
      · simp only [Option.some.injEq, Prod.mk.injEq] at h
        obtain ⟨-, -, rfl⟩ := h
        exact Nat.lt_trans (enclosed?_shorter second) (enclosed?_shorter first)
    · contradiction

/-- A reference link, to be replaced by the literal of its label. -/
def referencePattern : Pattern where
  find? s := (reference? s).map fun link => ('\x60' :: link.1 ++ ['\x60'], link.2)
  shorter h := by
    simp only [Option.map_eq_some_iff, Prod.mk.injEq] at h
    obtain ⟨link, found, -, rfl⟩ := h
    exact reference?_shorter found

/-- A link to a path of the site, to be given a host. -/
def rootedPattern (host : List Char) : Pattern where
  find? s := (rooted? s).map fun link =>
    ('[' :: link.1 ++ [']', '('] ++ host ++ link.2.1 ++ [')'], link.2.2)
  shorter h := by
    simp only [Option.map_eq_some_iff, Prod.mk.injEq] at h
    obtain ⟨link, found, -, rfl⟩ := h
    exact rooted?_shorter found

/-- Both passes over the characters of a comment. -/
def replaceLinkChars (host comment : List Char) : List Char :=
  (rootedPattern host).replace (referencePattern.replace comment)

/-- A comment with its reference links made literals and its links to the site made absolute. -/
def replaceLinks (host comment : String) : String :=
  Text.onChars (replaceLinkChars host.toList) comment

end SchemaDocs.Markup
