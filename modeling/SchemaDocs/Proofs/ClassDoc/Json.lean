import SchemaDocs.ClassDoc.Json
import SchemaDocs.Json.Reader
import Mathlib.Data.List.Basic
/-!
# Class documentation read back from JSON

A value made of strings, lists and objects has one compact text but for the escapes in its strings,
which JSON lets a writer choose.  The reader finds the value of each of these texts, and the compact
form is one of them, so that a document is read back as it was written, with all of its members in
their order.
-/

namespace SchemaDocs.Json

/-! ## Strings -/

/-- Whether a character cannot stand for itself between quotes. -/
def NeedsEscape (c : Char) : Prop := c = '"' ∨ c = '\\' ∨ c.toNat < 0x20

instance (c : Char) : Decidable (NeedsEscape c) :=
  inferInstanceAs (Decidable (c = '"' ∨ c = '\\' ∨ c.toNat < 0x20))

/-- The characters that have a letter for their escape, and their letters. -/
def letterEscapes : List (Char × Char) :=
  [('"', '"'), ('\\', '\\'), ('\x08', 'b'), ('\x0c', 'f'), ('\n', 'n'), ('\r', 'r'), ('\t', 't')]

/-- Whether a character is the hexadecimal digit of a number, in lower or in upper case. -/
def IsHexDigit (n : Nat) (digit : Char) : Prop :=
  n < 16 ∧ (digit = hexDigit n ∨ digit = (hexDigit n).toUpper)

/-- What may stand behind a backslash for a character: its letter, or its number in four digits,
of which the first two are zero for every character that needs an escape. -/
inductive EscapeOf (c : Char) : List Char → Prop
  | letter {letter : Char} (h : (c, letter) ∈ letterEscapes) : EscapeOf c [letter]
  | number {high low : Char} (hhigh : IsHexDigit (c.toNat / 16) high)
      (hlow : IsHexDigit (c.toNat % 16) low) : EscapeOf c ['u', '0', '0', high, low]

/-- The texts that stand for a string between its quotes.  What needs an escape has one, and all
else stands for itself. -/
inductive Spells : List Char → List Char → Prop
  | nil : Spells [] []
  | plain {c : Char} {s spelling : List Char} (hplain : ¬ NeedsEscape c) (h : Spells s spelling) :
      Spells (c :: s) (c :: spelling)
  | escape {c : Char} {escape s spelling : List Char} (hneeds : NeedsEscape c)
      (hescape : EscapeOf c escape) (h : Spells s spelling) :
      Spells (c :: s) ('\\' :: (escape ++ spelling))

theorem hexValue?_of_isHexDigit {n : Nat} {digit : Char} (h : IsHexDigit n digit) :
    hexValue? digit = some n := by
  have hall : ∀ n < 16,
      hexValue? (hexDigit n) = some n ∧ hexValue? (hexDigit n).toUpper = some n := by decide
  obtain ⟨hn, rfl | rfl⟩ := h
  · exact (hall n hn).1
  · exact (hall n hn).2

theorem unit?_number {n : Nat} {high low : Char} (hhigh : IsHexDigit (n / 16) high)
    (hlow : IsHexDigit (n % 16) low) (rest : List Char) :
    unit? ('0' :: '0' :: high :: low :: rest) = some (n, rest) := by
  have hzero : hexValue? '0' = some 0 := rfl
  have hvalue : ((0 * 16 + 0) * 16 + n / 16) * 16 + n % 16 = n := by omega
  simp only [unit?, hzero, hexValue?_of_isHexDigit hhigh, hexValue?_of_isHexDigit hlow,
    Option.bind_eq_bind, Option.bind_some, hvalue]

theorem escaped?_of_escapeOf {c : Char} {escape : List Char} (h : EscapeOf c escape)
    (rest : List Char) : escaped? (escape ++ rest) = some (c, rest) := by
  cases h with
  | letter hletter =>
      simp only [letterEscapes, List.mem_cons, Prod.mk.injEq, List.not_mem_nil, or_false] at hletter
      rcases hletter with ⟨rfl, rfl⟩ | ⟨rfl, rfl⟩ | ⟨rfl, rfl⟩ | ⟨rfl, rfl⟩ | ⟨rfl, rfl⟩ |
        ⟨rfl, rfl⟩ | ⟨rfl, rfl⟩ <;> rfl
  | number hhigh hlow =>
      -- a number of two digits is below all surrogates
      have hsmall : c.toNat / 16 < 16 := hhigh.1
      have hfirst : ¬ (0xD800 ≤ c.toNat ∧ c.toNat < 0xDC00) := by omega
      have hsecond : ¬ (0xDC00 ≤ c.toNat ∧ c.toNat < 0xE000) := by omega
      simp only [List.cons_append, List.nil_append, escaped?, unit?_number hhigh hlow,
        Option.bind_eq_bind, Option.bind_some, if_neg hfirst, if_neg hsecond, Char.ofNat_toNat]

theorem stringBody?_quote (rest : List Char) : stringBody? ('"' :: rest) = some ([], rest) := by
  rw [stringBody?, if_pos rfl]

theorem stringBody?_plain {c : Char} (h : ¬ NeedsEscape c) (rest : List Char) :
    stringBody? (c :: rest) = (stringBody? rest).map fun read => (c :: read.1, read.2) := by
  rw [NeedsEscape, not_or, not_or] at h
  rw [stringBody?, if_neg h.1, if_neg h.2.1, if_neg h.2.2]

theorem stringBody?_escape {c : Char} {s rest : List Char} (h : escaped? s = some (c, rest)) :
    stringBody? ('\\' :: s) = (stringBody? rest).map fun read => (c :: read.1, read.2) := by
  rw [stringBody?, if_neg (by decide), if_pos rfl]
  -- the reader keeps the equation of its escape, which a rewriting would have to change too
  split
  · rename_i found
    rw [h] at found
    cases found
    rfl
  · rename_i found
    rw [h] at found
    cases found

/-- However a string is spelled, the reader finds its characters. -/
theorem stringBody?_of_spells {s spelling : List Char} (h : Spells s spelling)
    (rest : List Char) : stringBody? (spelling ++ '"' :: rest) = some (s, rest) := by
  induction h with
  | nil => exact stringBody?_quote rest
  | plain hplain _ ih => rw [List.cons_append, stringBody?_plain hplain, ih, Option.map_some]
  | escape _ hescape _ ih =>
      rw [List.cons_append, List.append_assoc,
        stringBody?_escape (escaped?_of_escapeOf hescape _), ih, Option.map_some]

/-- The compact form escapes what needs it, and nothing else. -/
theorem escapeChar_cases (c : Char) :
    ¬ NeedsEscape c ∧ escapeChar c = [c] ∨
      NeedsEscape c ∧ ∃ escape, EscapeOf c escape ∧ escapeChar c = '\\' :: escape := by
  have hletters : ∀ entry ∈ letterEscapes,
      NeedsEscape entry.1 ∧ escapeChar entry.1 = ['\\', entry.2] := by decide
  by_cases hletter : c ∈ letterEscapes.map Prod.fst
  · obtain ⟨⟨_, letter⟩, hmem, rfl⟩ := List.mem_map.1 hletter
    obtain ⟨hneeds, hc⟩ := hletters _ hmem
    exact .inr ⟨hneeds, [letter], .letter hmem, hc⟩
  · have hother : escapeChar c =
        if c.toNat < 0x20 then
          ['\\', 'u', '0', '0', hexDigit (c.toNat / 16), hexDigit (c.toNat % 16)]
        else [c] := by
      simp only [letterEscapes, List.map_cons, List.map_nil, List.mem_cons, List.not_mem_nil,
        or_false, not_or] at hletter
      simp only [escapeChar, hletter, if_false]
    by_cases hcontrol : c.toNat < 0x20
    · rw [hother, if_pos hcontrol]
      exact .inr ⟨.inr (.inr hcontrol), _,
        .number ⟨by omega, .inl rfl⟩ ⟨by omega, .inl rfl⟩, rfl⟩
    · rw [hother, if_neg hcontrol]
      refine .inl ⟨?_, rfl⟩
      rintro (rfl | rfl | h)
      · exact hletter (by decide)
      · exact hletter (by decide)
      · exact hcontrol h

theorem spells_flatMap_escapeChar (s : List Char) : Spells s (s.flatMap escapeChar) := by
  induction s with
  | nil => exact .nil
  | cons c s ih =>
      rw [List.flatMap_cons]
      obtain ⟨hplain, hc⟩ | ⟨hneeds, escape, hescape, hc⟩ := escapeChar_cases c
      · rw [hc]
        exact .plain hplain ih
      · rw [hc]
        exact .escape hneeds hescape ih

/-! ## Texts of values -/

/-- A spelling between quotes. -/
def inQuotes (spelling : List Char) : List Char := '"' :: (spelling ++ ['"'])

/-- An entry of an object, with a spelling of its key and a text of its value. -/
structure EntryText where
  key : String
  spelling : List Char
  value : Json
  text : List Char

namespace EntryText

/-- The entry without its texts. -/
def entry (piece : EntryText) : String × Json := (piece.key, piece.value)

/-- The text of the entry. -/
def chars (piece : EntryText) : List Char := inQuotes piece.spelling ++ ':' :: piece.text

/-- An entry with the texts that the compact form has for it. -/
def compact (entry : String × Json) : EntryText :=
  ⟨entry.1, entry.1.toList.flatMap escapeChar, entry.2, entry.2.compactChars⟩

end EntryText

/-- The compact texts of a value made of strings, lists and objects, as documents are. -/
inductive Written : Json → List Char → Prop
  | string {text : String} {spelling : List Char} (h : Spells text.toList spelling) :
      Written (.string text) (inQuotes spelling)
  | array {pieces : List (Json × List Char)} (h : ∀ piece ∈ pieces, Written piece.1 piece.2) :
      Written (.array (pieces.map Prod.fst))
        ('[' :: ([','].intercalate (pieces.map Prod.snd) ++ [']']))
  | object {pieces : List EntryText}
      (hkeys : ∀ piece ∈ pieces, Spells piece.key.toList piece.spelling)
      (hvalues : ∀ piece ∈ pieces, Written piece.value piece.text) :
      Written (.object (pieces.map EntryText.entry))
        ('\x7b' :: ([','].intercalate (pieces.map EntryText.chars) ++ ['\x7d']))

/-- Whether a value may begin with a character. -/
def BeginsValue (c : Char) : Prop := c = '"' ∨ c = '[' ∨ c = '\x7b'

theorem Written.head {json : Json} {chars : List Char} (h : Written json chars) :
    ∃ c tail, chars = c :: tail ∧ BeginsValue c := by
  cases h with
  | string _ => exact ⟨_, _, rfl, .inl rfl⟩
  | array _ => exact ⟨_, _, rfl, .inr (.inl rfl)⟩
  | object _ _ => exact ⟨_, _, rfl, .inr (.inr rfl)⟩

theorem exists_intercalate_eq_cons (c : Char) (tail : List Char) (texts : List (List Char))
    (rest : List Char) :
    ∃ behind, [','].intercalate ((c :: tail) :: texts) ++ rest = c :: behind := by
  cases texts with
  | nil => exact ⟨tail ++ rest, by simp⟩
  | cons next more => exact ⟨_, by rw [List.intercalate_cons_cons]; rfl⟩

/-! ## Reading them -/

/-- The reader takes a text for a value and leaves what follows it, with one unit of fuel for each
character. -/
def Reads (json : Json) (chars : List Char) : Prop :=
  ∀ fuel rest, chars.length ≤ fuel → value? fuel (chars ++ rest) = some (json, rest)

theorem skipBlanks_cons {c : Char} (h : (c = ' ' || c = '\t' || c = '\n' || c = '\r') = false)
    (s : List Char) : skipBlanks (c :: s) = c :: s :=
  List.dropWhile_cons_of_neg (by simpa using h)

theorem value?_string (fuel : Nat) (s : List Char) :
    value? (fuel + 1) ('"' :: s) =
      (stringBody? s).map fun read => (.string (String.ofList read.1), read.2) := by
  simp only [value?, skipBlanks_cons (c := '"') rfl]

theorem value?_array {c : Char} (h : BeginsValue c) (fuel : Nat) (s : List Char) :
    value? (fuel + 1) ('[' :: c :: s) =
      (items? fuel (c :: s)).map fun read => (.array read.1, read.2) := by
  rcases h with rfl | rfl | rfl <;> simp [value?, skipBlanks]

theorem value?_object (fuel : Nat) (s : List Char) :
    value? (fuel + 1) ('\x7b' :: '"' :: s) =
      (entries? fuel ('"' :: s)).map fun read => (.object read.1, read.2) := by
  simp [value?, skipBlanks]

theorem reads_string {text : String} {spelling : List Char} (h : Spells text.toList spelling) :
    Reads (.string text) (inQuotes spelling) := by
  intro fuel rest hfuel
  rw [inQuotes, List.length_cons] at hfuel
  obtain ⟨fuel, rfl⟩ : ∃ less, fuel = less + 1 := ⟨fuel - 1, by omega⟩
  rw [inQuotes, List.cons_append, List.append_assoc, List.singleton_append, value?_string,
    stringBody?_of_spells h, Option.map_some, String.ofList_toList]

theorem items?_of_reads {pieces : List (Json × List Char)} (hsome : pieces ≠ [])
    (h : ∀ piece ∈ pieces, Reads piece.1 piece.2) (fuel : Nat)
    (hfuel : ([','].intercalate (pieces.map Prod.snd)).length ≤ fuel) (rest : List Char) :
    items? (fuel + 1) ([','].intercalate (pieces.map Prod.snd) ++ ']' :: rest) =
      some (pieces.map Prod.fst, rest) := by
  induction pieces generalizing fuel with
  | nil => exact absurd rfl hsome
  | cons piece pieces ih =>
      obtain ⟨hpiece, hpieces⟩ := List.forall_mem_cons.1 h
      cases pieces with
      | nil =>
          rw [List.map_singleton, List.intercalate_singleton] at hfuel ⊢
          rw [items?, hpiece fuel _ hfuel]
          rfl
      | cons next more =>
          rw [List.map_cons, List.map_cons, List.intercalate_cons_cons] at hfuel ⊢
          simp only [List.length_append, List.length_singleton] at hfuel
          -- the comma is the character for the call into the items behind it
          obtain ⟨fuel, rfl⟩ : ∃ less, fuel = less + 1 := ⟨fuel - 1, by omega⟩
          have hmore := ih (List.cons_ne_nil _ _) hpieces fuel (by rw [List.map_cons]; omega)
          rw [List.map_cons] at hmore
          rw [List.append_assoc, List.append_assoc, items?, hpiece _ _ (by omega)]
          simp only [List.singleton_append, skipBlanks_cons (c := ',') rfl, hmore,
            Option.map_some, List.map_cons]

theorem entries?_of_reads {pieces : List EntryText} (hsome : pieces ≠ [])
    (hkeys : ∀ piece ∈ pieces, Spells piece.key.toList piece.spelling)
    (hvalues : ∀ piece ∈ pieces, Reads piece.value piece.text) (fuel : Nat)
    (hfuel : ([','].intercalate (pieces.map EntryText.chars)).length ≤ fuel) (rest : List Char) :
    entries? (fuel + 1) ([','].intercalate (pieces.map EntryText.chars) ++ '\x7d' :: rest) =
      some (pieces.map EntryText.entry, rest) := by
  induction pieces generalizing fuel with
  | nil => exact absurd rfl hsome
  | cons piece pieces ih =>
      obtain ⟨hkey, hkeys⟩ := List.forall_mem_cons.1 hkeys
      obtain ⟨hvalue, hvalues⟩ := List.forall_mem_cons.1 hvalues
      have hquote : ∀ rest, skipBlanks (piece.chars ++ rest) =
          '"' :: (piece.spelling ++ '"' :: ':' :: (piece.text ++ rest)) := by
        intro rest
        simp [EntryText.chars, inQuotes, skipBlanks]
      have hlength : piece.text.length < piece.chars.length := by
        simp only [EntryText.chars, List.length_append, List.length_cons]
        omega
      cases pieces with
      | nil =>
          rw [List.map_singleton, List.intercalate_singleton] at hfuel ⊢
          rw [entries?, hquote]
          simp only [stringBody?_of_spells hkey, skipBlanks_cons (c := ':') rfl,
            hvalue fuel _ (by omega), skipBlanks_cons (c := '\x7d') rfl, String.ofList_toList]
          rfl
      | cons next more =>
          rw [List.map_cons, List.map_cons, List.intercalate_cons_cons] at hfuel ⊢
          simp only [List.length_append, List.length_singleton] at hfuel
          obtain ⟨fuel, rfl⟩ : ∃ less, fuel = less + 1 := ⟨fuel - 1, by omega⟩
          have hmore := ih (List.cons_ne_nil _ _) hkeys hvalues fuel
            (by rw [List.map_cons]; omega)
          rw [List.map_cons] at hmore
          rw [List.append_assoc, List.append_assoc, entries?, hquote]
          simp only [stringBody?_of_spells hkey, skipBlanks_cons (c := ':') rfl,
            hvalue _ _ (by omega : piece.text.length ≤ fuel + 1), List.singleton_append,
            skipBlanks_cons (c := ',') rfl, hmore, Option.map_some, String.ofList_toList,
            List.map_cons, EntryText.entry]

theorem reads_array {pieces : List (Json × List Char)}
    (hwritten : ∀ piece ∈ pieces, Written piece.1 piece.2)
    (h : ∀ piece ∈ pieces, Reads piece.1 piece.2) :
    Reads (.array (pieces.map Prod.fst))
      ('[' :: ([','].intercalate (pieces.map Prod.snd) ++ [']'])) := by
  intro fuel rest hfuel
  -- one unit is for the list and one for its first item, and the brackets are a character for each
  simp only [List.length_cons, List.length_append, List.length_nil] at hfuel
  obtain ⟨fuel, rfl⟩ : ∃ less, fuel = less + 2 := ⟨fuel - 2, by omega⟩
  rw [List.cons_append, List.append_assoc, List.singleton_append]
  cases pieces with
  | nil => rfl
  | cons piece pieces =>
      have hitems := items?_of_reads (List.cons_ne_nil _ _) h fuel (by omega) rest
      obtain ⟨c, tail, hpiece, hc⟩ := (hwritten piece List.mem_cons_self).head
      obtain ⟨behind, hfirst⟩ :=
        exists_intercalate_eq_cons c tail (pieces.map Prod.snd) (']' :: rest)
      rw [← hpiece, ← List.map_cons] at hfirst
      rw [hfirst] at hitems ⊢
      rw [value?_array hc, hitems, Option.map_some]

theorem reads_object {pieces : List EntryText}
    (hkeys : ∀ piece ∈ pieces, Spells piece.key.toList piece.spelling)
    (hvalues : ∀ piece ∈ pieces, Reads piece.value piece.text) :
    Reads (.object (pieces.map EntryText.entry))
      ('\x7b' :: ([','].intercalate (pieces.map EntryText.chars) ++ ['\x7d'])) := by
  intro fuel rest hfuel
  simp only [List.length_cons, List.length_append, List.length_nil] at hfuel
  obtain ⟨fuel, rfl⟩ : ∃ less, fuel = less + 2 := ⟨fuel - 2, by omega⟩
  rw [List.cons_append, List.append_assoc, List.singleton_append]
  cases pieces with
  | nil => rfl
  | cons piece pieces =>
      have hentries :=
        entries?_of_reads (List.cons_ne_nil _ _) hkeys hvalues fuel (by omega) rest
      obtain ⟨behind, hfirst⟩ :
          ∃ behind, [','].intercalate ((piece :: pieces).map EntryText.chars) ++ '\x7d' :: rest =
            '"' :: behind := exists_intercalate_eq_cons '"' _ (pieces.map EntryText.chars) _
      rw [hfirst] at hentries ⊢
      rw [value?_object, hentries, Option.map_some]

/-- The reader finds the value of each of its texts. -/
theorem reads_of_written {json : Json} {chars : List Char} (h : Written json chars) :
    Reads json chars := by
  induction h with
  | string hspells => exact reads_string hspells
  | array hwritten ih => exact reads_array hwritten ih
  | object hkeys _ ih => exact reads_object hkeys ih

theorem ofChars?_of_written {json : Json} {chars : List Char} (h : Written json chars) :
    ofChars? chars = some json := by
  have hvalue := reads_of_written h (chars.length + 1) [] (Nat.le_succ _)
  rw [List.append_nil] at hvalue
  rw [ofChars?, hvalue]
  rfl

/-! ## The compact form -/

theorem compactItems_eq_intercalate (items : List Json) :
    compactItems items = [','].intercalate (items.map compactChars) := by
  induction items with
  | nil => rfl
  | cons item items ih =>
      cases items with
      | nil => simp [compactItems]
      | cons next more => simp [compactItems, ih, List.intercalate_cons_cons]

theorem compactEntries_eq_intercalate (entries : List (String × Json)) :
    compactEntries entries =
      [','].intercalate (entries.map fun entry => (EntryText.compact entry).chars) := by
  induction entries with
  | nil => rfl
  | cons entry entries ih =>
      have hentry : (EntryText.compact entry).chars =
          stringChars entry.1 ++ ':' :: entry.2.compactChars := rfl
      cases entries with
      | nil => simp [compactEntries, hentry]
      | cons next more => simp [compactEntries, ih, hentry, List.intercalate_cons_cons]

theorem written_string (text : String) :
    Written (.string text) (Json.string text).compactChars := by
  rw [compactChars]
  exact .string (spells_flatMap_escapeChar text.toList)

/-- A list has its compact form among its texts if that is so of its items. -/
theorem written_array {items : List Json} (h : ∀ item ∈ items, Written item item.compactChars) :
    Written (.array items) (Json.array items).compactChars := by
  have hpieces : ∀ piece ∈ items.map fun item => (item, item.compactChars),
      Written piece.1 piece.2 := List.forall_mem_map.2 h
  simpa [compactChars, compactItems_eq_intercalate, Function.comp_def] using Written.array hpieces

/-- An object has its compact form among its texts if that is so of its values. -/
theorem written_object {entries : List (String × Json)}
    (h : ∀ entry ∈ entries, Written entry.2 entry.2.compactChars) :
    Written (.object entries) (Json.object entries).compactChars := by
  have hkeys : ∀ piece ∈ entries.map EntryText.compact,
      Spells piece.key.toList piece.spelling :=
    List.forall_mem_map.2 fun entry _ => spells_flatMap_escapeChar entry.1.toList
  have hvalues : ∀ piece ∈ entries.map EntryText.compact, Written piece.value piece.text :=
    List.forall_mem_map.2 h
  have hentries : (entries.map EntryText.compact).map EntryText.entry = entries := by
    rw [List.map_map]
    exact List.map_id entries
  have hobject := Written.object hkeys hvalues
  rw [hentries, List.map_map] at hobject
  rw [compactChars, compactEntries_eq_intercalate]
  exact hobject

end SchemaDocs.Json

namespace SchemaDocs.ClassDoc

/-! ## Documents -/

theorem membersOfJson?_map_toJson (members : List Member) :
    membersOfJson? (.array (members.map Member.toJson)) = some members := by
  rw [membersOfJson?]
  induction members with
  | nil => rfl
  | cons member members ih =>
      have hmember : Member.ofJson? member.toJson = some member := rfl
      rw [List.map_cons, List.mapM_cons, hmember, ih]
      rfl

theorem ofJson?_toJson (doc : ClassDoc) : ofJson? doc.toJson = some doc := by
  simp [toJson, ofJson?, Json.field?, textOfJson?, orDefault, membersOfJson?_map_toJson]

theorem written_toJson (doc : ClassDoc) :
    Json.Written doc.toJson doc.toJson.compactChars := by
  have hmember : ∀ member ∈ doc.members,
      Json.Written member.toJson member.toJson.compactChars :=
    fun member _ => Json.written_array (by simp [Json.written_string])
  have hmembers : Json.Written (.array (doc.members.map Member.toJson))
      (Json.array (doc.members.map Member.toJson)).compactChars :=
    Json.written_array (List.forall_mem_map.2 hmember)
  exact Json.written_object (by simp [Json.written_string, hmembers])

/-- The compact form of a document is a text of it, and from each of its texts the same document is
read, whichever escapes its quotes, backslashes and control characters have. -/
theorem documents_read_back_from_compact_text (doc : ClassDoc) :
    Json.Written doc.toJson doc.toJson.compact.toList ∧
      (∀ text, Json.Written doc.toJson text.toList →
        (Json.parse? text).bind ofJson? = some doc) ∧
      (Json.parse? doc.toJson.compact).bind ofJson? = some doc := by
  have hcompact : Json.Written doc.toJson doc.toJson.compact.toList := by
    rw [Json.compact, String.toList_ofList]
    exact doc.written_toJson
  have hread : ∀ text, Json.Written doc.toJson text.toList →
      (Json.parse? text).bind ofJson? = some doc := by
    intro text htext
    rw [Json.parse?, Json.ofChars?_of_written htext, Option.bind_some, ofJson?_toJson]
  exact ⟨hcompact, hread, hread _ hcompact⟩

/-- A document whose members have one name, in its compact form and in a text that has the numbers
of its quote and of its line feed for them. -/
theorem document_with_numbered_escapes_reads_back :
    let doc : ClassDoc := ⟨"pkg.Foo", "\"\n", [⟨"bar", "\\"⟩, ⟨"bar", "\x1f"⟩]⟩
    let text := "\x7b\"qualified_name\":\"pkg.Foo\",\"summary\":\"\\u0022\\u000A\"," ++
      "\"members\":[[\"bar\",\"\\\\\"],[\"bar\",\"\\u001f\"]]\x7d"
    doc.toJson.compact = "\x7b\"qualified_name\":\"pkg.Foo\",\"summary\":\"\\\"\\n\"," ++
        "\"members\":[[\"bar\",\"\\\\\"],[\"bar\",\"\\u001f\"]]\x7d" ∧
      (Json.parse? doc.toJson.compact).bind ofJson? = some doc ∧
      Json.Written doc.toJson text.toList ∧ (Json.parse? text).bind ofJson? = some doc := by
  intro doc text
  have hquote : Json.EscapeOf '"' ['u', '0', '0', '2', '2'] :=
    .number ⟨by decide, .inl rfl⟩ ⟨by decide, .inl rfl⟩
  have hfeed : Json.EscapeOf '\n' ['u', '0', '0', '0', 'A'] :=
    .number ⟨by decide, .inl rfl⟩ ⟨by decide, .inr rfl⟩
  have hsummary : Json.Spells doc.summary.toList
      ['\\', 'u', '0', '0', '2', '2', '\\', 'u', '0', '0', '0', 'A'] := by
    rw [show doc.summary.toList = ['"', '\n'] by decide]
    exact .escape (by decide) hquote (.escape (by decide) hfeed .nil)
  have hmembers : Json.Written (.array (doc.members.map Member.toJson))
      (Json.array (doc.members.map Member.toJson)).compactChars :=
    Json.written_array (by simp [doc, Member.toJson, Json.written_array, Json.written_string])
  let pieces : List Json.EntryText :=
    [.compact ("qualified_name", .string doc.name),
      { Json.EntryText.compact ("summary", .string doc.summary) with
        text := Json.inQuotes
          ['\\', 'u', '0', '0', '2', '2', '\\', 'u', '0', '0', '0', 'A'] },
      .compact ("members", .array (doc.members.map Member.toJson))]
  have htext : text.toList =
      '\x7b' :: ([','].intercalate (pieces.map Json.EntryText.chars) ++ ['\x7d']) := by
    decide +kernel
  have hkeys : ∀ piece ∈ pieces, Json.Spells piece.key.toList piece.spelling := by
    simp only [pieces, List.forall_mem_cons]
    exact ⟨Json.spells_flatMap_escapeChar _, Json.spells_flatMap_escapeChar _,
      Json.spells_flatMap_escapeChar _, fun _ h => absurd h List.not_mem_nil⟩
  have hvalues : ∀ piece ∈ pieces, Json.Written piece.value piece.text := by
    simp only [pieces, List.forall_mem_cons]
    exact ⟨Json.written_string doc.name, .string hsummary, hmembers,
      fun _ h => absurd h List.not_mem_nil⟩
  have hwritten : Json.Written doc.toJson text.toList := by
    rw [htext]
    exact .object hkeys hvalues
  obtain ⟨-, hread, hcompact⟩ := documents_read_back_from_compact_text doc
  exact ⟨by decide +kernel, hcompact, hwritten, hread text hwritten⟩

end SchemaDocs.ClassDoc
