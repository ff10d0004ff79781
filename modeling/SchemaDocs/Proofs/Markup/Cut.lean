import SchemaDocs.Proofs.Markup.Link
/-!
# Texts cut at their links

What a pass over a text does to its links, said without going through the text.  Every text can be
cut in exactly one way into links and gaps such that no link begins in a gap, and a pass copies the
gaps and replaces the links between them.
-/

namespace SchemaDocs.Markup

/-! ## Cuts -/

/-- A text in parts: each link with the gap before it, and the gap behind the last link. -/
inductive Cut (Link : Type) where
  | last (gap : List Char)
  | more (gap : List Char) (link : Link) (rest : Cut Link)

namespace Cut

variable {Link : Type}

/-- The text of a cut whose links are written in some way. -/
def write (chars : Link → List Char) : Cut Link → List Char
  | last gap => gap
  | more gap link rest => gap ++ (chars link ++ rest.write chars)

/-- No link begins at any position of a gap, wherever it ends. -/
def Free (chars : Link → List Char) (gap behind : List Char) : Prop :=
  ∀ i < gap.length, ∀ link, ¬ chars link <+: (gap ++ behind).drop i

/-- No link begins in any of the gaps. -/
def Leftmost (chars : Link → List Char) : Cut Link → Prop
  | last gap => Free chars gap []
  | more gap link rest => Free chars gap (chars link ++ rest.write chars) ∧ rest.Leftmost chars

/-- A cut is one of a text, if it is the text in parts and no link begins in a gap. -/
structure Of (chars : Link → List Char) (s : List Char) (cut : Cut Link) : Prop where
  text : cut.write chars = s
  leftmost : cut.Leftmost chars

/-- A cut with one character more in its first gap. -/
def push (c : Char) : Cut Link → Cut Link
  | last gap => last (c :: gap)
  | more gap link rest => more (c :: gap) link rest

@[simp] theorem write_push (chars : Link → List Char) (c : Char) (cut : Cut Link) :
    (cut.push c).write chars = c :: cut.write chars := by
  cases cut <;> rfl

/-- If more is written for each link, nothing of the text is left out. -/
theorem write_sublist {shorter longer : Link → List Char}
    (h : ∀ link, (shorter link).Sublist (longer link)) (cut : Cut Link) :
    (cut.write shorter).Sublist (cut.write longer) := by
  induction cut with
  | last gap => exact List.Sublist.refl gap
  | more gap link rest ih => exact (List.Sublist.refl gap).append ((h link).append ih)

section

variable {chars : Link → List Char}

theorem free_nil (behind : List Char) : Free chars [] behind :=
  fun _ hi => absurd hi (Nat.not_lt_zero _)

theorem Free.cons {c : Char} {gap behind : List Char} (h : Free chars gap behind)
    (hhead : ∀ link, ¬ chars link <+: c :: (gap ++ behind)) : Free chars (c :: gap) behind := by
  intro i hi link
  cases i with
  | zero => exact hhead link
  | succ i => exact h i (Nat.lt_of_succ_lt_succ hi) link

/-- A link behind some text does not begin in a gap that the text begins with. -/
theorem Free.length_le {gap behind before rest : List Char} {link : Link}
    (h : Free chars gap behind) (htext : gap ++ behind = before ++ (chars link ++ rest)) :
    gap.length ≤ before.length := by
  by_contra hinside
  apply h before.length (Nat.lt_of_not_le hinside) link
  rw [htext, List.drop_left]
  exact List.prefix_append _ _

/-- A character at which no link begins is put before what follows. -/
theorem Of.push {s : List Char} {cut : Cut Link} (h : cut.Of chars s) {c : Char}
    (hhead : ∀ link, ¬ chars link <+: c :: s) : (cut.push c).Of chars (c :: s) := by
  obtain ⟨rfl, hleft⟩ := h
  refine ⟨write_push chars c cut, ?_⟩
  cases cut with
  | last gap =>
      have hgap : Free chars gap [] := hleft
      refine hgap.cons fun link => ?_
      rw [List.append_nil]
      exact hhead link
  | more gap link rest => exact ⟨hleft.1.cons hhead, hleft.2⟩

/-- A text in which no link stands is one gap. -/
theorem of_last {s : List Char} (h : ∀ link, ¬ chars link <:+: s) : (last s).Of chars s := by
  refine ⟨rfl, ?_⟩
  intro i _ link hlink
  rw [List.append_nil] at hlink
  exact h link (hlink.isInfix.trans (List.drop_suffix i s).isInfix)

end

end Cut

/-! ## Links of one form -/

section

variable {Link : Type} {chars replaced : Link → List Char}

/-- How the links of a form are written.  None is empty, and where a link ends does not hang on what
stands behind it. -/
structure Delimited (chars : Link → List Char) : Prop where
  ne_nil : ∀ link, chars link ≠ []
  append_inj : ∀ {link other rest after}, chars link ++ rest = chars other ++ after →
    link = other ∧ rest = after

/-- A gap that is all of a text has no place for a link. -/
theorem Delimited.not_last (h : Delimited chars) {gap before rest : List Char} {link : Link}
    (hfree : (Cut.last gap).Leftmost chars) : gap ≠ before ++ (chars link ++ rest) := by
  intro htext
  have hbound : gap.length ≤ before.length :=
    Cut.Free.length_le hfree ((List.append_nil gap).trans htext)
  have hpositive := List.length_pos_iff.2 (h.ne_nil link)
  have hlength := congrArg List.length htext
  simp only [List.length_append] at hlength
  omega

/-- A text has one cut only: no link of one cut can begin in a gap of the other. -/
theorem Delimited.eq_of_write_eq (h : Delimited chars) {a b : Cut Link}
    (ha : a.Leftmost chars) (hb : b.Leftmost chars) (htext : a.write chars = b.write chars) :
    a = b := by
  induction a generalizing b with
  | last gap =>
      cases b with
      | last other => exact congrArg Cut.last htext
      | more _ _ _ => exact absurd htext (h.not_last ha)
  | more gap link rest ih =>
      cases b with
      | last _ => exact absurd htext.symm (h.not_last hb)
      | more other _ _ =>
          have hlength : gap.length = other.length :=
            Nat.le_antisymm (ha.1.length_le htext) (hb.1.length_le htext.symm)
          obtain ⟨rfl, hlinks⟩ := List.append_inj htext hlength
          obtain ⟨rfl, hrest⟩ := h.append_inj hlinks
          rw [ih ha.2 hb.2 hrest]

/-- What a pass does that replaces the links of a form.  A text is cut in the one possible way, and
its links are replaced between gaps that are copied; so a text without links stays as it is. -/
structure ReplacesLinks (chars replaced : Link → List Char) (pass : List Char → List Char) :
    Prop where
  existsUnique_cut : ∀ s, ∃! cut : Cut Link, cut.Of chars s
  eq_write : ∀ s (cut : Cut Link), cut.Of chars s → pass s = cut.write replaced
  eq_self : ∀ s, (∀ link, ¬ chars link <:+: s) → pass s = s

/-- A pattern finds the links of a form, if it finds one at the head of a text exactly where one
begins there. -/
structure Pattern.Finds (pattern : Pattern) (chars replaced : Link → List Char) : Prop where
  delimited : Delimited chars
  find?_eq_some_iff : ∀ {s out rest}, pattern.find? s = some (out, rest) ↔
    ∃ link, chars link ++ rest = s ∧ replaced link = out

namespace Pattern.Finds

variable {pattern : Pattern} (h : pattern.Finds chars replaced)

include h

theorem not_prefix_of_none {s : List Char} (hnone : pattern.find? s = none) (link : Link) :
    ¬ chars link <+: s := by
  rintro ⟨rest, hlink⟩
  have hfound := h.find?_eq_some_iff.2 ⟨link, hlink, rfl⟩
  simp [hnone] at hfound

/-- The links that are taken from the left make a cut. -/
theorem exists_cut (s : List Char) :
    ∃ cut : Cut Link, cut.Of chars s ∧ pattern.replace s = cut.write replaced := by
  fun_induction Pattern.replace pattern s with
  | case1 => exact ⟨.last [], ⟨rfl, (Cut.free_nil [] : Cut.Free chars [] [])⟩, rfl⟩
  | case2 c cs out rest hfound _ ih =>
      obtain ⟨link, hlink, rfl⟩ := h.find?_eq_some_iff.1 hfound
      obtain ⟨cut, ⟨htext, hleft⟩, hwrite⟩ := ih
      refine ⟨.more [] link cut, ⟨?_, Cut.free_nil _, hleft⟩, ?_⟩
      · rw [Cut.write, htext, List.nil_append, hlink]
      · rw [Cut.write, hwrite, List.nil_append]
  | case3 c cs hnone ih =>
      obtain ⟨cut, hcut, hwrite⟩ := ih
      refine ⟨cut.push c, hcut.push (h.not_prefix_of_none hnone), ?_⟩
      rw [Cut.write_push, hwrite]

theorem eq_of_cuts {s : List Char} {a b : Cut Link} (ha : a.Of chars s) (hb : b.Of chars s) :
    a = b :=
  h.delimited.eq_of_write_eq ha.leftmost hb.leftmost (ha.text.trans hb.text.symm)

theorem replace_eq_write {s : List Char} {cut : Cut Link} (hcut : cut.Of chars s) :
    pattern.replace s = cut.write replaced := by
  obtain ⟨other, hother, hwrite⟩ := h.exists_cut s
  rw [hwrite, h.eq_of_cuts hcut hother]

theorem replacesLinks : ReplacesLinks chars replaced pattern.replace where
  existsUnique_cut s := by
    obtain ⟨cut, hcut, -⟩ := h.exists_cut s
    exact ⟨cut, hcut, fun other hother => h.eq_of_cuts hother hcut⟩
  eq_write _ _ hcut := h.replace_eq_write hcut
  eq_self _ hnone := h.replace_eq_write (Cut.of_last hnone)

end Pattern.Finds

end

/-! ## What stands between marks -/

/-- What is closed ends at the first closing mark. -/
theorem append_closing_inj {closing : Char} {a b rest after : List Char} (ha : closing ∉ a)
    (hb : closing ∉ b) (h : a ++ closing :: rest = b ++ closing :: after) :
    a = b ∧ rest = after := by
  have hread := congrArg (fun s => enclosed? closing closing (closing :: s)) h
  simpa [enclosed?_append ha, enclosed?_append hb] using hread

/-- A label and what stands between the marks behind it can be read off. -/
theorem label_and_inner_inj {opening closing : Char} {label label' inner inner' : List Char}
    {rest after : List Char} (hlabel : ']' ∉ label ∧ ']' ∉ label')
    (hinner : closing ∉ inner ∧ closing ∉ inner')
    (h : '[' :: (label ++ ']' :: opening :: (inner ++ closing :: rest)) =
      '[' :: (label' ++ ']' :: opening :: (inner' ++ closing :: after))) :
    label = label' ∧ inner = inner' ∧ rest = after := by
  obtain ⟨hlabels, hbehind⟩ := append_closing_inj hlabel.1 hlabel.2 (List.cons.inj h).2
  exact ⟨hlabels, append_closing_inj hinner.1 hinner.2 (List.cons.inj hbehind).2⟩

theorem enclosed?_eq_some_iff {opening closing : Char} {s inner rest : List Char} :
    enclosed? opening closing s = some (inner, rest) ↔
      closing ∉ inner ∧ opening :: (inner ++ closing :: rest) = s := by
  constructor
  · intro h
    cases s with
    | nil => simp [enclosed?] at h
    | cons c cs =>
        by_cases hopening : c = opening
        · by_cases hclosing : closing ∈ cs
          · obtain ⟨first, after, rfl, hfree⟩ := List.eq_append_cons_of_mem hclosing
            rw [hopening, enclosed?_append hfree, Option.some.injEq, Prod.mk.injEq] at h
            obtain ⟨rfl, rfl⟩ := h
            exact ⟨hfree, by rw [hopening]⟩
          · simp [enclosed?_cons_eq_none hclosing] at h
        · simp [enclosed?, hopening] at h
  · rintro ⟨hfree, rfl⟩
    exact enclosed?_append hfree rest

/-! ## Reference links -/

/-- A link `[label][id]`, whose identifier may be missing. -/
@[ext] structure ReferenceLink where
  label : List Char
  id : List Char
  label_ne_nil : label ≠ []
  label_closed : ']' ∉ label
  id_legal : isIdentifierOrEmpty id = true

namespace ReferenceLink

/-- A link as it is written. -/
def chars (link : ReferenceLink) : List Char :=
  '[' :: (link.label ++ ']' :: '[' :: (link.id ++ [']']))

/-- The literal of the label. -/
def literal (link : ReferenceLink) : List Char := '\x60' :: link.label ++ ['\x60']

theorem chars_append (link : ReferenceLink) (rest : List Char) :
    link.chars ++ rest = '[' :: (link.label ++ ']' :: '[' :: (link.id ++ ']' :: rest)) := by
  simp [chars]

theorem id_closed (link : ReferenceLink) : ']' ∉ link.id :=
  not_mem_of_isIdentifierOrEmpty link.id_legal

theorem delimited : Delimited chars where
  ne_nil _ := List.cons_ne_nil _ _
  append_inj {link other rest after} h := by
    rw [chars_append, chars_append] at h
    obtain ⟨hlabel, hid, hrest⟩ := label_and_inner_inj ⟨link.label_closed, other.label_closed⟩
      ⟨link.id_closed, other.id_closed⟩ h
    exact ⟨ReferenceLink.ext hlabel hid, hrest⟩

end ReferenceLink

theorem reference?_eq_some_iff {s label rest : List Char} :
    reference? s = some (label, rest) ↔
      ∃ link : ReferenceLink, link.chars ++ rest = s ∧ link.label = label := by
  constructor
  · intro h
    simp only [reference?] at h
    split at h
    · contradiction
    rename_i label' behind hfirst
    split at h
    · contradiction
    rename_i id rest' hsecond
    split at h
    · rename_i hlegal
      rw [Option.some.injEq, Prod.mk.injEq] at h
      obtain ⟨rfl, rfl⟩ := h
      obtain ⟨hlabel, rfl⟩ := enclosed?_eq_some_iff.1 hfirst
      obtain ⟨-, rfl⟩ := enclosed?_eq_some_iff.1 hsecond
      rw [Bool.and_eq_true, Bool.not_eq_true', List.isEmpty_eq_false_iff] at hlegal
      let link : ReferenceLink := ⟨label', id, hlegal.1, hlabel, hlegal.2⟩
      exact ⟨link, link.chars_append rest', rfl⟩
    · contradiction
  · rintro ⟨link, rfl, rfl⟩
    rw [link.chars_append]
    exact reference?_label link.label_closed link.label_ne_nil link.id_legal rest

theorem finds_referencePattern :
    referencePattern.Finds ReferenceLink.chars ReferenceLink.literal where
  delimited := ReferenceLink.delimited
  find?_eq_some_iff := by
    intro s out rest
    simp only [referencePattern, Option.map_eq_some_iff, Prod.mk.injEq, Prod.exists,
      reference?_eq_some_iff]
    constructor
    · rintro ⟨label, rest', ⟨link, hlink, rfl⟩, rfl, rfl⟩
      exact ⟨link, hlink, rfl⟩
    · rintro ⟨link, hlink, rfl⟩
      exact ⟨link.label, rest, ⟨link, hlink, rfl⟩, rfl, rfl⟩

/-! ## Links to the site -/

/-- A link `[label](/path)`. -/
@[ext] structure RootedLink where
  label : List Char
  path : List Char
  label_ne_nil : label ≠ []
  label_closed : ']' ∉ label
  path_ne_nil : path ≠ []
  path_closed : ')' ∉ path

namespace RootedLink

/-- A link as it is written. -/
def chars (link : RootedLink) : List Char :=
  '[' :: (link.label ++ ']' :: '(' :: '/' :: (link.path ++ [')']))

/-- A link with a host in front of its path. -/
def absolute (host : List Char) (link : RootedLink) : List Char :=
  '[' :: (link.label ++ ']' :: '(' :: (host ++ '/' :: (link.path ++ [')'])))

theorem chars_append (link : RootedLink) (rest : List Char) :
    link.chars ++ rest = '[' :: (link.label ++ ']' :: '(' :: ('/' :: link.path ++ ')' :: rest)) := by
  simp [chars]

theorem slash_path_closed (link : RootedLink) : ')' ∉ '/' :: link.path := by
  simp [link.path_closed]

theorem delimited : Delimited chars where
  ne_nil _ := List.cons_ne_nil _ _
  append_inj {link other rest after} h := by
    rw [chars_append, chars_append] at h
    obtain ⟨hlabel, hpath, hrest⟩ := label_and_inner_inj ⟨link.label_closed, other.label_closed⟩
      ⟨link.slash_path_closed, other.slash_path_closed⟩ h
    exact ⟨RootedLink.ext hlabel (List.cons.inj hpath).2, hrest⟩

/-- The host is put between the characters of a link. -/
theorem chars_sublist_absolute (host : List Char) (link : RootedLink) :
    link.chars.Sublist (link.absolute host) := by
  have hpath : List.Sublist ('/' :: (link.path ++ [')'])) (host ++ '/' :: (link.path ++ [')'])) :=
    List.sublist_append_right host _
  exact ((List.Sublist.refl link.label).append ((hpath.cons_cons '(').cons_cons ']')).cons_cons '['

end RootedLink

theorem rooted?_eq_some_iff {s label path rest : List Char} :
    rooted? s = some (label, path, rest) ↔
      ∃ link : RootedLink, link.chars ++ rest = s ∧ link.label = label ∧ '/' :: link.path = path := by
  constructor
  · intro h
    simp only [rooted?] at h
    split at h
    · contradiction
    rename_i label' behind hfirst
    split at h
    · rename_i c path' rest' hsecond
      split at h
      · contradiction
      · rename_i hlegal
        simp only [Option.some.injEq, Prod.mk.injEq] at h
        obtain ⟨rfl, rfl, rfl⟩ := h
        obtain ⟨hlabel, rfl⟩ := enclosed?_eq_some_iff.1 hfirst
        obtain ⟨hpath, rfl⟩ := enclosed?_eq_some_iff.1 hsecond
        rw [List.isEmpty_iff] at hlegal
        let link : RootedLink := ⟨label', c :: path', hlegal, hlabel, List.cons_ne_nil c path',
          fun hmem => hpath (List.mem_cons_of_mem '/' hmem)⟩
        exact ⟨link, link.chars_append rest', rfl, rfl⟩
    · contradiction
  · rintro ⟨link, rfl, rfl, rfl⟩
    have hlabel : link.label.isEmpty = false := by simpa using link.label_ne_nil
    obtain ⟨c, path, hpath⟩ := List.exists_cons_of_ne_nil link.path_ne_nil
    rw [link.chars_append, rooted?, enclosed?_append link.label_closed]
    dsimp only
    rw [enclosed?_append link.slash_path_closed, hpath]
    simp [hlabel]

theorem finds_rootedPattern (host : List Char) :
    (rootedPattern host).Finds RootedLink.chars (RootedLink.absolute host) where
  delimited := RootedLink.delimited
  find?_eq_some_iff := by
    intro s out rest
    simp only [rootedPattern, Option.map_eq_some_iff, Prod.mk.injEq, Prod.exists,
      rooted?_eq_some_iff]
    constructor
    · rintro ⟨label, path, rest', ⟨link, hlink, rfl, rfl⟩, rfl, rfl⟩
      exact ⟨link, hlink, by simp [RootedLink.absolute]⟩
    · rintro ⟨link, hlink, rfl⟩
      exact ⟨link.label, '/' :: link.path, rest, ⟨link, hlink, rfl, rfl⟩,
        by simp [RootedLink.absolute], rfl⟩

theorem sublist_replace_rootedPattern (host s : List Char) :
    s.Sublist ((rootedPattern host).replace s) := by
  obtain ⟨cut, hcut, hwrite⟩ := (finds_rootedPattern host).exists_cut s
  have hlonger := cut.write_sublist (RootedLink.chars_sublist_absolute host)
  rwa [hcut.text, ← hwrite] at hlonger

/-- The links of a comment are replaced in two passes, each of which cuts its text at the links of
one form.  The first makes a reference link the literal of its label, and the second puts the host
in front of a path and takes nothing away. -/
theorem passes_replace_links_between_gaps (host comment : String) :
    (replaceLinks host comment).toList =
        (rootedPattern host.toList).replace (referencePattern.replace comment.toList) ∧
      ReplacesLinks ReferenceLink.chars ReferenceLink.literal referencePattern.replace ∧
      ReplacesLinks RootedLink.chars (RootedLink.absolute host.toList)
        (rootedPattern host.toList).replace ∧
      ∀ s : List Char, s.Sublist ((rootedPattern host.toList).replace s) :=
  ⟨Text.toList_onChars _ comment, finds_referencePattern.replacesLinks,
    (finds_rootedPattern host.toList).replacesLinks, sublist_replace_rootedPattern host.toList⟩

/-- Brackets that do not begin a reference link may begin a link to the site, and a path behind one
that does is not linked any more. -/
example : replaceLinks "https://x.org" "[a][1](/b) or [c][d](/e)" =
    "[a][1](https://x.org/b) or `c`(/e)" := by decide +kernel

end SchemaDocs.Markup
