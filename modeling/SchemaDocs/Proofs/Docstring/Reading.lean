import SchemaDocs.Proofs.Docstring.NormalForm
/-!
# Docstrings read back

What was set in the body of a docstring can be read from its lines again: the summary before the
last header, and behind it the members with their comments.  A comment stands further in than a
name, so nothing in it is taken for a header or a name.
-/

namespace SchemaDocs.Docstring

open SchemaDocs.Text

/-! ## Reading -/

/-- Whether a line has four spaces in front, and no more. -/
def namesMember : List Char → Bool
  | ' ' :: ' ' :: ' ' :: ' ' :: c :: _ => c ≠ ' '
  | _ => false

/-- The members in the lines behind a header.  Each is named with a colon, and the lines behind its
name, less eight spaces, are its comment. -/
def readMembers : List (List Char) → List (List Char × List Char)
  | [] => []
  | line :: rest =>
    if namesMember line then
      ((line.drop 4).dropLast,
          joinLines ((rest.takeWhile fun other => !namesMember other).map (List.drop 8)))
        :: readMembers rest
    else readMembers rest

/-- Whether a line is another than the header. -/
def notHeader (line : List Char) : Bool := line ≠ attributesHeader.toList

/-- The lines before the last header, without the blank line between them and the header. -/
def readSummary (ls : List (List Char)) : List Char :=
  joinLines (ls.rdropWhile notHeader).dropLast.dropLast

/-- The summary in a body, and the names and comments of its members. -/
def readBody (text : String) : String × List (String × String) :=
  let ls := lines text.toList
  (String.ofList (readSummary ls),
    (readMembers (ls.rtakeWhile notHeader)).map fun entry =>
      (String.ofList entry.1, String.ofList entry.2))

/-! ## The lines of a body -/

/-- A member as it is set: its name, and the lines of its comment. -/
structure Entry where
  name : List Char
  comment : List (List Char)

namespace Entry

/-- The entry of a member. -/
def ofMember (member : Member) : Entry :=
  ⟨member.name.toList, dedentedLines member.comment.toList⟩

/-- The line that names a member. -/
def nameLine (entry : Entry) : List Char := List.replicate 4 ' ' ++ entry.name ++ [':']

/-- The lines of a comment below a name. -/
def commentLines (entry : Entry) : List (List Char) :=
  entry.comment.map (indented (List.replicate 8 ' '))

/-- The lines below a name, of which there is always one. -/
def lowerLines (entry : Entry) : List (List Char) :=
  if entry.comment = [] then [[]] else entry.commentLines

/-- An entry that can be told from its lines. -/
structure Plain (entry : Entry) : Prop where
  named : entry.name ≠ []
  solid : ∀ c ∈ entry.name, isBlank c = false
  settled : Settled entry.comment

end Entry

theorem indentChars_dedentChars (width : Nat) (s : List Char) :
    indentChars width (dedentChars s) =
      joinLines ((dedentedLines s).map (indented (List.replicate width ' '))) := by
  rw [indentChars, lines_dedentChars]
  congr 2
  funext line
  cases line <;> rfl

theorem memberChars_eq (member : Member) :
    memberChars member =
      withFeeds ((Entry.ofMember member).nameLine :: (Entry.ofMember member).lowerLines) := by
  have hlower : indentChars 8 (dedentChars member.comment.toList) ++ ['\n'] =
      withFeeds (Entry.ofMember member).lowerLines := by
    rw [indentChars_dedentChars, Entry.lowerLines]
    split
    · rename_i hnone
      have hlines : dedentedLines member.comment.toList = [] := hnone
      rw [hlines]
      rfl
    · rename_i hsome
      exact joinLines_append_feed fun hnil => hsome (List.map_eq_nil_iff.1 hnil)
  rw [memberChars, List.append_assoc, hlower, withFeeds_cons, Entry.nameLine, Entry.ofMember]
  simp only [List.append_assoc, List.cons_append, List.nil_append]

/-- The lines of a summary above the members. -/
def summaryLines (summary : List (List Char)) : List (List Char) :=
  if summary = [] then [] else summary ++ [[]]

theorem summaryChars_eq {doc : ClassDoc} (h : doc.members ≠ []) :
    summaryChars doc = withFeeds (summaryLines (dedentedLines doc.summary.toList)) := by
  have hlines := lines_dedentChars doc.summary.toList
  rw [summaryChars]
  split
  · rename_i hnone
    rw [hnone] at hlines
    rw [← hlines]
    rfl
  · rename_i hfull
    have hsome : dedentedLines doc.summary.toList ≠ [] := by
      intro hnil
      rw [dedentChars, hnil] at hfull
      exact hfull rfl
    rw [if_neg (by simpa using h), summaryLines, if_neg hsome, withFeeds_append,
      ← joinLines_append_feed hsome, List.append_assoc]
    rfl

theorem attributesChars_eq_withFeeds {members : List Member} (h : members ≠ []) :
    attributesChars members = withFeeds (attributesHeader.toList ::
      (members.map Entry.ofMember).flatMap fun entry => entry.nameLine :: entry.lowerLines) := by
  have hmembers : members.flatMap memberChars = withFeeds
      ((members.map Entry.ofMember).flatMap fun entry => entry.nameLine :: entry.lowerLines) := by
    rw [withFeeds, List.flatMap_assoc, List.flatMap_map]
    exact congrArg (List.flatMap · members) (funext memberChars_eq)
  obtain ⟨member, rest, rfl⟩ := List.exists_cons_of_ne_nil h
  rw [withFeeds_cons, ← hmembers, attributesChars]
  exact h

/-! ## What the lines of members are -/

/-- Lines that set a comment: each is empty or has eight spaces in front, and without these spaces
they are the comment. -/
structure SetsComment (comment ls : List (List Char)) : Prop where
  bare : ∀ line ∈ ls, Bare line
  inside : ∀ line ∈ ls, line = [] ∨ ∃ kept, line = List.replicate 8 ' ' ++ kept
  read : joinLines (ls.map (List.drop 8)) = joinLines comment

/-- Lines that set members: for each the line with its name, and the lines that set its comment. -/
inductive SetsMembers : List Entry → List (List Char) → Prop
  | nil : SetsMembers [] []
  | cons {entry : Entry} {entries : List Entry} {comment rest : List (List Char)} :
      SetsComment entry.comment comment → SetsMembers entries rest →
        SetsMembers (entry :: entries) (entry.nameLine :: (comment ++ rest))

namespace SetsComment

variable {comment ls : List (List Char)} (h : SetsComment comment ls)

include h

theorem namesMember_eq_false : ∀ line ∈ ls, namesMember line = false := by
  intro line hline
  rcases h.inside line hline with rfl | ⟨kept, rfl⟩ <;> rfl

theorem header_not_mem : attributesHeader.toList ∉ ls := by
  intro hheader
  rcases h.inside _ hheader with hnil | ⟨kept, hkept⟩
  · revert hnil
    decide
  · cases congrArg List.head? hkept

end SetsComment

theorem getLast?_cons_ne {line : List Char} {ls : List (List Char)} (hline : line ≠ [])
    (hlast : ls.getLast? ≠ some []) : (line :: ls).getLast? ≠ some [] := by
  cases ls with
  | nil => exact fun h => hline (Option.some.inj h)
  | cons other more => rwa [List.getLast?_cons_cons]

theorem bare_indented {front line : List Char} (hfront : ∀ c ∈ front, isIndent c = true)
    (h : Bare line) : Bare (indented front line) := by
  by_cases hne : line = []
  · rw [hne]
    exact bare_nil
  · rw [indented_of_ne_nil front hne]
    constructor
    · rw [List.mem_append, not_or]
      refine ⟨fun hfeed => ?_, h.feed⟩
      cases hfront _ hfeed
    · rw [trimEnd_append_indent hfront, h.trimmed, indented_of_ne_nil front hne]

namespace Entry

theorem drop_nameLine (entry : Entry) : (entry.nameLine.drop 4).dropLast = entry.name := by
  rw [nameLine, List.append_assoc, List.drop_left' List.length_replicate, List.dropLast_concat]

theorem nameLine_ne_nil (entry : Entry) : entry.nameLine ≠ [] := List.cons_ne_nil _ _

theorem exists_lowerLines_eq (entry : Entry) :
    ∃ blanks, (∀ line ∈ blanks, line = []) ∧ entry.lowerLines = entry.commentLines ++ blanks := by
  rw [lowerLines]
  split
  · rename_i hnone
    exact ⟨[[]], List.forall_mem_singleton.2 rfl, by rw [commentLines, hnone]; rfl⟩
  · exact ⟨[], List.forall_mem_nil _, (List.append_nil _).symm⟩

namespace Plain

variable {entry : Entry} (h : entry.Plain)

include h

theorem namesMember_nameLine : namesMember entry.nameLine = true := by
  obtain ⟨c, cs, hname⟩ := List.exists_cons_of_ne_nil h.named
  have hc : c ≠ ' ' := by
    rintro rfl
    have hblank := h.solid ' ' (by rw [hname]; exact List.mem_cons_self)
    revert hblank
    decide
  rw [nameLine, hname]
  exact decide_eq_true hc

theorem bare_nameLine : Bare entry.nameLine := by
  constructor
  · intro hfeed
    rw [nameLine, List.append_assoc, List.mem_append, List.mem_append] at hfeed
    rcases hfeed with hfeed | hfeed | hfeed
    · cases List.eq_of_mem_replicate hfeed
    · cases h.solid _ hfeed
    · cases List.mem_singleton.1 hfeed
  · rw [trimEnd_eq_self_iff]
    intro c hc
    rw [nameLine, List.getLast?_concat, Option.some.injEq] at hc
    rw [← hc]
    rfl

theorem setsComment_commentLines : SetsComment entry.comment entry.commentLines where
  bare := by
    intro line hline
    obtain ⟨kept, hkept, rfl⟩ := List.mem_map.1 hline
    have hspaces : ∀ c ∈ List.replicate 8 ' ', isIndent c = true := by
      intro c hc
      rw [List.eq_of_mem_replicate hc]
      rfl
    exact bare_indented hspaces (h.settled.bare kept hkept)
  inside := by
    intro line hline
    obtain ⟨kept, -, rfl⟩ := List.mem_map.1 hline
    cases kept with
    | nil => exact .inl rfl
    | cons c cs => exact .inr ⟨c :: cs, rfl⟩
  read := by
    have hdrop : List.drop 8 ∘ indented (List.replicate 8 ' ') = id := by
      funext kept
      cases kept <;> rfl
    rw [commentLines, List.map_map, hdrop, List.map_id]

theorem setsComment_lowerLines : SetsComment entry.comment entry.lowerLines := by
  rw [lowerLines]
  split
  · rename_i hnone
    rw [hnone]
    refine ⟨?_, ?_, rfl⟩
    · exact List.forall_mem_singleton.2 bare_nil
    · exact List.forall_mem_singleton.2 (.inl rfl)
  · exact h.setsComment_commentLines

theorem getLast?_commentLines_ne : entry.commentLines.getLast? ≠ some [] := by
  intro hlast
  rw [commentLines, List.getLast?_map, Option.map_eq_some_iff] at hlast
  obtain ⟨line, hline, hnil⟩ := hlast
  rw [indented_eq_nil_iff.1 hnil] at hline
  exact h.settled.last hline

end Plain

end Entry

namespace SetsMembers

/-- The lines of members are such that set them, and at most one empty line more. -/
theorem exists_flatMap_eq {entries : List Entry} (h : ∀ entry ∈ entries, entry.Plain) :
    ∃ ls blanks, (entries.flatMap fun entry => entry.nameLine :: entry.lowerLines) = ls ++ blanks ∧
      (∀ line ∈ blanks, line = []) ∧ SetsMembers entries ls ∧ ls.getLast? ≠ some [] := by
  induction entries with
  | nil => exact ⟨[], [], rfl, List.forall_mem_nil _, .nil, by simp⟩
  | cons entry rest ih =>
      obtain ⟨hentry, hrest⟩ := List.forall_mem_cons.1 h
      obtain ⟨ls, blanks, hlines, hblanks, hsets, hlast⟩ := ih hrest
      by_cases hls : ls = []
      · -- nothing stands behind this comment, so an empty line below the name is not kept
        subst hls
        obtain ⟨empty, hempty, hlower⟩ := entry.exists_lowerLines_eq
        refine ⟨entry.nameLine :: (entry.commentLines ++ []), empty ++ blanks, ?_, ?_,
          .cons hentry.setsComment_commentLines hsets, ?_⟩
        · rw [List.flatMap_cons, hlines, hlower]
          simp only [List.cons_append, List.append_assoc, List.nil_append]
        · exact List.forall_mem_append.2 ⟨hempty, hblanks⟩
        · rw [List.append_nil]
          exact getLast?_cons_ne entry.nameLine_ne_nil hentry.getLast?_commentLines_ne
      · refine ⟨entry.nameLine :: (entry.lowerLines ++ ls), blanks, ?_, hblanks,
          .cons hentry.setsComment_lowerLines hsets, ?_⟩
        · rw [List.flatMap_cons, hlines, List.cons_append, List.cons_append, List.append_assoc]
        · rw [← List.cons_append, List.getLast?_append_of_ne_nil _ hls]
          exact hlast

variable {entries : List Entry} {ls : List (List Char)} (h : SetsMembers entries ls)
  (hplain : ∀ entry ∈ entries, entry.Plain)

include h hplain

theorem namesMember_head? : ∀ line ∈ ls.head?, namesMember line = true := by
  cases h with
  | nil => simp
  | cons => simpa using (List.forall_mem_cons.1 hplain).1.namesMember_nameLine

theorem bare : ∀ line ∈ ls, Bare line := by
  induction h with
  | nil => exact List.forall_mem_nil _
  | cons hcomment _ ih =>
      obtain ⟨hentry, hrest⟩ := List.forall_mem_cons.1 hplain
      rw [List.forall_mem_cons, List.forall_mem_append]
      exact ⟨hentry.bare_nameLine, hcomment.bare, ih hrest⟩

omit hplain in
theorem header_not_mem : attributesHeader.toList ∉ ls := by
  induction h with
  | nil => exact List.not_mem_nil
  | cons hcomment _ ih =>
      rw [List.mem_cons, List.mem_append, not_or, not_or]
      refine ⟨fun hname => ?_, hcomment.header_not_mem, ih⟩
      cases congrArg List.head? hname

theorem filter_eq : ls.filter namesMember = entries.map Entry.nameLine := by
  induction h with
  | nil => rfl
  | cons hcomment _ ih =>
      obtain ⟨hentry, hrest⟩ := List.forall_mem_cons.1 hplain
      have hnone : ∀ line ∈ _, ¬namesMember line = true := fun line hline =>
        Bool.eq_false_iff.1 (hcomment.namesMember_eq_false line hline)
      rw [List.filter_cons_of_pos hentry.namesMember_nameLine, List.filter_append,
        List.filter_eq_nil_iff.2 hnone, List.nil_append, ih hrest, List.map_cons]

end SetsMembers

theorem readMembers_append {comment : List (List Char)}
    (h : ∀ line ∈ comment, namesMember line = false) (rest : List (List Char)) :
    readMembers (comment ++ rest) = readMembers rest := by
  induction comment with
  | nil => rfl
  | cons line more ih =>
      obtain ⟨hline, hmore⟩ := List.forall_mem_cons.1 h
      rw [List.cons_append, readMembers, if_neg (Bool.eq_false_iff.1 hline), ih hmore]

/-- The lines up to the next name are those that name no member. -/
theorem takeWhile_append_names {comment rest : List (List Char)}
    (h : ∀ line ∈ comment, namesMember line = false)
    (hrest : ∀ line ∈ rest.head?, namesMember line = true) :
    (comment ++ rest).takeWhile (fun line => !namesMember line) = comment := by
  have hcomment : ∀ line ∈ comment, (!namesMember line) = true := by
    intro line hline
    rw [h line hline]
    rfl
  rw [List.takeWhile_append_of_pos hcomment]
  cases rest with
  | nil => exact List.append_nil comment
  | cons line more =>
      have hname := hrest line rfl
      rw [List.takeWhile_cons_of_neg (by simp [hname]), List.append_nil]

theorem SetsMembers.readMembers_eq {entries : List Entry} {ls : List (List Char)}
    (h : SetsMembers entries ls) (hplain : ∀ entry ∈ entries, entry.Plain) :
    readMembers ls = entries.map fun entry => (entry.name, joinLines entry.comment) := by
  induction h with
  | nil => rfl
  | @cons entry entries comment rest hcomment hsets ih =>
      obtain ⟨hentry, hrest⟩ := List.forall_mem_cons.1 hplain
      have hquiet := hcomment.namesMember_eq_false
      rw [readMembers, if_pos hentry.namesMember_nameLine,
        takeWhile_append_names hquiet (hsets.namesMember_head? hrest), hcomment.read,
        entry.drop_nameLine, readMembers_append hquiet, ih hrest, List.map_cons]

/-! ## Reading a body -/

/-- A name that is not empty and has no blanks. -/
def PlainName (name : String) : Prop := name ≠ "" ∧ name.toList.any isBlank = false

instance (name : String) : Decidable (PlainName name) := inferInstanceAs (Decidable (_ ∧ _))

theorem Entry.plain_ofMember {member : Member} (h : PlainName member.name) :
    (Entry.ofMember member).Plain where
  named := fun hnil => h.1 (String.toList_eq_nil_iff.1 hnil)
  solid := fun c hc => Bool.eq_false_iff.2 (List.any_eq_false.1 h.2 c hc)
  settled := settled_dedentedLines member.comment.toList

/-- Documents with members, the names of which are not empty and have no blanks. -/
structure Named (doc : ClassDoc) : Prop where
  nonempty : doc.members ≠ []
  plain : ∀ member ∈ doc.members, PlainName member.name

theorem Named.plain_entries {doc : ClassDoc} (h : Named doc) :
    ∀ entry ∈ doc.members.map Entry.ofMember, entry.Plain :=
  List.forall_mem_map.2 fun member hmember => Entry.plain_ofMember (h.plain member hmember)

theorem bare_summaryLines (s : List Char) : ∀ line ∈ summaryLines (dedentedLines s), Bare line := by
  rw [summaryLines]
  split
  · exact List.forall_mem_nil _
  · rw [List.forall_mem_append, List.forall_mem_singleton]
    exact ⟨(settled_dedentedLines s).bare, bare_nil⟩

/-- A body has the lines of its summary, a header, and lines that set its members. -/
theorem exists_lines_body {doc : ClassDoc} (h : Named doc) :
    ∃ ls, SetsMembers (doc.members.map Entry.ofMember) ls ∧
      lines (body doc).toList =
        summaryLines (dedentedLines doc.summary.toList) ++ attributesHeader.toList :: ls := by
  have hplain := h.plain_entries
  obtain ⟨ls, blanks, hlines, hblanks, hsets, hlast⟩ := SetsMembers.exists_flatMap_eq hplain
  refine ⟨ls, hsets, ?_⟩
  have hbare : ∀ line ∈ summaryLines (dedentedLines doc.summary.toList) ++
      attributesHeader.toList :: ls, Bare line := by
    rw [List.forall_mem_append, List.forall_mem_cons]
    exact ⟨bare_summaryLines _, ⟨by decide, by decide⟩, hsets.bare hplain⟩
  have hend : (summaryLines (dedentedLines doc.summary.toList) ++
      attributesHeader.toList :: ls).getLast? ≠ some [] := by
    rw [List.getLast?_append_of_ne_nil _ (List.cons_ne_nil _ _)]
    exact getLast?_cons_ne (by decide) hlast
  have hbody : (body doc).toList = joinLines (summaryLines (dedentedLines doc.summary.toList) ++
      attributesHeader.toList :: ls) := by
    rw [body, String.toList_ofList, bodyChars, summaryChars_eq h.nonempty,
      attributesChars_eq_withFeeds h.nonempty, hlines, ← withFeeds_append, ← List.cons_append,
      ← List.append_assoc, trimEnd_withFeeds hbare hend hblanks]
  rw [hbody, lines_joinLines hbare hend]

/-- The lines before the last header, with it, and those behind it. -/
theorem rdropWhile_header {before behind : List (List Char)}
    (h : attributesHeader.toList ∉ behind) :
    (before ++ attributesHeader.toList :: behind).rdropWhile notHeader =
        before ++ [attributesHeader.toList] ∧
      (before ++ attributesHeader.toList :: behind).rtakeWhile notHeader =
        behind := by
  have hother : ∀ line ∈ behind.reverse, notHeader line = true := by
    intro line hline
    refine decide_eq_true ?_
    rintro rfl
    exact h (List.mem_reverse.1 hline)
  have hreverse : (before ++ attributesHeader.toList :: behind).reverse =
      behind.reverse ++ attributesHeader.toList :: before.reverse := by simp
  have hheader : ¬notHeader attributesHeader.toList = true := by decide
  constructor
  · rw [List.rdropWhile, hreverse, List.dropWhile_append_of_pos hother,
      List.dropWhile_cons_of_neg hheader]
    simp
  · rw [List.rtakeWhile, hreverse, List.takeWhile_append_of_pos hother,
      List.takeWhile_cons_of_neg hheader]
    simp

theorem readSummary_eq {behind : List (List Char)} (h : attributesHeader.toList ∉ behind)
    (summary : List (List Char)) :
    readSummary (summaryLines summary ++ attributesHeader.toList :: behind) =
      joinLines summary := by
  rw [readSummary, (rdropWhile_header h).1, List.dropLast_concat, summaryLines]
  split
  · rename_i hnone
    rw [hnone]
    rfl
  · rw [List.dropLast_concat]

/-- What can be read from the body of a document: its summary, and its members with their comments,
as they are set. -/
def content (doc : ClassDoc) : String × List (String × String) :=
  (dedent doc.summary, doc.members.map fun member => (member.name, dedent member.comment))

theorem readBody_body {doc : ClassDoc} (h : Named doc) : readBody (body doc) = content doc := by
  obtain ⟨ls, hsets, hlines⟩ := exists_lines_body h
  have hheader := hsets.header_not_mem
  rw [readBody, hlines]
  simp only [readSummary_eq hheader, (rdropWhile_header hheader).2]
  rw [hsets.readMembers_eq h.plain_entries, List.map_map, List.map_map]
  refine Prod.ext rfl (List.map_congr_left fun member _ => ?_)
  exact Prod.ext String.ofList_toList rfl

/-- A body with members can be read back.  Its last header stands behind the lines of the summary and
a blank one.  The lines with four spaces in front are the names of the members, in their order, and
no line of a comment is one of them.  So documents with the same body have the same content. -/
theorem body_reads_back (doc : ClassDoc) (h : Named doc) :
    (∃ behind,
      lines (body doc).toList = summaryLines (lines (dedent doc.summary).toList) ++
        attributesHeader.toList :: behind ∧
      attributesHeader.toList ∉ behind ∧
      behind.filter namesMember =
        doc.members.map (fun member => List.replicate 4 ' ' ++ member.name.toList ++ [':']) ∧
      readMembers behind =
        doc.members.map fun member => (member.name.toList, (dedent member.comment).toList)) ∧
    readBody (body doc) = content doc ∧
    ∀ other, Named other → (body other = body doc ↔ content other = content doc) := by
  refine ⟨?_, readBody_body h, fun other hother => ⟨fun hbody => ?_, fun hcontent => ?_⟩⟩
  · obtain ⟨behind, hsets, hlines⟩ := exists_lines_body h
    refine ⟨behind, ?_, hsets.header_not_mem, ?_, ?_⟩
    · rw [hlines, toList_dedent, lines_dedentChars]
    · rw [hsets.filter_eq h.plain_entries, List.map_map]
      rfl
    · rw [hsets.readMembers_eq h.plain_entries, List.map_map]
      refine List.map_congr_left fun member _ => ?_
      rw [toList_dedent]
      rfl
  · rw [← readBody_body hother, ← readBody_body h, hbody]
  · obtain ⟨hsummary, hmembers⟩ := Prod.ext_iff.1 hcontent
    exact body_congr hsummary hmembers

/-- A document of which the summary and a comment have lines like a header and like names, and two
comments are blank. -/
theorem header_in_comment_reads_back :
    let doc : ClassDoc := ⟨"pkg.Foo", "Attributes:\n\n    bar:\n",
      [⟨"bar", " \n"⟩, ⟨"spam", "    eggs:\n Attributes:\r\n\n        deep:\n"⟩, ⟨"ham", ""⟩]⟩
    body doc = "Attributes:\n\n    bar:\n\nAttributes:\n    bar:\n\n    spam:\n" ++
        "           eggs:\n        Attributes:\n\n               deep:\n    ham:" ∧
      readBody (body doc) = ("Attributes:\n\n    bar:",
        [("bar", ""), ("spam", "   eggs:\nAttributes:\n\n       deep:"), ("ham", "")]) := by
  intro doc
  have hnamed : Named doc := ⟨List.cons_ne_nil _ _, by decide⟩
  have hcontent : content doc = ("Attributes:\n\n    bar:",
      [("bar", ""), ("spam", "   eggs:\nAttributes:\n\n       deep:"), ("ham", "")]) := by decide
  exact ⟨by decide, (body_reads_back doc hnamed).2.1.trans hcontent⟩

end SchemaDocs.Docstring
