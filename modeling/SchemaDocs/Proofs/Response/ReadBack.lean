import SchemaDocs.Proofs.ClassDoc.Registry
import SchemaDocs.Proofs.Markup.Reading
import SchemaDocs.Response.Assemble
/-!
# Reading comments back

Comments are read back into the places that they were submitted from, although the
summaries that tell these places are overwritten on the way.
-/

namespace SchemaDocs

namespace ClassDoc

/-- The texts of a document in the places where another one has comments. -/
def textsAt (raw doc : ClassDoc) : List String :=
  (if raw.summary = "" then [] else [doc.summary]) ++ doc.members.map Member.comment

/-- A document has other comments than another one at most: the same name, the same members in the
same order, and a summary only where that has one. -/
structure Recomments (raw doc : ClassDoc) : Prop where
  name : doc.name = raw.name
  members : doc.members.map Member.name = raw.members.map Member.name
  summary : raw.summary = "" → doc.summary = ""

end ClassDoc

theorem Batch.Remaining.nextText {batch : Batch} {text : String} {texts : List String}
    (h : batch.Remaining (text :: texts)) : batch.nextText = .ok (text, batch.advance 1) := by
  rw [Batch.nextText, h.next_cons.1]

@[simp] theorem Registry.length_documents_modify (registry : Registry) (handle : Handle)
    (f : ClassDoc → ClassDoc) :
    (registry.modify handle f).documents.length = registry.documents.length := by
  simp [Registry.modify]

namespace Response

/-! ## One document -/

theorem readMembers_of_remaining {members : List Member} {texts more : List String}
    {batch : Batch} (hbatch : batch.Remaining (texts ++ more))
    (hlength : texts.length = members.length) :
    ∃ after last, readMembers members batch = .ok (after, last) ∧
      after.map Member.name = members.map Member.name ∧ after.map Member.comment = texts ∧
      last.Remaining more := by
  induction members generalizing texts batch with
  | nil =>
      rw [List.length_eq_zero_iff.1 hlength] at hbatch ⊢
      exact ⟨[], batch, rfl, rfl, rfl, hbatch⟩
  | cons member members ih =>
      cases texts with
      | nil => simp at hlength
      | cons text texts =>
          obtain ⟨after, last, hread, hnames, hcomments, hlast⟩ :=
            ih hbatch.next_cons.2 (Nat.add_right_cancel hlength)
          refine ⟨{ member with comment := text } :: after, last, ?_, ?_, ?_, hlast⟩
          · rw [readMembers, hbatch.nextText]
            dsimp only
            rw [hread]
          · rw [List.map_cons, List.map_cons, hnames]
          · rw [List.map_cons, hcomments]

theorem readSummary_of_remaining {summary : String} {texts more : List String} {batch : Batch}
    (hbatch : batch.Remaining (texts ++ more))
    (hlength : texts.length = if summary = "" then 0 else 1) :
    ∃ after last, readSummary summary batch = .ok (after, last) ∧
      (summary = "" → after = "") ∧ (if summary = "" then [] else [after]) = texts ∧
      last.Remaining more := by
  by_cases hsummary : summary = ""
  · rw [if_pos hsummary] at hlength
    rw [List.length_eq_zero_iff.1 hlength] at hbatch ⊢
    exact ⟨summary, batch, if_pos hsummary, id, if_pos hsummary, hbatch⟩
  · rw [if_neg hsummary] at hlength
    obtain ⟨text, rfl⟩ := List.length_eq_one_iff.1 hlength
    refine ⟨text, batch.advance 1, ?_, fun h => absurd h hsummary, if_neg hsummary,
      hbatch.next_cons.2⟩
    rw [readSummary, if_neg hsummary, hbatch.nextText]

theorem readDocument_of_remaining {doc : ClassDoc} {texts more : List String} {batch : Batch}
    (hbatch : batch.Remaining (texts ++ more)) (hlength : texts.length = doc.comments.length) :
    ∃ after last, readDocument doc batch = .ok (after, last) ∧ doc.Recomments after ∧
      doc.textsAt after = texts ∧ last.Remaining more := by
  have hsum : texts.length = (if doc.summary = "" then 0 else 1) + doc.members.length := by
    rw [hlength, ClassDoc.comments, List.length_append, List.length_map]
    split <;> rfl
  obtain ⟨first, rest, rfl, hfirst, hrest⟩ := exists_append_of_length hsum
  rw [List.append_assoc] at hbatch
  obtain ⟨summary, middle, hsummary, hblank, htext, hmiddle⟩ :=
    readSummary_of_remaining hbatch hfirst
  obtain ⟨members, last, hmembers, hnames, hcomments, hlast⟩ :=
    readMembers_of_remaining hmiddle hrest
  refine ⟨{ doc with summary := summary, members := members }, last, ?_,
    ⟨rfl, hnames, hblank⟩, ?_, hlast⟩
  · rw [readDocument, hsummary]
    dsimp only
    rw [hmembers]
  · rw [ClassDoc.textsAt, htext, hcomments]

/-! ## All documents -/

/-- The comments of the documents of handles do not change by a change to the document of another
handle. -/
theorem commentsOf_modify {registry : Registry} {handle : Handle} {rest : List Handle}
    (h : handle.index ∉ rest.map Handle.index) (f : ClassDoc → ClassDoc) :
    commentsOf (registry.modify handle f) rest = commentsOf registry rest := by
  apply List.flatMap_congr
  intro other hother
  rw [Registry.document_modify_of_ne]
  intro hindex
  exact h (hindex ▸ List.mem_map_of_mem hother)

/-- A batch that holds one text for each comment of some distinct documents is read back
completely, each text into the place of its comment.  Other documents stay as they are. -/
theorem readComments_of_remaining {registry : Registry} {handles : List Handle}
    {texts more : List String} {batch : Batch} (hbatch : batch.Remaining (texts ++ more))
    (hlength : texts.length = (commentsOf registry handles).length)
    (hdistinct : (handles.map Handle.index).Nodup)
    (hpresent : ∀ handle ∈ handles, handle.index < registry.documents.length) :
    ∃ after last, readComments registry handles batch = .ok (after, last) ∧
      last.Remaining more ∧
      (∀ handle ∈ handles, (registry.document handle).Recomments (after.document handle)) ∧
      (handles.flatMap fun handle =>
        (registry.document handle).textsAt (after.document handle)) = texts ∧
      ∀ other, other.index ∉ handles.map Handle.index →
        after.document other = registry.document other := by
  induction handles generalizing registry texts batch with
  | nil =>
      rw [List.length_eq_zero_iff.1 hlength] at hbatch ⊢
      exact ⟨registry, batch, rfl, hbatch, fun _ h => absurd h List.not_mem_nil, rfl,
        fun _ _ => rfl⟩
  | cons handle rest ih =>
      rw [List.map_cons, List.nodup_cons] at hdistinct
      obtain ⟨hnew, hdistinct⟩ := hdistinct
      rw [commentsOf, List.flatMap_cons, List.length_append, ← commentsOf] at hlength
      obtain ⟨first, later, rfl, hfirst, hlater⟩ := exists_append_of_length hlength
      rw [List.append_assoc] at hbatch
      obtain ⟨doc, middle, hdoc, hshape, htexts, hmiddle⟩ :=
        readDocument_of_remaining hbatch hfirst
      have hcount : later.length =
          (commentsOf (registry.modify handle fun _ => doc) rest).length := by
        rw [commentsOf_modify hnew, hlater]
      have hin : ∀ other ∈ rest,
          other.index < (registry.modify handle fun _ => doc).documents.length := by
        intro other hother
        rw [Registry.length_documents_modify]
        exact hpresent other (List.mem_cons_of_mem _ hother)
      obtain ⟨after, last, hread, hlast, hshapes, hrest, hframe⟩ :=
        ih hmiddle hcount hdistinct hin
      -- the document just read is not read again, and those to come are not changed before
      have hself : after.document handle = doc := by
        rw [hframe handle hnew,
          Registry.document_modify_self (hpresent handle List.mem_cons_self)]
      have hother : ∀ other ∈ rest, (registry.modify handle fun _ => doc).document other =
          registry.document other := by
        intro other hother
        rw [Registry.document_modify_of_ne]
        intro hindex
        exact hnew (hindex ▸ List.mem_map_of_mem hother)
      refine ⟨after, last, ?_, hlast, ?_, ?_, ?_⟩
      · rw [readComments, hdoc]
        exact hread
      · rw [List.forall_mem_cons, hself]
        refine ⟨hshape, fun other hmem => ?_⟩
        rw [← hother other hmem]
        exact hshapes other hmem
      · rw [List.flatMap_cons, hself, htexts, ← hrest]
        congr 1
        apply List.flatMap_congr
        intro other hmem
        rw [hother other hmem]
      · intro other hout
        rw [List.map_cons, List.mem_cons, not_or] at hout
        rw [hframe other hout.2, Registry.document_modify_of_ne (Ne.symm hout.1)]

end Response

end SchemaDocs
