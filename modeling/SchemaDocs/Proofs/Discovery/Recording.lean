import SchemaDocs.Proofs.ClassDoc.Members
import SchemaDocs.Proofs.Discovery.Handles
/-!
# Places for comments

A class has a place for its summary and one for each name of a member.  A comment that is recorded
takes its place from the one before it and touches no other, so that after a run each place holds
the last comment that was meant for it.
-/

namespace SchemaDocs

/-- A place for a comment: a class, and in it the summary or a member. -/
structure CommentPlace where
  className : String
  memberName? : Option String
deriving DecidableEq

namespace Target

/-- The member that a comment documents, none for a whole class. -/
def memberName? : Target → Option String
  | .summary _ | .nested _ => none
  | .member _ memberName => some memberName

/-- The place that a target stands for. -/
def place (target : Target) : CommentPlace := ⟨target.className, target.memberName?⟩

end Target

/-! ## The places of a document -/

namespace ClassDoc

/-- The comment of a member, or the summary. -/
def commentAt (doc : ClassDoc) : Option String → Option String
  | none => some doc.summary
  | some memberName => doc.member? memberName

end ClassDoc

/-! ## The places of a registry -/

namespace Registry

/-- The document registered for a name, an empty one if there is none. -/
def docOf (registry : Registry) (name : String) : ClassDoc :=
  ((registry.get? name).map registry.document).getD (ClassDoc.empty name)

/-- The comment at a place. -/
def commentAt (registry : Registry) (place : CommentPlace) : Option String :=
  (registry.docOf place.className).commentAt place.memberName?

theorem WellFormed.docOf_modify {registry : Registry} (hw : registry.WellFormed) {handle : Handle}
    (hmem : handle ∈ registry.handles) (f : ClassDoc → ClassDoc) (name : String) :
    (registry.modify handle f).docOf name =
      if handle.name = name then f (registry.docOf name) else registry.docOf name := by
  have hget : (registry.modify handle f).get? name = registry.get? name := rfl
  rw [docOf, docOf, hget]
  split
  · rename_i hname
    subst hname
    rw [hw.get?_eq hmem, Option.map_some, Option.map_some, Option.getD_some, Option.getD_some,
      document_modify_self (hw.index_lt hmem)]
  · rename_i hname
    cases h : registry.get? name with
    | none => rfl
    | some other =>
        obtain ⟨hother, hotherName⟩ := mem_of_get? h
        have hindex : handle.index ≠ other.index := fun hsame =>
          hname (hw.eq_of_index_eq hmem hother hsame ▸ hotherName)
        rw [Option.map_some, Option.map_some, document_modify_of_ne hindex]

/-- A new document is as empty as none. -/
theorem WellFormed.docOf_getOrCreate {registry : Registry} (hw : registry.WellFormed)
    (name other : String) : (registry.getOrCreate name).2.docOf other = registry.docOf other := by
  cases h : registry.get? name with
  | some handle => rw [getOrCreate_of_some h]
  | none =>
      rw [getOrCreate_of_none h, docOf, docOf]
      have hget : Registry.get? ⟨registry.documents ++ [ClassDoc.empty name],
          registry.handles ++ [⟨registry.documents.length, name⟩]⟩ other =
            (registry.get? other).or
              (if name = other then some ⟨registry.documents.length, name⟩ else none) := by
        rw [get?, get?, List.find?_append]
        by_cases hname : name = other <;> simp [hname]
      rw [hget]
      cases hother : registry.get? other with
      | some handle =>
          have hlt := hw.index_lt (mem_of_get? hother).1
          simp [document, List.getElem?_append_left hlt]
      | none => by_cases hname : name = other <;> simp [document, hname]

end Registry

namespace Discovery

/-- A finding puts its comment into its place, and nothing into the other places of the class. -/
theorem commentAt_applyTo (finding : Finding) (doc : ClassDoc) (memberName? : Option String) :
    (Finding.applyTo finding doc).commentAt memberName? =
      if finding.target.memberName? = memberName? then some finding.comment
      else doc.commentAt memberName? := by
  rw [Finding.applyTo]
  cases finding.target with
  | summary _ | nested _ =>
      cases memberName? <;>
        simp [Target.memberName?, ClassDoc.commentAt, ClassDoc.setSummary, ClassDoc.member?]
  | member _ _ =>
      cases memberName? with
      | none => simp [Target.memberName?, ClassDoc.commentAt, ClassDoc.addMember]
      | some _ => simp [Target.memberName?, ClassDoc.commentAt, ClassDoc.member?_addMember]

theorem docOf_record {registry : Registry} (hw : registry.WellFormed) (finding : Finding)
    (name : String) :
    (record registry finding).2.docOf name =
      if finding.target.className = name then Finding.applyTo finding (registry.docOf name)
      else registry.docOf name := by
  rw [record]
  dsimp only
  rw [(hw.getOrCreate _).docOf_modify (registry.mem_handles_getOrCreate _),
    Registry.name_getOrCreate, hw.docOf_getOrCreate]

/-- A finding takes its place, and no other. -/
theorem commentAt_record {registry : Registry} (hw : registry.WellFormed) (finding : Finding)
    (place : CommentPlace) :
    (record registry finding).2.commentAt place =
      if finding.target.place = place then some finding.comment else registry.commentAt place := by
  obtain ⟨className, memberName?⟩ := place
  rw [Registry.commentAt, Registry.commentAt, docOf_record hw, Target.place]
  by_cases hclass : finding.target.className = className
  · rw [if_pos hclass, commentAt_applyTo]
    simp only [CommentPlace.mk.injEq, hclass, true_and]
  · rw [if_neg hclass, if_neg fun h => hclass (congrArg CommentPlace.className h)]

/-- After a run, a place holds the last comment that was meant for it, or what it held before. -/
theorem commentAt_recordAll {registry : Registry} (hw : registry.WellFormed)
    (handles : List Handle) (findings : List Finding) (place : CommentPlace) :
    (recordAll registry handles findings).2.commentAt place =
      ((findings.filter fun finding => finding.target.place = place).getLast?.map
        Finding.comment).or (registry.commentAt place) := by
  induction findings generalizing registry handles with
  | nil => rfl
  | cons finding findings ih =>
      rw [recordAll]
      dsimp only
      rw [ih (wellFormed_record hw finding), commentAt_record hw]
      by_cases hplace : finding.target.place = place
      · rw [if_pos hplace, List.filter_cons_of_pos (by simpa using hplace), List.getLast?_cons]
        cases (findings.filter fun finding => finding.target.place = place).getLast? <;> rfl
      · rw [if_neg hplace, List.filter_cons_of_neg (by simpa using hplace)]

/-- After a run, the place of a finding holds the comment of a finding that was meant for it. -/
theorem exists_commentAt_recordAll {registry : Registry} (hw : registry.WellFormed)
    (handles : List Handle) {findings : List Finding} {finding : Finding}
    (h : finding ∈ findings) :
    ∃ last ∈ findings, last.target.place = finding.target.place ∧
      (recordAll registry handles findings).2.commentAt finding.target.place =
        some last.comment := by
  have hmeant : finding ∈ findings.filter fun other =>
      other.target.place = finding.target.place := List.mem_filter.2 ⟨h, by simp⟩
  have hlast := List.getLast?_eq_some_getLast (List.ne_nil_of_mem hmeant)
  obtain ⟨hmem, hplace⟩ := List.mem_filter.1 (List.mem_of_getLast? hlast)
  refine ⟨_, hmem, of_decide_eq_true hplace, ?_⟩
  rw [commentAt_recordAll hw, hlast, Option.map_some, Option.some_or]

end Discovery

end SchemaDocs
