import SchemaDocs.Proofs.Discovery.Event
import SchemaDocs.Proofs.Discovery.Recording
/-!
# What a search gathers

A search leaves in each document the last comment told of every place, and otherwise what the
document held before.  New members come behind the members that were there, in the order in which
they are first told of.
-/

namespace SchemaDocs

open Discovery

/-- The comment of the last event at a place. -/
def lastComment? (events : List Finding) (place : CommentPlace) : Option String :=
  (events.filter fun event => event.target.place = place).getLast?.map Finding.comment

/-- The members of a class that events tell of, in the order of the events. -/
def membersTold (events : List Finding) (className : String) : List String :=
  (events.filter fun event => event.target.className = className).filterMap fun event =>
    event.target.memberName?

/-! ## Documents with distinct members -/

namespace Registry

/-- The members of each registered document have pairwise distinct names. -/
def DistinctMembers (registry : Registry) : Prop :=
  ∀ handle ∈ registry.handles, (registry.document handle).memberNames.Nodup

theorem distinctMembers_empty : empty.DistinctMembers :=
  fun _ h => absurd h List.not_mem_nil

theorem WellFormed.docOf_name {registry : Registry} (hw : registry.WellFormed) {handle : Handle}
    (h : handle ∈ registry.handles) : registry.docOf handle.name = registry.document handle := by
  rw [docOf, hw.get?_eq h, Option.map_some, Option.getD_some]

theorem DistinctMembers.docOf {registry : Registry} (h : registry.DistinctMembers)
    (name : String) : (registry.docOf name).memberNames.Nodup := by
  rw [Registry.docOf]
  cases hget : registry.get? name with
  | none => exact List.nodup_nil
  | some handle => exact h handle (mem_of_get? hget).1

end Registry

/-! ## One finding -/

namespace Discovery

theorem memberNames_applyTo (finding : Finding) (doc : ClassDoc) :
    (Finding.applyTo finding doc).memberNames =
      finding.target.memberName?.toList.foldl addNew doc.memberNames := by
  rw [Finding.applyTo]
  cases finding.target with
  | summary _ | nested _ => rfl
  | member _ memberName => exact ClassDoc.names_putMember memberName finding.comment doc.members

theorem memberNames_foldl_applyTo (findings : List Finding) (doc : ClassDoc) :
    (findings.foldl (fun doc finding => Finding.applyTo finding doc) doc).memberNames =
      (findings.filterMap fun finding => finding.target.memberName?).foldl addNew
        doc.memberNames := by
  induction findings generalizing doc with
  | nil => rfl
  | cons finding findings ih =>
      rw [List.foldl_cons, ih, memberNames_applyTo, List.filterMap_cons]
      cases finding.target.memberName? <;> rfl

theorem names_record (registry : Registry) (finding : Finding) :
    (record registry finding).2.names = addNew registry.names finding.target.className :=
  registry.names_getOrCreate finding.target.className

/-! ## A run -/

theorem snd_recordAll (registry : Registry) (handles : List Handle) (findings : List Finding) :
    (recordAll registry handles findings).2 =
      findings.foldl (fun registry finding => (record registry finding).2) registry := by
  induction findings generalizing registry handles with
  | nil => rfl
  | cons finding findings ih => exact ih _ _

/-- A run changes a document by the findings for its class, one after the other. -/
theorem docOf_recordAll {registry : Registry} (hw : registry.WellFormed) (handles : List Handle)
    (findings : List Finding) (name : String) :
    (recordAll registry handles findings).2.docOf name =
      (findings.filter fun finding => finding.target.className = name).foldl
        (fun doc finding => Finding.applyTo finding doc) (registry.docOf name) := by
  induction findings generalizing registry handles with
  | nil => rfl
  | cons finding findings ih =>
      rw [recordAll]
      dsimp only
      rw [ih (wellFormed_record hw finding), docOf_record hw]
      by_cases hclass : finding.target.className = name
      · rw [if_pos hclass, List.filter_cons_of_pos (by simpa using hclass), List.foldl_cons]
      · rw [if_neg hclass, List.filter_cons_of_neg (by simpa using hclass)]

theorem names_recordAll (registry : Registry) (handles : List Handle) (findings : List Finding) :
    (recordAll registry handles findings).2.names =
      (findings.map fun finding => finding.target.className).foldl addNew registry.names := by
  induction findings generalizing registry handles with
  | nil => rfl
  | cons finding findings ih =>
      rw [recordAll]
      dsimp only
      rw [ih, names_record, List.map_cons, List.foldl_cons]

/-- The registry after a search of files does not depend on where one file ends. -/
theorem snd_recordFiles (registry : Registry) (files : List FileDescriptor) :
    (recordFiles registry files).2 =
      (recordAll registry [] (files.flatMap FileDescriptor.events)).2 := by
  induction files generalizing registry with
  | nil => rfl
  | cons file files ih =>
      rw [recordFiles]
      dsimp only
      rw [ih, findings_eq_events, snd_recordAll, snd_recordAll, snd_recordAll, List.flatMap_cons,
        List.foldl_append]

end Discovery

/-! ## A request -/

namespace GenerateRequest

variable (request : GenerateRequest) {registry : Registry}

theorem snd_findDocs (registry : Registry) :
    (request.findDocs registry).2 = (recordAll registry [] request.events).2 :=
  snd_recordFiles registry request.wantedFiles

theorem commentAt_findDocs (hw : registry.WellFormed) (place : CommentPlace) :
    (request.findDocs registry).2.commentAt place =
      (lastComment? request.events place).or (registry.commentAt place) := by
  rw [snd_findDocs]
  exact commentAt_recordAll hw [] request.events place

theorem docOf_findDocs (hw : registry.WellFormed) (name : String) :
    (request.findDocs registry).2.docOf name =
      (request.events.filter fun event => event.target.className = name).foldl
        (fun doc event => Finding.applyTo event doc) (registry.docOf name) := by
  rw [snd_findDocs]
  exact docOf_recordAll hw [] request.events name

theorem memberNames_findDocs (hw : registry.WellFormed) (name : String) :
    ((request.findDocs registry).2.docOf name).memberNames =
      (membersTold request.events name).foldl addNew (registry.docOf name).memberNames := by
  rw [docOf_findDocs request hw, memberNames_foldl_applyTo, membersTold]

theorem names_findDocs (registry : Registry) :
    (request.findDocs registry).2.names =
      (request.events.map fun event => event.target.className).foldl addNew registry.names := by
  rw [snd_findDocs]
  exact names_recordAll registry [] request.events

theorem distinctMembers_findDocs (hw : registry.WellFormed) (hd : registry.DistinctMembers) :
    (request.findDocs registry).2.DistinctMembers := by
  intro handle hhandle
  rw [← (request.finds_findDocs hw).wellFormed.docOf_name hhandle, memberNames_findDocs _ hw]
  exact nodup_foldl_addNew (hd.docOf _) _

/-- The summary is the last comment told of the class, or the one that it had. -/
theorem summary_findDocs (hw : registry.WellFormed) (name : String) :
    ((request.findDocs registry).2.docOf name).summary =
      (lastComment? request.events ⟨name, none⟩).getD (registry.docOf name).summary := by
  have hsummary : some ((request.findDocs registry).2.docOf name).summary =
      (lastComment? request.events ⟨name, none⟩).or (some (registry.docOf name).summary) :=
    request.commentAt_findDocs hw ⟨name, none⟩
  cases hlast : lastComment? request.events ⟨name, none⟩ <;> simpa [hlast] using hsummary

/-- The comment of a member is the last one told of it, or that of the member as it was. -/
theorem comment_of_mem_findDocs (hw : registry.WellFormed) (hd : registry.DistinctMembers)
    {name : String} {member : Member}
    (h : member ∈ ((request.findDocs registry).2.docOf name).members) :
    lastComment? request.events ⟨name, some member.name⟩ = some member.comment ∨
      lastComment? request.events ⟨name, some member.name⟩ = none ∧
        member ∈ (registry.docOf name).members := by
  have hnames := (request.distinctMembers_findDocs hw hd).docOf name
  have hcomment : (request.findDocs registry).2.commentAt ⟨name, some member.name⟩ =
      some member.comment := ClassDoc.member?_of_mem hnames h
  rw [commentAt_findDocs request hw] at hcomment
  cases hlast : lastComment? request.events ⟨name, some member.name⟩ with
  | some comment =>
      rw [hlast, Option.some_or] at hcomment
      exact .inl hcomment
  | none =>
      rw [hlast, Option.none_or] at hcomment
      exact .inr ⟨rfl, ClassDoc.mem_of_member? hcomment⟩

/-- After a search each document holds the last comment told of its class and of each member, and
where nothing was told what it held before.  Members told of for the first time stand behind the
others, in the order of their first events, and classes that no event is about are as they were. -/
theorem documents_hold_last_comments (hw : registry.WellFormed) (hd : registry.DistinctMembers)
    (name : String) :
    let before := registry.docOf name
    let found := (request.findDocs registry).2
    let after := found.docOf name
    after.summary = (lastComment? request.events ⟨name, none⟩).getD before.summary ∧
      after.memberNames = before.memberNames ++
        ((membersTold request.events name).removeAll before.memberNames).eraseDups ∧
      (∀ member ∈ after.members,
        lastComment? request.events ⟨name, some member.name⟩ = some member.comment ∨
          lastComment? request.events ⟨name, some member.name⟩ = none ∧
            member ∈ before.members) ∧
      (∀ handle, registry.get? name = some handle → found.get? name = some handle) ∧
      ((∃ event ∈ request.events, event.target.className = name) →
        ∃ handle, found.get? name = some handle) ∧
      ((∀ event ∈ request.events, event.target.className ≠ name) →
        found.get? name = registry.get? name ∧ after = before) ∧
      found.WellFormed ∧ found.DistinctMembers := by
  intro before found after
  have hfinds := request.finds_findDocs hw
  refine ⟨request.summary_findDocs hw name, ?_,
    fun member hmember => request.comment_of_mem_findDocs hw hd hmember,
    fun handle => Registry.get?_of_begins hfinds.begins, ?_, ?_, hfinds.wellFormed,
    request.distinctMembers_findDocs hw hd⟩
  · rw [← foldl_addNew]
    exact request.memberNames_findDocs hw name
  · rintro ⟨event, hevent, hclass⟩
    rw [← Option.isSome_iff_exists, ← Option.ne_none_iff_isSome, Ne, Registry.get?_eq_none_iff,
      not_not, names_findDocs]
    exact mem_foldl_addNew.2 (.inr (List.mem_map.2 ⟨event, hevent, hclass⟩))
  · intro hother
    constructor
    · cases hget : registry.get? name with
      | some handle => exact Registry.get?_of_begins hfinds.begins hget
      | none =>
          rw [Registry.get?_eq_none_iff] at hget
          rw [Registry.get?_eq_none_iff, names_findDocs, mem_foldl_addNew, not_or]
          refine ⟨hget, ?_⟩
          rw [List.mem_map]
          rintro ⟨event, hevent, hclass⟩
          exact hother event hevent hclass
    · have hnone : (request.events.filter fun event => event.target.className = name) = [] := by
        rw [List.filter_eq_nil_iff]
        exact fun event hevent => by simpa using hother event hevent
      rw [show after = _ from request.docOf_findDocs hw name, hnone, List.foldl_nil]

/-- A search in a registry that an earlier one has filled: the summary and a member are told of
again, another member keeps its comment, and a third is new. -/
theorem documents_after_two_searches :
    let foo : MessageDescriptor :=
      { name := some "Foo"
        fields := [{ name := some "bar" }, { name := some "baz" }, { name := some "qux" }] }
    let file (locations : List Location) : FileDescriptor :=
      { name := some "foo.proto"
        package := some "pkg"
        messages := [foo]
        sourceInfo := some ⟨locations⟩ }
    let request (locations : List Location) : GenerateRequest :=
      { filesToGenerate := ["foo.proto"], files := [file locations] }
    let earlier := request [{ path := [4, 0], leading := some "Old." },
      { path := [4, 0, 2, 1], leading := some "Kept." },
      { path := [4, 0, 2, 0], leading := some "Old too." }]
    let later := request [{ path := [4, 0, 2, 2], trailing := some "Added.\n" },
      { path := [4, 0, 2, 0], leading := some "Replaced." },
      { path := [4, 0, 2, 1], leading := some " \n" },
      { path := [4, 0], leading := some "New.\n", trailing := some " Really. " },
      { path := [4, 0, 2, 0], leading := some "Replaced again." }]
    let registry := (earlier.findDocs Registry.empty).2
    let found := (later.findDocs registry).2
    registry.WellFormed ∧ registry.DistinctMembers ∧
      (found.docOf "pkg.Foo").summary = "New.\n\n Really." ∧
      (found.docOf "pkg.Foo").memberNames = ["baz", "bar", "qux"] ∧
      ∀ member ∈ (found.docOf "pkg.Foo").members,
        lastComment? later.events ⟨"pkg.Foo", some member.name⟩ = some member.comment ∨
          lastComment? later.events ⟨"pkg.Foo", some member.name⟩ = none ∧
            member ∈ (registry.docOf "pkg.Foo").members := by
  intro foo file request earlier later registry found
  have hw : registry.WellFormed := (earlier.finds_findDocs Registry.wellFormed_empty).wellFormed
  have hd : registry.DistinctMembers :=
    earlier.distinctMembers_findDocs Registry.wellFormed_empty Registry.distinctMembers_empty
  obtain ⟨hsummary, hnames, hmembers, -⟩ :=
    later.documents_hold_last_comments hw hd "pkg.Foo"
  exact ⟨hw, hd, hsummary.trans (by decide +kernel), hnames.trans (by decide +kernel), hmembers⟩

end GenerateRequest

end SchemaDocs
