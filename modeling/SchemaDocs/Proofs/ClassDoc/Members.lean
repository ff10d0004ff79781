import SchemaDocs.ClassDoc.Json
import SchemaDocs.Proofs.Discovery.FirstSeen
/-!
# Members in the order of their first comments

The members of a document are a map that keeps the order of its insertions.  A name that comes
again stays where it was and takes the new comment, a new name comes last, and nothing else in the
document changes, also where a document that was read has one name twice.
-/

namespace SchemaDocs.ClassDoc

/-- The names of the documented members. -/
def memberNames (doc : ClassDoc) : List String := doc.members.map Member.name

/-! ## Looking up a member -/

theorem member?_of_mem {doc : ClassDoc} (hnames : doc.memberNames.Nodup) {member : Member}
    (h : member ∈ doc.members) : doc.member? member.name = some member.comment := by
  rw [member?]
  cases hfind : doc.members.find? fun other => other.name = member.name with
  | none => simpa using List.find?_eq_none.1 hfind member h
  | some other =>
      have hname : other.name = member.name := by simpa using List.find?_some hfind
      rw [List.inj_on_of_nodup_map hnames (List.mem_of_find?_eq_some hfind) h hname,
        Option.map_some]

theorem mem_of_member? {doc : ClassDoc} {name comment : String}
    (h : doc.member? name = some comment) : ⟨name, comment⟩ ∈ doc.members := by
  obtain ⟨member, hfind, rfl⟩ := Option.map_eq_some_iff.1 h
  have hname : member.name = name := by simpa using List.find?_some hfind
  rw [← hname]
  exact List.mem_of_find?_eq_some hfind

/-! ## One insertion -/

theorem find?_putMember (name comment other : String) (members : List Member) :
    ((putMember name comment members).find? fun member => member.name = other).map
        Member.comment =
      if name = other then some comment
      else (members.find? fun member => member.name = other).map Member.comment := by
  induction members with
  | nil => by_cases hother : name = other <;> simp [putMember, hother]
  | cons member members ih =>
      rw [putMember]
      split
      · rename_i hname
        by_cases hother : name = other <;> simp [hname, hother]
      · rename_i hname
        by_cases hmember : member.name = other
        · have hne : name ≠ other := fun h => hname (hmember.trans h.symm)
          simp [hmember, hne]
        · simpa [hmember] using ih

theorem member?_addMember (doc : ClassDoc) (name comment other : String) :
    (doc.addMember name comment).member? other =
      if name = other then some comment else doc.member? other :=
  find?_putMember name comment other doc.members

theorem putMember_append {name : String} {before : List Member}
    (h : name ∉ before.map Member.name) (comment : String) (members : List Member) :
    putMember name comment (before ++ members) = before ++ putMember name comment members := by
  induction before with
  | nil => rfl
  | cons member before ih =>
      rw [List.map_cons, List.mem_cons, not_or] at h
      rw [List.cons_append, putMember, if_neg (Ne.symm h.1), ih h.2, List.cons_append]

/-- What an insertion does to a list of members: a new name comes last, and a name that is there
takes the comment where it stands first. -/
theorem putMember_cases (name comment : String) (members : List Member) :
    name ∉ members.map Member.name ∧
        putMember name comment members = members ++ [⟨name, comment⟩] ∨
      ∃ before old later, name ∉ before.map Member.name ∧
        members = before ++ ⟨name, old⟩ :: later ∧
        putMember name comment members = before ++ ⟨name, comment⟩ :: later := by
  by_cases hname : name ∈ members.map Member.name
  · right
    obtain ⟨firstNames, laterNames, hnames, hfirst⟩ := List.eq_append_cons_of_mem hname
    obtain ⟨before, rest, rfl, rfl, hrest⟩ := List.map_eq_append_iff.1 hnames
    obtain ⟨member, later, rfl, rfl, -⟩ := List.map_eq_cons_iff.1 hrest
    refine ⟨before, member.comment, later, hfirst, rfl, ?_⟩
    rw [putMember_append hfirst, putMember, if_pos rfl]
  · left
    have happend := putMember_append hname comment []
    rw [List.append_nil] at happend
    exact ⟨hname, happend⟩

/-! ## One insertion after the other -/

/-- A document after members were added in the given order. -/
def addMembers (doc : ClassDoc) (insertions : List Member) : ClassDoc :=
  insertions.foldl (fun doc member => doc.addMember member.name member.comment) doc

/-- The comment of the last insertion of a name, none if there is no insertion of it. -/
def lastInserted? (insertions : List Member) (name : String) : Option String :=
  (insertions.filter fun member => member.name = name).getLast?.map Member.comment

theorem lastInserted?_cons (insertion : Member) (insertions : List Member) (name : String) :
    lastInserted? (insertion :: insertions) name =
      (lastInserted? insertions name).or
        (if insertion.name = name then some insertion.comment else none) := by
  rw [lastInserted?, lastInserted?, List.getLast?_filter, List.getLast?_filter, List.reverse_cons,
    List.find?_append, Option.map_or]
  by_cases hname : insertion.name = name <;> simp [hname]

theorem lastInserted?_eq_none_iff {insertions : List Member} {name : String} :
    lastInserted? insertions name = none ↔ name ∉ insertions.map Member.name := by
  simp [lastInserted?]

theorem memberNames_addMembers (doc : ClassDoc) (insertions : List Member) :
    (doc.addMembers insertions).memberNames =
      (insertions.map Member.name).foldl addNew doc.memberNames := by
  induction insertions generalizing doc with
  | nil => rfl
  | cons insertion insertions ih =>
      have hname : (doc.addMember insertion.name insertion.comment).memberNames =
          addNew doc.memberNames insertion.name := names_putMember _ _ _
      rw [addMembers, List.foldl_cons, ← addMembers, ih, hname, List.map_cons, List.foldl_cons]

theorem member?_addMembers (doc : ClassDoc) (insertions : List Member) (name : String) :
    (doc.addMembers insertions).member? name =
      (lastInserted? insertions name).or (doc.member? name) := by
  induction insertions generalizing doc with
  | nil => rfl
  | cons insertion insertions ih =>
      rw [addMembers, List.foldl_cons, ← addMembers, ih, member?_addMember, lastInserted?_cons,
        Option.or_assoc]
      by_cases hname : insertion.name = name
      · rw [if_pos hname, if_pos hname, Option.some_or]
      · rw [if_neg hname, if_neg hname, Option.none_or]

theorem name_addMembers (doc : ClassDoc) (insertions : List Member) :
    (doc.addMembers insertions).name = doc.name := by
  induction insertions generalizing doc with
  | nil => rfl
  | cons insertion insertions ih => exact ih _

theorem summary_addMembers (doc : ClassDoc) (insertions : List Member) :
    (doc.addMembers insertions).summary = doc.summary := by
  induction insertions generalizing doc with
  | nil => rfl
  | cons insertion insertions ih => exact ih _

/-- A document to which members were added has each of them once, in the order of their first
insertions and with the comments of their last, and finds exactly those.  Added to any document, a
member is found with its comment and all others are found as before: if the name is new, it comes
last, else its first entry takes the comment, and every other entry, the summary and the name of
the class are left as they are. -/
theorem members_stay_in_place_with_last_comments :
    (∀ (className : String) (insertions : List Member),
      let built := (empty className).addMembers insertions
      built.memberNames.Nodup ∧
        built.memberNames = (insertions.map Member.name).eraseDups ∧
        (∀ member ∈ built.members,
          lastInserted? insertions member.name = some member.comment) ∧
        (∀ name, built.member? name = lastInserted? insertions name) ∧
        (∀ name, built.member? name = none ↔ name ∉ insertions.map Member.name) ∧
        built.summary = "" ∧ built.name = className) ∧
      ∀ (doc : ClassDoc) (name comment : String),
        let after := doc.addMember name comment
        after.member? name = some comment ∧
          (∀ other, other ≠ name → after.member? other = doc.member? other) ∧
          (name ∉ doc.memberNames ∧ after.members = doc.members ++ [⟨name, comment⟩] ∨
            ∃ before old later, name ∉ before.map Member.name ∧
              doc.members = before ++ ⟨name, old⟩ :: later ∧
              after.members = before ++ ⟨name, comment⟩ :: later) ∧
          after.summary = doc.summary ∧ after.name = doc.name := by
  constructor
  · intro className insertions built
    have hnames : built.memberNames = (insertions.map Member.name).eraseDups := by
      rw [← foldl_addNew_nil]
      exact memberNames_addMembers (empty className) insertions
    have hnodup : built.memberNames.Nodup := hnames ▸ nodup_eraseDups _
    have hmember : ∀ name, built.member? name = lastInserted? insertions name := by
      intro name
      rw [show built.member? name = _ from member?_addMembers (empty className) insertions name]
      exact Option.or_none
    refine ⟨hnodup, hnames, ?_, hmember, ?_, summary_addMembers _ insertions,
      name_addMembers _ insertions⟩
    · intro member hmem
      rw [← hmember]
      exact member?_of_mem hnodup hmem
    · intro name
      rw [hmember, lastInserted?_eq_none_iff]
  · intro doc name comment after
    refine ⟨?_, ?_, putMember_cases name comment doc.members, rfl, rfl⟩
    · exact (member?_addMember doc name comment name).trans (if_pos rfl)
    · intro other hother
      exact (member?_addMember doc name comment other).trans (if_neg (Ne.symm hother))

/-- A member that was added twice to a new document, and one added to a document that was read with
its name twice.  There the later entry of the name stays, and is not found. -/
theorem members_told_of_twice :
    let insertions : List Member := [⟨"zeta", "z"⟩, ⟨"alpha", "a"⟩, ⟨"zeta", "z2"⟩]
    let built := (empty "pkg.Foo").addMembers insertions
    let read : ClassDoc := ⟨"pkg.Foo", "Foo.", [⟨"bar", "1"⟩, ⟨"baz", "2"⟩, ⟨"bar", "3"⟩]⟩
    let after := read.addMember "bar" "4"
    built.memberNames = ["zeta", "alpha"] ∧ built.member? "zeta" = some "z2" ∧
      (∀ member ∈ built.members,
        lastInserted? insertions member.name = some member.comment) ∧
      ofJson? read.toJson = some read ∧
      after.members = [⟨"bar", "4"⟩, ⟨"baz", "2"⟩, ⟨"bar", "3"⟩] ∧
      after.member? "bar" = some "4" ∧
      "baz" ≠ "bar" ∧ after.member? "baz" = read.member? "baz" := by
  intro insertions built read after
  obtain ⟨hbuilt, hadded⟩ := members_stay_in_place_with_last_comments
  obtain ⟨-, hnames, hmembers, hfound, -⟩ := hbuilt "pkg.Foo" insertions
  obtain ⟨hbar, hother, -⟩ := hadded read "bar" "4"
  have hbaz : "baz" ≠ "bar" := by decide
  exact ⟨hnames, hfound "zeta", hmembers, rfl, rfl, hbar, hbaz, hother "baz" hbaz⟩

end SchemaDocs.ClassDoc
