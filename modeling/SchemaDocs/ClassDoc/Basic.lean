import SchemaDocs.Text.Blank
/-!
# The documentation of one class

A summary and one comment for each documented member.  Members are named once and
keep the order in which they were first documented.
-/

namespace SchemaDocs

/-- A documented member of a class. -/
structure Member where
  name : String
  comment : String
deriving DecidableEq

/-- The comments gathered for one class, under its full name. -/
structure ClassDoc where
  name : String
  summary : String
  members : List Member
deriving DecidableEq

namespace ClassDoc

/-- A class without any comment. -/
def empty (name : String) : ClassDoc := ⟨name, "", []⟩

/-- Replaces the summary. -/
def setSummary (doc : ClassDoc) (text : String) : ClassDoc := { doc with summary := text }

/-- Gives a comment to the first member of a name, or to a new last member if there is none. -/
def putMember (name comment : String) : List Member → List Member
  | [] => [⟨name, comment⟩]
  | member :: rest =>
    if member.name = name then ⟨name, comment⟩ :: rest
    else member :: putMember name comment rest

/-- Documents a member.  A member seen again stays in its place and takes the new comment. -/
def addMember (doc : ClassDoc) (name comment : String) : ClassDoc :=
  { doc with members := putMember name comment doc.members }

/-- The comment of the first member of a name. -/
def member? (doc : ClassDoc) (name : String) : Option String :=
  (doc.members.find? fun member => member.name = name).map Member.comment

/-- Changes the comment of every member. -/
def mapComments (doc : ClassDoc) (f : String → String) : ClassDoc :=
  { doc with members := doc.members.map fun member => { member with comment := f member.comment } }

/-- Whether any member is documented. -/
def hasMembers (doc : ClassDoc) : Bool := !doc.members.isEmpty

/-- Whether the summary and all comments are blank. -/
def isUndocumented (doc : ClassDoc) : Bool :=
  Text.allBlank doc.summary.toList
    && doc.members.all fun member => Text.allBlank member.comment.toList

theorem isUndocumented_iff {doc : ClassDoc} :
    doc.isUndocumented = true ↔ Text.allBlank doc.summary.toList = true ∧
      ∀ member ∈ doc.members, Text.allBlank member.comment.toList = true := by
  rw [isUndocumented, Bool.and_eq_true, List.all_eq_true]

/-- Whether two documents are about the same class. -/
def sameClass (a b : ClassDoc) : Bool := a.name = b.name

end ClassDoc

end SchemaDocs

/-!
## The comments of a class

The comments of a document as one list, the summary before those of the members.
-/

namespace SchemaDocs.ClassDoc

/-- The comments of a class: its summary unless that is empty, and those of its members. -/
def comments (doc : ClassDoc) : List String :=
  (if doc.summary = "" then [] else [doc.summary]) ++ doc.members.map Member.comment

end SchemaDocs.ClassDoc
