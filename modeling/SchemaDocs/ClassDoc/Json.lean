import SchemaDocs.ClassDoc.Basic
import SchemaDocs.Json.Value
/-!
# Class documentation as JSON

A document is an object with the keys `qualified_name`, `summary` and `members`,
in that order, and each member a list of its name and comment.  When read, the
summary and the members may be missing, other keys are skipped, and a list of the
three values is taken as well.
-/

namespace SchemaDocs

/-- A member as a list of two strings. -/
def Member.toJson (member : Member) : Json :=
  .array [.string member.name, .string member.comment]

/-- Reads a list of two strings. -/
def Member.ofJson? : Json → Option Member
  | .array [.string name, .string comment] => some ⟨name, comment⟩
  | _ => none

namespace ClassDoc

/-- A document as an object. -/
def toJson (doc : ClassDoc) : Json :=
  .object
    [("qualified_name", .string doc.name), ("summary", .string doc.summary),
     ("members", .array (doc.members.map Member.toJson))]

/-- Reads a string. -/
def textOfJson? : Json → Option String
  | .string text => some text
  | _ => none

/-- Reads a list of members. -/
def membersOfJson? : Json → Option (List Member)
  | .array items => items.mapM Member.ofJson?
  | _ => none

/-- A value that may be missing, and then has a default. -/
def orDefault {α : Type} (read? : Json → Option α) (default : α) : Option Json → Option α
  | none => some default
  | some json => read? json

/-- Reads a document. -/
def ofJson? : Json → Option ClassDoc
  | .object entries => do
    let json := Json.object entries
    let name ← textOfJson? (← json.field? "qualified_name")
    let summary ← orDefault textOfJson? "" (json.field? "summary")
    let members ← orDefault membersOfJson? [] (json.field? "members")
    some ⟨name, summary, members⟩
  | .array (name :: rest) =>
    if rest.length ≤ 2 then do
      let name ← textOfJson? name
      let summary ← orDefault textOfJson? "" rest[0]?
      let members ← orDefault membersOfJson? [] rest[1]?
      some ⟨name, summary, members⟩
    else none
  | _ => none

end ClassDoc

end SchemaDocs
