import SchemaDocs.Descriptor.Node
import SchemaDocs.Text.LetterCase
import SchemaDocs.Text.Basic
/-!
# Documentation targets

The class or member that a comment documents, found from the path to the commented
element.  Messages passed through open scopes; the element at the end is told apart
by its name: one named like the class in scope documents that class, one of mixed
case a class nested in it, and any other a member.
-/

namespace SchemaDocs

/-- What a comment documents. -/
inductive Target where
  /-- The class in scope. -/
  | summary (className : String)
  /-- A class nested in the one in scope. -/
  | nested (className : String)
  /-- A member of a class. -/
  | member (className memberName : String)
deriving DecidableEq

namespace Target

/-- The class that a comment belongs to. -/
def className : Target → String
  | .summary className => className
  | .nested className => className
  | .member className _ => className

end Target

namespace Discovery

/-- A name within a scope. -/
def qualify (scope name : String) : String := if scope = "" then name else scope ++ "." ++ name

/-- The part of a dotted name after its last dot. -/
def lastSegment (name : String) : String :=
  String.ofList ((Text.splitAt '.' name.toList).getLast?.getD [])

/-- The target of the element at the end of a path, within the class in scope. -/
def classify (element : Element) (className : String) : Option Target :=
  match element.kind with
  | .file | .enum | .enumValue | .service | .method => none
  | .message | .field | .oneof =>
    if lastSegment className = element.name then some (.summary className)
    else if Text.isMixedCase element.name then some (.nested (qualify className element.name))
    else some (.member className element.name)

/-- The class in scope after a step to an element.  Only a message with a further step below it
opens a scope. -/
def enterScope (className : String) (child : Element) (rest : List Int32) : String :=
  match child.kind with
  | .message => if 2 ≤ rest.length then qualify className child.name else className
  | _ => className

/-- Follows a path down from an element.  A path that ends within a step has no target. -/
def descend (element : Element) (className : String) :
    List Int32 → Except PathError (Option Target)
  | [] => .ok (classify element className)
  | [_] => .ok none
  | number :: index :: rest =>
    match element.step number index with
    | .error cause => .error cause
    | .ok child => descend child (enterScope className child rest) rest

/-- The target of a path that starts at a message whose full name is given. -/
def resolve (root : Element) (className : String) (path : List Int32) :
    Except PathError (Option Target) :=
  if root.kind = .message then descend root className path
  else .error (.rootMismatch .message root.kind)

/-- The field number of the messages of a file. -/
def messageNumber : Int32 := 4

/-- The target of a path that starts at a file. -/
def resolveFile (file : FileDescriptor) (path : List Int32) :
    Except PathError (Option Target) :=
  match path with
  | number :: index :: rest =>
    if number = messageNumber then
      match (Element.file file).step messageNumber index with
      | .error cause => .error cause
      | .ok root => resolve root (qualify file.packageText root.name) rest
    else .error (.notAMessagePath path)
  | _ => .error (.notAMessagePath path)

end Discovery

end SchemaDocs
