import SchemaDocs.ClassDoc.Registry
import SchemaDocs.Discovery.Target
import SchemaDocs.Text.Basic
/-!
# Finding documentation

The comments of the requested files, each given to the class it documents.  A place
whose path leads nowhere is passed over, so that it hides nothing else in its file.
-/

namespace SchemaDocs

/-- A comment and what it documents. -/
structure Finding where
  target : Target
  comment : String

/-- The classes documented by the comments of one file, in the order of their first comments. -/
structure FileDocs where
  fileName : String
  handles : List Handle

namespace Discovery

/-- The comment at a place: the one before the element, and after a blank line the one behind
it, without blanks at the ends of both. -/
def comment? (location : Location) : Option String :=
  let leading := Text.onChars Text.trimEnd (location.leading.getD "")
  let trailing := Text.onChars Text.trimEnd (location.trailing.getD "")
  if leading = "" then
    if trailing = "" then none else some trailing
  else
    if trailing = "" then some leading else some (leading ++ "\n\n" ++ trailing)

/-- What a place of a file documents.  Only what lies within messages is documented. -/
def finding? (file : FileDescriptor) (location : Location) : Option Finding :=
  match comment? location with
  | none => none
  | some comment =>
    if location.path.head? = some messageNumber then
      match resolveFile file location.path with
      | .ok (some target) => some ⟨target, comment⟩
      | .ok none => none
      | .error _ => none
    else none

/-- All that the places of a file document, in their order. -/
def findings (file : FileDescriptor) : List Finding := file.locations.filterMap (finding? file)

/-- A document with a comment at its target. -/
def Finding.applyTo (finding : Finding) (doc : ClassDoc) : ClassDoc :=
  match finding.target with
  | .summary _ => doc.setSummary finding.comment
  | .nested _ => doc.setSummary finding.comment
  | .member _ name => doc.addMember name finding.comment

/-- Gives a comment to the document of its class. -/
def record (registry : Registry) (finding : Finding) : Handle × Registry :=
  let (handle, registry) := registry.getOrCreate finding.target.className
  (handle, registry.modify handle (Finding.applyTo finding))

/-- Handles with another one at the end, unless its name is there already. -/
def addHandle (handles : List Handle) (handle : Handle) : List Handle :=
  if handles.any handle.sameName then handles else handles ++ [handle]

/-- Records findings, and collects the handles of their classes. -/
def recordAll (registry : Registry) (handles : List Handle) :
    List Finding → List Handle × Registry
  | [] => (handles, registry)
  | finding :: rest =>
    let (handle, registry) := record registry finding
    recordAll registry (addHandle handles handle) rest

/-- Records what files document.  A file without findings is left out of the result. -/
def recordFiles (registry : Registry) : List FileDescriptor → List FileDocs × Registry
  | [] => ([], registry)
  | file :: rest =>
    let (handles, registry) := recordAll registry [] (findings file)
    let (docs, registry) := recordFiles registry rest
    (if handles.isEmpty then docs else ⟨file.nameText, handles⟩ :: docs, registry)

end Discovery

/-- The documentation found in the files of a request, added to that of a registry. -/
def GenerateRequest.findDocs (request : GenerateRequest) (registry : Registry) :
    List FileDocs × Registry :=
  Discovery.recordFiles registry request.wantedFiles

end SchemaDocs
