import SchemaDocs.ClassDoc.Json
import SchemaDocs.Discovery.Find
import SchemaDocs.Json.Value
import SchemaDocs.RunError
import SchemaDocs.Text.Basic
/-!
# Reports

What the program shows of a request, and of a failure.
-/

/-!
## Inspection of requests

What a request documents, file by file, as JSON for readers.
-/

namespace SchemaDocs

/-- The documentation found in a request. -/
structure Inspection where
  docs : List FileDocs
  registry : Registry

namespace Inspection

/-- The inspection of a request. -/
def ofRequest (request : GenerateRequest) : Inspection :=
  let (docs, registry) := request.findDocs Registry.empty
  ⟨docs, registry⟩

/-- One file with the documents of its classes. -/
def fileToJson (registry : Registry) (docs : FileDocs) : Json :=
  .object
    [("file", .string docs.fileName),
     ("structures", .array (docs.handles.map fun handle => (registry.document handle).toJson))]

/-- All files as JSON. -/
def toJson (inspection : Inspection) : Json :=
  .array (inspection.docs.map (fileToJson inspection.registry))

/-- The sentence that says how much was found. -/
def summary (inspection : Inspection) : String :=
  "Found " ++ toString inspection.registry.size ++ " structures in "
    ++ toString inspection.docs.length ++ " files"

end Inspection

end SchemaDocs

/-!
## Failures as they are shown

A failure is shown with what was being done, and under it the causes, each on lines of
its own.  The first line of a cause is numbered if there are several of them, and the
lines that follow it are set in as far as its text.
-/

namespace SchemaDocs

/-- The texts of a failure and of what lies behind it. -/
def RunError.causes (failure : RunError) : List String :=
  match failure with
  | .io cause => [failure.message, cause.message]
  | _ => [failure.message]

namespace CommandLine

/-- What was being done, and why it failed. -/
structure Failure where
  attempt : String
  causes : List String
deriving DecidableEq

namespace Failure

/-- A failure of a run, in an attempt. -/
def ofRun (attempt : String) (failure : RunError) : Failure := ⟨attempt, failure.causes⟩

/-- A text with a mark before its first line, and its other lines set in. -/
def indentLines (mark margin : List Char) (text : String) : List Char :=
  mark ++ ('\n' :: margin).intercalate (Text.splitAt '\n' text.toList)

/-- Four blanks, the margin of all causes. -/
def margin : List Char := List.replicate 4 ' '

/-- Causes with their numbers. -/
def numbered (number : Nat) : List String → List (List Char)
  | [] => []
  | cause :: rest =>
    let digits := (toString number).toList
    indentLines (List.replicate (5 - digits.length) ' ' ++ digits ++ [':', ' '])
      (List.replicate 7 ' ') cause :: numbered (number + 1) rest

/-- The lines of the causes. -/
def causeBlocks : List String → List (List Char)
  | [cause] => [indentLines margin margin cause]
  | causes => numbered 0 causes

/-- The text of a failure. -/
def text (failure : Failure) : String :=
  let causes := causeBlocks failure.causes
  "Error: " ++ failure.attempt
    ++ (if causes.isEmpty then "" else "\n\nCaused by:\n")
    ++ String.ofList (['\n'].intercalate causes) ++ "\n"

end Failure

end CommandLine

end SchemaDocs
