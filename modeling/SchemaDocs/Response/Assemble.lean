import SchemaDocs.ClassDoc.Basic
import SchemaDocs.Discovery.Find
import SchemaDocs.Docstring.Basic
import SchemaDocs.RunError
/-!
# Answers to requests

The answer to a request: for each requested file and each class documented in it, a
piece of code that sets the docstring of the class.  All comments are converted in
one batch, and those of a class once, however many files document it.
-/

namespace SchemaDocs

namespace Response

/-- The one feature that is supported, optional fields of the third edition of the language. -/
def supportedFeatures : UInt64 := 1

/-- The handles of all files, each document once, in the order of their first occurrence. -/
def distinctHandles (docs : List FileDocs) : List Handle :=
  (docs.flatMap FileDocs.handles).foldl Discovery.addHandle []

/-- The comments of the documents of handles. -/
def commentsOf (registry : Registry) (handles : List Handle) : List String :=
  handles.flatMap fun handle => (registry.document handle).comments

/-- Members with the next comments of a batch as theirs. -/
def readMembers : List Member → Batch → Except BatchError (List Member × Batch)
  | [], batch => .ok ([], batch)
  | member :: rest, batch =>
    match batch.nextText with
    | .error cause => .error cause
    | .ok (comment, batch) =>
      match readMembers rest batch with
      | .error cause => .error cause
      | .ok (rest, batch) => .ok ({ member with comment := comment } :: rest, batch)

/-- The next comment of a batch in place of a summary, unless that is empty. -/
def readSummary (summary : String) (batch : Batch) : Except BatchError (String × Batch) :=
  if summary = "" then .ok (summary, batch) else batch.nextText

/-- A document with the next comments of a batch in the places of its own. -/
def readDocument (doc : ClassDoc) (batch : Batch) : Except BatchError (ClassDoc × Batch) :=
  match readSummary doc.summary batch with
  | .error cause => .error cause
  | .ok (summary, batch) =>
    match readMembers doc.members batch with
    | .error cause => .error cause
    | .ok (members, batch) => .ok ({ doc with summary := summary, members := members }, batch)

/-- Reads the comments of a batch back into the documents of handles. -/
def readComments (registry : Registry) :
    List Handle → Batch → Except BatchError (Registry × Batch)
  | [], batch => .ok (registry, batch)
  | handle :: rest, batch =>
    match readDocument (registry.document handle) batch with
    | .error cause => .error cause
    | .ok (doc, batch) => readComments (registry.modify handle fun _ => doc) rest batch

/-- The code to insert for one class. -/
def render (doc : ClassDoc) : String := Docstring.classEntry (Docstring.body doc)

/-- The piece of code for one class, if it has any documentation. -/
def generatedFile? (moduleName : String) (doc : ClassDoc) : Option GeneratedFile :=
  if doc.isUndocumented then none
  else some ⟨some moduleName, some (Docstring.insertionPoint doc.name), some (render doc)⟩

/-- The pieces of code for one file. -/
def generatedFiles (config : Config) (registry : Registry) (docs : FileDocs) :
    List GeneratedFile :=
  docs.handles.filterMap fun handle =>
    generatedFile? (config.moduleName docs.fileName) (registry.document handle)

/-- The answer for documents whose comments are converted. -/
def ofDocs (config : Config) (registry : Registry) (docs : List FileDocs) : GenerateResponse :=
  ⟨none, some supportedFeatures, docs.flatMap (generatedFiles config registry)⟩

/-- The answer that tells of a failure. -/
def ofFailure (failure : RunError) : GenerateResponse := ⟨some failure.message, none, []⟩

variable {m : Type → Type} [Monad m]

/-- Converts the comments of the documents of handles in one batch. -/
def convertComments (convert : Converter m) (settings : MarkupSettings) (registry : Registry)
    (handles : List Handle) : m (Except BatchError Registry) :=
  match (Batch.new settings).submitAll (commentsOf registry handles) with
  | .error cause => pure (.error cause)
  | .ok batch => do
    match ← batch.convertAll convert with
    | .error cause => pure (.error cause)
    | .ok batch => pure ((readComments registry handles batch).map Prod.fst)

/-- The answer to a request. -/
def assemble (convert : Converter m) (config : Config) (request : GenerateRequest) :
    m (Except RunError GenerateResponse) := do
  let (docs, registry) := request.findDocs Registry.empty
  match ← convertComments convert config.markup registry (distinctHandles docs) with
  | .error cause => pure (.error (.conversion cause))
  | .ok registry => pure (.ok (ofDocs config registry docs))

/-- The configuration for a request: its parameter counts more than what it is applied to. -/
def effectiveConfig (config : Config) (request : GenerateRequest) : Except RunError Config :=
  match request.givenParameter? with
  | none => .ok config
  | some parameter =>
    match config.applyParameter parameter with
    | (.error cause, _) => .error (.config (.parameter cause))
    | (.ok (), config) => .ok config

/-- The answer to a request with a parameter, by the converter that is configured. -/
def answer (converter : ConverterConfig → Converter m) (config : Config)
    (request : GenerateRequest) : m (Except RunError GenerateResponse) :=
  match effectiveConfig config request with
  | .error cause => pure (.error cause)
  | .ok config => assemble (converter config.converter) config request

/-- An answer in any case: one that tells of a failure if there was one. -/
def ofOutcome : Except RunError GenerateResponse → GenerateResponse
  | .ok response => response
  | .error failure => ofFailure failure

end Response

end SchemaDocs
