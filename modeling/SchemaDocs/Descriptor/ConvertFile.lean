import SchemaDocs.RunError
import SchemaDocs.Wire.DescriptorRecords
import SchemaDocs.Files.Tree
/-!
# Converting a set of files

The comments of a set are converted in their places, in memory or in a file.

## The comments of a set of files

Converting all comments of a set of files in their places.  Comments that are absent
stay absent, and nothing else in the set is touched.
-/

namespace SchemaDocs

/-- What writing the texts of a batch back leaves behind: the number of texts that were written or
a failure, what they were written to, and the batch.  A failure keeps what was written before. -/
structure WriteBack (α : Type) where
  result : Except BatchError Nat
  value : α
  batch : Batch

namespace WriteBack

variable {α β : Type}

/-- Changes what was written to. -/
def map (f : α → β) (written : WriteBack α) : WriteBack β :=
  ⟨written.result, f written.value, written.batch⟩

/-- Writes to another thing afterwards.  After a failure that stays as it was. -/
def andThen (first : WriteBack α) (kept : β) (write : Batch → WriteBack β) : WriteBack (α × β) :=
  match first.result with
  | .error cause => ⟨.error cause, (first.value, kept), first.batch⟩
  | .ok count =>
    let second := write first.batch
    ⟨second.result.map (count + ·), (first.value, second.value), second.batch⟩

/-- An optional comment, if it is present, becomes whatever is read next, be it nothing. -/
def optional (comment : Option String) (batch : Batch) : WriteBack (Option String) :=
  match comment with
  | none => ⟨.ok 0, none, batch⟩
  | some _ =>
    match batch.next with
    | .error cause => ⟨.error cause, comment, batch⟩
    | .ok (text, batch) => ⟨.ok 1, text, batch⟩

/-- A comment becomes the next text, and stays as it is where there is none. -/
def single (comment : String) (batch : Batch) : WriteBack String :=
  match batch.next with
  | .error cause => ⟨.error cause, comment, batch⟩
  | .ok (none, batch) => ⟨.ok 0, comment, batch⟩
  | .ok (some text, batch) => ⟨.ok 1, text, batch⟩

/-- Writes to the items of a list, one after the other. -/
def each (write : α → Batch → WriteBack α) : List α → Batch → WriteBack (List α)
  | [], batch => ⟨.ok 0, [], batch⟩
  | item :: rest, batch =>
    ((write item batch).andThen rest fun batch => each write rest batch).map fun written =>
      written.1 :: written.2

end WriteBack

namespace Location

/-- The comments at a place: before the element, behind it, and detached from it. -/
def comments (location : Location) : List String :=
  location.leading.toList ++ location.trailing.toList ++ location.detached

/-- Writes the next texts of a batch to the comments at a place. -/
def writeComments (location : Location) (batch : Batch) : WriteBack Location :=
  let leading := WriteBack.optional location.leading batch
  let trailing := leading.andThen location.trailing (WriteBack.optional location.trailing)
  let detached := trailing.andThen location.detached
    (WriteBack.each WriteBack.single location.detached)
  detached.map fun written =>
    { location with leading := written.1.1, trailing := written.1.2, detached := written.2 }

end Location

/-- Writes the next texts of a batch to the comments at the places of a file. -/
def FileDescriptor.writeComments (file : FileDescriptor) (batch : Batch) :
    WriteBack FileDescriptor :=
  match file.sourceInfo with
  | none => ⟨.ok 0, file, batch⟩
  | some info =>
    (WriteBack.each Location.writeComments info.locations batch).map fun locations =>
      { file with sourceInfo := some ⟨locations⟩ }

/-- What a conversion of a set of files leaves behind: the number of converted comments or a
failure, the set, and the batch that was used. -/
structure SetConversion where
  result : Except BatchError Nat
  set : DescriptorSet
  batch : Batch

namespace DescriptorSet

/-- All comments of a set. -/
def comments (set : DescriptorSet) : List String :=
  set.files.flatMap fun file => file.locations.flatMap Location.comments

/-- Writes the next texts of a batch to the comments of a set. -/
def writeComments (set : DescriptorSet) (batch : Batch) : WriteBack DescriptorSet :=
  (WriteBack.each FileDescriptor.writeComments set.files batch).map DescriptorSet.mk

variable {m : Type → Type} [Monad m]

/-- Converts all comments of a set, in a batch that may hold others already. -/
def convertComments (convert : Converter m) (set : DescriptorSet) (batch : Batch) :
    m SetConversion :=
  match batch.submitAll set.comments with
  | .error cause => pure ⟨.error cause, set, batch⟩
  | .ok filled => do
    match ← filled.convertAll convert with
    | .error cause => pure ⟨.error cause, set, filled⟩
    | .ok converted =>
      let written := set.writeComments converted
      pure ⟨written.result, written.value, written.batch⟩

/-- Converts the comments of a set that is given and wanted as bytes. -/
def convertBytes (convert : Converter m) (config : Config) (bytes : Bytes) :
    m (Except RunError (Nat × Bytes)) :=
  match DescriptorSet.decode bytes with
  | .error cause => pure (.error (.decode (.descriptorSet cause)))
  | .ok set => do
    let conversion ← set.convertComments convert (Batch.new config.markup)
    match conversion.result with
    | .error cause => pure (.error (.conversion cause))
    | .ok count => pure (.ok (count, conversion.set.encode))

end DescriptorSet

end SchemaDocs

/-!
## Converting a file of descriptors

Reads a set of files, converts its comments and writes it to another place.  Nothing
is written unless everything before went well.
-/

namespace SchemaDocs

namespace DescriptorSet

variable {m : Type → Type} [Monad m]

/-- Converts the comments of the set in one file into another, and counts them. -/
def convertFile (files : FileAccess m) (convert : Converter m) (config : Config)
    (source dest : String) : m (Except RunError Nat) := do
  match ← files.read source with
  | .error cause => pure (.error (.decode (.unreadableSet source cause)))
  | .ok bytes =>
    match ← convertBytes convert config bytes with
    | .error cause => pure (.error cause)
    | .ok (count, converted) =>
      match ← files.write dest converted with
      | .error cause => pure (.error (.io cause))
      | .ok () => pure (.ok count)

end DescriptorSet

end SchemaDocs
