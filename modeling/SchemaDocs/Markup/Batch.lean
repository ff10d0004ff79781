import SchemaDocs.Markup.Comment
import SchemaDocs.Text.Basic
/-!
# Batches and their converters

What converts a text, and how many comments are converted in one call.

## Converters

A converter turns text from one markup into another.  It may fail, and it may be any
effect, such as a process or a table of prepared answers.
-/

namespace SchemaDocs

/-- Why a conversion failed. -/
inductive ConvertError where
  /-- The converter could not be started. -/
  | spawnFailed (reason : String)
  /-- The converter ended with a code that is not zero. -/
  | nonZeroExit (code : Int) (stderr : String)
  /-- The converter took longer than the given milliseconds. -/
  | timeout (milliseconds : Nat)
  /-- Talking to the converter failed. -/
  | io (reason : String)
deriving DecidableEq

/-- The decimal digits of thousandths, without zeros at their end. -/
def thousandths (n : Nat) : String :=
  if n % 10 ≠ 0 then
    String.ofList [Nat.digitChar (n / 100), Nat.digitChar (n / 10 % 10), Nat.digitChar (n % 10)]
  else if n % 100 ≠ 0 then String.ofList [Nat.digitChar (n / 100), Nat.digitChar (n / 10 % 10)]
  else String.ofList [Nat.digitChar (n / 100)]

/-- A length of time: in seconds from one second on, else in milliseconds, and nothing at all in
nanoseconds. -/
def durationText (milliseconds : Nat) : String :=
  if milliseconds = 0 then "0ns"
  else if milliseconds < 1000 then toString milliseconds ++ "ms"
  else if milliseconds % 1000 = 0 then toString (milliseconds / 1000) ++ "s"
  else toString (milliseconds / 1000) ++ "." ++ thousandths (milliseconds % 1000) ++ "s"

/-- The text of a conversion failure. -/
def ConvertError.message : ConvertError → String
  | .spawnFailed reason => "failed to spawn converter: " ++ reason
  | .nonZeroExit code stderr =>
    "converter exited with code " ++ toString code ++ ": " ++ stderr
  | .timeout milliseconds => "converter timed out after " ++ durationText milliseconds
  | .io reason => "converter I/O error: " ++ reason

/-- A text to convert, and the names of the markup it is in and of the one wanted. -/
structure ConversionCall where
  text : String
  sourceFormat : String
  targetFormat : String
deriving DecidableEq

/-- The outcome of a conversion. -/
abbrev ConversionAnswer := Except ConvertError String

/-- Whatever answers conversion calls, with effects in a monad. -/
abbrev Converter (m : Type → Type) := ConversionCall → m ConversionAnswer

end SchemaDocs

/-!
## Batches of comments

All comments that need conversion are converted in one call, with a separator between
any two.  A batch is filled, converted once, and then read back in the order in which
the comments were submitted; the others come back as they are.
-/

namespace SchemaDocs

/-- What a batch needs to know of the configuration. -/
structure MarkupSettings where
  host : String
  sourceFormat : String
  targetFormat : String

/-- Why a batch refused an operation. -/
inductive BatchError where
  /-- The batch takes no more comments. -/
  | alreadyConverted
  /-- There is nothing to read yet. -/
  | notConverted
  /-- The converted text does not fall into one piece for each comment. -/
  | pieceCountMismatch (expected actual : Nat)
  /-- The converter failed. -/
  | convert (cause : ConvertError)
  /-- More comments were asked for than were submitted. -/
  | exhausted

/-- The text of a batch error. -/
def BatchError.message : BatchError → String
  | .alreadyConverted => "comments were already converted"
  | .notConverted => "comments have not been converted yet"
  | .pieceCountMismatch expected actual =>
    "converter returned " ++ toString actual ++ " pieces for " ++ toString expected ++ " comments"
  | .convert cause => cause.message
  | .exhausted => "ran out of converted comments"

/-- The place of one comment in a batch. -/
inductive Slot where
  /-- A comment that needs no conversion. -/
  | ready (text : String)
  /-- A comment that waits for conversion. -/
  | waiting
  /-- A comment after its conversion. -/
  | converted (text : String)

/-- Whether a slot waits for conversion. -/
def Slot.isWaiting : Slot → Bool
  | .waiting => true
  | _ => false

/-- A batch of comments. -/
structure Batch where
  settings : MarkupSettings
  slots : List Slot
  /-- The waiting comments with separators between them. -/
  text : String
  /-- The number of comments that were given to the conversion. -/
  pending : Nat
  isConverted : Bool
  /-- The number of comments that were read back. -/
  cursor : Nat

namespace Batch

/-- The separator between two comments. -/
def token : String := "$#!"

/-- A batch without comments. -/
def new (settings : MarkupSettings) : Batch := ⟨settings, [], "", 0, false, 0⟩

/-- The number of submitted comments. -/
def size (batch : Batch) : Nat := batch.slots.length

/-- The text of a batch with one more comment. -/
def extendText (batch : Batch) (comment : String) : String :=
  if batch.pending = 0 then batch.text ++ comment else batch.text ++ "\n" ++ token ++ comment

/-- Adds a comment, with its links replaced. -/
def submit (batch : Batch) (comment : String) : Except BatchError Batch :=
  if batch.isConverted then .error .alreadyConverted
  else
    let comment := Markup.replaceLinks batch.settings.host comment
    if Markup.needsConversion comment then
      .ok { batch with
        slots := batch.slots ++ [.waiting]
        text := batch.extendText comment
        pending := batch.pending + 1 }
    else .ok { batch with slots := batch.slots ++ [.ready comment] }

/-- Adds comments one after the other. -/
def submitAll (batch : Batch) : List String → Except BatchError Batch
  | [] => .ok batch
  | comment :: rest =>
    match batch.submit comment with
    | .error cause => .error cause
    | .ok batch => batch.submitAll rest

/-- The call that converts a batch. -/
def call (batch : Batch) : ConversionCall :=
  ⟨batch.text, batch.settings.sourceFormat, batch.settings.targetFormat⟩

/-- The pieces of a converted text. -/
def piecesOf (output : String) : List String :=
  (Text.pieces token.toList output.toList).map String.ofList

/-- Puts one piece into each waiting slot. -/
def fill : List Slot → List String → List Slot
  | .waiting :: slots, piece :: pieces =>
    .converted (Markup.insertSpaces piece) :: fill slots pieces
  | .waiting :: slots, [] => .waiting :: fill slots []
  | slot :: slots, pieces => slot :: fill slots pieces
  | [], _ => []

/-- Takes the text that a batch was converted to. -/
def accept (batch : Batch) (output : String) : Except BatchError Batch :=
  let pieces := piecesOf output
  if pieces.length = batch.pending then
    .ok { batch with slots := fill batch.slots pieces, text := "", isConverted := true }
  else .error (.pieceCountMismatch batch.pending pieces.length)

/-- Converts the waiting comments with one call, and with none if there are none. -/
def convertAll {m : Type → Type} [Monad m] (convert : Converter m) (batch : Batch) :
    m (Except BatchError Batch) :=
  if batch.isConverted then pure (.error .alreadyConverted)
  else if batch.pending = 0 then pure (.ok { batch with isConverted := true })
  else do
    match ← convert batch.call with
    | .error cause => pure (.error (.convert cause))
    | .ok output => pure (batch.accept output)

/-- Reads the next comment back, or nothing once all were read. -/
def next (batch : Batch) : Except BatchError (Option String × Batch) :=
  if !batch.isConverted then .error .notConverted
  else
    match batch.slots[batch.cursor]? with
    | none => .ok (none, batch)
    | some .waiting => .error .notConverted
    | some (.ready text) => .ok (some text, { batch with cursor := batch.cursor + 1 })
    | some (.converted text) => .ok (some text, { batch with cursor := batch.cursor + 1 })

/-- Reads the next comment back, where one has to be left. -/
def nextText (batch : Batch) : Except BatchError (String × Batch) :=
  match batch.next with
  | .error cause => .error cause
  | .ok (none, _) => .error .exhausted
  | .ok (some text, batch) => .ok (text, batch)

end Batch

end SchemaDocs
