import SchemaDocs.Text.Utf8
/-!
# Faults in binary messages

What can be wrong with the bytes of a message, and where: the fields that enclose the
fault, from the innermost outwards.
-/

namespace SchemaDocs.Wire

/-- How the bytes of a field are delimited. -/
inductive WireType where
  | varint | sixtyFourBit | lengthDelimited | startGroup | endGroup | thirtyTwoBit
deriving DecidableEq

namespace WireType

/-- The number of a wire type in a key. -/
def code : WireType → Nat
  | .varint => 0
  | .sixtyFourBit => 1
  | .lengthDelimited => 2
  | .startGroup => 3
  | .endGroup => 4
  | .thirtyTwoBit => 5

/-- The wire type of a number. -/
def ofCode? : Nat → Option WireType
  | 0 => some .varint
  | 1 => some .sixtyFourBit
  | 2 => some .lengthDelimited
  | 3 => some .startGroup
  | 4 => some .endGroup
  | 5 => some .thirtyTwoBit
  | _ => none

theorem ofCode?_code (type : WireType) : ofCode? type.code = some type := by
  cases type <;> rfl

/-- The name of a wire type. -/
def name : WireType → String
  | .varint => "Varint"
  | .sixtyFourBit => "SixtyFourBit"
  | .lengthDelimited => "LengthDelimited"
  | .startGroup => "StartGroup"
  | .endGroup => "EndGroup"
  | .thirtyTwoBit => "ThirtyTwoBit"

end WireType

/-- What is wrong with the bytes of a message. -/
inductive Fault where
  /-- A number has too many bytes or ends too early. -/
  | invalidVarint
  /-- A key does not fit into 32 bits. -/
  | invalidKey (key : Nat)
  /-- There is no such wire type. -/
  | invalidWireType (code : Nat)
  /-- A field has the number zero. -/
  | invalidTag
  /-- A field has a wire type that its kind does not allow. -/
  | wireTypeMismatch (actual expected : WireType)
  /-- A value is longer than all that is left. -/
  | bufferUnderflow
  /-- The contents of a value ran past its end. -/
  | lengthExceeded
  /-- A string is not UTF-8. -/
  | notUtf8
  /-- A group ends that was not begun. -/
  | unexpectedEndGroup
  /-- Messages or groups are nested too deeply. -/
  | recursionLimit
deriving DecidableEq

/-- The text of a fault. -/
def Fault.message : Fault → String
  | .invalidVarint => "invalid varint"
  | .invalidKey key => "invalid key value: " ++ toString key
  | .invalidWireType code => "invalid wire type value: " ++ toString code
  | .invalidTag => "invalid tag value: 0"
  | .wireTypeMismatch actual expected =>
    "invalid wire type: " ++ actual.name ++ " (expected " ++ expected.name ++ ")"
  | .bufferUnderflow => "buffer underflow"
  | .lengthExceeded => "delimited length exceeded"
  | .notUtf8 => "invalid string value: data is not UTF-8 encoded"
  | .unexpectedEndGroup => "unexpected end group tag"
  | .recursionLimit => "recursion limit reached"

/-- A fault and the fields around it, each with the message that has it, innermost first. -/
structure WireError where
  trail : List (String × String)
  fault : Fault
deriving DecidableEq

/-- The text of an error. -/
def WireError.message (error : WireError) : String :=
  "failed to decode Protobuf message: "
    ++ String.join (error.trail.map fun field => field.1 ++ "." ++ field.2 ++ ": ")
    ++ error.fault.message

/-- A fault that no field encloses yet. -/
def bare {α : Type} : Except Fault α → Except WireError α
  | .ok a => .ok a
  | .error fault => .error ⟨[], fault⟩

/-- An error that one more field encloses. -/
def within {α : Type} (message field : String) : Except WireError α → Except WireError α
  | .ok a => .ok a
  | .error cause => .error { cause with trail := cause.trail ++ [(message, field)] }

end SchemaDocs.Wire
