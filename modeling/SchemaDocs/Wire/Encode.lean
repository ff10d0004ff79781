import SchemaDocs.Descriptor.Options
import SchemaDocs.Text.Utf8
import SchemaDocs.Wire.Error
import SchemaDocs.Wire.Schema
/-!
# Messages as bytes

A message is a row of keys with their values.

## Numbers and keys

A number is written in groups of seven bits, the least significant first, and every
byte but the last has its high bit set.  A key holds the number and the wire type of
a field.
-/

namespace SchemaDocs.Wire

/-- The bytes of a number. -/
def writeVarint (n : Nat) : Bytes :=
  if n < 128 then [UInt8.ofNat n] else UInt8.ofNat (n % 128 + 128) :: writeVarint (n / 128)

/-- A number of at most the given count of bytes, and what follows it.  A tenth byte has room for
one bit. -/
def readVarintWithin : Nat → Bytes → Except Fault (Nat × Bytes)
  | _, [] => .error .invalidVarint
  | 0, _ :: _ => .error .invalidVarint
  | left + 1, byte :: rest =>
    if byte.toNat < 128 then
      if left = 0 ∧ 2 ≤ byte.toNat then .error .invalidVarint else .ok (byte.toNat, rest)
    else
      match readVarintWithin left rest with
      | .error fault => .error fault
      | .ok (high, rest) => .ok (byte.toNat - 128 + 128 * high, rest)

/-- A number and what follows it. -/
def readVarint (bytes : Bytes) : Except Fault (Nat × Bytes) := readVarintWithin 10 bytes

/-- The bytes of a key. -/
def writeKey (number : Nat) (type : WireType) : Bytes := writeVarint (number * 8 + type.code)

/-- The field number and wire type of a key, and what follows it. -/
def readKey (bytes : Bytes) : Except Fault (Nat × WireType × Bytes) :=
  match readVarint bytes with
  | .error fault => .error fault
  | .ok (key, rest) =>
    if UInt32.size ≤ key then .error (.invalidKey key)
    else
      match WireType.ofCode? (key % 8) with
      | none => .error (.invalidWireType (key % 8))
      | some type => if key / 8 = 0 then .error .invalidTag else .ok (key / 8, type, rest)

/-- The first bytes of what is left, and those after them. -/
def takeBytes (count : Nat) (bytes : Bytes) : Except Fault (Bytes × Bytes) :=
  if bytes.length < count then .error .bufferUnderflow
  else .ok (bytes.take count, bytes.drop count)

/-- The bytes of a content with its length in front. -/
def writeDelimited (content : Bytes) : Bytes := writeVarint content.length ++ content

/-- A content with its length in front, and what follows it. -/
def readDelimited (bytes : Bytes) : Except Fault (Bytes × Bytes) :=
  match readVarint bytes with
  | .error fault => .error fault
  | .ok (length, rest) => takeBytes length rest

end SchemaDocs.Wire

/-!
## Records

The contents of a message: for each field of its type, in order, the values that it
holds.  An absent field holds none, and a required one always holds one.
-/

namespace SchemaDocs.Wire

/-- A value of a field. -/
inductive Value where
  | int32 (value : Int32)
  | int64 (value : Int64)
  | uint64 (value : UInt64)
  | bool (value : Bool)
  | double (value : DoubleBits)
  | string (value : String)
  | bytes (value : Bytes)
  | message (slots : List (List Value))

/-- The values of the fields of a message. -/
abbrev Record := List (List Value)

/-- The value that a required field has before it is read. -/
def Scalar.initial : Scalar → Value
  | .int32 => .int32 0
  | .int64 => .int64 0
  | .uint64 => .uint64 0
  | .bool => .bool false
  | .double => .double ⟨0⟩
  | .string => .string ""
  | .bytes => .bytes []

/-- The values that a field has before it is read. -/
def FieldSpec.initial (spec : FieldSpec) : List Value :=
  match spec.occurrence, spec.kind with
  | .required, .plain scalar => [scalar.initial]
  | _, _ => []

/-- A message in which nothing was read. -/
def Record.initial (type : MessageType) : Record := type.fields.map FieldSpec.initial

end SchemaDocs.Wire

/-!
## Writing messages

Fields are written in the order of their numbers, absent ones not at all, and present
ones even where they hold a default.
-/

namespace SchemaDocs.Wire

/-- The bits of a whole number in the two's complement of 64 bits. -/
def wordOfInt (n : Int) : Nat := (n % (UInt64.size : Int)).toNat

/-- The bytes of a word, the least significant first. -/
def littleEndian : Nat → Nat → Bytes
  | 0, _ => []
  | count + 1, n => UInt8.ofNat (n % 256) :: littleEndian count (n / 256)

/-- The wire type of a scalar. -/
def Scalar.wireType : Scalar → WireType
  | .int32 | .int64 | .uint64 | .bool => .varint
  | .double => .sixtyFourBit
  | .string | .bytes => .lengthDelimited

/-- The wire type of what a field holds. -/
def FieldKind.wireType : FieldKind → WireType
  | .plain scalar => scalar.wireType
  | .message _ => .lengthDelimited

mutual

/-- The bytes of a value without its key. -/
def writeValue (kind : FieldKind) : Value → Bytes
  | .int32 value => writeVarint (wordOfInt value.toInt)
  | .int64 value => writeVarint (wordOfInt value.toInt)
  | .uint64 value => writeVarint value.toNat
  | .bool value => writeVarint value.toNat
  | .double value => littleEndian 8 value.bits.toNat
  | .string value => writeDelimited (Text.toUtf8 value)
  | .bytes value => writeDelimited value
  | .message slots =>
    match kind with
    | .message type => writeDelimited (writeSlots type.fields slots)
    | .plain _ => []

/-- The bytes of values, each with a key in front. -/
def writeEach (number : Nat) (kind : FieldKind) : List Value → Bytes
  | [] => []
  | value :: rest =>
    writeKey number kind.wireType ++ writeValue kind value ++ writeEach number kind rest

/-- The bytes of values without keys. -/
def writePacked (kind : FieldKind) : List Value → Bytes
  | [] => []
  | value :: rest => writeValue kind value ++ writePacked kind rest

/-- The bytes of fields. -/
def writeSlots : List FieldSpec → List (List Value) → Bytes
  | spec :: specs, slot :: slots =>
    (match spec.occurrence, slot with
      | .packed, [] => []
      | .packed, values =>
        writeKey spec.number .lengthDelimited ++ writeDelimited (writePacked spec.kind values)
      | _, values => writeEach spec.number spec.kind values)
      ++ writeSlots specs slots
  | _, _ => []

end

/-- The bytes of a message. -/
def encode (type : MessageType) (record : Record) : Bytes := writeSlots type.fields record

end SchemaDocs.Wire
