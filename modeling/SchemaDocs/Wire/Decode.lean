import SchemaDocs.Wire.Encode
/-!
# Reading messages

A message is read field by field into what was read before: a field that holds one
value takes the last one, a message in such a field is merged, and a list grows.
Fields without a description are passed over.  Lengths are held against all bytes
that are left, and only at its end is a value found to have run past it.
-/

namespace SchemaDocs.Wire

/-- The number of levels that messages and groups may be nested. -/
def nestingLimit : Nat := 100

/-- Repeats a step until no more than `limit` bytes are left.  A step takes at least a byte, so
that their number is fuel enough. -/
def repeatUntil {ε σ : Type} (limit : Nat) (step : σ → Bytes → Except ε (σ × Bytes)) :
    Nat → σ → Bytes → Except ε (σ × Bytes)
  | 0, state, bytes => .ok (state, bytes)
  | fuel + 1, state, bytes =>
    if limit < bytes.length then
      match step state bytes with
      | .error cause => .error cause
      | .ok (state, rest) => repeatUntil limit step fuel state rest
    else .ok (state, bytes)

/-- Reads the contents of a value whose length comes first. -/
def readContents {σ : Type} (step : σ → Bytes → Except WireError (σ × Bytes)) (state : σ)
    (bytes : Bytes) : Except WireError (σ × Bytes) := do
  let (length, rest) ← bare (readVarint bytes)
  if rest.length < length then .error ⟨[], .bufferUnderflow⟩
  else
    let limit := rest.length - length
    let (state, rest) ← repeatUntil limit step rest.length state rest
    if rest.length = limit then .ok (state, rest) else .error ⟨[], .lengthExceeded⟩

/-- A fault unless a wire type is the expected one. -/
def expect (actual expected : WireType) : Except Fault Unit :=
  if actual = expected then .ok () else .error (.wireTypeMismatch actual expected)

/-- A word of bytes, the least significant first. -/
def ofLittleEndian : Bytes → Nat
  | [] => 0
  | byte :: rest => byte.toNat + 256 * ofLittleEndian rest

/-- Reads a value without parts. -/
def readScalar (scalar : Scalar) (bytes : Bytes) : Except Fault (Value × Bytes) :=
  match scalar with
  | .int32 => (readVarint bytes).map fun read => (.int32 (Int32.ofNat read.1), read.2)
  | .int64 => (readVarint bytes).map fun read => (.int64 (Int64.ofNat read.1), read.2)
  | .uint64 => (readVarint bytes).map fun read => (.uint64 (UInt64.ofNat read.1), read.2)
  | .bool => (readVarint bytes).map fun read => (.bool (read.1 != 0), read.2)
  | .double =>
    (takeBytes 8 bytes).map fun read =>
      (.double ⟨UInt64.ofNat (ofLittleEndian read.1)⟩, read.2)
  | .bytes => (readDelimited bytes).map fun read => (.bytes read.1, read.2)
  | .string =>
    match readDelimited bytes with
    | .error fault => .error fault
    | .ok (content, rest) =>
      match Text.ofUtf8? content with
      | some text => .ok (.string text, rest)
      | none => .error .notUtf8

/-- Reads one of several values that have no keys of their own. -/
def readPackedItem (scalar : Scalar) (values : List Value) (bytes : Bytes) :
    Except WireError (List Value × Bytes) :=
  (bare (readScalar scalar bytes)).map fun read => (values ++ [read.1], read.2)

/-- What a field holds after one more value was read for it. -/
def putValue (occurrence : Occurrence) (slot : List Value) (value : Value) : List Value :=
  if occurrence.isList then slot ++ [value] else [value]

/-- Reads a value without parts into a field.  A list of numbers is taken in either form. -/
def mergeScalar (occurrence : Occurrence) (scalar : Scalar) (type : WireType) (slot : List Value)
    (bytes : Bytes) : Except WireError (List Value × Bytes) :=
  if occurrence.isList ∧ scalar.wireType ≠ .lengthDelimited ∧ type = .lengthDelimited then
    readContents (readPackedItem scalar) slot bytes
  else do
    bare (expect type scalar.wireType)
    let (value, rest) ← bare (readScalar scalar bytes)
    .ok (putValue occurrence slot value, rest)

/-- A reader of the fields of messages. -/
abbrev FieldReader := MessageType → Record → Bytes → Except WireError (Record × Bytes)

/-- The message that is read into: in a list a new one, else the one that is there. -/
def messageBase (occurrence : Occurrence) (inner : MessageType) : List Value → Record
  | [.message record] => if occurrence.isList then Record.initial inner else record
  | _ => Record.initial inner

/-- Reads a message into a field, whose own fields are read with the given reader if there is
one. -/
def mergeMessage (reader : Option FieldReader) (occurrence : Occurrence) (inner : MessageType)
    (type : WireType) (slot : List Value) (bytes : Bytes) :
    Except WireError (List Value × Bytes) := do
  bare (expect type .lengthDelimited)
  match reader with
  | none => .error ⟨[], .recursionLimit⟩
  | some reader =>
    let (record, rest) ← readContents (reader inner) (messageBase occurrence inner slot) bytes
    .ok (putValue occurrence slot (.message record), rest)

/-- Passes over the fields of a group up to its end. -/
def skipGroup (skip : WireType → Nat → Bytes → Except Fault Bytes) (number : Nat) :
    Nat → Bytes → Except Fault Bytes
  | 0, _ => .error .invalidVarint
  | fuel + 1, bytes => do
    let (inner, type, rest) ← readKey bytes
    if type = .endGroup then
      if inner = number then .ok rest else .error .unexpectedEndGroup
    else
      let rest ← skip type inner rest
      skipGroup skip number fuel rest

/-- Passes over the value of a field without a description. -/
def skipField : Nat → WireType → Nat → Bytes → Except Fault Bytes
  | 0, _, _, _ => .error .recursionLimit
  | depth + 1, type, number, bytes =>
    match type with
    | .varint => (readVarint bytes).map Prod.snd
    | .sixtyFourBit => (takeBytes 8 bytes).map Prod.snd
    | .thirtyTwoBit => (takeBytes 4 bytes).map Prod.snd
    | .lengthDelimited => (readDelimited bytes).map Prod.snd
    | .startGroup => skipGroup (skipField depth) number (bytes.length + 1) bytes
    | .endGroup => .error .unexpectedEndGroup

/-- Reads one field of a message. -/
def mergeFieldWith (depth : Nat) (reader : Option FieldReader) : FieldReader :=
  fun owner record bytes => do
    let (number, type, rest) ← bare (readKey bytes)
    match owner.field? number with
    | none =>
      let rest ← bare (skipField depth type number rest)
      .ok (record, rest)
    | some (position, spec) =>
      let slot := record[position]?.getD []
      let (slot, rest) ← within owner.name spec.name
        (match spec.kind with
        | .plain scalar => mergeScalar spec.occurrence scalar type slot rest
        | .message inner => mergeMessage reader spec.occurrence inner type slot rest)
      .ok (record.set position slot, rest)

/-- Reads one field of a message that has a number of levels left below it. -/
def mergeField : Nat → FieldReader
  | 0 => mergeFieldWith 0 none
  | depth + 1 => mergeFieldWith (depth + 1) (some (mergeField depth))

/-- Reads a whole message. -/
def decode (type : MessageType) (bytes : Bytes) : Except WireError Record :=
  (repeatUntil 0 (mergeField nestingLimit type) bytes.length (Record.initial type) bytes).map
    Prod.fst

end SchemaDocs.Wire
