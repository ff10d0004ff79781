import SchemaDocs.Wire.Encode
/-!
# Storable values

Types whose values are kept in the fields of a record.  Reading a stored value gives
the value back.
-/

namespace SchemaDocs.Wire

/-- A type with a form as a field value. -/
class Storable (α : Type) where
  toValue : α → Value
  ofValue? : Value → Option α
  ofValue?_toValue : ∀ a, ofValue? (toValue a) = some a

export Storable (toValue ofValue?)

attribute [simp] Storable.ofValue?_toValue

instance : Storable String where
  toValue := .string
  ofValue?
    | .string value => some value
    | _ => none
  ofValue?_toValue _ := rfl

instance : Storable Int32 where
  toValue := .int32
  ofValue?
    | .int32 value => some value
    | _ => none
  ofValue?_toValue _ := rfl

instance : Storable Int64 where
  toValue := .int64
  ofValue?
    | .int64 value => some value
    | _ => none
  ofValue?_toValue _ := rfl

instance : Storable UInt64 where
  toValue := .uint64
  ofValue?
    | .uint64 value => some value
    | _ => none
  ofValue?_toValue _ := rfl

instance : Storable Bool where
  toValue := .bool
  ofValue?
    | .bool value => some value
    | _ => none
  ofValue?_toValue _ := rfl

instance : Storable DoubleBits where
  toValue := .double
  ofValue?
    | .double value => some value
    | _ => none
  ofValue?_toValue _ := rfl

instance : Storable Bytes where
  toValue := .bytes
  ofValue?
    | .bytes value => some value
    | _ => none
  ofValue?_toValue _ := rfl

section

variable {α : Type} [Storable α]

/-- The values of a field that may be absent. -/
def optional : Option α → List Value
  | none => []
  | some a => [toValue a]

/-- What a field that may be absent holds. -/
def optional? (slot : List Value) : Option α := slot.head?.bind ofValue?

@[simp] theorem optional?_optional (x : Option α) : optional? (optional x) = x := by
  cases x <;> simp [optional, optional?]

/-- The values of a list field. -/
def list (xs : List α) : List Value := xs.map toValue

/-- What a list field holds. -/
def list? (slot : List Value) : List α := slot.filterMap ofValue?

@[simp] theorem list?_list (xs : List α) : list? (list xs) = xs := by
  induction xs with
  | nil => rfl
  | cons x xs ih =>
    simp only [list, list?, List.map_cons] at ih ⊢
    simp [ih]

/-- The value of a field that is never absent. -/
def required (a : α) : List Value := [toValue a]

/-- What a field that is never absent holds. -/
def required? (default : α) (slot : List Value) : α := (optional? slot).getD default

@[simp] theorem required?_required (default a : α) : required? default (required a) = a := by
  simp [required, required?, optional?]

end

/-- A type whose values are messages, stored as their records. -/
abbrev Storable.ofRecord {α : Type} (toRecord : α → Record) (ofRecord : Record → α)
    (law : ∀ a, ofRecord (toRecord a) = a) : Storable α where
  toValue a := .message (toRecord a)
  ofValue?
    | .message record => some (ofRecord record)
    | _ => none
  ofValue?_toValue a := by simp [law]

end SchemaDocs.Wire
