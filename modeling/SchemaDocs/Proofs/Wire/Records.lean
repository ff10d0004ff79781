import SchemaDocs.Proofs.Wire.Depth
import SchemaDocs.Wire.Storable
import Mathlib.Data.List.Forall2
import SchemaDocs.Wire.OptionRecords
import SchemaDocs.Wire.DescriptorRecords
/-!
# Types of records

The records of all messages are of the types that the schema tells.
-/

/-!
## Types of stored values

What is stored is of the kind that the schema tells for its field, and what is taken from a value
has no more levels than the value.
-/

namespace SchemaDocs.Wire

/-- A type whose values are stored as values of a kind. -/
class OfKind (α : Type) [Storable α] (kind : FieldKind) : Prop where
  hasKind : ∀ a : α, (toValue a).HasKind kind

/-- A type where what is taken from a value has no more levels than the value. -/
class Shallow (α : Type) [Storable α] : Prop where
  depth_le : ∀ {value : Value} {a : α}, ofValue? value = some a → (toValue a).depth ≤ value.depth

/-! ### Values without parts -/

instance : OfKind String (.plain .string) := ⟨fun _ => rfl⟩
instance : OfKind Int32 (.plain .int32) := ⟨fun _ => rfl⟩
instance : OfKind Int64 (.plain .int64) := ⟨fun _ => rfl⟩
instance : OfKind UInt64 (.plain .uint64) := ⟨fun _ => rfl⟩
instance : OfKind Bool (.plain .bool) := ⟨fun _ => rfl⟩
instance : OfKind DoubleBits (.plain .double) := ⟨fun _ => rfl⟩
instance : OfKind Bytes (.plain .bytes) := ⟨fun _ => rfl⟩

instance : Shallow String := ⟨fun _ => Nat.zero_le _⟩
instance : Shallow Int32 := ⟨fun _ => Nat.zero_le _⟩
instance : Shallow Int64 := ⟨fun _ => Nat.zero_le _⟩
instance : Shallow UInt64 := ⟨fun _ => Nat.zero_le _⟩
instance : Shallow Bool := ⟨fun _ => Nat.zero_le _⟩
instance : Shallow DoubleBits := ⟨fun _ => Nat.zero_le _⟩
instance : Shallow Bytes := ⟨fun _ => Nat.zero_le _⟩

/-! ### Slots -/

section

variable {α : Type} [Storable α]

theorem length_optional_le (x : Option α) : (optional x).length ≤ 1 := by
  cases x <;> simp [optional]

section

variable {kind : FieldKind} [OfKind α kind]

theorem allHaveKind_optional (x : Option α) : AllHaveKind kind (optional x) := by
  cases x with
  | none => trivial
  | some a => exact ⟨OfKind.hasKind a, trivial⟩

theorem allHaveKind_list (xs : List α) : AllHaveKind kind (list xs) := by
  rw [allHaveKind_iff]
  intro value hvalue
  obtain ⟨a, -, rfl⟩ := List.mem_map.1 hvalue
  exact OfKind.hasKind a

end

section

variable [Shallow α]

/-- No levels are added by what a list is taken for. -/
theorem valuesDepth_list_le (slot : List Value) :
    valuesDepth (list (list? slot : List α)) ≤ valuesDepth slot := by
  rw [valuesDepth_le_iff]
  intro value hvalue
  obtain ⟨a, ha, rfl⟩ := List.mem_map.1 hvalue
  obtain ⟨old, hold, ha⟩ := List.mem_filterMap.1 ha
  exact Nat.le_trans (Shallow.depth_le ha) (valuesDepth_le_iff.1 (Nat.le_refl _) old hold)

theorem valuesDepth_optional_le (slot : List Value) :
    valuesDepth (optional (optional? slot : Option α)) ≤ valuesDepth slot := by
  cases slot with
  | nil => exact Nat.le_refl _
  | cons value rest =>
      have hhead : optional? (value :: rest) = (ofValue? value : Option α) := rfl
      rw [hhead]
      cases ha : (ofValue? value : Option α) with
      | none => exact Nat.zero_le _
      | some a =>
          rw [optional, valuesDepth, valuesDepth, Nat.max_zero, valuesDepth]
          exact Nat.le_trans (Shallow.depth_le ha) (Nat.le_max_left _ _)

end

end

/-- Slots that are no deeper one by one are no deeper together. -/
theorem slotsDepth_le_of_forall₂ {news olds : List (List Value)}
    (h : List.Forall₂ (fun new old => valuesDepth new ≤ valuesDepth old) news olds) :
    slotsDepth news ≤ slotsDepth olds := by
  induction h with
  | nil => exact Nat.le_refl _
  | cons hslot _ ih =>
      rw [slotsDepth, slotsDepth]
      exact Nat.max_le.2 ⟨Nat.le_trans hslot (Nat.le_max_left _ _),
        Nat.le_trans ih (Nat.le_max_right _ _)⟩

/-! ### Records -/

theorem OfKind.record {α : Type} {toRecord : α → Record} {ofRecord : Record → α}
    (law : ∀ a, ofRecord (toRecord a) = a) {type : MessageType}
    (h : ∀ a, SlotsFit type.fields (toRecord a)) :
    @OfKind α (.ofRecord toRecord ofRecord law) (.message type) :=
  @OfKind.mk α (.ofRecord toRecord ofRecord law) _ h

/-- What is taken from a value is shallow, where what is taken from a record is. -/
theorem Shallow.record {α : Type} {toRecord : α → Record} {ofRecord : Record → α}
    (law : ∀ a, ofRecord (toRecord a) = a)
    (h : ∀ record, slotsDepth (toRecord (ofRecord record)) ≤ slotsDepth record) :
    @Shallow α (.ofRecord toRecord ofRecord law) := by
  refine @Shallow.mk α (.ofRecord toRecord ofRecord law) ?_
  intro value a ha
  cases value with
  | message record =>
      obtain rfl : ofRecord record = a := Option.some.inj ha
      exact Nat.succ_le_succ (h record)
  | _ => cases ha

-- The fields of each type are listed by these, and a slot for each of them fits.
attribute [simp] SlotsFit FieldSpec.Holds FieldSpec.text FieldSpec.texts FieldSpec.int
  FieldSpec.ints FieldSpec.packedInts FieldSpec.flag FieldSpec.scalar FieldSpec.part
  FieldSpec.parts FieldSpec.uninterpreted length_optional_le allHaveKind_optional allHaveKind_list
  valuesDepth_optional_le valuesDepth_list_le

end SchemaDocs.Wire

/-!
## Types of options

The records of options are of the types that the schema tells.
-/

namespace SchemaDocs

open Wire

/-! ### Name parts -/

namespace NamePart

instance : OfKind NamePart (.message .namePart) := .record ofRecord_toRecord fun x => by
  simp [toRecord, MessageType.fields, required, AllHaveKind, OfKind.hasKind]

instance : Shallow NamePart := .record ofRecord_toRecord fun record => by
  rw [ofRecord.eq_def]
  split
  · exact slotsDepth_le_of_forall₂ (.cons (Nat.zero_le _) (.cons (Nat.zero_le _) .nil))
  · exact Nat.zero_le _

end NamePart

/-! ### Options not interpreted -/

namespace UninterpretedOption

instance : OfKind UninterpretedOption (.message .uninterpretedOption) := .record ofRecord_toRecord fun x => by
  simp [toRecord, MessageType.fields]

instance : Shallow UninterpretedOption := .record ofRecord_toRecord fun record => by
  rw [ofRecord.eq_def]
  split
  · exact slotsDepth_le_of_forall₂ (by simp [toRecord])
  · exact Nat.zero_le _

end UninterpretedOption

/-! ### Options of files -/

namespace FileOptions

instance : OfKind FileOptions (.message .fileOptions) := .record ofRecord_toRecord fun x => by
  simp [toRecord, MessageType.fields]

instance : Shallow FileOptions := .record ofRecord_toRecord fun record => by
  rw [ofRecord.eq_def]
  split
  · exact slotsDepth_le_of_forall₂ (by simp [toRecord])
  · exact Nat.zero_le _

end FileOptions

/-! ### Options of messages -/

namespace MessageOptions

instance : OfKind MessageOptions (.message .messageOptions) := .record ofRecord_toRecord fun x => by
  simp [toRecord, MessageType.fields]

instance : Shallow MessageOptions := .record ofRecord_toRecord fun record => by
  rw [ofRecord.eq_def]
  split
  · exact slotsDepth_le_of_forall₂ (by simp [toRecord])
  · exact Nat.zero_le _

end MessageOptions

/-! ### Options of fields -/

namespace FieldOptions

instance : OfKind FieldOptions (.message .fieldOptions) := .record ofRecord_toRecord fun x => by
  simp [toRecord, MessageType.fields]

instance : Shallow FieldOptions := .record ofRecord_toRecord fun record => by
  rw [ofRecord.eq_def]
  split
  · exact slotsDepth_le_of_forall₂ (by simp [toRecord])
  · exact Nat.zero_le _

end FieldOptions

/-! ### Options of oneofs -/

namespace OneofOptions

instance : OfKind OneofOptions (.message .oneofOptions) := .record ofRecord_toRecord fun x => by
  simp [toRecord, MessageType.fields]

instance : Shallow OneofOptions := .record ofRecord_toRecord fun record => by
  rw [ofRecord.eq_def]
  split
  · exact slotsDepth_le_of_forall₂ (by simp [toRecord])
  · exact Nat.zero_le _

end OneofOptions

/-! ### Options of enums -/

namespace EnumOptions

instance : OfKind EnumOptions (.message .enumOptions) := .record ofRecord_toRecord fun x => by
  simp [toRecord, MessageType.fields]

instance : Shallow EnumOptions := .record ofRecord_toRecord fun record => by
  rw [ofRecord.eq_def]
  split
  · exact slotsDepth_le_of_forall₂ (by simp [toRecord])
  · exact Nat.zero_le _

end EnumOptions

/-! ### Options of enum values -/

namespace EnumValueOptions

instance : OfKind EnumValueOptions (.message .enumValueOptions) := .record ofRecord_toRecord fun x => by
  simp [toRecord, MessageType.fields]

instance : Shallow EnumValueOptions := .record ofRecord_toRecord fun record => by
  rw [ofRecord.eq_def]
  split
  · exact slotsDepth_le_of_forall₂ (by simp [toRecord])
  · exact Nat.zero_le _

end EnumValueOptions

/-! ### Options of services -/

namespace ServiceOptions

instance : OfKind ServiceOptions (.message .serviceOptions) := .record ofRecord_toRecord fun x => by
  simp [toRecord, MessageType.fields]

instance : Shallow ServiceOptions := .record ofRecord_toRecord fun record => by
  rw [ofRecord.eq_def]
  split
  · exact slotsDepth_le_of_forall₂ (by simp [toRecord])
  · exact Nat.zero_le _

end ServiceOptions

/-! ### Options of methods -/

namespace MethodOptions

instance : OfKind MethodOptions (.message .methodOptions) := .record ofRecord_toRecord fun x => by
  simp [toRecord, MessageType.fields]

instance : Shallow MethodOptions := .record ofRecord_toRecord fun record => by
  rw [ofRecord.eq_def]
  split
  · exact slotsDepth_le_of_forall₂ (by simp [toRecord])
  · exact Nat.zero_le _

end MethodOptions

/-! ### Options of extension ranges -/

namespace ExtensionRangeOptions

instance : OfKind ExtensionRangeOptions (.message .extensionRangeOptions) := .record ofRecord_toRecord fun x => by
  simp [toRecord, MessageType.fields]

instance : Shallow ExtensionRangeOptions := .record ofRecord_toRecord fun record => by
  rw [ofRecord.eq_def]
  split
  · exact slotsDepth_le_of_forall₂ (by simp [toRecord])
  · exact Nat.zero_le _

end ExtensionRangeOptions

end SchemaDocs

/-!
## Types of descriptors

The records of descriptors are of the types that the schema tells.
-/

namespace SchemaDocs

open Wire

/-! ### Fields -/

namespace FieldDescriptor

instance : OfKind FieldDescriptor (.message .field) := .record ofRecord_toRecord fun x => by
  simp [toRecord, MessageType.fields]

instance : Shallow FieldDescriptor := .record ofRecord_toRecord fun record => by
  rw [ofRecord.eq_def]
  split
  · exact slotsDepth_le_of_forall₂ (by simp [toRecord])
  · exact Nat.zero_le _

end FieldDescriptor

/-! ### Oneofs -/

namespace OneofDescriptor

instance : OfKind OneofDescriptor (.message .oneof) := .record ofRecord_toRecord fun x => by
  simp [toRecord, MessageType.fields]

instance : Shallow OneofDescriptor := .record ofRecord_toRecord fun record => by
  rw [ofRecord.eq_def]
  split
  · exact slotsDepth_le_of_forall₂ (by simp [toRecord])
  · exact Nat.zero_le _

end OneofDescriptor

/-! ### Enum values -/

namespace EnumValueDescriptor

instance : OfKind EnumValueDescriptor (.message .enumValue) := .record ofRecord_toRecord fun x => by
  simp [toRecord, MessageType.fields]

instance : Shallow EnumValueDescriptor := .record ofRecord_toRecord fun record => by
  rw [ofRecord.eq_def]
  split
  · exact slotsDepth_le_of_forall₂ (by simp [toRecord])
  · exact Nat.zero_le _

end EnumValueDescriptor

/-! ### Ranges of numbers -/

namespace NumberRange

instance : OfKind NumberRange (.message .reservedRange) := .record ofRecord_toRecord fun x => by
  simp [toRecord, MessageType.fields]

instance : OfKind NumberRange (.message .enumReservedRange) := .record ofRecord_toRecord fun x => by
  simp [toRecord, MessageType.fields]

instance : Shallow NumberRange := .record ofRecord_toRecord fun record => by
  rw [ofRecord.eq_def]
  split
  · exact slotsDepth_le_of_forall₂ (by simp [toRecord])
  · exact Nat.zero_le _

end NumberRange

/-! ### Enums -/

namespace EnumDescriptor

instance : OfKind EnumDescriptor (.message .enum) := .record ofRecord_toRecord fun x => by
  simp [toRecord, MessageType.fields]

instance : Shallow EnumDescriptor := .record ofRecord_toRecord fun record => by
  rw [ofRecord.eq_def]
  split
  · exact slotsDepth_le_of_forall₂ (by simp [toRecord])
  · exact Nat.zero_le _

end EnumDescriptor

/-! ### Ranges for extensions -/

namespace ExtensionRange

instance : OfKind ExtensionRange (.message .extensionRange) := .record ofRecord_toRecord fun x => by
  simp [toRecord, MessageType.fields]

instance : Shallow ExtensionRange := .record ofRecord_toRecord fun record => by
  rw [ofRecord.eq_def]
  split
  · exact slotsDepth_le_of_forall₂ (by simp [toRecord])
  · exact Nat.zero_le _

end ExtensionRange

/-! ### Messages -/

namespace MessageDescriptor

mutual

theorem slotsFit (message : MessageDescriptor) :
    SlotsFit (MessageType.fields .message) message.toRecord := by
  cases message with
  | mk name fields nested enums extensionRanges extensions options oneofs reservedRanges
      reservedNames =>
      simp [toRecord, MessageType.fields, allHaveKind_toValues nested]

theorem allHaveKind_toValues (messages : List MessageDescriptor) :
    AllHaveKind (.message .message) (toValues messages) := by
  cases messages with
  | nil => trivial
  | cons message rest => exact ⟨slotsFit message, allHaveKind_toValues rest⟩

end

instance : OfKind MessageDescriptor (.message .message) := ⟨slotsFit⟩

/-- A message has no more levels than the value that it was taken from, if that is so of the nested
messages. -/
theorem depth_le_of_slots {slots : List (List Value)} {message : MessageDescriptor}
    (hslots : ∀ slot ∈ slots, valuesDepth (toValues (ofValues slot)) ≤ valuesDepth slot)
    (h : ofValue? (.message slots) = some message) :
    (Value.message message.toRecord).depth ≤ (Value.message slots).depth := by
  rw [ofValue?.eq_def] at h
  split at h
  · rename_i nested _ _ _ _ _ _ _ hvalue
    rw [Value.message.injEq] at hvalue
    subst hvalue
    obtain rfl := Option.some.inj h
    have hnested := hslots nested (by simp)
    rw [toRecord]
    exact Nat.succ_le_succ (slotsDepth_le_of_forall₂ (by simp [hnested]))
  · obtain rfl := Option.some.inj h
    exact Nat.succ_le_succ (Nat.zero_le _)
  · cases h

mutual

theorem depth_le {value : Value} {message : MessageDescriptor}
    (h : ofValue? value = some message) : (Value.message message.toRecord).depth ≤ value.depth := by
  cases value with
  | message slots => exact depth_le_of_slots (valuesDepth_of_mem slots) h
  | _ => cases h

theorem valuesDepth_of_mem (slots : List (List Value)) :
    ∀ slot ∈ slots, valuesDepth (toValues (ofValues slot)) ≤ valuesDepth slot := by
  cases slots with
  | nil => exact fun slot hslot => absurd hslot List.not_mem_nil
  | cons first slots =>
      exact List.forall_mem_cons.2 ⟨valuesDepth_toValues_le first, valuesDepth_of_mem slots⟩

theorem valuesDepth_toValues_le (values : List Value) :
    valuesDepth (toValues (ofValues values)) ≤ valuesDepth values := by
  cases values with
  | nil => exact Nat.le_refl _
  | cons value rest =>
      have hrest := valuesDepth_toValues_le rest
      rw [ofValues]
      cases hvalue : ofValue? value with
      | none => exact Nat.le_trans hrest (Nat.le_max_right _ _)
      | some message =>
          exact Nat.max_le.2 ⟨Nat.le_trans (depth_le hvalue) (Nat.le_max_left _ _),
            Nat.le_trans hrest (Nat.le_max_right _ _)⟩

end

instance : Shallow MessageDescriptor := ⟨depth_le⟩

end MessageDescriptor

/-! ### Methods -/

namespace MethodDescriptor

instance : OfKind MethodDescriptor (.message .method) := .record ofRecord_toRecord fun x => by
  simp [toRecord, MessageType.fields]

instance : Shallow MethodDescriptor := .record ofRecord_toRecord fun record => by
  rw [ofRecord.eq_def]
  split
  · exact slotsDepth_le_of_forall₂ (by simp [toRecord])
  · exact Nat.zero_le _

end MethodDescriptor

/-! ### Services -/

namespace ServiceDescriptor

instance : OfKind ServiceDescriptor (.message .service) := .record ofRecord_toRecord fun x => by
  simp [toRecord, MessageType.fields]

instance : Shallow ServiceDescriptor := .record ofRecord_toRecord fun record => by
  rw [ofRecord.eq_def]
  split
  · exact slotsDepth_le_of_forall₂ (by simp [toRecord])
  · exact Nat.zero_le _

end ServiceDescriptor

/-! ### Places -/

namespace Location

instance : OfKind Location (.message .location) := .record ofRecord_toRecord fun x => by
  simp [toRecord, MessageType.fields]

instance : Shallow Location := .record ofRecord_toRecord fun record => by
  rw [ofRecord.eq_def]
  split
  · exact slotsDepth_le_of_forall₂ (by simp [toRecord])
  · exact Nat.zero_le _

end Location

/-! ### Source information -/

namespace SourceInfo

instance : OfKind SourceInfo (.message .sourceInfo) := .record ofRecord_toRecord fun x => by
  simp [toRecord, MessageType.fields]

instance : Shallow SourceInfo := .record ofRecord_toRecord fun record => by
  rw [ofRecord.eq_def]
  split
  · exact slotsDepth_le_of_forall₂ (by simp [toRecord])
  · exact Nat.zero_le _

end SourceInfo

/-! ### Files -/

namespace FileDescriptor

instance : OfKind FileDescriptor (.message .file) := .record ofRecord_toRecord fun x => by
  simp [toRecord, MessageType.fields]

instance : Shallow FileDescriptor := .record ofRecord_toRecord fun record => by
  rw [ofRecord.eq_def]
  split
  · exact slotsDepth_le_of_forall₂ (by simp [toRecord])
  · exact Nat.zero_le _

end FileDescriptor

/-! ### Sets of files -/

namespace DescriptorSet

instance : OfKind DescriptorSet (.message .descriptorSet) := .record ofRecord_toRecord fun x => by
  simp [toRecord, MessageType.fields]

instance : Shallow DescriptorSet := .record ofRecord_toRecord fun record => by
  rw [ofRecord.eq_def]
  split
  · exact slotsDepth_le_of_forall₂ (by simp [toRecord])
  · exact Nat.zero_le _

end DescriptorSet

/-! ### Versions -/

namespace CompilerVersion

instance : OfKind CompilerVersion (.message .version) := .record ofRecord_toRecord fun x => by
  simp [toRecord, MessageType.fields]

instance : Shallow CompilerVersion := .record ofRecord_toRecord fun record => by
  rw [ofRecord.eq_def]
  split
  · exact slotsDepth_le_of_forall₂ (by simp [toRecord])
  · exact Nat.zero_le _

end CompilerVersion

/-! ### Requests -/

namespace GenerateRequest

instance : OfKind GenerateRequest (.message .request) := .record ofRecord_toRecord fun x => by
  simp [toRecord, MessageType.fields]

instance : Shallow GenerateRequest := .record ofRecord_toRecord fun record => by
  rw [ofRecord.eq_def]
  split
  · exact slotsDepth_le_of_forall₂ (by simp [toRecord])
  · exact Nat.zero_le _

end GenerateRequest

end SchemaDocs

/-!
## Messages read back

What is written as a message is read as the same, exactly if it has no more levels than the limit.
-/

namespace SchemaDocs.Wire

section

variable {α : Type} [Storable α] {toRecord : α → Record} {ofRecord : Record → α}
  {type : MessageType} {a : α} (hto : ∀ a, toValue a = .message (toRecord a))
  (hof : ∀ record, ofValue? (.message record) = some (ofRecord record))

include hto

theorem read_encode [OfKind α (.message type)] (law : ofRecord (toRecord a) = a)
    (hdepth : slotsDepth (toRecord a) ≤ nestingLimit)
    (hlength : (encode type (toRecord a)).length < 2 ^ 64) :
    (decode type (encode type (toRecord a))).map ofRecord = .ok a := by
  have hkind : (toValue a).HasKind (.message type) := OfKind.hasKind a
  rw [hto] at hkind
  rw [decode_encode hkind hdepth hlength, Except.map, law]

include hof

theorem slotsDepth_of_read [Shallow α] {bytes : Bytes}
    (h : (decode type bytes).map ofRecord = .ok a) : slotsDepth (toRecord a) ≤ nestingLimit := by
  obtain ⟨record, hrecord, rfl⟩ := exists_of_map_ok h
  have hdepth : (toValue (ofRecord record)).depth ≤ (Value.message record).depth :=
    Shallow.depth_le (hof record)
  rw [hto] at hdepth
  exact Nat.le_trans (Nat.le_of_succ_le_succ hdepth) (slotsDepth_decode_le hrecord)

end

end SchemaDocs.Wire

namespace SchemaDocs

open Wire

namespace DescriptorSet

/-- A set that was read has no more levels than the limit. -/
theorem slotsDepth_of_decode {bytes : Bytes} {set : DescriptorSet} (h : decode bytes = .ok set) :
    slotsDepth set.toRecord ≤ nestingLimit :=
  slotsDepth_of_read (fun _ => rfl) (fun _ => rfl) h

/-- A set that is written and then read is the same. -/
theorem decode_encode {set : DescriptorSet} (hdepth : slotsDepth set.toRecord ≤ nestingLimit)
    (hlength : set.encode.length < 2 ^ 64) : decode set.encode = .ok set :=
  read_encode (fun _ => rfl) (ofRecord_toRecord set) hdepth hlength

end DescriptorSet

namespace GenerateRequest

/-- How many levels of messages are below a request. -/
def levels (request : GenerateRequest) : Nat := slotsDepth request.toRecord

/-- A request that was read has no more levels than the limit. -/
theorem levels_of_decode {bytes : Bytes} {request : GenerateRequest}
    (h : decode bytes = .ok request) : request.levels ≤ nestingLimit :=
  slotsDepth_of_read (fun _ => rfl) (fun _ => rfl) h

/-- A request that is written and then read is the same. -/
theorem decode_encode {request : GenerateRequest} (hlevels : request.levels ≤ nestingLimit)
    (hlength : request.encode.length < 2 ^ 64) : decode request.encode = .ok request :=
  read_encode (fun _ => rfl) (ofRecord_toRecord request) hlevels hlength

end GenerateRequest

end SchemaDocs
