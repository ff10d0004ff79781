import SchemaDocs.Descriptor.Options
import SchemaDocs.Wire.Storable
/-!
# Options as records

The slots of a record are in the order of the schema.  Reading the slots of options
gives the options back.
-/

namespace SchemaDocs

open Wire

/-! ## Name parts -/

namespace NamePart

/-- The fields as slots. -/
def toRecord (x : NamePart) : Record :=
  [required x.text, required x.isExtension]

/-- The fields from slots. -/
def ofRecord : Record → NamePart
  | [text, isExtension] =>
    ⟨required? "" text, required? false isExtension⟩
  | _ => {}

theorem ofRecord_toRecord (x : NamePart) : ofRecord x.toRecord = x := by
  simp [toRecord, ofRecord]

instance : Storable NamePart := .ofRecord toRecord ofRecord ofRecord_toRecord

end NamePart

/-! ## Options not interpreted -/

namespace UninterpretedOption

/-- The fields as slots. -/
def toRecord (x : UninterpretedOption) : Record :=
  [list x.name, optional x.identifierValue, optional x.positiveIntValue,
   optional x.negativeIntValue, optional x.doubleValue, optional x.stringValue,
   optional x.aggregateValue]

/-- The fields from slots. -/
def ofRecord : Record → UninterpretedOption
  | [name, identifierValue, positiveIntValue, negativeIntValue, doubleValue, stringValue,
     aggregateValue] =>
    ⟨list? name, optional? identifierValue, optional? positiveIntValue,
     optional? negativeIntValue, optional? doubleValue, optional? stringValue,
     optional? aggregateValue⟩
  | _ => {}

theorem ofRecord_toRecord (x : UninterpretedOption) : ofRecord x.toRecord = x := by
  simp [toRecord, ofRecord]

instance : Storable UninterpretedOption := .ofRecord toRecord ofRecord ofRecord_toRecord

end UninterpretedOption

/-! ## Options of files -/

namespace FileOptions

/-- The fields as slots. -/
def toRecord (x : FileOptions) : Record :=
  [optional x.javaPackage, optional x.javaOuterClassname, optional x.optimizeFor,
   optional x.javaMultipleFiles, optional x.goPackage, optional x.ccGenericServices,
   optional x.javaGenericServices, optional x.pyGenericServices,
   optional x.javaGenerateEqualsAndHash, optional x.deprecated, optional x.javaStringCheckUtf8,
   optional x.ccEnableArenas, optional x.objcClassPrefix, optional x.csharpNamespace,
   optional x.swiftPrefix, optional x.phpClassPrefix, optional x.phpNamespace,
   optional x.phpGenericServices, optional x.phpMetadataNamespace, optional x.rubyPackage,
   list x.uninterpreted]

/-- The fields from slots. -/
def ofRecord : Record → FileOptions
  | [javaPackage, javaOuterClassname, optimizeFor, javaMultipleFiles, goPackage,
     ccGenericServices, javaGenericServices, pyGenericServices, javaGenerateEqualsAndHash,
     deprecated, javaStringCheckUtf8, ccEnableArenas, objcClassPrefix, csharpNamespace,
     swiftPrefix, phpClassPrefix, phpNamespace, phpGenericServices, phpMetadataNamespace,
     rubyPackage, uninterpreted] =>
    ⟨optional? javaPackage, optional? javaOuterClassname, optional? optimizeFor,
     optional? javaMultipleFiles, optional? goPackage, optional? ccGenericServices,
     optional? javaGenericServices, optional? pyGenericServices,
     optional? javaGenerateEqualsAndHash, optional? deprecated, optional? javaStringCheckUtf8,
     optional? ccEnableArenas, optional? objcClassPrefix, optional? csharpNamespace,
     optional? swiftPrefix, optional? phpClassPrefix, optional? phpNamespace,
     optional? phpGenericServices, optional? phpMetadataNamespace, optional? rubyPackage,
     list? uninterpreted⟩
  | _ => {}

theorem ofRecord_toRecord (x : FileOptions) : ofRecord x.toRecord = x := by
  simp [toRecord, ofRecord]

instance : Storable FileOptions := .ofRecord toRecord ofRecord ofRecord_toRecord

end FileOptions

/-! ## Options of messages -/

namespace MessageOptions

/-- The fields as slots. -/
def toRecord (x : MessageOptions) : Record :=
  [optional x.messageSetWireFormat, optional x.noStandardDescriptorAccessor,
   optional x.deprecated, optional x.mapEntry, list x.uninterpreted]

/-- The fields from slots. -/
def ofRecord : Record → MessageOptions
  | [messageSetWireFormat, noStandardDescriptorAccessor, deprecated, mapEntry, uninterpreted] =>
    ⟨optional? messageSetWireFormat, optional? noStandardDescriptorAccessor,
     optional? deprecated, optional? mapEntry, list? uninterpreted⟩
  | _ => {}

theorem ofRecord_toRecord (x : MessageOptions) : ofRecord x.toRecord = x := by
  simp [toRecord, ofRecord]

instance : Storable MessageOptions := .ofRecord toRecord ofRecord ofRecord_toRecord

end MessageOptions

/-! ## Options of fields -/

namespace FieldOptions

/-- The fields as slots. -/
def toRecord (x : FieldOptions) : Record :=
  [optional x.ctype, optional x.packed, optional x.deprecated, optional x.isLazy,
   optional x.jstype, optional x.weak, list x.uninterpreted]

/-- The fields from slots. -/
def ofRecord : Record → FieldOptions
  | [ctype, packed, deprecated, isLazy, jstype, weak, uninterpreted] =>
    ⟨optional? ctype, optional? packed, optional? deprecated, optional? isLazy, optional? jstype,
     optional? weak, list? uninterpreted⟩
  | _ => {}

theorem ofRecord_toRecord (x : FieldOptions) : ofRecord x.toRecord = x := by
  simp [toRecord, ofRecord]

instance : Storable FieldOptions := .ofRecord toRecord ofRecord ofRecord_toRecord

end FieldOptions

/-! ## Options of oneofs -/

namespace OneofOptions

/-- The fields as slots. -/
def toRecord (x : OneofOptions) : Record :=
  [list x.uninterpreted]

/-- The fields from slots. -/
def ofRecord : Record → OneofOptions
  | [uninterpreted] =>
    ⟨list? uninterpreted⟩
  | _ => {}

theorem ofRecord_toRecord (x : OneofOptions) : ofRecord x.toRecord = x := by
  simp [toRecord, ofRecord]

instance : Storable OneofOptions := .ofRecord toRecord ofRecord ofRecord_toRecord

end OneofOptions

/-! ## Options of enums -/

namespace EnumOptions

/-- The fields as slots. -/
def toRecord (x : EnumOptions) : Record :=
  [optional x.allowAlias, optional x.deprecated, list x.uninterpreted]

/-- The fields from slots. -/
def ofRecord : Record → EnumOptions
  | [allowAlias, deprecated, uninterpreted] =>
    ⟨optional? allowAlias, optional? deprecated, list? uninterpreted⟩
  | _ => {}

theorem ofRecord_toRecord (x : EnumOptions) : ofRecord x.toRecord = x := by
  simp [toRecord, ofRecord]

instance : Storable EnumOptions := .ofRecord toRecord ofRecord ofRecord_toRecord

end EnumOptions

/-! ## Options of enum values -/

namespace EnumValueOptions

/-- The fields as slots. -/
def toRecord (x : EnumValueOptions) : Record :=
  [optional x.deprecated, list x.uninterpreted]

/-- The fields from slots. -/
def ofRecord : Record → EnumValueOptions
  | [deprecated, uninterpreted] =>
    ⟨optional? deprecated, list? uninterpreted⟩
  | _ => {}

theorem ofRecord_toRecord (x : EnumValueOptions) : ofRecord x.toRecord = x := by
  simp [toRecord, ofRecord]

instance : Storable EnumValueOptions := .ofRecord toRecord ofRecord ofRecord_toRecord

end EnumValueOptions

/-! ## Options of services -/

namespace ServiceOptions

/-- The fields as slots. -/
def toRecord (x : ServiceOptions) : Record :=
  [optional x.deprecated, list x.uninterpreted]

/-- The fields from slots. -/
def ofRecord : Record → ServiceOptions
  | [deprecated, uninterpreted] =>
    ⟨optional? deprecated, list? uninterpreted⟩
  | _ => {}

theorem ofRecord_toRecord (x : ServiceOptions) : ofRecord x.toRecord = x := by
  simp [toRecord, ofRecord]

instance : Storable ServiceOptions := .ofRecord toRecord ofRecord ofRecord_toRecord

end ServiceOptions

/-! ## Options of methods -/

namespace MethodOptions

/-- The fields as slots. -/
def toRecord (x : MethodOptions) : Record :=
  [optional x.deprecated, optional x.idempotencyLevel, list x.uninterpreted]

/-- The fields from slots. -/
def ofRecord : Record → MethodOptions
  | [deprecated, idempotencyLevel, uninterpreted] =>
    ⟨optional? deprecated, optional? idempotencyLevel, list? uninterpreted⟩
  | _ => {}

theorem ofRecord_toRecord (x : MethodOptions) : ofRecord x.toRecord = x := by
  simp [toRecord, ofRecord]

instance : Storable MethodOptions := .ofRecord toRecord ofRecord ofRecord_toRecord

end MethodOptions

/-! ## Options of extension ranges -/

namespace ExtensionRangeOptions

/-- The fields as slots. -/
def toRecord (x : ExtensionRangeOptions) : Record :=
  [list x.uninterpreted]

/-- The fields from slots. -/
def ofRecord : Record → ExtensionRangeOptions
  | [uninterpreted] =>
    ⟨list? uninterpreted⟩
  | _ => {}

theorem ofRecord_toRecord (x : ExtensionRangeOptions) : ofRecord x.toRecord = x := by
  simp [toRecord, ofRecord]

instance : Storable ExtensionRangeOptions := .ofRecord toRecord ofRecord ofRecord_toRecord

end ExtensionRangeOptions

end SchemaDocs
