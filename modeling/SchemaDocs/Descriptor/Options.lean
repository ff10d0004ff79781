/-!
# Options of schema elements

The options that each kind of schema element declares.  An option that was not given
is absent, whatever its default.
-/

namespace SchemaDocs

/-- The bits of a floating-point number. -/
structure DoubleBits where
  bits : UInt64
deriving DecidableEq

/-- One part of a dotted option name. -/
structure NamePart where
  text : String := ""
  isExtension : Bool := false

/-- An option that was not interpreted, with its value in one of several forms. -/
structure UninterpretedOption where
  name : List NamePart := []
  identifierValue : Option String := none
  positiveIntValue : Option UInt64 := none
  negativeIntValue : Option Int64 := none
  doubleValue : Option DoubleBits := none
  stringValue : Option (List UInt8) := none
  aggregateValue : Option String := none

/-- Options of a file. -/
structure FileOptions where
  javaPackage : Option String := none
  javaOuterClassname : Option String := none
  optimizeFor : Option Int32 := none
  javaMultipleFiles : Option Bool := none
  goPackage : Option String := none
  ccGenericServices : Option Bool := none
  javaGenericServices : Option Bool := none
  pyGenericServices : Option Bool := none
  javaGenerateEqualsAndHash : Option Bool := none
  deprecated : Option Bool := none
  javaStringCheckUtf8 : Option Bool := none
  ccEnableArenas : Option Bool := none
  objcClassPrefix : Option String := none
  csharpNamespace : Option String := none
  swiftPrefix : Option String := none
  phpClassPrefix : Option String := none
  phpNamespace : Option String := none
  phpGenericServices : Option Bool := none
  phpMetadataNamespace : Option String := none
  rubyPackage : Option String := none
  uninterpreted : List UninterpretedOption := []

/-- Options of a message. -/
structure MessageOptions where
  messageSetWireFormat : Option Bool := none
  noStandardDescriptorAccessor : Option Bool := none
  deprecated : Option Bool := none
  mapEntry : Option Bool := none
  uninterpreted : List UninterpretedOption := []

/-- Options of a field. -/
structure FieldOptions where
  ctype : Option Int32 := none
  packed : Option Bool := none
  deprecated : Option Bool := none
  isLazy : Option Bool := none
  jstype : Option Int32 := none
  weak : Option Bool := none
  uninterpreted : List UninterpretedOption := []

/-- Options of a oneof. -/
structure OneofOptions where
  uninterpreted : List UninterpretedOption := []

/-- Options of an enum. -/
structure EnumOptions where
  allowAlias : Option Bool := none
  deprecated : Option Bool := none
  uninterpreted : List UninterpretedOption := []

/-- Options of an enum value. -/
structure EnumValueOptions where
  deprecated : Option Bool := none
  uninterpreted : List UninterpretedOption := []

/-- Options of a service. -/
structure ServiceOptions where
  deprecated : Option Bool := none
  uninterpreted : List UninterpretedOption := []

/-- Options of a method. -/
structure MethodOptions where
  deprecated : Option Bool := none
  idempotencyLevel : Option Int32 := none
  uninterpreted : List UninterpretedOption := []

/-- Options of an extension range. -/
structure ExtensionRangeOptions where
  uninterpreted : List UninterpretedOption := []

end SchemaDocs
