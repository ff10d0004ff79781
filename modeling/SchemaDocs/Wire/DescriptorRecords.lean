import SchemaDocs.Descriptor.Basic
import SchemaDocs.Wire.OptionRecords
import SchemaDocs.Wire.Decode
/-!
# Descriptors as records

The slots of a record are in the order of the schema.  Reading the slots of a
descriptor gives the descriptor back.
-/

namespace SchemaDocs

open Wire

/-! ## Fields -/

namespace FieldDescriptor

/-- The fields as slots. -/
def toRecord (x : FieldDescriptor) : Record :=
  [optional x.name, optional x.extendee, optional x.number, optional x.label, optional x.type,
   optional x.typeName, optional x.defaultValue, optional x.options, optional x.oneofIndex,
   optional x.jsonName, optional x.proto3Optional]

/-- The fields from slots. -/
def ofRecord : Record → FieldDescriptor
  | [name, extendee, number, label, type, typeName, defaultValue, options, oneofIndex, jsonName,
     proto3Optional] =>
    ⟨optional? name, optional? extendee, optional? number, optional? label, optional? type,
     optional? typeName, optional? defaultValue, optional? options, optional? oneofIndex,
     optional? jsonName, optional? proto3Optional⟩
  | _ => {}

theorem ofRecord_toRecord (x : FieldDescriptor) : ofRecord x.toRecord = x := by
  simp [toRecord, ofRecord]

instance : Storable FieldDescriptor := .ofRecord toRecord ofRecord ofRecord_toRecord

end FieldDescriptor

/-! ## Oneofs -/

namespace OneofDescriptor

/-- The fields as slots. -/
def toRecord (x : OneofDescriptor) : Record :=
  [optional x.name, optional x.options]

/-- The fields from slots. -/
def ofRecord : Record → OneofDescriptor
  | [name, options] =>
    ⟨optional? name, optional? options⟩
  | _ => {}

theorem ofRecord_toRecord (x : OneofDescriptor) : ofRecord x.toRecord = x := by
  simp [toRecord, ofRecord]

instance : Storable OneofDescriptor := .ofRecord toRecord ofRecord ofRecord_toRecord

end OneofDescriptor

/-! ## Enum values -/

namespace EnumValueDescriptor

/-- The fields as slots. -/
def toRecord (x : EnumValueDescriptor) : Record :=
  [optional x.name, optional x.number, optional x.options]

/-- The fields from slots. -/
def ofRecord : Record → EnumValueDescriptor
  | [name, number, options] =>
    ⟨optional? name, optional? number, optional? options⟩
  | _ => {}

theorem ofRecord_toRecord (x : EnumValueDescriptor) : ofRecord x.toRecord = x := by
  simp [toRecord, ofRecord]

instance : Storable EnumValueDescriptor := .ofRecord toRecord ofRecord ofRecord_toRecord

end EnumValueDescriptor

/-! ## Ranges of numbers -/

namespace NumberRange

/-- The fields as slots. -/
def toRecord (x : NumberRange) : Record :=
  [optional x.start, optional x.stop]

/-- The fields from slots. -/
def ofRecord : Record → NumberRange
  | [start, stop] =>
    ⟨optional? start, optional? stop⟩
  | _ => {}

theorem ofRecord_toRecord (x : NumberRange) : ofRecord x.toRecord = x := by
  simp [toRecord, ofRecord]

instance : Storable NumberRange := .ofRecord toRecord ofRecord ofRecord_toRecord

end NumberRange

/-! ## Enums -/

namespace EnumDescriptor

/-- The fields as slots. -/
def toRecord (x : EnumDescriptor) : Record :=
  [optional x.name, list x.values, optional x.options, list x.reservedRanges,
   list x.reservedNames]

/-- The fields from slots. -/
def ofRecord : Record → EnumDescriptor
  | [name, values, options, reservedRanges, reservedNames] =>
    ⟨optional? name, list? values, optional? options, list? reservedRanges, list? reservedNames⟩
  | _ => {}

theorem ofRecord_toRecord (x : EnumDescriptor) : ofRecord x.toRecord = x := by
  simp [toRecord, ofRecord]

instance : Storable EnumDescriptor := .ofRecord toRecord ofRecord ofRecord_toRecord

end EnumDescriptor

/-! ## Ranges for extensions -/

namespace ExtensionRange

/-- The fields as slots. -/
def toRecord (x : ExtensionRange) : Record :=
  [optional x.start, optional x.stop, optional x.options]

/-- The fields from slots. -/
def ofRecord : Record → ExtensionRange
  | [start, stop, options] =>
    ⟨optional? start, optional? stop, optional? options⟩
  | _ => {}

theorem ofRecord_toRecord (x : ExtensionRange) : ofRecord x.toRecord = x := by
  simp [toRecord, ofRecord]

instance : Storable ExtensionRange := .ofRecord toRecord ofRecord ofRecord_toRecord

end ExtensionRange

/-! ## Messages -/

namespace MessageDescriptor

mutual

/-- The fields as slots. -/
def toRecord : MessageDescriptor → Record
  | ⟨name, fields, nested, enums, extensionRanges, extensions, options, oneofs, reservedRanges,
      reservedNames⟩ =>
    [optional name, list fields, toValues nested, list enums, list extensionRanges,
     list extensions, optional options, list oneofs, list reservedRanges, list reservedNames]

/-- Nested messages as values. -/
def toValues : List MessageDescriptor → List Value
  | [] => []
  | message :: rest => .message message.toRecord :: toValues rest

end

mutual

/-- A message from a value. -/
def ofValue? : Value → Option MessageDescriptor
  | .message
      [name, fields, nested, enums, extensionRanges, extensions, options, oneofs, reservedRanges,
       reservedNames] =>
    some ⟨optional? name, list? fields, ofValues nested, list? enums, list? extensionRanges,
      list? extensions, optional? options, list? oneofs, list? reservedRanges,
      list? reservedNames⟩
  | .message _ => some {}
  | _ => none

/-- Nested messages from values. -/
def ofValues : List Value → List MessageDescriptor
  | [] => []
  | value :: rest =>
    match ofValue? value with
    | some message => message :: ofValues rest
    | none => ofValues rest

end

mutual

theorem ofValue?_toRecord (message : MessageDescriptor) :
    ofValue? (.message message.toRecord) = some message := by
  cases message with
  | mk name fields nested enums extensionRanges extensions options oneofs reservedRanges
      reservedNames =>
    simp [toRecord, ofValue?, ofValues_toValues nested]

theorem ofValues_toValues (messages : List MessageDescriptor) :
    ofValues (toValues messages) = messages := by
  cases messages with
  | nil => simp [toValues, ofValues]
  | cons message rest =>
    simp [toValues, ofValues, ofValue?_toRecord message, ofValues_toValues rest]

end

instance : Storable MessageDescriptor where
  toValue message := .message message.toRecord
  ofValue? := ofValue?
  ofValue?_toValue := ofValue?_toRecord

end MessageDescriptor

/-! ## Methods -/

namespace MethodDescriptor

/-- The fields as slots. -/
def toRecord (x : MethodDescriptor) : Record :=
  [optional x.name, optional x.inputType, optional x.outputType, optional x.options,
   optional x.clientStreaming, optional x.serverStreaming]

/-- The fields from slots. -/
def ofRecord : Record → MethodDescriptor
  | [name, inputType, outputType, options, clientStreaming, serverStreaming] =>
    ⟨optional? name, optional? inputType, optional? outputType, optional? options,
     optional? clientStreaming, optional? serverStreaming⟩
  | _ => {}

theorem ofRecord_toRecord (x : MethodDescriptor) : ofRecord x.toRecord = x := by
  simp [toRecord, ofRecord]

instance : Storable MethodDescriptor := .ofRecord toRecord ofRecord ofRecord_toRecord

end MethodDescriptor

/-! ## Services -/

namespace ServiceDescriptor

/-- The fields as slots. -/
def toRecord (x : ServiceDescriptor) : Record :=
  [optional x.name, list x.methods, optional x.options]

/-- The fields from slots. -/
def ofRecord : Record → ServiceDescriptor
  | [name, methods, options] =>
    ⟨optional? name, list? methods, optional? options⟩
  | _ => {}

theorem ofRecord_toRecord (x : ServiceDescriptor) : ofRecord x.toRecord = x := by
  simp [toRecord, ofRecord]

instance : Storable ServiceDescriptor := .ofRecord toRecord ofRecord ofRecord_toRecord

end ServiceDescriptor

/-! ## Places -/

namespace Location

/-- The fields as slots. -/
def toRecord (x : Location) : Record :=
  [list x.path, list x.span, optional x.leading, optional x.trailing, list x.detached]

/-- The fields from slots. -/
def ofRecord : Record → Location
  | [path, span, leading, trailing, detached] =>
    ⟨list? path, list? span, optional? leading, optional? trailing, list? detached⟩
  | _ => {}

theorem ofRecord_toRecord (x : Location) : ofRecord x.toRecord = x := by
  simp [toRecord, ofRecord]

instance : Storable Location := .ofRecord toRecord ofRecord ofRecord_toRecord

end Location

/-! ## Source information -/

namespace SourceInfo

/-- The fields as slots. -/
def toRecord (x : SourceInfo) : Record :=
  [list x.locations]

/-- The fields from slots. -/
def ofRecord : Record → SourceInfo
  | [locations] =>
    ⟨list? locations⟩
  | _ => {}

theorem ofRecord_toRecord (x : SourceInfo) : ofRecord x.toRecord = x := by
  simp [toRecord, ofRecord]

instance : Storable SourceInfo := .ofRecord toRecord ofRecord ofRecord_toRecord

end SourceInfo

/-! ## Files -/

namespace FileDescriptor

/-- The fields as slots. -/
def toRecord (x : FileDescriptor) : Record :=
  [optional x.name, optional x.package, list x.dependencies, list x.messages, list x.enums,
   list x.services, list x.extensions, optional x.options, optional x.sourceInfo,
   list x.publicDependencies, list x.weakDependencies, optional x.syntaxName]

/-- The fields from slots. -/
def ofRecord : Record → FileDescriptor
  | [name, package, dependencies, messages, enums, services, extensions, options, sourceInfo,
     publicDependencies, weakDependencies, syntaxName] =>
    ⟨optional? name, optional? package, list? dependencies, list? messages, list? enums,
     list? services, list? extensions, optional? options, optional? sourceInfo,
     list? publicDependencies, list? weakDependencies, optional? syntaxName⟩
  | _ => {}

theorem ofRecord_toRecord (x : FileDescriptor) : ofRecord x.toRecord = x := by
  simp [toRecord, ofRecord]

instance : Storable FileDescriptor := .ofRecord toRecord ofRecord ofRecord_toRecord

end FileDescriptor

/-! ## Sets of files -/

namespace DescriptorSet

/-- The fields as slots. -/
def toRecord (x : DescriptorSet) : Record :=
  [list x.files]

/-- The fields from slots. -/
def ofRecord : Record → DescriptorSet
  | [files] =>
    ⟨list? files⟩
  | _ => {}

theorem ofRecord_toRecord (x : DescriptorSet) : ofRecord x.toRecord = x := by
  simp [toRecord, ofRecord]

instance : Storable DescriptorSet := .ofRecord toRecord ofRecord ofRecord_toRecord

end DescriptorSet

/-! ## Versions -/

namespace CompilerVersion

/-- The fields as slots. -/
def toRecord (x : CompilerVersion) : Record :=
  [optional x.major, optional x.minor, optional x.patch, optional x.suffix]

/-- The fields from slots. -/
def ofRecord : Record → CompilerVersion
  | [major, minor, patch, suffix] =>
    ⟨optional? major, optional? minor, optional? patch, optional? suffix⟩
  | _ => {}

theorem ofRecord_toRecord (x : CompilerVersion) : ofRecord x.toRecord = x := by
  simp [toRecord, ofRecord]

instance : Storable CompilerVersion := .ofRecord toRecord ofRecord ofRecord_toRecord

end CompilerVersion

/-! ## Requests -/

namespace GenerateRequest

/-- The fields as slots. -/
def toRecord (x : GenerateRequest) : Record :=
  [list x.filesToGenerate, optional x.parameter, optional x.compilerVersion, list x.files]

/-- The fields from slots. -/
def ofRecord : Record → GenerateRequest
  | [filesToGenerate, parameter, compilerVersion, files] =>
    ⟨list? filesToGenerate, optional? parameter, optional? compilerVersion, list? files⟩
  | _ => {}

theorem ofRecord_toRecord (x : GenerateRequest) : ofRecord x.toRecord = x := by
  simp [toRecord, ofRecord]

instance : Storable GenerateRequest := .ofRecord toRecord ofRecord ofRecord_toRecord

end GenerateRequest

/-! ## Generated files -/

namespace GeneratedFile

/-- The fields as slots. -/
def toRecord (x : GeneratedFile) : Record :=
  [optional x.name, optional x.insertionPoint, optional x.content]

/-- The fields from slots. -/
def ofRecord : Record → GeneratedFile
  | [name, insertionPoint, content] =>
    ⟨optional? name, optional? insertionPoint, optional? content⟩
  | _ => {}

theorem ofRecord_toRecord (x : GeneratedFile) : ofRecord x.toRecord = x := by
  simp [toRecord, ofRecord]

instance : Storable GeneratedFile := .ofRecord toRecord ofRecord ofRecord_toRecord

end GeneratedFile

/-! ## Answers -/

namespace GenerateResponse

/-- The fields as slots. -/
def toRecord (x : GenerateResponse) : Record :=
  [optional x.error, optional x.supportedFeatures, list x.files]

/-- The fields from slots. -/
def ofRecord : Record → GenerateResponse
  | [error, supportedFeatures, files] =>
    ⟨optional? error, optional? supportedFeatures, list? files⟩
  | _ => {}

theorem ofRecord_toRecord (x : GenerateResponse) : ofRecord x.toRecord = x := by
  simp [toRecord, ofRecord]

instance : Storable GenerateResponse := .ofRecord toRecord ofRecord ofRecord_toRecord

end GenerateResponse

end SchemaDocs

/-!
## Binary requests, answers and descriptor sets

The bytes of the messages that are exchanged with a compiler.
-/

namespace SchemaDocs

/-- Reads a request. -/
def GenerateRequest.decode (bytes : Bytes) : Except Wire.WireError GenerateRequest :=
  (Wire.decode .request bytes).map GenerateRequest.ofRecord

/-- The bytes of a request. -/
def GenerateRequest.encode (request : GenerateRequest) : Bytes :=
  Wire.encode .request request.toRecord

/-- The bytes of an answer. -/
def GenerateResponse.encode (response : GenerateResponse) : Bytes :=
  Wire.encode .response response.toRecord

/-- Reads a set of files. -/
def DescriptorSet.decode (bytes : Bytes) : Except Wire.WireError DescriptorSet :=
  (Wire.decode .descriptorSet bytes).map DescriptorSet.ofRecord

/-- The bytes of a set of files. -/
def DescriptorSet.encode (set : DescriptorSet) : Bytes :=
  Wire.encode .descriptorSet set.toRecord

end SchemaDocs
