/-!
# The descriptor format

The messages that carry descriptors, requests and answers, with the number, name and
kind of each field in the order of the numbers.
-/

namespace SchemaDocs.Wire

/-- A type of message. -/
inductive MessageType where
  | request | version | response | generatedFile | descriptorSet | file | message
  | extensionRange | reservedRange | extensionRangeOptions | field | oneof | enum
  | enumReservedRange | enumValue | service | method | fileOptions | messageOptions
  | fieldOptions | oneofOptions | enumOptions | enumValueOptions | serviceOptions
  | methodOptions | uninterpretedOption | namePart | sourceInfo | location
deriving DecidableEq

/-- A type of value without parts. -/
inductive Scalar where
  | int32 | int64 | uint64 | bool | double | string | bytes
deriving DecidableEq

/-- What a field holds. -/
inductive FieldKind where
  | plain (scalar : Scalar)
  | message (type : MessageType)
deriving DecidableEq

/-- How often a field occurs.  A packed field is a repeated one whose values are written
together. -/
inductive Occurrence where
  | optional | required | repeated | packed
deriving DecidableEq

/-- Whether a field may hold several values. -/
def Occurrence.isList : Occurrence → Bool
  | .optional | .required => false
  | .repeated | .packed => true

/-- A field of a message. -/
structure FieldSpec where
  number : Nat
  name : String
  occurrence : Occurrence
  kind : FieldKind

namespace FieldSpec

/-- An optional string. -/
def text (number : Nat) (name : String) : FieldSpec := ⟨number, name, .optional, .plain .string⟩

/-- A list of strings. -/
def texts (number : Nat) (name : String) : FieldSpec := ⟨number, name, .repeated, .plain .string⟩

/-- An optional 32-bit number. -/
def int (number : Nat) (name : String) : FieldSpec := ⟨number, name, .optional, .plain .int32⟩

/-- A list of 32-bit numbers, each with its own key. -/
def ints (number : Nat) (name : String) : FieldSpec := ⟨number, name, .repeated, .plain .int32⟩

/-- A list of 32-bit numbers, all under one key. -/
def packedInts (number : Nat) (name : String) : FieldSpec :=
  ⟨number, name, .packed, .plain .int32⟩

/-- An optional truth value. -/
def flag (number : Nat) (name : String) : FieldSpec := ⟨number, name, .optional, .plain .bool⟩

/-- An optional value without parts. -/
def scalar (number : Nat) (name : String) (scalar : Scalar) : FieldSpec :=
  ⟨number, name, .optional, .plain scalar⟩

/-- An optional message. -/
def part (number : Nat) (name : String) (type : MessageType) : FieldSpec :=
  ⟨number, name, .optional, .message type⟩

/-- A list of messages. -/
def parts (number : Nat) (name : String) (type : MessageType) : FieldSpec :=
  ⟨number, name, .repeated, .message type⟩

/-- The list of options that were not interpreted. -/
def uninterpreted : FieldSpec := parts 999 "uninterpreted_option" .uninterpretedOption

end FieldSpec

namespace MessageType

/-- The name of a message type. -/
def name : MessageType → String
  | .request => "CodeGeneratorRequest"
  | .version => "Version"
  | .response => "CodeGeneratorResponse"
  | .generatedFile => "File"
  | .descriptorSet => "FileDescriptorSet"
  | .file => "FileDescriptorProto"
  | .message => "DescriptorProto"
  | .extensionRange => "ExtensionRange"
  | .reservedRange => "ReservedRange"
  | .extensionRangeOptions => "ExtensionRangeOptions"
  | .field => "FieldDescriptorProto"
  | .oneof => "OneofDescriptorProto"
  | .enum => "EnumDescriptorProto"
  | .enumReservedRange => "EnumReservedRange"
  | .enumValue => "EnumValueDescriptorProto"
  | .service => "ServiceDescriptorProto"
  | .method => "MethodDescriptorProto"
  | .fileOptions => "FileOptions"
  | .messageOptions => "MessageOptions"
  | .fieldOptions => "FieldOptions"
  | .oneofOptions => "OneofOptions"
  | .enumOptions => "EnumOptions"
  | .enumValueOptions => "EnumValueOptions"
  | .serviceOptions => "ServiceOptions"
  | .methodOptions => "MethodOptions"
  | .uninterpretedOption => "UninterpretedOption"
  | .namePart => "NamePart"
  | .sourceInfo => "SourceCodeInfo"
  | .location => "Location"

/-- The fields of a message type in the order of their numbers. -/
def fields : MessageType → List FieldSpec
  | .request =>
    [.texts 1 "file_to_generate", .text 2 "parameter", .part 3 "compiler_version" .version,
     .parts 15 "proto_file" .file]
  | .version => [.int 1 "major", .int 2 "minor", .int 3 "patch", .text 4 "suffix"]
  | .response =>
    [.text 1 "error", .scalar 2 "supported_features" .uint64, .parts 15 "file" .generatedFile]
  | .generatedFile => [.text 1 "name", .text 2 "insertion_point", .text 15 "content"]
  | .descriptorSet => [.parts 1 "file" .file]
  | .file =>
    [.text 1 "name", .text 2 "package", .texts 3 "dependency", .parts 4 "message_type" .message,
     .parts 5 "enum_type" .enum, .parts 6 "service" .service, .parts 7 "extension" .field,
     .part 8 "options" .fileOptions, .part 9 "source_code_info" .sourceInfo,
     .ints 10 "public_dependency", .ints 11 "weak_dependency", .text 12 "syntax"]
  | .message =>
    [.text 1 "name", .parts 2 "field" .field, .parts 3 "nested_type" .message,
     .parts 4 "enum_type" .enum, .parts 5 "extension_range" .extensionRange,
     .parts 6 "extension" .field, .part 7 "options" .messageOptions, .parts 8 "oneof_decl" .oneof,
     .parts 9 "reserved_range" .reservedRange, .texts 10 "reserved_name"]
  | .extensionRange => [.int 1 "start", .int 2 "end", .part 3 "options" .extensionRangeOptions]
  | .reservedRange => [.int 1 "start", .int 2 "end"]
  | .extensionRangeOptions => [.uninterpreted]
  | .field =>
    [.text 1 "name", .text 2 "extendee", .int 3 "number", .int 4 "label", .int 5 "r#type",
     .text 6 "type_name", .text 7 "default_value", .part 8 "options" .fieldOptions,
     .int 9 "oneof_index", .text 10 "json_name", .flag 17 "proto3_optional"]
  | .oneof => [.text 1 "name", .part 2 "options" .oneofOptions]
  | .enum =>
    [.text 1 "name", .parts 2 "value" .enumValue, .part 3 "options" .enumOptions,
     .parts 4 "reserved_range" .enumReservedRange, .texts 5 "reserved_name"]
  | .enumReservedRange => [.int 1 "start", .int 2 "end"]
  | .enumValue => [.text 1 "name", .int 2 "number", .part 3 "options" .enumValueOptions]
  | .service => [.text 1 "name", .parts 2 "method" .method, .part 3 "options" .serviceOptions]
  | .method =>
    [.text 1 "name", .text 2 "input_type", .text 3 "output_type", .part 4 "options" .methodOptions,
     .flag 5 "client_streaming", .flag 6 "server_streaming"]
  | .fileOptions =>
    [.text 1 "java_package", .text 8 "java_outer_classname", .int 9 "optimize_for",
     .flag 10 "java_multiple_files", .text 11 "go_package", .flag 16 "cc_generic_services",
     .flag 17 "java_generic_services", .flag 18 "py_generic_services",
     .flag 20 "java_generate_equals_and_hash", .flag 23 "deprecated",
     .flag 27 "java_string_check_utf8", .flag 31 "cc_enable_arenas", .text 36 "objc_class_prefix",
     .text 37 "csharp_namespace", .text 39 "swift_prefix", .text 40 "php_class_prefix",
     .text 41 "php_namespace", .flag 42 "php_generic_services", .text 44 "php_metadata_namespace",
     .text 45 "ruby_package", .uninterpreted]
  | .messageOptions =>
    [.flag 1 "message_set_wire_format", .flag 2 "no_standard_descriptor_accessor",
     .flag 3 "deprecated", .flag 7 "map_entry", .uninterpreted]
  | .fieldOptions =>
    [.int 1 "ctype", .flag 2 "packed", .flag 3 "deprecated", .flag 5 "lazy", .int 6 "jstype",
     .flag 10 "weak", .uninterpreted]
  | .oneofOptions => [.uninterpreted]
  | .enumOptions => [.flag 2 "allow_alias", .flag 3 "deprecated", .uninterpreted]
  | .enumValueOptions => [.flag 1 "deprecated", .uninterpreted]
  | .serviceOptions => [.flag 33 "deprecated", .uninterpreted]
  | .methodOptions => [.flag 33 "deprecated", .int 34 "idempotency_level", .uninterpreted]
  | .uninterpretedOption =>
    [.parts 2 "name" .namePart, .text 3 "identifier_value", .scalar 4 "positive_int_value" .uint64,
     .scalar 5 "negative_int_value" .int64, .scalar 6 "double_value" .double,
     .scalar 7 "string_value" .bytes, .text 8 "aggregate_value"]
  | .namePart =>
    [⟨1, "name_part", .required, .plain .string⟩, ⟨2, "is_extension", .required, .plain .bool⟩]
  | .sourceInfo => [.parts 1 "location" .location]
  | .location =>
    [.packedInts 1 "path", .packedInts 2 "span", .text 3 "leading_comments",
     .text 4 "trailing_comments", .texts 6 "leading_detached_comments"]

/-- The position and description of a field in its message. -/
def field? (type : MessageType) (number : Nat) : Option (Nat × FieldSpec) :=
  (type.fields.zipIdx.find? fun entry => entry.1.number = number).map fun entry =>
    (entry.2, entry.1)

end MessageType

end SchemaDocs.Wire
