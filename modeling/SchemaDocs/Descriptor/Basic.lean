import SchemaDocs.Descriptor.Options
/-!
# Schema descriptors

The elements of a schema file as its compiler hands them on: messages, fields, enums
and services, and for each element the comments that stand at its place in the
source.  What the compiler left out is absent, which differs from being empty.
-/

namespace SchemaDocs

/-- A field of a message, or an extension field. -/
structure FieldDescriptor where
  name : Option String := none
  extendee : Option String := none
  number : Option Int32 := none
  label : Option Int32 := none
  type : Option Int32 := none
  typeName : Option String := none
  defaultValue : Option String := none
  options : Option FieldOptions := none
  oneofIndex : Option Int32 := none
  jsonName : Option String := none
  proto3Optional : Option Bool := none

/-- A group of fields of which one is set at a time. -/
structure OneofDescriptor where
  name : Option String := none
  options : Option OneofOptions := none

/-- A value of an enum. -/
structure EnumValueDescriptor where
  name : Option String := none
  number : Option Int32 := none
  options : Option EnumValueOptions := none

/-- A range of numbers. -/
structure NumberRange where
  start : Option Int32 := none
  stop : Option Int32 := none

/-- An enum. -/
structure EnumDescriptor where
  name : Option String := none
  values : List EnumValueDescriptor := []
  options : Option EnumOptions := none
  reservedRanges : List NumberRange := []
  reservedNames : List String := []

/-- A range of numbers open to extensions. -/
structure ExtensionRange where
  start : Option Int32 := none
  stop : Option Int32 := none
  options : Option ExtensionRangeOptions := none

/-- A message, with the messages nested in it. -/
structure MessageDescriptor where
  name : Option String := none
  fields : List FieldDescriptor := []
  nested : List MessageDescriptor := []
  enums : List EnumDescriptor := []
  extensionRanges : List ExtensionRange := []
  extensions : List FieldDescriptor := []
  options : Option MessageOptions := none
  oneofs : List OneofDescriptor := []
  reservedRanges : List NumberRange := []
  reservedNames : List String := []

instance : Inhabited MessageDescriptor := ⟨{}⟩

/-- A method of a service. -/
structure MethodDescriptor where
  name : Option String := none
  inputType : Option String := none
  outputType : Option String := none
  options : Option MethodOptions := none
  clientStreaming : Option Bool := none
  serverStreaming : Option Bool := none

/-- A service. -/
structure ServiceDescriptor where
  name : Option String := none
  methods : List MethodDescriptor := []
  options : Option ServiceOptions := none

/-- A place in the source: the path from the file to the element there, and the comments at
it. -/
structure Location where
  path : List Int32 := []
  span : List Int32 := []
  leading : Option String := none
  trailing : Option String := none
  detached : List String := []

/-- The places of a file. -/
structure SourceInfo where
  locations : List Location := []

/-- A schema file. -/
structure FileDescriptor where
  name : Option String := none
  package : Option String := none
  dependencies : List String := []
  messages : List MessageDescriptor := []
  enums : List EnumDescriptor := []
  services : List ServiceDescriptor := []
  extensions : List FieldDescriptor := []
  options : Option FileOptions := none
  sourceInfo : Option SourceInfo := none
  publicDependencies : List Int32 := []
  weakDependencies : List Int32 := []
  syntaxName : Option String := none

/-- A collection of schema files. -/
structure DescriptorSet where
  files : List FileDescriptor := []

/-- The version of a compiler. -/
structure CompilerVersion where
  major : Option Int32 := none
  minor : Option Int32 := none
  patch : Option Int32 := none
  suffix : Option String := none

/-- What a compiler asks for: the names of the files to generate code for, and the descriptors
of these files and of all that they need. -/
structure GenerateRequest where
  filesToGenerate : List String := []
  parameter : Option String := none
  compilerVersion : Option CompilerVersion := none
  files : List FileDescriptor := []

/-- A piece of code to insert into a generated file. -/
structure GeneratedFile where
  name : Option String := none
  insertionPoint : Option String := none
  content : Option String := none

/-- What a compiler is answered: files, or the text of an error. -/
structure GenerateResponse where
  error : Option String := none
  supportedFeatures : Option UInt64 := none
  files : List GeneratedFile := []

/-! ## Parts of a file -/

namespace FileDescriptor

/-- The name of a file, empty if absent. -/
def nameText (file : FileDescriptor) : String := file.name.getD ""

/-- The package of a file, empty if absent. -/
def packageText (file : FileDescriptor) : String := file.package.getD ""

/-- The places of a file, none if it has no source information. -/
def locations (file : FileDescriptor) : List Location :=
  (file.sourceInfo.map SourceInfo.locations).getD []

end FileDescriptor

namespace GenerateRequest

/-- The parameter, where an empty one counts as absent. -/
def givenParameter? (request : GenerateRequest) : Option String :=
  request.parameter.filter fun text => text != ""

/-- The files that code is to be generated for, in the order of their descriptors. -/
def wantedFiles (request : GenerateRequest) : List FileDescriptor :=
  request.files.filter fun file => request.filesToGenerate.contains file.nameText

end GenerateRequest

end SchemaDocs
