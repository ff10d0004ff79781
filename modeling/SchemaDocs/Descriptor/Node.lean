import SchemaDocs.Descriptor.Basic
/-!
# Elements of a schema file

A file as a tree of elements.  Every kind of element has collections of children,
each under the number that its field has in the descriptor format; a step down the
tree names a collection and a position in it.
-/

namespace SchemaDocs

/-- A kind of schema element. -/
inductive ElementKind where
  | file | message | field | enum | enumValue | service | method | oneof
deriving DecidableEq

/-- A collection of child elements. -/
inductive Collection where
  | messageType | enumType | service | extension | field | nestedType | oneofDecl | value | method
deriving DecidableEq

namespace ElementKind

/-- The name of a kind. -/
def name : ElementKind → String
  | .file => "file"
  | .message => "message"
  | .field => "field"
  | .enum => "enum"
  | .enumValue => "enum value"
  | .service => "service"
  | .method => "method"
  | .oneof => "oneof"

/-- The collections of a kind, each with its field number. -/
def collections : ElementKind → List (Int32 × Collection)
  | .file => [(4, .messageType), (5, .enumType), (6, .service), (7, .extension)]
  | .message =>
    [(2, .field), (3, .nestedType), (4, .enumType), (6, .extension), (8, .oneofDecl)]
  | .enum => [(2, .value)]
  | .service => [(2, .method)]
  | .field | .enumValue | .method | .oneof => []

/-- The collection of a kind under a field number. -/
def collection? (kind : ElementKind) (number : Int32) : Option Collection :=
  (kind.collections.find? fun entry => entry.1 = number).map Prod.snd

end ElementKind

/-- The name of a collection in the descriptor format. -/
def Collection.name : Collection → String
  | .messageType => "message_type"
  | .enumType => "enum_type"
  | .service => "service"
  | .extension => "extension"
  | .field => "field"
  | .nestedType => "nested_type"
  | .oneofDecl => "oneof_decl"
  | .value => "value"
  | .method => "method"

/-- Why a path could not be followed. -/
inductive PathError where
  /-- The path has to start at another kind of element. -/
  | rootMismatch (expected found : ElementKind)
  /-- The path does not begin with a message of the file. -/
  | notAMessagePath (path : List Int32)
  /-- The kind of element has no collection under the number. -/
  | unknownField (kind : ElementKind) (number : Int32)
  /-- The kind of element does not have the collection. -/
  | noSuchCollection (kind : ElementKind) (collection : Collection)
  /-- The collection is too short, or the position negative. -/
  | indexOutOfRange (collection : Collection) (index : Int32) (length : Nat)

/-- Numbers between brackets. -/
def pathText (path : List Int32) : String :=
  "[" ++ String.intercalate ", " (path.map fun number => toString number.toInt) ++ "]"

/-- The text of a path error. -/
def PathError.message : PathError → String
  | .rootMismatch expected found =>
    "resolution must start at a " ++ expected.name ++ " node, got " ++ found.name
  | .notAMessagePath path => "path " ++ pathText path ++ " does not address a top-level message"
  | .unknownField kind number =>
    kind.name ++ " has no child collection with field number " ++ toString number.toInt
  | .noSuchCollection kind collection =>
    kind.name ++ " has no '" ++ collection.name ++ "' collection"
  | .indexOutOfRange collection index length =>
    "index " ++ toString index.toInt ++ " out of range for '" ++ collection.name ++ "' (len "
      ++ toString length ++ ")"

/-- An element of a schema file. -/
inductive Element where
  | file (file : FileDescriptor)
  | message (message : MessageDescriptor)
  | field (field : FieldDescriptor)
  | enum (enum : EnumDescriptor)
  | enumValue (value : EnumValueDescriptor)
  | service (service : ServiceDescriptor)
  | method (method : MethodDescriptor)
  | oneof (oneof : OneofDescriptor)

namespace Element

/-- The kind of an element. -/
def kind : Element → ElementKind
  | .file _ => .file
  | .message _ => .message
  | .field _ => .field
  | .enum _ => .enum
  | .enumValue _ => .enumValue
  | .service _ => .service
  | .method _ => .method
  | .oneof _ => .oneof

/-- The name of an element, empty if absent. -/
def name : Element → String
  | .file d => d.name.getD ""
  | .message d => d.name.getD ""
  | .field d => d.name.getD ""
  | .enum d => d.name.getD ""
  | .enumValue d => d.name.getD ""
  | .service d => d.name.getD ""
  | .method d => d.name.getD ""
  | .oneof d => d.name.getD ""

/-- The children of an element in a collection, if its kind has the collection. -/
def children? : Element → Collection → Option (List Element)
  | .file d, .messageType => some (d.messages.map .message)
  | .file d, .enumType => some (d.enums.map .enum)
  | .file d, .service => some (d.services.map .service)
  | .file d, .extension => some (d.extensions.map .field)
  | .message d, .field => some (d.fields.map .field)
  | .message d, .nestedType => some (d.nested.map .message)
  | .message d, .enumType => some (d.enums.map .enum)
  | .message d, .extension => some (d.extensions.map .field)
  | .message d, .oneofDecl => some (d.oneofs.map .oneof)
  | .enum d, .value => some (d.values.map .enumValue)
  | .service d, .method => some (d.methods.map .method)
  | _, _ => none

/-- The item at a position, if there is one. -/
def itemAt? (items : List Element) (index : Int32) : Option Element :=
  if 0 ≤ index.toInt then items[index.toInt.toNat]? else none

/-- The child of an element at a position of a collection. -/
def child (element : Element) (collection : Collection) (index : Int32) :
    Except PathError Element :=
  match element.children? collection with
  | none => .error (.noSuchCollection element.kind collection)
  | some items =>
    match itemAt? items index with
    | some item => .ok item
    | none => .error (.indexOutOfRange collection index items.length)

/-- One step down, to a position of the collection under a field number. -/
def step (element : Element) (number index : Int32) : Except PathError Element :=
  match element.kind.collection? number with
  | none => .error (.unknownField element.kind number)
  | some collection => element.child collection index

end Element

end SchemaDocs
