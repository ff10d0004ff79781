import SchemaDocs.ClassDoc.Basic
import SchemaDocs.Text.Printable
/-!
# Registry of class documentation

One shared document for each class name.  A handle stands for one document, whoever
holds it; clearing the registry makes it forget its names, while handles handed out
before keep their documents.
-/

namespace SchemaDocs

/-- A reference to one document of a registry. -/
structure Handle where
  index : Nat
  name : String
deriving DecidableEq

namespace Handle

/-- Whether two handles bear the same name. -/
def sameName (a b : Handle) : Bool := a.name = b.name

/-- Whether two handles stand for the same document. -/
def sameDocument (a b : Handle) : Bool := a.index = b.index

/-- A handle as it stands in diagnostics. -/
def describe (handle : Handle) : String := "StructureHandle(" ++ Text.quoted handle.name ++ ")"

end Handle

/-- The documents made so far, and handles to those registered now in creation order. -/
structure Registry where
  documents : List ClassDoc
  handles : List Handle

namespace Registry

/-- A registry that knows no class. -/
def empty : Registry := ⟨[], []⟩

/-- The handle registered for a name. -/
def get? (registry : Registry) (name : String) : Option Handle :=
  registry.handles.find? fun handle => handle.name = name

/-- The handle registered for a name, with a new empty document on first use. -/
def getOrCreate (registry : Registry) (name : String) : Handle × Registry :=
  match registry.get? name with
  | some handle => (handle, registry)
  | none =>
    let handle : Handle := ⟨registry.documents.length, name⟩
    (handle, ⟨registry.documents ++ [ClassDoc.empty name], registry.handles ++ [handle]⟩)

/-- The document that a handle stands for. -/
def document (registry : Registry) (handle : Handle) : ClassDoc :=
  registry.documents[handle.index]?.getD (ClassDoc.empty handle.name)

/-- Changes the document that a handle stands for. -/
def modify (registry : Registry) (handle : Handle) (f : ClassDoc → ClassDoc) : Registry :=
  { registry with documents := registry.documents.modify handle.index f }

/-- Forgets all names. -/
def clear (registry : Registry) : Registry := { registry with handles := [] }

/-- The number of registered classes. -/
def size (registry : Registry) : Nat := registry.handles.length

/-- The registered names in creation order. -/
def names (registry : Registry) : List String := registry.handles.map Handle.name

/-- The registered documents in creation order. -/
def registered (registry : Registry) : List ClassDoc := registry.handles.map registry.document

end Registry

end SchemaDocs
