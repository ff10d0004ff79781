import SchemaDocs.Markup.Comment
import SchemaDocs.Proofs.Descriptor.Trail
import Mathlib.Data.List.Nodup
import Mathlib.Data.List.Pairwise
/-!
# Declared messages

The messages that a file declares, at any depth, with the names around them, and the scopes that
names stand in.  Where the names in each scope are distinct, names tell apart the steps down from
a message, and so the paths to messages.
-/

namespace SchemaDocs

/-- A declared message, and the names of the messages from the outermost one down to it. -/
structure Declaration where
  names : List String
  message : MessageDescriptor

/-- A declaration as it is seen from outside of a message around it. -/
def Declaration.within (outer : String) (declaration : Declaration) : Declaration :=
  ⟨outer :: declaration.names, declaration.message⟩

namespace MessageDescriptor

/-- The name of a message, empty if absent. -/
def nameText (message : MessageDescriptor) : String := message.name.getD ""

mutual

/-- A message and all messages nested in it. -/
def declarations : MessageDescriptor → List Declaration
  | ⟨name, fields, nested, enums, extensionRanges, extensions, options, oneofs, reservedRanges,
      reservedNames⟩ =>
    ⟨[name.getD ""], ⟨name, fields, nested, enums, extensionRanges, extensions, options, oneofs,
      reservedRanges, reservedNames⟩⟩ :: (allDeclarations nested).map (.within (name.getD ""))

/-- Messages and all messages nested in them. -/
def allDeclarations : List MessageDescriptor → List Declaration
  | [] => []
  | message :: rest => message.declarations ++ allDeclarations rest

end

theorem declarations_eq (message : MessageDescriptor) :
    message.declarations =
      ⟨[message.nameText], message⟩ ::
        (allDeclarations message.nested).map (.within message.nameText) := by
  cases message
  rw [declarations]
  rfl

theorem self_mem_allDeclarations {messages : List MessageDescriptor} {message : MessageDescriptor}
    (h : message ∈ messages) : ⟨[message.nameText], message⟩ ∈ allDeclarations messages := by
  induction messages with
  | nil => exact absurd h List.not_mem_nil
  | cons first rest ih =>
      rw [allDeclarations, List.mem_append]
      rcases List.mem_cons.1 h with rfl | hrest
      · left
        rw [declarations_eq]
        exact List.mem_cons_self
      · exact .inr (ih hrest)

mutual

/-- What is nested in a declared message is declared. -/
theorem nested_mem_declarations (message : MessageDescriptor) {declaration : Declaration}
    {inner : MessageDescriptor} (h : declaration ∈ message.declarations)
    (hinner : inner ∈ declaration.message.nested) :
    ⟨declaration.names ++ [inner.nameText], inner⟩ ∈ message.declarations := by
  cases message with
  | mk name fields nested enums extensionRanges extensions options oneofs reservedRanges
      reservedNames =>
      rw [declarations, List.mem_cons] at h ⊢
      right
      rcases h with rfl | h
      · exact List.mem_map.2 ⟨_, self_mem_allDeclarations hinner, rfl⟩
      · obtain ⟨below, hbelow, rfl⟩ := List.mem_map.1 h
        exact List.mem_map.2 ⟨_, nested_mem_allDeclarations nested hbelow hinner, rfl⟩

theorem nested_mem_allDeclarations (messages : List MessageDescriptor)
    {declaration : Declaration} {inner : MessageDescriptor}
    (h : declaration ∈ allDeclarations messages) (hinner : inner ∈ declaration.message.nested) :
    ⟨declaration.names ++ [inner.nameText], inner⟩ ∈ allDeclarations messages := by
  cases messages with
  | nil => exact absurd h List.not_mem_nil
  | cons first rest =>
      rw [allDeclarations, List.mem_append] at h ⊢
      rcases h with h | h
      · exact .inl (nested_mem_declarations first h hinner)
      · exact .inr (nested_mem_allDeclarations rest h hinner)

end

/-- The names of the fields, extensions and groups of fields of a message. -/
def memberNames (message : MessageDescriptor) : List String :=
  (message.fields ++ message.extensions).map (fun field => field.name.getD "")
    ++ message.oneofs.map fun oneof => oneof.name.getD ""

end MessageDescriptor

/-! ## Scopes -/

/-- Whether a name is an identifier, a letter or underscore and then letters, digits and
underscores. -/
def isIdentifier (name : String) : Bool :=
  match name.toList with
  | [] => false
  | c :: cs => Markup.isIdentifierStart c && cs.all fun c => c.isAlphanum || c = '_'

/-- The names of all that stands in an element. -/
def Element.scopeNames (element : Element) : List String :=
  element.kind.collections.flatMap fun entry =>
    ((element.children? entry.2).getD []).map Element.name

namespace FileDescriptor

/-- All messages that a file declares. -/
def declarations (file : FileDescriptor) : List Declaration :=
  MessageDescriptor.allDeclarations file.messages

/-- The names in each scope: those of the outermost messages and enums, and for each message those
of all that stands in it. -/
def scopes (file : FileDescriptor) : List (List String) :=
  (file.messages.map MessageDescriptor.nameText ++ file.enums.map fun enum => enum.name.getD "") ::
    file.declarations.map fun declaration => (Element.message declaration.message).scopeNames

/-- The names of a file are identifiers. -/
def LegalNames (file : FileDescriptor) : Prop :=
  ∀ scope ∈ file.scopes, ∀ name ∈ scope, isIdentifier name = true

/-- No name of a file stands in one scope twice. -/
def DistinctNames (file : FileDescriptor) : Prop := ∀ scope ∈ file.scopes, scope.Nodup

instance (file : FileDescriptor) : Decidable file.LegalNames :=
  inferInstanceAs (Decidable (∀ scope ∈ file.scopes, ∀ name ∈ scope, isIdentifier name = true))

instance (file : FileDescriptor) : Decidable file.DistinctNames :=
  inferInstanceAs (Decidable (∀ scope ∈ file.scopes, scope.Nodup))

/-! ## Paths into messages -/

/-- The elements that paths from a file lead to through messages, with the names on the way. -/
inductive Reaches (file : FileDescriptor) : List Int32 → List String → Element → Prop
  | outermost {number index : Int32} {message : MessageDescriptor}
      (hstep : (Element.file file).step number index = .ok (.message message)) :
      Reaches file [number, index] [message.nameText] (.message message)
  | inner {path : List Int32} {names : List String} {message : MessageDescriptor}
      {number index : Int32} {child : Element} (houter : Reaches file path names (.message message))
      (hstep : (Element.message message).step number index = .ok child) :
      Reaches file (path ++ [number, index]) (names ++ [child.name]) child

end FileDescriptor

namespace Element

/-- Only under one number do messages stand in a file. -/
theorem exists_of_step_file {file : FileDescriptor} {message : MessageDescriptor}
    {number index : Int32} (h : (Element.file file).step number index = .ok (.message message)) :
    number = 4 ∧ itemAt? (file.messages.map .message) index = some (.message message) := by
  obtain ⟨collection, items, hcollection, hitems, hchild⟩ := exists_of_step h
  have hkind := kind_of_mem_children hitems (mem_of_itemAt? hchild)
  have hmem := mem_collections hcollection
  simp only [kind, ElementKind.collections, List.mem_cons, Prod.mk.injEq, List.not_mem_nil,
    or_false] at hmem
  rcases hmem with ⟨rfl, rfl⟩ | ⟨rfl, rfl⟩ | ⟨rfl, rfl⟩ | ⟨rfl, rfl⟩
  · rw [children?, Option.some.injEq] at hitems
    exact ⟨rfl, hitems ▸ hchild⟩
  all_goals simp [kind, Collection.itemKind] at hkind

theorem mem_of_step_file {file : FileDescriptor} {message : MessageDescriptor}
    {number index : Int32} (h : (Element.file file).step number index = .ok (.message message)) :
    message ∈ file.messages := by
  have hmem := mem_of_itemAt? (exists_of_step_file h).2
  simpa using hmem

theorem mem_of_step_message {outer message : MessageDescriptor} {number index : Int32}
    (h : (Element.message outer).step number index = .ok (.message message)) :
    message ∈ outer.nested := by
  obtain ⟨collection, items, hcollection, hitems, hchild⟩ := exists_of_step h
  have hkind := kind_of_mem_children hitems (mem_of_itemAt? hchild)
  have hmem := mem_of_itemAt? hchild
  cases collection <;> simp only [children?, reduceCtorEq, Option.some.injEq] at hitems
  case nestedType =>
      subst hitems
      simpa using hmem
  all_goals simp [kind, Collection.itemKind] at hkind

/-- A field, extension or group of fields right in a message is one of its members. -/
theorem name_mem_memberNames {message : MessageDescriptor} {child : Element} {number index : Int32}
    (h : (Element.message message).step number index = .ok child)
    (hkind : child.kind = .field ∨ child.kind = .oneof) : child.name ∈ message.memberNames := by
  obtain ⟨collection, items, hcollection, hitems, hchild⟩ := exists_of_step h
  have hitemKind := kind_of_mem_children hitems (mem_of_itemAt? hchild)
  have hmem := mem_of_itemAt? hchild
  rw [MessageDescriptor.memberNames, List.map_append, List.mem_append, List.mem_append]
  cases collection <;> simp only [children?, reduceCtorEq, Option.some.injEq] at hitems
  case field =>
      subst hitems
      obtain ⟨field, hfield, rfl⟩ := List.mem_map.1 hmem
      exact .inl (.inl (List.mem_map_of_mem hfield))
  case extension =>
      subst hitems
      obtain ⟨field, hfield, rfl⟩ := List.mem_map.1 hmem
      exact .inl (.inr (List.mem_map_of_mem hfield))
  case oneofDecl =>
      subst hitems
      obtain ⟨oneof, honeof, rfl⟩ := List.mem_map.1 hmem
      exact .inr (List.mem_map_of_mem honeof)
  all_goals simp [hitemKind, Collection.itemKind] at hkind

/-- Lists without a common item, put together, tell which of them an item comes from. -/
theorem eq_of_nodup_flatMap {α β : Type} {l : List α} {f : α → List β} (h : (l.flatMap f).Nodup)
    {a b : α} (ha : a ∈ l) (hb : b ∈ l) {x : β} (hxa : x ∈ f a) (hxb : x ∈ f b) : a = b := by
  by_contra hne
  have hsymm : Std.Symm (Function.onFun List.Disjoint f) := ⟨fun _ _ h _ hx hy => h hy hx⟩
  exact (List.nodup_flatMap.1 h).2.forall ha hb hne hxa hxb

/-- Items of distinct names stand at one position only if they are of one name. -/
theorem itemAt?_injective {items : List Element} (hnames : (items.map name).Nodup)
    {a b : Int32} {x y : Element} (hx : itemAt? items a = some x) (hy : itemAt? items b = some y)
    (hname : x.name = y.name) : a = b := by
  rw [itemAt?] at hx hy
  split at hx
  · rename_i ha
    split at hy
    · rename_i hb
      have hlt := (List.getElem?_eq_some_iff.1 hx).1
      have hindex : a.toInt.toNat = b.toInt.toNat := by
        apply (List.getElem?_inj (by simpa using hlt) hnames).1
        rw [List.getElem?_map, List.getElem?_map, hx, hy, Option.map_some, Option.map_some, hname]
      apply Int32.toInt_inj.1
      omega
    · simp at hy
  · simp at hx

theorem name_mem_children {element child : Element} {collection : Collection}
    {items : List Element} {index : Int32} (hitems : element.children? collection = some items)
    (hchild : itemAt? items index = some child) :
    child.name ∈ ((element.children? collection).getD []).map name := by
  rw [hitems, Option.getD_some]
  exact List.mem_map_of_mem (mem_of_itemAt? hchild)

theorem name_mem_scopeNames {element child : Element} {number index : Int32}
    (h : element.step number index = .ok child) : child.name ∈ element.scopeNames := by
  obtain ⟨collection, items, hcollection, hitems, hchild⟩ := exists_of_step h
  exact List.mem_flatMap.2 ⟨_, mem_collections hcollection, name_mem_children hitems hchild⟩

/-- In a scope of distinct names, a name tells the step. -/
theorem step_injective {element x y : Element} {number index number' index' : Int32}
    (hnames : element.scopeNames.Nodup) (hx : element.step number index = .ok x)
    (hy : element.step number' index' = .ok y) (hname : x.name = y.name) :
    number = number' ∧ index = index' := by
  obtain ⟨collection, items, hcollection, hitems, hchild⟩ := exists_of_step hx
  obtain ⟨collection', items', hcollection', hitems', hchild'⟩ := exists_of_step hy
  have hentry : (number, collection) = (number', collection') :=
    eq_of_nodup_flatMap hnames (mem_collections hcollection) (mem_collections hcollection')
      (name_mem_children hitems hchild) (hname ▸ name_mem_children hitems' hchild')
  rw [Prod.mk.injEq] at hentry
  obtain ⟨rfl, rfl⟩ := hentry
  rw [hitems, Option.some.injEq] at hitems'
  subst hitems'
  have hitemNames := (List.nodup_flatMap.1 hnames).1 _ (mem_collections hcollection)
  rw [hitems, Option.getD_some] at hitemNames
  exact ⟨rfl, itemAt?_injective hitemNames hchild hchild' hname⟩

end Element

namespace FileDescriptor

variable {file : FileDescriptor}

namespace Reaches

theorem names_ne_nil {path : List Int32} {names : List String} {element : Element}
    (h : file.Reaches path names element) : names ≠ [] := by
  cases h <;> simp

theorem path_ne_nil {path : List Int32} {names : List String} {element : Element}
    (h : file.Reaches path names element) : path ≠ [] := by
  cases h <;> simp

theorem mem_declarations {path : List Int32} {names : List String} {message : MessageDescriptor}
    (h : file.Reaches path names (.message message)) : ⟨names, message⟩ ∈ file.declarations := by
  generalize helement : Element.message message = element at h
  induction h generalizing message with
  | outermost hstep =>
      rw [Element.message.injEq] at helement
      subst helement
      exact MessageDescriptor.self_mem_allDeclarations (Element.mem_of_step_file hstep)
  | inner _ hstep ih =>
      subst helement
      exact MessageDescriptor.nested_mem_allDeclarations _ (ih rfl)
        (Element.mem_of_step_message hstep)

theorem scopeNames_mem_scopes {path : List Int32} {names : List String}
    {message : MessageDescriptor} (h : file.Reaches path names (.message message)) :
    (Element.message message).scopeNames ∈ file.scopes :=
  List.mem_cons_of_mem _ (List.mem_map_of_mem h.mem_declarations)

/-- A path leads to one element, past one list of names. -/
theorem eq_of_path_eq {path : List Int32} {names names' : List String}
    {element element' : Element} (h : file.Reaches path names element)
    (h' : file.Reaches path names' element') : names = names' ∧ element = element' := by
  generalize hpath : path = path' at h'
  induction h generalizing path' names' element' with
  | outermost hstep =>
      cases h' with
      | outermost hstep' =>
          rw [List.cons.injEq, List.cons.injEq] at hpath
          obtain ⟨rfl, rfl, -⟩ := hpath
          rw [hstep, Except.ok.injEq] at hstep'
          rw [Element.message.injEq] at hstep'
          exact ⟨by rw [hstep'], by rw [hstep']⟩
      | inner houter' _ =>
          obtain ⟨hnil, -⟩ := List.append_inj' ((List.nil_append _).trans hpath) rfl
          exact absurd hnil.symm houter'.path_ne_nil
  | inner houter hstep ih =>
      cases h' with
      | outermost _ =>
          obtain ⟨hnil, -⟩ := List.append_inj' (hpath.trans (List.nil_append _).symm) rfl
          exact absurd hnil houter.path_ne_nil
      | inner houter' hstep' =>
          obtain ⟨rfl, hlast⟩ := List.append_inj' hpath rfl
          rw [List.cons.injEq, List.cons.injEq] at hlast
          obtain ⟨rfl, rfl, -⟩ := hlast
          obtain ⟨rfl, hmessage⟩ := ih _ rfl houter'
          rw [← hmessage, hstep, Except.ok.injEq] at hstep'
          exact ⟨by rw [hstep'], hstep'⟩

end Reaches

/-- In a file of legal names, the names on the way to an element are legal. -/
theorem LegalNames.isIdentifier_of_reaches (hlegal : file.LegalNames) {path : List Int32}
    {names : List String} {element : Element} (h : file.Reaches path names element) :
    ∀ name ∈ names, isIdentifier name = true := by
  induction h with
  | outermost hstep =>
      intro name hname
      rw [List.mem_singleton.1 hname]
      apply hlegal _ List.mem_cons_self
      exact List.mem_append_left _ (List.mem_map_of_mem (Element.mem_of_step_file hstep))
  | inner houter hstep ih =>
      intro name hname
      rcases List.mem_append.1 hname with hname | hname
      · exact ih name hname
      · rw [List.mem_singleton.1 hname]
        exact hlegal _ houter.scopeNames_mem_scopes _ (Element.name_mem_scopeNames hstep)

/-- In a file of distinct names, a name tells an outermost message. -/
theorem DistinctNames.step_file_injective (hdistinct : file.DistinctNames)
    {message message' : MessageDescriptor} {number index number' index' : Int32}
    (h : (Element.file file).step number index = .ok (.message message))
    (h' : (Element.file file).step number' index' = .ok (.message message'))
    (hname : message.nameText = message'.nameText) : number = number' ∧ index = index' := by
  obtain ⟨rfl, hitem⟩ := Element.exists_of_step_file h
  obtain ⟨rfl, hitem'⟩ := Element.exists_of_step_file h'
  have hscope := (List.nodup_append.1 (hdistinct _ List.mem_cons_self)).1
  have hnames : ((file.messages.map Element.message).map Element.name).Nodup := by
    rwa [List.map_map]
  exact ⟨rfl, Element.itemAt?_injective hnames hitem hitem' hname⟩

/-- Where the names in each scope are distinct, the names on the way tell the path. -/
theorem DistinctNames.path_eq (hdistinct : file.DistinctNames) {path path' : List Int32}
    {names : List String} {element element' : Element} (h : file.Reaches path names element)
    (h' : file.Reaches path' names element') : path = path' ∧ element = element' := by
  -- the last name settles the last step, and the names before it the path so far
  generalize hnames : names = names' at h'
  induction h generalizing path' names' element' with
  | outermost hstep =>
      cases h' with
      | outermost hstep' =>
          have hname := List.singleton_inj.1 hnames
          obtain ⟨rfl, rfl⟩ := hdistinct.step_file_injective hstep hstep' hname
          rw [hstep, Except.ok.injEq] at hstep'
          exact ⟨rfl, hstep'⟩
      | inner houter' _ => simp [List.singleton_eq_append_iff, houter'.names_ne_nil] at hnames
  | inner houter hstep ih =>
      cases h' with
      | outermost _ => simp [List.append_eq_singleton_iff, houter.names_ne_nil] at hnames
      | inner houter' hstep' =>
          obtain ⟨houters, hlast⟩ := List.append_inj' hnames rfl
          obtain ⟨rfl, hmessage⟩ := ih _ houters houter'
          rw [Element.message.injEq] at hmessage
          subst hmessage
          obtain ⟨rfl, rfl⟩ := Element.step_injective (hdistinct _ houter.scopeNames_mem_scopes)
            hstep hstep' (List.singleton_inj.1 hlast)
          rw [hstep, Except.ok.injEq] at hstep'
          exact ⟨rfl, hstep'⟩

end FileDescriptor

end SchemaDocs
