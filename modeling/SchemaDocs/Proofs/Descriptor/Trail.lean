import SchemaDocs.Descriptor.Node
import Mathlib.Data.List.Basic
/-!
# Trails

The elements that a path passes, and what kinds they can be of.  The number of a step
settles the kind of the child, so that a path has little choice below anything but a
message.
-/

namespace SchemaDocs

/-- The kind of the elements in a collection. -/
def Collection.itemKind : Collection → ElementKind
  | .messageType => .message
  | .enumType => .enum
  | .service => .service
  | .extension => .field
  | .field => .field
  | .nestedType => .message
  | .oneofDecl => .oneof
  | .value => .enumValue
  | .method => .method

/-- The kinds that children of a kind are of. -/
def ElementKind.childKinds (kind : ElementKind) : List ElementKind :=
  kind.collections.map fun entry => entry.2.itemKind

namespace Element

/-- The elements below an element that a path passes, down to the one it leads to.  A path that
ends within a step, or that an element lacks the next step of, has none. -/
def trail (element : Element) : List Int32 → Option (List Element)
  | [] => some []
  | [_] => none
  | number :: index :: rest =>
    match element.step number index with
    | .error _ => none
    | .ok child => (child.trail rest).map (child :: ·)

/-! ## Steps -/

theorem kind_of_mem_children {element : Element} {collection : Collection}
    {items : List Element} (h : element.children? collection = some items) {item : Element}
    (hitem : item ∈ items) : item.kind = collection.itemKind := by
  cases element <;> cases collection <;> simp only [children?, reduceCtorEq, Option.some.injEq] at h
  all_goals
    subst h
    obtain ⟨_, -, rfl⟩ := List.mem_map.1 hitem
    rfl

theorem mem_of_itemAt? {items : List Element} {index : Int32} {item : Element}
    (h : itemAt? items index = some item) : item ∈ items := by
  rw [itemAt?] at h
  split at h
  · exact List.mem_of_getElem? h
  · simp at h

/-- A step takes an item of the collection that its number belongs to. -/
theorem exists_of_step {element child : Element} {number index : Int32}
    (h : element.step number index = .ok child) :
    ∃ collection items, element.kind.collection? number = some collection ∧
      element.children? collection = some items ∧ itemAt? items index = some child := by
  rw [step] at h
  split at h
  · simp at h
  · rename_i collection hcollection
    rw [Element.child] at h
    split at h
    · simp at h
    · rename_i items hitems
      split at h
      · rename_i item hitem
        rw [Except.ok.injEq] at h
        exact ⟨collection, items, hcollection, hitems, h ▸ hitem⟩
      · simp at h

/-- The number of a step belongs to a collection, and the child is of the kind of its items. -/
theorem kind_of_step {element child : Element} {number index : Int32}
    (h : element.step number index = .ok child) :
    ∃ collection, element.kind.collection? number = some collection ∧
      child.kind = collection.itemKind := by
  obtain ⟨collection, items, hcollection, hitems, hchild⟩ := exists_of_step h
  exact ⟨collection, hcollection, kind_of_mem_children hitems (mem_of_itemAt? hchild)⟩

theorem mem_collections {kind : ElementKind} {number : Int32} {collection : Collection}
    (h : kind.collection? number = some collection) : (number, collection) ∈ kind.collections := by
  obtain ⟨entry, hentry, rfl⟩ := Option.map_eq_some_iff.1 h
  have hnumber : entry.1 = number := by simpa using List.find?_some hentry
  rw [← hnumber]
  exact List.mem_of_find?_eq_some hentry

theorem kind_mem_childKinds {element child : Element} {number index : Int32}
    (h : element.step number index = .ok child) : child.kind ∈ element.kind.childKinds := by
  obtain ⟨collection, hcollection, hkind⟩ := kind_of_step h
  rw [hkind]
  exact List.mem_map.2 ⟨_, mem_collections hcollection, rfl⟩

/-! ## Paths -/

theorem trail_cons_cons {element child : Element} {number index : Int32}
    (h : element.step number index = .ok child) (rest : List Int32) :
    element.trail (number :: index :: rest) = (child.trail rest).map (child :: ·) := by
  rw [trail, h]

/-- A path with a trail takes two numbers for each step. -/
theorem length_of_trail {element : Element} {path : List Int32} {passed : List Element}
    (h : element.trail path = some passed) : path.length = 2 * passed.length := by
  match path with
  | [] =>
      rw [trail, Option.some.injEq] at h
      rw [← h]
      rfl
  | [_] => simp [trail] at h
  | number :: index :: rest =>
      rw [trail] at h
      split at h
      · simp at h
      · obtain ⟨below, hbelow, rfl⟩ := Option.map_eq_some_iff.1 h
        have hrest := length_of_trail hbelow
        simp only [List.length_cons]
        omega

/-- A path that leads further passes a child first. -/
theorem exists_of_trail_cons {element first : Element} {path : List Int32} {below : List Element}
    (h : element.trail path = some (first :: below)) :
    ∃ number index rest, path = number :: index :: rest ∧
      element.step number index = .ok first ∧ first.trail rest = some below := by
  match path with
  | [] => simp [trail] at h
  | [_] => simp [trail] at h
  | number :: index :: rest =>
      rw [trail] at h
      split at h
      · simp at h
      · rename_i child hstep
        obtain ⟨passed, hpassed, hcons⟩ := Option.map_eq_some_iff.1 h
        rw [List.cons.injEq] at hcons
        obtain ⟨rfl, rfl⟩ := hcons
        exact ⟨number, index, rest, rfl, hstep, hpassed⟩

/-- Nothing lies below an element of a kind without collections. -/
theorem trail_eq_nil {element : Element} (hkind : element.kind.childKinds = [])
    {path : List Int32} {below : List Element} (h : element.trail path = some below) :
    below = [] := by
  cases below with
  | nil => rfl
  | cons child below =>
      obtain ⟨number, index, rest, -, hstep, -⟩ := exists_of_trail_cons h
      have hmem := kind_mem_childKinds hstep
      rw [hkind] at hmem
      exact absurd hmem List.not_mem_nil

/-- A step from the end of a path adds the child at the end of its trail. -/
theorem trail_concat {element last child : Element} {path : List Int32} {passed : List Element}
    {number index : Int32} (h : element.trail path = some passed)
    (hlast : (element :: passed).getLast? = some last)
    (hstep : last.step number index = .ok child) :
    element.trail (path ++ [number, index]) = some (passed ++ [child]) := by
  induction passed generalizing element path with
  | nil =>
      have hpath : path = [] := by
        simpa using length_of_trail h
      rw [List.getLast?_singleton, Option.some.injEq] at hlast
      subst hpath hlast
      rw [List.nil_append, trail_cons_cons hstep]
      rfl
  | cons first below ih =>
      obtain ⟨n, i, rest, rfl, hfirst, hbelow⟩ := exists_of_trail_cons h
      rw [List.getLast?_cons_cons] at hlast
      rw [List.cons_append, List.cons_append, trail_cons_cons hfirst, ih hbelow hlast]
      rfl

end Element

end SchemaDocs
