import SchemaDocs.ClassDoc.Registry
import Mathlib.Data.List.Nodup
/-!
# What a registry keeps

No name and no document is registered twice, and every registered handle bears the
name of its document.  Changes to one document show through its handle and through no
other.
-/

namespace SchemaDocs.Registry

/-- The handles of a registry have pairwise distinct names and documents, and bear the names of
their documents. -/
structure WellFormed (registry : Registry) : Prop where
  names : (registry.handles.map Handle.name).Nodup
  indices : (registry.handles.map Handle.index).Nodup
  document_name : ∀ handle ∈ registry.handles,
    registry.documents[handle.index]?.map ClassDoc.name = some handle.name

theorem wellFormed_empty : WellFormed empty :=
  ⟨List.nodup_nil, List.nodup_nil, fun _ h => absurd h List.not_mem_nil⟩

namespace WellFormed

variable {registry : Registry} (hw : registry.WellFormed)

include hw

theorem eq_of_name_eq {a b : Handle} (ha : a ∈ registry.handles) (hb : b ∈ registry.handles)
    (hname : a.name = b.name) : a = b :=
  List.inj_on_of_nodup_map hw.names ha hb hname

theorem eq_of_index_eq {a b : Handle} (ha : a ∈ registry.handles) (hb : b ∈ registry.handles)
    (hindex : a.index = b.index) : a = b :=
  List.inj_on_of_nodup_map hw.indices ha hb hindex

theorem index_lt {handle : Handle} (h : handle ∈ registry.handles) :
    handle.index < registry.documents.length := by
  have hsome := hw.document_name handle h
  by_contra hout
  rw [List.getElem?_eq_none (by omega)] at hsome
  simp at hsome

theorem name_document {handle : Handle} (h : handle ∈ registry.handles) :
    (registry.document handle).name = handle.name := by
  obtain ⟨doc, hdoc, hname⟩ := Option.map_eq_some_iff.1 (hw.document_name handle h)
  rw [document, hdoc, Option.getD_some, hname]

end WellFormed

/-! ## Looking up a name -/

theorem mem_of_get? {registry : Registry} {name : String} {handle : Handle}
    (h : registry.get? name = some handle) : handle ∈ registry.handles ∧ handle.name = name :=
  ⟨List.mem_of_find?_eq_some h, by simpa using List.find?_some h⟩

theorem WellFormed.get?_eq {registry : Registry} (hw : registry.WellFormed) {handle : Handle}
    (hmem : handle ∈ registry.handles) : registry.get? handle.name = some handle := by
  cases h : registry.get? handle.name with
  | none => simpa using List.find?_eq_none.1 h handle hmem
  | some other =>
      obtain ⟨hother, hname⟩ := mem_of_get? h
      rw [hw.eq_of_name_eq hother hmem hname]

theorem get?_eq_none_iff {registry : Registry} {name : String} :
    registry.get? name = none ↔ name ∉ registry.names := by
  simp [get?, names]

theorem get?_of_begins {before after : Registry} (h : before.handles <+: after.handles)
    {name : String} {handle : Handle} (hget : before.get? name = some handle) :
    after.get? name = some handle := by
  obtain ⟨more, hmore⟩ := h
  rw [get?, ← hmore, List.find?_append]
  rw [get?] at hget
  rw [hget, Option.some_or]

/-! ## Changing a document -/

theorem document_modify_of_eq {registry : Registry} {a b : Handle} (hindex : a.index = b.index)
    (h : b.index < registry.documents.length) (f : ClassDoc → ClassDoc) :
    (registry.modify a f).document b = f (registry.document b) := by
  simp [document, modify, hindex, h]

theorem document_modify_self {registry : Registry} {handle : Handle}
    (h : handle.index < registry.documents.length) (f : ClassDoc → ClassDoc) :
    (registry.modify handle f).document handle = f (registry.document handle) :=
  document_modify_of_eq rfl h f

theorem document_modify_of_ne {registry : Registry} {a b : Handle} (h : a.index ≠ b.index)
    (f : ClassDoc → ClassDoc) : (registry.modify a f).document b = registry.document b := by
  simp [document, modify, h]

theorem WellFormed.modify {registry : Registry} (hw : registry.WellFormed) {handle : Handle}
    {f : ClassDoc → ClassDoc}
    (hf : (f (registry.document handle)).name = (registry.document handle).name) :
    (registry.modify handle f).WellFormed := by
  refine ⟨hw.names, hw.indices, ?_⟩
  intro other hother
  have hname := hw.document_name other hother
  obtain ⟨doc, hdoc, -⟩ := Option.map_eq_some_iff.1 hname
  by_cases hsame : handle.index = other.index
  · rw [document, hsame, hdoc, Option.getD_some] at hf
    rw [hdoc] at hname
    simpa [Registry.modify, List.getElem?_modify, hsame, hdoc, hf] using hname
  · simpa [Registry.modify, List.getElem?_modify, hsame] using hname

/-! ## Creating a document -/

theorem getOrCreate_of_some {registry : Registry} {name : String} {handle : Handle}
    (h : registry.get? name = some handle) : registry.getOrCreate name = (handle, registry) := by
  rw [getOrCreate, h]

theorem getOrCreate_of_none {registry : Registry} {name : String}
    (h : registry.get? name = none) :
    registry.getOrCreate name =
      (⟨registry.documents.length, name⟩,
        ⟨registry.documents ++ [ClassDoc.empty name],
          registry.handles ++ [⟨registry.documents.length, name⟩]⟩) := by
  rw [getOrCreate, h]

theorem name_getOrCreate (registry : Registry) (name : String) :
    (registry.getOrCreate name).1.name = name := by
  cases h : registry.get? name with
  | none => rw [getOrCreate_of_none h]
  | some handle =>
      rw [getOrCreate_of_some h]
      simpa using List.find?_some h

theorem mem_handles_getOrCreate (registry : Registry) (name : String) :
    (registry.getOrCreate name).1 ∈ (registry.getOrCreate name).2.handles := by
  cases h : registry.get? name with
  | none =>
      rw [getOrCreate_of_none h]
      exact List.mem_concat_self
  | some handle =>
      rw [getOrCreate_of_some h]
      exact List.mem_of_find?_eq_some h

theorem handles_begin_getOrCreate (registry : Registry) (name : String) :
    registry.handles <+: (registry.getOrCreate name).2.handles := by
  cases h : registry.get? name with
  | none =>
      rw [getOrCreate_of_none h]
      exact List.prefix_append _ _
  | some handle => exact (getOrCreate_of_some h).symm ▸ List.prefix_rfl

theorem WellFormed.getOrCreate {registry : Registry} (hw : registry.WellFormed) (name : String) :
    (registry.getOrCreate name).2.WellFormed := by
  cases h : registry.get? name with
  | some handle => rwa [getOrCreate_of_some h]
  | none =>
      rw [getOrCreate_of_none h]
      refine ⟨?_, ?_, ?_⟩
      · have hnew : ∀ handle ∈ registry.handles, ¬ handle.name = name := fun handle hhandle => by
          simpa using List.find?_eq_none.1 h handle hhandle
        simpa [List.nodup_append, List.nodup_cons] using ⟨hw.names, hnew⟩
      · have hnew : ∀ handle ∈ registry.handles, ¬ handle.index = registry.documents.length :=
          fun handle hhandle => Nat.ne_of_lt (hw.index_lt hhandle)
        simpa [List.nodup_append, List.nodup_cons] using ⟨hw.indices, hnew⟩
      · intro handle hhandle
        rcases List.mem_append.1 hhandle with hold | hlast
        · rw [List.getElem?_append_left (hw.index_lt hold)]
          exact hw.document_name handle hold
        · rw [List.mem_singleton.1 hlast]
          simp [ClassDoc.empty]

end SchemaDocs.Registry
