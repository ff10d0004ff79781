import SchemaDocs.Discovery.Find
import Mathlib.Data.List.Nodup
/-!
# First occurrences

The members of a document, the handles of a file and the classes of a registry are lists that a
name joins at the end when it is met for the first time.  Each of the three follows one rule, and
a run of it keeps the first occurrences in their order.
-/

namespace SchemaDocs

section

variable {α : Type} [DecidableEq α]

/-- A list with an item at its end, unless it holds the item already. -/
def addNew (items : List α) (item : α) : List α :=
  if item ∈ items then items else items ++ [item]

theorem addNew_of_mem {items : List α} {item : α} (h : item ∈ items) :
    addNew items item = items :=
  if_pos h

theorem addNew_of_not_mem {items : List α} {item : α} (h : item ∉ items) :
    addNew items item = items ++ [item] :=
  if_neg h

@[simp] theorem mem_addNew {items : List α} {item other : α} :
    other ∈ addNew items item ↔ other ∈ items ∨ other = item := by
  by_cases h : item ∈ items
  · rw [addNew_of_mem h]
    constructor
    · exact .inl
    · rintro (hother | rfl)
      · exact hother
      · exact h
  · simp [addNew_of_not_mem h]

theorem mem_foldl_addNew {items found : List α} {other : α} :
    other ∈ found.foldl addNew items ↔ other ∈ items ∨ other ∈ found := by
  induction found generalizing items with
  | nil => simp
  | cons item found ih => simp [ih, or_assoc]

theorem nodup_foldl_addNew {items : List α} (h : items.Nodup) (found : List α) :
    (found.foldl addNew items).Nodup := by
  induction found generalizing items with
  | nil => exact h
  | cons item found ih =>
      apply ih
      by_cases hitem : item ∈ items
      · rwa [addNew_of_mem hitem]
      · rw [addNew_of_not_mem hitem, ← List.concat_eq_append]
        exact h.concat hitem

/-- A run puts the first occurrences of what is new behind what was there. -/
theorem foldl_addNew (items found : List α) :
    found.foldl addNew items = items ++ (found.removeAll items).eraseDups := by
  induction found generalizing items with
  | nil => simp [List.removeAll]
  | cons item found ih =>
      rw [List.foldl_cons, ih]
      by_cases h : item ∈ items
      · simp [addNew_of_mem h, List.cons_removeAll, h]
      · have hrest : found.removeAll (items ++ [item]) =
            (found.removeAll items).filter fun other => !other == item := by
          simp only [List.removeAll, List.filter_filter]
          apply List.filter_congr
          intro other _
          rw [List.elem_eq_contains, List.contains_append, Bool.not_or, Bool.and_comm]
          simp [beq_eq_decide]
        rw [addNew_of_not_mem h, hrest, List.append_assoc, List.singleton_append,
          ← List.eraseDups_cons, List.cons_removeAll, if_pos (by simpa using h)]

theorem foldl_addNew_nil (found : List α) : found.foldl addNew [] = found.eraseDups := by
  rw [foldl_addNew, List.nil_append, List.removeAll]
  simp

theorem nodup_eraseDups (items : List α) : items.eraseDups.Nodup := by
  rw [← foldl_addNew_nil]
  exact nodup_foldl_addNew List.nodup_nil items

/-- What was gathered apart joins a list as it would have done at once. -/
theorem foldl_addNew_foldl (items seen found : List α) :
    (found.foldl addNew seen).foldl addNew items =
      found.foldl addNew (seen.foldl addNew items) := by
  induction found generalizing seen with
  | nil => rfl
  | cons item found ih =>
      rw [List.foldl_cons, List.foldl_cons, ih]
      by_cases h : item ∈ seen
      · rw [addNew_of_mem h, addNew_of_mem (mem_foldl_addNew.2 (.inr h))]
      · rw [addNew_of_not_mem h, List.foldl_append, List.foldl_cons, List.foldl_nil]

end

/-! ## Members, handles and classes -/

theorem ClassDoc.names_putMember (name comment : String) (members : List Member) :
    (putMember name comment members).map Member.name =
      addNew (members.map Member.name) name := by
  induction members with
  | nil => rfl
  | cons member members ih =>
      rw [putMember]
      by_cases hname : member.name = name
      · rw [if_pos hname, addNew_of_mem (by simp [hname]), List.map_cons, List.map_cons, hname]
      · rw [if_neg hname, List.map_cons, ih, List.map_cons]
        by_cases hmem : name ∈ members.map Member.name
        · rw [addNew_of_mem hmem, addNew_of_mem (List.mem_cons_of_mem _ hmem)]
        · have hnew : name ∉ member.name :: members.map Member.name := by
            rw [List.mem_cons, not_or]
            exact ⟨Ne.symm hname, hmem⟩
          rw [addNew_of_not_mem hmem, addNew_of_not_mem hnew, List.cons_append]

theorem Discovery.names_addHandle (handles : List Handle) (handle : Handle) :
    (addHandle handles handle).map Handle.name =
      addNew (handles.map Handle.name) handle.name := by
  have hany : handles.any handle.sameName = true ↔ handle.name ∈ handles.map Handle.name := by
    simp only [Handle.sameName, List.any_eq_true, decide_eq_true_eq, List.mem_map,
      eq_comm (a := handle.name)]
  by_cases h : handle.name ∈ handles.map Handle.name
  · rw [addHandle, if_pos (hany.2 h), addNew_of_mem h]
  · rw [addHandle, if_neg (fun hsame => h (hany.1 hsame)), addNew_of_not_mem h, List.map_append,
      List.map_singleton]

theorem Registry.names_getOrCreate (registry : Registry) (name : String) :
    (registry.getOrCreate name).2.names = addNew registry.names name := by
  rw [getOrCreate]
  split
  · rename_i handle hget
    have hname : handle.name = name := by simpa using List.find?_some hget
    have hmem : handle.name ∈ registry.names :=
      List.mem_map_of_mem (List.mem_of_find?_eq_some hget)
    rw [addNew_of_mem (hname ▸ hmem)]
  · rename_i hget
    have hnew : name ∉ registry.names := by
      intro hmem
      obtain ⟨handle, hhandle, hname⟩ := List.mem_map.1 hmem
      simpa [hname] using List.find?_eq_none.1 hget handle hhandle
    rw [addNew_of_not_mem hnew, names, names, List.map_append, List.map_singleton]

end SchemaDocs
