import SchemaDocs.Discovery.Find
import SchemaDocs.Proofs.Markup.Spacing
import Mathlib.Data.List.Basic
/-!
# Events of a search

What a search may learn from a request, said without the search: each place of a requested file
that lies within its messages, is not blank and leads to a target tells the comment of this target.
A search finds these events and no others, and their comments are neither blank nor end in blanks.
-/

namespace SchemaDocs

open Discovery

/-- The comments before and behind an element that are not blank, without the blanks at their
ends. -/
def Location.remarks (location : Location) : List String :=
  ((location.leading.toList ++ location.trailing.toList).filter fun text =>
    !Text.allBlank text.toList).map (Text.onChars Text.trimEnd)

namespace FileDescriptor

/-- What a place tells: the target of a path within the messages, and the remarks at the place
with a blank line between them. -/
def event? (file : FileDescriptor) (location : Location) : Option Finding :=
  if location.remarks ≠ [] ∧ location.path.head? = some 4 then
    (resolveFile file location.path).toOption.join.map fun target =>
      ⟨target, "\n\n".intercalate location.remarks⟩
  else none

/-- What the places of a file tell, in their order. -/
def events (file : FileDescriptor) : List Finding := file.locations.filterMap file.event?

end FileDescriptor

/-- What the requested files tell, in the order of their descriptors. -/
def GenerateRequest.events (request : GenerateRequest) : List Finding :=
  request.wantedFiles.flatMap FileDescriptor.events

/-! ## Trimmed comments -/

theorem Text.onChars_trimEnd_eq_empty_iff (text : String) :
    onChars trimEnd text = "" ↔ allBlank text.toList = true := by
  rw [← String.toList_eq_nil_iff, toList_onChars, trimEnd_eq_nil_iff]

/-- A comment that is not blank and does not end in a blank. -/
def Text.Trimmed (text : String) : Prop :=
  allBlank text.toList = false ∧ ∀ c, text.toList.getLast? = some c → isBlank c = false

namespace Text.Trimmed

theorem ne_empty {text : String} (h : Trimmed text) : text ≠ "" := by
  rintro rfl
  simp [Trimmed, allBlank] at h

theorem append {text : String} (h : Trimmed text) (before : String) :
    Trimmed (before ++ text) := by
  have hne : text.toList ≠ [] := fun hnil => h.ne_empty (String.toList_eq_nil_iff.1 hnil)
  obtain ⟨hblank, hlast⟩ := h
  rw [Trimmed, String.toList_append]
  refine ⟨?_, ?_⟩
  · rw [allBlank] at hblank
    rw [allBlank, List.all_append, hblank, Bool.and_false]
  · intro c hc
    rw [List.getLast?_append, List.getLast?_eq_some_getLast hne, Option.some_or] at hc
    exact hlast c (by rw [List.getLast?_eq_some_getLast hne, hc])

theorem intercalate {texts : List String} (h : ∀ text ∈ texts, Trimmed text) (hne : texts ≠ [])
    (separator : String) : Trimmed (separator.intercalate texts) := by
  induction texts with
  | nil => exact absurd rfl hne
  | cons text texts ih =>
      rw [List.forall_mem_cons] at h
      by_cases hrest : texts = []
      · simpa [hrest] using h.1
      · rw [String.intercalate_cons_of_ne_nil hrest]
        exact (ih h.2 hrest).append _

end Text.Trimmed

theorem Text.trimmed_onChars_trimEnd {text : String} (h : allBlank text.toList = false) :
    Trimmed (onChars trimEnd text) := by
  have hlast : ∀ c, (trimEnd text.toList).getLast? = some c → isBlank c = false :=
    fun _ => isBlank_of_getLast?_trimEnd
  have hne : trimEnd text.toList ≠ [] := by
    rw [Ne, trimEnd_eq_nil_iff, h]
    exact Bool.false_ne_true
  rw [Trimmed, toList_onChars]
  refine ⟨?_, hlast⟩
  rw [allBlank, List.all_eq_false]
  exact ⟨_, List.getLast_mem hne, by simp [hlast _ (List.getLast?_eq_some_getLast hne)]⟩

theorem Location.trimmed_of_mem_remarks {location : Location} {text : String}
    (h : text ∈ location.remarks) : Text.Trimmed text := by
  obtain ⟨raw, hraw, rfl⟩ := List.mem_map.1 h
  obtain ⟨-, hblank⟩ := List.mem_filter.1 hraw
  exact Text.trimmed_onChars_trimEnd (by simpa using hblank)

/-! ## Findings are events -/

/-- The comment at a place is made of the remarks there. -/
theorem Discovery.comment?_eq (location : Location) :
    comment? location =
      if location.remarks = [] then none else some ("\n\n".intercalate location.remarks) := by
  have hremark : ∀ text : Option String,
      (text.toList.filter fun raw => !Text.allBlank raw.toList).map (Text.onChars Text.trimEnd) =
        if Text.onChars Text.trimEnd (text.getD "") = "" then []
        else [Text.onChars Text.trimEnd (text.getD "")] := by
    intro text
    cases text with
    | none => rfl
    | some text =>
        rw [Option.getD_some, Option.toList_some, List.filter_singleton]
        by_cases hblank : Text.allBlank text.toList = true
        · rw [if_pos ((Text.onChars_trimEnd_eq_empty_iff text).2 hblank), hblank]
          rfl
        · rw [if_neg fun h => hblank ((Text.onChars_trimEnd_eq_empty_iff text).1 h)]
          simp [hblank]
  rw [Location.remarks, List.filter_append, List.map_append, hremark, hremark, comment?]
  generalize Text.onChars Text.trimEnd (location.leading.getD "") = leading
  generalize Text.onChars Text.trimEnd (location.trailing.getD "") = trailing
  by_cases hleading : leading = "" <;> by_cases htrailing : trailing = "" <;>
    simp [hleading, htrailing, String.append_assoc]

/-- A place tells what its path leads to, if it lies within the messages and is not blank. -/
theorem FileDescriptor.event?_eq_some_iff {file : FileDescriptor} {location : Location}
    {event : Finding} :
    file.event? location = some event ↔
      location.remarks ≠ [] ∧ location.path.head? = some 4 ∧
        resolveFile file location.path = .ok (some event.target) ∧
        event.comment = "\n\n".intercalate location.remarks := by
  obtain ⟨target, comment⟩ := event
  rw [event?]
  split
  · rename_i h
    cases hresolve : resolveFile file location.path with
    | error cause => simp [Except.toOption]
    | ok found => cases found <;> simp [Except.toOption, h, eq_comm]
  · rename_i h
    simp only [reduceCtorEq, false_iff]
    exact fun hall => h ⟨hall.1, hall.2.1⟩

theorem Discovery.finding?_eq_event? (file : FileDescriptor) (location : Location) :
    finding? file location = file.event? location := by
  rw [finding?, comment?_eq, FileDescriptor.event?]
  by_cases hremarks : location.remarks = []
  · simp [hremarks]
  · rw [if_neg hremarks]
    dsimp only
    by_cases hstart : location.path.head? = some 4
    · rw [if_pos (show location.path.head? = some messageNumber from hstart),
        if_pos ⟨hremarks, hstart⟩]
      cases resolveFile file location.path with
      | error cause => rfl
      | ok found => cases found <;> rfl
    · rw [if_neg (show ¬ location.path.head? = some messageNumber from hstart),
        if_neg fun h => hstart h.2]

theorem Discovery.findings_eq_events (file : FileDescriptor) : findings file = file.events :=
  List.filterMap_congr fun location _ => finding?_eq_event? file location

theorem FileDescriptor.trimmed_of_mem_events {file : FileDescriptor} {event : Finding}
    (h : event ∈ file.events) : Text.Trimmed event.comment := by
  obtain ⟨location, -, hevent⟩ := List.mem_filterMap.1 h
  obtain ⟨hremarks, -, -, hcomment⟩ := event?_eq_some_iff.1 hevent
  rw [hcomment]
  exact .intercalate (fun _ => location.trimmed_of_mem_remarks) hremarks _

end SchemaDocs
