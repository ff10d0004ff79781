import SchemaDocs.Discovery.Target
import SchemaDocs.Proofs.Text.Separator
import Mathlib.Data.List.Chain
/-!
# Names of messages and members

The full name of a message, and the naming convention that makes names tell messages
apart from members.
-/

namespace SchemaDocs

/-! ## The convention -/

namespace Element

/-- What the convention asks of the name of an element: that of a message is of mixed case and
without dots, that of a field or of a group of fields is not of mixed case. -/
def WellNamed (element : Element) : Prop :=
  match element.kind with
  | .message =>
    element.name ≠ "" ∧ '.' ∉ element.name.toList ∧ Text.isMixedCase element.name = true
  | .field | .oneof => Text.isMixedCase element.name = false
  | .file | .enum | .enumValue | .service | .method => True

/-- What the convention asks of an element and the one directly around it: a message, field or
group of fields does not repeat the name. -/
def NamedApart (outer inner : Element) : Prop :=
  match inner.kind with
  | .message | .field | .oneof => inner.name ≠ outer.name
  | .file | .enum | .enumValue | .service | .method => True

instance (element : Element) : Decidable element.WellNamed := by
  unfold WellNamed
  split <;> infer_instance

instance (outer inner : Element) : Decidable (outer.NamedApart inner) := by
  unfold NamedApart
  split <;> infer_instance

end Element

/-- The elements of a trail obey the naming convention. -/
structure Conventional (trail : List Element) : Prop where
  wellNamed : ∀ element ∈ trail, element.WellNamed
  namedApart : trail.IsChain Element.NamedApart

/-- The names of the messages on a trail. -/
def messageNames (trail : List Element) : List String :=
  (trail.filter fun element => element.kind = .message).map Element.name

theorem messageNames_append (first rest : List Element) :
    messageNames (first ++ rest) = messageNames first ++ messageNames rest := by
  rw [messageNames, List.filter_append, List.map_append, messageNames, messageNames]

theorem messageNames_message {element : Element} (h : element.kind = .message) :
    messageNames [element] = [element.name] := by
  simp [messageNames, h]

theorem messageNames_other {element : Element} (h : element.kind ≠ .message) :
    messageNames [element] = [] := by
  simp [messageNames, h]

namespace Conventional

variable {trail : List Element} (h : Conventional trail)

include h

theorem of_message {element : Element} (hmem : element ∈ trail) (hkind : element.kind = .message) :
    element.name ≠ "" ∧ '.' ∉ element.name.toList ∧ Text.isMixedCase element.name = true := by
  have hwell := h.wellNamed element hmem
  rwa [Element.WellNamed, hkind] at hwell

theorem of_member {element : Element} (hmem : element ∈ trail)
    (hkind : element.kind = .field ∨ element.kind = .oneof) :
    Text.isMixedCase element.name = false := by
  have hwell := h.wellNamed element hmem
  rcases hkind with hkind | hkind <;> rwa [Element.WellNamed, hkind] at hwell

theorem ne_empty_of_mem_messageNames {name : String} (hname : name ∈ messageNames trail) :
    name ≠ "" := by
  obtain ⟨element, hmem, rfl⟩ := List.mem_map.1 hname
  rw [List.mem_filter, decide_eq_true_eq] at hmem
  exact (h.of_message hmem.1 hmem.2).1

theorem of_begin {before : List Element} (hbegin : before <+: trail) : Conventional before :=
  ⟨fun element hmem => h.wellNamed element (hbegin.subset hmem), h.namedApart.prefix hbegin⟩

end Conventional

theorem Conventional.name_ne {before below : List Element} {outer inner : Element}
    (h : Conventional (before ++ outer :: inner :: below))
    (hkind : inner.kind = .message ∨ inner.kind = .field ∨ inner.kind = .oneof) :
    outer.name ≠ inner.name := by
  have hapart := (List.isChain_append_cons_cons.1 h.namedApart).2.1
  rw [Element.NamedApart] at hapart
  rcases hkind with hkind | hkind | hkind <;>
  · rw [hkind] at hapart
    exact Ne.symm hapart

namespace Discovery

/-! ## Segments -/

theorem lastSegment_qualify (scope : String) {name : String} (h : '.' ∉ name.toList) :
    lastSegment (qualify scope name) = name := by
  by_cases hscope : scope = ""
  · rw [qualify, if_pos hscope, lastSegment, Text.splitAt_of_not_mem h]
    simp
  · have hchars : (scope ++ "." ++ name).toList = scope.toList ++ '.' :: name.toList := by
      simp [String.toList_append]
    rw [qualify, if_neg hscope, lastSegment, hchars, Text.splitAt_append, Text.splitAt_of_not_mem h]
    simp

/-! ## Full names -/

/-- The full name of a message: the package, if there is one, and the names of the messages from
the outermost one down to it, with dots between them. -/
def fullName (packageText : String) (names : List String) : String :=
  String.intercalate "." (if packageText = "" then names else packageText :: names)

theorem intercalate_ne_empty {first : String} (h : first ≠ "") (rest : List String) :
    String.intercalate "." (first :: rest) ≠ "" := by
  cases rest with
  | nil => rwa [String.intercalate_singleton]
  | cons next rest =>
      rw [String.intercalate_cons_cons]
      simp [h]

theorem fullName_concat (packageText : String) {names : List String}
    (hnames : ∀ name ∈ names, name ≠ "") (name : String) :
    fullName packageText (names ++ [name]) = qualify (fullName packageText names) name := by
  have hparts : (if packageText = "" then names ++ [name] else packageText :: (names ++ [name])) =
      (if packageText = "" then names else packageText :: names) ++ [name] := by
    split <;> rfl
  rw [fullName, fullName, hparts]
  have hne : ∀ part ∈ if packageText = "" then names else packageText :: names, part ≠ "" := by
    split
    · exact hnames
    · rename_i hpackage
      exact List.forall_mem_cons.2 ⟨hpackage, hnames⟩
  generalize (if packageText = "" then names else packageText :: names) = parts at hne
  cases parts with
  | nil => simp [qualify]
  | cons first rest =>
      have hfirst := intercalate_ne_empty (hne first List.mem_cons_self) rest
      rw [String.intercalate_append_of_ne_nil (List.cons_ne_nil _ _) (List.cons_ne_nil _ _),
        String.intercalate_singleton, qualify, if_neg hfirst]

theorem fullName_nil (packageText : String) : fullName packageText [] = packageText := by
  rw [fullName]
  split
  · rename_i hpackage
    rw [String.intercalate_nil, hpackage]
  · rw [String.intercalate_singleton]

/-! ## Names from full names -/

/-- The parts of a dotted name, none if it is empty. -/
def segments (name : String) : List (List Char) :=
  if name = "" then [] else Text.splitAt '.' name.toList

theorem segments_qualify (scope : String) {name : String} (hne : name ≠ "")
    (hdot : '.' ∉ name.toList) :
    segments (qualify scope name) = segments scope ++ [name.toList] := by
  by_cases hscope : scope = ""
  · rw [qualify, if_pos hscope, segments, segments, if_pos hscope, if_neg hne,
      Text.splitAt_of_not_mem hdot, List.nil_append]
  · have hchars : (scope ++ "." ++ name).toList = scope.toList ++ '.' :: name.toList := by
      simp [String.toList_append]
    rw [qualify, if_neg hscope, segments, segments, if_neg hscope, if_neg (by simp), hchars,
      Text.splitAt_append, Text.splitAt_of_not_mem hdot]

theorem segments_fullName (packageText : String) {names : List String}
    (hnames : ∀ name ∈ names, name ≠ "" ∧ '.' ∉ name.toList) :
    segments (fullName packageText names) = segments packageText ++ names.map String.toList := by
  induction names using List.reverseRecOn with
  | nil => rw [fullName_nil, List.map_nil, List.append_nil]
  | append_singleton names name ih =>
      have hbefore : ∀ name ∈ names, name ≠ "" ∧ '.' ∉ name.toList := fun other hother =>
        hnames other (List.mem_append_left _ hother)
      obtain ⟨hne, hdot⟩ := hnames name List.mem_concat_self
      rw [fullName_concat packageText fun other hother => (hbefore other hother).1,
        segments_qualify _ hne hdot, ih hbefore, List.map_append, List.append_assoc]
      rfl

/-- Names without dots are told by the full name that they make. -/
theorem fullName_injective {packageText : String} {names names' : List String}
    (hnames : ∀ name ∈ names, name ≠ "" ∧ '.' ∉ name.toList)
    (hnames' : ∀ name ∈ names', name ≠ "" ∧ '.' ∉ name.toList)
    (h : fullName packageText names = fullName packageText names') : names = names' := by
  have hsegments := congrArg segments h
  rw [segments_fullName packageText hnames, segments_fullName packageText hnames',
    List.append_cancel_left_eq] at hsegments
  exact List.map_injective_iff.2 (fun _ _ => String.toList_inj.1) hsegments

section

variable {before : List Element} {message : Element}
  (h : Conventional (before ++ [message])) (hkind : message.kind = .message)

include h hkind

theorem fullName_message (packageText : String) :
    fullName packageText (messageNames (before ++ [message])) =
      qualify (fullName packageText (messageNames before)) message.name := by
  have hbefore := h.of_begin (List.prefix_append before [message])
  rw [messageNames_append, messageNames_message hkind,
    fullName_concat packageText fun name hname => hbefore.ne_empty_of_mem_messageNames hname]

theorem lastSegment_fullName (packageText : String) :
    lastSegment (fullName packageText (messageNames (before ++ [message]))) = message.name := by
  rw [fullName_message h hkind]
  exact lastSegment_qualify _ (h.of_message List.mem_concat_self hkind).2.1

end

end Discovery

end SchemaDocs
