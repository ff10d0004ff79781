import SchemaDocs.Proofs.Descriptor.Declaration
import SchemaDocs.Proofs.Discovery.Resolution
/-!
# What elements document

An outermost message documents its own class.  What an element directly in a message documents
goes by its name, whatever its kind: the class of the message if it repeats its name, a class of
its own if it is of mixed case, and else a member.
-/

namespace SchemaDocs

theorem ne_empty_of_isIdentifier {name : String} (h : isIdentifier name = true) : name ≠ "" := by
  rintro rfl
  simp [isIdentifier] at h

theorem dot_not_mem_of_isIdentifier {name : String} (h : isIdentifier name = true) :
    '.' ∉ name.toList := by
  intro hdot
  rw [isIdentifier] at h
  split at h
  · simp at h
  · rename_i c cs hchars
    rw [hchars] at hdot
    rw [Bool.and_eq_true, List.all_eq_true] at h
    rcases List.mem_cons.1 hdot with rfl | hdot
    · simp [Markup.isIdentifierStart] at h
    · have hrest := h.2 _ hdot
      simp at hrest

open Discovery

theorem Element.exists_of_kind_message {element : Element} (h : element.kind = .message) :
    ∃ message, element = .message message := by
  cases element <;> simp [Element.kind] at h ⊢

namespace FileDescriptor

/-- The targets that paths from a file document. -/
inductive Documents (file : FileDescriptor) : List Int32 → Target → Prop
  /-- An outermost message documents its own class. -/
  | outermost {path : List Int32} {message : MessageDescriptor}
      (hself : file.Reaches path [message.nameText] (.message message)) :
      Documents file path (.summary (fullName file.packageText [message.nameText]))
  /-- An element that repeats the name of the message around it documents the class of that. -/
  | namesake {path : List Int32} {names : List String} {message : MessageDescriptor}
      {number index : Int32} {child : Element}
      (houter : file.Reaches path names (.message message))
      (hstep : (Element.message message).step number index = .ok child)
      (hkind : child.kind = .message ∨ child.kind = .field ∨ child.kind = .oneof)
      (hname : child.name = message.nameText) :
      Documents file (path ++ [number, index]) (.summary (fullName file.packageText names))
  /-- An element of mixed case documents a class of its own. -/
  | nested {path : List Int32} {names : List String} {message : MessageDescriptor}
      {number index : Int32} {child : Element}
      (houter : file.Reaches path names (.message message))
      (hstep : (Element.message message).step number index = .ok child)
      (hkind : child.kind = .message ∨ child.kind = .field ∨ child.kind = .oneof)
      (hname : child.name ≠ message.nameText) (hmixed : Text.isMixedCase child.name = true) :
      Documents file (path ++ [number, index])
        (.nested (fullName file.packageText (names ++ [child.name])))
  /-- Any other element documents a member of the class of the message around it. -/
  | member {path : List Int32} {names : List String} {message : MessageDescriptor}
      {number index : Int32} {child : Element}
      (houter : file.Reaches path names (.message message))
      (hstep : (Element.message message).step number index = .ok child)
      (hkind : child.kind = .message ∨ child.kind = .field ∨ child.kind = .oneof)
      (hname : child.name ≠ message.nameText) (hmixed : Text.isMixedCase child.name = false) :
      Documents file (path ++ [number, index])
        (.member (fullName file.packageText names) child.name)

namespace Reaches

variable {file : FileDescriptor} {path : List Int32} {names : List String} {element : Element}

theorem getLast?_names (h : file.Reaches path names element) :
    names.getLast? = some element.name := by
  cases h with
  | outermost _ => rfl
  | inner _ _ => exact List.getLast?_concat

theorem names_legal (h : file.Reaches path names element) (hlegal : file.LegalNames) :
    ∀ name ∈ names, name ≠ "" ∧ '.' ∉ name.toList := by
  intro name hname
  have hidentifier := hlegal.isIdentifier_of_reaches h name hname
  exact ⟨ne_empty_of_isIdentifier hidentifier, dot_not_mem_of_isIdentifier hidentifier⟩

theorem lastSegment_eq (h : file.Reaches path names element) (hlegal : file.LegalNames) :
    lastSegment (fullName file.packageText names) = element.name := by
  have hnames := h.names_legal hlegal
  obtain ⟨before, rfl⟩ := List.getLast?_eq_some_iff.1 h.getLast?_names
  rw [fullName_concat _ fun name hname => (hnames name (List.mem_append_left _ hname)).1]
  exact lastSegment_qualify _ (hnames _ List.mem_concat_self).2

/-- The class in scope below a message that a path passes. -/
theorem enterScope_eq {message child : MessageDescriptor}
    (h : file.Reaches path names (.message message)) (hlegal : file.LegalNames)
    {first second : Int32} {rest : List Int32} :
    enterScope (fullName file.packageText names) (.message child) (first :: second :: rest) =
      fullName file.packageText (names ++ [child.nameText]) := by
  rw [fullName_concat _ fun name hname => (h.names_legal hlegal name hname).1, enterScope]
  exact if_pos (by simp)

end Reaches

end FileDescriptor

namespace Discovery

variable {file : FileDescriptor} {path : List Int32} {names : List String}
  {message : MessageDescriptor}

theorem exists_of_descend {element : Element} {className : String} {number index : Int32}
    {rest : List Int32} {target : Target}
    (h : descend element className (number :: index :: rest) = .ok (some target)) :
    ∃ child, element.step number index = .ok child ∧
      descend child (enterScope className child rest) rest = .ok (some target) := by
  rw [descend] at h
  split at h
  · simp at h
  · rename_i child hstep
    exact ⟨child, hstep, h⟩

/-- A path cannot go on below an element without children. -/
theorem eq_nil_of_descend {element : Element} (hleaf : element.kind.childKinds = [])
    {className : String} {path : List Int32} {target : Target}
    (h : descend element className path = .ok (some target)) : path = [] := by
  match path with
  | [] => rfl
  | [_] => simp [descend] at h
  | number :: index :: rest =>
      obtain ⟨child, hstep, -⟩ := exists_of_descend h
      have hmem := Element.kind_mem_childKinds hstep
      rw [hleaf] at hmem
      exact absurd hmem List.not_mem_nil

theorem descend_enum_ne {element : Element} (hkind : element.kind = .enum) (className : String)
    (path : List Int32) (target : Target) : descend element className path ≠ .ok (some target) := by
  intro h
  match path with
  | [] => simp [descend, classify, hkind] at h
  | [_] => simp [descend] at h
  | number :: index :: rest =>
      obtain ⟨child, hstep, h⟩ := exists_of_descend h
      have hvalue : child.kind = .enumValue := by
        have hmem := Element.kind_mem_childKinds hstep
        rw [hkind] at hmem
        simpa [ElementKind.childKinds, ElementKind.collections, Collection.itemKind] using hmem
      have hrest := eq_nil_of_descend (by rw [hvalue]; rfl) h
      subst hrest
      simp [descend, classify, hvalue] at h

theorem documents_of_classify (hlegal : file.LegalNames)
    (houter : file.Reaches path names (.message message)) {number index : Int32} {child : Element}
    (hstep : (Element.message message).step number index = .ok child) {target : Target}
    (h : classify child (fullName file.packageText names) = some target) :
    file.Documents (path ++ [number, index]) target := by
  have hkind : child.kind = .message ∨ child.kind = .field ∨ child.kind = .oneof := by
    rcases childKind_of_message rfl hstep with hmessage | henum | hmember
    · exact .inl hmessage
    · simp [classify, henum] at h
    · exact .inr hmember
  have hclassify : classify child (fullName file.packageText names) =
      if message.nameText = child.name then some (.summary (fullName file.packageText names))
      else if Text.isMixedCase child.name then
        some (.nested (fullName file.packageText (names ++ [child.name])))
      else some (.member (fullName file.packageText names) child.name) := by
    rw [fullName_concat _ fun name hname => (houter.names_legal hlegal name hname).1, classify,
      houter.lastSegment_eq hlegal]
    rcases hkind with hkind | hkind | hkind <;> rw [hkind] <;> rfl
  rw [hclassify] at h
  split at h
  · rename_i hname
    rw [Option.some.injEq] at h
    exact h ▸ .namesake houter hstep hkind hname.symm
  · rename_i hname
    split at h
    · rename_i hmixed
      rw [Option.some.injEq] at h
      exact h ▸ .nested houter hstep hkind (Ne.symm hname) hmixed
    · rename_i hmixed
      rw [Option.some.injEq] at h
      exact h ▸ .member houter hstep hkind (Ne.symm hname) (Bool.eq_false_iff.2 hmixed)

/-- Below a message that a path reaches, the path goes on through messages to the element that
documents its target. -/
theorem documents_of_descend (hlegal : file.LegalNames)
    (houter : file.Reaches path names (.message message)) {number index : Int32}
    {rest : List Int32} {target : Target}
    (h : descend (.message message) (fullName file.packageText names) (number :: index :: rest) =
      .ok (some target)) :
    file.Documents (path ++ number :: index :: rest) target := by
  -- a step takes two numbers, so that the induction is on how many are left
  induction hlength : rest.length using Nat.strong_induction_on
    generalizing path names message number index rest with
  | _ length ih =>
      obtain ⟨child, hstep, h⟩ := exists_of_descend h
      rcases rest with _ | ⟨first, _ | ⟨second, rest⟩⟩
      · rw [enterScope_nil, descend, Except.ok.injEq] at h
        exact documents_of_classify hlegal houter hstep h
      · simp [descend] at h
      · rcases childKind_of_message rfl hstep with hmessage | henum | hmember
        · obtain ⟨inner, rfl⟩ := Element.exists_of_kind_message hmessage
          rw [houter.enterScope_eq hlegal] at h
          have hshorter : rest.length < length := by
            rw [← hlength, List.length_cons, List.length_cons]
            omega
          have hinner := ih rest.length hshorter (.inner houter hstep) h rfl
          rwa [List.append_assoc] at hinner
        · exact absurd h (descend_enum_ne henum _ _ _)
        · have hleaf : child.kind.childKinds = [] := by
            rcases hmember with hkind | hkind <;> rw [hkind] <;> rfl
          exact absurd (eq_nil_of_descend hleaf h) (List.cons_ne_nil _ _)

/-- What a path of a file of legal names documents. -/
theorem documents_of_resolveFile (hlegal : file.LegalNames) {path : List Int32} {target : Target}
    (h : resolveFile file path = .ok (some target)) : file.Documents path target := by
  rw [resolveFile.eq_def] at h
  split at h
  · rename_i number index rest
    split at h
    · rename_i hnumber
      subst hnumber
      split at h
      · simp at h
      · rename_i root hstep
        have hkind := kind_of_step_file hstep
        obtain ⟨message, rfl⟩ := Element.exists_of_kind_message hkind
        have hself := FileDescriptor.Reaches.outermost hstep
        have hscope : qualify file.packageText (Element.message message).name =
            fullName file.packageText [message.nameText] := by
          rw [← List.nil_append [message.nameText],
            fullName_concat _ fun name hname => absurd hname List.not_mem_nil, fullName_nil]
          rfl
        rw [resolve, if_pos hkind, hscope] at h
        rcases rest with _ | ⟨first, _ | ⟨second, rest⟩⟩
        · rw [descend, classify, hkind] at h
          dsimp only at h
          rw [if_pos (hself.lastSegment_eq hlegal), Except.ok.injEq, Option.some.injEq] at h
          exact h ▸ .outermost hself
        · simp [descend] at h
        · exact documents_of_descend hlegal hself h
    · simp at h
  · simp at h

end Discovery

end SchemaDocs
