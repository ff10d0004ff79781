import SchemaDocs.Proofs.Discovery.Resolution
/-!
# Paths that lead nowhere

A path is followed two numbers at a time.  It fails at the first pair of numbers under which there
is no element, with an error that tells what is missing there, and whatever comes behind that pair
is not looked at.
-/

namespace SchemaDocs

namespace Element

/-! ## What stands under a number -/

/-- The collections of an element with what is in them, each under its number in the descriptor
format. -/
def numbered : Element → List (Int32 × Collection × List Element)
  | .file d =>
    [(4, .messageType, d.messages.map .message), (5, .enumType, d.enums.map .enum),
      (6, .service, d.services.map .service), (7, .extension, d.extensions.map .field)]
  | .message d =>
    [(2, .field, d.fields.map .field), (3, .nestedType, d.nested.map .message),
      (4, .enumType, d.enums.map .enum), (6, .extension, d.extensions.map .field),
      (8, .oneofDecl, d.oneofs.map .oneof)]
  | .enum d => [(2, .value, d.values.map .enumValue)]
  | .service d => [(2, .method, d.methods.map .method)]
  | .field _ | .enumValue _ | .method _ | .oneof _ => []

/-- A number and a position lead from an element to a child of it. -/
def Addresses (element : Element) (number index : Int32) (child : Element) : Prop :=
  ∃ collection items, (number, collection, items) ∈ element.numbered ∧
    0 ≤ index.toInt ∧ items[index.toInt.toNat]? = some child

/-- What is wrong with a number and a position under which an element has no child. -/
inductive Lacks (element : Element) (number index : Int32) : PathError → Prop
  /-- There is no collection under the number. -/
  | collection (h : ∀ collection items, (number, collection, items) ∉ element.numbered) :
      Lacks element number index (.unknownField element.kind number)
  /-- The position is negative, or the collection ends before it. -/
  | item {collection : Collection} {items : List Element}
      (h : (number, collection, items) ∈ element.numbered)
      (hindex : index.toInt < 0 ∨ (items.length : Int) ≤ index.toInt) :
      Lacks element number index (.indexOutOfRange collection index items.length)

/-! ### One step -/

theorem collection?_of_mem {kind : ElementKind} {number : Int32} {collection : Collection}
    (h : (number, collection) ∈ kind.collections) : kind.collection? number = some collection := by
  have hall : ∀ entry ∈ kind.collections, kind.collection? entry.1 = some entry.2 := by
    cases kind <;> decide
  exact hall _ h

/-- What the kind of an element has a number for, the element has. -/
theorem exists_children_of_collection? {element : Element} {number : Int32}
    {collection : Collection} (h : element.kind.collection? number = some collection) :
    ∃ items, element.children? collection = some items := by
  have hmem := mem_collections h
  cases element <;> cases collection <;>
    simp [kind, ElementKind.collections, children?] at hmem ⊢

/-- What is in an element by its number is what its kind has the number for. -/
theorem mem_numbered_iff {element : Element} {number : Int32} {collection : Collection}
    {items : List Element} :
    (number, collection, items) ∈ element.numbered ↔
      element.kind.collection? number = some collection ∧
        element.children? collection = some items := by
  have hkind : element.kind.collection? number = some collection ↔
      (number, collection) ∈ element.kind.collections := ⟨mem_collections, collection?_of_mem⟩
  rw [hkind]
  cases element <;> cases collection <;>
    simp [numbered, kind, ElementKind.collections, children?, eq_comm]

theorem itemAt?_eq_some_iff {items : List Element} {index : Int32} {item : Element} :
    itemAt? items index = some item ↔
      0 ≤ index.toInt ∧ items[index.toInt.toNat]? = some item := by
  rw [itemAt?]
  split <;> simp_all

theorem itemAt?_eq_none_iff {items : List Element} {index : Int32} :
    itemAt? items index = none ↔ index.toInt < 0 ∨ (items.length : Int) ≤ index.toInt := by
  rw [itemAt?]
  split
  · rw [List.getElem?_eq_none_iff]
    omega
  · simp only [true_iff]
    omega

theorem step_of_mem_numbered {element : Element} {number : Int32} {collection : Collection}
    {items : List Element} (h : (number, collection, items) ∈ element.numbered) (index : Int32) :
    element.step number index =
      match itemAt? items index with
      | some item => .ok item
      | none => .error (.indexOutOfRange collection index items.length) := by
  obtain ⟨hcollection, hitems⟩ := mem_numbered_iff.1 h
  cases hitem : itemAt? items index <;> simp only [step, hcollection, child, hitems, hitem]

theorem step_eq_ok_iff {element child : Element} {number index : Int32} :
    element.step number index = .ok child ↔ element.Addresses number index child := by
  constructor
  · intro h
    obtain ⟨collection, items, hcollection, hitems, hitem⟩ := exists_of_step h
    exact ⟨collection, items, mem_numbered_iff.2 ⟨hcollection, hitems⟩, itemAt?_eq_some_iff.1 hitem⟩
  · rintro ⟨collection, items, hmem, hitem⟩
    rw [step_of_mem_numbered hmem, itemAt?_eq_some_iff.2 hitem]

theorem step_eq_error_iff {element : Element} {number index : Int32} {cause : PathError} :
    element.step number index = .error cause ↔ element.Lacks number index cause := by
  constructor
  · intro h
    cases hcollection : element.kind.collection? number with
    | none =>
        rw [step, hcollection] at h
        rw [← Except.error.inj h]
        refine .collection fun collection items hmem => ?_
        simp [(mem_numbered_iff.1 hmem).1] at hcollection
    | some collection =>
        obtain ⟨items, hitems⟩ := exists_children_of_collection? hcollection
        have hmem := mem_numbered_iff.2 ⟨hcollection, hitems⟩
        rw [step_of_mem_numbered hmem] at h
        split at h
        · cases h
        · rename_i hitem
          rw [← Except.error.inj h]
          exact .item hmem (itemAt?_eq_none_iff.1 hitem)
  · rintro (hnone | ⟨hmem, hindex⟩)
    · cases hcollection : element.kind.collection? number with
      | none => rw [step, hcollection]
      | some collection =>
          obtain ⟨items, hitems⟩ := exists_children_of_collection? hcollection
          exact absurd (mem_numbered_iff.2 ⟨hcollection, hitems⟩) (hnone collection items)
    · rw [step_of_mem_numbered hmem, itemAt?_eq_none_iff.2 hindex]

/-! ## What a path leads to -/

/-- A path leads from an element down to another, two numbers at a time. -/
inductive Leads : Element → List Int32 → Element → Prop
  | here (element : Element) : Leads element [] element
  | down {element child last : Element} {number index : Int32} {rest : List Int32}
      (hchild : element.Addresses number index child) (hrest : Leads child rest last) :
      Leads element (number :: index :: rest) last

/-- A path leads to an element that lacks what the next two numbers of the path ask for. -/
def Misses (element : Element) (path : List Int32) (cause : PathError) : Prop :=
  ∃ before number index after last, path = before ++ number :: index :: after ∧
    element.Leads before last ∧ last.Lacks number index cause

theorem leads_nil_iff {element last : Element} : element.Leads [] last ↔ last = element := by
  constructor
  · rintro ⟨⟩
    rfl
  · rintro rfl
    exact .here last

theorem leads_cons_cons_iff {element last : Element} {number index : Int32} {rest : List Int32} :
    element.Leads (number :: index :: rest) last ↔
      ∃ child, element.step number index = .ok child ∧ child.Leads rest last := by
  simp only [step_eq_ok_iff]
  constructor
  · rintro ⟨⟩
    exact ⟨_, ‹_›, ‹_›⟩
  · rintro ⟨child, hchild, hrest⟩
    exact .down hchild hrest

theorem two_le_length_of_misses {element : Element} {path : List Int32} {cause : PathError}
    (h : element.Misses path cause) : 2 ≤ path.length := by
  obtain ⟨before, number, index, after, -, rfl, -⟩ := h
  simp only [List.length_append, List.length_cons]
  omega

theorem misses_cons_cons_iff {element : Element} {number index : Int32} {rest : List Int32}
    {cause : PathError} :
    element.Misses (number :: index :: rest) cause ↔
      element.step number index = .error cause ∨
        ∃ child, element.step number index = .ok child ∧ child.Misses rest cause := by
  simp only [step_eq_ok_iff, step_eq_error_iff]
  constructor
  · rintro ⟨before, n, i, after, last, hpath, hleads, hlacks⟩
    cases hleads with
    | here =>
        obtain ⟨rfl, rfl, -⟩ : number = n ∧ index = i ∧ rest = after := by simpa using hpath
        exact .inl hlacks
    | down hchild hrest =>
        simp only [List.cons_append, List.cons.injEq] at hpath
        obtain ⟨rfl, rfl, rfl⟩ := hpath
        exact .inr ⟨_, hchild, _, n, i, after, last, rfl, hrest, hlacks⟩
  · rintro (hlacks | ⟨child, hchild, before, n, i, after, last, rfl, hleads, hlacks⟩)
    · exact ⟨[], number, index, rest, element, rfl, .here element, hlacks⟩
    · exact ⟨number :: index :: before, n, i, after, last, rfl, .down hchild hleads, hlacks⟩

/-- What comes behind the pair that is missed does not count. -/
theorem Misses.append {element : Element} {path : List Int32} {cause : PathError}
    (h : element.Misses path cause) (more : List Int32) : element.Misses (path ++ more) cause := by
  obtain ⟨before, number, index, after, last, rfl, hleads, hlacks⟩ := h
  exact ⟨before, number, index, after ++ more, last, by simp, hleads, hlacks⟩

/-- What is missed is a collection or an item. -/
theorem Misses.cause_eq {element : Element} {path : List Int32} {cause : PathError}
    (h : element.Misses path cause) :
    (∃ kind number, cause = .unknownField kind number) ∨
      ∃ collection index length, cause = .indexOutOfRange collection index length := by
  obtain ⟨before, number, index, after, last, -, -, hlacks⟩ := h
  cases hlacks with
  | collection _ => exact .inl ⟨_, _, rfl⟩
  | item _ _ => exact .inr ⟨_, _, _, rfl⟩

end Element

namespace Discovery

open Element

/-! ## Failures -/

/-- A path fails at the first pair that it misses, in whatever class. -/
theorem descend_eq_error_iff (element : Element) (className : String) (path : List Int32)
    (cause : PathError) :
    descend element className path = .error cause ↔ element.Misses path cause := by
  match path with
  | [] =>
      rw [descend]
      exact iff_of_false (by simp) fun h => by simpa using two_le_length_of_misses h
  | [_] =>
      rw [descend]
      exact iff_of_false (by simp) fun h => by simpa using two_le_length_of_misses h
  | number :: index :: rest =>
      rw [descend, misses_cons_cons_iff]
      cases element.step number index with
      | error own => simp
      | ok child => simp [descend_eq_error_iff child _ rest cause]

/-- A path begins with a message of a file. -/
def StartsWithMessage (path : List Int32) : Prop :=
  ∃ index rest, path = messageNumber :: index :: rest

theorem StartsWithMessage.append {path : List Int32} (h : StartsWithMessage path)
    (more : List Int32) : StartsWithMessage (path ++ more) := by
  obtain ⟨index, rest, rfl⟩ := h
  exact ⟨index, rest ++ more, rfl⟩

theorem resolveFile_cons_cons (file : FileDescriptor) (index : Int32) (rest : List Int32) :
    resolveFile file (messageNumber :: index :: rest) =
      match (Element.file file).step messageNumber index with
      | .error cause => .error cause
      | .ok root => descend root (qualify file.packageText root.name) rest := by
  rw [resolveFile, if_pos rfl]
  cases hstep : (Element.file file).step messageNumber index with
  | error cause => rfl
  | ok root => exact if_pos (kind_of_step_file hstep)

theorem resolveFile_of_not_message {path : List Int32} (h : ¬ StartsWithMessage path)
    (file : FileDescriptor) : resolveFile file path = .error (.notAMessagePath path) := by
  match path with
  | [] => rfl
  | [_] => rfl
  | number :: index :: rest =>
      rw [resolveFile, if_neg]
      rintro rfl
      exact h ⟨index, rest, rfl⟩

/-- A path that begins with a message fails at the first pair that it misses. -/
theorem resolveFile_eq_error_iff {path : List Int32} (h : StartsWithMessage path)
    (file : FileDescriptor) (cause : PathError) :
    resolveFile file path = .error cause ↔ (Element.file file).Misses path cause := by
  obtain ⟨index, rest, rfl⟩ := h
  rw [resolveFile_cons_cons, misses_cons_cons_iff]
  cases (Element.file file).step messageNumber index with
  | error own => simp
  | ok root => simp [descend_eq_error_iff root _ rest cause]

theorem cause_eq_of_resolveFile {file : FileDescriptor} {path : List Int32} {cause : PathError}
    (h : resolveFile file path = .error cause) :
    (cause = .notAMessagePath path ∧ ¬ StartsWithMessage path) ∨
      (∃ kind number, cause = .unknownField kind number) ∨
      ∃ collection index length, cause = .indexOutOfRange collection index length := by
  by_cases hmessage : StartsWithMessage path
  · exact .inr ((resolveFile_eq_error_iff hmessage file cause).1 h).cause_eq
  · rw [resolveFile_of_not_message hmessage, Except.error.injEq] at h
    exact .inl ⟨h.symm, hmessage⟩

/-! ## Paths without a target -/

/-- The kinds of a message and of all that can be in it. -/
def messageKinds : List ElementKind := [.message, .field, .enum, .enumValue, .oneof]

theorem mem_messageKinds_of_step {element child : Element} {number index : Int32}
    (hkind : element.kind ∈ messageKinds) (h : element.step number index = .ok child) :
    child.kind ∈ messageKinds := by
  have hclosed : ∀ kind ∈ messageKinds, ∀ below ∈ kind.childKinds, below ∈ messageKinds := by
    decide
  exact hclosed _ hkind _ (kind_mem_childKinds h)

theorem classify_eq_none_iff {element : Element} (hkind : element.kind ∈ messageKinds)
    (className : String) :
    classify element className = none ↔ element.kind = .enum ∨ element.kind = .enumValue := by
  rw [classify]
  cases h : element.kind <;> simp [h, messageKinds] at hkind ⊢
  all_goals split_ifs <;> simp

/-- Below a message, a path that can be followed has no target if it ends within a pair or at an
enum or one of its values. -/
theorem descend_eq_none_iff {element : Element} {className : String} {path : List Int32}
    {target : Option Target} (hkind : element.kind ∈ messageKinds)
    (h : descend element className path = .ok target) :
    target = none ↔ path.length % 2 = 1 ∨
      ∃ last, element.Leads path last ∧ (last.kind = .enum ∨ last.kind = .enumValue) := by
  match path with
  | [] =>
      rw [descend, Except.ok.injEq] at h
      simp [← h, classify_eq_none_iff hkind, leads_nil_iff]
  | [_] =>
      rw [descend, Except.ok.injEq] at h
      simp [← h]
  | number :: index :: rest =>
      rw [descend] at h
      split at h
      · cases h
      · rename_i child hstep
        rw [descend_eq_none_iff (mem_messageKinds_of_step hkind hstep) h]
        have hlength : (number :: index :: rest).length % 2 = rest.length % 2 := by
          simp only [List.length_cons]
          omega
        simp only [hlength, leads_cons_cons_iff, hstep, Except.ok.injEq, exists_eq_left']

theorem resolveFile_eq_none_iff {file : FileDescriptor} {path : List Int32}
    {target : Option Target} (h : resolveFile file path = .ok target) :
    target = none ↔ path.length % 2 = 1 ∨ ∃ last, (Element.file file).Leads path last ∧
      (last.kind = .enum ∨ last.kind = .enumValue) := by
  by_cases hmessage : StartsWithMessage path
  · obtain ⟨index, rest, rfl⟩ := hmessage
    rw [resolveFile_cons_cons] at h
    split at h
    · cases h
    · rename_i root hstep
      have hkind : root.kind ∈ messageKinds := by
        rw [kind_of_step_file hstep]
        decide
      rw [descend_eq_none_iff hkind h]
      have hlength : (messageNumber :: index :: rest).length % 2 = rest.length % 2 := by
        simp only [List.length_cons]
        omega
      simp only [hlength, leads_cons_cons_iff, hstep, Except.ok.injEq, exists_eq_left']
  · rw [resolveFile_of_not_message hmessage] at h
    cases h

/-- A path fails if it does not begin with a message, and else at the first pair of numbers under
which there is no element, whatever comes behind.  A path that can be followed has no target if it
ends within a pair, or at an enum or one of its values. -/
theorem first_missed_pair_decides (file : FileDescriptor) (path : List Int32) :
    (∀ told, resolveFile file path = .error (.notAMessagePath told) ↔
      told = path ∧ ¬ StartsWithMessage path) ∧
    (StartsWithMessage path →
      ∀ cause, resolveFile file path = .error cause ↔ (Element.file file).Misses path cause) ∧
    (∀ expected found, resolveFile file path ≠ .error (.rootMismatch expected found)) ∧
    (∀ kind collection, resolveFile file path ≠ .error (.noSuchCollection kind collection)) ∧
    (∀ target, resolveFile file path = .ok target →
      (target = none ↔ path.length % 2 = 1 ∨
        ∃ last, (Element.file file).Leads path last ∧
          (last.kind = .enum ∨ last.kind = .enumValue))) ∧
    (StartsWithMessage path → ∀ cause, resolveFile file path = .error cause →
      ∀ more, resolveFile file (path ++ more) = .error cause) := by
  refine ⟨fun told => ?_, fun hmessage => resolveFile_eq_error_iff hmessage file,
    fun expected found h => ?_, fun kind collection h => ?_,
    fun target h => resolveFile_eq_none_iff h, fun hmessage cause h more => ?_⟩
  · constructor
    · intro h
      rcases cause_eq_of_resolveFile h with ⟨hcause, hnot⟩ | ⟨_, _, hcause⟩ | ⟨_, _, _, hcause⟩
      · exact ⟨PathError.notAMessagePath.inj hcause, hnot⟩
      · cases hcause
      · cases hcause
    · rintro ⟨rfl, hnot⟩
      exact resolveFile_of_not_message hnot file
  · rcases cause_eq_of_resolveFile h with ⟨hcause, -⟩ | ⟨_, _, hcause⟩ | ⟨_, _, _, hcause⟩ <;>
      cases hcause
  · rcases cause_eq_of_resolveFile h with ⟨hcause, -⟩ | ⟨_, _, hcause⟩ | ⟨_, _, _, hcause⟩ <;>
      cases hcause
  · have hmisses := (resolveFile_eq_error_iff hmessage file cause).1 h
    exact (resolveFile_eq_error_iff (hmessage.append more) file cause).2 (hmisses.append more)

/-- A negative position and an unknown number below a message, each with more behind it, and an
enum, which is no target. -/
theorem negative_index_and_unknown_field_decide :
    let foo : MessageDescriptor :=
      { name := some "Foo", nested := [{ name := some "Bar" }], enums := [{ name := some "Kind" }] }
    let file : FileDescriptor := { messages := [foo] }
    resolveFile file ([4, 0, 3, -1] ++ [99, 0, 7]) =
        .error (.indexOutOfRange .nestedType (-1) 1) ∧
      resolveFile file ([4, 0, 3, 0, 9, 2147483647] ++ [2]) = .error (.unknownField .message 9) ∧
      resolveFile file [4, 0, 4, 0] = .ok none := by
  intro foo file
  obtain ⟨-, -, -, -, -, hindex⟩ := first_missed_pair_decides file [4, 0, 3, -1]
  obtain ⟨-, -, -, -, -, hfield⟩ := first_missed_pair_decides file [4, 0, 3, 0, 9, 2147483647]
  obtain ⟨-, -, -, -, hnone, -⟩ := first_missed_pair_decides file [4, 0, 4, 0]
  have hkind : (Element.file file).Leads [4, 0, 4, 0] (.enum { name := some "Kind" }) := by
    simp only [Element.leads_cons_cons_iff, Element.leads_nil_iff]
    exact ⟨_, rfl, _, rfl, rfl⟩
  refine ⟨hindex ⟨_, _, rfl⟩ _ rfl _, hfield ⟨_, _, rfl⟩ _ rfl _, ?_⟩
  obtain ⟨target, htarget⟩ : ∃ target, resolveFile file [4, 0, 4, 0] = .ok target := ⟨_, rfl⟩
  rw [htarget, (hnone target htarget).2 (.inr ⟨_, hkind, .inl rfl⟩)]

end Discovery

end SchemaDocs
