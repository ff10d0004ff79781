import SchemaDocs.Proofs.Descriptor.Trail
import SchemaDocs.Proofs.Discovery.Naming
/-!
# Targets by kind

The target of a path is told by names.  Where these obey the convention, it is the
one that the kind of the element asks for.
-/

namespace SchemaDocs.Discovery

/-- The target of the element at the end of a trail, by its kind: a message stands for itself, and
a member belongs to the innermost message around it. -/
def targetByKind (packageText : String) (trail : List Element) : Option Target :=
  let className := fullName packageText (messageNames trail)
  trail.getLast?.bind fun last =>
    match last.kind with
    | .message => some (if trail.length = 1 then .summary className else .nested className)
    | .field | .oneof => some (.member className last.name)
    | .file | .enum | .enumValue | .service | .method => none

/-! ## The end of a path -/

theorem classify_message {element : Element} {className : String} (hkind : element.kind = .message)
    (hname : lastSegment className ≠ element.name)
    (hmixed : Text.isMixedCase element.name = true) :
    classify element className = some (.nested (qualify className element.name)) := by
  rw [classify, hkind]
  dsimp only
  rw [if_neg hname, if_pos hmixed]

theorem classify_member {element : Element} {className : String}
    (hkind : element.kind = .field ∨ element.kind = .oneof)
    (hname : lastSegment className ≠ element.name)
    (hmixed : Text.isMixedCase element.name = false) :
    classify element className = some (.member className element.name) := by
  have hnot : ¬ Text.isMixedCase element.name = true := by rw [hmixed]; simp
  rcases hkind with hkind | hkind <;>
  · rw [classify, hkind]
    dsimp only
    rw [if_neg hname, if_neg hnot]

theorem enterScope_nil (className : String) (child : Element) :
    enterScope className child [] = className := by
  rw [enterScope]
  split <;> rfl

/-- Neither an enum nor anything below it has a target. -/
theorem descend_enum {element : Element} (hkind : element.kind = .enum) {path : List Int32}
    {below : List Element} (htrail : element.trail path = some below) (className : String) :
    descend element className path = .ok none ∧ ∀ value ∈ below, value.kind = .enumValue := by
  cases below with
  | nil =>
      have hpath : path = [] := by simpa using Element.length_of_trail htrail
      refine ⟨?_, fun _ h => absurd h List.not_mem_nil⟩
      rw [hpath, descend, classify, hkind]
  | cons value below =>
      obtain ⟨number, index, rest, rfl, hstep, hrest⟩ := Element.exists_of_trail_cons htrail
      have hvalue : value.kind = .enumValue := by
        have hmem := Element.kind_mem_childKinds hstep
        rw [hkind] at hmem
        simpa [ElementKind.childKinds, ElementKind.collections, Collection.itemKind] using hmem
      have hbelow : below = [] :=
        Element.trail_eq_nil (by rw [hvalue]; rfl) hrest
      subst hbelow
      have hpath : rest = [] := by simpa using Element.length_of_trail hrest
      refine ⟨?_, fun other hother => by rwa [List.mem_singleton.1 hother]⟩
      rw [hpath, descend, hstep]
      dsimp only
      rw [descend, classify, hvalue]

/-! ## The way down -/

theorem targetByKind_concat (packageText : String) (before : List Element) (last : Element) :
    targetByKind packageText (before ++ [last]) =
      match last.kind with
      | .message =>
        if before = [] then
          some (.summary (fullName packageText (messageNames (before ++ [last]))))
        else some (.nested (fullName packageText (messageNames (before ++ [last]))))
      | .field | .oneof =>
        some (.member (fullName packageText (messageNames (before ++ [last]))) last.name)
      | .file | .enum | .enumValue | .service | .method => none := by
  rw [targetByKind, List.getLast?_concat, Option.bind_some]
  cases last.kind <;> simp [apply_ite]

theorem targetByKind_member (packageText : String) {before : List Element} {member : Element}
    (hkind : member.kind = .field ∨ member.kind = .oneof) :
    targetByKind packageText (before ++ [member]) =
      some (.member (fullName packageText (messageNames before)) member.name) := by
  have hother : member.kind ≠ .message := by rcases hkind with h | h <;> simp [h]
  rw [targetByKind_concat, messageNames_append, messageNames_other hother, List.append_nil]
  rcases hkind with h | h <;> rw [h]

theorem exists_targetByKind_message (packageText : String) {before : List Element}
    {message : Element} (hkind : message.kind = .message) :
    ∃ own, targetByKind packageText (before ++ [message]) = some own ∧
      own.className = fullName packageText (messageNames (before ++ [message])) := by
  rw [targetByKind_concat, hkind]
  dsimp only
  split
  · exact ⟨_, rfl, rfl⟩
  · exact ⟨_, rfl, rfl⟩

theorem childKind_of_message {element child : Element} {number index : Int32}
    (hkind : element.kind = .message) (h : element.step number index = .ok child) :
    child.kind = .message ∨ child.kind = .enum ∨ child.kind = .field ∨ child.kind = .oneof := by
  have hmem := Element.kind_mem_childKinds h
  rw [hkind] at hmem
  simp only [ElementKind.childKinds, ElementKind.collections, Collection.itemKind, List.map_cons,
    List.map_nil, List.mem_cons, List.not_mem_nil, or_false] at hmem
  tauto

/-- Right below a message, names tell the kinds of elements apart. -/
theorem classify_eq_targetByKind (packageText : String) {before : List Element}
    {outer inner : Element} {number index : Int32} (hkind : outer.kind = .message)
    (hstep : outer.step number index = .ok inner)
    (hnames : Conventional (before ++ [outer, inner])) :
    classify inner (fullName packageText (messageNames (before ++ [outer]))) =
      targetByKind packageText (before ++ [outer, inner]) := by
  have hpassed : before ++ [outer, inner] = before ++ [outer] ++ [inner] := by simp
  have houter : Conventional (before ++ [outer]) :=
    hnames.of_begin (hpassed ▸ List.prefix_append _ _)
  have hinner : inner ∈ before ++ [outer, inner] := by simp
  have hscope := lastSegment_fullName houter hkind packageText
  rw [hpassed]
  rcases childKind_of_message hkind hstep with hmessage | henum | hmember
  · rw [targetByKind_concat, hmessage, if_neg (by simp),
      fullName_message (hpassed ▸ hnames) hmessage]
    apply classify_message hmessage _ (hnames.of_message hinner hmessage).2.2
    rw [hscope]
    exact hnames.name_ne (.inl hmessage)
  · rw [targetByKind_concat, classify, henum]
  · rw [targetByKind_member packageText hmember]
    apply classify_member hmember _ (hnames.of_member hinner hmember)
    rw [hscope]
    exact hnames.name_ne (.inr hmember)

/-- From a message down, the class in scope is the innermost message that was passed. -/
theorem descend_eq_targetByKind (packageText : String) {before below : List Element}
    {outer : Element} {path : List Int32} (hkind : outer.kind = .message) (hbelow : below ≠ [])
    (htrail : outer.trail path = some below)
    (hnames : Conventional (before ++ outer :: below)) :
    descend outer (fullName packageText (messageNames (before ++ [outer]))) path =
      .ok (targetByKind packageText (before ++ outer :: below)) := by
  induction below generalizing before outer path with
  | nil => exact absurd rfl hbelow
  | cons inner below ih =>
      obtain ⟨number, index, rest, rfl, hstep, hrest⟩ := Element.exists_of_trail_cons htrail
      have hlength := Element.length_of_trail hrest
      have hpassed : before ++ outer :: inner :: below = before ++ [outer] ++ inner :: below := by
        simp
      rw [descend, hstep]
      dsimp only
      by_cases hlast : below = []
      · subst hlast
        have hpath : rest = [] := by simpa using hlength
        subst hpath
        rw [enterScope_nil, descend, classify_eq_targetByKind packageText hkind hstep hnames]
      · rcases childKind_of_message hkind hstep with hmessage | henum | hmember
        · have hscope : enterScope (fullName packageText (messageNames (before ++ [outer]))) inner
              rest = fullName packageText (messageNames (before ++ [outer] ++ [inner])) := by
            have hpos := List.length_pos_iff.2 hlast
            have hinner : Conventional (before ++ [outer] ++ [inner]) :=
              hnames.of_begin ⟨below, by simp⟩
            rw [fullName_message hinner hmessage, enterScope, hmessage]
            exact if_pos (by omega)
          rw [hscope, hpassed]
          exact ih hmessage hlast hrest (hpassed ▸ hnames)
        · obtain ⟨hnone, hvalues⟩ := descend_enum henum hrest
            (enterScope (fullName packageText (messageNames (before ++ [outer]))) inner rest)
          obtain ⟨front, value, rfl⟩ := (List.eq_nil_or_concat' below).resolve_left hlast
          have hend : before ++ outer :: inner :: (front ++ [value]) =
              (before ++ outer :: inner :: front) ++ [value] := by simp
          rw [hnone, hend, targetByKind_concat, hvalues value List.mem_concat_self]
        · have hleaf : inner.kind.childKinds = [] := by
            rcases hmember with h | h <;> rw [h] <;> rfl
          exact absurd (Element.trail_eq_nil hleaf hrest) hlast

/-! ## Whole paths -/

/-- What stands under the number of messages is a message. -/
theorem kind_of_step_file {file : FileDescriptor} {index : Int32} {root : Element}
    (h : (Element.file file).step messageNumber index = .ok root) : root.kind = .message := by
  obtain ⟨collection, hcollection, hkind⟩ := Element.kind_of_step h
  have hmessages : ElementKind.collection? .file messageNumber = some .messageType := rfl
  rw [Element.kind, hmessages, Option.some.injEq] at hcollection
  rw [hkind, ← hcollection, Collection.itemKind]

theorem resolveFile_eq_targetByKind {file : FileDescriptor} {path : List Int32}
    {trail : List Element} (hstart : path.head? = some messageNumber)
    (htrail : (Element.file file).trail path = some trail) (hnames : Conventional trail) :
    resolveFile file path = .ok (targetByKind file.packageText trail) := by
  cases trail with
  | nil =>
      have hpath : path = [] := by simpa using Element.length_of_trail htrail
      rw [hpath] at hstart
      simp at hstart
  | cons root below =>
      obtain ⟨number, index, rest, rfl, hstep, hrest⟩ := Element.exists_of_trail_cons htrail
      rw [List.head?_cons, Option.some.injEq] at hstart
      subst hstart
      have hroot := kind_of_step_file hstep
      have hfirst : Conventional ([] ++ [root]) := hnames.of_begin ⟨below, by simp⟩
      have hscope : qualify file.packageText root.name =
          fullName file.packageText (messageNames ([] ++ [root])) := by
        rw [fullName_message hfirst hroot, messageNames, List.filter_nil, List.map_nil,
          fullName_nil]
      rw [resolveFile, if_pos rfl, hstep]
      dsimp only
      rw [resolve, if_pos hroot, hscope]
      by_cases hlast : below = []
      · subst hlast
        have hpath : rest = [] := by simpa using Element.length_of_trail hrest
        have hsummary := targetByKind_concat file.packageText [] root
        rw [hroot, if_pos rfl, List.nil_append] at hsummary
        rw [hpath, descend, classify, hroot]
        dsimp only
        rw [if_pos (lastSegment_fullName hfirst hroot _), hsummary, List.nil_append]
      · exact descend_eq_targetByKind file.packageText hroot hlast hrest hnames

/-- A path to an element has the target that the kind of the element asks for, however deep the
element lies.  So the comment of a message and those of its fields go to one class. -/
theorem targets_follow_kinds {file : FileDescriptor} {path : List Int32} {trail : List Element}
    (hstart : path.head? = some messageNumber)
    (htrail : (Element.file file).trail path = some trail) (hnames : Conventional trail) :
    resolveFile file path = .ok (targetByKind file.packageText trail) ∧
    ∀ message number index member, trail.getLast? = some message → message.kind = .message →
      message.step number index = .ok member → member.kind = .field ∨ member.kind = .oneof →
      Conventional (trail ++ [member]) →
      ∃ own, resolveFile file path = .ok (some own) ∧
        resolveFile file (path ++ [number, index]) =
          .ok (some (.member own.className member.name)) := by
  have hself := resolveFile_eq_targetByKind hstart htrail hnames
  refine ⟨hself, ?_⟩
  intro message number index member hlast hmessage hstep hmember hnames'
  obtain ⟨before, rfl⟩ := List.getLast?_eq_some_iff.1 hlast
  have hend : (Element.file file :: (before ++ [message])).getLast? = some message := by
    rw [← List.cons_append, List.getLast?_concat]
  have hbelow := Element.trail_concat htrail hend hstep
  have hpath : (path ++ [number, index]).head? = some messageNumber := by
    cases path with
    | nil => simp at hstart
    | cons first rest => exact hstart
  obtain ⟨own, hown, hclass⟩ := exists_targetByKind_message file.packageText hmessage
  refine ⟨own, by rw [hself, hown], ?_⟩
  rw [resolveFile_eq_targetByKind hpath hbelow hnames', targetByKind_member _ hmember, hclass]

theorem nested_message_and_field_share_class :
    let bar : MessageDescriptor := { name := some "Bar", fields := [{ name := some "baz" }] }
    let foo : MessageDescriptor := { name := some "Foo", nested := [bar] }
    let file : FileDescriptor := { package := some "pkg", messages := [foo] }
    resolveFile file [4, 0, 3, 0] = .ok (some (.nested "pkg.Foo.Bar")) ∧
      resolveFile file [4, 0, 3, 0, 2, 0] = .ok (some (.member "pkg.Foo.Bar" "baz")) := by
  intro bar foo file
  have hnames : Conventional [.message foo, .message bar] := ⟨by decide, by decide⟩
  have hmember : Conventional [.message foo, .message bar, .field { name := some "baz" }] :=
    ⟨by decide, by decide⟩
  obtain ⟨hself, hshared⟩ :=
    @targets_follow_kinds file [4, 0, 3, 0] [.message foo, .message bar] rfl rfl hnames
  have hnested : targetByKind file.packageText [.message foo, .message bar] =
      some (.nested "pkg.Foo.Bar") := by
    decide
  rw [hnested] at hself
  obtain ⟨own, hown, hfield⟩ := hshared (.message bar) 2 0 (.field { name := some "baz" }) rfl rfl
    rfl (.inl rfl) hmember
  rw [hself, Except.ok.injEq, Option.some.injEq] at hown
  subst hown
  exact ⟨hself, hfield⟩

end SchemaDocs.Discovery
