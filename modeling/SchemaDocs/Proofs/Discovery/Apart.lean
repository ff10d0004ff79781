import SchemaDocs.Proofs.Discovery.Documented
import SchemaDocs.Proofs.Discovery.Recording
import SchemaDocs.Proofs.Markup.Reading
/-!
# Elements that share a place

Where the names in each scope are distinct, different elements have their comments at different
places, with one exception: an element that repeats the name of the message around it documents
the class of this message, and so may the message itself.
-/

namespace SchemaDocs

open Discovery

namespace FileDescriptor

/-- The places that paths give to comments. -/
inductive Occupies (file : FileDescriptor) : List Int32 → CommentPlace → Prop
  /-- A class that bears the names of the element. -/
  | own {path : List Int32} {names : List String} {element : Element}
      (hself : file.Reaches path names element) :
      Occupies file path ⟨fullName file.packageText names, none⟩
  /-- The class of the message around an element that repeats its name. -/
  | repeated {path : List Int32} {names : List String} {message : MessageDescriptor}
      {number index : Int32} {child : Element}
      (houter : file.Reaches path names (.message message))
      (hstep : (Element.message message).step number index = .ok child)
      (hname : child.name = message.nameText) :
      Occupies file (path ++ [number, index]) ⟨fullName file.packageText names, none⟩
  /-- A member that bears the name of the element. -/
  | member {path : List Int32} {names : List String} {name : String} {element : Element}
      (hself : file.Reaches path (names ++ [name]) element) :
      Occupies file path ⟨fullName file.packageText names, some name⟩

/-- The first path leads to a message that documents a class of its own, the second to an element
directly in it that repeats its name. -/
def Namesake (file : FileDescriptor) (outer inner : List Int32) : Prop :=
  ∃ names message own number index child,
    file.Reaches outer names (.message message) ∧
    resolveFile file outer = .ok (some own) ∧
    own.place = ⟨fullName file.packageText names, none⟩ ∧
    (Element.message message).step number index = .ok child ∧
    child.name = message.nameText ∧ inner = outer ++ [number, index]

variable {file : FileDescriptor} {path path' : List Int32} {target target' : Target}

theorem Documents.occupies (h : file.Documents path target) : file.Occupies path target.place := by
  cases h with
  | outermost hself => exact .own hself
  | namesake houter hstep _ hname => exact .repeated houter hstep hname
  | nested houter hstep _ _ _ => exact .own (houter.inner hstep)
  | member houter hstep _ _ _ => exact .member (houter.inner hstep)

theorem Reaches.names_eq (hlegal : file.LegalNames) {names names' : List String}
    {element element' : Element} (h : file.Reaches path names element)
    (h' : file.Reaches path' names' element')
    (hname : fullName file.packageText names = fullName file.packageText names') :
    names = names' :=
  fullName_injective (h.names_legal hlegal) (h'.names_legal hlegal) hname

/-- The message around an element is settled by the path to the element. -/
theorem Reaches.outer_eq {outer outer' : List Int32} {names names' : List String}
    {message message' : MessageDescriptor} {child child' : Element}
    (houter : file.Reaches outer names (.message message))
    (hself : file.Reaches path (names ++ [child.name]) child)
    (houter' : file.Reaches outer' names' (.message message'))
    (hself' : file.Reaches path (names' ++ [child'.name]) child') :
    names = names' ∧ message.nameText = message'.nameText ∧ child = child' := by
  obtain ⟨hnames, rfl⟩ := hself.eq_of_path_eq hself'
  obtain ⟨rfl, -⟩ := List.append_inj' hnames rfl
  have hlast := houter.getLast?_names.symm.trans houter'.getLast?_names
  exact ⟨rfl, Option.some.inj hlast, rfl⟩

/-- An element that repeats the name of the message around it documents the class of that. -/
theorem Documents.place_of_repeated_name {outer : List Int32} {names : List String}
    {message : MessageDescriptor} {number index : Int32} {child : Element}
    (houter : file.Reaches outer names (.message message))
    (hstep : (Element.message message).step number index = .ok child)
    (hname : child.name = message.nameText)
    (h : file.Documents (outer ++ [number, index]) target) :
    target.place = ⟨fullName file.packageText names, none⟩ := by
  generalize hpath : outer ++ [number, index] = path at h
  have hself := hpath ▸ houter.inner hstep
  cases h with
  | outermost houtermost =>
      have hnames := (hself.eq_of_path_eq houtermost).1
      simp [List.append_eq_singleton_iff, houter.names_ne_nil] at hnames
  | namesake houter' hstep' _ _ =>
      rw [(houter.outer_eq hself houter' (houter'.inner hstep')).1]
      rfl
  | nested houter' hstep' _ hname' _ =>
      obtain ⟨-, hmessage, rfl⟩ := houter.outer_eq hself houter' (houter'.inner hstep')
      exact absurd (hname.trans hmessage) hname'
  | member houter' hstep' _ hname' _ =>
      obtain ⟨-, hmessage, rfl⟩ := houter.outer_eq hself houter' (houter'.inner hstep')
      exact absurd (hname.trans hmessage) hname'

/-- Comments at one place are those of one element, or of a message and an element in it that
repeats its name. -/
theorem eq_or_namesake_of_place_eq (hlegal : file.LegalNames) (hdistinct : file.DistinctNames)
    (h : resolveFile file path = .ok (some target))
    (h' : resolveFile file path' = .ok (some target')) (hplace : target.place = target'.place) :
    path = path' ∨ file.Namesake path path' ∨ file.Namesake path' path := by
  -- a place tells the names at it, and these the path that they were met on
  have hoccupies := (documents_of_resolveFile hlegal h).occupies
  have hoccupies' := (documents_of_resolveFile hlegal h').occupies
  generalize hown : target.place = place at hplace hoccupies
  generalize hown' : target'.place = place' at hplace hoccupies'
  cases hoccupies with
  | own hself =>
      cases hoccupies' with
      | own hself' =>
          obtain rfl := hself.names_eq hlegal hself' (CommentPlace.mk.inj hplace).1
          exact .inl (hdistinct.path_eq hself hself').1
      | repeated houter' hstep' hname' =>
          obtain rfl := hself.names_eq hlegal houter' (CommentPlace.mk.inj hplace).1
          obtain ⟨rfl, rfl⟩ := hdistinct.path_eq hself houter'
          exact .inr (.inl ⟨_, _, _, _, _, _, houter', h, hown, hstep', hname', rfl⟩)
      | member _ => simp at hplace
  | repeated houter hstep hname =>
      cases hoccupies' with
      | own hself' =>
          obtain rfl := houter.names_eq hlegal hself' (CommentPlace.mk.inj hplace).1
          obtain ⟨rfl, rfl⟩ := hdistinct.path_eq houter hself'
          exact .inr (.inr ⟨_, _, _, _, _, _, houter, h', hown', hstep, hname, rfl⟩)
      | repeated houter' hstep' hname' =>
          obtain rfl := houter.names_eq hlegal houter' (CommentPlace.mk.inj hplace).1
          obtain ⟨rfl, hmessage⟩ := hdistinct.path_eq houter houter'
          rw [Element.message.injEq] at hmessage
          subst hmessage
          obtain ⟨rfl, rfl⟩ := Element.step_injective (hdistinct _ houter.scopeNames_mem_scopes)
            hstep hstep' (hname.trans hname'.symm)
          exact .inl rfl
      | member _ => simp at hplace
  | member hself =>
      cases hoccupies' with
      | own _ => simp at hplace
      | repeated _ _ _ => simp at hplace
      | member hself' =>
          rw [CommentPlace.mk.injEq, Option.some.injEq] at hplace
          obtain ⟨hclass, rfl⟩ := hplace
          obtain rfl := fullName_injective
            (fun name hname => hself.names_legal hlegal name (List.mem_append_left _ hname))
            (fun name hname => hself'.names_legal hlegal name (List.mem_append_left _ hname)) hclass
          exact .inl (hdistinct.path_eq hself hself').1

/-- A message that documents a class of its own shares it with an element in it that repeats its
name. -/
theorem Namesake.place_eq (hlegal : file.LegalNames) (hnamesake : file.Namesake path path')
    (h : resolveFile file path = .ok (some target))
    (h' : resolveFile file path' = .ok (some target')) : target.place = target'.place := by
  obtain ⟨names, message, own, number, index, child, houter, hresolve, hown, hstep, hname, rfl⟩ :=
    hnamesake
  rw [h, Except.ok.injEq, Option.some.injEq] at hresolve
  subst hresolve
  rw [hown, (documents_of_resolveFile hlegal h').place_of_repeated_name houter hstep hname]

end FileDescriptor

namespace Discovery

/-- Different elements have their comments at different places, but for a message that documents a
class of its own and an element directly in it that repeats its name.  So the comment that a file
leaves at the place of an element is that of the element itself or of such a namesake. -/
theorem places_shared_only_with_namesakes {file : FileDescriptor} (hlegal : file.LegalNames)
    (hdistinct : file.DistinctNames) :
    (∀ path path' target target', path ≠ path' →
      resolveFile file path = .ok (some target) → resolveFile file path' = .ok (some target') →
      (target.place = target'.place ↔ file.Namesake path path' ∨ file.Namesake path' path)) ∧
    ∀ registry handles, registry.WellFormed →
      ∀ location ∈ file.locations, ∀ finding, finding? file location = some finding →
        ∃ other ∈ file.locations, ∃ last, finding? file other = some last ∧
          (other.path = location.path ∨ file.Namesake location.path other.path ∨
            file.Namesake other.path location.path) ∧
          (recordAll registry handles (findings file)).2.commentAt finding.target.place =
            some last.comment := by
  constructor
  · intro path path' target target' hne h h'
    constructor
    · intro hplace
      exact (FileDescriptor.eq_or_namesake_of_place_eq hlegal hdistinct h h' hplace).resolve_left
        hne
    · rintro (hnamesake | hnamesake)
      · exact hnamesake.place_eq hlegal h h'
      · exact (hnamesake.place_eq hlegal h' h).symm
  · intro registry handles hw location hlocation finding hfinding
    have hmem : finding ∈ findings file := List.mem_filterMap.2 ⟨location, hlocation, hfinding⟩
    obtain ⟨last, hlast, hplace, hcomment⟩ := exists_commentAt_recordAll hw handles hmem
    obtain ⟨other, hother, hotherFinding⟩ := List.mem_filterMap.1 hlast
    have hshared := FileDescriptor.eq_or_namesake_of_place_eq hlegal hdistinct
      (resolveFile_of_finding? hfinding) (resolveFile_of_finding? hotherFinding) hplace.symm
    exact ⟨other, hother, last, hotherFinding, hshared.imp_left Eq.symm, hcomment⟩

/-- A message, a message nested in it and a field of mixed case. -/
theorem places_of_message_and_members :
    let foo : MessageDescriptor :=
      { name := some "Foo"
        fields := [{ name := some "fooBar" }]
        nested := [{ name := some "Bar" }] }
    let own : Location := { path := [4, 0], leading := some "A message." }
    let nested : Location := { path := [4, 0, 3, 0], leading := some "A nested message." }
    let field : Location := { path := [4, 0, 2, 0], leading := some "A field." }
    let file : FileDescriptor :=
      { package := some "pkg", messages := [foo], sourceInfo := some ⟨[own, nested, field]⟩ }
    file.LegalNames ∧ file.DistinctNames ∧
      ¬ (file.Namesake [4, 0, 3, 0] [4, 0, 2, 0] ∨ file.Namesake [4, 0, 2, 0] [4, 0, 3, 0]) ∧
      ∃ other ∈ file.locations, ∃ last, finding? file other = some last ∧
        (other.path = [4, 0] ∨ file.Namesake [4, 0] other.path ∨ file.Namesake other.path [4, 0]) ∧
        (recordAll Registry.empty [] (findings file)).2.commentAt ⟨"pkg.Foo", none⟩ =
          some last.comment := by
  intro foo own nested field file
  have hlegal : file.LegalNames := by decide +kernel
  have hdistinct : file.DistinctNames := by decide +kernel
  obtain ⟨hshared, hkept⟩ := places_shared_only_with_namesakes hlegal hdistinct
  refine ⟨hlegal, hdistinct, ?_, ?_⟩
  · have hnested : resolveFile file [4, 0, 3, 0] = .ok (some (.nested "pkg.Foo.Bar")) :=
      eq_ok_of_toOption (by decide +kernel)
    have hfield : resolveFile file [4, 0, 2, 0] = .ok (some (.nested "pkg.Foo.fooBar")) :=
      eq_ok_of_toOption (by decide +kernel)
    rw [← hshared _ _ _ _ (by decide) hnested hfield]
    decide
  · have hself : finding? file own = some ⟨.summary "pkg.Foo", "A message."⟩ :=
      finding?_of_resolveFile (by decide +kernel) rfl (eq_ok_of_toOption (by decide +kernel))
    have hown : own ∈ file.locations := List.mem_cons_self
    obtain ⟨other, hother, last, hlast, hpath, hcomment⟩ :=
      hkept Registry.empty [] Registry.wellFormed_empty own hown _ hself
    exact ⟨other, hother, last, hlast, hpath, hcomment⟩

/-- A message nested in one of the same name documents the class of the latter, and of two comments
the last is kept. -/
theorem nested_message_of_same_name_shares_place :
    let foo : MessageDescriptor := { name := some "Foo", nested := [{ name := some "Foo" }] }
    let outer : Location := { path := [4, 0], leading := some "The outer one." }
    let inner : Location := { path := [4, 0, 3, 0], leading := some "The inner one." }
    let file : FileDescriptor :=
      { package := some "pkg", messages := [foo], sourceInfo := some ⟨[outer, inner]⟩ }
    file.LegalNames ∧ file.DistinctNames ∧ outer.path ≠ inner.path ∧
      resolveFile file outer.path = .ok (some (.summary "pkg.Foo")) ∧
      resolveFile file inner.path = .ok (some (.summary "pkg.Foo")) ∧
      (recordAll Registry.empty [] (findings file)).2.commentAt ⟨"pkg.Foo", none⟩ =
        some "The inner one." := by
  intro foo outer inner file
  refine ⟨by decide +kernel, by decide +kernel, by decide, ?_, ?_, by decide +kernel⟩
  · exact eq_ok_of_toOption (by decide +kernel)
  · exact eq_ok_of_toOption (by decide +kernel)

end Discovery

end SchemaDocs
