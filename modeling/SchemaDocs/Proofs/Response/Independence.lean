import SchemaDocs.Proofs.Discovery.Event
import SchemaDocs.Proofs.Markup.Conversion
import SchemaDocs.Response.Assemble
import Mathlib.Logic.Relation
/-!
# What an answer does not depend on

An answer depends on what the requested files tell, and on nothing else of a request.  Files that
are not requested, the order and number of the requested names, places that tell nothing and
detached comments have no influence, however many of them are edited at once.
-/

namespace SchemaDocs

open Discovery

/-! ## Places that tell nothing -/

/-- A comment that is absent or blank. -/
def BlankOrAbsent (comment : Option String) : Prop :=
  ∀ text, comment = some text → Text.allBlank text.toList = true

namespace FileDescriptor

/-- A place that tells nothing. -/
inductive Silent (file : FileDescriptor) (location : Location) : Prop
  /-- There is no comment before the element and none behind it. -/
  | uncommented (hleading : BlankOrAbsent location.leading)
      (htrailing : BlankOrAbsent location.trailing)
  /-- The place lies outside of messages. -/
  | outside (h : location.path.head? ≠ some 4)
  /-- The path leads nowhere. -/
  | dangling (cause : PathError) (h : resolveFile file location.path = .error cause)
  /-- The path leads to an element that has no documentation. -/
  | untargeted (h : resolveFile file location.path = .ok none)

theorem filter_eq_nil_of_blankOrAbsent {comment : Option String} (h : BlankOrAbsent comment) :
    (comment.toList.filter fun text => !Text.allBlank text.toList) = [] := by
  rw [List.filter_eq_nil_iff]
  intro text htext
  simp [h text (Option.mem_toList.1 htext)]

theorem Silent.event?_eq_none {file : FileDescriptor} {location : Location}
    (h : file.Silent location) : file.event? location = none := by
  rw [← Option.not_isSome_iff_eq_none, Option.isSome_iff_exists]
  rintro ⟨event, hevent⟩
  obtain ⟨hremarks, hstart, hresolve, -⟩ := event?_eq_some_iff.1 hevent
  cases h with
  | uncommented hleading htrailing =>
      apply hremarks
      rw [Location.remarks, List.filter_append, filter_eq_nil_of_blankOrAbsent hleading,
        filter_eq_nil_of_blankOrAbsent htrailing]
      rfl
  | outside houtside => exact houtside hstart
  | dangling cause hcause => simp [hcause] at hresolve
  | untargeted hnone => simp [hnone] at hresolve

/-- A file with other places. -/
def withLocations (file : FileDescriptor) (locations : List Location) : FileDescriptor :=
  { file with sourceInfo := some ⟨locations⟩ }

/-- A path is followed through the messages of a file, whatever places it has. -/
theorem resolveFile_withLocations (file : FileDescriptor) (locations : List Location)
    (path : List Int32) :
    resolveFile (file.withLocations locations) path = resolveFile file path := by
  unfold resolveFile
  rfl

theorem event?_withLocations (file : FileDescriptor) (locations : List Location) :
    (file.withLocations locations).event? = file.event? := by
  funext location
  rw [event?, event?, resolveFile_withLocations]

theorem events_withLocations (file : FileDescriptor) (locations : List Location) :
    (file.withLocations locations).events = locations.filterMap file.event? := by
  rw [events, event?_withLocations]
  rfl

theorem filterMap_event?_of_silent {file : FileDescriptor} {locations : List Location}
    (h : ∀ location ∈ locations, file.Silent location) :
    locations.filterMap file.event? = [] :=
  List.filterMap_eq_nil_iff.2 fun location hlocation => (h location hlocation).event?_eq_none

end FileDescriptor

/-! ## Edits -/

namespace GenerateRequest

/-- An edit of a request that should not show in the answer. -/
inductive IrrelevantEdit : GenerateRequest → GenerateRequest → Prop
  /-- Files that are not requested give place to others that are not either. -/
  | otherFiles {request : GenerateRequest} {before old new after : List FileDescriptor}
      (hfiles : request.files = before ++ old ++ after)
      (hold : ∀ file ∈ old, file.nameText ∉ request.filesToGenerate)
      (hnew : ∀ file ∈ new, file.nameText ∉ request.filesToGenerate) :
      IrrelevantEdit request { request with files := before ++ new ++ after }
  /-- The requested names stand in another order, or some of them more or less often. -/
  | requestedNames {request : GenerateRequest} {names : List String}
      (hnames : ∀ name, name ∈ names ↔ name ∈ request.filesToGenerate) :
      IrrelevantEdit request { request with filesToGenerate := names }
  /-- Places of a file that tell nothing give place to others that tell nothing. -/
  | silentLocations {request : GenerateRequest} {before after : List FileDescriptor}
      {file : FileDescriptor} {first old new rest : List Location}
      (hfiles : request.files = before ++ file :: after)
      (hlocations : file.locations = first ++ old ++ rest)
      (hold : ∀ location ∈ old, file.Silent location)
      (hnew : ∀ location ∈ new, file.Silent location) :
      IrrelevantEdit request
        { request with files := before ++ file.withLocations (first ++ new ++ rest) :: after }
  /-- A place has other detached comments. -/
  | detachedComments {request : GenerateRequest} {before after : List FileDescriptor}
      {file : FileDescriptor} {first rest : List Location} {location : Location}
      {detached : List String}
      (hfiles : request.files = before ++ file :: after)
      (hlocations : file.locations = first ++ location :: rest) :
      IrrelevantEdit request
        { request with
          files := before ++
            file.withLocations (first ++ { location with detached := detached } :: rest) ::
              after }

/-! ## What is left of a request -/

/-- What the requested files tell, by their names. -/
def told (request : GenerateRequest) : List (String × List Finding) :=
  request.wantedFiles.map fun file => (file.nameText, file.events)

theorem wantedFiles_eq_nil {files : List FileDescriptor} {names : List String}
    (h : ∀ file ∈ files, file.nameText ∉ names) :
    (files.filter fun file => names.contains file.nameText) = [] := by
  rw [List.filter_eq_nil_iff]
  intro file hfile
  simpa using h file hfile

/-- Another file of the same name that tells the same may stand in the place of a file. -/
theorem told_replace {request : GenerateRequest} {before after : List FileDescriptor}
    {file other : FileDescriptor} (hfiles : request.files = before ++ file :: after)
    (hname : other.nameText = file.nameText) (hevents : other.events = file.events) :
    told { request with files := before ++ other :: after } = request.told := by
  rw [told, told, wantedFiles, wantedFiles, hfiles]
  dsimp only
  rw [List.filter_append, List.filter_append, List.filter_cons, List.filter_cons, hname]
  split <;> simp [hname, hevents]

theorem IrrelevantEdit.told_eq {a b : GenerateRequest} (h : IrrelevantEdit a b) :
    b.told = a.told := by
  cases h with
  | otherFiles hfiles hold hnew =>
      rw [told, told, wantedFiles, wantedFiles, hfiles]
      dsimp only
      rw [List.filter_append, List.filter_append, List.filter_append, List.filter_append,
        wantedFiles_eq_nil hold, wantedFiles_eq_nil hnew]
  | requestedNames hnames =>
      rw [told, told, wantedFiles, wantedFiles]
      congr 1
      apply List.filter_congr
      intro file _
      rw [Bool.eq_iff_iff, List.contains_iff_mem, List.contains_iff_mem]
      exact hnames file.nameText
  | silentLocations hfiles hlocations hold hnew =>
      refine told_replace hfiles rfl ?_
      rw [FileDescriptor.events_withLocations, FileDescriptor.events, hlocations,
        List.filterMap_append, List.filterMap_append, List.filterMap_append,
        List.filterMap_append, FileDescriptor.filterMap_event?_of_silent hold,
        FileDescriptor.filterMap_event?_of_silent hnew]
  | @detachedComments _ _ file _ _ location detached hfiles hlocations =>
      have hevent : file.event? { location with detached := detached } = file.event? location :=
        rfl
      refine told_replace hfiles rfl ?_
      rw [FileDescriptor.events_withLocations, FileDescriptor.events, hlocations,
        List.filterMap_append, List.filterMap_append, List.filterMap_cons, List.filterMap_cons,
        hevent]

end GenerateRequest

/-- A search depends on what files tell and on their names. -/
theorem Discovery.recordFiles_congr {files others : List FileDescriptor}
    (h : (files.map fun file => (file.nameText, file.events)) =
      others.map fun file => (file.nameText, file.events))
    (registry : Registry) : recordFiles registry files = recordFiles registry others := by
  induction files generalizing others registry with
  | nil => rw [List.map_eq_nil_iff.1 h.symm]
  | cons file files ih =>
      obtain ⟨other, rest, rfl, hfile, hrest⟩ := List.map_eq_cons_iff.1 h.symm
      obtain ⟨hname, hevents⟩ := Prod.mk.inj hfile
      rw [recordFiles, recordFiles, findings_eq_events, findings_eq_events, hevents]
      dsimp only
      rw [hname, ih hrest.symm]

namespace GenerateRequest

/-- Irrelevant edits, alone or in any number, change neither what a search finds and registers nor
the answer, whatever the converter is and does: it gets the same text, if it gets any. -/
theorem irrelevant_edits_change_nothing {a b : GenerateRequest}
    (h : Relation.EqvGen IrrelevantEdit a b) :
    (∀ registry, a.findDocs registry = b.findDocs registry) ∧
      ∀ (m : Type → Type) [Monad m] (convert : Converter m) (config : Config),
        Response.assemble convert config a = Response.assemble convert config b := by
  have htold : a.told = b.told := by
    induction h with
    | rel _ _ hedit => exact hedit.told_eq.symm
    | refl _ => rfl
    | symm _ _ _ ih => exact ih.symm
    | trans _ _ _ _ _ hfirst hsecond => exact hfirst.trans hsecond
  have hfind : ∀ registry, a.findDocs registry = b.findDocs registry := recordFiles_congr htold
  refine ⟨hfind, ?_⟩
  intro m _ convert config
  rw [Response.assemble, Response.assemble, hfind]

/-- A dependency goes, a name is asked for twice, detached comments change, and there are places
without a comment, outside of messages, beyond the last message and within a step. -/
theorem edits_of_one_request_change_nothing :
    let foo : MessageDescriptor := { name := some "Foo" }
    let dependency : FileDescriptor :=
      { name := some "dependency.proto"
        messages := [foo]
        sourceInfo := some ⟨[{ path := [4, 0], leading := some "Not asked for." }]⟩ }
    let file (locations : List Location) : FileDescriptor :=
      { name := some "foo.proto", messages := [foo], sourceInfo := some ⟨locations⟩ }
    let own (detached : List String) : Location :=
      { path := [4, 0], leading := some "A *class*.", detached := detached }
    let silent : List Location :=
      [{ path := [4, 0], trailing := some " \n" }, { path := [5, 0], leading := some "An enum." },
        { path := [4, 1], leading := some "Missing." }, { path := [4, 0, 2], leading := some "?" }]
    let before : GenerateRequest :=
      { filesToGenerate := ["foo.proto", "bar.proto"], files := [dependency, file [own []]] }
    let after : GenerateRequest :=
      { filesToGenerate := ["bar.proto", "foo.proto", "foo.proto"]
        files := [file (silent ++ [own ["Detached."]])] }
    let convert : Converter (StateM (List ConversionCall)) :=
      Converter.logged fun call => .ok call.text
    Relation.EqvGen IrrelevantEdit before after ∧
      (∀ registry, before.findDocs registry = after.findDocs registry) ∧
      (Response.assemble convert {} before).run [] = (Response.assemble convert {} after).run [] := by
  intro foo dependency file own silent before after convert
  let alone : GenerateRequest :=
    { filesToGenerate := ["foo.proto", "bar.proto"], files := [file [own []]] }
  let renamed : GenerateRequest :=
    { filesToGenerate := ["bar.proto", "foo.proto", "foo.proto"], files := [file [own []]] }
  let detached : GenerateRequest :=
    { filesToGenerate := ["bar.proto", "foo.proto", "foo.proto"]
      files := [file [own ["Detached."]]] }
  have hfiles : IrrelevantEdit before alone :=
    @IrrelevantEdit.otherFiles before [] [dependency] [] [file [own []]] rfl (by decide) (by decide)
  have hnames : IrrelevantEdit alone renamed :=
    .requestedNames (by intro name; simp [alone, or_comm])
  have hdetached : IrrelevantEdit renamed detached :=
    @IrrelevantEdit.detachedComments renamed [] [] (file [own []]) [] [] (own []) ["Detached."]
      rfl rfl
  have hblank : BlankOrAbsent (some " \n") := by
    rintro text ⟨⟩
    decide
  have hsilent : ∀ location ∈ silent, (file [own ["Detached."]]).Silent location := by
    simp only [silent, List.forall_mem_cons, List.not_mem_nil, false_imp_iff, implies_true,
      and_true]
    refine ⟨.uncommented nofun hblank, .outside (by decide), .dangling _ rfl, .untargeted rfl⟩
  have hlocations : IrrelevantEdit detached after :=
    @IrrelevantEdit.silentLocations detached [] [] (file [own ["Detached."]]) [] [] silent
      [own ["Detached."]] rfl rfl (fun _ h => absurd h List.not_mem_nil) hsilent
  have hedits : Relation.EqvGen IrrelevantEdit before after :=
    .trans _ _ _ (.rel _ _ hfiles) (.trans _ _ _ (.rel _ _ hnames)
      (.trans _ _ _ (.rel _ _ hdetached) (.rel _ _ hlocations)))
  obtain ⟨hfound, hanswer⟩ := irrelevant_edits_change_nothing hedits
  exact ⟨hedits, hfound, congrArg (fun run => run.run []) (hanswer _ convert {})⟩

end GenerateRequest

end SchemaDocs
