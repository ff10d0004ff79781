import SchemaDocs.Proofs.ClassDoc.Registry
import SchemaDocs.Proofs.Discovery.FirstSeen
/-!
# The handles that are found

Every handle in the result of a search is registered and comes from a finding of its file, and a
search forgets none that was registered before.  Handles collected by name are those collected by
identity.
-/

namespace SchemaDocs.Discovery

/-! ## Collecting handles -/

theorem addHandle_of_mem {handles : List Handle} {handle : Handle} (h : handle ∈ handles) :
    addHandle handles handle = handles := by
  have hany : handles.any handle.sameName = true :=
    List.any_eq_true.2 ⟨handle, h, by simp [Handle.sameName]⟩
  rw [addHandle, if_pos hany]

theorem mem_of_mem_addHandle {handles : List Handle} {handle other : Handle}
    (h : other ∈ addHandle handles handle) : other ∈ handles ∨ other = handle := by
  rw [addHandle] at h
  split at h
  · exact .inl h
  · simpa using h

theorem addHandle_eq_addNew {handles : List Handle} {handle : Handle}
    (hnames : ∀ other ∈ handles, other.name = handle.name → other = handle) :
    addHandle handles handle = addNew handles handle := by
  by_cases hmem : handle ∈ handles
  · rw [addHandle_of_mem hmem, addNew_of_mem hmem]
  · have hnew : ¬ handles.any handle.sameName = true := by
      rw [List.any_eq_true]
      rintro ⟨other, hother, hsame⟩
      have hname : handle.name = other.name := by simpa [Handle.sameName] using hsame
      exact hmem (hnames other hother hname.symm ▸ hother)
    rw [addHandle, if_neg hnew, addNew_of_not_mem hmem]

/-- Where names tell handles apart, handles collected by name are those collected by identity. -/
theorem foldl_addHandle (handles found : List Handle)
    (hnames : ∀ a ∈ handles ++ found, ∀ b ∈ handles ++ found, a.name = b.name → a = b) :
    found.foldl addHandle handles = found.foldl addNew handles := by
  induction found generalizing handles with
  | nil => rfl
  | cons handle found ih =>
      have hhandle : ∀ other ∈ handles, other.name = handle.name → other = handle :=
        fun other hother => hnames other (List.mem_append_left _ hother) handle (by simp)
      rw [List.foldl_cons, List.foldl_cons, addHandle_eq_addNew hhandle, ih]
      have hsub : ∀ other ∈ addNew handles handle ++ found, other ∈ handles ++ handle :: found := by
        intro other hother
        simpa [or_assoc] using hother
      exact fun a ha b hb => hnames a (hsub a ha) b (hsub b hb)

/-! ## Recording findings -/

theorem name_applyTo (finding : Finding) (doc : ClassDoc) :
    (Finding.applyTo finding doc).name = doc.name := by
  unfold Finding.applyTo
  split <;> rfl

theorem mem_handles_record (registry : Registry) (finding : Finding) :
    (record registry finding).1 ∈ (record registry finding).2.handles :=
  registry.mem_handles_getOrCreate finding.target.className

theorem handles_begin_record (registry : Registry) (finding : Finding) :
    registry.handles <+: (record registry finding).2.handles :=
  registry.handles_begin_getOrCreate finding.target.className

theorem wellFormed_record {registry : Registry} (hw : registry.WellFormed) (finding : Finding) :
    (record registry finding).2.WellFormed :=
  (hw.getOrCreate finding.target.className).modify (name_applyTo finding _)

/-- A search from one registry to another is sound: it forgets no handle, and the handles that it
finds are registered. -/
structure Finds (before after : Registry) (handles : List Handle) : Prop where
  wellFormed : after.WellFormed
  begins : before.handles <+: after.handles
  registered : ∀ handle ∈ handles, handle ∈ after.handles

theorem finds_recordAll {registry : Registry} (hw : registry.WellFormed) (handles : List Handle)
    (hhandles : ∀ handle ∈ handles, handle ∈ registry.handles) (findings : List Finding) :
    Finds registry (recordAll registry handles findings).2
      (recordAll registry handles findings).1 := by
  induction findings generalizing registry handles with
  | nil => exact ⟨hw, List.prefix_rfl, hhandles⟩
  | cons finding findings ih =>
      have hbegins := handles_begin_record registry finding
      have hrest := ih (wellFormed_record hw finding)
        (addHandle handles (record registry finding).1) (by
          intro handle hmem
          rcases mem_of_mem_addHandle hmem with hold | rfl
          · exact hbegins.subset (hhandles handle hold)
          · exact mem_handles_record registry finding)
      exact ⟨hrest.wellFormed, hbegins.trans hrest.begins, hrest.registered⟩

theorem finds_recordFiles {registry : Registry} (hw : registry.WellFormed)
    (files : List FileDescriptor) :
    Finds registry (recordFiles registry files).2
      ((recordFiles registry files).1.flatMap FileDocs.handles) := by
  induction files generalizing registry with
  | nil => exact ⟨hw, List.prefix_rfl, fun _ h => absurd h List.not_mem_nil⟩
  | cons file files ih =>
      have hfile := finds_recordAll hw [] (fun _ h => absurd h List.not_mem_nil) (findings file)
      have hrest := ih hfile.wellFormed
      refine ⟨hrest.wellFormed, hfile.begins.trans hrest.begins, ?_⟩
      intro handle hmem
      rw [recordFiles] at hmem
      dsimp only at hmem
      split at hmem
      · exact hrest.registered handle hmem
      · rcases List.mem_append.1 (List.flatMap_cons ▸ hmem) with hnew | hlater
        · exact hrest.begins.subset (hfile.registered handle hnew)
        · exact hrest.registered handle hlater

/-! ## Where handles come from -/

/-- What a place documents is the target of its path. -/
theorem resolveFile_of_finding? {file : FileDescriptor} {location : Location} {finding : Finding}
    (h : finding? file location = some finding) :
    resolveFile file location.path = .ok (some finding.target) := by
  rw [finding?] at h
  split at h
  · simp at h
  · split at h
    · split at h
      · rename_i hresolve
        rw [Option.some.injEq] at h
        rw [hresolve, ← h]
      · simp at h
      · simp at h
    · simp at h

theorem finding?_of_resolveFile {file : FileDescriptor} {location : Location} {comment : String}
    {target : Target} (hcomment : comment? location = some comment)
    (hstart : location.path.head? = some messageNumber)
    (h : resolveFile file location.path = .ok (some target)) :
    finding? file location = some ⟨target, comment⟩ := by
  rw [finding?, hcomment]
  dsimp only
  rw [if_pos hstart, h]

theorem exists_of_mem_recordAll {registry : Registry} {handles : List Handle}
    {findings : List Finding} {handle : Handle}
    (h : handle ∈ (recordAll registry handles findings).1) :
    handle ∈ handles ∨ ∃ finding ∈ findings, handle.name = finding.target.className := by
  induction findings generalizing registry handles with
  | nil => exact .inl h
  | cons finding findings ih =>
      rcases ih h with hmem | ⟨later, hlater, hname⟩
      · rcases mem_of_mem_addHandle hmem with hold | rfl
        · exact .inl hold
        · exact .inr ⟨finding, List.mem_cons_self, Registry.name_getOrCreate _ _⟩
      · exact .inr ⟨later, List.mem_cons_of_mem _ hlater, hname⟩

/-- The classes documented by a file are those of its findings. -/
theorem exists_of_mem_recordFiles {registry : Registry} {files : List FileDescriptor}
    {docs : FileDocs} (h : docs ∈ (recordFiles registry files).1) :
    ∃ file ∈ files, docs.fileName = file.nameText ∧
      ∀ handle ∈ docs.handles, ∃ finding ∈ findings file,
        handle.name = finding.target.className := by
  induction files generalizing registry with
  | nil => exact absurd h List.not_mem_nil
  | cons file files ih =>
      have hlater : docs ∈ (recordFiles (recordAll registry [] (findings file)).2 files).1 →
          ∃ other ∈ file :: files, docs.fileName = other.nameText ∧
            ∀ handle ∈ docs.handles, ∃ finding ∈ findings other,
              handle.name = finding.target.className := by
        intro hmem
        obtain ⟨other, hother, hdocs⟩ := ih hmem
        exact ⟨other, List.mem_cons_of_mem _ hother, hdocs⟩
      rw [recordFiles] at h
      dsimp only at h
      split at h
      · exact hlater h
      · rcases List.mem_cons.1 h with rfl | hmem
        · refine ⟨file, List.mem_cons_self, rfl, ?_⟩
          intro handle hhandle
          exact (exists_of_mem_recordAll hhandle).resolve_left List.not_mem_nil
        · exact hlater hmem

end SchemaDocs.Discovery

namespace SchemaDocs.GenerateRequest

open Discovery

/-- The handles found for a request are registered, and the registry is well formed. -/
theorem finds_findDocs (request : GenerateRequest) {registry : Registry}
    (hw : registry.WellFormed) :
    Finds registry (request.findDocs registry).2
      ((request.findDocs registry).1.flatMap FileDocs.handles) :=
  finds_recordFiles hw request.wantedFiles

end SchemaDocs.GenerateRequest
