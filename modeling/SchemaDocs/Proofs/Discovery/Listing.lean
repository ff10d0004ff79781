import SchemaDocs.Proofs.Discovery.Gathering
/-!
# What a search lists

A search lists the requested files that tell anything, and for each the classes that it tells of.
In a registry that was empty before, these are all the classes there are, every listed handle is
the registered one, and no document is without a comment.
-/

namespace SchemaDocs

open Discovery

namespace ClassDoc

theorem isUndocumented_eq_false {doc : ClassDoc} {comment : String}
    (hmem : comment ∈ doc.comments) (hcomment : Text.allBlank comment.toList = false) :
    doc.isUndocumented = false := by
  rw [isUndocumented, Bool.and_eq_false_iff]
  rcases List.mem_append.1 hmem with hsummary | hmember
  · left
    split at hsummary
    · exact absurd hsummary List.not_mem_nil
    · rwa [← List.mem_singleton.1 hsummary]
  · right
    obtain ⟨member, hin, rfl⟩ := List.mem_map.1 hmember
    rw [List.all_eq_false]
    exact ⟨member, hin, by simp [hcomment]⟩

end ClassDoc

/-! ## Listings of files -/

namespace FileDescriptor

/-- The classes that a file tells of, in the order in which they are first told of. -/
def classesTold (file : FileDescriptor) : List String :=
  (file.events.map fun event => event.target.className).eraseDups

theorem classesTold_eq_nil_iff {file : FileDescriptor} :
    file.classesTold = [] ↔ file.events = [] := by
  simp only [List.eq_nil_iff_forall_not_mem, classesTold, List.mem_eraseDups, List.mem_map]
  constructor
  · exact fun h event hevent => h _ ⟨event, hevent, rfl⟩
  · rintro h name ⟨event, hevent, -⟩
    exact h event hevent

end FileDescriptor

/-- The names that a file is listed with: its own, and those of its classes. -/
def FileDocs.listing (docs : FileDocs) : String × List String :=
  (docs.fileName, docs.handles.map Handle.name)

/-- The classes that a file is listed with, each with the name of the file. -/
def listingPairs (listing : String × List String) : List (String × String) :=
  listing.2.map fun className => (listing.1, className)

/-- Files that differ in their names have no class listed twice with one name. -/
theorem nodup_flatMap_listingPairs {files : List FileDescriptor}
    (hnames : (files.map FileDescriptor.nameText).Nodup) :
    (files.flatMap fun file => listingPairs (file.nameText, file.classesTold)).Nodup := by
  rw [List.nodup_flatMap]
  constructor
  · intro file _
    exact (nodup_eraseDups _).map fun _ _ h => (Prod.mk.inj h).2
  · refine (List.pairwise_map.1 hnames).imp fun {a b} hne => ?_
    intro pair ha hb
    obtain ⟨_, -, rfl⟩ := List.mem_map.1 ha
    obtain ⟨_, -, hpair⟩ := List.mem_map.1 hb
    exact hne (Prod.mk.inj hpair).1.symm

namespace Discovery

theorem names_fst_recordAll (registry : Registry) (handles : List Handle)
    (findings : List Finding) :
    (recordAll registry handles findings).1.map Handle.name =
      (findings.map fun finding => finding.target.className).foldl addNew
        (handles.map Handle.name) := by
  induction findings generalizing registry handles with
  | nil => rfl
  | cons finding findings ih =>
      rw [recordAll]
      dsimp only
      rw [ih, names_addHandle, List.map_cons, List.foldl_cons]
      congr 2
      exact registry.name_getOrCreate finding.target.className

theorem listings_recordFiles (registry : Registry) (files : List FileDescriptor) :
    (recordFiles registry files).1.map FileDocs.listing =
      (files.filter fun file => !file.events.isEmpty).map fun file =>
        (file.nameText, file.classesTold) := by
  induction files generalizing registry with
  | nil => rfl
  | cons file files ih =>
      have hnames : (recordAll registry [] (findings file)).1.map Handle.name =
          file.classesTold := by
        rw [names_fst_recordAll, findings_eq_events, List.map_nil, foldl_addNew_nil,
          FileDescriptor.classesTold]
      rw [recordFiles]
      dsimp only
      by_cases hevents : file.events = []
      · rw [FileDescriptor.classesTold_eq_nil_iff.2 hevents, List.map_eq_nil_iff] at hnames
        rw [hnames, List.filter_cons_of_neg (by simp [hevents])]
        exact ih _
      · have hhandles : (recordAll registry [] (findings file)).1 ≠ [] := by
          intro hnone
          rw [hnone, List.map_nil] at hnames
          exact hevents (FileDescriptor.classesTold_eq_nil_iff.1 hnames.symm)
        rw [if_neg (by simpa using hhandles), List.map_cons, ih,
          List.filter_cons_of_pos (by simp [hevents]), List.map_cons, FileDocs.listing, hnames]

end Discovery

/-! ## The listing and the registry -/

theorem foldl_addNew_classesTold (names : List String) (files : List FileDescriptor) :
    (files.flatMap FileDescriptor.classesTold).foldl addNew names =
      ((files.flatMap FileDescriptor.events).map fun event => event.target.className).foldl
        addNew names := by
  induction files generalizing names with
  | nil => rfl
  | cons file files ih =>
      rw [List.flatMap_cons, List.flatMap_cons, List.map_append, List.foldl_append,
        List.foldl_append, ih, FileDescriptor.classesTold, ← foldl_addNew_nil,
        foldl_addNew_foldl, List.foldl_nil]

theorem exists_event_of_lastComment? {events : List Finding} {place : CommentPlace}
    {comment : String} (h : lastComment? events place = some comment) :
    ∃ event ∈ events, event.target.place = place ∧ event.comment = comment := by
  obtain ⟨event, hlast, rfl⟩ := Option.map_eq_some_iff.1 h
  obtain ⟨hevent, hplace⟩ := List.mem_filter.1 (List.mem_of_getLast? hlast)
  exact ⟨event, hevent, of_decide_eq_true hplace, rfl⟩

theorem exists_lastComment?_of_mem {events : List Finding} {event : Finding}
    (h : event ∈ events) : ∃ comment, lastComment? events event.target.place = some comment := by
  have hmem : event ∈ events.filter fun other => other.target.place = event.target.place :=
    List.mem_filter.2 ⟨h, by simp⟩
  rw [lastComment?, List.getLast?_eq_some_getLast (List.ne_nil_of_mem hmem)]
  exact ⟨_, rfl⟩

namespace GenerateRequest

variable (request : GenerateRequest)

/-- What is told file by file in a result is told by all requested files, if nothing is told of a
file without classes. -/
theorem flatMap_listing (registry : Registry) {α : Type} {f : String × List String → List α}
    (hnone : ∀ name, f (name, []) = []) :
    ((request.findDocs registry).1.flatMap fun entry => f entry.listing) =
      request.wantedFiles.flatMap fun file => f (file.nameText, file.classesTold) := by
  have hlistings : (request.findDocs registry).1.map FileDocs.listing = _ :=
    listings_recordFiles registry request.wantedFiles
  rw [← List.flatMap_map, hlistings, List.flatMap_map]
  -- a file that is left out tells of no class
  induction request.wantedFiles with
  | nil => rfl
  | cons file files ih =>
      rw [List.flatMap_cons, ← ih]
      by_cases hevents : file.events = []
      · rw [List.filter_cons_of_neg (by simp [hevents]),
          FileDescriptor.classesTold_eq_nil_iff.2 hevents, hnone, List.nil_append]
      · rw [List.filter_cons_of_pos (by simp [hevents]), List.flatMap_cons]

theorem names_listed (registry : Registry) :
    ((request.findDocs registry).1.flatMap fun entry => entry.handles.map Handle.name) =
      request.wantedFiles.flatMap FileDescriptor.classesTold :=
  request.flatMap_listing registry (f := Prod.snd) fun _ => rfl

theorem trimmed_of_mem_events {event : Finding} (h : event ∈ request.events) :
    Text.Trimmed event.comment := by
  obtain ⟨file, -, hevent⟩ := List.mem_flatMap.1 h
  exact file.trimmed_of_mem_events hevent

theorem trimmed_of_lastComment? {place : CommentPlace} {comment : String}
    (h : lastComment? request.events place = some comment) : Text.Trimmed comment := by
  obtain ⟨event, hevent, -, rfl⟩ := exists_event_of_lastComment? h
  exact request.trimmed_of_mem_events hevent

/-- All comments in a registry that was empty before are comments of events. -/
theorem trimmed_of_mem_comments {name comment : String}
    (h : comment ∈ ((request.findDocs Registry.empty).2.docOf name).comments) :
    Text.Trimmed comment := by
  rcases List.mem_append.1 h with hsummary | hmember
  · split at hsummary
    · exact absurd hsummary List.not_mem_nil
    · rename_i hne
      rw [request.summary_findDocs Registry.wellFormed_empty] at hne hsummary
      cases hlast : lastComment? request.events ⟨name, none⟩ with
      | none => exact absurd (by rw [hlast]; rfl) hne
      | some last =>
          rw [hlast, Option.getD_some] at hsummary
          rw [List.mem_singleton.1 hsummary]
          exact request.trimmed_of_lastComment? hlast
  · obtain ⟨member, hin, rfl⟩ := List.mem_map.1 hmember
    rcases request.comment_of_mem_findDocs Registry.wellFormed_empty
      Registry.distinctMembers_empty hin with hlast | ⟨-, hbefore⟩
    · exact request.trimmed_of_lastComment? hlast
    · exact absurd hbefore List.not_mem_nil

/-- The place of an event holds a comment, so that its document has one. -/
theorem comments_ne_nil {event : Finding} (h : event ∈ request.events) :
    ((request.findDocs Registry.empty).2.docOf event.target.className).comments ≠ [] := by
  have hcomment := request.commentAt_findDocs Registry.wellFormed_empty event.target.place
  obtain ⟨comment, hlast⟩ := exists_lastComment?_of_mem h
  rw [hlast, Option.some_or, Registry.commentAt] at hcomment
  intro hnone
  rw [ClassDoc.comments, List.append_eq_nil_iff] at hnone
  obtain ⟨hsummary, hmembers⟩ := hnone
  cases hplace : event.target.place.memberName? with
  | none =>
      rw [hplace, ClassDoc.commentAt, Option.some.injEq] at hcomment
      split at hsummary
      · rename_i hempty
        exact (request.trimmed_of_lastComment? hlast).ne_empty (hcomment.symm.trans hempty)
      · exact absurd hsummary (List.cons_ne_nil _ _)
  | some memberName =>
      rw [hplace] at hcomment
      have hmember := ClassDoc.mem_of_member? hcomment
      rw [List.map_eq_nil_iff] at hmembers
      exact absurd (hmembers ▸ hmember) List.not_mem_nil

/-- The result of a search and the registry that it has filled agree.  The result has an entry for
each requested file with an event, and in it the classes of these events, each once and by its
registered handle.  The registry holds the listed classes and no others, in the order of the
result, and every listed document has comments, none of them blank or with blanks at its end. -/
theorem listing_agrees_with_registry (request : GenerateRequest) :
    let docs := (request.findDocs Registry.empty).1
    let found := (request.findDocs Registry.empty).2
    docs.map FileDocs.listing =
        ((request.wantedFiles.filter fun file => !file.events.isEmpty).map fun file =>
          (file.nameText, file.classesTold)) ∧
      (∀ entry ∈ docs, (entry.handles.map Handle.name).Nodup ∧
        ∀ handle ∈ entry.handles, found.get? handle.name = some handle) ∧
      found.names = (docs.flatMap fun entry => entry.handles.map Handle.name).eraseDups ∧
      ∀ entry ∈ docs, ∀ handle ∈ entry.handles,
        (found.document handle).isUndocumented = false ∧
          ∀ comment ∈ (found.document handle).comments, Text.Trimmed comment := by
  intro docs found
  have hlistings : docs.map FileDocs.listing = _ :=
    listings_recordFiles Registry.empty request.wantedFiles
  have hfinds := request.finds_findDocs Registry.wellFormed_empty
  have hregistered : ∀ entry ∈ docs, ∀ handle ∈ entry.handles, handle ∈ found.handles :=
    fun entry hentry handle hhandle =>
      hfinds.registered handle (List.mem_flatMap.2 ⟨entry, hentry, hhandle⟩)
  refine ⟨hlistings, ?_, ?_, ?_⟩
  · intro entry hentry
    refine ⟨?_, fun handle hhandle =>
      hfinds.wellFormed.get?_eq (hregistered entry hentry handle hhandle)⟩
    have hlisting : entry.listing ∈ docs.map FileDocs.listing := List.mem_map_of_mem hentry
    rw [hlistings] at hlisting
    obtain ⟨file, -, hfile⟩ := List.mem_map.1 hlisting
    rw [show entry.handles.map Handle.name = file.classesTold from (Prod.mk.inj hfile).2.symm]
    exact nodup_eraseDups _
  · rw [request.names_listed, ← foldl_addNew_nil, foldl_addNew_classesTold]
    exact request.names_findDocs Registry.empty
  · intro entry hentry handle hhandle
    have hdoc := hfinds.wellFormed.docOf_name (hregistered entry hentry handle hhandle)
    have htrimmed : ∀ comment ∈ (found.document handle).comments, Text.Trimmed comment := by
      intro comment hcomment
      rw [← hdoc] at hcomment
      exact request.trimmed_of_mem_comments hcomment
    obtain ⟨file, hfile, -, hfindings⟩ := exists_of_mem_recordFiles hentry
    obtain ⟨finding, hfinding, hclass⟩ := hfindings handle hhandle
    rw [findings_eq_events] at hfinding
    have hevent : finding ∈ request.events := List.mem_flatMap.2 ⟨file, hfile, hfinding⟩
    have hne := request.comments_ne_nil hevent
    rw [← hclass, hdoc] at hne
    obtain ⟨comment, hcomment⟩ := List.exists_mem_of_ne_nil _ hne
    exact ⟨ClassDoc.isUndocumented_eq_false hcomment (htrimmed comment hcomment).1, htrimmed⟩

end GenerateRequest

end SchemaDocs
