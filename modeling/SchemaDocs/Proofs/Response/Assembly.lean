import SchemaDocs.Proofs.Discovery.Handles
import SchemaDocs.Proofs.Markup.Conversion
import SchemaDocs.Proofs.Response.ReadBack
/-!
# Answers from one batch

An answer is made from the texts that one batch of all comments returns.  It fails
where that batch fails, and in no other way.
-/

namespace SchemaDocs.Response

open SchemaDocs.Markup

/-! ## The documents of a request -/

theorem distinctHandles_eq {before after : Registry} {docs : List FileDocs}
    (h : Discovery.Finds before after (docs.flatMap FileDocs.handles)) :
    distinctHandles docs = (docs.flatMap FileDocs.handles).eraseDups := by
  rw [distinctHandles, Discovery.foldl_addHandle]
  · exact foldl_addNew_nil _
  · intro a ha b hb hname
    rw [List.nil_append] at ha hb
    exact h.wellFormed.eq_of_name_eq (h.registered a ha) (h.registered b hb) hname

section

variable {registry : Registry} (hw : registry.WellFormed) {handles : List Handle}
  (hregistered : ∀ handle ∈ handles, handle ∈ registry.handles)

include hw hregistered

theorem nodup_names_eraseDups : (handles.eraseDups.map Handle.name).Nodup := by
  apply (nodup_eraseDups handles).map_on
  intro a ha b hb hname
  rw [List.mem_eraseDups] at ha hb
  exact hw.eq_of_name_eq (hregistered a ha) (hregistered b hb) hname

theorem nodup_indices_eraseDups : (handles.eraseDups.map Handle.index).Nodup := by
  apply (nodup_eraseDups handles).map_on
  intro a ha b hb hindex
  rw [List.mem_eraseDups] at ha hb
  exact hw.eq_of_index_eq (hregistered a ha) (hregistered b hb) hindex

end

/-! ## What an answer is made from -/

/-- The answer for the outcome of a conversion of the comments of found documents. -/
def concluded (config : Config) (registry : Registry) (docs : List FileDocs)
    (outcome : Except BatchError Batch) : Except RunError GenerateResponse :=
  match outcome with
  | .error cause => .error (.conversion cause)
  | .ok batch =>
    match readComments registry (distinctHandles docs) batch with
    | .error cause => .error (.conversion cause)
    | .ok (after, _) => .ok (ofDocs config after docs)

theorem convertComments_eq {m : Type → Type} [Monad m] [LawfulMonad m] (convert : Converter m)
    (settings : MarkupSettings) (registry : Registry) (handles : List Handle) :
    convertComments convert settings registry handles =
      (Batch.filled settings
          ((commentsOf registry handles).map (replaceLinks settings.host))).convertAll convert >>=
        fun outcome => pure (outcome.bind fun batch =>
          (readComments registry handles batch).map Prod.fst) := by
  rw [convertComments, Batch.submitAll_new]
  apply bind_congr
  intro outcome
  cases outcome <;> rfl

theorem assemble_eq {m : Type → Type} [Monad m] [LawfulMonad m] (convert : Converter m)
    (config : Config) (request : GenerateRequest) :
    let docs := (request.findDocs Registry.empty).1
    let found := (request.findDocs Registry.empty).2
    assemble convert config request =
      (Batch.filled config.markup
          ((commentsOf found (distinctHandles docs)).map
            (replaceLinks config.docsHost))).convertAll convert >>=
        fun outcome => pure (concluded config found docs outcome) := by
  intro docs found
  rw [assemble]
  dsimp only
  rw [convertComments_eq, bind_assoc]
  apply bind_congr
  intro outcome
  rw [pure_bind]
  cases outcome with
  | error cause => rfl
  | ok batch =>
      simp only [Except.bind, concluded, found, docs]
      cases readComments _ _ batch <;> rfl

theorem assemble_logged (rule : ConversionCall → ConversionAnswer) (config : Config)
    (request : GenerateRequest) :
    let docs := (request.findDocs Registry.empty).1
    let found := (request.findDocs Registry.empty).2
    let batch := Batch.filled config.markup
      ((commentsOf found (distinctHandles docs)).map (replaceLinks config.docsHost))
    (assemble (Converter.logged rule) config request).run [] =
      (concluded config found docs ((batch.convertAll (Converter.logged rule)).run []).1,
        ((batch.convertAll (Converter.logged rule)).run []).2) := by
  intro docs found batch
  rw [assemble_eq]
  rfl

/-! ## The pieces of code -/

theorem eq_of_insertionPoint_eq {a b : String}
    (h : Docstring.insertionPoint a = Docstring.insertionPoint b) : a = b := by
  have hchars := congrArg String.toList h
  rw [Docstring.insertionPoint, Docstring.insertionPoint, String.toList_append,
    String.toList_append] at hchars
  exact String.toList_inj.1 (List.append_cancel_left hchars)

section

variable {config : Config} {registry : Registry} {docs : List FileDocs}
  (hnames : ∀ handle ∈ docs.flatMap FileDocs.handles,
    (registry.document handle).name = handle.name)

include hnames

theorem generatedFile_of_mem {file : GeneratedFile}
    (h : file ∈ (ofDocs config registry docs).files) :
    ∃ doc ∈ docs, ∃ handle ∈ doc.handles, file.name = some (config.moduleName doc.fileName) ∧
      file.insertionPoint = some (Docstring.insertionPoint handle.name) ∧
      file.content = some (render (registry.document handle)) := by
  obtain ⟨doc, hdoc, hfile⟩ := List.mem_flatMap.1 h
  obtain ⟨handle, hhandle, hsome⟩ := List.mem_filterMap.1 hfile
  have hmem : handle ∈ docs.flatMap FileDocs.handles := List.mem_flatMap.2 ⟨doc, hdoc, hhandle⟩
  refine ⟨doc, hdoc, handle, hhandle, ?_⟩
  rw [generatedFile?] at hsome
  split at hsome
  · simp at hsome
  · rw [← Option.some.inj hsome, hnames handle hmem]
    exact ⟨rfl, rfl, rfl⟩

/-- Code for one class is the same in whatever file it goes to. -/
theorem content_eq_of_insertionPoint_eq
    (hdistinct : ∀ a ∈ docs.flatMap FileDocs.handles, ∀ b ∈ docs.flatMap FileDocs.handles,
      a.name = b.name → a = b)
    {a b : GeneratedFile} (ha : a ∈ (ofDocs config registry docs).files)
    (hb : b ∈ (ofDocs config registry docs).files) (hpoint : a.insertionPoint = b.insertionPoint) :
    a.content = b.content := by
  obtain ⟨xdoc, hxdoc, x, hx, -, hxpoint, hxcontent⟩ := generatedFile_of_mem hnames ha
  obtain ⟨ydoc, hydoc, y, hy, -, hypoint, hycontent⟩ := generatedFile_of_mem hnames hb
  rw [hxpoint, hypoint, Option.some.injEq] at hpoint
  rw [hxcontent, hycontent, hdistinct x (List.mem_flatMap.2 ⟨xdoc, hxdoc, hx⟩) y
    (List.mem_flatMap.2 ⟨ydoc, hydoc, hy⟩) (eq_of_insertionPoint_eq hpoint)]

end

/-! ## From a batch to an answer -/

/-- Once a batch returns a text for each comment of the found documents, all of them are read, and
nothing fails any more. -/
theorem concluded_of_remaining {before found : Registry} {docs : List FileDocs}
    (hfinds : Discovery.Finds before found (docs.flatMap FileDocs.handles)) (config : Config)
    {texts : List String} {last : Batch} (hlast : last.Remaining texts)
    (hlength : texts.length = (commentsOf found (distinctHandles docs)).length) :
    ∃ after done, readComments found (distinctHandles docs) last = .ok (after, done) ∧
      done.next = .ok (none, done) ∧
      (∀ handle ∈ distinctHandles docs,
        (found.document handle).Recomments (after.document handle)) ∧
      ((distinctHandles docs).flatMap fun handle =>
        (found.document handle).textsAt (after.document handle)) = texts ∧
      concluded config found docs (.ok last) = .ok (ofDocs config after docs) := by
  have hhandles := distinctHandles_eq hfinds
  have hdistinct := nodup_indices_eraseDups hfinds.wellFormed hfinds.registered
  rw [← hhandles] at hdistinct
  have hpresent : ∀ handle ∈ distinctHandles docs, handle.index < found.documents.length := by
    intro handle hmem
    rw [hhandles, List.mem_eraseDups] at hmem
    exact hfinds.wellFormed.index_lt (hfinds.registered handle hmem)
  rw [← List.append_nil texts] at hlast
  obtain ⟨after, done, hread, hdone, hshapes, htexts, -⟩ :=
    readComments_of_remaining hlast hlength hdistinct hpresent
  refine ⟨after, done, hread, hdone.next_nil, hshapes, htexts, ?_⟩
  rw [concluded, hread]

/-- A successful answer is made of the documents of the found classes after the conversion of their
comments, and these keep their names. -/
theorem exists_of_assemble_ok {config : Config} {request : GenerateRequest}
    {rule : ConversionCall → ConversionAnswer} {response : GenerateResponse}
    {calls : List ConversionCall}
    (h : (assemble (Converter.logged rule) config request).run [] = (.ok response, calls)) :
    let docs := (request.findDocs Registry.empty).1
    let found := (request.findDocs Registry.empty).2
    ∃ after, (convertComments (Converter.logged rule) config.markup found
        (distinctHandles docs)).run [] = (.ok after, calls) ∧
      response = ofDocs config after docs ∧
      ∀ handle ∈ docs.flatMap FileDocs.handles, (after.document handle).name = handle.name := by
  intro docs found
  have hfinds : Discovery.Finds Registry.empty found (docs.flatMap FileDocs.handles) :=
    request.finds_findDocs Registry.wellFormed_empty
  let rewritten := (commentsOf found (distinctHandles docs)).map (replaceLinks config.docsHost)
  have hlogged := Batch.convertAll_filled_logged rule config.markup rewritten
  have hrun := assemble_logged rule config request
  dsimp only at hrun
  rw [hlogged, h, Prod.mk.injEq] at hrun
  obtain ⟨hresult, hcalls⟩ := hrun
  have hconvert : (convertComments (Converter.logged rule) config.markup found
      (distinctHandles docs)).run [] =
        ((Batch.outcome rule config.markup rewritten).bind fun batch =>
          (readComments found (distinctHandles docs) batch).map Prod.fst, calls) := by
    rw [convertComments_eq, StateT.run_bind, hcalls]
    exact congrArg (fun run : Except BatchError Batch × List ConversionCall =>
      (run.1.bind fun batch => (readComments found (distinctHandles docs) batch).map Prod.fst,
        run.2)) hlogged
  cases houtcome : Batch.outcome rule config.markup rewritten with
  | error cause =>
      rw [houtcome, concluded] at hresult
      simp at hresult
  | ok converted =>
      obtain ⟨pieces, -, -, hremaining⟩ :=
        Batch.exists_remaining_of_outcome_ok rule config.markup rewritten houtcome
      obtain ⟨after, done, hread, -, hshapes, -, hanswer⟩ :=
        concluded_of_remaining hfinds config hremaining
          (by rw [Batch.length_restored, List.length_map])
      rw [houtcome, hanswer, Except.ok.injEq] at hresult
      rw [houtcome, Except.bind, hread] at hconvert
      refine ⟨after, hconvert, hresult, ?_⟩
      intro handle hmem
      have hdistinct : handle ∈ distinctHandles docs := by
        rwa [distinctHandles_eq hfinds, List.mem_eraseDups]
      rw [(hshapes handle hdistinct).name,
        hfinds.wellFormed.name_document (hfinds.registered handle hmem)]

/-- A run of which something is known to come out has succeeded. -/
theorem exists_of_toOption_map {α : Type}
    {run : Except RunError GenerateResponse × List ConversionCall} {f : GenerateResponse → α}
    {value : α} (h : run.1.toOption.map f = some value) :
    ∃ response calls, run = (.ok response, calls) ∧ f response = value := by
  obtain ⟨outcome, calls⟩ := run
  cases outcome with
  | error failure => simp [Except.toOption] at h
  | ok response => exact ⟨response, calls, rfl, by simpa [Except.toOption] using h⟩

/-- An answer is made from the comments of the found classes, each class once and in the order in
which classes first appear.  It fails exactly where the conversion of these comments fails.  Else
the texts that come back stand in the places of the comments, one for one. -/
theorem answer_holds_each_comment_converted_once (config : Config) (request : GenerateRequest)
    (rule : ConversionCall → ConversionAnswer) :
    let docs := (request.findDocs Registry.empty).1
    let found := (request.findDocs Registry.empty).2
    let handles := (docs.flatMap FileDocs.handles).eraseDups
    let comments := handles.flatMap fun handle => (found.document handle).comments
    ∃ batch outcome calls result,
      (Batch.new config.markup).submitAll comments = .ok batch ∧
      (batch.convertAll (Converter.logged rule)).run [] = (outcome, calls) ∧
      (assemble (Converter.logged rule) config request).run [] = (result, calls) ∧
      (handles.map Handle.name).Nodup ∧
      (∀ failure, result = .error failure ↔
        ∃ cause, outcome = .error cause ∧ failure = .conversion cause) ∧
      (∀ cause, outcome = .error cause → (∃ reason, cause = .convert reason) ∨
        ∃ expected actual, cause = .pieceCountMismatch expected actual) ∧
      (∀ converted, outcome = .ok converted → ∃ texts after done response,
        converted.Returns texts ∧ texts.length = comments.length ∧
        readComments found handles converted = .ok (after, done) ∧
        done.next = .ok (none, done) ∧
        (handles.flatMap fun handle =>
          (found.document handle).textsAt (after.document handle)) = texts ∧
        (∀ handle ∈ handles, (found.document handle).name = handle.name ∧
          (found.document handle).Recomments (after.document handle)) ∧
        result = .ok response ∧ response.error = none ∧
        response.supportedFeatures = some supportedFeatures ∧
        (response.files = docs.flatMap fun file => file.handles.filterMap fun handle =>
          if (after.document handle).isUndocumented then none
          else some ⟨some (config.moduleName file.fileName),
            some ("class_scope:" ++ handle.name),
            some (Docstring.classEntry (Docstring.body (after.document handle)))⟩) ∧
        ∀ a ∈ response.files, ∀ b ∈ response.files,
          a.insertionPoint = b.insertionPoint → a.content = b.content) := by
  intro docs found handles comments
  have hfinds : Discovery.Finds Registry.empty found (docs.flatMap FileDocs.handles) :=
    request.finds_findDocs Registry.wellFormed_empty
  have hhandles : distinctHandles docs = handles := distinctHandles_eq hfinds
  have hcomments : commentsOf found (distinctHandles docs) = comments := by
    rw [hhandles, commentsOf]
  let rewritten := comments.map (replaceLinks config.docsHost)
  have hrun := assemble_logged rule config request
  dsimp only at hrun
  rw [show commentsOf _ (distinctHandles _) = comments from hcomments] at hrun
  have hlogged := Batch.convertAll_filled_logged rule config.markup rewritten
  rw [hlogged] at hrun
  -- what is read back from the batch, if it was converted at all
  have hread : ∀ converted, Batch.outcome rule config.markup rewritten = .ok converted →
      ∃ texts, converted.Remaining texts ∧ texts.length = comments.length := by
    intro converted hconverted
    obtain ⟨pieces, -, -, hremaining⟩ :=
      Batch.exists_remaining_of_outcome_ok rule config.markup rewritten hconverted
    exact ⟨_, hremaining, by rw [Batch.length_restored, List.length_map]⟩
  refine ⟨Batch.filled config.markup rewritten, Batch.outcome rule config.markup rewritten, _,
    concluded config found docs (Batch.outcome rule config.markup rewritten),
    Batch.submitAll_new config.markup comments, hlogged, hrun,
    nodup_names_eraseDups hfinds.wellFormed hfinds.registered, ?_,
    fun cause => Batch.outcome_error rule config.markup rewritten, ?_⟩
  · intro failure
    cases houtcome : Batch.outcome rule config.markup rewritten with
    | error cause => simp [concluded, eq_comm]
    | ok converted =>
        obtain ⟨texts, hremaining, hlength⟩ := hread converted houtcome
        rw [← hcomments] at hlength
        obtain ⟨after, done, -, -, -, -, hanswer⟩ :=
          concluded_of_remaining hfinds config hremaining hlength
        simp [hanswer]
  · intro converted houtcome
    obtain ⟨texts, hremaining, hlength⟩ := hread converted houtcome
    obtain ⟨after, done, hdone, hend, hshapes, htexts, hanswer⟩ :=
      concluded_of_remaining hfinds config hremaining (hcomments ▸ hlength)
    rw [hhandles] at hdone hshapes htexts
    have hraw : ∀ handle ∈ docs.flatMap FileDocs.handles,
        (found.document handle).name = handle.name := fun handle hmem =>
      hfinds.wellFormed.name_document (hfinds.registered handle hmem)
    have hnames : ∀ handle ∈ docs.flatMap FileDocs.handles,
        (after.document handle).name = handle.name := by
      intro handle hmem
      rw [(hshapes handle (List.mem_eraseDups.2 hmem)).name, hraw handle hmem]
    refine ⟨texts, after, done, ofDocs config after docs, hremaining.returns, hlength, hdone, hend,
      htexts, fun handle hmem => ⟨hraw handle (List.mem_eraseDups.1 hmem), hshapes handle hmem⟩,
      by rw [houtcome, hanswer], rfl, rfl, ?_, ?_⟩
    · apply List.flatMap_congr
      intro file hfile
      apply List.filterMap_congr
      intro handle hhandle
      rw [generatedFile?, hnames handle (List.mem_flatMap.2 ⟨file, hfile, hhandle⟩)]
      rfl
    · intro a ha b hb
      apply content_eq_of_insertionPoint_eq hnames _ ha hb
      intro x hx y hy hname
      exact hfinds.wellFormed.eq_of_name_eq (hfinds.registered x hx) (hfinds.registered y hy) hname

end SchemaDocs.Response
