import SchemaDocs.Proofs.Docstring.Dedent
import SchemaDocs.Proofs.Markup.Link
import SchemaDocs.Proofs.Markup.SingleConversion
import SchemaDocs.Proofs.Response.Assembly
/-!
# Converters that change nothing

A batch puts line feeds and separators between comments, cuts them apart again and puts spaces in
front of their lines.  If its converter returns the text that it is given, nothing of that can be
seen in an answer: it is as if the links of each comment had been replaced and nothing else done.
-/

namespace SchemaDocs

open Docstring Markup

theorem eq_of_flatMap_eq {α β : Type} {f g : α → List β} {items : List α}
    (hlength : ∀ item ∈ items, (f item).length = (g item).length)
    (h : items.flatMap f = items.flatMap g) : ∀ item ∈ items, f item = g item := by
  induction items with
  | nil => exact fun _ hmem => absurd hmem List.not_mem_nil
  | cons first rest ih =>
      rw [List.forall_mem_cons] at hlength ⊢
      rw [List.flatMap_cons, List.flatMap_cons] at h
      obtain ⟨hfirst, hrest⟩ := List.append_inj h hlength.1
      exact ⟨hfirst, ih hlength.2 hrest⟩

/-- A document with the links of its comments replaced. -/
def ClassDoc.withLinks (host : String) (doc : ClassDoc) : ClassDoc :=
  { doc.mapComments (replaceLinks host) with summary := replaceLinks host doc.summary }

/-- A registry with the links of all comments replaced. -/
def Registry.withLinks (host : String) (registry : Registry) : Registry :=
  { registry with documents := registry.documents.map (ClassDoc.withLinks host) }

theorem Markup.replaceLinks_empty (host : String) : replaceLinks host "" = "" :=
  replaceLinks_of_not_needs rfl host

@[simp] theorem Registry.document_withLinks (host : String) (registry : Registry)
    (handle : Handle) :
    (registry.withLinks host).document handle = (registry.document handle).withLinks host := by
  rw [document, document, withLinks, List.getElem?_map]
  cases registry.documents[handle.index]? with
  | none => simp [ClassDoc.withLinks, ClassDoc.mapComments, ClassDoc.empty, replaceLinks_empty]
  | some doc => rfl

/-! ## Comments through a batch -/

namespace Batch

/-- A text that an unchanging converter leaves as it is: if it waits for conversion at all, it does
not hold the separator, and no line behind a line feed begins with a carriage return unless it is
blank. -/
def Transparent (text : String) : Prop :=
  needsConversion text = true → ¬ HoldsToken text ∧ FreeOfReturns text.toList

/-- A comment that comes back as its own part of a batch is set as it would be without the batch. -/
theorem map_dedent_restored_parts {comments : List String}
    (h : ∀ comment ∈ comments, Transparent comment) :
    (restored comments (parts (waiting comments))).map dedent = comments.map dedent := by
  apply List.ext_getElem?
  intro i
  rw [List.getElem?_map, List.getElem?_map]
  cases hi : comments[i]? with
  | none =>
      have hout : comments.length ≤ i := List.getElem?_eq_none_iff.1 hi
      rw [List.getElem?_eq_none (by rwa [length_restored])]
  | some comment =>
      rw [getElem?_restored (length_parts _) hi]
      by_cases hneeds : needsConversion comment = true
      · obtain ⟨-, hfree⟩ := h comment (List.mem_of_getElem? hi) hneeds
        rw [if_pos hneeds, getElem?_parts, getElem?_waiting hi hneeds]
        simp only [Option.map_some, Option.some.injEq]
        split
        · rw [dedent_insertSpaces (freeOfReturns_append_feed hfree), dedent_append_feed]
        · exact dedent_insertSpaces hfree
      · rw [if_neg hneeds]

/-- An unchanging converter takes every batch of transparent texts, and each comes back so that it
is set as before. -/
theorem exists_remaining_of_transparent (settings : MarkupSettings) {comments : List String}
    (h : ∀ comment ∈ comments, Transparent comment) :
    ∃ converted texts, outcome (fun call => .ok call.text) settings comments = .ok converted ∧
      converted.Remaining texts ∧ texts.map dedent = comments.map dedent := by
  have hfree : ∀ comment ∈ waiting comments, ¬ HoldsToken comment := by
    intro comment hcomment
    obtain ⟨hmem, hneeds⟩ := List.mem_filter.1 hcomment
    exact (h comment hmem hneeds).1
  have hseparable : Separable fun text =>
      ConversionCall.text ⟨text, settings.sourceFormat, settings.targetFormat⟩ := separable_id
  obtain ⟨converted, hconverted⟩ := hseparable.outcome_ok_iff.2 hfree
  obtain ⟨pieces, hlength, hpieces, hremaining⟩ :=
    exists_remaining_of_outcome_ok _ settings comments hconverted
  have hparts : pieces = parts (waiting comments) := by
    by_cases hnone : waiting comments = []
    · rw [hnone, List.length_nil, List.length_eq_zero_iff] at hlength
      rw [hnone, hlength, parts]
    · obtain ⟨output, houtput, rfl⟩ := hpieces hnone
      rw [← Except.ok.inj houtput, callFor, piecesOf_joined hnone hfree]
  refine ⟨converted, _, hconverted, hremaining, ?_⟩
  rw [hparts, map_dedent_restored_parts h]

end Batch

namespace Response

/-! ## Documents read back -/

/-- A document whose comments were replaced by texts that are set like its comments with replaced
links is set like the document with replaced links. -/
theorem setAlike_withLinks {raw after : ClassDoc} {host : String} (h : raw.Recomments after)
    (htexts : (raw.textsAt after).map dedent =
      (raw.comments.map (replaceLinks host)).map dedent) :
    SetAlike after (raw.withLinks host) := by
  rw [ClassDoc.textsAt, ClassDoc.comments, List.map_append, List.map_append, List.map_append]
    at htexts
  obtain ⟨hsummary, hcomments⟩ := List.append_inj htexts (by
    simp only [List.length_map]
    split <;> rfl)
  refine ⟨h.name, ?_, ?_⟩
  · by_cases hnone : raw.summary = ""
    · rw [h.summary hnone, ClassDoc.withLinks, hnone, replaceLinks_empty]
    · rw [if_neg hnone, if_neg hnone] at hsummary
      exact List.singleton_inj.1 hsummary
  · have hpairs : ∀ members : List Member,
        (members.map fun member => (member.name, dedent member.comment)) =
          (members.map Member.name).zip ((members.map Member.comment).map dedent) := by
      intro members
      rw [List.map_map, List.zip_map']
      rfl
    have hnames : (raw.withLinks host).members.map Member.name = raw.members.map Member.name := by
      simp [ClassDoc.withLinks, ClassDoc.mapComments]
    have hlinks : (raw.withLinks host).members.map Member.comment =
        (raw.members.map Member.comment).map (replaceLinks host) := by
      simp [ClassDoc.withLinks, ClassDoc.mapComments]
    rw [hpairs, hpairs, hnames, hlinks, h.members, hcomments]

/-- Documents that are set alike give the same piece of code. -/
theorem generatedFile?_congr {a b : ClassDoc} (h : SetAlike a b) (moduleName : String) :
    generatedFile? moduleName a = generatedFile? moduleName b := by
  rw [generatedFile?, generatedFile?, h.isUndocumented_eq, h.name, render, render, h.body_eq]

theorem ofDocs_congr {a b : Registry} {docs : List FileDocs} (config : Config)
    (h : ∀ handle ∈ docs.flatMap FileDocs.handles,
      SetAlike (a.document handle) (b.document handle)) :
    ofDocs config a docs = ofDocs config b docs := by
  have hfiles :
      docs.flatMap (generatedFiles config a) = docs.flatMap (generatedFiles config b) := by
    apply List.flatMap_congr
    intro doc hdoc
    apply List.filterMap_congr
    intro handle hhandle
    exact generatedFile?_congr (h handle (List.mem_flatMap.2 ⟨doc, hdoc, hhandle⟩)) _
  rw [ofDocs, ofDocs, hfiles]

/-! ## The whole answer -/

section

variable {before found : Registry} {docs : List FileDocs} {config : Config}
  (hfinds : Discovery.Finds before found (docs.flatMap FileDocs.handles))

include hfinds

/-- A batch that returns texts which are set like the comments with replaced links leads to the
answer for the documents with replaced links. -/
theorem concluded_of_map_dedent {texts : List String} {last : Batch} (hlast : last.Remaining texts)
    (htexts : texts.map dedent = ((commentsOf found (distinctHandles docs)).map
      (replaceLinks config.docsHost)).map dedent) :
    concluded config found docs (.ok last) =
      .ok (ofDocs config (found.withLinks config.docsHost) docs) := by
  have hlength : texts.length = (commentsOf found (distinctHandles docs)).length := by
    simpa using congrArg List.length htexts
  obtain ⟨after, done, -, -, hshapes, hat, hanswer⟩ :=
    concluded_of_remaining hfinds config hlast hlength
  rw [hanswer]
  apply congrArg
  apply ofDocs_congr
  -- the texts of each document follow from those of all, as their numbers agree
  have heach : ∀ handle ∈ distinctHandles docs,
      ((found.document handle).textsAt (after.document handle)).map dedent =
        ((found.document handle).comments.map (replaceLinks config.docsHost)).map dedent := by
    apply eq_of_flatMap_eq
    · intro handle hhandle
      have hmembers := congrArg List.length (hshapes handle hhandle).members
      rw [List.length_map, List.length_map] at hmembers
      simp only [List.length_map, ClassDoc.textsAt, ClassDoc.comments, List.length_append, hmembers]
      split <;> rfl
    · rw [← List.map_flatMap, hat, htexts, commentsOf, List.map_flatMap, List.map_flatMap]
  intro handle hhandle
  have hmem : handle ∈ distinctHandles docs := by
    rwa [distinctHandles_eq hfinds, List.mem_eraseDups]
  rw [Registry.document_withLinks]
  exact setAlike_withLinks (hshapes handle hmem) (heach handle hmem)

end

/-- An answer by a converter that returns what it is given is the answer for the found documents
with the links of each comment replaced, and nothing else done to them.  So what is inserted for a class
depends on the comments of that class alone.  This holds where no comment that waits for conversion
holds the separator, or has a line behind a line feed that begins with a carriage return and is not
blank. -/
theorem unchanging_converter_leaves_no_trace {m : Type → Type} [Monad m] [LawfulMonad m]
    (config : Config) (request : GenerateRequest)
    (h : ∀ handle ∈ (request.findDocs Registry.empty).1.flatMap FileDocs.handles,
      ∀ comment ∈ ((request.findDocs Registry.empty).2.document handle).comments,
        let text := replaceLinks config.docsHost comment
        needsConversion text = true → ¬ Batch.HoldsToken text ∧
          ∀ line ∈ (Text.splitAt '\n' text.toList).tail,
            line.head? = some '\r' → Text.allBlank line = true) :
    let docs := (request.findDocs Registry.empty).1
    let found := (request.findDocs Registry.empty).2
    let response := ofDocs config (found.withLinks config.docsHost) docs
    assemble (fun call => (pure (.ok call.text) : m ConversionAnswer)) config request =
        pure (.ok response) ∧
      ∀ file ∈ response.files, ∃ handle ∈ docs.flatMap FileDocs.handles,
        file.insertionPoint = some ("class_scope:" ++ handle.name) ∧
        file.content = some (render ((found.document handle).withLinks config.docsHost)) := by
  intro docs found response
  have hfinds : Discovery.Finds Registry.empty found (docs.flatMap FileDocs.handles) :=
    request.finds_findDocs Registry.wellFormed_empty
  let rewritten := (commentsOf found (distinctHandles docs)).map (replaceLinks config.docsHost)
  have htransparent : ∀ comment ∈ rewritten, Batch.Transparent comment := by
    intro text htext
    obtain ⟨comment, hcomment, rfl⟩ := List.mem_map.1 htext
    obtain ⟨handle, hhandle, hmem⟩ := List.mem_flatMap.1 hcomment
    rw [distinctHandles_eq hfinds, List.mem_eraseDups] at hhandle
    exact h handle hhandle comment hmem
  obtain ⟨converted, texts, houtcome, hremaining, htexts⟩ :=
    Batch.exists_remaining_of_transparent config.markup htransparent
  refine ⟨?_, ?_⟩
  · have hconverted : concluded config found docs (.ok converted) = .ok response :=
      concluded_of_map_dedent hfinds hremaining htexts
    rw [assemble_eq, Batch.convertAll_filled_pure, pure_bind, houtcome, hconverted]
  · intro file hfile
    have hnames : ∀ handle ∈ docs.flatMap FileDocs.handles,
        ((found.withLinks config.docsHost).document handle).name = handle.name := by
      intro handle hhandle
      rw [Registry.document_withLinks]
      exact hfinds.wellFormed.name_document (hfinds.registered handle hhandle)
    obtain ⟨doc, hdoc, handle, hhandle, -, hpoint, hcontent⟩ := generatedFile_of_mem hnames hfile
    rw [Registry.document_withLinks] at hcontent
    exact ⟨handle, List.mem_flatMap.2 ⟨doc, hdoc, hhandle⟩, hpoint, hcontent⟩

/-- Two comments that are both converted, one with breaks of two characters and an indented list. -/
theorem list_and_member_through_unchanging_converter :
    let request : GenerateRequest :=
      { filesToGenerate := ["foo.proto"]
        files :=
          [{ name := some "foo.proto"
             messages := [{ name := some "Foo", fields := [{ name := some "size" }] }]
             sourceInfo := some
               ⟨[{ path := [4, 0], leading := some " A *list*:\r\n\r\n   - [one][]\r\n" },
                 { path := [4, 0, 2, 0], trailing := some "\tIn `bytes`,\n\t  not in words.\n" }]⟩ }] }
    ((assemble (fun call => (pure (.ok call.text) : Id ConversionAnswer)) {} request).run.toOption
      |>.map fun response => response.files.map GeneratedFile.content) =
        some [some (",'__doc__': \"\"\"A *list*:\n\n  - `one`\n\nAttributes:\n    size:\n"
          ++ "        In `bytes`,\n          not in words.\n\"\"\"\n")] := by
  intro request
  have hanswer := (unchanging_converter_leaves_no_trace (m := Id) {} request (by decide +kernel)).1
  rw [hanswer]
  decide +kernel

end Response

end SchemaDocs
