import SchemaDocs.Proofs.Docstring.Literal
import SchemaDocs.Proofs.Docstring.NormalForm
import SchemaDocs.Proofs.Response.Assembly
/-!
# Contents as literals

Every piece of code in an answer is the entry of one literal, and a reader of the literal finds
the body of the docstring of its class.  Neither comments nor what a converter makes of them can
end the literal earlier.  A class has no code if its body is empty, or if nothing stands in it but
a header and names.
-/

namespace SchemaDocs.Response

open SchemaDocs.Docstring

theorem render_injective {a b : ClassDoc} (h : render a = render b) : body a = body b :=
  classEntry_injective h

/-- The content of every piece of code is an entry with one literal.  The literal ends at its last
three quotes, whatever follows it, has no escapes but those of backslashes and of quotes, and
stands for the body of its class, with a line feed behind a body of several lines. -/
theorem contents_hold_one_literal_each {config : Config} {request : GenerateRequest}
    {rule : ConversionCall → ConversionAnswer} {response : GenerateResponse}
    {calls : List ConversionCall}
    (h : (assemble (Converter.logged rule) config request).run [] = (.ok response, calls)) :
    let docs := (request.findDocs Registry.empty).1
    let found := (request.findDocs Registry.empty).2
    ∃ after, (convertComments (Converter.logged rule) config.markup found
        (distinctHandles docs)).run [] = (.ok after, calls) ∧
      (∀ file ∈ response.files, ∃ handle ∈ docs.flatMap FileDocs.handles, ∃ literal parts,
        file.insertionPoint = some ("class_scope:" ++ handle.name) ∧
        file.content = some (render (after.document handle)) ∧
        render (after.document handle) = ",'__doc__':" ++ " " ++ literal ++ "\n" ∧
        (∀ rest, readLiteral? (literal.toList ++ rest) = some (parts, rest)) ∧
        (∀ c, LiteralPart.escape c ∈ parts → c = '\\' ∨ c = '"') ∧
        parts.map LiteralPart.meaning? =
          (let text := (body (after.document handle)).toList
          if '\n' ∈ text then text ++ ['\n'] else text).map some) ∧
      ∀ a b : ClassDoc, render a = render b → body a = body b := by
  intro docs found
  obtain ⟨after, hconvert, hresponse, hnames⟩ := exists_of_assemble_ok h
  refine ⟨after, hconvert, ?_, fun _ _ => render_injective⟩
  intro file hfile
  rw [hresponse] at hfile
  obtain ⟨doc, hdoc, handle, hhandle, -, hpoint, hcontent⟩ := generatedFile_of_mem hnames hfile
  have hread := readLiteral?_literal (body (after.document handle))
  refine ⟨handle, List.mem_flatMap.2 ⟨doc, hdoc, hhandle⟩,
    literal (body (after.document handle)), _, hpoint, hcontent, rfl, hread, ?_, ?_⟩
  · intro c hc
    obtain ⟨d, -, hd⟩ := List.mem_map.1 hc
    exact escape_eq_partOf hd
  · rw [List.map_map, terminated]
    simp only [Function.comp_def, meaning?_partOf, List.contains_iff_mem]

/-- A comment with quotes and backslashes at its end, through a converter that changes nothing. -/
theorem content_of_quotes_and_backslashes :
    let place : Location := { path := [4, 0], leading := some " *Ends* in \"\\\"\"\"\\\n" }
    let request : GenerateRequest :=
      { filesToGenerate := ["foo.proto"]
        files :=
          [{ name := some "foo.proto"
             messages := [{ name := some "Foo" }]
             sourceInfo := some ⟨[place]⟩ }] }
    ∃ response calls literal parts,
      (assemble (Converter.logged fun call => .ok call.text) {} request).run [] =
        (.ok response, calls) ∧
      response.files.map GeneratedFile.content = [some (",'__doc__':" ++ " " ++ literal ++ "\n")] ∧
      readLiteral? literal.toList = some (parts, []) ∧
      parts.map LiteralPart.meaning? = "*Ends* in \"\\\"\"\"\\".toList.map some := by
  intro place request
  have hcontents : ((assemble (Converter.logged fun call => .ok call.text) {} request).run
      []).1.toOption.map (fun response => response.files.map GeneratedFile.content) =
        some [some (render ⟨"Foo", "*Ends* in \"\\\"\"\"\\", []⟩)] := by
    decide +kernel
  obtain ⟨response, calls, hrun, hanswer⟩ := exists_of_toOption_map hcontents
  obtain ⟨after, -, hfiles, hinjective⟩ := contents_hold_one_literal_each hrun
  obtain ⟨file, hone, hcontent⟩ := List.map_eq_singleton_iff.1 hanswer
  obtain ⟨handle, -, literal, parts, -, hrender, hentry, hread, -, hmeaning⟩ :=
    hfiles file (by simp [hone])
  rw [hcontent, Option.some.injEq] at hrender
  have hbody := hinjective _ _ hrender.symm
  refine ⟨response, calls, literal, parts, hrun, ?_, ?_, ?_⟩
  · rw [hanswer, hrender, hentry]
  · simpa using hread []
  · rw [hmeaning, hbody]
    decide

end SchemaDocs.Response

/-! ## Classes without code -/

namespace SchemaDocs

open Text Docstring

/-- A class has members, and all their comments are blank as is its summary. -/
structure ClassDoc.BlankMembers (doc : ClassDoc) : Prop where
  members : doc.members ≠ []
  summary : allBlank doc.summary.toList = true
  comments : ∀ member ∈ doc.members, allBlank member.comment.toList = true

namespace ClassDoc

theorem blankMembers_iff {doc : ClassDoc} :
    doc.BlankMembers ↔ doc.members ≠ [] ∧ doc.isUndocumented = true := by
  rw [isUndocumented_iff]
  exact ⟨fun h => ⟨h.members, h.summary, h.comments⟩, fun h => ⟨h.1, h.2.1, h.2.2⟩⟩

instance (doc : ClassDoc) : Decidable doc.BlankMembers := decidable_of_iff _ blankMembers_iff.symm

end ClassDoc

namespace Docstring

theorem allBlank_dedentChars (s : List Char) : allBlank (dedentChars s) = allBlank s := by
  rw [Bool.eq_iff_iff, ← dedentChars_eq_nil_iff, dedentChars_dedentChars, dedentChars_eq_nil_iff]

theorem body_eq_empty_iff_allBlank (doc : ClassDoc) :
    body doc = "" ↔ allBlank (summaryChars doc ++ attributesChars doc.members) = true := by
  rw [← String.toList_inj, body, String.toList_ofList, String.toList_empty, bodyChars,
    trimEnd_eq_nil_iff]

/-- The header above the members is never trimmed away. -/
theorem body_ne_empty {doc : ClassDoc} (h : doc.members ≠ []) : body doc ≠ "" := by
  obtain ⟨member, members, hmembers⟩ := List.exists_cons_of_ne_nil h
  rw [Ne, body_eq_empty_iff_allBlank, hmembers, allBlank, List.all_append, Bool.and_eq_true]
  rintro ⟨-, hheader⟩
  cases hheader

theorem body_eq_empty_iff (doc : ClassDoc) :
    body doc = "" ↔ allBlank doc.summary.toList = true ∧ doc.members = [] := by
  by_cases hmembers : doc.members = []
  · have hsummary : summaryChars doc = dedentChars doc.summary.toList := by
      rw [summaryChars, hmembers]
      split
      · rename_i hnone
        exact hnone.symm
      · rfl
    rw [body_eq_empty_iff_allBlank, hsummary, hmembers, attributesChars, List.append_nil,
      allBlank_dedentChars, and_iff_left rfl]
  · exact iff_of_false (body_ne_empty hmembers) fun h => hmembers h.2

/-- A class without documentation has an empty body, unless it has members. -/
theorem isUndocumented_iff_body (doc : ClassDoc) :
    doc.isUndocumented = true ↔ body doc = "" ∨ doc.BlankMembers := by
  rw [body_eq_empty_iff, ClassDoc.blankMembers_iff, ClassDoc.isUndocumented_iff]
  by_cases hmembers : doc.members = []
  · simp [hmembers]
  · simp [hmembers]

end Docstring

namespace Response

/-- The body of a docstring is empty exactly where there is no documentation, but for a class with
members that are blank throughout: it has a body with a header and their names.  In an answer the
classes are left out that have an empty body after the conversion, and these with one. -/
theorem code_left_out_of_blank_classes {config : Config} {request : GenerateRequest}
    {rule : ConversionCall → ConversionAnswer} {response : GenerateResponse}
    {calls : List ConversionCall}
    (h : (assemble (Converter.logged rule) config request).run [] = (.ok response, calls)) :
    let docs := (request.findDocs Registry.empty).1
    let found := (request.findDocs Registry.empty).2
    (∀ doc : ClassDoc, (body doc = "" ↔ doc.isUndocumented = true) ↔ ¬ doc.BlankMembers) ∧
      (∀ doc : ClassDoc, doc.BlankMembers → body doc ≠ "" ∧ doc.isUndocumented = true) ∧
      ∃ after, (convertComments (Converter.logged rule) config.markup found
          (distinctHandles docs)).run [] = (.ok after, calls) ∧
        response.files = docs.flatMap fun entry => entry.handles.filterMap fun handle =>
          if body (after.document handle) = "" ∨ (after.document handle).BlankMembers then none
          else some ⟨some (config.moduleName entry.fileName),
            some ("class_scope:" ++ handle.name), some (render (after.document handle))⟩ := by
  intro docs found
  have hblank : ∀ doc : ClassDoc, doc.BlankMembers → body doc ≠ "" ∧ doc.isUndocumented = true :=
    fun doc hdoc => ⟨body_ne_empty hdoc.members, (isUndocumented_iff_body doc).2 (.inr hdoc)⟩
  obtain ⟨after, hconvert, rfl, hnames⟩ := exists_of_assemble_ok h
  refine ⟨fun doc => ⟨fun hsame hdoc => ?_, fun hdoc => ?_⟩, hblank, after, hconvert, ?_⟩
  · exact (hblank doc hdoc).1 (hsame.2 (hblank doc hdoc).2)
  · rw [isUndocumented_iff_body, or_iff_left hdoc]
  · refine List.flatMap_congr fun entry hentry => List.filterMap_congr fun handle hhandle => ?_
    have hname := hnames handle (List.mem_flatMap.2 ⟨entry, hentry, hhandle⟩)
    simp only [generatedFile?, isUndocumented_iff_body, hname]
    rfl

/-- Of two classes one has a field with a comment that is blank after the conversion.  It has a body,
and only the other has code. -/
theorem blank_field_left_out_of_code :
    let foo : MessageDescriptor := { name := some "Foo", fields := [{ name := some "bar" }] }
    let file : FileDescriptor :=
      { name := some "a.proto"
        messages := [foo, { name := some "Baz" }]
        sourceInfo := some ⟨[{ path := [4, 0, 2, 0], leading := some " *" },
          { path := [4, 1], leading := some " Plain." }]⟩ }
    let request : GenerateRequest := { filesToGenerate := ["a.proto"], files := [file] }
    ∃ response calls,
      (assemble (Converter.logged fun _ => .ok "\n") {} request).run [] = (.ok response, calls) ∧
      response.files.map GeneratedFile.insertionPoint = [some "class_scope:Baz"] ∧
      ∃ after, (convertComments (Converter.logged fun _ => .ok "\n") (Config.markup {})
          (request.findDocs Registry.empty).2
          (distinctHandles (request.findDocs Registry.empty).1)).run [] = (.ok after, calls) ∧
        (after.document ⟨0, "Foo"⟩).BlankMembers ∧ body (after.document ⟨0, "Foo"⟩) ≠ "" := by
  intro foo file request
  have hpoints : ((assemble (Converter.logged fun _ => .ok "\n") {} request).run
      []).1.toOption.map (fun response => response.files.map GeneratedFile.insertionPoint) =
        some [some "class_scope:Baz"] := by
    decide +kernel
  have hconverted : ((convertComments (Converter.logged fun _ => .ok "\n") (Config.markup {})
      (request.findDocs Registry.empty).2
      (distinctHandles (request.findDocs Registry.empty).1)).run
        []).1.toOption.map (fun after => after.document ⟨0, "Foo"⟩) =
          some ⟨"Foo", "", [⟨"bar", " \n"⟩]⟩ := by
    decide +kernel
  obtain ⟨response, calls, hrun, hfiles⟩ := exists_of_toOption_map hpoints
  obtain ⟨-, hempty, after, hafter, -⟩ := code_left_out_of_blank_classes hrun
  rw [hafter] at hconverted
  have hdocument : after.document ⟨0, "Foo"⟩ = ⟨"Foo", "", [⟨"bar", " \n"⟩]⟩ :=
    Option.some.inj hconverted
  have hblank : (after.document ⟨0, "Foo"⟩).BlankMembers := by
    rw [hdocument]
    decide
  exact ⟨response, calls, hrun, hfiles, after, hafter, hblank, (hempty _ hblank).1⟩

/-- A class with a blank comment on its one member has a body, although it has no documentation. -/
theorem blank_member_has_body :
    let doc : ClassDoc := ⟨"pkg.Foo", "", [⟨"bar", "  "⟩]⟩
    doc.isUndocumented = true ∧ body doc = "Attributes:\n    bar:" ∧
      ¬ (body doc = "" ↔ doc.isUndocumented = true) := by
  decide +kernel

end Response

end SchemaDocs
