import SchemaDocs.Proofs.Discovery.Documented
import SchemaDocs.Proofs.Discovery.Listing
import SchemaDocs.Proofs.Response.Assembly
/-!
# Insertion points

Every piece of code in an answer goes to the scope of a class that stands for a message declared
in the file it was found in, or for a member of mixed case of such a message.  A member is taken
for a nested message by the case of its name alone.  No two pieces go to one scope of one module.
-/

namespace SchemaDocs

open Discovery

/-- The class that an element documents is that of a declared message, unless a member of mixed
case is taken for one. -/
theorem FileDescriptor.Documents.className_declared {file : FileDescriptor} {path : List Int32}
    {target : Target} (h : file.Documents path target) :
    ∃ declaration ∈ file.declarations,
      target.className = fullName file.packageText declaration.names ∨
      ∃ member ∈ declaration.message.memberNames,
        member ≠ declaration.message.nameText ∧ Text.isMixedCase member = true ∧
        target.className = fullName file.packageText (declaration.names ++ [member]) := by
  cases h with
  | outermost hself => exact ⟨_, hself.mem_declarations, .inl rfl⟩
  | namesake houter _ _ _ => exact ⟨_, houter.mem_declarations, .inl rfl⟩
  | nested houter hstep hkind hname hmixed =>
      rcases hkind with hmessage | hmember
      · obtain ⟨inner, rfl⟩ := Element.exists_of_kind_message hmessage
        exact ⟨_, (houter.inner hstep).mem_declarations, .inl rfl⟩
      · have hmem := Element.name_mem_memberNames hstep hmember
        exact ⟨_, houter.mem_declarations, .inr ⟨_, hmem, hname, hmixed, rfl⟩⟩
  | member houter _ _ _ _ => exact ⟨_, houter.mem_declarations, .inl rfl⟩

namespace Response

/-- Where all names are legal, every piece of code goes to the module of a requested file, and
there to the scope of a message that this file declares, or of a member of such a message whose
name is of mixed case and not that of the message. -/
theorem insertion_points_follow_declarations {config : Config} {request : GenerateRequest}
    {rule : ConversionCall → ConversionAnswer} {response : GenerateResponse}
    {calls : List ConversionCall} (hlegal : ∀ file ∈ request.files, file.LegalNames)
    (h : (assemble (Converter.logged rule) config request).run [] = (.ok response, calls)) :
    ∀ generated ∈ response.files,
      ∃ file ∈ request.wantedFiles, ∃ declaration ∈ file.declarations,
        generated.name = some (config.moduleName file.nameText) ∧
        (generated.insertionPoint =
            some ("class_scope:" ++ fullName file.packageText declaration.names) ∨
          ∃ member ∈ declaration.message.memberNames,
            member ≠ declaration.message.nameText ∧ Text.isMixedCase member = true ∧
            generated.insertionPoint =
              some ("class_scope:" ++
                fullName file.packageText (declaration.names ++ [member]))) := by
  intro generated hgenerated
  obtain ⟨after, -, hresponse, hnames⟩ := exists_of_assemble_ok h
  rw [hresponse] at hgenerated
  obtain ⟨docs, hdocs, handle, hhandle, hmodule, hpoint, -⟩ :=
    generatedFile_of_mem hnames hgenerated
  obtain ⟨file, hfile, hfileName, hfindings⟩ := exists_of_mem_recordFiles hdocs
  obtain ⟨finding, hfinding, hclass⟩ := hfindings handle hhandle
  obtain ⟨location, -, hfound⟩ := List.mem_filterMap.1 hfinding
  have hdocuments := documents_of_resolveFile (hlegal file (List.mem_filter.1 hfile).1)
    (resolveFile_of_finding? hfound)
  rw [hfileName] at hmodule
  rw [Docstring.insertionPoint, hclass] at hpoint
  obtain ⟨declaration, hdeclared, hname⟩ := hdocuments.className_declared
  refine ⟨file, hfile, declaration, hdeclared, hmodule, ?_⟩
  rcases hname with hname | ⟨member, hmember, hne, hmixed, hname⟩
  · exact .inl (by rw [hpoint, hname])
  · exact .inr ⟨member, hmember, hne, hmixed, by rw [hpoint, hname]⟩

/-- Comments on a nested message, on its field and on a member of mixed case. -/
theorem insertion_points_of_nested_message :
    let bar : MessageDescriptor := { name := some "Bar", fields := [{ name := some "baz" }] }
    let foo : MessageDescriptor :=
      { name := some "Foo", fields := [{ name := some "fooBar" }], nested := [bar] }
    let file : FileDescriptor :=
      { name := some "foo.proto"
        package := some "pkg"
        messages := [foo]
        sourceInfo := some ⟨[{ path := [4, 0, 3, 0], leading := some "A nested message." },
          { path := [4, 0, 3, 0, 2, 0], leading := some "Its field." },
          { path := [4, 0, 2, 0], leading := some "A member." }]⟩ }
    let request : GenerateRequest := { filesToGenerate := ["foo.proto"], files := [file] }
    ∃ response calls,
      (∀ file ∈ request.files, file.LegalNames) ∧
      (assemble (Converter.logged fun call => .ok call.text) {} request).run [] =
        (.ok response, calls) ∧
      response.files.map GeneratedFile.insertionPoint =
        [some "class_scope:pkg.Foo.Bar", some "class_scope:pkg.Foo.fooBar"] ∧
      ∀ generated ∈ response.files, ∃ declaration ∈ file.declarations,
        generated.name = some "foo_pb2.py" ∧
        (generated.insertionPoint = some ("class_scope:" ++ fullName "pkg" declaration.names) ∨
          ∃ member ∈ declaration.message.memberNames,
            member ≠ declaration.message.nameText ∧ Text.isMixedCase member = true ∧
            generated.insertionPoint =
              some ("class_scope:" ++ fullName "pkg" (declaration.names ++ [member]))) := by
  intro bar foo file request
  have hlegal : ∀ file ∈ request.files, file.LegalNames := by decide +kernel
  have hpoints : ((assemble (Converter.logged fun call => .ok call.text) {} request).run
      []).1.toOption.map (fun response => response.files.map GeneratedFile.insertionPoint) =
        some [some "class_scope:pkg.Foo.Bar", some "class_scope:pkg.Foo.fooBar"] := by
    decide +kernel
  obtain ⟨response, calls, hrun, hanswer⟩ := exists_of_toOption_map hpoints
  refine ⟨response, calls, hlegal, hrun, hanswer, ?_⟩
  intro generated hgenerated
  obtain ⟨wanted, hwanted, declaration, hdeclared, hmodule, hpoint⟩ :=
    insertion_points_follow_declarations hlegal hrun generated hgenerated
  obtain rfl : wanted = file := List.mem_singleton.1 (List.mem_filter.1 hwanted).1
  have hname : Config.moduleName {} "foo.proto" = "foo_pb2.py" := by decide +kernel
  exact ⟨declaration, hdeclared, hmodule.trans (congrArg some hname), hpoint⟩

/-- Code for a field of mixed case goes to the scope of a class that stands for no message. -/
theorem mixed_case_field_taken_for_class :
    let foo : MessageDescriptor := { name := some "Foo", fields := [{ name := some "fooBar" }] }
    let file : FileDescriptor :=
      { name := some "foo.proto"
        package := some "pkg"
        messages := [foo]
        sourceInfo := some ⟨[{ path := [4, 0, 2, 0], leading := some "A field." }]⟩ }
    let request : GenerateRequest := { filesToGenerate := ["foo.proto"], files := [file] }
    (∀ file ∈ request.files, file.LegalNames) ∧
    ∃ response calls generated,
      (assemble (Converter.logged fun call => .ok call.text) {} request).run [] =
        (.ok response, calls) ∧
      response.files = [generated] ∧
      generated.insertionPoint = some "class_scope:pkg.Foo.fooBar" ∧
      ∀ file ∈ request.files, ∀ declaration ∈ file.declarations,
        generated.insertionPoint ≠
          some ("class_scope:" ++ fullName file.packageText declaration.names) := by
  intro foo file request
  refine ⟨by decide +kernel, ?_⟩
  have hpoints : ((assemble (Converter.logged fun call => .ok call.text) {} request).run
      []).1.toOption.map (fun response => response.files.map GeneratedFile.insertionPoint) =
        some [some "class_scope:pkg.Foo.fooBar"] := by
    decide +kernel
  obtain ⟨response, calls, hrun, hanswer⟩ := exists_of_toOption_map hpoints
  obtain ⟨generated, hone, hpoint⟩ := List.map_eq_singleton_iff.1 hanswer
  refine ⟨response, calls, generated, hrun, hone, hpoint, ?_⟩
  rw [hpoint]
  decide +kernel

end Response

/-! ## One piece for each place -/

namespace Config

theorem dropEnding_append (s ending : List Char) : dropEnding ending (s ++ ending) = s := by
  have hafter : Text.after? ending.reverse (s ++ ending).reverse = some s.reverse := by
    rw [Text.after?_eq_some_iff, List.reverse_append]
  rw [dropEnding, hafter]
  exact List.reverse_reverse s

/-- Schema files with different names have different modules, whatever their suffix is. -/
theorem eq_of_moduleName_eq {config : Config} {a b : String} (ha : schemaEnding <:+ a.toList)
    (hb : schemaEnding <:+ b.toList) (h : config.moduleName a = config.moduleName b) : a = b := by
  obtain ⟨astem, ha⟩ := ha
  obtain ⟨bstem, hb⟩ := hb
  have hchars := congrArg String.toList h
  rw [moduleName, moduleName, String.toList_append, String.toList_append] at hchars
  have hstems := List.append_cancel_right hchars
  rw [Text.toList_onChars, Text.toList_onChars, ← ha, ← hb, dropEnding_append,
    dropEnding_append] at hstems
  rw [← String.toList_inj, ← ha, ← hb, hstems]

end Config

namespace Response

/-- The module and the scope that code goes to, for a file and the name of a class. -/
def placeOf (config : Config) (pair : String × String) : Option String × Option String :=
  (some (config.moduleName pair.1), some (Docstring.insertionPoint pair.2))

section

variable {config : Config} {registry : Registry}

theorem sublist_places_generatedFiles {entry : FileDocs}
    (hnames : ∀ handle ∈ entry.handles, (registry.document handle).name = handle.name) :
    ((generatedFiles config registry entry).map fun file =>
      (file.name, file.insertionPoint)).Sublist
        ((listingPairs entry.listing).map (placeOf config)) := by
  obtain ⟨fileName, handles⟩ := entry
  rw [generatedFiles, FileDocs.listing, listingPairs, List.map_map, List.map_map]
  induction handles with
  | nil => exact List.Sublist.slnil
  | cons handle handles ih =>
      rw [List.forall_mem_cons] at hnames
      have hrest := ih hnames.2
      rw [List.filterMap_cons, generatedFile?, List.map_cons]
      split
      · exact hrest.cons _
      · rename_i file hsome
        split at hsome
        · cases hsome
        · rw [← Option.some.inj hsome, List.map_cons, hnames.1]
          exact hrest.cons_cons _

/-- Code goes to the places of listed classes, and to each not more often than it is listed. -/
theorem sublist_places_ofDocs {docs : List FileDocs}
    (hnames : ∀ handle ∈ docs.flatMap FileDocs.handles,
      (registry.document handle).name = handle.name) :
    ((ofDocs config registry docs).files.map fun file =>
      (file.name, file.insertionPoint)).Sublist
        ((docs.flatMap fun entry => listingPairs entry.listing).map (placeOf config)) := by
  rw [ofDocs, List.map_flatMap, List.map_flatMap]
  induction docs with
  | nil => exact List.Sublist.slnil
  | cons entry docs ih =>
      rw [List.flatMap_cons, List.forall_mem_append] at hnames
      rw [List.flatMap_cons, List.flatMap_cons]
      exact (sublist_places_generatedFiles hnames.1).append (ih hnames.2)

end

/-- Where the requested files have different names that end as those of schemas do, no two pieces
of code go to the scope of one class in one module. -/
theorem each_place_gets_one_piece {config : Config} {request : GenerateRequest}
    {rule : ConversionCall → ConversionAnswer} {response : GenerateResponse}
    {calls : List ConversionCall}
    (hnames : (request.wantedFiles.map FileDescriptor.nameText).Nodup)
    (hending : ∀ file ∈ request.wantedFiles, ".proto".toList <:+ file.nameText.toList)
    (h : (assemble (Converter.logged rule) config request).run [] = (.ok response, calls)) :
    (response.files.map fun file => (file.name, file.insertionPoint)).Nodup := by
  obtain ⟨after, -, rfl, hdocuments⟩ := exists_of_assemble_ok h
  apply List.Nodup.sublist (sublist_places_ofDocs hdocuments)
  rw [request.flatMap_listing Registry.empty fun _ => rfl]
  apply (nodup_flatMap_listingPairs hnames).map_on
  intro a ha b hb hplace
  have hschema : ∀ pair ∈ request.wantedFiles.flatMap
      (fun file => listingPairs (file.nameText, file.classesTold)),
        Config.schemaEnding <:+ pair.1.toList := by
    intro pair hpair
    obtain ⟨file, hfile, hin⟩ := List.mem_flatMap.1 hpair
    obtain ⟨_, -, rfl⟩ := List.mem_map.1 hin
    exact hending file hfile
  obtain ⟨hmodule, hpoint⟩ := Prod.mk.inj hplace
  exact Prod.ext
    (Config.eq_of_moduleName_eq (hschema a ha) (hschema b hb) (Option.some.inj hmodule))
    (eq_of_insertionPoint_eq (Option.some.inj hpoint))

/-- Two files of one package document the same class, the first of them in two places, and the
suffix of modules is the ending that is taken from their names. -/
theorem shared_class_in_two_modules :
    let foo : MessageDescriptor := { name := some "Foo", fields := [{ name := some "bar" }] }
    let summary : Location := { path := [4, 0], leading := some "A message." }
    let member : Location := { path := [4, 0, 2, 0], trailing := some "Its field." }
    let first : FileDescriptor :=
      { name := some "a.proto.proto", package := some "pkg", messages := [foo]
        sourceInfo := some ⟨[member, summary]⟩ }
    let second : FileDescriptor :=
      { name := some "a.proto", package := some "pkg", messages := [foo]
        sourceInfo := some ⟨[summary]⟩ }
    let request : GenerateRequest :=
      { filesToGenerate := ["a.proto", "a.proto.proto"], files := [first, second] }
    let config : Config := { moduleSuffix := ".proto" }
    ∃ response calls,
      (request.wantedFiles.map FileDescriptor.nameText).Nodup ∧
      (∀ file ∈ request.wantedFiles, ".proto".toList <:+ file.nameText.toList) ∧
      (assemble (Converter.logged fun call => .ok call.text) config request).run [] =
        (.ok response, calls) ∧
      response.files.map (fun file => (file.name, file.insertionPoint)) =
        [(some "a.proto.proto", some "class_scope:pkg.Foo"),
          (some "a.proto", some "class_scope:pkg.Foo")] ∧
      (response.files.map fun file => (file.name, file.insertionPoint)).Nodup := by
  intro foo summary member first second request config
  have hnames : (request.wantedFiles.map FileDescriptor.nameText).Nodup := by decide +kernel
  have hending : ∀ file ∈ request.wantedFiles, ".proto".toList <:+ file.nameText.toList := by
    decide +kernel
  have hplaces : ((assemble (Converter.logged fun call => .ok call.text) config request).run
      []).1.toOption.map (fun response =>
        response.files.map fun file => (file.name, file.insertionPoint)) =
      some [(some "a.proto.proto", some "class_scope:pkg.Foo"),
        (some "a.proto", some "class_scope:pkg.Foo")] := by
    decide +kernel
  obtain ⟨response, calls, hrun, hanswer⟩ := exists_of_toOption_map hplaces
  exact ⟨response, calls, hnames, hending, hrun, hanswer,
    each_place_gets_one_piece hnames hending hrun⟩

end Response

end SchemaDocs
