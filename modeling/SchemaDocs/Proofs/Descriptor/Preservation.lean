import SchemaDocs.Proofs.Descriptor.Failure
import SchemaDocs.Proofs.Wire.Records
/-!
# What a conversion keeps

Converting a file of descriptors decodes it and encodes it again.  All fields that the schema knows
come through this, at every level, and of them only the comments are changed.  Fields that the
schema does not know are passed over in decoding and lost.
-/

namespace SchemaDocs

open Wire

/-! ## Levels without the texts -/

namespace Wire

variable {α : Type} [Storable α] {f : α → α}

theorem valuesDepth_optional_map (h : ∀ a, (toValue (f a)).depth = (toValue a).depth)
    (x : Option α) : valuesDepth (optional (x.map f)) = valuesDepth (optional x) := by
  cases x with
  | none => rfl
  | some a =>
      rw [Option.map_some, optional, optional, valuesDepth, h a]
      rfl

theorem valuesDepth_list_map (h : ∀ a, (toValue (f a)).depth = (toValue a).depth)
    (xs : List α) : valuesDepth (list (xs.map f)) = valuesDepth (list xs) := by
  induction xs with
  | nil => rfl
  | cons a xs ih =>
      rw [list, list] at ih
      rw [list, list, List.map_cons, List.map_cons, List.map_cons, valuesDepth, valuesDepth, h a,
        ih]

end Wire

theorem Location.depth_blanked (location : Location) :
    (toValue location.blanked).depth = (toValue location).depth := by
  have htext : ∀ text : String, (toValue ((fun _ => "") text)).depth = (toValue text).depth :=
    fun _ => rfl
  have hleading := valuesDepth_optional_map htext location.leading
  have htrailing := valuesDepth_optional_map htext location.trailing
  have hdetached := valuesDepth_list_map htext location.detached
  change slotsDepth location.blanked.toRecord + 1 = slotsDepth location.toRecord + 1
  simp only [toRecord, blanked, slotsDepth, hleading, htrailing, hdetached]

theorem FileDescriptor.depth_blanked (file : FileDescriptor) :
    (toValue file.blanked).depth = (toValue file).depth := by
  have hinfo : ∀ info : SourceInfo,
      (toValue (⟨info.locations.map Location.blanked⟩ : SourceInfo)).depth =
        (toValue info).depth := by
    intro info
    have hlocations := valuesDepth_list_map Location.depth_blanked info.locations
    change slotsDepth [list (info.locations.map Location.blanked)] + 1 =
      slotsDepth [list info.locations] + 1
    rw [slotsDepth, slotsDepth, hlocations]
    rfl
  have hoptional := valuesDepth_optional_map hinfo file.sourceInfo
  change slotsDepth file.blanked.toRecord + 1 = slotsDepth file.toRecord + 1
  simp only [toRecord, blanked, slotsDepth, hoptional]

namespace DescriptorSet

theorem slotsDepth_blanked (set : DescriptorSet) :
    slotsDepth set.blanked.toRecord = slotsDepth set.toRecord := by
  have hfiles := valuesDepth_list_map FileDescriptor.depth_blanked set.files
  rw [toRecord, blanked, toRecord, slotsDepth, slotsDepth, hfiles]
  rfl

/-! ## Conversions -/

/-- A conversion that succeeds changes nothing but the texts of comments. -/
theorem blanked_conversionBy {rule : ConversionCall → ConversionAnswer} {config : Config}
    {set : DescriptorSet} {count : Nat} (h : (set.conversionBy rule config).result = .ok count) :
    (set.conversionBy rule config).set.blanked = set.blanked ∧ count = set.comments.length ∧
      (set.conversionBy rule config).set.comments.length = set.comments.length := by
  have hconversion : set.conversionBy rule config = set.conversionAfter rule config.markup [] :=
    set.run_convertComments_filled rule config.markup []
  rw [hconversion] at h ⊢
  rcases set.conversionAfter_cases rule config.markup [] with
    ⟨cause, hfailed⟩ | ⟨pieces, hlength, hpieces, hresult, hcomments, hblanked, -⟩
  · rw [hfailed] at h
    simp at h
  · rw [hresult, Except.ok.injEq] at h
    refine ⟨hblanked, h.symm, ?_⟩
    rw [hcomments]
    simp

end DescriptorSet

open DescriptorSet

/-- A file that was converted holds what the source holds of all fields that the schema knows, at
every level, but for the texts of comments. -/
theorem conversion_keeps_known_fields (tree : FileTree)
    (rule : ConversionCall → ConversionAnswer) (config : Config) (source dest : String)
    {count : Nat} (hok : (fileBy rule config source dest tree).1 = .ok count)
    (hdest : tree.namesFile dest = true) :
    ∃ bytes set output after, (tree.read source).1 = .ok bytes ∧ decode bytes = .ok set ∧
      ((fileBy rule config source dest tree).2.read dest).1 = .ok output ∧
      (output.length < 2 ^ 64 → decode output = .ok after) ∧ output = after.encode ∧
      after.blanked = set.blanked ∧ set.comments.length = count ∧
      after.comments.length = count := by
  obtain ⟨after, ⟨bytes, set, hread, hset, hresult, rfl⟩, hdone⟩ :=
    fileBy_ok rule config source dest tree hok
  obtain ⟨hblanked, hcount, hlength⟩ := blanked_conversionBy hresult
  -- texts have no levels, so the converted set has as many as the set that was read
  have hdepth : slotsDepth (set.conversionBy rule config).set.toRecord ≤ nestingLimit := by
    rw [← slotsDepth_blanked, hblanked, slotsDepth_blanked]
    exact slotsDepth_of_decode hset
  exact ⟨bytes, set, _, _, hread, hset, by rw [hdone hdest], decode_encode hdepth, rfl, hblanked,
    hcount.symm, hlength.trans hcount.symm⟩

/-- A set with one file, whose comment is kept as it is. -/
theorem small_set_keeps_known_fields :
    let set : DescriptorSet :=
      ⟨[{ name := some "foo.proto"
          messages := [{ name := some "Foo", options := some { deprecated := some true } }]
          sourceInfo := some ⟨[{ path := [4, 0], leading := some " *Plain*.\n" }]⟩ }]⟩
    let rule : ConversionCall → ConversionAnswer := fun call => .ok call.text
    let tree := FileTree.empty.putFile ["tmp", "work", "in.pb"] set.encode
    let found := fileBy rule {} "in.pb" "out.pb" tree
    ∃ (output : Bytes) (after : DescriptorSet), (found.2.read "out.pb").1 = .ok output ∧
      output = after.encode ∧ after.blanked = set.blanked ∧ after.comments.length = 1 := by
  intro set rule tree found
  have hfound : found.1 = .ok 1 := eq_ok_of_toOption (by decide +kernel)
  obtain ⟨bytes, other, output, after, hread, hset, houtput, -, hencode, hblanked, -, hcomments⟩ :=
    conversion_keeps_known_fields tree rule {} "in.pb" "out.pb" hfound (by decide +kernel)
  have hbytes : (tree.read "in.pb").1 = .ok set.encode := eq_ok_of_toOption (by decide +kernel)
  have hdecode : decode set.encode = .ok set :=
    decode_encode (by decide +kernel) (by decide +kernel)
  rw [hbytes, Except.ok.injEq] at hread
  rw [← hread, hdecode, Except.ok.injEq] at hset
  exact ⟨output, after, houtput, hencode, hset ▸ hblanked, hcomments⟩

/-- An option of a file, under a number that the schema does not know, is lost. -/
theorem unknown_option_lost :
    let option : Bytes := [128, 181, 24, 1]
    let bytes : Bytes := [10, 15, 10, 7, 97, 46, 112, 114, 111, 116, 111, 66, 4] ++ option
    let output : Bytes := [10, 11, 10, 7, 97, 46, 112, 114, 111, 116, 111, 66, 0]
    readKey option = .ok (50000, .varint, [1]) ∧ MessageType.fileOptions.field? 50000 = none ∧
      (bytesBy (fun call => .ok call.text) {} bytes).toOption = some (0, output) ∧
      ¬ option <:+: output := by
  refine ⟨by decide +kernel, rfl, by decide +kernel, by decide⟩

end SchemaDocs
