import SchemaDocs.Descriptor.ConvertFile
import SchemaDocs.Proofs.Descriptor.UsedBatch
import SchemaDocs.Proofs.Files.Tree
/-!
# Conversions that fail

A set whose conversion fails is left as it was, in whatever state its batch is.  A file of
descriptors is read, decoded and converted before anything is written, so that a failure on the way
leaves all files as they were.
-/

namespace SchemaDocs.DescriptorSet

/-- The conversion of a set in a new batch, by a converter that follows a rule. -/
def conversionBy (rule : ConversionCall → ConversionAnswer) (config : Config)
    (set : DescriptorSet) : SetConversion :=
  (set.convertComments (Converter.ofRule rule) (Batch.new config.markup)).run

/-- The conversion of the bytes of a set, by a converter that follows a rule. -/
def bytesBy (rule : ConversionCall → ConversionAnswer) (config : Config) (bytes : Bytes) :
    Except RunError (Nat × Bytes) :=
  (convertBytes (Converter.ofRule rule) config bytes).run

section

variable {rule : ConversionCall → ConversionAnswer} {config : Config}

theorem convertBytes_pure {m : Type → Type} [Monad m] [LawfulMonad m] (bytes : Bytes) :
    convertBytes (fun call => (pure (rule call) : m ConversionAnswer)) config bytes =
      pure (bytesBy rule config bytes) := by
  have hnew : Batch.new config.markup = Batch.filled config.markup [] := rfl
  rw [bytesBy, convertBytes, convertBytes]
  cases decode bytes with
  | error cause => rfl
  | ok set =>
      dsimp only
      rw [hnew, convertComments_filled, pure_bind, Id.run_bind, set.run_convertComments_filled]
      cases (set.conversionAfter rule config.markup []).result <;> rfl

/-- Bytes are converted where they are decoded to a set and the conversion of the set succeeds. -/
theorem bytesBy_eq_ok_iff {bytes output : Bytes} {count : Nat} :
    bytesBy rule config bytes = .ok (count, output) ↔
      ∃ set, decode bytes = .ok set ∧ (set.conversionBy rule config).result = .ok count ∧
        (set.conversionBy rule config).set.encode = output := by
  rw [bytesBy, convertBytes]
  cases decode bytes with
  | error cause => simp
  | ok set =>
      dsimp only
      rw [Id.run_bind, ← conversionBy]
      cases hresult : (set.conversionBy rule config).result with
      | error cause => simp [hresult]
      | ok _ => simp [hresult]

end

/-- A file holds a set of files that is converted into another, with a number of comments. -/
def Converts (tree : FileTree) (rule : ConversionCall → ConversionAnswer) (config : Config)
    (source : String) (count : Nat) (after : DescriptorSet) : Prop :=
  ∃ bytes set, (tree.read source).1 = .ok bytes ∧ decode bytes = .ok set ∧
    (set.conversionBy rule config).result = .ok count ∧ (set.conversionBy rule config).set = after

/-- The conversion of a file into another, by a converter that follows a rule. -/
def fileBy (rule : ConversionCall → ConversionAnswer) (config : Config) (source dest : String)
    (tree : FileTree) : Except RunError Nat × FileTree :=
  (convertFile FileTree.access (fun call => pure (rule call)) config source dest).run tree

section

variable (rule : ConversionCall → ConversionAnswer) (config : Config) (source dest : String)
  (tree : FileTree)

/-- The destination is written to, once the source is read and converted. -/
theorem fileBy_eq :
    fileBy rule config source dest tree =
      match tree.read source with
      | (.error cause, after) => (.error (.decode (.unreadableSet source cause)), after)
      | (.ok bytes, after) =>
        match bytesBy rule config bytes with
        | .error cause => (.error cause, after)
        | .ok (count, converted) =>
          match after.write dest converted with
          | (.error cause, last) => (.error (.io cause), last)
          | (.ok (), last) => (.ok count, last) := by
  have hread : (FileTree.access.read source).run tree = tree.read source := rfl
  rw [fileBy, convertFile, StateT.run_bind, hread]
  rcases tree.read source with ⟨_ | bytes, after⟩
  · rfl
  · change StateT.run (convertBytes _ config bytes >>= _) after = _
    rw [convertBytes_pure, pure_bind]
    dsimp only
    cases bytesBy rule config bytes with
    | error cause => rfl
    | ok pair =>
        have hwrite : (FileTree.access.write dest pair.2).run after = after.write dest pair.2 := rfl
        dsimp only
        rw [StateT.run_bind, hwrite]
        rcases after.write dest pair.2 with ⟨_ | _, last⟩ <;> rfl

/-- Before the set of a file is converted, nothing but the input of the program has changed. -/
theorem fileBy_of_not_converts (h : ∀ count after, ¬ Converts tree rule config source count after) :
    (∃ cause, (fileBy rule config source dest tree).1 = .error cause) ∧
      { (fileBy rule config source dest tree).2 with input := tree.input } = tree := by
  have hinput := tree.input_of_read source
  rw [fileBy_eq]
  rcases hread : tree.read source with ⟨cause | bytes, after⟩
  · rw [hread] at hinput
    exact ⟨⟨_, rfl⟩, hinput⟩
  · rw [hread] at hinput
    dsimp only
    cases hbytes : bytesBy rule config bytes with
    | error cause => exact ⟨⟨_, rfl⟩, hinput⟩
    | ok pair =>
        obtain ⟨set, hset, hresult, -⟩ := bytesBy_eq_ok_iff.1 hbytes
        exact absurd ⟨bytes, set, by rw [hread], hset, hresult, rfl⟩ (h pair.1 _)

/-- Where the conversion of a file succeeds, the destination holds the converted set. -/
theorem fileBy_ok {count : Nat} (h : (fileBy rule config source dest tree).1 = .ok count) :
    ∃ after, Converts tree rule config source count after ∧
      (tree.namesFile dest = true → (fileBy rule config source dest tree).2.read dest =
        (.ok after.encode, (fileBy rule config source dest tree).2)) := by
  rw [fileBy_eq] at h ⊢
  rcases hread : tree.read source with ⟨cause | bytes, after⟩
  · simp [hread] at h
  · rw [hread] at h
    dsimp only at h ⊢
    cases hbytes : bytesBy rule config bytes with
    | error cause => simp [hbytes] at h
    | ok pair =>
        rw [hbytes] at h
        dsimp only at h ⊢
        obtain ⟨set, hset, hresult, houtput⟩ := bytesBy_eq_ok_iff.1 hbytes
        rcases hwrite : after.write dest pair.2 with ⟨cause | _, last⟩
        · simp [hwrite] at h
        · rw [hwrite, Except.ok.injEq] at h
          refine ⟨_, ⟨bytes, set, by rw [hread], hset, h ▸ hresult, rfl⟩, fun hpath => ?_⟩
          -- reading may take the input, but no way to a file depends on that
          have hinput : { after with input := tree.input } = tree := by
            have hkept := tree.input_of_read source
            rwa [hread] at hkept
          have hafter : after.namesFile dest = true := by
            rw [← FileTree.namesFile_with_input after tree.input, hinput, hpath]
          rw [houtput]
          exact FileTree.read_of_write hafter hwrite

end

/-- A conversion of a set that fails leaves the set as it was, whatever was done with the batch
before.  A conversion of a file that fails in reading, decoding or converting leaves all files as
they were, and one that succeeds leaves the converted set in the destination. -/
theorem failures_leave_data_intact :
    (∀ (settings : MarkupSettings) (uses : List Batch.Use) (set : DescriptorSet)
        (rule : ConversionCall → ConversionAnswer) (cause : BatchError),
      let conversion := (set.convertComments (Converter.ofRule rule)
        (Batch.used settings uses)).run
      conversion.result = .error cause → conversion.set = set) ∧
    ∀ (tree : FileTree) (rule : ConversionCall → ConversionAnswer) (config : Config)
        (source dest : String),
      let run := fileBy rule config source dest tree
      ((∀ count after, ¬ Converts tree rule config source count after) →
        (∃ cause, run.1 = .error cause) ∧ { run.2 with input := tree.input } = tree) ∧
      ∀ count, run.1 = .ok count →
        ∃ after, Converts tree rule config source count after ∧
          (tree.namesFile dest = true → run.2.read dest = (.ok after.encode, run.2)) := by
  refine ⟨?_, ?_⟩
  · intro settings uses set rule cause conversion hfailed
    exact set_of_failed_conversion (Batch.standing_used settings uses) set rule hfailed
  · intro tree rule config source dest run
    exact ⟨fileBy_of_not_converts rule config source dest tree,
      fun count hcount => fileBy_ok rule config source dest tree hcount⟩

/-- A batch that is converted already, a file that is not there, and one that is converted. -/
theorem failures_and_success_of_small_sets :
    let set : DescriptorSet :=
      ⟨[{ name := some "foo.proto"
          sourceInfo := some ⟨[{ path := [4, 0], leading := some " Plain.\n" }]⟩ }]⟩
    let rule : ConversionCall → ConversionAnswer := fun call => .ok call.text
    let batch := Batch.used ({} : Config).markup [.operation (.convertAll rule)]
    let tree := FileTree.empty.putFile ["tmp", "work", "in.pb"] set.encode
    let missing := fileBy rule {} "no.pb" "out.pb" tree
    let found := fileBy rule {} "in.pb" "out.pb" tree
    (set.convertComments (Converter.ofRule rule) batch).run.set = set ∧
      { missing.2 with input := tree.input } = tree ∧
      ∃ after : DescriptorSet, found.2.read "out.pb" = (.ok after.encode, found.2) := by
  intro set rule batch tree missing found
  obtain ⟨hset, hfile⟩ := failures_leave_data_intact
  refine ⟨?_, ?_, ?_⟩
  · cases hresult : (set.convertComments (Converter.ofRule rule) batch).run.result with
    | error cause => exact hset _ [.operation (.convertAll rule)] set rule cause hresult
    | ok count =>
        have hfailed : (set.convertComments (Converter.ofRule rule) batch).run.result.toOption =
            none := by decide +kernel
        simp [hresult, Except.toOption] at hfailed
  · refine ((hfile tree rule {} "no.pb" "out.pb").1 ?_).2
    rintro count after ⟨bytes, -, hread, -⟩
    have hmissing : (tree.read "no.pb").1.toOption = none := by decide +kernel
    simp [hread, Except.toOption] at hmissing
  · have hfound : found.1 = .ok 1 := eq_ok_of_toOption (by decide +kernel)
    obtain ⟨after, -, hread⟩ := (hfile tree rule {} "in.pb" "out.pb").2 1 hfound
    exact ⟨after, hread (by decide +kernel)⟩

end SchemaDocs.DescriptorSet
