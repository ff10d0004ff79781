import SchemaDocs.Descriptor.ConvertFile
import SchemaDocs.Proofs.Markup.Conversion
import SchemaDocs.Proofs.Markup.Link
/-!
# Converting a set in place

The comments of a set are collected by one way through it and written back by another.  Both meet
the comments in the same order, so that every text goes to the place its comment came from, and
nothing but texts is changed.
-/

namespace SchemaDocs

/-! ## What is left without the texts -/

/-- A place whose comments are all empty.  Those that are absent stay absent. -/
def Location.blanked (location : Location) : Location :=
  { location with
    leading := location.leading.map fun _ => ""
    trailing := location.trailing.map fun _ => ""
    detached := location.detached.map fun _ => "" }

/-- A file whose comments are all empty. -/
def FileDescriptor.blanked (file : FileDescriptor) : FileDescriptor :=
  { file with
    sourceInfo := file.sourceInfo.map fun info => ⟨info.locations.map Location.blanked⟩ }

/-- A set whose comments are all empty.  Two sets with the same one differ in nothing but the texts
of comments. -/
def DescriptorSet.blanked (set : DescriptorSet) : DescriptorSet :=
  ⟨set.files.map FileDescriptor.blanked⟩

/-- The comments of a file. -/
def FileDescriptor.comments (file : FileDescriptor) : List String :=
  file.locations.flatMap Location.comments

namespace WriteBack

variable {α β : Type}

/-- Texts were written to the comments of an item.  They are its comments now, nothing else has
changed, and more texts are left in the batch. -/
structure Completes (written : WriteBack α) (comments : α → List String) (blank : α → α)
    (item : α) (texts more : List String) : Prop where
  result : written.result = .ok texts.length
  comments : comments written.value = texts
  blank : blank written.value = blank item
  remaining : written.batch.Remaining more

/-- Writing completes for an item, whenever a batch holds a text for each of its comments. -/
def CompleteAt (write : Batch → WriteBack α) (comments : α → List String) (blank : α → α)
    (item : α) : Prop :=
  ∀ (batch : Batch) (texts more : List String), batch.Remaining (texts ++ more) →
    texts.length = (comments item).length →
      (write batch).Completes comments blank item texts more

/-! ## Single comments -/

theorem complete_optional (comment : Option String) :
    CompleteAt (optional comment) Option.toList (Option.map fun _ => "") comment := by
  intro batch texts more hbatch hlength
  cases comment with
  | none =>
      rw [Option.toList_none, List.length_nil, List.length_eq_zero_iff] at hlength
      subst hlength
      exact ⟨rfl, rfl, rfl, hbatch⟩
  | some comment =>
      rw [Option.toList_some, List.length_singleton] at hlength
      obtain ⟨text, rfl⟩ := List.length_eq_one_iff.1 hlength
      obtain ⟨hnext, hrest⟩ := hbatch.next_cons
      rw [optional, hnext]
      exact ⟨rfl, rfl, rfl, hrest⟩

theorem complete_single (comment : String) :
    CompleteAt (single comment) (fun comment => [comment]) (fun _ => "") comment := by
  intro batch texts more hbatch hlength
  rw [List.length_singleton] at hlength
  obtain ⟨text, rfl⟩ := List.length_eq_one_iff.1 hlength
  obtain ⟨hnext, hrest⟩ := hbatch.next_cons
  rw [single, hnext]
  exact ⟨rfl, rfl, rfl, hrest⟩

/-! ## Several comments -/

section

variable {commentsA : α → List String} {blankA : α → α} {commentsB : β → List String}
  {blankB : β → β} {a : α} {b : β}

/-- Writing to two things takes the texts of the first before those of the second. -/
theorem CompleteAt.andThen {first : Batch → WriteBack α} {second : Batch → WriteBack β}
    (hfirst : CompleteAt first commentsA blankA a)
    (hsecond : CompleteAt second commentsB blankB b) :
    CompleteAt (fun batch => (first batch).andThen b second)
      (fun pair => commentsA pair.1 ++ commentsB pair.2) (Prod.map blankA blankB) (a, b) := by
  intro batch texts more hbatch hlength
  rw [List.length_append] at hlength
  obtain ⟨own, others, rfl, hown, hothers⟩ := exists_append_of_length hlength
  rw [List.append_assoc] at hbatch
  have hdone := hfirst batch own (others ++ more) hbatch hown
  have hrest := hsecond (first batch).batch others more hdone.remaining hothers
  simp only [WriteBack.andThen, hdone.result]
  refine ⟨?_, ?_, Prod.ext hdone.blank hrest.blank, hrest.remaining⟩
  · simp [hrest.result, Except.map]
  · rw [hdone.comments, hrest.comments]

/-- Writing to the parts of a thing is writing to the thing. -/
theorem CompleteAt.map {write : Batch → WriteBack α} (h : CompleteAt write commentsA blankA a)
    {f : α → β} (hb : (commentsB b).length = (commentsA a).length)
    (hcomments : ∀ after, commentsB (f after) = commentsA after)
    (hblank : ∀ after, blankA after = blankA a → blankB (f after) = blankB b) :
    CompleteAt (fun batch => (write batch).map f) commentsB blankB b := by
  intro batch texts more hbatch hlength
  have hdone := h batch texts more hbatch (hlength.trans hb)
  exact ⟨hdone.result, (hcomments _).trans hdone.comments, hblank _ hdone.blank,
    hdone.remaining⟩

end

/-- What writing does to one item it does to each item of a list. -/
theorem complete_each {write : α → Batch → WriteBack α} {comments : α → List String}
    {blank : α → α} (h : ∀ item, CompleteAt (write item) comments blank item) (items : List α) :
    CompleteAt (each write items) (List.flatMap comments) (List.map blank) items := by
  induction items with
  | nil =>
      intro batch texts more hbatch hlength
      rw [List.flatMap_nil, List.length_nil, List.length_eq_zero_iff] at hlength
      subst hlength
      exact ⟨rfl, rfl, rfl, hbatch⟩
  | cons item items ih =>
      refine ((h item).andThen ih).map (f := fun pair => pair.1 :: pair.2) ?_ ?_ ?_
      · rw [List.flatMap_cons]
      · intro after
        rw [List.flatMap_cons]
      · intro after hafter
        obtain ⟨hfirst, hrest⟩ := Prod.mk.inj hafter
        rw [List.map_cons, List.map_cons, hfirst, hrest]

end WriteBack

open WriteBack

/-! ## Places, files and sets -/

theorem Location.complete_writeComments (location : Location) :
    CompleteAt location.writeComments Location.comments Location.blanked location := by
  have hparts := ((complete_optional location.leading).andThen
    (complete_optional location.trailing)).andThen (complete_each complete_single location.detached)
  refine hparts.map (f := fun written => { location with
    leading := written.1.1, trailing := written.1.2, detached := written.2 }) ?_ ?_ ?_
  · simp [Location.comments]
  · intro after
    simp [Location.comments]
  · intro after hafter
    obtain ⟨hpair, hdetached⟩ := Prod.mk.inj hafter
    obtain ⟨hleading, htrailing⟩ := Prod.mk.inj hpair
    simp only [Location.blanked, hleading, htrailing, hdetached]

theorem FileDescriptor.complete_writeComments (file : FileDescriptor) :
    CompleteAt file.writeComments FileDescriptor.comments FileDescriptor.blanked file := by
  cases hinfo : file.sourceInfo with
  | none =>
      have hwrite : file.writeComments = fun batch => ⟨.ok 0, file, batch⟩ := by
        funext batch
        rw [FileDescriptor.writeComments, hinfo]
      have hnone : file.comments = [] := by
        rw [FileDescriptor.comments, FileDescriptor.locations, hinfo]
        rfl
      rw [hwrite]
      intro batch texts more hbatch hlength
      rw [hnone, List.length_nil, List.length_eq_zero_iff] at hlength
      subst hlength
      exact ⟨rfl, hnone, rfl, hbatch⟩
  | some info =>
      have hwrite : file.writeComments = fun batch =>
          (WriteBack.each Location.writeComments info.locations batch).map fun locations =>
            { file with sourceInfo := some ⟨locations⟩ } := by
        funext batch
        rw [FileDescriptor.writeComments, hinfo]
      rw [hwrite]
      refine (complete_each Location.complete_writeComments info.locations).map ?_ (fun _ => rfl) ?_
      · rw [FileDescriptor.comments, FileDescriptor.locations, hinfo]
        rfl
      · intro locations hlocations
        simp only [FileDescriptor.blanked, hinfo, Option.map_some, hlocations]

theorem DescriptorSet.complete_writeComments (set : DescriptorSet) :
    CompleteAt set.writeComments DescriptorSet.comments DescriptorSet.blanked set := by
  refine (complete_each FileDescriptor.complete_writeComments set.files).map rfl (fun _ => rfl) ?_
  intro files hfiles
  rw [DescriptorSet.blanked, hfiles]
  rfl

/-! ## The whole conversion -/

section

variable (config : Config) (set : DescriptorSet) (rule : ConversionCall → ConversionAnswer)

/-- A conversion in a new batch is one of the batch of all comments, and then a writing back. -/
theorem DescriptorSet.convertComments_logged :
    let rewritten := set.comments.map (Markup.replaceLinks config.docsHost)
    (set.convertComments (Converter.logged rule) (Batch.new config.markup)).run [] =
      (match Batch.outcome rule config.markup rewritten with
        | .error cause => ⟨.error cause, set, Batch.filled config.markup rewritten⟩
        | .ok converted =>
          let written := set.writeComments converted
          ⟨written.result, written.value, written.batch⟩,
        if Batch.waiting rewritten = [] then []
        else [Batch.callFor config.markup rewritten]) := by
  intro rewritten
  have hlogged := Batch.convertAll_filled_logged rule config.markup rewritten
  rw [DescriptorSet.convertComments, Batch.submitAll_new,
    show config.markup.host = config.docsHost from rfl]
  dsimp only
  rw [StateT.run_bind, hlogged]
  cases Batch.outcome rule config.markup rewritten <;> rfl

/-- A converted batch of all comments is written back completely. -/
theorem DescriptorSet.completes_of_outcome_ok {converted : Batch}
    (h : Batch.outcome rule config.markup
      (set.comments.map (Markup.replaceLinks config.docsHost)) = .ok converted) :
    ∃ texts : List String, converted.Returns texts ∧
      (set.writeComments converted).Completes DescriptorSet.comments DescriptorSet.blanked set
        texts [] ∧
      texts.length = set.comments.length ∧
      ∀ (i : Nat) comment, set.comments[i]? = some comment →
        Markup.needsConversion comment = false → texts[i]? = some comment := by
  obtain ⟨pieces, hpieces, -, hremaining⟩ :=
    Batch.exists_remaining_of_outcome_ok rule config.markup _ h
  have hlength := Batch.length_restored
    (set.comments.map (Markup.replaceLinks config.docsHost)) pieces
  rw [List.length_map] at hlength
  refine ⟨_, hremaining.returns, ?_, hlength, ?_⟩
  · rw [← List.append_nil (Batch.restored _ pieces)] at hremaining
    exact set.complete_writeComments converted _ [] hremaining hlength
  · intro i comment hcomment hkept
    have hrewritten : (set.comments.map (Markup.replaceLinks config.docsHost))[i]? =
        some comment := by
      rw [List.getElem?_map, hcomment, Option.map_some, Markup.replaceLinks_of_not_needs hkept]
    simpa [hkept] using Batch.getElem?_restored hpieces hrewritten

end

/-- Converting the comments of a set replaces each of them, in its place, by the text that one batch
of them all returns for it.  It fails where that batch fails.  The converter is called once at
most, what holds no sign of markup stays as it is, and so does all that is not a comment. -/
theorem comments_replaced_in_their_places (config : Config) (set : DescriptorSet)
    (rule : ConversionCall → ConversionAnswer) :
    ∃ batch outcome calls conversion,
      (Batch.new config.markup).submitAll set.comments = .ok batch ∧
      (batch.convertAll (Converter.logged rule)).run [] = (outcome, calls) ∧
      (set.convertComments (Converter.logged rule) (Batch.new config.markup)).run [] =
        (conversion, calls) ∧
      calls.length ≤ 1 ∧
      ((∃ count, conversion.result = .ok count) ↔ ∃ converted, outcome = .ok converted) ∧
      ∀ count, conversion.result = .ok count → ∃ converted, ∃ texts : List String,
        outcome = .ok converted ∧ converted.Returns texts ∧
        conversion.set.comments = texts ∧ conversion.set.blanked = set.blanked ∧
        texts.length = set.comments.length ∧ count = set.comments.length ∧
        ∀ (i : Nat) comment, set.comments[i]? = some comment →
          Markup.needsConversion comment = false → texts[i]? = some comment := by
  let rewritten := set.comments.map (Markup.replaceLinks config.docsHost)
  refine ⟨Batch.filled config.markup rewritten, Batch.outcome rule config.markup rewritten, _, _,
    Batch.submitAll_new config.markup set.comments,
    Batch.convertAll_filled_logged rule config.markup rewritten,
    set.convertComments_logged config rule, ?_, ?_, ?_⟩
  · split <;> simp
  · cases houtcome : Batch.outcome rule config.markup rewritten with
    | error cause => simp
    | ok converted =>
        obtain ⟨texts, -, hdone, -, -⟩ := set.completes_of_outcome_ok config rule houtcome
        simp [hdone.result]
  · intro count hcount
    cases houtcome : Batch.outcome rule config.markup rewritten with
    | error cause =>
        rw [houtcome] at hcount
        simp at hcount
    | ok converted =>
        obtain ⟨texts, hreturns, hdone, hlength, hkept⟩ :=
          set.completes_of_outcome_ok config rule houtcome
        rw [houtcome] at hcount
        dsimp only at hcount
        rw [hdone.result, Except.ok.injEq] at hcount
        exact ⟨converted, texts, rfl, hreturns, hdone.comments, hdone.blank, hlength,
          by rw [← hcount, hlength], hkept⟩

end SchemaDocs
