import SchemaDocs.Proofs.ClassDoc.Registry
import SchemaDocs.Proofs.Discovery.FirstSeen
import Mathlib.Data.List.Induction
import Mathlib.Logic.Function.Basic
/-!
# Sessions with a registry

Names are asked for, the registry is cleared and documents are changed through handles, in any
order.  From one clearing to the next a name has one document, and what is changed through a handle
shows through the handles of the same document and through no others, also through those that the
registry has forgotten.
-/

namespace SchemaDocs.Registry

/-! ## Changes to a document -/

/-- A change to a document. -/
inductive Change where
  | setSummary (text : String)
  | addMember (name comment : String)
  /-- Gives every member a comment that may depend on its position and on the member. -/
  | setComments (comment : Nat → Member → String)

/-- The document after a change. -/
def Change.apply : Change → ClassDoc → ClassDoc
  | .setSummary text, doc => doc.setSummary text
  | .addMember name comment, doc => doc.addMember name comment
  | .setComments comment, doc =>
    { doc with
      members := doc.members.mapIdx fun position member =>
        { member with comment := comment position member } }

@[simp] theorem Change.name_apply (change : Change) (doc : ClassDoc) :
    (change.apply doc).name = doc.name := by
  cases change <;> rfl

/-- The document of a name after changes to an empty one. -/
def replay (name : String) (changes : List Change) : ClassDoc :=
  changes.foldl (fun doc change => change.apply doc) (ClassDoc.empty name)

theorem replay_concat (name : String) (changes : List Change) (change : Change) :
    replay name (changes ++ [change]) = change.apply (replay name changes) := by
  rw [replay, List.foldl_append]
  rfl

/-! ## Sessions -/

/-- What is done in a session. -/
inductive Operation where
  | getOrCreate (name : String)
  | get (name : String)
  | clear
  /-- Changes the document of the handle that was obtained at some position of all. -/
  | change (position : Nat) (change : Change)

/-- A handle that was obtained, and the number of clearings before that. -/
structure Holding where
  handle : Handle
  era : Nat

/-- A form of registry. -/
structure Form (ρ : Type) where
  empty : ρ
  getOrCreate : ρ → String → Handle × ρ
  get? : ρ → String → Option Handle
  clear : ρ → ρ
  modify : ρ → Handle → (ClassDoc → ClassDoc) → ρ

/-- A registry of some form, with all handles that were obtained from it and all changes that were
made through them. -/
structure Session (ρ : Type) where
  registry : ρ
  era : Nat
  holdings : List Holding
  changes : List (Handle × Change)

namespace Session

section

variable {ρ : Type}

/-- The changes that were made through the handles of a document. -/
def changesThrough (session : Session ρ) (handle : Handle) : List Change :=
  (session.changes.filter fun entry => entry.1.sameDocument handle).map Prod.snd

/-- Holds one handle more. -/
def obtain (session : Session ρ) (found : Handle × ρ) : Session ρ :=
  { session with
    registry := found.2
    holdings := session.holdings ++ [⟨found.1, session.era⟩] }

theorem forall_mem_obtain {session : Session ρ} {found : Handle × ρ} {P : Holding → Prop} :
    (∀ a ∈ (session.obtain found).holdings, P a) ↔
      (∀ a ∈ session.holdings, P a) ∧ P ⟨found.1, session.era⟩ := by
  rw [obtain, List.forall_mem_append, List.forall_mem_singleton]

variable (form : Form ρ)

/-- Makes a change through a handle. -/
def edit (session : Session ρ) (handle : Handle) (change : Change) : Session ρ :=
  { session with
    registry := form.modify session.registry handle change.apply
    changes := session.changes ++ [(handle, change)] }

theorem changesThrough_edit_of_eq {a b : Handle} (h : a.index = b.index) (session : Session ρ)
    (change : Change) : (session.edit form a change).changesThrough b =
      session.changesThrough b ++ [change] := by
  simp [edit, changesThrough, List.filter_append, Handle.sameDocument, h]

theorem changesThrough_edit_of_ne {a b : Handle} (h : a.index ≠ b.index) (session : Session ρ)
    (change : Change) : (session.edit form a change).changesThrough b =
      session.changesThrough b := by
  simp [edit, changesThrough, List.filter_append, Handle.sameDocument, h]

/-- A session with a new registry. -/
def start : Session ρ := ⟨form.empty, 0, [], []⟩

/-- Does one thing.  A name that is not registered leads to no handle, and a position without a
handle to no change. -/
def step (session : Session ρ) : Operation → Session ρ
  | .getOrCreate name => session.obtain (form.getOrCreate session.registry name)
  | .get name =>
    match form.get? session.registry name with
    | none => session
    | some handle => session.obtain (handle, session.registry)
  | .clear => { session with registry := form.clear session.registry, era := session.era + 1 }
  | .change position change =>
    match session.holdings[position]? with
    | none => session
    | some holding => session.edit form holding.handle change

/-- Does one thing after the other, beginning with a new registry. -/
def run (operations : List Operation) : Session ρ := operations.foldl (step form) (start form)

theorem run_concat (operations : List Operation) (operation : Operation) :
    run form (operations ++ [operation]) = step form (run form operations) operation := by
  rw [run, List.foldl_append]
  rfl

end

end Session

/-- The form of registry that the library has. -/
def form : Form Registry := ⟨empty, getOrCreate, get?, clear, modify⟩

/-! ## Names of a session -/

/-- Whether the registry is cleared. -/
def Operation.isClear : Operation → Bool
  | .clear => true
  | _ => false

/-- The name that is registered by now, if the operation sees to that. -/
def Operation.created? : Operation → Option String
  | .getOrCreate name => some name
  | _ => none

/-- What was done after the last clearing. -/
def sinceClear (operations : List Operation) : List Operation :=
  (operations.reverse.takeWhile fun operation => !operation.isClear).reverse

/-- The names that were created since the last clearing, in the order of their creation. -/
def createdNames (operations : List Operation) : List String :=
  ((sinceClear operations).filterMap Operation.created?).eraseDups

theorem createdNames_concat_clear (operations : List Operation) :
    createdNames (operations ++ [.clear]) = [] := by
  simp [createdNames, sinceClear, Operation.isClear]

theorem createdNames_concat {operation : Operation} (h : operation.isClear = false)
    (operations : List Operation) :
    createdNames (operations ++ [operation]) =
      operation.created?.toList.foldl addNew (createdNames operations) := by
  have hsince : sinceClear (operations ++ [operation]) = sinceClear operations ++ [operation] := by
    simp [sinceClear, h]
  rw [createdNames, createdNames, ← foldl_addNew_nil, ← foldl_addNew_nil, hsince,
    List.filterMap_append, List.foldl_append]
  cases hcreated : operation.created? <;> simp [hcreated]

/-- The registered names are those created since the last clearing. -/
theorem names_run (operations : List Operation) :
    (Session.run form operations).registry.names = createdNames operations := by
  induction operations using List.reverseRecOn with
  | nil => rfl
  | append_singleton operations operation ih =>
      rw [Session.run_concat]
      cases operation with
      | getOrCreate name =>
          rw [createdNames_concat rfl, ← ih]
          exact names_getOrCreate _ name
      | get name =>
          rw [createdNames_concat rfl, ← ih, Session.step]
          split <;> rfl
      | clear => rw [createdNames_concat_clear]; rfl
      | change position change =>
          rw [createdNames_concat rfl, ← ih, Session.step]
          split <;> rfl

/-! ## What holds in a session -/

/-- What holds of the handles of a session, and of the documents that they stand for. -/
structure Sound (session : Session Registry) : Prop where
  registry : session.registry.WellFormed
  /-- The registered handles are the ones obtained since the last clearing. -/
  held : ∀ handle ∈ session.registry.handles, ⟨handle, session.era⟩ ∈ session.holdings
  registered : ∀ a ∈ session.holdings, a.era = session.era → a.handle ∈ session.registry.handles
  era_le : ∀ a ∈ session.holdings, a.era ≤ session.era
  document_name : ∀ a ∈ session.holdings,
    session.registry.documents[a.handle.index]?.map ClassDoc.name = some a.handle.name
  same : ∀ a ∈ session.holdings, ∀ b ∈ session.holdings,
    a.handle.index = b.handle.index ↔ a.era = b.era ∧ a.handle.name = b.handle.name
  changed : ∀ entry ∈ session.changes, entry.1.index < session.registry.documents.length
  contents : ∀ a ∈ session.holdings, session.registry.document a.handle =
    replay a.handle.name (session.changesThrough a.handle)

theorem sound_start : Sound (Session.start form) where
  registry := wellFormed_empty
  held _ h := absurd h List.not_mem_nil
  registered _ h := absurd h List.not_mem_nil
  era_le _ h := absurd h List.not_mem_nil
  document_name _ h := absurd h List.not_mem_nil
  same _ h := absurd h List.not_mem_nil
  changed _ h := absurd h List.not_mem_nil
  contents _ h := absurd h List.not_mem_nil

namespace Sound

variable {session : Session Registry} (hs : Sound session)

include hs

theorem index_lt {a : Holding} (ha : a ∈ session.holdings) :
    a.handle.index < session.registry.documents.length := by
  have hsome := hs.document_name a ha
  by_contra hout
  rw [List.getElem?_eq_none (by omega)] at hsome
  simp at hsome

/-- A registered handle is already held, so that it adds nothing to the handles of a session. -/
theorem obtain_registered {handle : Handle} (h : handle ∈ session.registry.handles) :
    Sound (session.obtain (handle, session.registry)) := by
  have hold : ∀ a ∈ (session.obtain (handle, session.registry)).holdings,
      a ∈ session.holdings :=
    Session.forall_mem_obtain.2 ⟨fun _ ha => ha, hs.held handle h⟩
  exact
    { registry := hs.registry
      held := fun other hother => List.mem_append_left _ (hs.held other hother)
      registered := fun a ha => hs.registered a (hold a ha)
      era_le := fun a ha => hs.era_le a (hold a ha)
      document_name := fun a ha => hs.document_name a (hold a ha)
      same := fun a ha b hb => hs.same a (hold a ha) b (hold b hb)
      changed := hs.changed
      contents := fun a ha => hs.contents a (hold a ha) }

/-- A name that is not registered leads to a document that nobody held before. -/
theorem obtain_new {name : String} (h : session.registry.get? name = none) :
    Sound (session.obtain (session.registry.getOrCreate name)) := by
  have hnew : ∀ a ∈ session.holdings, ¬ (a.era = session.era ∧ a.handle.name = name) := by
    rintro a ha ⟨hera, hname⟩
    exact get?_eq_none_iff.1 h (List.mem_map.2 ⟨a.handle, hs.registered a ha hera, hname⟩)
  have hregistry := hs.registry.getOrCreate name
  rw [getOrCreate_of_none h] at hregistry ⊢
  refine
    { registry := hregistry
      held := ?_
      registered := Session.forall_mem_obtain.2
        ⟨fun a ha hera => List.mem_append_left _ (hs.registered a ha hera),
          fun _ => List.mem_concat_self⟩
      era_le := Session.forall_mem_obtain.2 ⟨hs.era_le, Nat.le_refl _⟩
      document_name := Session.forall_mem_obtain.2 ⟨?_, by simp [Session.obtain, ClassDoc.empty]⟩
      same := Session.forall_mem_obtain.2
        ⟨fun a ha => Session.forall_mem_obtain.2 ⟨hs.same a ha, ?_⟩,
          Session.forall_mem_obtain.2 ⟨?_, by simp⟩⟩
      changed := ?_
      contents := Session.forall_mem_obtain.2 ⟨?_, ?_⟩ }
  · intro handle hhandle
    rcases List.mem_append.1 hhandle with hold | hlast
    · exact List.mem_append_left _ (hs.held handle hold)
    · rw [List.mem_singleton.1 hlast]
      exact List.mem_concat_self
  · intro a ha
    exact (congrArg _ (List.getElem?_append_left (hs.index_lt ha))).trans (hs.document_name a ha)
  · exact iff_of_false (Nat.ne_of_lt (hs.index_lt ha)) (hnew a ha)
  · intro b hb
    exact iff_of_false (Nat.ne_of_gt (hs.index_lt hb)) fun heq => hnew b hb ⟨heq.1.symm, heq.2.symm⟩
  · intro entry hentry
    have hlt := hs.changed entry hentry
    simp only [Session.obtain, List.length_append, List.length_singleton]
    omega
  · intro a ha
    have hcontents := hs.contents a ha
    rw [document] at hcontents
    rw [document, Session.obtain, List.getElem?_append_left (hs.index_lt ha), hcontents]
    rfl
  · -- nothing was changed through a handle of this document, as there was none
    have hunchanged : session.changes.filter (fun entry =>
        entry.1.sameDocument ⟨session.registry.documents.length, name⟩) = [] := by
      refine List.filter_eq_nil_iff.2 fun entry hentry => ?_
      simpa [Handle.sameDocument] using Nat.ne_of_lt (hs.changed entry hentry)
    simp [document, Session.obtain, Session.changesThrough, hunchanged, replay]

theorem clear :
    Sound { session with registry := session.registry.clear, era := session.era + 1 } where
  registry := ⟨List.nodup_nil, List.nodup_nil, fun _ h => absurd h List.not_mem_nil⟩
  held _ h := absurd h List.not_mem_nil
  registered a ha hera := by
    have hle := hs.era_le a ha
    have hnext : a.era = session.era + 1 := hera
    omega
  era_le a ha := Nat.le_succ_of_le (hs.era_le a ha)
  document_name := hs.document_name
  same := hs.same
  changed := hs.changed
  contents := hs.contents

theorem edit {a : Holding} (ha : a ∈ session.holdings) (change : Change) :
    Sound (session.edit form a.handle change) where
  registry := hs.registry.modify (change.name_apply _)
  held := hs.held
  registered := hs.registered
  era_le := hs.era_le
  document_name b hb := by
    obtain ⟨doc, hdoc, hname⟩ := Option.map_eq_some_iff.1 (hs.document_name b hb)
    by_cases hindex : a.handle.index = b.handle.index
    · simp [Session.edit, form, modify, hindex, hdoc, hname]
    · simp [Session.edit, form, modify, hindex, hdoc, hname]
  same := hs.same
  changed entry hentry := by
    simp only [Session.edit, form, modify, List.length_modify]
    rcases List.mem_append.1 hentry with hold | hlast
    · exact hs.changed entry hold
    · rw [List.mem_singleton.1 hlast]
      exact hs.index_lt ha
  contents b hb := by
    by_cases hindex : a.handle.index = b.handle.index
    · rw [Session.changesThrough_edit_of_eq form hindex, replay_concat, ← hs.contents b hb]
      exact document_modify_of_eq hindex (hs.index_lt hb) change.apply
    · rw [Session.changesThrough_edit_of_ne form hindex, ← hs.contents b hb]
      exact document_modify_of_ne hindex change.apply

theorem step (operation : Operation) : Sound (session.step form operation) := by
  cases operation with
  | getOrCreate name =>
      cases h : session.registry.get? name with
      | none => exact hs.obtain_new h
      | some handle =>
          have hfound := getOrCreate_of_some h
          exact (congrArg (fun found => Sound (session.obtain found)) hfound).mpr
            (hs.obtain_registered (mem_of_get? h).1)
  | get name =>
      rw [Session.step]
      cases h : session.registry.get? name with
      | none => simpa only [form, h] using hs
      | some handle => simpa only [form, h] using hs.obtain_registered (mem_of_get? h).1
  | clear => exact hs.clear
  | change position change =>
      rw [Session.step]
      cases h : session.holdings[position]? with
      | none => exact hs
      | some holding => exact hs.edit (List.mem_of_getElem? h) change

end Sound

theorem sound_run (operations : List Operation) : Sound (Session.run form operations) := by
  induction operations using List.reverseRecOn with
  | nil => exact sound_start
  | append_singleton operations operation ih =>
      rw [Session.run_concat]
      exact ih.step operation

end SchemaDocs.Registry

namespace SchemaDocs

/-! ## A registry with an index -/

/-- A registry that finds a handle in an index of names, kept beside the list of handles. -/
structure IndexedRegistry where
  documents : List ClassDoc
  byName : String → Option Handle
  order : List Handle

namespace IndexedRegistry

def empty : IndexedRegistry := ⟨[], fun _ => none, []⟩

def get? (registry : IndexedRegistry) (name : String) : Option Handle := registry.byName name

def getOrCreate (registry : IndexedRegistry) (name : String) : Handle × IndexedRegistry :=
  match registry.byName name with
  | some handle => (handle, registry)
  | none =>
    let handle : Handle := ⟨registry.documents.length, name⟩
    (handle,
      ⟨registry.documents ++ [ClassDoc.empty name],
        Function.update registry.byName name (some handle),
        registry.order ++ [handle]⟩)

def modify (registry : IndexedRegistry) (handle : Handle) (f : ClassDoc → ClassDoc) :
    IndexedRegistry :=
  { registry with documents := registry.documents.modify handle.index f }

def clear (registry : IndexedRegistry) : IndexedRegistry :=
  { registry with byName := fun _ => none, order := [] }

/-- The registry without its index. -/
def plain (registry : IndexedRegistry) : Registry := ⟨registry.documents, registry.order⟩

/-- The form of registry that has an index. -/
def form : Registry.Form IndexedRegistry := ⟨empty, getOrCreate, get?, clear, modify⟩

/-- The index leads to the handle that the list has for a name. -/
def Coherent (registry : IndexedRegistry) : Prop :=
  ∀ name, registry.byName name = registry.plain.get? name

theorem Coherent.getOrCreate {registry : IndexedRegistry} (h : registry.Coherent) (name : String) :
    (registry.getOrCreate name).2.Coherent ∧
      registry.plain.getOrCreate name =
        ((registry.getOrCreate name).1, (registry.getOrCreate name).2.plain) := by
  rw [IndexedRegistry.getOrCreate]
  cases hname : registry.byName name with
  | some handle =>
      exact ⟨h, Registry.getOrCreate_of_some ((h name).symm.trans hname)⟩
  | none =>
      have hnone : registry.plain.get? name = none := (h name).symm.trans hname
      refine ⟨fun other => ?_, Registry.getOrCreate_of_none hnone⟩
      have hother : registry.byName other = registry.order.find? fun handle => handle.name = other :=
        h other
      rw [plain, Registry.get?, List.find?_append]
      by_cases hsame : other = name
      · rw [hsame] at hother ⊢
        simp [← hother, hname]
      · simp [← hother, hsame, Ne.symm hsame]

end IndexedRegistry

end SchemaDocs

namespace SchemaDocs.Registry

/-! ## Sessions with an index -/

/-- The session without the index of its registry. -/
def Session.plain (session : Session IndexedRegistry) : Session Registry :=
  { session with registry := session.registry.plain }

theorem plain_step {session : Session IndexedRegistry} (h : session.registry.Coherent)
    (operation : Operation) :
    (session.step IndexedRegistry.form operation).registry.Coherent ∧
      (session.step IndexedRegistry.form operation).plain = session.plain.step form operation := by
  cases operation with
  | getOrCreate name =>
      obtain ⟨hcoherent, hplain⟩ := h.getOrCreate name
      refine ⟨hcoherent, ?_⟩
      exact (congrArg session.plain.obtain hplain).symm
  | get name =>
      have hname : session.plain.registry.get? name = session.registry.get? name := (h name).symm
      simp only [Session.step, form, IndexedRegistry.form, hname]
      cases session.registry.get? name with
      | none => exact ⟨h, rfl⟩
      | some handle => exact ⟨h, rfl⟩
  | clear => exact ⟨fun _ => rfl, rfl⟩
  | change position change =>
      simp only [Session.step, Session.plain]
      cases session.holdings[position]? with
      | none => exact ⟨h, rfl⟩
      | some holding => exact ⟨h, rfl⟩

/-- A session goes the same way with an index as without. -/
theorem plain_run (operations : List Operation) :
    (Session.run IndexedRegistry.form operations).registry.Coherent ∧
      (Session.run IndexedRegistry.form operations).plain = Session.run form operations := by
  induction operations using List.reverseRecOn with
  | nil => exact ⟨fun _ => rfl, rfl⟩
  | append_singleton operations operation ih =>
      rw [Session.run_concat, Session.run_concat, ← ih.2]
      exact plain_step ih.1 operation

/-! ## Names and documents of a session -/

/-- Whatever is done with a registry, its list has the names created since the last clearing, in
the order of their creation, and a name leads to a handle exactly then.  Handles stand for one
document exactly if they bear one name and no clearing lies between them, and a handle's document
shows what was changed through the handles of that document and nothing else. -/
theorem one_document_per_name_between_clearings (operations : List Operation) :
    let session := Session.run form operations
    let indexed := Session.run IndexedRegistry.form operations
    (session.registry.names = createdNames operations ∧ session.registry.names.Nodup) ∧
      (∀ name, (session.registry.get? name).isSome ↔ name ∈ createdNames operations) ∧
      (∀ name handle, session.registry.get? name = some handle ↔
        handle ∈ session.registry.handles ∧ handle.name = name) ∧
      (∀ handle ∈ session.registry.handles, ⟨handle, session.era⟩ ∈ session.holdings) ∧
      (∀ a ∈ session.holdings, ∀ b ∈ session.holdings,
        a.handle.sameDocument b.handle ↔ a.era = b.era ∧ a.handle.name = b.handle.name) ∧
      (∀ a ∈ session.holdings, (session.registry.document a.handle).name = a.handle.name) ∧
      (∀ a ∈ session.holdings, session.registry.document a.handle =
        replay a.handle.name (session.changesThrough a.handle)) ∧
      indexed.plain = session ∧
      (∀ name, indexed.registry.get? name = session.registry.get? name) := by
  intro session indexed
  have hs : Sound session := sound_run operations
  have hnames : session.registry.names = createdNames operations := names_run operations
  obtain ⟨hcoherent, hplain⟩ := plain_run operations
  refine ⟨⟨hnames, hs.registry.names⟩, ?_, ?_, hs.held, ?_, ?_, hs.contents, hplain, ?_⟩
  · intro name
    rw [← hnames, ← not_iff_not, Option.not_isSome_iff_eq_none]
    exact get?_eq_none_iff
  · intro name handle
    refine ⟨mem_of_get?, ?_⟩
    rintro ⟨hmem, rfl⟩
    exact hs.registry.get?_eq hmem
  · intro a ha b hb
    rw [← hs.same a ha b hb]
    simp [Handle.sameDocument]
  · intro a ha
    obtain ⟨doc, hdoc, hname⟩ := Option.map_eq_some_iff.1 (hs.document_name a ha)
    rw [document, hdoc, Option.getD_some, hname]
  · intro name
    exact (hcoherent name).trans (congrArg (fun session => session.registry.get? name) hplain)

end SchemaDocs.Registry
