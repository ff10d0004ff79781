import SchemaDocs.Files.Tree
/-!
# Reading what was written

A file that was written is found under the path that it was written to.  The way to it leads
through directories and links only, which a file in its place leaves as they are.
-/

namespace SchemaDocs.FileTree

section

variable (tree : FileTree) (steps : Steps) (entry : FileEntry)

theorem entry?_put_self : FileTree.entry? (tree.put steps entry) steps = some entry := by
  have hothers : (tree.entries.filter fun other => other.1 != steps).find?
      (fun entry => decide (entry.1 = steps)) = none := by
    rw [List.find?_eq_none]
    intro other hother
    simpa using (List.mem_filter.1 hother).2
  unfold entry? put
  rw [List.find?_append, hothers]
  simp

theorem entry?_put_of_ne {other : Steps} (h : other ≠ steps) :
    FileTree.entry? (tree.put steps entry) other = tree.entry? other := by
  have hlast : [(steps, entry)].find? (fun entry => decide (entry.1 = other)) = none := by
    simp [h.symm]
  have hsame : ∀ entry : Steps × FileEntry,
      decide ((entry.1 != steps) = true ∧ decide (entry.1 = other) = true) =
        decide (entry.1 = other) := by
    intro entry
    by_cases hentry : entry.1 = other
    · simp [hentry, h]
    · simp [hentry]
  unfold entry? put
  rw [List.find?_append, hlast, List.find?_filter, Option.or_none]
  simp only [hsame]

theorem kind_put_of_ne {other : Steps} (h : other ≠ steps) :
    (tree.put steps entry).kind other = tree.kind other := by
  rw [kind, entry?_put_of_ne tree steps entry h]
  rfl

theorem link?_put_of_ne {other : Steps} (h : other ≠ steps) :
    (tree.put steps entry).link? other = tree.link? other := by
  rw [link?, entry?_put_of_ne tree steps entry h]
  rfl

end

section

variable {tree : FileTree}

theorem link?_eq_none {steps : Steps} (h : tree.kind steps ≠ .link) : tree.link? steps = none := by
  rw [kind] at h
  rw [link?]
  split at h <;> simp_all

/-- One step of a way from a directory, and then the rest of it. -/
def followName (link? : Steps → Option String) (leavesLast : Bool)
    (rest : Steps → List String → Except FileError Steps) (steps : Steps) (name : String)
    (names : List String) : Except FileError Steps :=
  if name = "." then rest steps names
  else if name = ".." then rest steps.dropLast names
  else if isTooLongName name then .error .nameTooLong
  else
    let next := Surroundings.followLinks (steps ++ [name])
    match link? next with
    | some target =>
      if names.isEmpty && leavesLast then .ok next
      else
        let path := FilePath.ofString target
        rest (if path.isAbsolute then [] else steps) (path.names ++ names)
    | none => rest next names

theorem follow_cons_of_directory {steps : Steps} (h : tree.kind steps = .directory)
    (leavesLast : Bool) (fuel : Nat) (name : String) (names : List String) :
    tree.follow leavesLast (fuel + 1) steps (name :: names) =
      followName tree.link? leavesLast (tree.follow leavesLast fuel) steps name names := by
  rw [follow, h]
  rfl

theorem directory_of_follow_cons {steps goal : Steps} {leavesLast : Bool} {fuel : Nat}
    {name : String} {names : List String}
    (h : tree.follow leavesLast (fuel + 1) steps (name :: names) = .ok goal) :
    tree.kind steps = .directory := by
  rw [follow] at h
  split at h <;> simp_all

theorem followName_ok {link? : Steps → Option String} {leavesLast : Bool}
    {rest rest' : Steps → List String → Except FileError Steps} {steps goal : Steps}
    {name : String} {names : List String}
    (hrest : ∀ steps names, rest steps names = .ok goal → rest' steps names = .ok goal)
    (h : followName link? leavesLast rest steps name names = .ok goal) :
    followName link? leavesLast rest' steps name names = .ok goal := by
  rw [followName] at h ⊢
  grind

theorem locate_eq_ok_iff {start : Steps} {path : String} {place : FilePlace} :
    tree.locate start path = .ok place ↔
      (path.toList.contains '\x00' = false ∧ path ≠ "" ∧ path.utf8ByteSize ≤ longestPath) ∧
      tree.follow false mostSteps (if (FilePath.ofString path).isAbsolute then [] else start)
        (FilePath.ofString path).names = .ok place.steps ∧
      place = ⟨place.steps, tree.kind place.steps, FilePath.ofString path⟩ := by
  rw [locate, locateWith]
  simp only [Bool.false_and]
  by_cases hnul : path.toList.contains '\x00' = true
  · rw [if_pos hnul]
    simp only [hnul, Bool.true_eq_false, false_and, reduceCtorEq]
  · rw [if_neg hnul]
    by_cases hempty : path = ""
    · rw [if_pos hempty]
      simp [hempty]
    · rw [if_neg hempty]
      by_cases hlong : longestPath < path.utf8ByteSize
      · rw [if_pos hlong]
        simp [Nat.not_le_of_lt hlong]
      · rw [if_neg hlong]
        cases tree.follow false mostSteps
            (if (FilePath.ofString path).isAbsolute then [] else start)
            (FilePath.ofString path).names with
        | error cause => simp [bind, Except.bind]
        | ok goal =>
            obtain ⟨steps, kind, parsed⟩ := place
            simp only [bind, Except.bind]
            grind

variable {steps : Steps} (hdirectory : tree.kind steps ≠ .directory)
  (hlink : tree.kind steps ≠ .link) (contents : Bytes) (marks : FileMarks)

include hdirectory hlink

/-- A file in the place of what is neither a directory nor a link turns no way that leads
somewhere. -/
theorem follow_put_file (leavesLast : Bool) {fuel : Nat} {start goal : Steps} {names : List String}
    (h : tree.follow leavesLast fuel start names = .ok goal) :
    (tree.put steps (.file contents marks)).follow leavesLast fuel start names = .ok goal := by
  have hlinks : (tree.put steps (.file contents marks)).link? = tree.link? := by
    funext next
    by_cases hnext : next = steps
    · rw [hnext, link?_eq_none hlink, link?, entry?_put_self]
    · exact link?_put_of_ne tree steps _ hnext
  induction fuel generalizing start names with
  | zero => simp [follow] at h
  | succ fuel ih =>
      cases names with
      | nil =>
          rw [follow] at h ⊢
          exact h
      | cons name names =>
          have hstart := directory_of_follow_cons h
          -- a way goes on from directories only, so it passes by the changed place
          have hne : start ≠ steps := fun heq => hdirectory (heq ▸ hstart)
          rw [follow_cons_of_directory hstart] at h
          rw [follow_cons_of_directory ((kind_put_of_ne tree steps _ hne).trans hstart), hlinks]
          exact followName_ok (fun _ _ => ih) h

theorem locate_put_file {start : Steps} {path : String} {place : FilePlace}
    (h : tree.locate start path = .ok place) (hsteps : place.steps = steps) :
    (tree.put steps (.file contents marks)).locate start path =
      .ok { place with kind := .file } := by
  obtain ⟨hpath, hgoal, hplace⟩ := locate_eq_ok_iff.1 h
  have hkind : (tree.put steps (.file contents marks)).kind steps = .file := by
    rw [kind, entry?_put_self]
  refine locate_eq_ok_iff.2 ⟨hpath, follow_put_file hdirectory hlink contents marks _ hgoal, ?_⟩
  rw [hplace, hsteps, hkind]

end

theorem exists_putFile_eq (tree : FileTree) (steps : Steps) (contents : Bytes) :
    ∃ marks, tree.putFile steps contents = tree.put steps (.file contents marks) := by
  rw [putFile, putFileWith]
  split
  · exact ⟨_, rfl⟩
  · exact ⟨_, rfl⟩

/-- Whether a path leads to a file, or to where there is nothing yet. -/
def namesFile (tree : FileTree) (path : String) : Bool :=
  (tree.locate workSteps path).toOption.any fun place =>
    place.kind = .file || place.kind = .missing

theorem exists_of_namesFile {tree : FileTree} {path : String} (h : tree.namesFile path = true) :
    ∃ place, tree.locate workSteps path = .ok place ∧
      (tree.kind place.steps = .file ∨ tree.kind place.steps = .missing) ∧
      place.kind = tree.kind place.steps := by
  rw [namesFile] at h
  cases hplace : tree.locate workSteps path with
  | error cause => simp [hplace, Except.toOption] at h
  | ok place =>
      have hkind : place.kind = tree.kind place.steps := by
        rw [(locate_eq_ok_iff.1 hplace).2.2]
      refine ⟨place, rfl, ?_, hkind⟩
      simpa [hplace, Except.toOption, hkind] using h

/-- Writing to a path that names a file puts a file there, or fails. -/
theorem write_of_locate {tree : FileTree} {path : String} {place : FilePlace}
    (hplace : tree.locate workSteps path = .ok place)
    (hkind : place.kind = .file ∨ place.kind = .missing) (contents : Bytes) :
    (∃ cause, tree.write path contents = (.error cause, tree)) ∨
      place.path.endsInSlash = false ∧ ∃ marks,
        tree.write path contents = (.ok (), tree.put place.steps (.file contents marks)) := by
  obtain ⟨marks, hput⟩ := exists_putFile_eq tree place.steps contents
  rw [write, locateForWriting, hplace]
  simp only [bind, Except.bind]
  by_cases hslash : place.path.endsInSlash = true
  · left
    simp [hslash]
  · by_cases hmissing : (place.kind = .missing && !canMake place.steps) = true
    · left
      rcases hkind with hkind | hkind <;> simp_all
    · right
      refine ⟨by simpa using hslash, marks, ?_⟩
      rcases hkind with hkind | hkind <;> simp_all

/-- What was written to a file is read from it. -/
theorem read_of_write {tree after : FileTree} {path : String} {contents : Bytes}
    (hpath : tree.namesFile path = true) (hwrite : tree.write path contents = (.ok (), after)) :
    after.read path = (.ok contents, after) := by
  obtain ⟨place, hplace, hfound, hkind⟩ := exists_of_namesFile hpath
  rcases write_of_locate hplace (hkind ▸ hfound) contents with
    ⟨cause, hfailed⟩ | ⟨hslash, marks, hput⟩
  · rw [hfailed] at hwrite
    simp at hwrite
  · rw [hput, Prod.mk.injEq] at hwrite
    obtain ⟨-, rfl⟩ := hwrite
    have hdirectory : tree.kind place.steps ≠ .directory := by
      rcases hfound with hfound | hfound <;> simp [hfound]
    have hlink : tree.kind place.steps ≠ .link := by
      rcases hfound with hfound | hfound <;> simp [hfound]
    rw [read, locateForReading, locate_put_file hdirectory hlink contents marks hplace rfl]
    simp [bind, Except.bind, hslash, file?, entry?_put_self]

/-- Reading takes nothing from a tree but the input of the program. -/
theorem input_of_read (tree : FileTree) (path : String) :
    { (tree.read path).2 with input := tree.input } = tree := by
  rw [read]
  split
  · rfl
  · split <;> rfl

theorem follow_with_input (tree : FileTree) (input : Bytes) (leavesLast : Bool) (fuel : Nat)
    (steps : Steps) (names : List String) :
    { tree with input := input }.follow leavesLast fuel steps names =
      tree.follow leavesLast fuel steps names := by
  induction fuel generalizing steps names with
  | zero => rfl
  | succ fuel ih =>
      cases names with
      | nil => rfl
      | cons name names =>
          rw [follow, follow]
          simp only [ih]
          rfl

theorem namesFile_with_input (tree : FileTree) (input : Bytes) (path : String) :
    { tree with input := input }.namesFile path = tree.namesFile path := by
  rw [namesFile, namesFile, locate, locate, locateWith, locateWith]
  simp only [follow_with_input]
  rfl

end SchemaDocs.FileTree
