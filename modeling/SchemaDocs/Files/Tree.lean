import SchemaDocs.Files.Error
import SchemaDocs.Files.Surroundings
/-!
# A tree of files

Files and directories, those that were made and those that were there before.  Paths lead
through them step by step, from the root or from the directory that one stands in, so
that a path fails at the first step that cannot be taken.  Where a link stands, the path
that it holds is followed instead.  A file is read and written as a whole.
-/

namespace SchemaDocs

/-- A way to read and write files, with effects in a monad. -/
structure FileAccess (m : Type → Type) where
  read : String → m (Except FileError Bytes)
  write : String → Bytes → m (Except FileError Unit)

/-- What is noted of a file besides what it holds: the bits that say who may do what with it, and when
it was changed last, in billionths of a second. -/
structure FileMarks where
  mode : Nat
  changed : Int
deriving DecidableEq

/-- What was made at the end of some steps. -/
inductive FileEntry where
  | file (contents : Bytes) (marks : FileMarks)
  | directory (marks : FileMarks)
  /-- A path that is to be followed instead. -/
  | link (target : String) (marks : FileMarks)
  /-- Something that was there and is so no more. -/
  | removed
deriving DecidableEq

/-- What was made in a tree, each under its steps from the root, and what can be read from and was
written to the streams of the program. -/
structure FileTree where
  entries : List (Steps × FileEntry) := []
  /-- The billionths of a second since the start, where each change takes one. -/
  clock : Nat := 0
  input : Bytes := []
  output : Bytes := []

/-- The rights of files that are made without anything else being asked for. -/
def FileMarks.usualMode : Nat := 420

/-- The rights of directories that are made without anything else being asked for. -/
def FileMarks.usualDirectoryMode : Nat := 493

/-- The rights of links. -/
def FileMarks.linkMode : Nat := 511

/-- The billionths of a second from the epoch to the start. -/
def FileMarks.start : Int := 1750000000000000000

/-- A path that was followed: where it leads to and what stands there. -/
structure FilePlace where
  steps : Steps
  kind : FileKind
  path : FilePath

namespace FileTree

/-- The tree in which nothing was made. -/
def empty : FileTree := {}

/-- The directory that relative paths of the program start from. -/
def workSteps : Steps := ["tmp", "work"]

/-- What was made at the end of some steps. -/
def entry? (tree : FileTree) (steps : Steps) : Option FileEntry :=
  (tree.entries.find? fun entry => entry.1 = steps).map Prod.snd

/-- What was there before at the end of some steps. -/
def standing (steps : Steps) : FileKind :=
  match Surroundings.device? steps with
  | some device => .device device
  | none =>
    if steps = workSteps || Surroundings.directories.contains steps then .directory
    else if Surroundings.files.contains steps
      || (steps.dropLast = Surroundings.programSteps
        && Surroundings.programs.contains (steps.getLast?.getD "")) then .file
    else .missing

/-- What stands at the end of some steps. -/
def kind (tree : FileTree) (steps : Steps) : FileKind :=
  match tree.entry? steps with
  | some (.file ..) => .file
  | some (.directory _) => .directory
  | some (.link ..) => .link
  | some .removed => .missing
  | none => standing steps

/-- The path that the link at the end of some steps holds. -/
def link? (tree : FileTree) (steps : Steps) : Option String :=
  match tree.entry? steps with
  | some (.link target _) => some target
  | _ => none

/-- The steps on from some place by the names of a path.  Every name has to be looked for in a
directory.  A link at the end may be left as it is.  Each step takes a name, which may come from a
link. -/
def follow (tree : FileTree) (leavesLast : Bool) :
    Nat → Steps → List String → Except FileError Steps
  | 0, _, _ => .error .tooManyLinks
  | _ + 1, steps, [] => .ok steps
  | fuel + 1, steps, name :: names =>
    match tree.kind steps with
    | .missing => .error .notFound
    | .directory =>
      if name = "." then follow tree leavesLast fuel steps names
      else if name = ".." then follow tree leavesLast fuel steps.dropLast names
      else if isTooLongName name then .error .nameTooLong
      else
        let next := Surroundings.followLinks (steps ++ [name])
        match tree.link? next with
        | some target =>
          if names.isEmpty && leavesLast then .ok next
          else
            let path := FilePath.ofString target
            follow tree leavesLast fuel (if path.isAbsolute then [] else steps)
              (path.names ++ names)
        | none => follow tree leavesLast fuel next names
    | _ => .error .notADirectory

/-- The most steps that a path takes, those of links among them. -/
def mostSteps : Nat := 6000

/-- Follows a path from a directory to what it names, which need not be there.  A link at its end may
be left as it is. -/
def locateWith (tree : FileTree) (leavesLast : Bool) (start : Steps) (path : String) :
    Except FileError FilePlace :=
  if path.toList.contains '\x00' then .error .nulInName
  else if path = "" then .error .notFound
  else if longestPath < path.utf8ByteSize then .error .nameTooLong
  else do
    let parsed := FilePath.ofString path
    let leavesLast := leavesLast && !parsed.endsInSlash
    let steps ← tree.follow leavesLast mostSteps (if parsed.isAbsolute then [] else start)
      parsed.names
    .ok ⟨steps, tree.kind steps, parsed⟩

/-- Follows a path from a directory to what it names, which need not be there. -/
def locate (tree : FileTree) (start : Steps) (path : String) : Except FileError FilePlace :=
  tree.locateWith false start path

/-- The contents of the file that was made at the end of some steps. -/
def file? (tree : FileTree) (steps : Steps) : Option Bytes :=
  match tree.entry? steps with
  | some (.file contents _) => some contents
  | _ => none

/-- What is noted of what stands at the end of some steps. -/
def marks (tree : FileTree) (steps : Steps) : FileMarks :=
  match tree.entry? steps with
  | some (.file _ marks) => marks
  | some (.directory marks) => marks
  | some (.link _ marks) => marks
  | _ =>
    match tree.kind steps with
    | .directory => ⟨if steps = ["tmp"] then 1023 else 493, FileMarks.start⟩
    | .file => ⟨if steps.dropLast = Surroundings.programSteps then 493 else 420, FileMarks.start⟩
    | _ => ⟨438, FileMarks.start⟩

/-- Whether a file is one that may be run. -/
def isExecutable (tree : FileTree) (steps : Steps) : Bool := (tree.marks steps).mode &&& 73 != 0

/-- The time of a tree, from the epoch. -/
def now (tree : FileTree) : Int := FileMarks.start + tree.clock

/-- The tree with an entry at the end of some steps. -/
def put (tree : FileTree) (steps : Steps) (entry : FileEntry) : FileTree :=
  { tree with
    entries := tree.entries.filter (fun other => other.1 != steps) ++ [(steps, entry)]
    clock := tree.clock + 1 }

/-- The tree with a file at the end of some steps, which has some rights if it is new. -/
def putFileWith (tree : FileTree) (mode : Nat) (steps : Steps) (contents : Bytes) : FileTree :=
  match tree.entry? steps with
  | some (.file _ marks) => tree.put steps (.file contents { marks with changed := tree.now })
  | _ => tree.put steps (.file contents ⟨mode, tree.now⟩)

/-- The tree with a file at the end of some steps. -/
def putFile (tree : FileTree) (steps : Steps) (contents : Bytes) : FileTree :=
  tree.putFileWith FileMarks.usualMode steps contents

/-- The tree with a directory at the end of some steps. -/
def putDirectory (tree : FileTree) (mode : Nat) (steps : Steps) : FileTree :=
  tree.put steps (.directory ⟨mode, tree.now⟩)

/-- The tree with a link at the end of some steps. -/
def putLink (tree : FileTree) (steps : Steps) (target : String) : FileTree :=
  tree.put steps (.link target ⟨FileMarks.linkMode, tree.now⟩)

/-- The tree with something else noted of what stands at the end of some steps. -/
def putMarks (tree : FileTree) (steps : Steps) (marks : FileMarks) : FileTree :=
  match tree.entry? steps with
  | some (.file contents _) => tree.put steps (.file contents marks)
  | some (.link target _) => tree.put steps (.link target marks)
  | some (.directory _) => tree.put steps (.directory marks)
  | _ => if tree.kind steps = .directory then tree.put steps (.directory marks) else tree

/-- The tree without what is at the end of some steps. -/
def remove (tree : FileTree) (steps : Steps) : FileTree :=
  if standing steps = .missing then
    { tree with entries := tree.entries.filter fun other => other.1 != steps }
  else tree.put steps .removed

/-- Whether something may be made at the end of some steps. -/
def canMake (steps : Steps) : Bool := Surroundings.isWritable steps

/-- Where a file can be written that a path names.  A path that ends in a slash or dots names no
file. -/
def locateForWriting (tree : FileTree) (start : Steps) (path : String) :
    Except FileError FilePlace := do
  let place ← tree.locate start path
  if place.kind = .directory || place.path.endsInSlash then .error .isADirectory
  else if place.kind = .device .terminal then .error .noDevice
  else if place.kind = .missing && !canMake place.steps then .error .notFound
  else .ok place

/-- Where a file can be read that a path names. -/
def locateForReading (tree : FileTree) (start : Steps) (path : String) :
    Except FileError FilePlace := do
  let place ← tree.locate start path
  match place.kind with
  | .missing => .error .notFound
  | .device .terminal => .error .noDevice
  | .file => if place.path.endsInSlash then .error .notADirectory else .ok place
  | .link => .error .tooManyLinks
  | .device _ => if place.path.endsInSlash then .error .notADirectory else .ok place
  | .directory => .ok place

/-- Reads the file that a path names from the directory of the program. -/
def read (tree : FileTree) (path : String) : Except FileError Bytes × FileTree :=
  match tree.locateForReading workSteps path with
  | .error cause => (.error cause, tree)
  | .ok place =>
    match place.kind with
    | .directory => (.error .isADirectory, tree)
    | .device (.stream _) => (.ok tree.input, { tree with input := [] })
    | .device _ => (.ok [], tree)
    | _ => (.ok ((tree.file? place.steps).getD []), tree)

/-- Writes the file that a path names from the directory of the program. -/
def write (tree : FileTree) (path : String) (contents : Bytes) :
    Except FileError Unit × FileTree :=
  match tree.locateForWriting workSteps path with
  | .error cause => (.error cause, tree)
  | .ok place =>
    match place.kind with
    | .device .full =>
      if contents.isEmpty then (.ok (), tree) else (.error .noSpace, tree)
    | .device (.stream 1) => (.ok (), { tree with output := tree.output ++ contents })
    | .device _ => (.ok (), tree)
    | _ => (.ok (), tree.putFile place.steps contents)

/-- Reading and writing in a tree that is kept as a state. -/
def access : FileAccess (StateM FileTree) where
  read path := do
    let (outcome, tree) := (← get).read path
    set tree
    return outcome
  write path contents := do
    let (outcome, tree) := (← get).write path contents
    set tree
    return outcome

/-- The names of what stands directly in a directory. -/
def namesIn (tree : FileTree) (steps : Steps) : List String :=
  let made := tree.entries.filterMap fun entry =>
    if entry.1.dropLast = steps && !entry.1.isEmpty && entry.2 != .removed then entry.1.getLast?
    else none
  let there := (Surroundings.directories ++ Surroundings.files).filterMap fun other =>
    if other.dropLast = steps && !other.isEmpty && tree.entry? other = none then other.getLast?
    else none
  made ++ there

end FileTree

end SchemaDocs
