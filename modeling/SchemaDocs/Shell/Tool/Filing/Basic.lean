import SchemaDocs.Shell.Process
import SchemaDocs.Shell.Tool.Arguments
/-!
# Programs on the tree of files

What programs on files do alike: they look for places, walk through directories, ask before
they do something, and keep what was there under other names.
-/

namespace SchemaDocs.Shell

namespace Filing

/-- Changes the tree of files. -/
def changeTree (change : FileTree → FileTree) : Program Unit := System.changeTree change

/-- The tree of files. -/
def tree : Program FileTree := do return (← get).tree

/-- What stands at a path, or why it cannot be looked at.  A link at the end may be left as it is. -/
def placeWith (leavesLast : Bool) (path : ByteText) : Program (Except FileError FilePlace) := do
  let directory := (← read).directory
  match (← tree).locateWith leavesLast directory path.toString with
  | .error cause => return .error cause
  | .ok place =>
    match place.kind with
    | .missing => return .error .notFound
    | .directory => return .ok place
    | _ => if place.path.endsInSlash then return .error .notADirectory else return .ok place

/-- What stands at a path after all links, or why it cannot be looked at. -/
def placeOf (path : ByteText) : Program (Except FileError FilePlace) := placeWith false path

/-- What stands at a path itself, be it a link, or why it cannot be looked at. -/
def linkPlaceOf (path : ByteText) : Program (Except FileError FilePlace) := placeWith true path

/-- Where something can be made that is not there. -/
def newPlaceWith (leavesLast : Bool) (path : ByteText) :
    Program (Except FileError FilePlace) := do
  let directory := (← read).directory
  match (← tree).locateWith leavesLast directory path.toString with
  | .error cause => return .error cause
  | .ok place => return .ok place

/-- Where something can be made that is not there. -/
def newPlaceOf (path : ByteText) : Program (Except FileError FilePlace) := newPlaceWith false path

/-- What stands in a tree at the end of steps and under it, the innermost first.  Each step goes one
level deep. -/
def underFrom (tree : FileTree) : Nat → Steps → List Steps
  | 0, steps => [steps]
  | depth + 1, steps =>
    match tree.kind steps with
    | .directory =>
      ((tree.namesIn steps).map fun name => underFrom tree depth (steps ++ [name])).flatten
        ++ [steps]
    | _ => [steps]

/-- The greatest depth of directories that is looked at. -/
def deepest : Nat := 50

/-- The tree without a part of it. -/
def without (tree : FileTree) (steps : Steps) : FileTree :=
  (underFrom tree deepest steps).foldl FileTree.remove tree

/-- The path of steps from the root. -/
def pathOf (steps : Steps) : ByteText :=
  if steps.isEmpty then ['/'] else (steps.map fun name => '/' :: ByteText.ofString name).flatten

/-- The path of a name in a directory. -/
def inside (directory name : ByteText) : ByteText :=
  (if directory.getLast? = some '/' then directory else directory ++ ['/']) ++ name

/-- Does something for all of some operands, and gives one if it fails for any of them. -/
def forAll (operands : List ByteText) (step : ByteText → Program Bool) : Program Nat :=
  operands.foldlM (fun code operand => do
    return if ← step operand then code else 1) 0

/-- Fails after a message. -/
def refuse (text : ByteText) : Program Bool := do
  Program.complain text
  return false

/-- Fails after a message about a file, with the reason. -/
def refuseFor (start : String) (path : ByteText) (cause : FileError) : Program Bool :=
  refuse (ascii start ++ Program.quoted path ++ ascii (": " ++ cause.reason))

/-- Asks a question, and tells whether the answer is yes. -/
def confirm (question : ByteText) : Program Bool := do
  Program.err ((← Program.name) ++ ascii ": " ++ question ++ [' '])
  match ← Program.descriptor? 0 with
  | none => return false
  | some channel =>
    let answer ← System.readLine channel
    return answer.head? = some 'y' || answer.head? = some 'Y'

/-- What kind of file stands somewhere, in words. -/
def kindWords (tree : FileTree) (steps : Steps) : String :=
  match tree.kind steps with
  | .directory => "directory"
  | .link => "symbolic link"
  | .device _ => "character special file"
  | .missing => "missing"
  | .file =>
    if ((tree.file? steps).getD [0]).isEmpty then "regular empty file" else "regular file"

/-! ## Keeping what was there -/

/-- How what was there is kept under another name. -/
inductive Backup where
  | nothing
  /-- Under the name with an ending. -/
  | simple
  /-- Under the name with a number. -/
  | numbered
  /-- With a number if there are such names already. -/
  | existing
deriving DecidableEq

/-- The way to keep what was there that a word names. -/
def backupOf (word : ByteText) : Program (Except Nat Backup) := do
  if word.isEmpty then return .ok .existing
  else
    match ← Program.choose 1 "backup type"
        [["none", "off"], ["simple", "never"], ["existing", "nil"], ["numbered", "t"]] word with
    | .ok 0 => return .ok .nothing
    | .ok 1 => return .ok .simple
    | .ok 2 => return .ok .existing
    | .ok _ => return .ok .numbered
    | .error code => return .error code

/-- The numbers under which a name was kept. -/
def backupNumbers (tree : FileTree) (steps : Steps) : List Nat :=
  let start := ByteText.ofString (steps.getLast?.getD "") ++ ascii ".~"
  (tree.namesIn steps.dropLast).filterMap fun name =>
    let name := ByteText.ofString name
    if start.isPrefixOf name && name.getLast? = some '~' then
      ByteText.toNat? (name.drop start.length).dropLast
    else none

/-- The ending of the name under which what stands at the end of steps is kept, if it is. -/
def backupEnding? (backup : Backup) (suffix : ByteText) (tree : FileTree) (steps : Steps) :
    Option ByteText :=
  let numbers := backupNumbers tree steps
  let numbered := ascii ".~" ++ ByteText.ofNat (numbers.foldl max 0 + 1) ++ ['~']
  match backup with
  | .nothing => none
  | .simple => some suffix
  | .numbered => some numbered
  | .existing => some (if numbers.isEmpty then suffix else numbered)

/-- Steps whose last name has an ending. -/
def withEnding (steps : Steps) (ending : ByteText) : Steps :=
  steps.dropLast ++ [steps.getLast?.getD "" ++ ending.toString]

/-- The tree with what stood at the end of steps under another name. -/
def renamed (tree : FileTree) (source target : Steps) : FileTree :=
  let parts := (underFrom tree deepest source).reverse
  let moved := parts.foldl (fun changed steps =>
    let place := target ++ steps.drop source.length
    match tree.entry? steps with
    | some entry => changed.put place entry
    | none =>
      match tree.kind steps with
      | .directory => changed.put place (.directory (tree.marks steps))
      | _ => changed.put place (.file [] (tree.marks steps))) (without tree target)
  without moved source

/-- A text in which a character stands for each byte as one of a name. -/
def nameOf (steps : Steps) : ByteText := ByteText.ofString (steps.getLast?.getD "")

end Filing

end SchemaDocs.Shell
