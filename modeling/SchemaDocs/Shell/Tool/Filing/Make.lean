import SchemaDocs.Shell.DateText
import SchemaDocs.Shell.Tool.Filing.Basic
/-!
# Making files

Programs that make directories, files and links, and change when files were changed and how
long they are.
-/

namespace SchemaDocs.Shell

namespace Tool

open Filing

/-! ## Directories -/

/-- How directories are made. -/
structure MkdirSettings where
  makesParents : Bool := false
  isVerbose : Bool := false
  changes : Option (List Rights.Change) := none

/-- Makes a directory.  It may be one of those that another one is in. -/
def makeDirectory (settings : MkdirSettings) (isParent : Bool) (path : ByteText) : Program Bool := do
  let refuse (cause : FileError) : Program Bool := refuseFor "cannot create directory " path cause
  match ← newPlaceOf path with
  | .error cause => refuse cause
  | .ok place =>
    match place.kind with
    | .missing =>
      if !FileTree.canMake place.steps then refuse .notFound
      else
        let mask := (← read).mask
        let usual := Rights.without 511 mask
        let mode :=
          match settings.changes with
          | some changes => if isParent then usual ||| 192 else Rights.after mask true changes 511
          | none => usual
        changeTree fun tree => tree.putDirectory mode place.steps
        if settings.isVerbose then
          Program.outLine (ascii "mkdir: created directory " ++ Program.quoted path)
        return true
    | .directory => if settings.makesParents then return true else refuse .exists
    | _ => refuse (if isParent then .notADirectory else .exists)

/-- The paths that a path leads through, the first one first, without itself. -/
def parentsOf (path : ByteText) : Nat → List ByteText
  | 0 => []
  | fuel + 1 =>
    let parent := parentOf path
    if parent = ['.'] || parent = ['/'] || parent = path then [] else parentsOf parent fuel ++ [parent]

/-- Makes a directory after those that it is in. -/
def makeDirectories (settings : MkdirSettings) (path : ByteText) : Program Bool := do
  let path' := withoutSlashes path
  let isFine ← (parentsOf path' path'.length).foldlM (fun isFine parent => do
    if isFine then makeDirectory settings true parent else return false) true
  if isFine then makeDirectory settings false path else return false

/-- Makes directories. -/
def mkdir : Tool :=
  Program.withArguments
    { forms :=
      [.both 'm' "mode" .required, .both 'p' "parents", .both 'v' "verbose", .letter 'Z',
       .word "context" .optional, .word "help", .word "version"] }
    ({} : MkdirSettings)
    (fun settings key argument => do
      match key with
      | "p" => return .ok { settings with makesParents := true }
      | "v" => return .ok { settings with isVerbose := true }
      | "m" =>
        match Rights.changes? argument with
        | some changes => return .ok { settings with changes := some changes }
        | none => return .error (← Program.die 1 (ascii "invalid mode " ++ Program.quoted argument))
      | _ => return .ok settings)
    fun settings operands => do
      if operands.isEmpty then Program.missingOperand
      else
        forAll operands fun path => do
          if settings.makesParents then makeDirectories settings path
          else makeDirectory settings false path

/-! ## Times -/

/-- The time of a tree in seconds. -/
def secondsNow : Program Int := do return (← tree).now / 1000000000

/-- The time of digits for a date and a time of day, where the year may be left out. -/
def digitTime? (now : Int) (text : ByteText) : Option Int :=
  let digits := text.takeWhile Char.isDigit
  let rest := text.drop digits.length
  let second? : Option Nat :=
    match rest with
    | [] => some 0
    | ['.', a, b] => ByteText.toNat? [a, b]
    | _ => none
  let two (place : Nat) : Nat := ByteText.valueIn 10 ((digits.drop place).take 2)
  let year? : Option (Int × Nat) :=
    match digits.length with
    | 8 => some ((Calendar.ofSeconds now).year, 0)
    | 10 => some (DateText.wholeYear (two 0) 2, 2)
    | 12 => some ((two 0 * 100 + two 2 : Nat), 4)
    | _ => none
  match year?, second? with
  | some (year, start), some second =>
    let month := two start
    let day := two (start + 2)
    if month = 0 || 12 < month || day = 0 || Calendar.daysIn year month < day
        || 23 < two (start + 4) || 59 < two (start + 6) || 60 < second then none
    else some (Calendar.secondsOf year month day (two (start + 4)) (two (start + 6)) second)
  | _, _ => none

/-- How files are touched: whether they are made, and the time that is noted. -/
structure TouchSettings where
  creates : Bool := true
  leavesLinks : Bool := false
  onlyAccess : Bool := false
  time : Option Int := none

/-- Settings after an option of the program that touches files. -/
def touchOption (settings : TouchSettings) (key : String) (argument : ByteText) :
    Program (Except Nat TouchSettings) := do
  let put (time : Option (Int × Nat)) : Program (Except Nat TouchSettings) := do
    match time with
    | some (seconds, nanos) =>
      return .ok { settings with time := some (seconds * 1000000000 + (nanos : Int)) }
    | none =>
      return .error (← Program.die 1 (ascii "invalid date format " ++ Program.quoted argument))
  match key with
  | "c" => return .ok { settings with creates := false }
  | "h" => return .ok { settings with leavesLinks := true, creates := false }
  | "a" => return .ok { settings with onlyAccess := true }
  | "m" => return .ok { settings with onlyAccess := false }
  | "d" => put (DateText.read? (← secondsNow) argument)
  | "t" => put ((digitTime? (← secondsNow) argument).map fun seconds => (seconds, 0))
  | "r" =>
    match ← placeOf argument with
    | .ok place => return .ok { settings with time := some ((← tree).marks place.steps).changed }
    | .error cause =>
      return .error (← Program.die 1 (ascii "failed to get attributes of "
        ++ Program.quoted argument ++ ascii (": " ++ cause.reason)))
  | "time" =>
    match ← Program.choose 1 "--time" [["atime", "access", "use"], ["mtime", "modify"]] argument with
    | .ok place => return .ok { settings with onlyAccess := place = 0 }
    | .error code => return .error code
  | _ => return .ok settings

/-- Notes a time of a file, which is made if it is not there. -/
def touchFile (settings : TouchSettings) (path : ByteText) : Program Bool := do
  if path = ['-'] then return true
  match ← newPlaceWith settings.leavesLinks path with
  | .error cause => refuseFor "cannot touch " path cause
  | .ok place =>
    let note : Program Bool := do
      if !settings.onlyAccess then
        changeTree fun tree =>
          let marks := tree.marks place.steps
          tree.putMarks place.steps { marks with changed := settings.time.getD tree.now }
      return true
    match place.kind with
    | .missing =>
      if !settings.creates then return true
      else if place.path.endsInSlash then refuseFor "setting times of " path .notFound
      else if !FileTree.canMake place.steps then refuseFor "cannot touch " path .notFound
      else
        Program.makeFile place.steps
        note
    | .directory => note
    | _ => if place.path.endsInSlash then refuseFor "setting times of " path .notADirectory else note

/-- Makes files that are not there, and notes times of those that are. -/
def touch : Tool :=
  Program.withArguments
    { forms :=
      [.letter 'a', .both 'c' "no-create", .both 'd' "date" .required, .letter 'f',
       .both 'h' "no-dereference", .letter 'm', .both 'r' "reference" .required,
       .letter 't' .required, .word "time" .required, .word "help", .word "version"] }
    ({} : TouchSettings) touchOption fun settings operands => do
      if operands.isEmpty then Program.misuse 1 (ascii "missing file operand")
      else forAll operands (touchFile settings)

/-! ## New names -/

/-- The letters that stand for a choice in the name of a new file. -/
def choiceLetters : ByteText := ascii "abcdefghijklmnopqrstuvwxyzABCDEFGHIJKLMNOPQRSTUVWXYZ0123456789"

/-- Some letters for a new name, by how many there were before. -/
def chosenName (count seed : Nat) : ByteText :=
  (List.range count).map fun place =>
    (choiceLetters[(seed * 7919 + place * 104729 + seed / (place + 1)) % 62]?).getD 'x'

/-- How a new file is made. -/
structure MktempSettings where
  isDirectory : Bool := false
  isDry : Bool := false
  isQuiet : Bool := false
  inTemporary : Bool := false
  directory : Option ByteText := none
  suffix : Option ByteText := none

/-- What is wrong with the template of a new name, if something is. -/
def templateFault? (settings : MktempSettings) (template : ByteText) (choices : Nat) :
    Option ByteText :=
  let hasParent := settings.directory.isSome || settings.inTemporary
  if settings.suffix.isSome && template.getLast? != some 'X' then
    some (ascii "with --suffix, template " ++ Program.quoted template ++ ascii " must end in X")
  else if choices < 3 then some (ascii "too few X's in template " ++ Program.quoted template)
  else if (settings.suffix.getD []).contains '/' then
    some (ascii "invalid suffix " ++ Program.quoted (settings.suffix.getD [])
      ++ ascii ", contains directory separator")
  else if settings.inTemporary && template.contains '/' then
    some (ascii "invalid template, " ++ Program.quoted template
      ++ ascii ", contains directory separator")
  else if hasParent && template.head? = some '/' then
    some (ascii "invalid template, " ++ Program.quoted template
      ++ ascii "; with --tmpdir, it may not be absolute")
  else none

/-- Makes a file with a new name. -/
def mktemp : Tool :=
  Program.withArguments
    { forms :=
      [.both 'd' "directory", .both 'u' "dry-run", .both 'q' "quiet", .word "suffix" .required,
       .both 'p' "tmpdir" .optional, .letter 't', .word "help", .word "version"] }
    ({} : MktempSettings)
    (fun settings key argument => return .ok (match key with
      | "d" => { settings with isDirectory := true }
      | "u" => { settings with isDry := true }
      | "q" => { settings with isQuiet := true }
      | "suffix" => { settings with suffix := some argument }
      | "p" => { settings with
          directory := some (if argument.isEmpty then ascii "/tmp" else argument) }
      | "t" => { settings with inTemporary := true }
      | _ => settings))
    fun settings operands => do
      match operands with
      | _ :: _ :: _ => Program.misuse 1 (ascii "too many templates")
      | operands =>
        let given := operands.head?
        let template := given.getD (ascii "tmp.XXXXXXXXXX")
        let start := (template.reverse.dropWhile (· != 'X')).reverse
        let choices := (start.reverse.takeWhile (· = 'X')).length
        let suffix := template.drop start.length ++ settings.suffix.getD []
        match templateFault? settings template choices with
        | some fault => Program.die 1 fault
        | none =>
          let parent : ByteText ←
            match settings.directory with
            | some directory => pure (inside directory [])
            | none =>
              if settings.inTemporary || given.isNone then
                match ← Program.lookup? (ascii "TMPDIR") with
                | some (c :: cs) => pure (inside (c :: cs) [])
                | _ => pure (ascii "/tmp/")
              else pure []
          let seed := (← tree).entries.length + 1
          let path := parent ++ start.take (start.length - choices) ++ chosenName choices seed
            ++ suffix
          let fail (cause : FileError) : Program Nat := do
            let what := if settings.isDirectory then "directory" else "file"
            if settings.isQuiet then return 1
            else
              Program.die 1 (ascii ("failed to create " ++ what ++ " via template ")
                ++ Program.quoted (parent ++ template ++ settings.suffix.getD [])
                ++ ascii (": " ++ cause.reason))
          match ← newPlaceOf path with
          | .error cause => fail cause
          | .ok place =>
            if !FileTree.canMake place.steps then fail .notFound
            else
              if !settings.isDry then
                changeTree fun tree =>
                  if settings.isDirectory then tree.putDirectory 448 place.steps
                  else tree.putFileWith 384 place.steps []
              Program.outLine path
              return 0

/-! ## Links -/

/-- How links are made. -/
structure LinkSettings where
  isSymbolic : Bool := false
  isForced : Bool := false
  isAsking : Bool := false
  leavesLinks : Bool := false
  isPlain : Bool := false
  isRelative : Bool := false
  isVerbose : Bool := false
  target : Option ByteText := none
  backup : Backup := .nothing
  suffix : ByteText := ['~']

/-- Settings after an option of the program that makes links. -/
def lnOption (settings : LinkSettings) (key : String) (argument : ByteText) :
    Program (Except Nat LinkSettings) := do
  match key with
  | "s" => return .ok { settings with isSymbolic := true }
  | "f" => return .ok { settings with isForced := true, isAsking := false }
  | "i" => return .ok { settings with isForced := false, isAsking := true }
  | "n" => return .ok { settings with leavesLinks := true }
  | "T" => return .ok { settings with isPlain := true }
  | "r" => return .ok { settings with isRelative := true }
  | "v" => return .ok { settings with isVerbose := true }
  | "t" => return .ok { settings with target := some argument }
  | "b" => return .ok { settings with backup := .existing }
  | "S" => return .ok { settings with suffix := argument, backup := .existing }
  | "backup" =>
    match ← backupOf argument with
    | .ok backup => return .ok { settings with backup := backup }
    | .error code => return .error code
  | _ => return .ok settings

/-- The path from a directory to other steps. -/
def relativePath (start target : Steps) : ByteText :=
  let shared := ((start.zip target).takeWhile fun (a, b) => a = b).length
  let names := List.replicate (start.length - shared) ".." ++ target.drop shared
  if names.isEmpty then ['.']
  else ((names.map ByteText.ofString).intersperse ['/']).flatten

/-- Makes a link to a path. -/
def makeLink (settings : LinkSettings) (source path : ByteText) : Program Bool := do
  let kind := if settings.isSymbolic then "symbolic link " else "hard link "
  let fail (cause : FileError) (withSource : Bool) : Program Bool :=
    let sign := if settings.isSymbolic then " -> " else " => "
    refuse (ascii ("failed to create " ++ kind) ++ Program.quoted path
      ++ (if withSource then ascii sign ++ Program.quoted source else [])
      ++ ascii (": " ++ cause.reason))
  let original ← if settings.isSymbolic then pure none else do
    match ← linkPlaceOf source with
    | .ok place => pure (some (Except.ok place))
    | .error cause => pure (some (.error cause))
  match original with
  | some (.error cause) => refuseFor "failed to access " source cause
  | some (.ok { kind := .directory, .. }) =>
    refuse (Quoting.whereNeeded source ++ ascii ": hard link not allowed for directory")
  | original =>
    match ← newPlaceWith true path with
    | .error cause => fail cause (!settings.isSymbolic)
    | .ok place =>
      let isThere := place.kind != .missing
      let isSame := match original with
        | some (.ok other) => other.steps = place.steps
        | _ => false
      if isThere && place.kind = .directory then fail .exists false
      else if isThere && isSame && settings.isForced && settings.backup = .nothing then
        refuse (Program.quoted source ++ ascii " and " ++ Program.quoted path
          ++ ascii " are the same file")
      else
        let isWanted ←
          if isThere && settings.isAsking then
            confirm (ascii "replace " ++ Program.quoted path ++ ['?'])
          else pure true
        if !isWanted then return true
        else
          let ending ←
            if isThere then do
              pure (backupEnding? settings.backup settings.suffix (← tree) place.steps)
            else pure none
          if isThere && !settings.isForced && !settings.isAsking && ending.isNone then
            fail .exists false
          else if settings.isSymbolic && source.isEmpty then fail .notFound true
          else if !isThere && (!FileTree.canMake place.steps || place.path.endsInSlash) then
            fail .notFound (!settings.isSymbolic)
          else
            match ending with
            | some ending =>
              changeTree fun tree => renamed tree place.steps (withEnding place.steps ending)
            | none => changeTree fun tree => tree.remove place.steps
            let shown ←
              if settings.isRelative && settings.isSymbolic then
                match ← newPlaceOf source with
                | .ok other => pure (relativePath place.steps.dropLast other.steps)
                | .error _ => pure source
              else pure source
            changeTree fun tree =>
              match original with
              | some (.ok other) =>
                match tree.entry? other.steps with
                | some entry => tree.put place.steps entry
                | none => tree.putFile place.steps []
              | _ => tree.putLink place.steps shown.toString
            if settings.isVerbose then
              let sign := if settings.isSymbolic then " -> " else " => "
              let note := match ending with
                | some ending => Program.quoted (path ++ ending) ++ ascii " ~ "
                | none => []
              Program.outLine (note ++ Program.quoted path ++ ascii sign ++ Program.quoted shown)
            return true

/-- Makes links. -/
def ln : Tool :=
  Program.withArguments
    { forms :=
      [.word "backup" .optional, .letter 'b', .both 'd' "directory", .letter 'F',
       .both 'f' "force", .both 'i' "interactive", .both 'L' "logical", .both 'P' "physical",
       .both 'n' "no-dereference", .both 'r' "relative", .both 's' "symbolic",
       .both 'S' "suffix" .required, .both 't' "target-directory" .required,
       .both 'T' "no-target-directory", .both 'v' "verbose", .word "help", .word "version"] }
    ({} : LinkSettings) lnOption fun settings operands => do
      let isDirectory (path : ByteText) : Program Bool := do
        match ← placeWith settings.leavesLinks path with
        | .ok place => return place.kind = .directory
        | .error _ => return false
      let into (directory : ByteText) (sources : List ByteText) : Program Nat :=
        forAll sources fun source =>
          makeLink settings source (inside directory (lastNameOf source))
      match settings.target, operands.reverse with
      | _, [] => Program.misuse 1 (ascii "missing file operand")
      | some target, _ =>
        if ← isDirectory target then into target operands
        else
          let cause := match ← placeOf target with
            | .ok _ => FileError.notADirectory
            | .error cause => cause
          Program.die 1 (ascii "target directory " ++ Program.quoted target
            ++ ascii (": " ++ cause.reason))
      | none, [source] =>
        if settings.isPlain then
          Program.misuse 1 (ascii "missing destination file operand after "
            ++ Program.quoted source)
        else into ['.'] [source]
      | none, target :: sources =>
        if settings.isPlain then
          match sources with
          | [source] => forAll [target] (makeLink settings source)
          | _ => Program.extraOperand target
        else if ← isDirectory target then into target sources.reverse
        else
          match sources with
          | [source] => forAll [target] (makeLink settings source)
          | _ =>
            let cause := match ← placeOf target with
              | .ok _ => FileError.notADirectory
              | .error cause => cause
            Program.die 1 (ascii "target " ++ Program.quoted target
              ++ ascii (": " ++ cause.reason))

/-- Makes a second name for a file. -/
def link : Tool :=
  Program.withArguments { forms := [.word "help", .word "version"] } ()
    (fun _ _ _ => return .ok ()) fun _ operands => do
      match operands with
      | [] => Program.missingOperand
      | [source] => Program.misuse 1 (ascii "missing operand after " ++ Program.quoted source)
      | [source, path] =>
        let fail (cause : FileError) : Program Nat :=
          Program.die 1 (ascii "cannot create link " ++ Program.quoted path ++ ascii " to "
            ++ Program.quoted source ++ ascii (": " ++ cause.reason))
        match ← linkPlaceOf source, ← newPlaceWith true path with
        | .error cause, _ => fail cause
        | _, .error cause => fail cause
        | .ok place, .ok other =>
          if place.kind = .directory then fail .notPermitted
          else if other.kind != .missing then fail .exists
          else
            changeTree fun tree =>
              match tree.entry? place.steps with
              | some entry => tree.put other.steps entry
              | none => tree.putFile other.steps []
            return 0
      | _ :: _ :: third :: _ => Program.extraOperand third

/-! ## Lengths -/

/-- How the length of a file is changed. -/
inductive Resizing where
  | exactly | extend | reduce | atMost | atLeast | roundDown | roundUp
deriving DecidableEq

/-- The new length of a file. -/
def Resizing.apply (resizing : Resizing) (size old : Nat) : Nat :=
  match resizing with
  | .exactly => size
  | .extend => old + size
  | .reduce => old - size
  | .atMost => min old size
  | .atLeast => max old size
  | .roundDown => old / size * size
  | .roundUp => (old + size - 1) / size * size

/-- The change of length that the sign before a number stands for. -/
def resizingOf (text : ByteText) : Resizing × ByteText :=
  match text.dropWhile isSpaceChar with
  | '+' :: rest => (.extend, rest)
  | '-' :: rest => (.reduce, rest)
  | '<' :: rest => (.atMost, rest)
  | '>' :: rest => (.atLeast, rest)
  | '/' :: rest => (.roundDown, rest)
  | '%' :: rest => (.roundUp, rest)
  | rest => (.exactly, rest)

/-- How files are cut or made longer. -/
structure TruncateSettings where
  creates : Bool := true
  size : Option (Resizing × Nat) := none
  reference : Option ByteText := none

/-- Cuts a file or makes it longer. -/
def resize (settings : TruncateSettings) (base : Option Nat) (path : ByteText) : Program Bool := do
  let fail (cause : FileError) : Program Bool :=
    refuse (ascii "cannot open " ++ Program.quoted path ++ ascii (" for writing: " ++ cause.reason))
  match ← newPlaceOf path with
  | .error cause => fail cause
  | .ok place =>
    match place.kind with
    | .directory => fail .isADirectory
    | kind =>
      if kind = .missing && !settings.creates then return true
      else if kind = .missing && (place.path.endsInSlash || !FileTree.canMake place.steps) then
        fail .notFound
      else
        if kind = .missing then Program.makeFile place.steps
        let old ← System.contents place.steps
        let size :=
          match settings.size with
          | some (resizing, size) => resizing.apply size (base.getD old.length)
          | none => base.getD old.length
        System.setContents place.steps (old.take size ++ List.replicate (size - old.length) '\x00')
        return true

/-- Cuts files or makes them longer. -/
def truncate : Tool :=
  Program.withArguments
    { forms :=
      [.both 'c' "no-create", .both 'o' "io-blocks", .both 'r' "reference" .required,
       .both 's' "size" .required, .word "help", .word "version"] }
    ({} : TruncateSettings)
    (fun settings key argument => do
      match key with
      | "c" => return .ok { settings with creates := false }
      | "r" => return .ok { settings with reference := some argument }
      | "s" =>
        let (resizing, text) := resizingOf argument
        match Units.number? text with
        | some size =>
          if size = 0 && (resizing = .roundDown || resizing = .roundUp) then
            return .error (← Program.die 1 (ascii "division by zero"))
          else return .ok { settings with size := some (resizing, size) }
        | none =>
          return .error (← Program.die 1 (ascii "Invalid number: " ++ Program.quoted text))
      | _ => return .ok settings)
    fun settings operands => do
      if settings.size.isNone && settings.reference.isNone then
        Program.misuse 1 (ascii "you must specify either '--size' or '--reference'")
      else if operands.isEmpty then Program.misuse 1 (ascii "missing file operand")
      else
        match settings.reference with
        | none => forAll operands (resize settings none)
        | some path =>
          match ← placeOf path with
          | .error cause =>
            Program.die 1 (ascii "cannot stat " ++ Program.quoted path
              ++ ascii (": " ++ cause.reason))
          | .ok place =>
            let base := (← System.contents place.steps).length
            forAll operands (resize settings (some base))

end Tool

end SchemaDocs.Shell

/-!
## Where paths lead

Programs that tell where paths lead, what links hold, and where programs are.
-/

namespace SchemaDocs.Shell

namespace Tool

open Filing

/-- What of a path has to be there. -/
inductive Strictness where
  | allButLast | all | nothing
deriving DecidableEq

/-- The steps that names lead to, without a look at whether anything is there but links.  Each step
takes a name. -/
def lenientSteps (tree : FileTree) (followsLinks : Bool) : Nat → Steps → List String → Steps
  | 0, steps, _ => steps
  | _ + 1, steps, [] => steps
  | fuel + 1, steps, name :: names =>
    if name = "." then lenientSteps tree followsLinks fuel steps names
    else if name = ".." then lenientSteps tree followsLinks fuel steps.dropLast names
    else
      let next := if followsLinks then Surroundings.followLinks (steps ++ [name]) else steps ++ [name]
      match tree.link? next with
      | some target =>
        if followsLinks then
          let path := FilePath.ofString target
          lenientSteps tree followsLinks fuel (if path.isAbsolute then [] else steps)
            (path.names ++ names)
        else lenientSteps tree followsLinks fuel next names
      | none => lenientSteps tree followsLinks fuel next names

/-- How paths are followed: whether dots are taken away before anything is looked at, and whether
links are followed. -/
structure FollowingWay where
  strictness : Strictness := .allButLast
  dotsFirst : Bool := false
  followsLinks : Bool := true

/-- Where a path leads, or why it leads nowhere. -/
def whereTo (way : FollowingWay) (path : ByteText) : Program (Except FileError Steps) := do
  if path.isEmpty then return .error .notFound
  else
    let now ← tree
    let parsed := FilePath.ofString path.toString
    let process ← read
    let start := if parsed.isAbsolute then [] else process.directory
    let plain := lenientSteps now false FileTree.mostSteps start parsed.names
    let path := if way.dotsFirst then pathOf plain else path
    let outcome ←
      match way.strictness with
      | .nothing =>
        let names := (FilePath.ofString path.toString).names
        pure (Except.ok (lenientSteps now way.followsLinks FileTree.mostSteps
          (if path.head? = some '/' then [] else start) names))
      | .all =>
        match ← placeOf path with
        | .ok place => pure (.ok place.steps)
        | .error cause => pure (.error cause)
      | .allButLast =>
        match ← newPlaceOf path with
        | .error cause => pure (.error cause)
        | .ok place =>
          if parsed.endsInSlash && place.kind != .directory && place.kind != .missing then
            pure (.error .notADirectory)
          else pure (.ok place.steps)
    match outcome with
    | .ok steps => return .ok (if way.followsLinks then steps else plain)
    | .error cause => return .error cause

/-! ### Full paths -/

/-- How full paths are shown. -/
structure FullPathSettings where
  way : FollowingWay := {}
  isQuiet : Bool := false
  relativeTo : Option ByteText := none
  relativeBase : Option ByteText := none
  terminator : Char := '\n'

/-- The options of the program that shows full paths. -/
def realpathRules : OptionRules :=
  { forms :=
    [.both 'E' "canonicalize", .both 'e' "canonicalize-existing",
     .both 'm' "canonicalize-missing", .both 'L' "logical", .both 'P' "physical",
     .both 'q' "quiet", .word "relative-to" .required, .word "relative-base" .required,
     .both 's' "strip", .word "no-symlinks", .both 'z' "zero", .word "help", .word "version"] }

/-- Settings after an option of the program that shows full paths. -/
def realpathOption (settings : FullPathSettings) (key : String) (argument : ByteText) :
    Program (Except Nat FullPathSettings) :=
  let way := settings.way
  let follow (way : FollowingWay) : FullPathSettings := { settings with way := way }
  return .ok (match key with
    | "e" => follow { way with strictness := .all }
    | "m" => follow { way with strictness := .nothing }
    | "L" => follow { way with dotsFirst := true, followsLinks := true }
    | "P" => follow { way with dotsFirst := false, followsLinks := true }
    | "s" => follow { way with dotsFirst := true, followsLinks := false }
    | "no-symlinks" => follow { way with dotsFirst := true, followsLinks := false }
    | "q" => { settings with isQuiet := true }
    | "relative-to" => { settings with relativeTo := some argument }
    | "relative-base" => { settings with relativeBase := some argument }
    | "z" => { settings with terminator := '\x00' }
    | _ => settings)

/-- Shows where paths lead. -/
def realpath : Tool :=
  Program.withArguments realpathRules {} realpathOption fun settings operands => do
    if operands.isEmpty then Program.missingOperand
    else
      let resolve (path : Option ByteText) : Program (Except Nat (Option Steps)) := do
        match path with
        | none => return .ok none
        | some path =>
          match ← whereTo settings.way path with
          | .ok steps =>
            if settings.way.strictness = .all && (← tree).kind steps != .directory then
              return .error (← Program.die 1 (Quoting.whereNeeded path
                ++ ascii (": " ++ FileError.notADirectory.reason)))
            else return .ok (some steps)
          | .error cause =>
            return .error (← Program.die 1 (Quoting.whereNeeded path
              ++ ascii (": " ++ cause.reason)))
      match ← resolve (settings.relativeTo.or settings.relativeBase) with
      | .error code => return code
      | .ok start =>
        match ← resolve settings.relativeBase with
        | .error code => return code
        | .ok base =>
          let isOutside := (base.bind fun base => start.map fun start => !base.isPrefixOf start).getD false
          let start := if isOutside then none else start
          forAll operands fun path => do
            match ← whereTo settings.way path with
            | .error cause =>
              if !settings.isQuiet then Program.complainOf path cause
              return false
            | .ok steps =>
              let isUnder := (base.map fun base => base.isPrefixOf steps).getD true
              let shown :=
                match start with
                | some start => if isUnder then relativePath start steps else pathOf steps
                | none => pathOf steps
              Program.out (shown ++ [settings.terminator])
              return true

/-! ### Links -/

/-- What is shown of links. -/
structure ReadlinkSettings where
  strictness : Option Strictness := none
  isVerbose : Bool := false
  endsLines : Bool := true
  terminator : Char := '\n'

/-- The options of the program that shows links. -/
def readlinkRules : OptionRules :=
  { forms :=
    [.both 'f' "canonicalize", .both 'e' "canonicalize-existing",
     .both 'm' "canonicalize-missing", .both 'n' "no-newline", .both 'q' "quiet",
     .both 's' "silent", .both 'v' "verbose", .both 'z' "zero", .word "help", .word "version"] }

/-- Settings after an option of the program that shows links. -/
def readlinkOption (settings : ReadlinkSettings) (key : String) (_argument : ByteText) :
    Program (Except Nat ReadlinkSettings) :=
  return .ok (match key with
    | "f" => { settings with strictness := some .allButLast }
    | "e" => { settings with strictness := some .all }
    | "m" => { settings with strictness := some .nothing }
    | "n" => { settings with endsLines := false }
    | "q" => { settings with isVerbose := false }
    | "s" => { settings with isVerbose := false }
    | "v" => { settings with isVerbose := true }
    | "z" => { settings with terminator := '\x00' }
    | _ => settings)

/-- Shows what links hold, or where paths lead. -/
def readlink : Tool :=
  Program.withArguments readlinkRules {} readlinkOption fun settings operands => do
    if operands.isEmpty then Program.missingOperand
    else
      if !settings.endsLines && 1 < operands.length then
        Program.complain (ascii "ignoring --no-newline with multiple arguments")
      let endsLines := settings.endsLines || 1 < operands.length
      forAll operands fun path => do
        let found : Except FileError ByteText ←
          match settings.strictness with
          | some strictness =>
            match ← whereTo { strictness := strictness } path with
            | .ok steps => pure (Except.ok (pathOf steps))
            | .error cause => pure (.error cause)
          | none =>
            match ← linkPlaceOf path with
            | .error cause => pure (.error cause)
            | .ok place =>
              match (← tree).link? place.steps with
              | some target => pure (.ok (ByteText.ofString target))
              | none => pure (.error .invalidArgument)
        match found with
        | .ok text =>
          Program.out (text ++ (if endsLines then [settings.terminator] else []))
          return true
        | .error cause =>
          if settings.isVerbose then Program.complainOf path cause
          return false

/-! ### Programs -/

/-- How programs are looked for. -/
structure WhichSettings where
  takesAll : Bool := false
  isSilent : Bool := false

/-- Shows where programs are. -/
def which : Tool := do
  let arguments := (OptionRules.read
    { forms := [.letter 'a', .letter 's'], stopsAtOperand := true } (← read).arguments)
  let fault := arguments.items.find? OptionRules.isFault
  match fault, (← read).arguments.find? fun word => word.head? = some '-' with
  | some _, some word =>
    let letter := (word.drop 1).find? fun c => c != 'a' && c != 's'
    Program.err (ascii "Illegal option -" ++ letter.toList ++ ['\n'])
    Program.outLine (ascii "Usage: /usr/bin/which [-as] args")
    return 2
  | _, _ =>
    let settings := arguments.items.foldl (fun (settings : WhichSettings) item =>
      match item with
      | .option "a" _ => { settings with takesAll := true }
      | .option "s" _ => { settings with isSilent := true }
      | _ => settings) {}
    let path := (← Program.lookup? (ascii "PATH")).getD Launcher.usualPath
    if arguments.operands.isEmpty then return 1
    else
      forAll arguments.operands fun name => do
        let candidates :=
          if name.contains '/' then [name]
          else (ByteText.splitAt ':' path).map fun entry =>
            (if entry.isEmpty then ['.'] else entry) ++ ['/'] ++ name
        let found ← candidates.filterM fun path => do
          return (← Program.kindOf path) = .file && (← Program.isRunnable path)
        let shown := if settings.takesAll then found else found.take 1
        if !settings.isSilent then shown.forM Program.outLine
        return !found.isEmpty

end Tool

end SchemaDocs.Shell
