import SchemaDocs.Shell.Tool.Filing.Basic
import SchemaDocs.Shell.Tool.Filing.Make
/-!
# Removing, copying and moving

Programs that take files away, and programs that put them elsewhere.

## Taking files away

Programs that take files and directories out of the tree.
-/

namespace SchemaDocs.Shell

namespace Tool

open Filing

/-- When the program that takes files away asks first. -/
inductive Asking where
  | never | once | always
deriving DecidableEq

/-- How files are taken away. -/
structure RemovalSettings where
  isForced : Bool := false
  isDeep : Bool := false
  takesDirectories : Bool := false
  isVerbose : Bool := false
  asking : Asking := .never

/-- Whether a removal is wanted, which is asked for if settings say so. -/
def wantsRemoval (settings : RemovalSettings) (question : ByteText) : Program Bool := do
  if settings.asking = .always then confirm question else return true

/-- Takes a part of the tree away, the innermost first.  Each step goes one level deep. -/
def removeDeep (settings : RemovalSettings) : Nat → ByteText → Steps → Program Bool
  | 0, _, _ => return true
  | depth + 1, path, steps => do
    let now ← tree
    if now.kind steps = .directory then
      let names := now.namesIn steps
      let descends ←
        if names.isEmpty then pure true
        else wantsRemoval settings (ascii "descend into directory " ++ Program.quoted path ++ ['?'])
      if !descends then return true
      else
        let isFine ← names.foldlM (fun isFine name => do
          let inner := inside path (ByteText.ofString name)
          return (← removeDeep settings depth inner (steps ++ [name])) && isFine) true
        if !((← tree).namesIn steps).isEmpty then return isFine
        else if ← wantsRemoval settings
            (ascii "remove directory " ++ Program.quoted path ++ ['?']) then
          changeTree fun tree => tree.remove steps
          if settings.isVerbose then
            Program.outLine (ascii "removed directory " ++ Program.quoted path)
          return isFine
        else return isFine
    else
      let question := ascii ("remove " ++ kindWords now steps ++ " ") ++ Program.quoted path ++ ['?']
      if ← wantsRemoval settings question then
        changeTree fun tree => tree.remove steps
        if settings.isVerbose then Program.outLine (ascii "removed " ++ Program.quoted path)
      return true

/-- Takes a file away, or tells why it cannot be taken away. -/
def removeFile (settings : RemovalSettings) (path : ByteText) : Program Bool := do
  match ← linkPlaceOf path with
  | .error cause =>
    let isMissing := cause = .notFound || (cause = .notADirectory && path.getLast? != some '/')
    if settings.isForced && isMissing then return true
    else refuseFor "cannot remove " path cause
  | .ok place =>
    let last := lastNameOf path
    if place.kind = .directory then
      if place.steps.isEmpty && settings.isDeep then
        Program.complain (ascii "it is dangerous to operate recursively on '/'")
        refuse (ascii "use --no-preserve-root to override this failsafe")
      else if settings.isDeep && (last = ['.'] || last = ['.', '.']) then
        refuse (ascii "refusing to remove '.' or '..' directory: skipping " ++ Program.quoted path)
      else if settings.isDeep then
        removeDeep settings deepest (withoutSlashes path) place.steps
      else if settings.takesDirectories then
        if ((← tree).namesIn place.steps).isEmpty then
          removeDeep settings 1 path place.steps
        else refuseFor "cannot remove " path .notEmpty
      else refuseFor "cannot remove " path .isADirectory
    else removeDeep settings 1 path place.steps

/-- Settings after an option of the program that takes files away. -/
def rmOption (settings : RemovalSettings) (key : String) (argument : ByteText) :
    Program (Except Nat RemovalSettings) := do
  match key with
  | "f" => return .ok { settings with isForced := true, asking := .never }
  | "i" => return .ok { settings with isForced := false, asking := .always }
  | "I" => return .ok { settings with isForced := false, asking := .once }
  | "interactive" =>
    if argument.isEmpty then return .ok { settings with asking := .always }
    else
      match ← Program.choose 1 "--interactive" [["never", "no", "none"], ["once"], ["always", "yes"]]
          argument with
      | .ok 0 => return .ok { settings with asking := .never }
      | .ok 1 => return .ok { settings with asking := .once }
      | .ok _ => return .ok { settings with asking := .always }
      | .error code => return .error code
  | "r" => return .ok { settings with isDeep := true }
  | "R" => return .ok { settings with isDeep := true }
  | "d" => return .ok { settings with takesDirectories := true }
  | "v" => return .ok { settings with isVerbose := true }
  | _ => return .ok settings

/-- Takes files away. -/
def rm : Tool :=
  Program.withArguments
    { forms :=
      [.both 'f' "force", .letter 'i', .letter 'I', .word "interactive" .optional,
       .word "one-file-system", .word "no-preserve-root", .word "preserve-root" .optional,
       .both 'r' "recursive", .letter 'R', .both 'd' "dir", .both 'v' "verbose", .word "help",
       .word "version"] }
    ({} : RemovalSettings) rmOption fun settings operands => do
      if operands.isEmpty then
        if settings.isForced then return 0 else Program.missingOperand
      else
        let count := operands.length
        let isGoing ←
          if settings.asking = .once && (settings.isDeep || 3 < count) then
            confirm (ascii "remove " ++ ByteText.ofNat count
              ++ ascii (if count = 1 then " argument" else " arguments")
              ++ ascii (if settings.isDeep then " recursively?" else "?"))
          else pure true
        if isGoing then forAll operands (removeFile settings) else return 0

/-- Takes a single file away. -/
def unlink : Tool :=
  Program.withArguments { forms := [.word "help", .word "version"] } ()
    (fun _ _ _ => return .ok ()) fun _ operands => do
      match operands with
      | [] => Program.missingOperand
      | [path] =>
        let refuse (cause : FileError) : Program Nat :=
          Program.die 1 (ascii "cannot unlink " ++ Program.quoted path
            ++ ascii (": " ++ cause.reason))
        match ← linkPlaceOf path with
        | .error cause => refuse cause
        | .ok place =>
          if place.kind = .directory then refuse .isADirectory
          else
            changeTree fun tree => tree.remove place.steps
            return 0
      | _ :: second :: _ => Program.extraOperand second

/-- How directories are taken away. -/
structure RmdirSettings where
  takesParents : Bool := false
  allowsFilled : Bool := false
  isVerbose : Bool := false

/-- Takes an empty directory away.  If it is one that others were in, that is said. -/
def removeDirectory (settings : RmdirSettings) (isParent : Bool) (path : ByteText) :
    Program Bool := do
  if settings.isVerbose then
    Program.outLine (ascii "rmdir: removing directory, " ++ Program.quoted path)
  let refuse (cause : FileError) : Program Bool := do
    Program.complain (ascii (if isParent then "failed to remove directory " else "failed to remove ")
      ++ Program.quoted path ++ ascii (": " ++ cause.reason))
    return false
  if lastNameOf path = ['.'] then refuse .invalidArgument
  else
    match ← linkPlaceOf path with
    | .error cause => refuse cause
    | .ok place =>
      if place.kind != .directory then refuse .notADirectory
      else if !((← tree).namesIn place.steps).isEmpty then
        if settings.allowsFilled then return !isParent else refuse .notEmpty
      else
        changeTree fun tree => tree.remove place.steps
        return true

/-- The paths that a path leads through, itself first. -/
def ancestors (path : ByteText) : Nat → List ByteText
  | 0 => []
  | fuel + 1 =>
    if path = ['.'] || path = ['/'] then [] else path :: ancestors (parentOf path) fuel

/-- Takes empty directories away. -/
def rmdir : Tool :=
  Program.withArguments
    { forms :=
      [.word "ignore-fail-on-non-empty", .both 'p' "parents", .both 'v' "verbose", .word "help",
       .word "version"] }
    ({} : RmdirSettings)
    (fun settings key _ => return .ok (match key with
      | "p" => { settings with takesParents := true }
      | "v" => { settings with isVerbose := true }
      | _ => { settings with allowsFilled := true }))
    fun settings operands => do
      if operands.isEmpty then Program.missingOperand
      else
        forAll operands fun path => do
          if settings.takesParents then
            let paths := ancestors (withoutSlashes path) (path.length + 1)
            let (isFine, _) ← paths.foldlM (fun ((isFine, isParent) : Bool × Bool) path => do
              if isFine then return (← removeDirectory settings isParent path, true)
              else return (false, true)) (true, false)
            return isFine || settings.allowsFilled
          else removeDirectory settings false path

end Tool

end SchemaDocs.Shell

/-!
## Copying and moving files

Programs that copy files and directories, move them, or put them where they belong.
-/

namespace SchemaDocs.Shell

namespace Tool

open Filing

/-- The path of a file in a directory. -/
def within (directory source : ByteText) : ByteText := inside directory (lastNameOf source)

/-- What is done where something is already. -/
inductive Clash where
  | replace | ask | skip
deriving DecidableEq

/-- Which links are followed. -/
inductive Following where
  | usual | never | always | operands
deriving DecidableEq

/-- How files are copied or moved. -/
structure TransferSettings where
  isDeep : Bool := false
  clash : Clash := .replace
  following : Following := .usual
  keepsMode : Bool := false
  keepsTime : Bool := false
  isForced : Bool := false
  isUpdate : Bool := false
  removesTarget : Bool := false
  makesLinks : Bool := false
  makesNames : Bool := false
  keepsParents : Bool := false
  dropsSlashes : Bool := false
  isVerbose : Bool := false
  target : Option ByteText := none
  isPlain : Bool := false
  backup : Backup := .nothing
  suffix : ByteText := ['~']
  onlyAttributes : Bool := false
  isMove : Bool := false

/-- The options of the programs that copy and move. -/
def transferRules (deep : List OptionForm) : OptionRules :=
  { forms := deep ++
      [.both 'f' "force", .both 'i' "interactive", .both 'n' "no-clobber", .both 'v' "verbose",
       .both 't' "target-directory" .required, .both 'T' "no-target-directory",
       .letter 'u', .word "update" .optional, .letter 'b', .word "backup" .optional,
       .both 'S' "suffix" .required, .word "strip-trailing-slashes", .both 'Z' "context" .optional,
       .word "debug", .word "help", .word "version"] }

/-- What may be kept of a file. -/
def keptKinds : List (List String) :=
  [["mode"], ["timestamps"], ["ownership"], ["links"], ["context"], ["xattr"], ["all"]]

/-- Settings that keep what words between commas name, or keep it no more. -/
def keepKinds (settings : TransferSettings) (option : String) (keeps : Bool) :
    List ByteText → Program (Except Nat TransferSettings)
  | [] => return .ok settings
  | word :: rest => do
    match ← Program.choose 1 option keptKinds word with
    | .error code => return .error code
    | .ok place =>
      keepKinds
        { settings with
          keepsMode := if place = 0 || place = 6 then keeps else settings.keepsMode
          keepsTime := if place = 1 || place = 6 then keeps else settings.keepsTime
          following := if keeps && (place = 3 || place = 6) && settings.following = .usual
            then settings.following else settings.following }
        option keeps rest

/-- Settings after an option of the programs that copy and move. -/
def transferOption (settings : TransferSettings) (key : String) (argument : ByteText) :
    Program (Except Nat TransferSettings) := do
  match key with
  | "r" => return .ok { settings with isDeep := true }
  | "R" => return .ok { settings with isDeep := true }
  | "a" => return .ok { settings with
      isDeep := true, following := .never, keepsMode := true, keepsTime := true }
  | "p" => return .ok { settings with keepsMode := true, keepsTime := true }
  | "preserve" =>
    if argument.isEmpty then return .ok { settings with keepsMode := true, keepsTime := true }
    else keepKinds settings "--preserve" true (ByteText.splitAt ',' argument)
  | "no-preserve" => keepKinds settings "--no-preserve" false (ByteText.splitAt ',' argument)
  | "d" => return .ok { settings with following := .never }
  | "P" => return .ok { settings with following := .never }
  | "L" => return .ok { settings with following := .always }
  | "H" => return .ok { settings with following := .operands }
  | "l" => return .ok { settings with makesNames := true }
  | "s" => return .ok { settings with makesLinks := true }
  | "f" =>
    return .ok { settings with
      isForced := true
      clash := if settings.isMove then .replace else settings.clash }
  | "i" => return .ok { settings with clash := .ask }
  | "n" =>
    if !settings.isMove then
      Program.complain (ascii "warning: behavior of -n is non-portable and may change in future; use "
        ++ ascii "--update=none instead")
    return .ok { settings with clash := .skip }
  | "u" => return .ok { settings with isUpdate := true }
  | "update" =>
    if argument.isEmpty then return .ok { settings with isUpdate := true }
    else
      match ← Program.choose 1 "--update" [["all"], ["none"], ["older"]] argument with
      | .error code => return .error code
      | .ok 0 => return .ok { settings with isUpdate := false }
      | .ok 1 => return .ok { settings with clash := .skip }
      | .ok _ => return .ok { settings with isUpdate := true }
  | "reflink" =>
    if argument.isEmpty then return .ok settings
    else
      match ← Program.choose 1 "--reflink" [["auto"], ["always"], ["never"]] argument with
      | .error code => return .error code
      | .ok _ => return .ok settings
  | "sparse" =>
    match ← Program.choose 1 "--sparse" [["never"], ["auto"], ["always"]] argument with
    | .error code => return .error code
    | .ok _ => return .ok settings
  | "remove-destination" => return .ok { settings with removesTarget := true }
  | "attributes-only" => return .ok { settings with onlyAttributes := true }
  | "parents" => return .ok { settings with keepsParents := true }
  | "strip-trailing-slashes" => return .ok { settings with dropsSlashes := true }
  | "v" => return .ok { settings with isVerbose := true }
  | "t" => return .ok { settings with target := some argument }
  | "T" => return .ok { settings with isPlain := true }
  | "b" => return .ok { settings with backup := .existing }
  | "S" =>
    return .ok { settings with
      suffix := argument
      backup := if settings.backup = .nothing then .existing else settings.backup }
  | "backup" =>
    match ← backupOf argument with
    | .ok backup => return .ok { settings with backup := backup }
    | .error code => return .error code
  | _ => return .ok settings

/-- The operands of a program that copies or moves: what, and where to, which is a directory or
not. -/
def transferPlan (settings : TransferSettings) (operands : List ByteText) :
    Program (Except Nat (List ByteText × ByteText × Bool)) := do
  let reasonFor (target : ByteText) : Program String := do
    match ← placeOf target with
    | .ok _ => return FileError.notADirectory.reason
    | .error cause => return cause.reason
  match settings.target, operands.reverse with
  | some target, sources =>
    if sources.isEmpty then return .error (← Program.misuse 1 (ascii "missing file operand"))
    else if (← Program.kindOf target) = .directory then return .ok (operands, target, true)
    else
      return .error (← Program.die 1 (ascii "target directory " ++ Program.quoted target
        ++ ascii (": " ++ (← reasonFor target))))
  | none, [] => return .error (← Program.misuse 1 (ascii "missing file operand"))
  | none, [only] =>
    return .error (← Program.misuse 1
      (ascii "missing destination file operand after " ++ Program.quoted only))
  | none, target :: sources =>
    if settings.isPlain then
      match sources with
      | [_] => return .ok (sources, target, false)
      | _ => return .error (← Program.extraOperand target)
    else
      let isDirectory := (← Program.kindOf target) = .directory
      if settings.keepsParents && !isDirectory then
        return .error (← Program.misuse 1
          (ascii "with --parents, the destination must be a directory"))
      else if 1 < sources.length && !isDirectory then
        return .error (← Program.die 1 (ascii "target " ++ Program.quoted target
          ++ ascii (": " ++ (← reasonFor target))))
      else return .ok (sources.reverse, target, isDirectory)

/-- Tells what was done with a file, and under which name the one before it is kept. -/
def tellTransfer (start : String) (source target : ByteText) (ending : Option ByteText) :
    Program Unit := do
  let kept := match ending with
    | some ending => ascii " (backup: " ++ Program.quoted (target ++ ending) ++ [')']
    | none => []
  Program.outLine (ascii start ++ Program.quoted source ++ ascii " -> " ++ Program.quoted target
    ++ kept)

/-- Keeps what stands at the end of steps under another name, if that is asked for, and gives the ending
of the name. -/
def keepOld (settings : TransferSettings) (steps : Steps) : Program (Option ByteText) := do
  match backupEnding? settings.backup settings.suffix (← tree) steps with
  | some ending =>
    changeTree fun tree => renamed tree steps (withEnding steps ending)
    return some ending
  | none => return none

/-- Whether a file that is there may be replaced.  If not, nothing more is to be done, and it is told
whether that is fine. -/
def mayReplace (settings : TransferSettings) (source target : Steps) (path : ByteText) :
    Program (Except Bool Unit) := do
  let tree ← tree
  if settings.isUpdate && (tree.marks source).changed ≤ (tree.marks target).changed then
    return .error true
  else
    match settings.clash with
    | .replace => return .ok ()
    | .skip =>
      if settings.isMove then
        Program.complain (ascii "not replacing " ++ Program.quoted path)
        return .error false
      else return .error true
    | .ask =>
      if ← confirm (ascii "overwrite " ++ Program.quoted path ++ ['?']) then return .ok ()
      else return .error false

/-- Copies a file that is no directory to a place. -/
def copyPlain (settings : TransferSettings) (source : FilePlace) (sourcePath : ByteText)
    (target : FilePlace) (path : ByteText) : Program Bool := do
  let isThere := target.kind != .missing
  let allowed ← if isThere then mayReplace settings source.steps target.steps path
    else pure (.ok ())
  match allowed with
  | .error isFine => return isFine
  | .ok () =>
    let ending ← if isThere then keepOld settings target.steps else pure none
    if settings.removesTarget then changeTree fun tree => tree.remove target.steps
    let mask := (← read).mask
    let marks := (← tree).marks source.steps
    let done ←
      match source.kind with
      | .link =>
        changeTree fun tree => tree.putLink target.steps ((tree.link? source.steps).getD "")
        pure true
      | _ =>
        if settings.makesLinks then
          if sourcePath.head? != some '/' && path.contains '/' then
            refuse (Quoting.whereNeeded path
              ++ ascii ": can make relative symbolic links only in current directory")
          else
            changeTree fun tree => tree.putLink target.steps sourcePath.toString
            pure true
        else
          match ← Program.readOperand (if sourcePath = ['-'] then ascii "./-" else sourcePath) with
          | .error cause => refuseFor "error reading " sourcePath cause
          | .ok text =>
            let isNew := (← tree).kind target.steps = .missing
            match ← Program.openOutput path false with
            | .error cause =>
              refuse (ascii "cannot create regular file " ++ Program.quoted path
                ++ ascii (": " ++ cause.reason))
            | .ok channel =>
              let text := if settings.onlyAttributes then [] else text
              match ← System.write channel text with
              | some fault => refuseFor "error writing " path fault
              | none =>
                changeTree fun tree =>
                  let old := tree.marks target.steps
                  let mode :=
                    if settings.keepsMode then marks.mode
                    else if isNew then Rights.without (marks.mode &&& 511) mask
                    else old.mode
                  let changed := if settings.keepsTime then marks.changed else old.changed
                  if target.kind matches .device _ then tree
                  else tree.putMarks target.steps ⟨mode, changed⟩
                pure true
    if done && settings.isVerbose then tellTransfer "" sourcePath path ending
    return done

/-- Copies a file, or a directory with all that is in it.  Each step goes one level deep. -/
def copyTo (settings : TransferSettings) (isOperand : Bool) : Nat → ByteText → ByteText →
    Program Bool
  | 0, _, _ => return true
  | depth + 1, source, path => do
    let leavesLinks :=
      match settings.following with
      | .never => true
      | .always => false
      | .operands => !isOperand
      | .usual => settings.isDeep || settings.makesNames
    match ← placeWith leavesLinks source with
    | .error cause => refuseFor "cannot stat " source cause
    | .ok place =>
      match ← newPlaceWith (place.kind = .link || settings.removesTarget) path with
      | .error cause =>
        if place.kind = .directory then refuseFor "cannot create directory " path cause
        else refuseFor "cannot create regular file " path cause
      | .ok other =>
        let isDangling ← do
          match ← linkPlaceOf path with
          | .ok place => pure (place.kind = .link && other.kind = .missing)
          | .error _ => pure false
        if place.kind = .directory then
          if !settings.isDeep then
            refuse (ascii "-r not specified; omitting directory " ++ Program.quoted source)
          else if place.steps.isPrefixOf other.steps then
            refuse (ascii "cannot copy a directory, " ++ Program.quoted source
              ++ ascii ", into itself, " ++ Program.quoted path)
          else if other.kind != .missing && other.kind != .directory then
            refuse (ascii "cannot overwrite non-directory " ++ Program.quoted path
              ++ ascii " with directory " ++ Program.quoted source)
          else
            let marks := (← tree).marks place.steps
            let mask := (← read).mask
            if other.kind = .missing then
              let mode := if settings.keepsMode then marks.mode
                else Rights.without (marks.mode &&& 511) mask
              changeTree fun tree => tree.putDirectory mode other.steps
              if settings.isVerbose then tellTransfer "" source path none
            let isFine ← ((← tree).namesIn place.steps).foldlM (fun isFine name => do
              let name := ByteText.ofString name
              return (← copyTo settings false depth (inside source name) (inside path name)) && isFine)
              true
            if settings.keepsTime then
              changeTree fun tree =>
                let old := tree.marks other.steps
                tree.putMarks other.steps { old with changed := marks.changed }
            return isFine
        else if place.steps = other.steps then
          if settings.backup != .nothing && settings.isForced then return true
          else
            refuse (Program.quoted source ++ ascii " and " ++ Program.quoted path
              ++ ascii " are the same file")
        else if other.kind = .directory then
          refuse (ascii "cannot overwrite directory " ++ Program.quoted path
            ++ ascii " with non-directory")
        else if isDangling && !settings.removesTarget && place.kind != .link then
          refuse (ascii "not writing through dangling symlink " ++ Program.quoted path)
        else if other.kind = .missing && other.path.endsInSlash then
          refuseFor "cannot create regular file " path .notADirectory
        else copyPlain settings place source other path

/-- Whether a path was made by the same program, so that it must not be replaced. -/
def isJustMade (made : List Steps) (target : ByteText) : Program Bool := do
  match ← linkPlaceOf target with
  | .ok place => return place.kind != .directory && made.contains place.steps
  | .error _ => return false

/-- Copies or moves operands one after the other, where what was just made is not replaced. -/
def transferAll (settings : TransferSettings) (sources : List ByteText)
    (targetOf : ByteText → ByteText) (step : ByteText → ByteText → Program Bool) :
    Program Nat := do
  let (code, _, _) ← sources.foldlM
    (fun ((code, seen, made) : Nat × List ByteText × List Steps) source => do
      let source := if settings.dropsSlashes then withoutSlashes source else source
      let target := targetOf source
      if seen.contains source && !settings.isMove then
        Program.complain (ascii "warning: source file " ++ Program.quoted source
          ++ ascii " specified more than once")
        return (code, seen, made)
      else if ← isJustMade made target then
        Program.complain (ascii "will not overwrite just-created " ++ Program.quoted target
          ++ ascii " with " ++ Program.quoted source)
        return (1, seen, made)
      else
        let isFine ← step source target
        let made ← match ← linkPlaceOf target with
          | .ok place => pure (place.steps :: made)
          | .error _ => pure made
        return (if isFine then code else 1, source :: seen, made)) (0, [], [])
  return code

/-- Makes the directories of a path in a directory, as they are in the path. -/
def makeParents (settings : TransferSettings) (directory source : ByteText) : Program Unit := do
  (parentsOf (withoutSlashes source) source.length).forM fun parent => do
    let path := inside directory (parent.dropWhile (· = '/'))
    if (← Program.kindOf path) = .missing then
      let marks ← match ← placeOf parent with
        | .ok place => pure ((← tree).marks place.steps)
        | .error _ => pure ⟨493, 0⟩
      match ← newPlaceOf path with
      | .ok place => changeTree fun tree => tree.putDirectory marks.mode place.steps
      | .error _ => pure ()
      if settings.isVerbose then Program.outLine (parent ++ ascii " -> " ++ path)

/-- Copies files. -/
def cp : Tool :=
  Program.withArguments
    (transferRules
      [.both 'r' "recursive", .letter 'R', .both 'a' "archive", .letter 'p', .letter 'd',
       .both 'l' "link", .both 's' "symbolic-link", .both 'L' "dereference",
       .both 'P' "no-dereference", .letter 'H', .both 'x' "one-file-system",
       .word "preserve" .optional, .word "no-preserve" .required, .word "parents",
       .word "remove-destination", .word "reflink" .optional, .word "sparse" .required,
       .word "attributes-only", .word "copy-contents", .word "keep-directory-symlink"])
    ({} : TransferSettings) transferOption fun settings operands => do
      match ← transferPlan settings operands with
      | .error code => return code
      | .ok (sources, target, isDirectory) =>
        let targetOf (source : ByteText) : ByteText :=
          if !isDirectory then target
          else if settings.keepsParents then
            inside target ((withoutSlashes source).dropWhile (· = '/'))
          else if lastNameOf source = ['.', '.'] then inside target ['.']
          else within target source
        transferAll settings sources targetOf fun source path => do
          if settings.keepsParents then makeParents settings target source
          copyTo settings true deepest source path

/-- Moves a file. -/
def moveFile (settings : TransferSettings) (source target : ByteText) : Program Bool := do
  let cannot (cause : FileError) : Program Bool :=
    refuse (ascii "cannot move " ++ Program.quoted source ++ ascii " to " ++ Program.quoted target
      ++ ascii (": " ++ cause.reason))
  match ← linkPlaceOf source with
  | .error cause => refuseFor "cannot stat " source cause
  | .ok place =>
    match ← newPlaceWith true target with
    | .error cause => cannot cause
    | .ok other =>
      let isThere := other.kind != .missing
      if place.steps = other.steps then
        refuse (Program.quoted source ++ ascii " and " ++ Program.quoted target
          ++ ascii " are the same file")
      else if place.kind = .directory && place.steps.isPrefixOf other.steps then
        refuse (ascii "cannot move " ++ Program.quoted source ++ ascii " to a subdirectory of itself, "
          ++ Program.quoted target)
      else if other.kind = .directory && place.kind != .directory then
        refuse (ascii "cannot overwrite directory " ++ Program.quoted target
          ++ ascii " with non-directory")
      else if place.kind = .directory && isThere && other.kind != .directory then
        refuse (ascii "cannot overwrite non-directory " ++ Program.quoted target
          ++ ascii " with directory " ++ Program.quoted source)
      else if !isThere && other.path.endsInSlash && place.kind != .directory then
        cannot .notADirectory
      else if !isThere && !FileTree.canMake other.steps then cannot .notFound
      else
        let allowed ← if isThere then mayReplace settings place.steps other.steps target
          else pure (.ok ())
        match allowed with
        | .error isFine => return isFine
        | .ok () =>
          let ending ← if isThere then keepOld settings other.steps else pure none
          if other.kind = .directory && ending.isNone
              && !((← tree).namesIn other.steps).isEmpty then
            refuseFor "cannot overwrite " target .notEmpty
          else
            match other.kind with
            | .device _ =>
              match ← Program.readOperand source with
              | .ok text =>
                match ← Program.openOutput target false with
                | .ok channel => let _ ← System.write channel text
                | .error _ => pure ()
              | .error _ => pure ()
              changeTree fun tree => Filing.without tree place.steps
            | _ => changeTree fun tree => renamed tree place.steps other.steps
            if settings.isVerbose then tellTransfer "renamed " source target ending
            return true

/-- Moves files. -/
def mv : Tool :=
  Program.withArguments (transferRules [.word "no-copy"]) ({ isMove := true } : TransferSettings)
    transferOption fun settings operands => do
      match ← transferPlan settings operands with
      | .error code => return code
      | .ok (sources, target, isDirectory) =>
        let targetOf (source : ByteText) : ByteText :=
          if isDirectory then within target source else target
        transferAll settings sources targetOf (moveFile settings)

/-! ### Putting files where they belong -/

/-- How files are put where they belong. -/
structure InstallSettings where
  changes : List Rights.Change := [⟨'=', Rights.all, 493, Rights.all, .given⟩]
  makesDirectories : Bool := false
  makesParents : Bool := false
  keepsTime : Bool := false
  comparesFirst : Bool := false
  transfer : TransferSettings := {}

/-- Settings after an option of the program that puts files where they belong. -/
def installOption (settings : InstallSettings) (key : String) (argument : ByteText) :
    Program (Except Nat InstallSettings) := do
  match key with
  | "m" =>
    match Rights.changes? argument with
    | some changes => return .ok { settings with changes := changes }
    | none => return .error (← Program.die 1 (ascii "invalid mode " ++ Program.quoted argument))
  | "d" => return .ok { settings with makesDirectories := true }
  | "D" => return .ok { settings with makesParents := true }
  | "p" => return .ok { settings with keepsTime := true }
  | "C" => return .ok { settings with comparesFirst := true }
  | "c" => return .ok settings
  | "o" => return .ok settings
  | "g" => return .ok settings
  | "s" => return .ok settings
  | key =>
    match ← transferOption settings.transfer key argument with
    | .ok transfer => return .ok { settings with transfer := transfer }
    | .error code => return .error code

/-- Makes the directories that lead to a path, and tells which ones if that is asked for. -/
def makeWay (isVerbose : Bool) (mode : Nat) (path : ByteText) : Program Bool := do
  let path' := withoutSlashes path
  (parentsOf path' path'.length ++ [path']).foldlM (fun isFine part => do
    if !isFine then return false
    else
      match ← newPlaceOf part with
      | .error cause => refuseFor "cannot create directory " part cause
      | .ok place =>
        match place.kind with
        | .missing =>
          changeTree fun tree => tree.putDirectory (if part = path' then mode else 493) place.steps
          if isVerbose then
            Program.outLine (ascii "install: creating directory " ++ Program.quoted part)
          return true
        | .directory => return true
        | _ => refuseFor "cannot create directory " part .exists) true

/-- Puts a file where it belongs. -/
def installFile (settings : InstallSettings) (source path : ByteText) : Program Bool := do
  match ← placeOf source with
  | .error cause => refuseFor "cannot stat " source cause
  | .ok place =>
    if place.kind = .directory then
      refuse (ascii "omitting directory " ++ Program.quoted source)
    else
      match ← newPlaceWith true path with
      | .error cause => refuseFor "cannot create regular file " path cause
      | .ok other =>
        let isThere := other.kind != .missing
        let mode := Rights.after 0 false settings.changes 0
        let isSame ← do
          let tree ← tree
          pure (settings.comparesFirst && other.kind = .file
            && tree.file? place.steps = tree.file? other.steps
            && (tree.marks other.steps).mode = mode)
        if place.steps = other.steps then
          refuse (Program.quoted source ++ ascii " and " ++ Program.quoted path
            ++ ascii " are the same file")
        else if other.kind = .directory then
          refuse (ascii "cannot overwrite directory " ++ Program.quoted path
            ++ ascii " with non-directory")
        else if !isThere && other.path.endsInSlash then
          refuseFor "cannot create regular file " path .notADirectory
        else if !isThere && !FileTree.canMake other.steps then
          refuseFor "cannot create regular file " path .notFound
        else if isSame then return true
        else
          match ← Program.readOperand source with
          | .error cause => refuseFor "error reading " source cause
          | .ok text =>
            let ending ← if isThere then keepOld settings.transfer other.steps else pure none
            if isThere && ending.isNone && settings.transfer.isVerbose then
              Program.outLine (ascii "removed " ++ Program.quoted path)
            let marks := (← tree).marks place.steps
            if !(other.kind matches .device _) then
              changeTree fun tree =>
                let changed := if settings.keepsTime then marks.changed else tree.now
                tree.put other.steps (.file text.toBytes ⟨mode, changed⟩)
            if settings.transfer.isVerbose then tellTransfer "" source path ending
            return true

/-- Puts files where they belong, or makes directories. -/
def install : Tool :=
  Program.withArguments
    { forms :=
      [.word "backup" .optional, .letter 'b', .letter 'c', .both 'C' "compare",
       .both 'd' "directory", .letter 'D', .word "debug", .both 'g' "group" .required,
       .both 'm' "mode" .required, .both 'o' "owner" .required, .both 'p' "preserve-timestamps",
       .both 's' "strip", .word "strip-program" .required, .both 'S' "suffix" .required,
       .both 't' "target-directory" .required, .both 'T' "no-target-directory",
       .both 'v' "verbose", .word "preserve-context", .both 'Z' "context" .optional,
       .word "help", .word "version"] }
    ({} : InstallSettings) installOption fun settings operands => do
      let isVerbose := settings.transfer.isVerbose
      if settings.makesDirectories then
        if operands.isEmpty then Program.misuse 1 (ascii "missing file operand")
        else forAll operands (makeWay isVerbose (Rights.after 0 true settings.changes 0))
      else
        match settings.transfer.target, operands with
        | none, [source, path] =>
          if settings.makesParents && (← Program.kindOf path) != .directory then
            let parent := parentOf path
            let hasWay ← if parent = ['.'] then pure true else makeWay isVerbose 493 parent
            if hasWay then forAll [path] (installFile settings source) else return 1
          else if (← Program.kindOf path) = .directory && !settings.transfer.isPlain then
            forAll [source] fun source => installFile settings source (within path source)
          else forAll [path] (installFile settings source)
        | some target, _ :: _ =>
          if settings.makesParents then
            let _ ← makeWay isVerbose 493 target
          if (← Program.kindOf target) = .directory then
            forAll operands fun source => installFile settings source (within target source)
          else
            let (start, cause) ← match ← placeOf target with
              | .ok _ => pure ("target ", FileError.notADirectory)
              | .error cause => pure ("failed to access ", cause)
            Program.die 1 (ascii start ++ Program.quoted target ++ ascii (": " ++ cause.reason))
        | _, _ =>
          match ← transferPlan settings.transfer operands with
          | .error code => return code
          | .ok (sources, target, _) =>
            forAll sources fun source => installFile settings source (within target source)

/-! ### Output into files -/

/-- Writes the input to files as well as to the output. -/
def tee : Tool :=
  Program.withArguments
    { forms :=
      [.both 'a' "append", .both 'i' "ignore-interrupts", .letter 'p',
       .word "output-error" .optional, .word "help", .word "version"] } false
    (fun appends key _ => return .ok (appends || key = "a")) fun appends operands => do
      let (channels, code) ← operands.foldlM (fun (channels, code) path => do
        match ← Program.openOutput path appends with
        | .ok channel => return ((path, channel) :: channels, code)
        | .error cause =>
          Program.complainOf path cause
          return (channels, 1)) (([] : List (ByteText × Nat)), 0)
      match ← Program.readInput with
      | .error cause =>
        Program.die 1 (ascii ("read error: " ++ cause.reason))
      | .ok text =>
        Program.out text
        channels.reverse.foldlM (fun code (path, channel) => do
          match ← System.write channel text with
          | some fault =>
            Program.complainOf path fault
            return 1
          | none => return code) code

end Tool

end SchemaDocs.Shell
