import SchemaDocs.Shell.Tool.Filing.Basic
/-!
# Rights and owners

Programs that change who may do what with files, and whose they are.  All files belong to one
owner, and giving them to another one changes nothing that can be seen.
-/

namespace SchemaDocs.Shell

namespace Tool

open Filing

/-- How much is told of changes. -/
inductive Telling where
  | nothing | changes | all
deriving DecidableEq

/-- How rights are changed. -/
structure RightsSettings where
  isDeep : Bool := false
  isSilent : Bool := false
  telling : Telling := .nothing
  reference : Option ByteText := none

/-- The options of the program that changes rights. -/
def chmodRules : OptionRules :=
  { forms :=
    [.both 'R' "recursive", .both 'v' "verbose", .both 'c' "changes", .both 'f' "quiet",
     .word "silent", .word "reference" .required, .word "preserve-root",
     .word "no-preserve-root", .word "help", .word "version"] }

/-- Settings after an option of the program that changes rights. -/
def chmodOption (settings : RightsSettings) (key : String) (argument : ByteText) :
    Program (Except Nat RightsSettings) :=
  return .ok (match key with
    | "R" => { settings with isDeep := true }
    | "v" => { settings with telling := .all }
    | "c" => { settings with telling := .changes }
    | "f" => { settings with isSilent := true }
    | "silent" => { settings with isSilent := true }
    | "reference" => { settings with reference := some argument }
    | _ => settings)

/-- Whether a word is a change that takes rights away, and so looks like an option. -/
def isTaking (word : ByteText) : Bool :=
  match word with
  | '-' :: c :: cs => (c :: cs).all fun c => (ascii "rwxXstugoa,+=01234567").contains c
  | _ => false

/-- Rights in digits and letters. -/
def rightsText (mode : Nat) : ByteText :=
  Rights.digits 4 mode ++ ascii " (" ++ Rights.letters mode ++ [')']

/-- A way to change the rights of a file, with a mask of new files, whether it is a directory, and
its rights. -/
abbrev RightsChange := Nat → Bool → Nat → Nat

/-- Changes the rights of what stands somewhere, which a path names.  A change that the mask held
back is told, if it has to be. -/
def changeRights (settings : RightsSettings) (isTold : Bool) (change : RightsChange)
    (path : ByteText) (steps : Steps) : Program Bool := do
  let now ← tree
  let marks := now.marks steps
  let mask := (← read).mask
  let isDirectory := now.kind steps = .directory
  let mode := change mask isDirectory marks.mode
  changeTree fun tree =>
    if mode = marks.mode then tree else tree.putMarks steps { marks with mode := mode }
  if settings.telling = .all && mode = marks.mode then
    Program.outLine (ascii "mode of " ++ Program.quoted path ++ ascii " retained as "
      ++ rightsText mode)
  if settings.telling != .nothing && mode != marks.mode then
    Program.outLine (ascii "mode of " ++ Program.quoted path ++ ascii " changed from "
      ++ rightsText marks.mode ++ ascii " to " ++ rightsText mode)
  let plain := change 0 isDirectory marks.mode
  if isTold && Rights.without mode plain != 0 then
    refuse (Quoting.whereNeeded path ++ ascii ": new permissions are " ++ Rights.letters mode
      ++ ascii ", not " ++ Rights.letters plain)
  else return true

/-- Changes the rights of what stands somewhere and of all that is in it.  Each step goes one level
deep. -/
def changeRightsDeep (settings : RightsSettings) (isTold : Bool) (change : RightsChange) :
    Nat → ByteText → Steps → Program Bool
  | 0, _, _ => return true
  | depth + 1, path, steps => do
    let isFine ← changeRights settings isTold change path steps
    if settings.isDeep && (← tree).kind steps = .directory then
      ((← tree).namesIn steps).foldlM (fun isFine name => do
        if (← tree).kind (steps ++ [name]) = .link then return isFine
        else
          let inner := inside path (ByteText.ofString name)
          return (← changeRightsDeep settings isTold change depth inner (steps ++ [name])) && isFine)
        isFine
    else return isFine

/-- Changes the rights of all files that are named. -/
def changeAllRights (settings : RightsSettings) (isTold : Bool) (change : RightsChange)
    (paths : List ByteText) : Program Nat :=
  forAll paths fun path => do
    let fail (text : ByteText) : Program Bool := do
      if !settings.isSilent then Program.complain text
      if settings.telling = .all then
        Program.outLine (Program.quoted path ++ ascii " could not be accessed")
      return false
    match ← placeOf path with
    | .ok place => changeRightsDeep settings isTold change deepest path place.steps
    | .error cause =>
      match ← linkPlaceOf path with
      | .ok _ => fail (ascii "cannot operate on dangling symlink " ++ Program.quoted path)
      | .error _ =>
        fail (ascii "cannot access " ++ Program.quoted path ++ ascii (": " ++ cause.reason))

/-- Changes who may do what with files. -/
def chmod : Tool := do
  let process ← read
  let options := process.arguments.takeWhile (· != ['-', '-'])
  let rest := process.arguments.drop options.length
  let taking := options.filter isTaking
  let arguments := options.filter (fun word => !isTaking word) ++ rest
  withReader (fun process => { process with arguments := arguments }) <|
    Program.withArguments chmodRules {} chmodOption fun settings operands => do
      let given := (taking.intersperse [',']).flatten
      match settings.reference, operands with
      | some reference, paths =>
        if !given.isEmpty then
          Program.misuse 1 (ascii "cannot combine mode and --reference options")
        else if paths.isEmpty then Program.missingOperand
        else
          match ← placeOf reference with
          | .error cause =>
            Program.die 1 (ascii "failed to get attributes of " ++ Program.quoted reference
              ++ ascii (": " ++ cause.reason))
          | .ok place =>
            let mode := ((← tree).marks place.steps).mode
            changeAllRights settings false (fun _ _ _ => mode) paths
      | none, operands =>
        let (mode, paths) :=
          if given.isEmpty then (operands.headD [], operands.drop 1) else (given, operands)
        if given.isEmpty && operands.isEmpty then Program.missingOperand
        else if paths.isEmpty then
          if given.isEmpty then
            Program.misuse 1 (ascii "missing operand after " ++ Program.quoted mode)
          else Program.missingOperand
        else
          match Rights.changes? mode with
          | none => Program.misuse 1 (ascii "invalid mode: " ++ Program.quoted mode)
          | some changes =>
            changeAllRights settings (!given.isEmpty)
              (fun mask isDirectory before => Rights.after mask isDirectory changes before) paths

/-! ## Owners -/

/-- The names of owners that there are, each with its number. -/
def owners : List (String × Nat) :=
  [("root", 0), ("daemon", 1), ("bin", 2), ("sys", 3), ("sync", 4), ("games", 5), ("man", 6),
   ("lp", 7), ("mail", 8), ("news", 9), ("uucp", 10), ("proxy", 13), ("www-data", 33),
   ("backup", 34), ("list", 38), ("irc", 39), ("_apt", 42), ("nobody", 65534)]

/-- The names of groups that there are, each with its number. -/
def groups : List (String × Nat) :=
  [("root", 0), ("daemon", 1), ("bin", 2), ("sys", 3), ("adm", 4), ("tty", 5), ("disk", 6),
   ("lp", 7), ("mail", 8), ("news", 9), ("uucp", 10), ("man", 12), ("proxy", 13), ("kmem", 15),
   ("dialout", 20), ("fax", 21), ("voice", 22), ("cdrom", 24), ("floppy", 25), ("tape", 26),
   ("sudo", 27), ("audio", 29), ("dip", 30), ("www-data", 33), ("backup", 34), ("operator", 37),
   ("list", 38), ("irc", 39), ("src", 40), ("shadow", 42), ("utmp", 43), ("video", 44),
   ("sasl", 45), ("plugdev", 46), ("staff", 50), ("games", 60), ("users", 100),
   ("nogroup", 65534)]

/-- Whether a word names one of some owners, by its name or its number. -/
def isNamed (known : List (String × Nat)) (word : ByteText) : Bool :=
  word.isEmpty || (ByteText.toNat? (word.dropWhile (· = '+'))).isSome
    || known.any fun entry => ascii entry.1 = word

/-- The options of the programs that change owners. -/
def chownRules : OptionRules :=
  { forms :=
    [.both 'R' "recursive", .both 'v' "verbose", .both 'c' "changes", .both 'f' "quiet",
     .word "silent", .word "reference" .required, .both 'h' "no-dereference",
     .word "dereference", .word "from" .required, .word "preserve-root",
     .word "no-preserve-root", .letter 'H', .letter 'L', .letter 'P', .word "help",
     .word "version"] }

/-- Gives files to an owner, after a look at whom the first operand names. -/
def giveTo (noun : String) (isKnown : ByteText → Option ByteText) : Tool :=
  Program.withArguments chownRules {} chmodOption fun settings operands => do
    let (whom, paths) :=
      match settings.reference with
      | some _ => ([], operands)
      | none => (operands.headD [], operands.drop 1)
    if operands.isEmpty then Program.missingOperand
    else if paths.isEmpty then
      Program.misuse 1 (ascii "missing operand after " ++ Program.quoted whom)
    else
      match isKnown whom with
      | some fault => Program.die 1 fault
      | none =>
        forAll paths fun path => do
          match ← placeOf path with
          | .error cause =>
            if settings.isSilent then return false
            else refuseFor "cannot access " path cause
          | .ok place =>
            if settings.telling = .all then
              let now ← tree
              let places :=
                if settings.isDeep then underFrom now deepest place.steps else [place.steps]
              Program.each places fun steps => do
                let inner := steps.drop place.steps.length
                let shown := inner.foldl (fun path name => inside path (ByteText.ofString name)) path
                Program.outLine (ascii noun ++ ascii " of " ++ Program.quoted shown
                  ++ ascii " retained as " ++ whom)
            return true

/-- Changes whose files are. -/
def chown : Tool :=
  giveTo "ownership" fun whom =>
    let separator := if whom.contains ':' then ':' else '.'
    let owner := whom.takeWhile (· != separator)
    let group := whom.drop (owner.length + 1)
    if !isNamed owners owner then some (ascii "invalid user: " ++ Program.quoted whom)
    else if !isNamed groups group then some (ascii "invalid group: " ++ Program.quoted whom)
    else none

/-- Changes which group files belong to. -/
def chgrp : Tool :=
  giveTo "group" fun whom =>
    if isNamed groups whom then none
    else some (ascii "invalid group: " ++ Program.quoted whom)

end Tool

end SchemaDocs.Shell
