import SchemaDocs.Shell.ByteText
import SchemaDocs.Shell.System
/-!
# Processes

Rights to files, the steps that programs are made of, and how programs are started.

## Rights

Who may do what with a file: twelve bits, which are written in base eight or as letters.
Changes to them are written as letters too, each for some owners.
-/

namespace SchemaDocs.Shell

namespace Rights

/-- All bits. -/
def all : Nat := 4095

/-- The bits of reading, writing and running, for every owner. -/
def reading : Nat := 292
def writing : Nat := 146
def running : Nat := 73

/-- The bits of running as the owner or the group, and of keeping files from being removed. -/
def asOwner : Nat := 2048
def asGroup : Nat := 1024
def sticky : Nat := 512

/-- Bits without some of them. -/
def without (bits taken : Nat) : Nat := bits &&& (all ^^^ (taken &&& all))

/-- Where the bits of a change come from. -/
inductive Origin where
  | given
  /-- From the bits of an owner that are there already. -/
  | copied
  /-- Running too, if it is a directory or somebody may run it. -/
  | whereRunnable
deriving DecidableEq

/-- A change of rights: its sign, the bits that it may touch, or none if the mask of new files decides,
its bits, and those that it names. -/
structure Change where
  sign : Char
  affected : Nat
  value : Nat
  mentioned : Nat
  origin : Origin

/-- The bits of an owner. -/
def ofOwner? (c : Char) : Option Nat :=
  match c with
  | 'u' => some (asOwner ||| 448)
  | 'g' => some (asGroup ||| 56)
  | 'o' => some (sticky ||| 7)
  | 'a' => some all
  | _ => none

/-- The bits of letters, and whether running is asked for where it makes sense. -/
def ofLetters (letters : ByteText) : Nat × Bool :=
  letters.foldl (fun (bits, isConditional) c =>
    match c with
    | 'r' => (bits ||| reading, isConditional)
    | 'w' => (bits ||| writing, isConditional)
    | 'x' => (bits ||| running, isConditional)
    | 'X' => (bits, true)
    | 's' => (bits ||| asOwner ||| asGroup, isConditional)
    | 't' => (bits ||| sticky, isConditional)
    | _ => (bits, isConditional)) (0, false)

/-- Whether a character is the sign of a change. -/
def isSign (c : Char) : Bool := c = '=' || c = '+' || c = '-'

/-- The change behind a sign for some owners, and what follows it. -/
def changeAfter? (sign : Char) (affected : Nat) (text : ByteText) : Option (Change × ByteText) :=
  let naming (bits : Nat) : Nat := if affected = 0 then bits else affected &&& bits
  let digits := text.takeWhile (ByteText.isDigitIn 8)
  match text with
  | 'u' :: rest => some (⟨sign, affected, 448, naming 448, .copied⟩, rest)
  | 'g' :: rest => some (⟨sign, affected, 56, naming 56, .copied⟩, rest)
  | 'o' :: rest => some (⟨sign, affected, 7, naming 7, .copied⟩, rest)
  | _ =>
    if !digits.isEmpty then
      let rest := text.drop digits.length
      let value := ByteText.valueIn 8 digits
      if all < value || affected != 0 || !(rest.isEmpty || rest.head? = some ',') then none
      else some (⟨sign, all, value, all, .given⟩, rest)
    else
      let letters := text.takeWhile (ascii "rwxXst").contains
      let (bits, isConditional) := ofLetters letters
      some (⟨sign, affected, bits, naming bits, if isConditional then .whereRunnable else .given⟩,
        text.drop letters.length)

/-- Changes that are written one after the other.  Each step takes a change, or the owners of the next
ones. -/
def changesFrom? (affected : Nat) (isFirst : Bool) : Nat → ByteText → Option (List Change)
  | 0, _ => none
  | fuel + 1, text =>
    match text with
    | [] => if isFirst then none else some []
    | c :: rest =>
      if isSign c then do
        let (change, rest) ← changeAfter? c affected rest
        let changes ← changesFrom? affected false fuel rest
        some (change :: changes)
      else if c = ',' && !isFirst then changesFrom? 0 true fuel rest
      else if !isFirst then none
      else
        match ofOwner? c with
        | some bits => changesFrom? (affected ||| bits) true fuel rest
        | none => none

/-- Reads changes of rights. -/
def changes? (text : ByteText) : Option (List Change) :=
  match text with
  | c :: _ =>
    if ByteText.isDigitIn 8 c then
      let value := ByteText.valueIn 8 text
      if !text.all (ByteText.isDigitIn 8) || all < value then none
      else
        let mentioned :=
          if text.length < 5 then (value &&& (asOwner ||| asGroup)) ||| sticky ||| 511 else all
        some [⟨'=', all, value, mentioned, .given⟩]
    else changesFrom? 0 true (2 * text.length + 2) text
  | [] => none

/-- The rights of a file or a directory after a change, with a mask of new files. -/
def Change.apply (mask : Nat) (isDirectory : Bool) (mode : Nat) (change : Change) : Nat :=
  let omitted := if isDirectory then without (asOwner ||| asGroup) change.mentioned else 0
  let value :=
    match change.origin with
    | .given => change.value
    | .copied =>
      let bits := change.value &&& mode
      bits ||| (if bits &&& reading != 0 then reading else 0)
        ||| (if bits &&& writing != 0 then writing else 0)
        ||| (if bits &&& running != 0 then running else 0)
    | .whereRunnable =>
      if isDirectory || mode &&& running != 0 then change.value ||| running else change.value
  let allowed := if change.affected = 0 then without all mask else change.affected
  let value := without (value &&& allowed) omitted
  match change.sign with
  | '=' =>
    let kept := (if change.affected = 0 then 0 else without all change.affected) ||| omitted
    (mode &&& kept) ||| value
  | '+' => mode ||| value
  | _ => without mode value

/-- The rights after several changes. -/
def after (mask : Nat) (isDirectory : Bool) (changes : List Change) (mode : Nat) : Nat :=
  changes.foldl (Change.apply mask isDirectory) (mode &&& all)

/-- Three letters for the rights of an owner, where running may be marked. -/
def threeLetters (bits : Nat) (isMarked : Bool) (mark : Char) : ByteText :=
  [if bits &&& 4 != 0 then 'r' else '-', if bits &&& 2 != 0 then 'w' else '-',
    match decide (bits &&& 1 != 0), isMarked with
    | true, true => mark.toLower
    | false, true => mark.toUpper
    | true, false => 'x'
    | false, false => '-']

/-- Rights in letters. -/
def letters (mode : Nat) : ByteText :=
  threeLetters (mode / 64 % 8) (mode &&& asOwner != 0) 's'
    ++ threeLetters (mode / 8 % 8) (mode &&& asGroup != 0) 's'
    ++ threeLetters (mode % 8) (mode &&& sticky != 0) 't'

/-- Rights in base eight, in at least so many digits. -/
def digits (least mode : Nat) : ByteText :=
  let digits := ByteText.digitsIn 8 mode
  List.replicate (least - digits.length) '0' ++ digits

end Rights

end SchemaDocs.Shell

/-!
## Processes

What a program is started with, and the steps that programs are made of.
-/

namespace SchemaDocs.Shell

/-- The open files of a process under their numbers. -/
abbrev Descriptors := List (Nat × Nat)

/-- Variables that a process hands on to those that it starts. -/
abbrev Environment := List (ByteText × ByteText)

/-- What a program is started with. -/
structure Process where
  /-- The name that the program is called by. -/
  name : ByteText
  arguments : List ByteText
  environment : Environment
  descriptors : Descriptors
  /-- The directory that relative paths start from. -/
  directory : Steps
  /-- The bits that are taken from the rights of new files. -/
  mask : Nat := 18

/-- How a process ended. -/
inductive Ending where
  | exited (code : Nat)
  | killed (signal : Nat)
deriving DecidableEq

/-- The status of a process for the shell that started it. -/
def Ending.status : Ending → Nat
  | .exited code => code
  | .killed signal => 128 + signal

/-- A step of a program. -/
abbrev Program := ReaderT Process System

/-- A program as a whole, which ends with a code. -/
abbrev Tool := Program Nat

/-- The programs that can be started, by their names. -/
structure Launcher where
  program? : ByteText → Option (Program Ending)

namespace Program

/-- The open file under a number. -/
def descriptor? (number : Nat) : Program (Option Nat) := do
  return ((← read).descriptors.find? fun entry => entry.1 = number).map Prod.snd

/-- Keeps the first fault of writing. -/
def noteFault (fault : Option FileError) : Program Unit :=
  modify fun world => { world with writeFault := world.writeFault.or fault }

/-- Writes to a descriptor. -/
def writeTo (number : Nat) (text : ByteText) : Program Unit := do
  if text.isEmpty then return ()
  match ← descriptor? number with
  | some channel => noteFault (← System.write channel text)
  | none => noteFault (some .badDescriptor)

/-- Writes to the output. -/
def out (text : ByteText) : Program Unit := writeTo 1 text

/-- Writes a line to the output. -/
def outLine (text : ByteText) : Program Unit := out (text ++ ['\n'])

/-- Writes to the output for ever. -/
def outForever (piece : ByteText) : Program Unit := do
  match ← descriptor? 1 with
  | some channel => noteFault (← System.writeForever channel piece)
  | none => noteFault (some .badDescriptor)

/-- Writes a message.  Nobody hears of faults there. -/
def err (text : ByteText) : Program Unit := do
  match ← descriptor? 2 with
  | some channel => let _ ← System.write channel text
  | none => return ()

/-- Writes a message that begins with the name of the program. -/
def complain (text : ByteText) : Program Unit := do
  err ((← read).name ++ [':', ' '] ++ text ++ ['\n'])

/-- The name by which a process calls itself in messages. -/
def name : Program ByteText := do return (← read).name

/-- The value of a variable of the environment. -/
def lookup? (name : ByteText) : Program (Option ByteText) := do
  return ((← read).environment.find? fun entry => entry.1 = name).map Prod.snd

/-- Does something for each of some things, one after the other. -/
def each {α : Type} (items : List α) (step : α → Program Unit) : Program Unit :=
  items.forM step

/-! ### Files by name -/

/-- The descriptor that a path stands for, if it does. -/
def descriptorPath? (path : ByteText) : Option Nat :=
  match String.ofList path with
  | "/dev/stdin" => some 0
  | "/dev/stdout" => some 1
  | "/dev/stderr" => some 2
  | text =>
    match (text.toList).drop 8 with
    | digits =>
      if (ascii "/dev/fd/").isPrefixOf path then ByteText.toNat? digits else none

/-- Opens the file of a path for reading. -/
def openInput (path : ByteText) : Program (Except FileError Nat) := do
  match descriptorPath? path with
  | some number =>
    match ← descriptor? number with
    | some channel => return .ok channel
    | none => return .error .noDevice
  | none =>
    let process ← read
    match (← get).tree.locateForReading process.directory path.toString with
    | .error cause => return .error cause
    | .ok place =>
      match place.kind with
      | .device device => return .ok (← System.add (.device device))
      | _ => return .ok (← System.add (.file place.steps 0 { reads := true }))

/-- Whether an open file is a directory. -/
def isDirectory (channel : Nat) : Program Bool := do
  match ← System.channel? channel with
  | some (.file steps _ _) => return (← get).tree.kind steps = .directory
  | _ => return false

/-- The rights of a new file or directory for which some rights are asked. -/
def newMode (wanted : Nat) : Program Nat := do return Rights.without wanted (← read).mask

/-- Makes an empty file. -/
def makeFile (steps : Steps) : Program Unit := do
  let mode ← newMode 438
  System.changeTree fun tree => tree.putFileWith mode steps []

/-- Opens the file of a path for writing, empty unless it is written at its end. -/
def openOutput (path : ByteText) (appends : Bool) : Program (Except FileError Nat) := do
  match descriptorPath? path with
  | some number =>
    match ← descriptor? number with
    | some channel => return .ok channel
    | none => return .error .noDevice
  | none =>
    let process ← read
    match (← get).tree.locateForWriting process.directory path.toString with
    | .error cause => return .error cause
    | .ok place =>
      match place.kind with
      | .device device => return .ok (← System.add (.device device))
      | _ =>
        if place.kind = .missing then makeFile place.steps
        else if !appends then System.setContents place.steps []
        return .ok (← System.add (.file place.steps 0 { writes := true, appends := appends }))

/-- Opens the file of a path for reading and writing.  One that is missing is made. -/
def openBoth (path : ByteText) : Program (Except FileError Nat) := do
  match descriptorPath? path with
  | some _ => openInput path
  | none =>
    let process ← read
    match (← get).tree.locateForWriting process.directory path.toString with
    | .error cause => return .error cause
    | .ok place =>
      match place.kind with
      | .device device => return .ok (← System.add (.device device))
      | _ =>
        if place.kind = .missing then makeFile place.steps
        return .ok (← System.add (.file place.steps 0 { reads := true, writes := true }))

/-- Reads all of the input. -/
def readInput : Program (Except FileError ByteText) := do
  match ← descriptor? 0 with
  | some channel =>
    if ← isDirectory channel then return .error .isADirectory
    else return .ok (← System.readAll channel)
  | none => return .error .badDescriptor

/-- Reads all of the file of an operand, where a single dash stands for the input. -/
def readOperand (path : ByteText) : Program (Except FileError ByteText) := do
  if path = ['-'] then readInput
  else
    match ← openInput path with
    | .error cause => return .error cause
    | .ok channel =>
      if ← isDirectory channel then return .error .isADirectory
      else return .ok (← System.readAll channel)

/-- What stands at a path, if anything does.  A link at its end may be left as it is. -/
def placeAt (leavesLast : Bool) (path : ByteText) : Program (Option FilePlace) := do
  let process ← read
  let world ← get
  match world.tree.locateWith leavesLast process.directory path.toString with
  | .error _ => return none
  | .ok place =>
    if place.kind = .missing || (place.path.endsInSlash && place.kind ≠ .directory) then return none
    else return some place

/-- The kind of what stands at a path. -/
def kindOf (path : ByteText) : Program FileKind := do
  return ((← placeAt false path).map FilePlace.kind).getD .missing

/-- What is noted of what stands at a path. -/
def marksOf (path : ByteText) : Program (Option FileMarks) := do
  let tree := (← get).tree
  return (← placeAt false path).map fun place => tree.marks place.steps

/-- Whether the file of a path can be run, or the directory entered. -/
def isRunnable (path : ByteText) : Program Bool := do
  let tree := (← get).tree
  match ← placeAt false path with
  | none => return false
  | some place =>
    match place.kind with
    | .directory => return true
    | .file => return tree.isExecutable place.steps
    | _ => return false

/-- Whether the file of a path holds anything. -/
def isFilled (path : ByteText) : Program Bool := do
  let tree := (← get).tree
  match ← placeAt false path with
  | none => return false
  | some place =>
    match place.kind with
    | .directory => return true
    | .file => return ((tree.file? place.steps).map fun contents => !contents.isEmpty).getD true
    | _ => return false

/-- Whether a path leads to a file of a kind, which a letter stands for. -/
def fileHolds (c : Char) (path : ByteText) : Program Bool := do
  let kind ← kindOf path
  let isLink : Program Bool := do
    return ((← placeAt true path).map FilePlace.kind) = some .link
  let hasBit (bit : Nat) : Program Bool := do
    return (((← marksOf path).map FileMarks.mode).getD 0) &&& bit != 0
  match c with
  | 'e' => return kind ≠ .missing
  | 'f' => return kind = .file
  | 'd' => return kind = .directory
  | 'r' => return kind ≠ .missing
  | 'w' => return kind ≠ .missing
  | 'x' => isRunnable path
  | 's' => isFilled path
  | 'c' => return (match kind with
      | .device (.stream _) => false
      | .device _ => true
      | _ => false)
  | 'O' => return kind ≠ .missing
  | 'G' => return kind ≠ .missing
  | 'h' => isLink
  | 'L' => isLink
  | 'u' => hasBit Rights.asOwner
  | 'g' => hasBit Rights.asGroup
  | 'k' => hasBit Rights.sticky
  | _ => return false

/-- Whether two paths lead to one file. -/
def isSameFile (first second : ByteText) : Program Bool := do
  let a ← placeAt false first
  let b ← placeAt false second
  return a.isSome && a.map FilePlace.steps = b.map FilePlace.steps

end Program

end SchemaDocs.Shell

/-!
## Starting programs

A program is found by its path, or by its name in the directories that a variable lists.
A file that was made is run if it may be, by the program that its first line names or by
a shell.
-/

namespace SchemaDocs.Shell

/-- A program that waits for its name and its arguments. -/
abbrev Runner := ByteText → List ByteText → Program Ending

namespace Launcher

/-- A program under a name with arguments. -/
def called (program : Program Ending) (name : ByteText) (arguments : List ByteText) :
    Program Ending :=
  withReader (fun process => { process with name := name, arguments := arguments }) program

/-- The words of the first line of a text if it names a program to run it with: the program and
perhaps one argument. -/
def interpreterOf? (text : ByteText) : Option (ByteText × List ByteText) :=
  match text with
  | '#' :: '!' :: rest =>
    let line := (rest.takeWhile (· != '\n')).dropWhile fun c => c = ' ' || c = '\t'
    let program := line.takeWhile fun c => c != ' ' && c != '\t'
    let argument := (line.drop program.length).dropWhile fun c => c = ' ' || c = '\t'
    let argument := (argument.reverse.dropWhile fun c => c = ' ' || c = '\t').reverse
    if program.isEmpty then none
    else some (program, if argument.isEmpty then [] else [argument])
  | _ => none

/-- The last name of a path. -/
def lastName (path : ByteText) : ByteText := ((ByteText.splitAt '/' path).getLast?).getD []

/-- The program that a file stands for, by its text. -/
def ofScript (launcher : Launcher) (path : ByteText) (text : ByteText) :
    Except FileError Runner :=
  let (program, arguments) := (interpreterOf? text).getD (ascii "sh", [])
  match launcher.program? (lastName program) with
  | some runner => .ok fun _ rest => called runner program (arguments ++ path :: rest)
  | none => .error .notFound

/-- The program that a path leads to. -/
def atPath (launcher : Launcher) (directory : Steps) (path : ByteText) :
    System (Except FileError Runner) := do
  let world ← get
  match world.tree.locateForReading directory path.toString with
  | .error cause => return .error cause
  | .ok place =>
    match place.kind, world.tree.entry? place.steps with
    | .file, some (.file contents _) =>
      if world.tree.isExecutable place.steps then return launcher.ofScript path (ByteText.ofBytes contents)
      else return .error .permissionDenied
    | .file, _ =>
      if place.steps.dropLast = Surroundings.programSteps then
        match launcher.program? (ByteText.ofString (place.steps.getLast?.getD "")) with
        | some program => return .ok (called program)
        | none => return .error .notFound
      else return .error .permissionDenied
    | _, _ => return .error .permissionDenied

/-- The directories that are looked through if no variable lists any. -/
def usualPath : ByteText := ascii "/usr/local/sbin:/usr/local/bin:/usr/sbin:/usr/bin:/sbin:/bin"

/-- Looks for a program in some directories, and gives its path as well. -/
def search (launcher : Launcher) (directory : Steps) (name : ByteText) :
    FileError → List ByteText → System (Except FileError (ByteText × Runner))
  | cause, [] => return .error cause
  | cause, entry :: rest => do
    let path := if entry.isEmpty then name else entry ++ ['/'] ++ name
    match ← launcher.atPath directory path with
    | .ok runner => return .ok (path, runner)
    | .error .permissionDenied =>
      let isFile : Bool := match (← get).tree.locate directory path.toString with
        | .ok place => place.kind = .file
        | .error _ => false
      search launcher directory name (if isFile then .permissionDenied else cause) rest
    | .error _ => search launcher directory name cause rest

/-- Finds a program by its path or its name, and gives its path as well. -/
def find (launcher : Launcher) (directory : Steps) (path : ByteText) (name : ByteText) :
    System (Except FileError (ByteText × Runner)) := do
  if name.contains '/' then
    match ← launcher.atPath directory name with
    | .ok runner => return .ok (name, runner)
    | .error cause => return .error cause
  else if name.isEmpty then return .error .notFound
  else launcher.search directory name .notFound (ByteText.splitAt ':' path)

end Launcher

namespace Program

/-- Starts another program with the same open files, and waits for its end. -/
def start (launcher : Launcher) (name : ByteText) (arguments : List ByteText) :
    Program (Except FileError Ending) := do
  let process ← read
  let path := (← lookup? (ascii "PATH")).getD Launcher.usualPath
  match ← launcher.find process.directory path name with
  | .error cause => return .error cause
  | .ok (_, runner) => return .ok (← runner name arguments)

end Program

end SchemaDocs.Shell
