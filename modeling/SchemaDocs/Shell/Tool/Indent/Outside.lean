import SchemaDocs.Shell.Tool.Indent.Attribute
import SchemaDocs.Shell.Tool.Indent.Read
/-!
# The system around a program

Libraries for what lies outside of a program: its process, the tree of files, other programs,
signals and time.
-/

namespace SchemaDocs.Shell.Indent

namespace Running

/-- Puts a value under the name of a library. -/
def putSetting (name : String) (value : Value) : Running Unit :=
  change fun machine =>
    { machine with settings := (name, value) :: machine.settings.filter fun entry => entry.1 != name }

/-- The value under a name of a library. -/
def setting? (name : String) : Running (Option Value) := do
  return ((← look (·.settings)).find? fun entry => entry.1 = name).map Prod.snd

/-! ## The process -/

/-- Raises the exception for the end of a program. -/
def leave {α : Type} (code : Value) : Running α := do raise (← makeException "SystemExit" [code])

/-- Calls a function of the library for the interpreter. -/
def callInterpreter (name : String) (arguments : List Value) : Running Value := do
  let first := (arguments.head?).getD .nothing
  match name with
  | "exit" =>
    match arguments with
    | [] => raise (← makeException "SystemExit" [])
    | code :: _ => leave code
  | "getdefaultencoding" => return .text (ascii "utf-8")
  | "getfilesystemencoding" => return .text (ascii "utf-8")
  | "getrecursionlimit" => return .int 1000
  | "setrecursionlimit" => return .nothing
  | "intern" => return first
  | "getsizeof" => return .int 64
  | "getrefcount" => return .int 2
  | "exc_info" =>
    match (← look (·.handled)).head? with
    | some exception => return .tuple [← typeOf exception, exception, .nothing]
    | none => return .tuple [.nothing, .nothing, .nothing]
  | name => failMember (.library "sys") name

/-- The environment that programs are started in. -/
def environmentNow (caller : Caller) : Running (Option Environment) := do
  match ← setting? "os.environ" with
  | some table => environmentOf caller table
  | none => return none

/-- Does what a signal does to this program. -/
def takeSignal (caller : Caller) (signal : Nat) : Running Value := do
  match ← setting? ("handler." ++ toString signal) with
  | some (.int 1) => return .nothing
  | some (.int 0) => deadly signal
  | some handler =>
    let _ ← caller.call handler [.int signal, .nothing] []
    return .nothing
  | none =>
    if signal = 2 then raise (← makeException "KeyboardInterrupt" [])
    else if signal = 13 || signal = 25 then return .nothing
    else deadly signal
where
  /-- Does what a signal does that nothing is done about. -/
  deadly (signal : Nat) : Running Value := do
    if signal = 0 || Signal.isHarmless signal then return .nothing
    else if Signal.stops signal then
      system (System.stall .asleep)
      throw (.ended 0)
    else throw (.killed signal)

/-- Fails with the number of a fault. -/
def failNumber {α : Type} (number : Nat) (kind message : String) : Running α := do
  raise (← makeException kind [.int number, .text (ascii message)])

/-! ## Files -/

/-- What stands at a path, or nothing. -/
def kindAt (path : ByteText) : Running FileKind := program (Program.kindOf path)

/-- Changes the tree of files at a path. -/
def changePath (value : Value) (leavesLast : Bool)
    (step : FilePlace → FileTree → Except FileError (FileTree → FileTree)) : Running Unit := do
  let path ← pathOf value
  match ← program (Filing.newPlaceWith leavesLast path) with
  | .error cause => failFile cause value
  | .ok place =>
    match step place (← program Filing.tree) with
    | .error cause => failFile cause value
    | .ok change => program (Filing.changeTree change)

/-- Makes a directory. -/
def makeDirectoryAt (value : Value) : Running Unit := do
  let mask := (← program (readThe Process)).mask
  changePath value false fun place _ =>
    match place.kind with
    | .missing =>
      if FileTree.canMake place.steps then
        .ok fun tree => tree.putDirectory (Rights.without 511 mask) place.steps
      else .error .notFound
    | _ => .error .exists

/-- Takes a file away. -/
def removeAt (value : Value) : Running Unit :=
  changePath value true fun place _ =>
    match place.kind with
    | .missing => .error .notFound
    | .directory => .error .isADirectory
    | _ => .ok fun tree => tree.remove place.steps

/-- Takes an empty directory away. -/
def removeDirectoryAt (value : Value) : Running Unit :=
  changePath value true fun place tree =>
    match place.kind with
    | .missing => .error .notFound
    | .directory =>
      if (tree.namesIn place.steps).isEmpty then .ok fun tree => tree.remove place.steps
      else .error .notEmpty
    | _ => .error .notADirectory

/-- Moves a file to another place. -/
def moveTo (source target : Value) : Running Unit := do
  let from_ ← pathOf source
  match ← program (Filing.linkPlaceOf from_) with
  | .error cause =>
    let (kind, number) := faultKind cause
    raise (← makeException kind [.int number, .text (ascii cause.reason), source, .nothing, target])
  | .ok place =>
    changePath target true fun other _ =>
      if other.kind = .missing && !FileTree.canMake other.steps then .error .notFound
      else if other.kind = .directory && place.kind != .directory then .error .isADirectory
      else .ok fun tree => Filing.renamed tree place.steps other.steps

/-- All of a file. -/
def readAllAt (value : Value) : Running ByteText := do
  let path ← pathOf value
  match ← program (Program.readOperand path) with
  | .ok text => return text
  | .error cause => failFile cause value

/-- Writes all of a file. -/
def writeAllAt (value : Value) (appends : Bool) (bytes : ByteText) : Running Unit := do
  let path ← pathOf value
  match ← program (Program.openOutput path appends) with
  | .ok channel =>
    let _ ← system (System.write channel bytes)
  | .error cause => failFile cause value

/-- The names in a directory. -/
def namesAt (value : Value) : Running (List (List Char)) := do
  let path ← pathOf value
  match ← program (Filing.placeOf path) with
  | .error cause => failFile cause value
  | .ok place =>
    if place.kind = .directory then
      return ((← program Filing.tree).namesIn place.steps).map String.toList
    else failFile .notADirectory value

/-- The directories under one with the names in them.  Each step goes a level down. -/
def walked : Nat → List Char → Running (List Value)
  | 0, _ => return []
  | fuel + 1, path => do
    let kind ← kindAt (encoded path)
    if kind != .directory then return []
    else
      let names ← namesAt (.text path)
      let marked ← names.mapM fun name => do
        let kind ← kindAt (encoded (joinPaths [path, name]))
        return (name, decide (kind = .directory))
      let inner := (marked.filter Prod.snd).map Prod.fst
      let files := (marked.filter fun entry => !entry.2).map Prod.fst
      let row := Value.tuple [.text path, ← list (inner.map Value.text), ← list (files.map Value.text)]
      let later ← inner.mapM fun name => walked fuel (joinPaths [path, name])
      return row :: later.flatten

/-- What a file is, as an object with fields. -/
def statusAt (value : Value) : Running Value := do
  let path ← pathOf value
  match ← program (Filing.placeOf path) with
  | .error cause => failFile cause value
  | .ok place =>
    let tree ← program Filing.tree
    let size := ((tree.file? place.steps).getD []).length
    let marks := tree.marks place.steps
    make (.record (.builtIn "os.stat_result")
      [("st_size", .int size), ("st_mode", .int marks.mode), ("st_uid", .int 0), ("st_gid", .int 0)])

/-! ## Other programs -/

/-- Calls a function of the library for the system. -/
def callSystem (caller : Caller) (name : String) (arguments : List Value)
    (named : List (String × Value)) : Running Value := do
  let first := (arguments.head?).getD .nothing
  let second := (arguments[1]?).getD .nothing
  let int (value : Value) : Int := (int? value).getD 0
  match name with
  | "_exit" => throw (.ended (Int.emod (int first) 256).toNat)
  | "abort" => throw (.killed 6)
  | "getcwd" => return .text (← currentDirectory)
  | "getenv" =>
    let environment := (← setting? "os.environ").getD .nothing
    caller.call (.method environment "get") arguments named
  | "putenv" => return .nothing
  | "getpid" => return .int processNumber
  | "getppid" => return .int 4200
  | "getpgrp" => return .int processNumber
  | "getpgid" => return .int processNumber
  | "getuid" => return .int 0
  | "getgid" => return .int 0
  | "geteuid" => return .int 0
  | "getegid" => return .int 0
  | "getlogin" => failNumber 6 "OSError" "No such device or address"
  | "cpu_count" => return .int 4
  | "umask" => return .int 18
  | "isatty" => return .bool false
  | "kill" =>
    if int first = processNumber || int first = 0 then takeSignal caller (int second).toNat
    else if int second = 0 && int first = 1 then return .nothing
    else failNumber 3 "ProcessLookupError" "No such process"
  | "killpg" => takeSignal caller (int second).toNat
  | "strerror" =>
    let number := (int first).toNat
    let known := [(1, "Operation not permitted"), (2, "No such file or directory"), (4, "Interrupted system call"),
      (5, "Input/output error"), (9, "Bad file descriptor"), (12, "Cannot allocate memory"),
      (13, "Permission denied"), (17, "File exists"), (20, "Not a directory"), (21, "Is a directory"),
      (22, "Invalid argument"), (28, "No space left on device"), (32, "Broken pipe")]
    match known.find? fun entry => entry.1 = number with
    | some (_, text) => return .text (ascii text)
    | none => return .text (ascii ("Unknown error " ++ toString number))
  | "fspath" => return .text (← pathText first)
  | "fsencode" => return .bytes (← pathOf first)
  | "fsdecode" => return .text (← pathText first)
  | "listdir" =>
    let path := if arguments.isEmpty then .text ['.'] else first
    list ((← namesAt path).map Value.text)
  | "walk" => giver "generator" (← walked Filing.deepest (← pathText first))
  | "stat" => statusAt first
  | "mkdir" =>
    makeDirectoryAt first
    return .nothing
  | "makedirs" =>
    let path ← pathText first
    let allows ← truth caller (((named.find? fun entry => entry.1 = "exist_ok").map Prod.snd).getD .nothing)
    let steps := ByteText.splitAt '/' path
    let ways := (List.range steps.length).map fun count => ((steps.take (count + 1)).intersperse ['/']).flatten
    let last := ways.length
    for (way, place) in ways.zipIdx do
      if !way.isEmpty then
        let kind ← kindAt (encoded way)
        if kind = .missing then makeDirectoryAt (.text way)
        else if place + 1 = last && !(allows && kind = .directory) then failFile .exists first
    return .nothing
  | "remove" =>
    removeAt first
    return .nothing
  | "unlink" =>
    removeAt first
    return .nothing
  | "rmdir" =>
    removeDirectoryAt first
    return .nothing
  | "rename" =>
    moveTo first second
    return .nothing
  | "replace" =>
    moveTo first second
    return .nothing
  | "access" =>
    let path ← pathOf first
    return .bool ((← kindAt path) != .missing)
  | "chmod" =>
    let mode := (int second).toNat
    changePath first false fun place _ =>
      if place.kind = .missing then .error .notFound
      else .ok fun tree => tree.putMarks place.steps { tree.marks place.steps with mode := mode }
    return .nothing
  | "symlink" =>
    let target ← pathText first
    changePath second true fun place _ =>
      if place.kind != .missing then .error .exists
      else .ok fun tree => tree.putLink place.steps (String.ofList target)
    return .nothing
  | "chdir" => return .nothing
  | "write" =>
    match second with
    | .bytes bytes =>
      program (Program.writeTo (int first).toNat bytes)
      return .int bytes.length
    | other => failType (ascii ("a bytes-like object is required, not '" ++ (← typeName other) ++ "'"))
  | "read" =>
    match ← program (Program.descriptor? (int first).toNat) with
    | some channel => return .bytes (← system (System.readBlock channel (int second).toNat))
    | none => failNumber 9 "OSError" "Bad file descriptor"
  | "close" => return .nothing
  | "dup2" => return second
  | "fdopen" => openFile first (match second with
      | .text mode => mode
      | _ => ['r'])
  | "system" =>
    flush
    let words ← commandWords caller first true
    match ← startProgram caller words none false false false (← environmentNow caller) with
    | .ok outcome =>
      return .int (if outcome.status < 0 then -outcome.status else outcome.status * 256)
    | .error _ => return .int (127 * 256)
  | "popen" =>
    let words ← commandWords caller first true
    match ← startProgram caller words none true false false (← environmentNow caller) with
    | .ok outcome => make (.buffer [outcome.output] false)
    | .error _ => make (.buffer [] false)
  | "WEXITSTATUS" => return .int (int first / 256)
  | "waitstatus_to_exitcode" => return .int (int first / 256)
  | "uname" =>
    make (.record (.builtIn "posix.uname_result")
      [("sysname", .text (ascii "Linux")), ("machine", .text (ascii "x86_64"))])
  | name =>
    if ["execvp", "execv", "execlp", "execl"].contains name then
      let words ← (if name = "execvp" || name = "execv" then items caller second
        else pure (arguments.drop 1))
      let words ← words.mapM pathOf
      let program? ← pathOf first
      flush
      match ← startProgram caller (program? :: words.drop 1) none false false false
          (← environmentNow caller) with
      | .error cause => failNumber 2 "FileNotFoundError" cause.reason
      | .ok outcome =>
        if outcome.status < 0 then throw (.killed outcome.status.natAbs)
        else throw (.ended outcome.status.natAbs)
    else failMember (.library "os") name

/-! ## Paths -/

/-- Calls a function of the library for paths. -/
def callPath (caller : Caller) (name : String) (arguments : List Value) : Running Value := do
  let first := (arguments.head?).getD .nothing
  let text (path : List Char) : Running Value := return .text path
  let kind : Running FileKind := do kindAt (← pathOf first)
  match name with
  | "basename" => text (lastName (← pathText first))
  | "dirname" => text (parentPath (← pathText first))
  | "split" =>
    let path ← pathText first
    return .tuple [.text (parentPath path), .text (lastName path)]
  | "splitext" =>
    let (body, ending) := splitEnding (← pathText first)
    return .tuple [.text body, .text ending]
  | "join" => text (joinPaths (← arguments.mapM pathText))
  | "abspath" => text (← absolutePath (← pathText first))
  | "realpath" => text (← absolutePath (← pathText first))
  | "normpath" => text (normalPath (← pathText first))
  | "expanduser" =>
    match ← pathText first with
    | '~' :: rest => text (if rest.isEmpty || rest.head? = some '/' then ascii "/root" ++ rest else '~' :: rest)
    | path => text path
  | "expandvars" => text (← pathText first)
  | "isabs" => return .bool ((← pathText first).head? = some '/')
  | "exists" => return .bool ((← kind) != .missing)
  | "lexists" => return .bool ((← kind) != .missing)
  | "isfile" => return .bool ((← kind) = .file)
  | "isdir" => return .bool ((← kind) = .directory)
  | "islink" =>
    let path ← pathOf first
    match ← program (Filing.linkPlaceOf path) with
    | .ok place => return .bool ((← program Filing.tree).link? place.steps).isSome
    | .error _ => return .bool false
  | "getsize" =>
    let path ← pathOf first
    match ← program (Filing.placeOf path) with
    | .ok place =>
      let size := (((← program Filing.tree).file? place.steps).getD []).length
      return .int (if place.kind = .directory then 4096 else size)
    | .error cause => failFile cause first
  | "getmtime" => return .float 1750000000.0
  | "relpath" =>
    let start ← match arguments[1]? with
      | some start => do pure (← absolutePath (← pathText start))
      | none => currentDirectory
    let from_ := (ByteText.splitAt '/' start).filter fun step => !step.isEmpty
    let target ← absolutePath (← pathText first)
    let target := (ByteText.splitAt '/' target).filter fun step => !step.isEmpty
    let shared := ((from_.zip target).takeWhile fun (a, b) => a = b).length
    let steps := List.replicate (from_.length - shared) ['.', '.'] ++ target.drop shared
    text (if steps.isEmpty then ['.'] else (steps.intersperse ['/']).flatten)
  | "commonprefix" =>
    let texts ← (← items caller first).mapM pathText
    match texts with
    | [] => text []
    | start :: rest =>
      text (rest.foldl (fun shared other =>
        ((shared.zip other).takeWhile fun (a, b) => a = b).map Prod.fst) start)
  | name => failMember (.library "os.path") name

/-! ## Time and signals -/

/-- Calls a function of the library for time. -/
def callTime (caller : Caller) (name : String) (arguments : List Value) : Running Value := do
  let first := (arguments.head?).getD .nothing
  let milliseconds := (← system get).milliseconds
  let seconds : Float := Float.ofNat milliseconds / 1000.0
  let start : Float := 1750000000.0
  match name with
  | "sleep" =>
    match float? first with
    | some n =>
      if n < 0 then fail "ValueError" (ascii "sleep length must be non-negative")
      else
        system (System.wait (n * 1000.0).toUInt64.toNat)
        return .nothing
    | none =>
      failType (ascii ("'" ++ (← typeName first) ++ "' object cannot be interpreted as an integer"))
  | "time" => return .float (start + seconds)
  | "time_ns" => return .int ((1750000000000 + milliseconds : Nat) * 1000000 : Nat)
  | "monotonic" => return .float seconds
  | "perf_counter" => return .float seconds
  | "process_time" => return .float 0.02
  | name =>
    let _ ← truth caller first
    failMember (.library "time") name

/-- Calls a function of the library for signals. -/
def callSignal (caller : Caller) (name : String) (arguments : List Value) : Running Value := do
  let number (value : Value) : Nat := ((int? value).getD 0).toNat
  match name, arguments with
  | "signal", [signal, handler] =>
    let key := "handler." ++ toString (number signal)
    let before := (← setting? key).getD (.int 0)
    putSetting key handler
    return before
  | "getsignal", [signal] => return (← setting? ("handler." ++ toString (number signal))).getD (.int 0)
  | "raise_signal", [signal] => takeSignal caller (number signal)
  | "alarm", _ => return .int 0
  | "pause", _ =>
    system (System.stall .asleep)
    throw (.ended 0)
  | name, _ => failMember (.library "signal") name

/-- Calls a function of the library for the copying of files. -/
def callCopying (caller : Caller) (name : String) (arguments : List Value) : Running Value := do
  let first := (arguments.head?).getD .nothing
  let second := (arguments[1]?).getD .nothing
  let targetOf : Running Value := do
    let target ← pathText second
    if (← kindAt (encoded target)) = .directory then
      return .text (joinPaths [target, lastName (← pathText first)])
    else return second
  match name with
  | "copyfileobj" =>
    let text ← caller.call (← memberOf caller first "read") [] []
    let _ ← caller.call (← memberOf caller second "write") [text] []
    return .nothing
  | "copyfile" =>
    writeAllAt second false (← readAllAt first)
    return second
  | "move" =>
    let target ← targetOf
    moveTo first target
    return target
  | "rmtree" =>
    let path ← pathOf first
    match ← program (Filing.linkPlaceOf path) with
    | .ok place => program (Filing.changeTree fun tree => Filing.without tree place.steps)
    | .error cause => failFile cause first
    return .nothing
  | "which" =>
    let name ← pathText first
    let here := ["/usr/bin", "/bin"].map fun directory => joinPaths [directory.toList, name]
    let found ← here.filterM fun path => program (Program.isRunnable (encoded path))
    return (match found with
      | path :: _ => .text path
      | [] => .nothing)
  | _ =>
    let target ← targetOf
    writeAllAt target false (← readAllAt first)
    return target

end Running

end SchemaDocs.Shell.Indent

/-!
## What is told about faults

The way that an exception took, with the lines that it passed and marks under what failed there,
and what is wrong with the text of a program.
-/

namespace SchemaDocs.Shell.Indent

namespace Fault

/-! ### Names that were meant -/

/-- What it costs to write a character instead of another one. -/
def exchangeCost (a b : Char) : Nat :=
  if a = b then 0 else if a.toLower = b.toLower then 1 else 2

/-- What it costs to turn a name into another one, character by character. -/
def distance (a b : List Char) : Nat :=
  let first := (List.range (a.length + 1)).map fun count => 2 * count
  let rows := b.foldl (fun (row : List Nat) d =>
    match row with
    | [] => []
    | corner :: above =>
      let next := (a.zip above).foldl (fun (state : Nat × Nat × List Nat) entry =>
        let (diagonal, before, made) := state
        let (c, up) := entry
        let cost := min (min before up + 2) (diagonal + exchangeCost c d)
        (up, cost, cost :: made)) (corner, corner + 2, [])
      (corner + 2) :: next.2.2.reverse) first
  (rows.getLast?).getD 0

/-- The name among some that is nearest to a wrong one, if one is near. -/
def nearest? (wrong : List Char) (names : List (List Char)) : Option (List Char) :=
  if 40 < wrong.length || 750 < names.length then none
  else
    (names.foldl (fun (best : Nat × Option (List Char)) name =>
      if name = wrong then best
      else
        let most := min ((name.length + wrong.length + 3) * 2 / 6) (best.1 - 1)
        let cost := distance wrong name
        if cost ≤ most && (best.2.isNone || cost < best.1) then (cost, some name) else best)
      (wrong.length, none)).2

/-! ### Marks under a line -/

/-- A line without the blanks at its ends, and how many stood at its start. -/
def trimmedLine (line : List Char) : List Char × Nat :=
  let isBlank (c : Char) : Bool := c = ' ' || c = '\t' || c = '\x0c'
  let rest := line.dropWhile isBlank
  ((rest.reverse.dropWhile isSpaceChar).reverse, line.length - rest.length)

/-- The part of an operation that matters: where it begins and ends within the text of it. -/
def core? (text : List Char) : Option (Nat × Nat) :=
  let rec bare : Expr → Expr
    | .placed _ inner => bare inner
    | e => e
  let spanOf (e : Expr) : Option Span := match e with
    | .placed span _ => some span
    | _ => none
  let between (a b : Nat) : Option (Nat × Nat) :=
    let inner := (text.drop a).take (b - a)
    let blanks := (inner.takeWhile fun c => isSpaceChar c || c = ')').length
    match inner.drop blanks with
    | _ :: c :: _ =>
      some (a + blanks, a + blanks + (if isSpaceChar c || c = '(' then 1 else 2))
    | [_] => some (a + blanks, a + blanks + 1)
    | [] => none
  match readExpression text with
  | .error _ => none
  | .ok e =>
    match bare e with
    | .binary _ first second =>
      match spanOf first, spanOf second with
      | some a, some b => if a.endLine = 1 && b.line = 1 then between a.endColumn b.column else none
      | _, _ => none
    | .subscript object _ =>
      match spanOf object with
      | some a => if a.endLine = 1 then some (a.endColumn, text.length) else none
      | none => none
    | _ => none

/-- The line of marks under a line of a program, if there is one. -/
def marksUnder (line : List Char) (span : Span) : List Char :=
  let (trimmed, margin) := trimmedLine line
  let stop := if span.endLine = span.line then span.endColumn else margin + trimmed.length
  let start := span.column
  let text := (line.drop start).take (stop - start)
  let core := core? text
  if core.isNone && stop - start = trimmed.length then []
  else
    let marks := (List.range (stop - start)).map fun place =>
      match core with
      | some (first, last) => if first ≤ place && place < last then '^' else '~'
      | none => '^'
    ascii "    " ++ List.replicate (start - margin) ' ' ++ marks ++ ['\n']

end Fault

namespace Running

/-- The full name of the type of an exception. -/
def exceptionName (exception : Value) : Running (List Char) := do
  match ← typeOf exception with
  | .builtIn name => return name.toList
  | _ => return (← typeName exception).toList

/-- The last line about an exception. -/
def lastWord (caller : Caller) (exception : Value) : Running (List Char) := do
  let name ← exceptionName exception
  let text ← match ← attempt (plain caller exception) with
    | .ok text => pure text
    | .error _ => pure (ascii "<exception str() failed>")
  let hint ← match ← fieldOf? exception "__hint__" with
    | some (.text hint) => pure hint
    | _ => pure []
  let notes ← match ← fieldOf? exception "__notes__" with
    | some notes => do
      let texts ← (← items caller notes).mapM (plain caller)
      pure (texts.map fun text => text ++ ['\n']).flatten
    | none => pure []
  return name ++ (if text.isEmpty then [] else [':', ' '] ++ text) ++ hint ++ ['\n'] ++ notes

/-- The lines about a place that an exception passed. -/
def entryText (entry : TraceEntry) : Running (List Char) := do
  let state ← machine
  let head := ascii "  File \"" ++ state.file ++ ascii "\", line " ++ ByteText.ofNat entry.span.line
    ++ ascii ", in " ++ entry.function.toList ++ ['\n']
  match state.lines[entry.span.line - 1]? with
  | some line =>
    let (trimmed, _) := Fault.trimmedLine line
    if trimmed.isEmpty then return head
    else
      return head ++ ascii "    " ++ trimmed ++ ['\n'] ++ Fault.marksUnder line entry.span
  | none => return head

/-- The lines about all places that an exception passed.  Of those that repeat some are shown. -/
def wayText (entries : List TraceEntry) : Running (List Char) := do
  let isAlike (a b : TraceEntry) : Bool := a.function = b.function && a.span.line = b.span.line
  let more (count : Nat) : List Char :=
    if count ≤ 3 then []
    else
      ascii "  [Previous line repeated " ++ ByteText.ofNat (count - 3) ++ ascii " more time"
        ++ (if count = 4 then [] else ['s']) ++ [']', '\n']
  let (texts, _, count) ← entries.foldlM
    (fun ((texts, last, count) : List (List Char) × Option TraceEntry × Nat) entry => do
      if last.any (isAlike entry) then
        let shown ← if count < 3 then entryText entry else pure []
        return (shown :: texts, last, count + 1)
      else return ((← entryText entry) :: more count :: texts, some entry, 1)) ([], none, 0)
  return (more count :: texts).reverse.flatten

/-- What is told about an exception and those that it came from.  Each step goes to the one before. -/
def traceText (caller : Caller) : Nat → Value → List TraceEntry → Running (List Char)
  | 0, _, _ => return []
  | fuel + 1, exception, entries => do
    let wayOf (value : Value) : Running (List TraceEntry) := do
      match value with
      | .object number =>
        return (((← look (·.traces)).find? fun entry => entry.1 = number).map Prod.snd).getD []
      | _ => return []
    let before ← match ← fieldOf? exception "__cause__" with
      | some (.object number) => do
        pure ((← traceText caller fuel (.object number) (← wayOf (.object number)))
          ++ ascii "\nThe above exception was the direct cause of the following exception:\n\n")
      | some _ => pure []
      | none => do
        match ← fieldOf? exception "__context__" with
        | some (.object number) =>
          pure ((← traceText caller fuel (.object number) (← wayOf (.object number)))
            ++ ascii "\nDuring handling of the above exception, another exception occurred:\n\n")
        | _ => pure []
    let own ← if entries.isEmpty then pure [] else do
      pure (ascii "Traceback (most recent call last):\n" ++ (← wayText entries))
    return before ++ own ++ (← lastWord caller exception)

/-- How many exceptions before one are told about. -/
def longestChain : Nat := 50

end Running

/-- What is told about the text of a program that is not well formed, perhaps with the line of it. -/
def SyntaxFault.text (fault : SyntaxFault) (hasLine : Bool) (file : List Char) (lines : Array (List Char)) :
    List Char :=
  let line := (lines[fault.span.line - 1]?).getD []
  let (trimmed, margin) := Fault.trimmedLine line
  let head := ascii "  File \"" ++ file ++ ascii "\", line " ++ ByteText.ofNat fault.span.line ++ ['\n']
  let isShown := hasLine && fault.span.line ≤ lines.size
  let marks :=
    if fault.span.column < margin || fault.message = ascii "unexpected indent" then []
    else
      let start := min (fault.span.column - margin) trimmed.length
      let count :=
        if fault.span.endLine = fault.span.line then max 1 (fault.span.endColumn - fault.span.column) else 1
      ascii "    " ++ List.replicate start ' ' ++ List.replicate count '^' ++ ['\n']
  head ++ (if isShown then ascii "    " ++ trimmed ++ ['\n'] ++ marks else [])
    ++ fault.kind.toList ++ [':', ' '] ++ fault.message ++ ['\n']

end SchemaDocs.Shell.Indent
