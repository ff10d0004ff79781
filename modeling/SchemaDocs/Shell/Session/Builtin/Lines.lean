import SchemaDocs.Shell.Session.Expand
import SchemaDocs.Shell.Session.Builtin.Text
import SchemaDocs.Shell.Session.Builtin.Basic
/-!
# Lines

Commands of the shell with more features that read and write text: lines that are cut into
variables or arrays, all lines of a text, and output that may go into a variable.
-/

namespace SchemaDocs.Shell

namespace Lines

/-! ## Writing -/

/-- The options at the start of the arguments of echo: whether a line feed follows, and whether
backslashes name characters. -/
def echoOptions (endsLine interprets : Bool) : List ByteText → Bool × Bool × List ByteText
  | [] => (endsLine, interprets, [])
  | argument :: rest =>
    match argument with
    | '-' :: c :: cs =>
      if (c :: cs).all (ascii "neE").contains then
        let endsLine := endsLine && !(c :: cs).contains 'n'
        let interprets := (c :: cs).foldl
          (fun interprets c => if c = 'e' then true else if c = 'E' then false else interprets)
          interprets
        echoOptions endsLine interprets rest
      else (endsLine, interprets, argument :: rest)
    | _ => (endsLine, interprets, argument :: rest)

/-- Writes arguments with blanks between them. -/
def echo (arguments : List ByteText) : Action Nat := do
  let (endsLine, interprets, words) :=
    echoOptions true (← Action.hasFeature "xpg_echo") arguments
  let text := (words.intersperse [' ']).flatten
  let (text, isCut) := if interprets then Escape.interpretMore false text else (text, false)
  Builtin.out (if endsLine && !isCut then text ++ ['\n'] else text)
  return 0

/-- Gives a variable, or a place in an array, a text. -/
def store (target text : ByteText) : Action Unit := do
  match Calculation.splitName target with
  | (name, none) =>
    Usage.requireName name target
    Assignment.assignText name none false text
  | (name, some place) =>
    Usage.requireName name target
    Assignment.assignText name (some (← Calculation.placeOf name place)) false text

/-- Writes arguments under a format, perhaps into a variable. -/
def printf (arguments : List ByteText) : Action Nat := do
  let (options, operands) ← Usage.options "v:" arguments
  match operands with
  | [] =>
    Usage.tell
    return 2
  | format :: rest =>
    let state ← Builtin.Printing.repeatFormat format (rest.length + 1)
      { dialect := .bash, arguments := rest }
    let text := state.written.reverse.flatten
    match Usage.last? options 'v' with
    | some target => store target text
    | none => Builtin.out text
    return state.status

/-! ## Reading -/

/-- Reads up to a mark, or up to some characters, and tells whether it came that far.  What stands
behind a backslash is marked, unless backslashes mean nothing.  Each step takes a character. -/
def readMarkedFrom (isRaw : Bool) (mark : Option Char) :
    Nat → MarkedText → ByteText → MarkedText × ByteText × Bool
  | 0, taken, rest => (taken.reverse, rest, true)
  | _ + 1, taken, [] => (taken.reverse, [], false)
  | count + 1, taken, c :: rest =>
    if some c = mark then (taken.reverse, rest, true)
    else if c = '\\' && !isRaw then
      match rest with
      | [] => (taken.reverse, [], false)
      | '\n' :: rest => readMarkedFrom isRaw mark (count + 1) taken rest
      | c :: rest => readMarkedFrom isRaw mark count ((c, true) :: taken) rest
    else if c = '\x00' then readMarkedFrom isRaw mark (count + 1) taken rest
    else readMarkedFrom isRaw mark count ((c, false) :: taken) rest
termination_by _ _ rest => rest.length

/-- What is asked of a reading. -/
structure Plan where
  isRaw : Bool
  mark : Option Char
  limit : Option Nat
  channel : Nat

/-- Reads text, and tells whether it came to the mark or the limit. -/
def readText (plan : Plan) : Action (MarkedText × Bool) := do
  let (pending, tail) ← Action.system (System.pending plan.channel)
  let pending :=
    match tail with
    | .endless piece => pending ++ System.repeated piece System.longestPrefix
    | _ => pending
  let limit := plan.limit.getD (pending.length + 1)
  let (text, rest, isEnded) := readMarkedFrom plan.isRaw plan.mark limit [] pending
  Action.system (System.advance plan.channel (pending.length - rest.length))
  if !isEnded then
    match tail with
    | .silent =>
      Action.system (System.stall .asleep)
      Action.settle
    | _ => pure ()
  return (text, isEnded)

/-- The fields of a line that was read. -/
def fieldsOf (separators : ByteText) (text : MarkedText) : List ByteText :=
  let pieces := text.map fun (c, isQuoted) =>
    if isQuoted then Piece.fixed [(c, true)] else Piece.loose [c]
  (Piece.fields separators pieces).map unmarked

/-- The number of an option, if it was given. -/
def optionNumber (options : List (Char × ByteText)) (letter : Char) (reason : String) :
    Action (Option Nat) := do
  match Usage.last? options letter with
  | none => return none
  | some text =>
    match ByteText.toNat? text with
    | some number => return some number
    | none => Action.failWith 1 (text ++ ascii ": " ++ ascii reason)

/-- The open file that is read, which an option may name. -/
def channelFor (options : List (Char × ByteText)) : Action (Option Nat) := do
  match Usage.last? options 'u' with
  | none => Action.channelOf? 0
  | some text =>
    match ByteText.toNat? text with
    | some number =>
      match ← Action.channelOf? number with
      | some channel => return some channel
      | none =>
        Action.failWith 1 (text ++ ascii ": invalid file descriptor: Bad file descriptor")
    | none => Action.failWith 1 (text ++ ascii ": invalid file descriptor specification")

/-- Reads a line into variables or an array. -/
def read (arguments : List ByteText) : Action Nat := do
  let (options, names) ← Usage.options "a:d:ei:n:N:p:rst:u:" arguments
  let exact ← optionNumber options 'N' "invalid number"
  let most ← optionNumber options 'n' "invalid number"
  match ← channelFor options with
  | none => Action.failWith 1 (ascii "0: read error: Bad file descriptor")
  | some channel =>
    if ← Action.program (Program.isDirectory channel) then
      Action.failWith 1 (ascii "0: read error: Is a directory")
    else if Usage.last? options 't' = some ['0'] then
      let (pending, _) ← Action.system (System.pending channel)
      return if pending.isEmpty then 1 else 0
    else
      let mark : Option Char :=
        match exact, Usage.last? options 'd' with
        | some _, _ => none
        | none, some (c :: _) => some c
        | none, some [] => some '\x00'
        | none, none => some '\n'
      let (line, isEnded) ← readText
        { isRaw := Usage.has options 'r', mark := mark, limit := exact.or most
          channel := channel }
      let separators ← Action.separators
      let status := if isEnded then 0 else 1
      match Usage.last? options 'a' with
      | some name =>
        Usage.requireName name name
        Action.assignElements name (.ofList (fieldsOf separators line))
        return status
      | none =>
        if names.isEmpty then
          Action.assign (ascii "REPLY") (unmarked line)
          return status
        else if exact.isSome then
          store (names.head?.getD []) (unmarked line)
          (names.drop 1).forM fun name => store name []
          return status
        else
          let line := line.dropWhile (Builtin.isBlankSeparator separators)
          let texts := Builtin.share separators names.length line
          (names.zip texts).forM fun (name, text) => store name (unmarked text)
          return status

/-! ## All lines -/

/-- The texts up to a mark each, with the marks unless they are left out, and what follows some of
them. -/
def cutAt (mark : Char) (dropsMark : Bool) : Nat → ByteText → List ByteText × ByteText
  | 0, rest => ([], rest)
  | _ + 1, [] => ([], [])
  | count + 1, text =>
    let line := text.takeWhile (· != mark)
    match text.drop line.length with
    | [] => ([line], [])
    | c :: rest =>
      let (lines, rest) := cutAt mark dropsMark count rest
      ((if dropsMark then line else line ++ [c]) :: lines, rest)

/-- Reads all lines into an array. -/
def mapfile (interpreter : Interpreter) (arguments : List ByteText) : Action Nat := do
  let (options, names) ← Usage.options "d:n:O:s:tu:C:c:" arguments
  let name := names.head?.getD (ascii "MAPFILE")
  let most ← optionNumber options 'n' "invalid line count"
  let start ← optionNumber options 'O' "invalid array origin"
  let skipped ← optionNumber options 's' "invalid line count"
  let step ← optionNumber options 'c' "invalid callback quantum"
  Usage.requireName name name
  match ← channelFor options with
  | none => Action.failWith 1 (ascii "0: invalid file descriptor: Bad file descriptor")
  | some channel =>
    let (pending, tail) ← Action.system (System.pending channel)
    let mark := ((Usage.last? options 'd').getD ['\n']).head?.getD '\x00'
    let count := match most with
      | none => pending.length + 1
      | some 0 => pending.length + 1
      | some count => count + skipped.getD 0
    let (lines, rest) := cutAt mark (Usage.has options 't') count pending
    Action.system (System.advance channel (pending.length - rest.length))
    if tail ≠ .ended && rest.isEmpty then
      Action.system (System.stall .asleep)
      Action.settle
    let lines := lines.drop (skipped.getD 0)
    let origin := start.getD 0
    let before ← if start.isSome then Expansion.elementsOf name else pure (.list [])
    let elements := if start.isSome then
        lines.zipIdx.foldl
          (fun elements (text, n) => elements.insert (.number (origin + n)) text) before
      else .ofList lines
    match Usage.last? options 'C' with
    | none => pure ()
    | some callback =>
      lines.zipIdx.forM fun (text, n) => do
        if (n + 1) % step.getD 5000 = 0 then
          interpreter.script (callback ++ [' '] ++ ByteText.ofNat (origin + n) ++ [' ']
            ++ Quoted.reusable text)
    Action.assignElements name elements
    return 0

/-- The commands that read and write text. -/
def builtins : List Builtin :=
  [{ name := "echo", run := fun _ => echo },
   { name := "printf", run := fun _ => printf },
   { name := "read", run := fun _ => read },
   { name := "mapfile", run := mapfile },
   { name := "readarray", run := mapfile }]

end Lines

end SchemaDocs.Shell
