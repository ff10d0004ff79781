import SchemaDocs.Files.Tree
import SchemaDocs.Shell.ByteText
/-!
# What processes share

Open files, the tree of files, and the time.  Processes are run one after the other: what
writes into a pipe is run to its end before what reads from it, so that a pipe is a text.
A process that would never end stalls; what it has written by then is still there for
those that do not wait for more.
-/

namespace SchemaDocs.Shell

/-- What follows the text that a stream is known to hold. -/
inductive Tail where
  | ended
  /-- The piece over and over again, which is not empty. -/
  | endless (piece : ByteText)
  /-- Nothing, but the stream does not end. -/
  | silent
deriving DecidableEq

/-- How a file is opened. -/
structure OpenMode where
  reads : Bool := false
  writes : Bool := false
  appends : Bool := false
deriving DecidableEq

/-- A piece of text that was written: when, by which process in the background if by any, and what. -/
structure WrittenText where
  time : Nat
  writer : Nat
  text : ByteText

/-- An open file. -/
inductive Channel where
  /-- Where text can be read from, and how much of it was. -/
  | source (text : ByteText) (tail : Tail) (taken : Nat)
  /-- Where text is written to: the pieces, the last one first. -/
  | sink (pieces : List WrittenText) (tail : Tail)
  /-- A file, with the place that is read or written next. -/
  | file (steps : Steps) (offset : Nat) (mode : OpenMode)
  | device (device : Device)

/-- Why a process does not end. -/
inductive Stall where
  /-- It waits for something that never comes. -/
  | asleep
  /-- It goes on and on, until what it writes can be written no more. -/
  | busy
deriving DecidableEq

/-- What processes share. -/
structure World where
  tree : FileTree
  channels : Array Channel
  milliseconds : Nat
  /-- Why the process that is running would never end, if it would not. -/
  stall : Option Stall
  /-- How many more commands are run before they count as endless. -/
  budget : Nat
  /-- What went wrong when the running program wrote. -/
  writeFault : Option FileError
  /-- The number of the process in the background that is running, or zero. -/
  writer : Nat := 0

/-- A step that may change what processes share. -/
abbrev System := StateM World

namespace System

/-- The amount of a text without end that is looked at. -/
def longestPrefix : Nat := 262144

/-- The first characters of a piece that is repeated. -/
def repeated (piece : ByteText) (count : Nat) : ByteText :=
  ((List.replicate (count / piece.length + 1) piece).flatten).take count

/-- Adds an open file. -/
def add (channel : Channel) : System Nat :=
  modifyGet fun world =>
    (world.channels.size, { world with channels := world.channels.push channel })

/-- The open file with a number. -/
def channel? (number : Nat) : System (Option Channel) := do return (← get).channels[number]?

/-- Replaces an open file. -/
def put (number : Nat) (channel : Channel) : System Unit :=
  modify fun world => { world with channels := world.channels.setIfInBounds number channel }

/-- The running process would never end. -/
def stall (kind : Stall) : System Unit :=
  modify fun world => { world with stall := world.stall.or (some kind) }

/-- Lets time pass. -/
def wait (milliseconds : Nat) : System Unit :=
  modify fun world => { world with milliseconds := world.milliseconds + milliseconds }

/-- The contents of a file in the tree. -/
def contents (steps : Steps) : System ByteText := do
  return ByteText.ofBytes (((← get).tree.file? steps).getD [])

/-! ## Reading -/

/-- What a device gives when it is read. -/
def deviceTail : Device → Tail
  | .zero => .endless ['\x00']
  | .full => .endless ['\x00']
  | .noise => .endless ['\x00']
  | _ => .ended

/-- The text that is still to be read, and what follows it. -/
def pending (number : Nat) : System (ByteText × Tail) := do
  match ← channel? number with
  | some (.source text tail _) => return (text, tail)
  | some (.file steps offset mode) =>
    if mode.reads then return ((← contents steps).drop offset, .ended) else return ([], .ended)
  | some (.device device) => return ([], deviceTail device)
  | _ => return ([], .ended)

/-- Goes on after some characters. -/
def advance (number count : Nat) : System Unit := do
  match ← channel? number with
  | some (.source text tail taken) =>
    let length := min count text.length
    put number (.source (text.drop length) tail (taken + count))
  | some (.file steps offset mode) => put number (.file steps (offset + count) mode)
  | _ => return ()

/-- Reads all there is.  Of a text without end a part is read, and the reader stalls. -/
def readAll (number : Nat) : System ByteText := do
  let (text, tail) ← pending number
  advance number text.length
  match tail with
  | .ended => return text
  | .silent => stall .asleep; return text
  | .endless piece => stall .busy; return text ++ repeated piece longestPrefix

/-- Reads once, up to some characters.  Only at the end there are none. -/
def readBlock (number limit : Nat) : System ByteText := do
  let (text, tail) ← pending number
  match text, tail with
  | [], .ended => return []
  | [], .silent => stall .asleep; return []
  | [], .endless piece => return repeated piece limit
  | text, _ =>
    let block := text.take limit
    advance number block.length
    return block

/-- Reads up to some characters, until the end if there are fewer. -/
def readExactly (number limit : Nat) : System ByteText := do
  let (text, tail) ← pending number
  let block := text.take limit
  advance number block.length
  if block.length = limit then return block
  else
    match tail with
    | .ended => return block
    | .silent => stall .asleep; return block
    | .endless piece => return block ++ repeated piece (limit - block.length)

/-- Reads a line, with its line feed if it has one. -/
def readLine (number : Nat) : System ByteText := do
  let (text, tail) ← pending number
  let line := text.takeWhile (· != '\n')
  let rest := text.drop line.length
  match rest with
  | c :: _ => advance number (line.length + 1); return line ++ [c]
  | [] =>
    advance number line.length
    match tail with
    | .ended => return line
    | .silent => stall .asleep; return line
    | .endless piece => return line ++ piece.takeWhile (· != '\n') ++ ['\n']

/-- Gives back the last characters that were read, which only a file takes. -/
def giveBack (number count : Nat) : System Unit := do
  match ← channel? number with
  | some (.file steps offset mode) => put number (.file steps (offset - count) mode)
  | _ => return ()

/-- How much of a source was read. -/
def taken (number : Nat) : System Nat := do
  match ← channel? number with
  | some (.source _ _ taken) => return taken
  | _ => return 0

/-! ## Writing -/

/-- A text with another one written over it from a place on. -/
def overwrite (old : ByteText) (offset : Nat) (text : ByteText) : ByteText :=
  let before := old.take offset
  before ++ List.replicate (offset - before.length) '\x00' ++ text
    ++ old.drop (offset + text.length)

/-- Changes the tree of files, whose clock shows at least the time. -/
def changeTree (change : FileTree → FileTree) : System Unit :=
  modify fun world =>
    let clock := max world.tree.clock (world.milliseconds * 1000000)
    { world with tree := change { world.tree with clock := clock } }

/-- Puts a file into the tree. -/
def setContents (steps : Steps) (text : ByteText) : System Unit :=
  changeTree fun tree => tree.putFile steps text.toBytes

/-- Writes to an open file. -/
def write (number : Nat) (text : ByteText) : System (Option FileError) := do
  if text.isEmpty then return none
  match ← channel? number with
  | some (.sink pieces .ended) =>
    let world ← get
    put number (.sink (⟨world.milliseconds, world.writer, text⟩ :: pieces) .ended)
    return none
  | some (.sink _ _) => return none
  | some (.file steps offset mode) =>
    if mode.writes then
      let old ← contents steps
      let start := if mode.appends then old.length else offset
      setContents steps (overwrite old start text)
      put number (.file steps (start + text.length) mode)
      return none
    else return some .badDescriptor
  | some (.device .full) => return some .noSpace
  | some (.device _) => return none
  | _ => return some .badDescriptor

/-- Writes a piece for ever. -/
def writeForever (number : Nat) (piece : ByteText) : System (Option FileError) := do
  match ← channel? number with
  | some (.sink pieces .ended) =>
    put number (.sink pieces (.endless piece))
    stall .busy
    return none
  | some (.sink ..) => stall .busy; return none
  | some (.device .full) => return some .noSpace
  | some (.device _) => stall .busy; return none
  | some (.file _ _ mode) =>
    if mode.writes then stall .busy; return none else return some .badDescriptor
  | _ => return some .badDescriptor

/-- The text that was written into a sink, and what follows it.  Processes are run one after the other,
but what one of them writes later stands later. -/
def collected (number : Nat) : System (ByteText × Tail) := do
  match ← channel? number with
  | some (.sink pieces tail) =>
    let inOrder := pieces.reverse.mergeSort fun first second => decide (first.time ≤ second.time)
    return ((inOrder.map WrittenText.text).flatten, tail)
  | _ => return ([], .ended)

/-- Takes back what a process in the background writes from now on, since it is ended now. -/
def silence (writer : Nat) : System Unit :=
  modify fun world =>
    { world with channels := world.channels.map fun channel =>
        match channel with
        | .sink pieces tail =>
          .sink (pieces.filter fun piece => piece.writer ≠ writer || piece.time ≤ world.milliseconds) tail
        | channel => channel }

end System

end SchemaDocs.Shell
