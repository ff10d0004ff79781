import SchemaDocs.Shell.Process
import SchemaDocs.Shell.Regex.OrderedRead
import SchemaDocs.Shell.Tool.Record.Datum
import SchemaDocs.Shell.Tool.Sigil.Token
import Std.Data.HashMap
/-!
# Values of programs of signed names

Every variable, every element of a row and every entry of a table has a place of its own under a
number, so that a name may stand for a place that something else has too.
-/

namespace SchemaDocs.Shell.Sigil

/-- A table that keeps the order in which keys were put in, with the places of its values. -/
structure Table where
  slots : Array (Option (List Char × Nat)) := #[]
  places : Std.HashMap (List Char) Nat := ∅
  /-- How many entries were gone through. -/
  cursor : Nat := 0
deriving Inhabited

namespace Table

/-- The entries in order. -/
def entries (table : Table) : List (List Char × Nat) := table.slots.toList.filterMap id

/-- The place of the value under a key. -/
def find? (table : Table) (key : List Char) : Option Nat :=
  match table.places[key]? with
  | some place => ((table.slots[place]?).join).map Prod.snd
  | none => none

/-- Puts a value under a key. -/
def insert (table : Table) (key : List Char) (value : Nat) : Table :=
  match table.places[key]? with
  | some place => { table with slots := table.slots.setIfInBounds place (some (key, value)) }
  | none =>
    { table with slots := table.slots.push (some (key, value))
                 places := table.places.insert key table.slots.size }

/-- Takes a key away. -/
def erase (table : Table) (key : List Char) : Table :=
  match table.places[key]? with
  | some place =>
    { table with slots := table.slots.setIfInBounds place none, places := table.places.erase key }
  | none => table

end Table

/-- A function. -/
structure Function where
  name : String
  package : String
  body : List Statement
  /-- The variables around it, if it does not belong to the program as a whole. -/
  pad : Option (Array Nat)
deriving Inhabited

/-- What stands under a number. -/
inductive Object where
  | cell (value : Value)
  | row (cells : Array Nat)
  | table (table : Table)
  | function (function : Function)
  /-- A function of a library. -/
  | library (name : String)
  | pattern (text flags : List Char)
  /-- An open file without a name of its own. -/
  | handle (name : String)
deriving Inhabited

/-- An open file, a command or a text that is read or written. -/
structure Stream where
  channel : Option Nat := none
  descriptor : Option Nat := none
  isWide : Bool := false
  buffer : List Char := []
  isEnded : Bool := false
  lines : Nat := 0
  written : List (List Char) := []
  size : Nat := 0
  isUnbuffered : Bool := false
  writes : Bool := false
  /-- The words of a command that is started when all is written. -/
  command : Option (List ByteText) := none
  status : Nat := 0
  /-- The place of a text that is written to. -/
  cell : Option Nat := none
  names : List (List Char) := []
  path : List Char := []
deriving Inhabited

/-- A match of a pattern. -/
structure Matched where
  chars : Array Char
  isWide : Bool
  found : Ordered.Found
  names : List (List Char × Nat)
deriving Inhabited

/-- What a block puts back at its end. -/
inductive Undo where
  | global (key : String) (number : Option Nat)
  | entry (table : Nat) (key : List Char) (number : Option Nat)
  | element (row place : Nat) (number : Nat)
  | special (name : String) (value : Value)
deriving Inhabited

/-- A call that is under way. -/
structure Frame where
  package : String
  line : Nat
  function : String
  /-- Whether a list is wished for, if anything is. -/
  wish : Option Bool
  /-- The row of its arguments. -/
  row : Nat := 0
deriving Inhabited

/-- What a program works on. -/
structure Machine where
  objects : Array Object := #[.cell .nothing]
  types : Std.HashMap Nat String := ∅
  globals : Std.HashMap String Nat := ∅
  /-- The variables of the program, and those of the call that is under way. -/
  outerPad : Array Nat := #[]
  pad : Array Nat := #[]
  isOuter : Bool := true
  line : Nat := 1
  package : String := "main"
  file : List Char := []
  streams : Std.HashMap String Stream := ∅
  streamCount : Nat := 0
  selected : String := "main::STDOUT"
  lastRead : Option String := none
  /-- The files that are still to be read, if reading them began. -/
  argumentFiles : Option (List (List Char)) := none
  matched : Option Matched := none
  positions : Std.HashMap Nat (Nat × Bool) := ∅
  undo : List Undo := []
  frames : List Frame := []
  patterns : List ((List Char × List Char × Bool) × Ordered.Pattern) := []
  ranges : List (Nat × Nat) := []
  endings : List (List Statement) := []
  fault : Nat := 0
  seed : Nat := 1
  /-- How many texts were read as programs. -/
  readings : Nat := 0
  /-- The suffix of files that are changed in place. -/
  inPlace : Option (List Char) := none
  isStrict : Bool := false
  warns : Bool := false
  depth : Nat := 0
  patience : Nat := 4000000
  /-- Whether files are read and written as letters unless something else is said. -/
  readsWide : Bool := false
  writesWide : Bool := false
  /-- The directory that was gone to. -/
  directory : Option Steps := none
deriving Inhabited

/-- Why statements are left. -/
inductive Leaving where
  | next (label : String) | last (label : String) | redo (label : String)
  | returned (values : List Value)
  | died (value : Value)
  | ended (code : Nat)
  /-- The program ends without what is done at its end. -/
  | gone (code : Nat)
  | killed (signal : Nat)

/-- A step of a program. -/
abbrev Running := ExceptT Leaving (StateT Machine Program)

/-- How functions are called and programs started. -/
structure Caller where
  call : Value → List Nat → Bool → Running (List Value)
  launcher : Launcher

namespace Running

/-- A step of the process as a step of the program. -/
def program {α : Type} (step : Program α) : Running α := do
  match (← getThe Machine).directory with
  | none => liftM step
  | some steps =>
    let moved : Program α := withReader (fun process => { process with directory := steps }) step
    liftM moved

/-- A step of the system as a step of the program. -/
def system {α : Type} (step : System α) : Running α := program (liftM step)

/-- What the program works on. -/
def machine : Running Machine := getThe Machine

/-- A part of what the program works on.  The part is taken out at once, so that nothing else is held. -/
@[noinline] def look {α : Type} (part : Machine → α) : Running α := do return part (← machine)

/-- Changes what the program works on. -/
def change (step : Machine → Machine) : Running Unit := modifyThe Machine step

/-- Does a step, and gives why it was left if it was. -/
def attempt {α : Type} (step : Running α) : Running (Except Leaving α) :=
  ExceptT.mk (do return .ok (← ExceptT.run step))

/-- Counts a step. -/
def tick : Running Unit := do
  match (← look (·.patience)) with
  | 0 =>
    system (System.stall .busy)
    throw (.ended 0)
  | patience + 1 => change fun machine => { machine with patience := patience }

/-! ## Objects -/

/-- Puts an object under a new number. -/
def make (object : Object) : Running Nat := do
  modifyGetThe Machine fun machine =>
    (machine.objects.size, { machine with objects := machine.objects.push object })

/-- The object under a number. -/
def objectAt (number : Nat) : Running Object := do
  return ((← look fun machine => machine.objects[number]?)).getD (.cell .nothing)

/-- Replaces an object. -/
def putObject (number : Nat) (object : Object) : Running Unit :=
  change fun machine => { machine with objects := machine.objects.setIfInBounds number object }

/-- The value of a place. -/
def valueAt (number : Nat) : Running Value := do
  match ← objectAt number with
  | .cell value => return value
  | _ => return .reference number

/-- Gives a place a value. -/
def putValue (number : Nat) (value : Value) : Running Unit := do
  change fun machine =>
    { machine with
      objects := machine.objects.setIfInBounds number (.cell value)
      positions := if machine.positions.isEmpty then machine.positions else machine.positions.erase number }

/-- A new place with a value. -/
def cell (value : Value) : Running Nat := make (.cell value)

/-- A new row of values. -/
def row (values : List Value) : Running Nat := do
  let cells ← values.mapM cell
  make (.row cells.toArray)

/-- The places of a row. -/
def cellsAt (number : Nat) : Running (Array Nat) := do
  match ← objectAt number with
  | .row cells => return cells
  | _ => return #[]

/-- The values of places, where the place zero has none. -/
def valuesOf (cells : List Nat) : Running (List Value) :=
  cells.mapM fun number => if number = 0 then pure .nothing else valueAt number

/-- The values of a row. -/
def rowValues (number : Nat) : Running (List Value) := do valuesOf (← cellsAt number).toList

/-- Gives a row other values. -/
def putRow (number : Nat) (values : List Value) : Running Unit := do
  let cells ← values.mapM cell
  putObject number (.row cells.toArray)

/-- The table under a number. -/
def tableAt (number : Nat) : Running Table := do
  match ← objectAt number with
  | .table table => return table
  | _ => return {}

/-- Changes the table under a number. -/
def changeTable (number : Nat) (step : Table → Table) : Running Unit :=
  change fun machine =>
    { machine with objects := machine.objects.modify number fun object =>
        match object with
        | .table table => .table (step table)
        | object => object }

/-- Changes the row under a number. -/
def changeRow (number : Nat) (step : Array Nat → Array Nat) : Running Unit :=
  change fun machine =>
    { machine with objects := machine.objects.modify number fun object =>
        match object with
        | .row cells => .row (step cells)
        | object => object }

/-- The value under a key of a table. -/
def lookUp (number : Nat) (key : List Char) : Running Value := do
  match (← tableAt number).find? key with
  | some place => valueAt place
  | none => return .nothing

/-- Puts a value under a key of a table. -/
def putEntry (number : Nat) (key : List Char) (value : Value) : Running Unit := do
  match (← tableAt number).find? key with
  | some place => putValue place value
  | none =>
    let place ← cell value
    changeTable number fun table => table.insert key place

/-- A new object of some sign. -/
def fresh (sign : Sign) : Running Nat :=
  match sign with
  | .row => make (.row #[])
  | .table => make (.table {})
  | _ => make (.cell .nothing)

/-- The number under a global name, with its sign. -/
def global (sign : Sign) (name : String) : Running Nat := do
  let key := String.ofList (sign.char :: name.toList)
  match (← look fun machine => machine.globals[key]?) with
  | some number => return number
  | none =>
    let number ← fresh sign
    change fun machine => { machine with globals := machine.globals.insert key number }
    return number

/-- The number under a global name, if there is one. -/
def global? (sign : Sign) (name : String) : Running (Option Nat) := do
  return (← look fun machine => machine.globals[String.ofList (sign.char :: name.toList)]?)

/-- The value of a global variable. -/
def globalValue (name : String) : Running Value := do
  match ← global? .one name with
  | some number => valueAt number
  | none => return .nothing

/-- Gives a global variable a value. -/
def putGlobal (name : String) (value : Value) : Running Unit := do
  putValue (← global .one name) value

/-- The place of a declared variable. -/
def slot (sign : Sign) (number : Nat) : Running Nat := do
  let place ← look fun state =>
    ((if state.isOuter then state.outerPad else state.pad)[number]?).getD 0
  if place != 0 then return place
  else
    let place ← fresh sign
    -- A variable that was never declared on the way belongs to the program as a whole.
    change fun machine =>
      { machine with outerPad := machine.outerPad.setIfInBounds number place
                     pad := machine.pad.setIfInBounds number place }
    return place

/-- Gives a declared variable a place. -/
def putSlot (number place : Nat) : Running Unit :=
  change fun machine =>
    if machine.isOuter then { machine with outerPad := machine.outerPad.setIfInBounds number place }
    else { machine with pad := machine.pad.setIfInBounds number place }

/-- The number of a variable. -/
def numberOf (sign : Sign) (home : Home) : Running Nat :=
  match home with
  | .slot number => slot sign number
  | .package name => global sign name

/-- The type that a value was given. -/
def typeOf? (value : Value) : Running (Option String) := do
  match value with
  | .reference number => return (← look fun machine => machine.types[number]?)
  | _ => return none

/-! ## Numbers -/

/-- The least whole number. -/
def least : Int := -9223372036854775808

/-- The greatest whole number with a sign. -/
def most : Int := 9223372036854775807

/-- A whole number as a value, which is not kept whole outside of bounds. -/
def whole (n : Int) : Value :=
  if least ≤ n && n ≤ (Reading.mostNatural : Int) then .int n else .float (Float.ofInt n)

/-- Whole numbers below this bound are kept exactly by fractional ones. -/
def exactBound : Float := 9007199254740992

/-- A number as a whole one, if it is one that is kept exactly. -/
def settled (n : Float) : Value :=
  if n == n && n.abs < exactBound && n.floor == n then
    match Record.Number.whole? n with
    | some whole => .int whole
    | none => .float n
  else .float n

/-- The length of the number at the start of a text: its whole part, and all of it. -/
def numberLengths (text : List Char) : Nat × Nat :=
  let sign := match text with
    | '-' :: _ => 1
    | '+' :: _ => 1
    | _ => 0
  let body := text.drop sign
  let digits := (body.takeWhile Char.isDigit).length
  let after := body.drop digits
  let fraction := match after with
    | '.' :: more => 1 + (more.takeWhile Char.isDigit).length
    | _ => 0
  if digits = 0 && fraction ≤ 1 then (0, 0)
  else
    let after := after.drop fraction
    let exponent := match after with
      | e :: more =>
        if e = 'e' || e = 'E' then
          let sign := match more with
            | '-' :: _ => 1
            | '+' :: _ => 1
            | _ => 0
          let digits := ((more.drop sign).takeWhile Char.isDigit).length
          if digits = 0 then 0 else 1 + sign + digits
        else 0
      | [] => 0
    (sign + digits, sign + digits + fraction + exponent)

/-- The words for what is no finite number, at the start of a text after its sign. -/
def oddNumber? (text : List Char) : Option (Float × Nat) :=
  let (isNegative, body) := match text with
    | '-' :: body => (true, body)
    | '+' :: body => (false, body)
    | body => (false, body)
  let lower := body.map Char.toLower
  let sign := text.length - body.length
  let infinite : Float := 1.0 / 0.0
  if (ascii "infinity").isPrefixOf lower then some (if isNegative then -infinite else infinite, sign + 8)
  else if (ascii "inf").isPrefixOf lower then some (if isNegative then -infinite else infinite, sign + 3)
  else if (ascii "nan").isPrefixOf lower then some (0.0 / 0.0, sign + 3)
  else none

/-- The number at the start of a text. -/
def numberOfText (text : List Char) : Value :=
  let text := text.dropWhile isSpaceChar
  let (whole, all) := numberLengths text
  if all = 0 then
    match oddNumber? text with
    | some (n, _) => .float n
    | none => .int 0
  else if whole = all then
    let digits := (text.take whole).filter Char.isDigit
    let size : Int := ByteText.valueIn 10 digits
    let n := if text.head? = some '-' then -size else size
    if least ≤ n && n ≤ (Reading.mostNatural : Int) then .int n else .float (Record.Number.ofText (text.take all))
  else settled (Record.Number.ofText (text.take all))

/-- Whether a text is a number and nothing else. -/
def looksNumeric (text : List Char) : Bool :=
  let text := text.dropWhile isSpaceChar
  let (_, all) := numberLengths text
  let length := if all = 0 then ((oddNumber? text).map Prod.snd).getD 0 else all
  0 < length && (text.drop length).all isSpaceChar

/-- The text of a fractional number. -/
def floatText (n : Float) : List Char :=
  if n != n then ascii "NaN"
  else if n.abs == 1.0 / 0.0 then (if n < 0 then ascii "-Inf" else ascii "Inf")
  else if n == 0 then ['0']
  else Record.Number.write { conversion := 'g', precision := some 15 } n

/-- The address that stands for an object in texts. -/
def address (number : Nat) : Nat := 94288888000000 + number * 24

/-- What a reference leads to, in a word. -/
def kindOfObject : Object → String
  | .cell (.reference _) => "REF"
  | .cell _ => "SCALAR"
  | .row _ => "ARRAY"
  | .table _ => "HASH"
  | .function _ => "CODE"
  | .library _ => "CODE"
  | .pattern _ _ => "Regexp"
  | .handle _ => "GLOB"

/-- The text that stands for a pattern. -/
def patternText (text flags : List Char) : List Char :=
  ascii "(?^" ++ (flags.filter fun c => (ascii "msixxn").contains c) ++ [':'] ++ text
    ++ (if flags.contains 'x' && text.contains '\n' then ['\n'] else []) ++ [')']

/-- The text of a value. -/
def textOf (value : Value) : Running (List Char) := do
  match value with
  | .nothing => return []
  | .int n => return ByteText.ofInt n
  | .float n => return floatText n
  | .text chars => return chars
  | .wide chars => return chars
  | .handle name => return '*' :: name.toList
  | .reference number =>
    let object ← objectAt number
    let type := (← look fun machine => machine.types[number]?)
    match object, type.filter (· != "Regexp") with
    | .pattern text flags, none => return patternText text flags
    | object, _ =>
      let plain := (kindOfObject object).toList ++ ascii "(0x" ++ ByteText.digitsIn 16 (address number) ++ [')']
      match type with
      | some type => return type.toList ++ ['='] ++ plain
      | none => return plain

/-- Whether the characters of a value are letters and not bytes. -/
def isWide : Value → Bool
  | .wide _ => true
  | _ => false

/-- A text that is wide or not. -/
def textual (isWide : Bool) (chars : List Char) : Value := if isWide then .wide chars else .text chars

/-- The number of a value: a whole one if it is exact. -/
def numberOfValue : Value → Value
  | .nothing => .int 0
  | .int n => .int n
  | .float n => .float n
  | .text chars => numberOfText chars
  | .wide chars => numberOfText chars
  | .reference number => .int (address number)
  | .handle _ => .int 0

/-- A value as a fractional number. -/
def floatOf (value : Value) : Float :=
  match numberOfValue value with
  | .int n => Float.ofInt n
  | .float n => n
  | _ => 0

/-- A value as a whole number. -/
def intOf (value : Value) : Int :=
  match numberOfValue value with
  | .int n => n
  | .float n =>
    if n != n then 0 else Record.Number.bounded least (Reading.mostNatural : Int) n
  | _ => 0

/-- A value as a natural number. -/
def natOf (value : Value) : Nat := (intOf value).toNat

/-- Whether a value counts as true. -/
def isTrue : Value → Bool
  | .nothing => false
  | .int n => n != 0
  | .float n => n != 0
  | .text chars => !(chars.isEmpty || chars = ['0'])
  | .wide chars => !(chars.isEmpty || chars = ['0'])
  | .reference _ => true
  | .handle _ => true

/-- Whether there is a value. -/
def isDefined : Value → Bool
  | .nothing => false
  | _ => true

/-- The truth of something as a value. -/
def truth (holds : Bool) : Value := if holds then .int 1 else .text []

/-- A text as a value. -/
def plain (text : String) : Value := .text (ascii text)

/-- A natural number as a value. -/
def natural (n : Nat) : Value := .int n

/-! ## Faults -/

/-- The text of the fault with a number. -/
def faultText (number : Nat) : String :=
  let known := [(0, ""), (1, "Operation not permitted"), (2, "No such file or directory"),
    (3, "No such process"), (4, "Interrupted system call"), (5, "Input/output error"),
    (6, "No such device or address"), (9, "Bad file descriptor"), (10, "No child processes"),
    (11, "Resource temporarily unavailable"), (12, "Cannot allocate memory"), (13, "Permission denied"),
    (17, "File exists"), (20, "Not a directory"), (21, "Is a directory"), (22, "Invalid argument"),
    (25, "Inappropriate ioctl for device"), (28, "No space left on device"), (29, "Illegal seek"),
    (32, "Broken pipe"), (33, "Numerical argument out of domain"),
    (34, "Numerical result out of range"), (36, "File name too long"), (39, "Directory not empty")]
  ((known.find? fun entry => entry.1 = number).map Prod.snd).getD ("Unknown error " ++ toString number)

/-- Notes what went wrong with a file. -/
def noteFault (cause : FileError) : Running Unit :=
  change fun machine => { machine with fault := (cause.description.2).getD 5 }

/-- The name of an open file in messages. -/
def streamLabel (name : String) : List Char :=
  if name = "main::ARGV" then ascii "<>"
  else
    let short := (name.toList.reverse.takeWhile (· != ':')).reverse
    ['<'] ++ (short.takeWhile (· != '#')) ++ ['>']

/-- Where the program is, for messages. -/
def whereabouts : Running (List Char) := do
  let state ← machine
  let reading ← match state.lastRead with
    | none => pure []
    | some name =>
      let lines := ((state.streams[name]?).map Stream.lines).getD 0
      if lines = 0 then pure []
      else
        let separator ← globalValue "main::/"
        let isLine := match separator with
          | .text ['\n'] => true
          | _ => false
        pure (ascii ", " ++ streamLabel name ++ ascii (if isLine then " line " else " chunk ")
          ++ ByteText.ofNat lines)
  let place := if state.line = 0 then []
    else ascii " at " ++ state.file ++ ascii " line " ++ ByteText.ofNat state.line
  return place ++ reading ++ ascii ".\n"

/-- Ends with a message that tells where the program is. -/
def fail {α : Type} (message : List Char) : Running α := do
  throw (.died (.text (message ++ (← whereabouts))))

/-- Ends with a message. -/
def failText {α : Type} (message : String) : Running α := fail (ascii message)

/-! ## Output -/

/-- The stream with a name. -/
def stream? (name : String) : Running (Option Stream) := do return (← look fun machine => machine.streams[name]?)

/-- Replaces a stream. -/
def putStream (name : String) (stream : Stream) : Running Unit :=
  change fun machine => { machine with streams := machine.streams.insert name stream }

/-- Hands on what was written to a stream. -/
def flush (name : String) : Running Unit := do
  match ← stream? name with
  | none => return ()
  | some stream =>
    if stream.written.isEmpty || stream.command.isSome then return ()
    else
      let text := stream.written.reverse.flatten
      putStream name { stream with written := [], size := 0 }
      match stream.cell, stream.channel with
      | some cell, _ =>
        let before ← textOf (← valueAt cell)
        putValue cell (.text (before ++ text))
      | none, some channel =>
        match ← system (System.write channel text) with
        | none => return ()
        | some cause =>
          noteFault cause
          program (Program.noteFault (some cause))
          if cause = .brokenPipe then throw (.killed 13)
      | none, none => return ()

/-- Hands on what was written to all streams. -/
def flushAll : Running Unit := do
  for (name, _) in (← look (·.streams)).toList do
    flush name

/-- The bytes that a text is written as, and whether they are too many for single characters. -/
def bytesFor (isWide : Bool) (chars : List Char) : List Char × Bool :=
  if isWide then (if chars.all fun c => c.toNat < 128 then chars else encodedText chars, false)
  else if isNarrow chars then (chars, false)
  else (encodedText chars, true)

/-- Writes a message. -/
def writeError (text : List Char) : Running Unit := program (Program.err (bytesFor false text).1)

/-- Warns. -/
def warn (message : List Char) : Running Unit := do writeError (message ++ (← whereabouts))

/-- Writes to a stream, and tells whether this could be done. -/
def write (name : String) (chars : List Char) : Running Bool := do
  match ← stream? name with
  | none => return false
  | some stream =>
    if !stream.writes then
      change fun machine => { machine with fault := 9 }
      return false
    else
      let (bytes, isTooWide) := bytesFor stream.isWide chars
      if isTooWide then
        warn (ascii ("Wide character in print"))
      putStream name { stream with written := bytes :: stream.written, size := stream.size + bytes.length }
      if stream.isUnbuffered || stream.cell.isSome || 8192 ≤ stream.size + bytes.length then flush name
      return true

/-! ## Input -/

/-- How many characters are read at once. -/
def blockSize : Nat := 8192

/-- Reads on. -/
def refill (stream : Stream) : Running Stream := do
  match stream.channel with
  | none => return { stream with isEnded := true }
  | some channel =>
    let block ← system (System.readBlock channel blockSize)
    if block.isEmpty then return { stream with isEnded := true }
    else return { stream with buffer := stream.buffer ++ block }

/-- How many blocks are read at most. -/
def mostBlocks : Nat := 1000000

/-- Reads on up to the end.  Each step reads a block. -/
def fillFrom : Nat → List (List Char) → Stream → Running Stream
  | 0, blocks, stream => return { stream with isEnded := true, buffer := blocks.reverse.flatten }
  | fuel + 1, blocks, stream => do
    if stream.isEnded then return { stream with buffer := blocks.reverse.flatten }
    else
      let next ← refill { stream with buffer := [] }
      fillFrom fuel (next.buffer :: blocks) next

/-- Reads on up to the end. -/
def fill (stream : Stream) : Running Stream := fillFrom mostBlocks [stream.buffer] stream

/-- The text up to and with a separator, and what follows it. -/
def untilSeparator (separator : List Char) : Nat → List Char → List Char → Option (List Char × List Char)
  | 0, _, _ => none
  | fuel + 1, taken, text =>
    if separator.isPrefixOf text then some (taken.reverse ++ separator, text.drop separator.length)
    else
      match text with
      | [] => none
      | c :: text => untilSeparator separator fuel (c :: taken) text

/-- The first record up to a separator, and the stream behind it. -/
def recordUpTo (separator : List Char) : Nat → Stream → Running (Option (List Char) × Stream)
  | 0, stream => return (none, stream)
  | fuel + 1, stream => do
    let found := match separator with
      | [c] =>
        let text := stream.buffer.takeWhile (· != c)
        match stream.buffer.drop text.length with
        | _ :: rest => some (text ++ [c], rest)
        | [] => none
      | separator => untilSeparator separator (stream.buffer.length + 1) [] stream.buffer
    match found with
    | some (text, rest) => return (some text, { stream with buffer := rest })
    | none =>
      if stream.isEnded then
        return (if stream.buffer.isEmpty then none else some stream.buffer, { stream with buffer := [] })
      else recordUpTo separator fuel (← refill stream)

/-- The next record of a stream, as the separator of records says. -/
def nextRecord (stream : Stream) : Running (Option (List Char) × Stream) := do
  match ← globalValue "main::/" with
  | .nothing =>
    let stream ← fill stream
    if stream.buffer.isEmpty then return (none, stream)
    else return (some stream.buffer, { stream with buffer := [] })
  | .reference number =>
    let size := natOf (← valueAt number)
    let stream ← fill stream
    if stream.buffer.isEmpty then return (none, stream)
    else return (some (stream.buffer.take size), { stream with buffer := stream.buffer.drop size })
  | separator =>
    match ← textOf separator with
    | [] =>
      let stream ← fill stream
      let text := stream.buffer.dropWhile (· = '\n')
      if text.isEmpty then return (none, { stream with buffer := [] })
      else
        match untilSeparator ['\n', '\n'] (text.length + 1) [] text with
        | some (record, rest) =>
          return (some record, { stream with buffer := rest.dropWhile (· = '\n') })
        | none => return (some text, { stream with buffer := [] })
    | separator => recordUpTo separator mostBlocks stream

/-- Reads a line of a stream. -/
def readLineOf (name : String) : Running (Option Value) := do
  match ← stream? name with
  | none =>
    change fun machine => { machine with fault := 9 }
    return none
  | some stream =>
    let (record, stream) ← nextRecord stream
    match record with
    | none =>
      putStream name stream
      return none
    | some text =>
      putStream name { stream with lines := stream.lines + 1 }
      change fun machine => { machine with lastRead := some name }
      return some (if stream.isWide then .wide (decodedText text) else .text text)

/-- Whether a stream is at its end. -/
def isAtEnd (name : String) : Running Bool := do
  match ← stream? name with
  | none => return true
  | some stream =>
    if !stream.buffer.isEmpty then return false
    else if stream.isEnded then return true
    else
      let stream ← refill stream
      putStream name { stream with isEnded := false }
      return stream.buffer.isEmpty

/-! ## Programs that are started -/

/-- The environment that programs are started in. -/
def environmentNow : Running Environment := do
  match ← global? .table "main::ENV" with
  | none => return []
  | some number =>
    (← tableAt number).entries.mapM fun (key, place) => do
      return (key, (bytesFor false (← textOf (← valueAt place))).1)

/-- Whether a command has to be read by a shell. -/
def needsShell (command : List Char) : Bool :=
  command.any fun c => (ascii "$&*()\x7b\x7d[]'\";\\|?<>~\x60\n").contains c

/-- The words that a command is started by. -/
def commandWords (command : List Char) : List ByteText :=
  if needsShell command then [ascii "/bin/sh", ascii "-c", command]
  else ByteText.words command

/-- Starts a program and waits for its end.  Its input and output may be channels. -/
def startProgram (launcher : Launcher) (words : List ByteText) (input output : Option Nat) :
    Running (Except FileError Ending) := do
  flushAll
  let process ← program (readThe Process)
  let put (number : Nat) (channel : Option Nat) (descriptors : Descriptors) : Descriptors :=
    match channel with
    | some channel => (number, channel) :: descriptors.filter fun entry => entry.1 != number
    | none => descriptors
  let current (name : String) (number : Nat) (descriptors : Descriptors) : Running Descriptors := do
    match ((← stream? name).bind Stream.channel) with
    | some channel => return put number (some channel) descriptors
    | none => return descriptors.filter fun entry => entry.1 != number
  let descriptors ← current "main::STDIN" 0 process.descriptors
  let descriptors ← current "main::STDOUT" 1 descriptors
  let descriptors ← current "main::STDERR" 2 descriptors
  let descriptors := put 1 output (put 0 input descriptors)
  let environment ← environmentNow
  match words with
  | [] => return .error .notFound
  | name :: arguments =>
    let change (process : Process) : Process :=
      { process with descriptors := descriptors, environment := environment }
    program (withReader change (Program.start launcher name arguments))

/-- The status of an ending for a program that waited for it. -/
def statusOf : Ending → Nat
  | .exited code => code * 256
  | .killed signal => signal

end Running

end SchemaDocs.Shell.Sigil
