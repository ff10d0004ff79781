import SchemaDocs.Shell.Process
import SchemaDocs.Shell.Tool.Record.Token
import Std.Data.HashMap
/-!
# What a program over records works on

The record and its fields, variables and tables, and the files and commands that are read
and written.  What is written is kept until a file is closed or a command is started.
-/

namespace SchemaDocs.Shell.Record

/-- A table.  With every value stands the time when it was last looked up. -/
structure Table where
  entries : Std.HashMap ByteText (Nat × Datum) := ∅
  time : Nat := 0
deriving Inhabited

namespace Table

/-- The list of a table, out of sixty-four, that a key belongs to. -/
def listOf (key : ByteText) : Nat :=
  (key.foldl (fun (hash : UInt32) c => (hash ^^^ UInt32.ofNat c.toNat) * 16777619) 2166136261).toNat
    % 64

/-- The keys of a table in the order in which they are visited: list by list, and in a list those
first that were looked up last. -/
def keys (table : Table) : List ByteText :=
  let keyed := table.entries.toList.map fun (key, time, _) => (listOf key, table.time - time, key)
  let sorted := keyed.mergeSort fun a b => a.1 < b.1 || (a.1 = b.1 && Nat.ble a.2.1 b.2.1)
  sorted.map fun (_, _, key) => key

/-- Puts a value under a key. -/
def insert (table : Table) (key : ByteText) (datum : Datum) : Table :=
  { entries := table.entries.insert key (table.time, datum), time := table.time + 1 }

/-- A table of values under the numbers from one on. -/
def ofList (values : List Datum) : Table :=
  values.zipIdx.foldl (fun table (value, place) => table.insert (ByteText.ofNat (place + 1)) value) {}

end Table

/-- What a name stands for in a function. -/
inductive Binding where
  | datum (datum : Datum)
  | table (number : Nat)
deriving Inhabited

/-- An open source of records. -/
structure Source.Input where
  channel : Nat
  buffer : ByteText := []
  isEnded : Bool := false
deriving Inhabited

/-- An open file or command. -/
inductive Stream where
  | output (channel : Nat) (pieces : List ByteText)
  | toCommand (pieces : List ByteText)
  | input (input : Source.Input)
  | fromCommand (input : Source.Input) (ending : Nat)
deriving Inhabited

/-- What a program works on. -/
structure Machine where
  values : Std.HashMap ByteText Datum := ∅
  tables : Array Table := #[]
  tableNames : Std.HashMap ByteText Nat := ∅
  /-- The names of the function that is running. -/
  locals : List (ByteText × Binding) := []
  record : ByteText := []
  fields : Array Datum := #[]
  /-- Open files and commands, those that were used last first. -/
  streams : List (ByteText × Stream) := []
  /-- What was written to the output, the last piece first. -/
  written : List ByteText := []
  main : Option Source.Input := none
  /-- The argument that is looked at next. -/
  argument : Nat := 1
  /-- Whether an argument named a file. -/
  hadFile : Bool := false
  /-- Whether the range of each rule has begun. -/
  ranges : Array Bool := #[]
  patterns : Std.HashMap ByteText Pattern := ∅
  calls : Nat := 0
  status : Nat := 0
  seed : Nat := 0
  /-- How many more steps are run before they count as endless. -/
  patience : Nat := 4000000
deriving Inhabited

/-- Why statements are left. -/
inductive Leaving where
  | loop | round | record | file | program | function (value : Datum)
  /-- A fault, with what is said of it. -/
  | fault (text : ByteText)

/-- A step of a program. -/
abbrev Acting := ExceptT Leaving (StateT Machine Program)

namespace Acting

/-- A step of the program that runs the rules. -/
def program {α : Type} (step : Program α) : Acting α := liftM step

/-- A step that may change what processes share. -/
def system {α : Type} (step : System α) : Acting α := program (liftM step)

/-- What the program works on. -/
def machine : Acting Machine := getThe Machine

/-- A part of what the program works on.  The part is taken out at once, so that nothing else is held. -/
@[noinline] def look {α : Type} (part : Machine → α) : Acting α := do return part (← machine)

/-- Changes what the program works on. -/
def change (step : Machine → Machine) : Acting Unit := modifyThe Machine step

/-- The value of a name outside functions. -/
def globalOf (name : String) : Acting Datum := do
  return ((← look fun machine => machine.values[ascii name]?)).getD .unset

/-- Gives a name outside functions a value. -/
def setGlobal (name : String) (datum : Datum) : Acting Unit :=
  change fun machine => { machine with values := machine.values.insert (ascii name) datum }

/-- Numbers as a name that holds a directive says. -/
def writerOf (name : String) : Acting (Float → ByteText) := do
  match ← globalOf name with
  | .text chars =>
    if chars = ascii "%.6g" then return Number.write Number.usual
    else
      match chars with
      | '%' :: rest =>
        let flags := rest.takeWhile fun c => (ascii "-+ #0").contains c
        let rest := rest.drop flags.length
        let width := rest.takeWhile Char.isDigit
        let rest := rest.drop width.length
        let (precision, rest) : Option Nat × ByteText :=
          match rest with
          | '.' :: more =>
            let digits := more.takeWhile Char.isDigit
            (some (ByteText.valueIn 10 digits), more.drop digits.length)
          | rest => (none, rest)
        let directive : Directive :=
          { flags := flags, width := ByteText.valueIn 10 width, precision := precision
            conversion := rest.head?.getD 'g' }
        if rest.head? = some 'd' || rest.head? = some 'i' then
          return fun n => directive.writeSigned (Number.bounded Number.least Number.most n)
            ++ rest.drop 1
        else return fun n => Number.write directive n ++ rest.drop 1
      | _ => return Number.write Number.usual
  | _ => return Number.write Number.usual

/-- The text of a value. -/
def textOf (datum : Datum) : Acting ByteText := do
  match datum with
  | .number n =>
    match Number.wholeText? n with
    | some text => return text
    | none => return (← writerOf "CONVFMT") n
  | datum => return datum.toText (Number.write Number.usual)

/-- The text of a value as it is shown. -/
def shownText (datum : Datum) : Acting ByteText := do
  match datum with
  | .number n =>
    match Number.wholeText? n with
    | some text => return text
    | none => return (← writerOf "OFMT") n
  | datum => return datum.toText (Number.write Number.usual)

/-- Fails while the program runs. -/
def fail {α : Type} (text : ByteText) : Acting α := do
  let place (name : String) : Acting ByteText := do textOf (← globalOf name)
  throw (.fault (ascii "run time error: " ++ text ++ ascii "\n\tFILENAME=\""
    ++ (← place "FILENAME") ++ ascii "\" FNR=" ++ (← textOf (.number (← globalOf "FNR").toNumber))
    ++ ascii " NR=" ++ (← textOf (.number (← globalOf "NR").toNumber))))

/-- The pattern of a text. -/
def patternOf (text : ByteText) : Acting Pattern := do
  match (← look fun machine => machine.patterns[text]?) with
  | some pattern => return pattern
  | none =>
    match PatternText.read text with
    | .ok pattern =>
      change fun machine => { machine with patterns := machine.patterns.insert text pattern }
      return pattern
    | .error fault =>
      fail (ascii ("regular expression compile failed (" ++ PatternText.fault fault ++ ")\n") ++ text)

/-! ## Fields -/

/-- The pieces of a text between matches of a pattern. -/
def piecesBetween (pattern : Pattern) (subject : Subject) : Nat → Nat → Nat → List ByteText
  | 0, start, _ => [subject.between start subject.chars.size]
  | fuel + 1, start, place =>
    match pattern.search subject place with
    | none => [subject.between start subject.chars.size]
    | some found =>
      if found.stop = found.start then
        if subject.chars.size ≤ found.start then [subject.between start subject.chars.size]
        else piecesBetween pattern subject fuel start (found.start + 1)
      else
        subject.between start found.start
          :: piecesBetween pattern subject fuel found.stop found.stop

/-- The pieces of a text under a separator. -/
def split (separator text : ByteText) : Acting (List ByteText) := do
  if text.isEmpty then return []
  else
    match separator with
    | [] => return text.map fun c => [c]
    | [' '] => return ByteText.words (text.map fun c => if isSpaceChar c then ' ' else c)
    | [c] => return ByteText.splitAt c text
    | separator =>
      let pattern ← patternOf separator
      let subject : Subject := { chars := text.toArray }
      return piecesBetween pattern subject (text.length + 1) 0 0

/-- The pieces of a record.  Where blank lines end records, a line ends a field as well. -/
def splitRecord (text : ByteText) : Acting (List ByteText) := do
  let separator ← textOf (← globalOf "FS")
  let ends ← textOf (← globalOf "RS")
  if ends.isEmpty && separator ≠ [' '] && !separator.isEmpty then
    let lines := ByteText.splitAt '\n' text
    let pieces ← lines.mapM fun line => do
      let pieces ← split separator line
      return if pieces.isEmpty then [[]] else pieces
    return if text.isEmpty then [] else pieces.flatten
  else split separator text

/-- Makes a text the record. -/
def setRecord (text : ByteText) : Acting Unit := do
  let fields := ((← splitRecord text).map Datum.ofInput).toArray
  change fun machine => { machine with record := text, fields := fields }
  setGlobal "NF" (Datum.ofNat fields.size)

/-- Puts the record together from its fields. -/
def joinFields (fields : Array Datum) : Acting Unit := do
  let texts ← fields.toList.mapM textOf
  let separator ← textOf (← globalOf "OFS")
  change fun machine =>
    { machine with fields := fields, record := (texts.intersperse separator).flatten }
  setGlobal "NF" (Datum.ofNat fields.size)

/-- Fields up to a number of them. -/
def resized (fields : Array Datum) (count : Nat) : Array Datum :=
  if count ≤ fields.size then fields.extract 0 count
  else fields ++ (List.replicate (count - fields.size) (Datum.text [])).toArray

/-- The greatest number of fields. -/
def mostFields : Nat := 1000000

/-- Gives a field a value. -/
def setField (place : Nat) (datum : Datum) : Acting Unit := do
  if place = 0 then setRecord (← textOf datum)
  else if mostFields < place then fail (ascii "too many fields")
  else
    let fields := (← look (·.fields))
    joinFields ((resized fields (max place fields.size)).setIfInBounds (place - 1) datum)

/-- The place of a field. -/
def placeOf (datum : Datum) : Acting Nat := do
  let n := datum.toNumber
  match Number.whole? n with
  | some (.ofNat place) => return place
  | _ => fail (ascii "negative field index $" ++ (← textOf datum))

/-- The value of a field. -/
def fieldOf (place : Nat) : Acting Datum := do
  let machine ← machine
  if place = 0 then return Datum.ofInput machine.record
  else return (machine.fields[place - 1]?).getD .unset

/-! ## Names -/

/-- The value of a name. -/
def valueOf (name : ByteText) : Acting Datum := do
  let machine ← machine
  match machine.locals.find? fun entry => entry.1 = name with
  | some (_, .datum datum) => return datum
  | some (_, .table _) => fail (ascii "reference to array " ++ name ++ ascii " in scalar context")
  | none => return (machine.values[name]?).getD .unset

/-- Gives a name a value. -/
def setValue (name : ByteText) (datum : Datum) : Acting Unit := do
  let machine ← machine
  if machine.locals.any fun entry => entry.1 = name then
    change fun machine =>
      { machine with locals := machine.locals.map fun entry =>
          if entry.1 = name then (name, .datum datum) else entry }
  else if name = ascii "NF" then
    match Number.whole? datum.toNumber with
    | some (.ofNat count) =>
      if mostFields < count then fail (ascii "too many fields")
      joinFields (resized machine.fields count)
    | _ => fail (ascii "negative value assigned to NF")
  else change fun machine => { machine with values := machine.values.insert name datum }

/-- Makes a new table. -/
def newTable : Acting Nat := do
  modifyGetThe Machine fun machine =>
    (machine.tables.size, { machine with tables := machine.tables.push {} })

/-- The number of the table of a name. -/
def tableOf (name : ByteText) : Acting Nat := do
  let machine ← machine
  match machine.locals.find? fun entry => entry.1 = name with
  | some (_, .table number) => return number
  | some _ =>
    let number ← newTable
    change fun machine =>
      { machine with locals := machine.locals.map fun entry =>
          if entry.1 = name then (name, .table number) else entry }
    return number
  | none =>
    match machine.tableNames[name]? with
    | some number => return number
    | none =>
      let number ← newTable
      change fun machine => { machine with tableNames := machine.tableNames.insert name number }
      return number

/-- A table. -/
def tableAt (number : Nat) : Acting Table := do return ((← look fun machine => machine.tables[number]?)).getD {}

/-- Changes a table. -/
def changeTable (number : Nat) (step : Table → Table) : Acting Unit :=
  change fun machine => { machine with tables := machine.tables.modify number step }

/-- The value under a key, which is made if it is missing. -/
def lookUp (number : Nat) (key : ByteText) : Acting Datum := do
  let table ← tableAt number
  let datum := ((table.entries[key]?).map Prod.snd).getD .unset
  changeTable number fun table => table.insert key datum
  return datum

/-! ## Output -/

/-- Writes what is kept for the output. -/
def flushOutput : Acting Unit := do
  let written := (← look (·.written))
  if !written.isEmpty then
    change fun machine => { machine with written := [] }
    program (Program.out written.reverse.flatten)

/-- Writes all that is kept for files. -/
def flushAll : Acting Unit := do
  flushOutput
  let streams := (← look (·.streams))
  let streams ← streams.mapM fun (name, stream) => do
    match stream with
    | .output channel pieces =>
      if !pieces.isEmpty then
        program do Program.noteFault (← System.write channel pieces.reverse.flatten)
      return (name, Stream.output channel [])
    | stream => return (name, stream)
  change fun machine => { machine with streams := streams }

/-- Runs a command in a shell with some input and output, and gives its status. -/
def runCommand (launcher : Launcher) (command : ByteText) (input output : Option Nat) :
    Acting Nat := do
  let ending ← program do
    let change (descriptors : Descriptors) (number : Nat) (channel : Option Nat) : Descriptors :=
      match channel with
      | none => descriptors
      | some channel => (number, channel) :: descriptors.filter fun entry => entry.1 != number
    let descriptors := (← read).descriptors
    let descriptors := change (change descriptors 0 input) 1 output
    withReader (fun process => { process with descriptors := descriptors })
      (Program.start launcher (ascii "sh") [ascii "-c", command])
  return match ending with
    | .ok (.exited code) => code
    | .ok (.killed signal) => 256 + signal
    | .error _ => 127

/-- Ends an open file or command, and gives its status. -/
def finish (launcher : Launcher) (name : ByteText) (stream : Stream) : Acting Nat := do
  match stream with
  | .output channel pieces =>
    program do Program.noteFault (← System.write channel pieces.reverse.flatten)
    return 0
  | .toCommand pieces =>
    flushOutput
    let source ← system (System.add (.source pieces.reverse.flatten .ended 0))
    runCommand launcher name (some source) none
  | .input _ => return 0
  | .fromCommand _ status => return status

/-- Ends all open files and commands. -/
def finishAll (launcher : Launcher) : Acting Unit := do
  let streams := (← look (·.streams))
  change fun machine => { machine with streams := [] }
  streams.forM fun (name, stream) => do
    match stream with
    | .toCommand pieces =>
      let source ← system (System.add (.source pieces.reverse.flatten .ended 0))
      let _ ← runCommand launcher name (some source) none
    | stream =>
      let _ ← finish launcher name stream
  flushOutput

/-- Writes a text to a file or command, which is opened if it is not open. -/
def writeTo (target : Target) (name text : ByteText) : Acting Unit := do
  let isOutput := name = ascii "/dev/stdout" || name = ['-']
  if target ≠ .command && isOutput then
    change fun machine => { machine with written := text :: machine.written }
  else if target ≠ .command && name = ascii "/dev/stderr" then program (Program.err text)
  else
    let streams := (← look (·.streams))
    match streams.find? fun entry => entry.1 = name with
    | some (_, .output channel pieces) =>
      let rest := streams.filter fun entry => entry.1 ≠ name
      change fun machine =>
        { machine with streams := (name, .output channel (text :: pieces)) :: rest }
    | some (_, .toCommand pieces) =>
      let rest := streams.filter fun entry => entry.1 ≠ name
      change fun machine =>
        { machine with streams := (name, .toCommand (text :: pieces)) :: rest }
    | _ =>
      match target with
      | .command =>
        flushAll
        change fun machine =>
          { machine with streams := (name, .toCommand [text]) :: machine.streams }
      | target =>
        match ← program (Program.openOutput name (target = .fileEnd)) with
        | .ok channel =>
          change fun machine =>
            { machine with streams := (name, .output channel [text]) :: machine.streams }
        | .error cause =>
          throw (.fault (ascii "cannot open \"" ++ name ++ ascii "\" for output ("
            ++ ascii cause.reason ++ ascii ")"))

/-! ## Input -/

/-- How many characters are read at once. -/
def blockSize : Nat := 4096

/-- Reads on. -/
def refill (input : Source.Input) : Acting Source.Input := do
  let block ← system (System.readBlock input.channel blockSize)
  if block.isEmpty then return { input with isEnded := true }
  else return { input with buffer := input.buffer ++ block }

/-- Reads on up to the end.  Each step reads a block. -/
def fill : Nat → Source.Input → Acting Source.Input
  | 0, input => return { input with isEnded := true }
  | fuel + 1, input => do
    if input.isEnded then return input else fill fuel (← refill input)

/-- How many blocks are read at most. -/
def mostBlocks : Nat := 1000000

/-- The first record of a source that a character ends, and what is left. -/
def recordEndedBy (c : Char) : Nat → Source.Input → Acting (Option ByteText × Source.Input)
  | 0, input => return (none, input)
  | fuel + 1, input => do
    let text := input.buffer.takeWhile (· != c)
    match input.buffer.drop text.length with
    | _ :: rest => return (some text, { input with buffer := rest })
    | [] =>
      if input.isEnded then
        return (if text.isEmpty then none else some text, { input with buffer := [] })
      else recordEndedBy c fuel (← refill input)

/-- The first record of a source, and what is left. -/
def nextRecordOf (input : Source.Input) : Acting (Option ByteText × Source.Input) := do
  match ← textOf (← globalOf "RS") with
  | [c] => recordEndedBy c mostBlocks input
  | [] =>
    let input ← fill mostBlocks input
    let text := input.buffer.dropWhile (· = '\n')
    let lines := ByteText.splitAt '\n' text
    let record := lines.takeWhile fun line => !line.isEmpty
    let taken := (record.intersperse ['\n']).flatten
    let rest := (text.drop taken.length).dropWhile (· = '\n')
    return (if taken.isEmpty then none else some taken, { input with buffer := rest })
  | separator =>
    let input ← fill mostBlocks input
    if input.buffer.isEmpty then return (none, input)
    else
      let pattern ← patternOf separator
      let subject : Subject := { chars := input.buffer.toArray }
      match pattern.search subject 0 with
      | some found =>
        if found.start < found.stop then
          return (some (subject.between 0 found.start),
            { input with buffer := input.buffer.drop found.stop })
        else return (some input.buffer, { input with buffer := [] })
      | none => return (some input.buffer, { input with buffer := [] })

/-- The value of an assignment among arguments, in which backslashes name characters. -/
def assigned (text : ByteText) : Datum := Datum.ofInput (Token.unescaped text)

end Acting

end SchemaDocs.Shell.Record

/-!
## Functions of programs over records

What the functions do that every program has: writing values under a format, cutting and
searching texts, and replacing matches.
-/

namespace SchemaDocs.Shell.Record

namespace Acting

/-! ### Formats -/

/-- What is left of a format and its values while they are written. -/
structure Formatting where
  values : List Datum
  /-- The text so far, the last piece first. -/
  written : List ByteText := []
  /-- The number of the directive that is looked at. -/
  directives : Nat := 0
  fault : Option ByteText := none

/-- Takes the next value. -/
def Formatting.next? (state : Formatting) : Option (Datum × Formatting) :=
  match state.values with
  | [] => none
  | value :: rest => some (value, { state with values := rest })

/-- A number without a sign of 64 bits. -/
def unsignedOf (n : Float) : Nat :=
  if n < 0 then
    (Number.bounded Number.least Number.most n % 18446744073709551616).toNat
  else (Number.bounded 0 Number.mostUnsigned n).toNat

/-- Writes a value under a directive. -/
def formatted (directive : Directive) (value : Datum) : Acting (Option ByteText) := do
  match directive.conversion with
  | 's' => return some (directive.writeText (← textOf value))
  | 'c' =>
    match value with
    | .number n => return some (directive.pad [Char.ofNat (unsignedOf n % 256)])
    | .mixed _ n => return some (directive.pad [Char.ofNat (unsignedOf n % 256)])
    | value =>
      match ← textOf value with
      | c :: _ => return some (directive.pad [c])
      | [] => return some (directive.pad ['\x00'])
  | 'd' =>
    return some (directive.writeSigned (Number.bounded Number.least Number.most value.toNumber))
  | 'i' =>
    return some (directive.writeSigned (Number.bounded Number.least Number.most value.toNumber))
  | c =>
    if (ascii "ouxX").contains c then
      return some (directive.writeUnsigned (unsignedOf value.toNumber))
    else if (ascii "eEfFgG").contains c then return some (Number.write directive value.toNumber)
    else return none

/-- The number at the start of a text, or the next value for an asterisk. -/
def sizeOf (text : ByteText) (state : Formatting) : Option (Option Int × ByteText × Formatting) :=
  match text with
  | '*' :: rest =>
    state.next?.map fun (value, state) =>
      (some (Number.bounded Number.least Number.most value.toNumber), rest, state)
  | text =>
    let digits := text.takeWhile Char.isDigit
    some (if digits.isEmpty then none else some (ByteText.valueIn 10 digits : Nat),
      text.drop digits.length, state)

/-- Writes values under what is left of a format.  Each step takes a character or a directive. -/
def formatFrom (name format : ByteText) : Nat → ByteText → Formatting → Acting Formatting
  | 0, _, state => return state
  | _ + 1, [], state => return state
  | fuel + 1, c :: rest, state => do
    let starved : Acting Formatting :=
      return { state with
        fault := some (ascii "not enough arguments passed to " ++ name ++ ascii "(\"" ++ format
          ++ ascii "\")") }
    match c, rest with
    | '%', '%' :: rest =>
      formatFrom name format fuel rest { state with written := ['%'] :: state.written }
    | '%', _ =>
      let flags := rest.takeWhile fun c => (ascii "-+ #0").contains c
      match sizeOf (rest.drop flags.length) state with
      | none => starved
      | some (width, rest, state) =>
        let precise : Option (Option Int × ByteText × Formatting) :=
          match rest with
          | '.' :: rest => (sizeOf rest state).map fun (size, after) => (some (size.getD 0), after)
          | rest => some (none, rest, state)
        match precise with
        | none => starved
        | some (precision, rest, state) =>
          let rest := rest.dropWhile fun c => (ascii "hlLqjzt").contains c
          match rest, state.next? with
          | c :: rest, some (value, state) =>
            let number := state.directives + 1
            let flags := if width.any (· < 0) then '-' :: flags else flags
            let directive : Directive :=
              { flags := flags, width := (width.getD 0).natAbs, conversion := c
                precision := precision.bind fun size => if size < 0 then none else some size.toNat }
            match ← formatted directive value with
            | some text =>
              formatFrom name format fuel rest
                { state with written := text :: state.written, directives := number }
            | none =>
              return { state with
                fault := some (ascii "improper conversion(number " ++ ByteText.ofNat number
                  ++ ascii ") in " ++ name ++ ascii "(\"" ++ format ++ ascii "\")") }
          | [], some _ =>
            return { state with
              fault := some (ascii "improper conversion(number "
                ++ ByteText.ofNat (state.directives + 1) ++ ascii ") in " ++ name ++ ascii "(\""
                ++ format ++ ascii "\")") }
          | _, none => starved
    | _, _ => formatFrom name format fuel rest { state with written := [c] :: state.written }

/-- Values written under a format, as far as that goes, and what went wrong. -/
def format (name : String) (values : List Datum) : Acting (ByteText × Option ByteText) := do
  match values with
  | [] => return ([], none)
  | form :: values =>
    let text ← textOf form
    let state ← formatFrom (ascii name) text (text.length + 1) text { values := values }
    return (state.written.reverse.flatten, state.fault)

/-! ### Texts -/

/-- A part of a text from a place on, with so many characters if a length is given. -/
def part (text : ByteText) (start : Float) (length : Option Float) : ByteText :=
  let first := (Number.whole? start).getD 0
  match length with
  | none => text.drop ((max first 1) - 1).toNat
  | some length =>
    let count := Number.bounded Number.least Number.most length
    let count := if first < 0 then count - first else count
    (text.drop ((max first 1) - 1).toNat).take count.toNat

/-- The place of a text in another one, counted on, or zero. -/
def placeIn (sought : ByteText) : Nat → ByteText → Nat
  | _, [] => 0
  | place, c :: rest =>
    if sought.isPrefixOf (c :: rest) then place else placeIn sought (place + 1) rest

/-- What a match is replaced by: an ampersand stands for the match, unless a backslash is before it.
Each step takes a character. -/
def replacement (found : ByteText) : Nat → ByteText → List ByteText
  | 0, _ => []
  | _ + 1, [] => []
  | fuel + 1, c :: rest =>
    match c, rest with
    | '\\', '&' :: rest => ['&'] :: replacement found fuel rest
    | '\\', '\\' :: rest => ['\\'] :: replacement found fuel rest
    | '&', _ => found :: replacement found fuel rest
    | _, _ => [c] :: replacement found fuel rest

/-- A text with the first match replaced, or all of them, from a place on, with the number of
replacements.  An empty match does not stand right behind another one. -/
def replaceFrom (pattern : Pattern) (subject : Subject) (isAll : Bool) (instead : ByteText) :
    Nat → Nat → Nat → Bool → List ByteText → Nat → List ByteText × Nat
  | 0, start, _, _, done, count =>
    ((subject.between start subject.chars.size :: done).reverse, count)
  | fuel + 1, start, place, isBehind, done, count =>
    let rest := subject.between start subject.chars.size
    match pattern.search subject place with
    | none => ((rest :: done).reverse, count)
    | some found =>
      let text := subject.between found.start found.stop
      if found.start = found.stop && isBehind && found.start = place then
        if subject.chars.size ≤ place then ((rest :: done).reverse, count)
        else replaceFrom pattern subject isAll instead fuel start (place + 1) false done count
      else
        let put := (replacement text (instead.length + 1) instead).flatten
        let done := put :: subject.between start found.start :: done
        if !isAll then
          ((subject.between found.stop subject.chars.size :: done).reverse, count + 1)
        else if found.start = found.stop then
          if subject.chars.size ≤ found.start then (done.reverse, count + 1)
          else
            replaceFrom pattern subject isAll instead fuel (found.start + 1) (found.start + 1) false
              (subject.between found.start (found.start + 1) :: done) (count + 1)
        else replaceFrom pattern subject isAll instead fuel found.stop found.stop true done (count + 1)

/-- A text with matches replaced, and the number of replacements. -/
def replace (pattern : Pattern) (isAll : Bool) (instead text : ByteText) : ByteText × Nat :=
  let subject : Subject := { chars := text.toArray }
  let (pieces, count) := replaceFrom pattern subject isAll instead (2 * text.length + 4) 0 0 false [] 0
  (pieces.flatten, count)

end Acting

end SchemaDocs.Shell.Record
