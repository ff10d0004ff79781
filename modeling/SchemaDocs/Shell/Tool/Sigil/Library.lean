import SchemaDocs.Shell.Calendar
import SchemaDocs.Shell.Signal
import SchemaDocs.Shell.Tool.Filing.Basic
import SchemaDocs.Shell.Tool.Sigil.Operate
/-!
# Functions of signed names

The functions that take values and give values, without looking at expressions: those on texts and
numbers, on time, on files and on other programs.
-/

namespace SchemaDocs.Shell.Sigil

namespace Running

/-! ## References -/

/-- What a value leads to, as a word: its type if it was given one. -/
def referenceWord (value : Value) : Running (List Char) := do
  match value with
  | .reference number =>
    match (← look fun machine => machine.types[number]?) with
    | some type => return type.toList
    | none => return (kindOfObject (← objectAt number)).toList
  | _ => return []

/-- What a value leads to, whatever type it was given. -/
def plainKind (value : Value) : Running (Option String) := do
  match value with
  | .reference number => return some (kindOfObject (← objectAt number))
  | _ => return none

/-! ## Parts of texts -/

/-- Where a part of something begins and ends, if it begins within. -/
def partSpan (size : Nat) (offset : Int) (length : Option Int) : Option (Nat × Nat) :=
  let start : Int := if offset < 0 then (size : Int) + offset else offset
  let stop : Int := match length with
    | none => size
    | some length => if length < 0 then (size : Int) + length else start + length
  if (size : Int) < start || (start < 0 && stop < 0) then none
  else
    let first := (max start 0).toNat
    let last := (max (min stop size) first).toNat
    some (first, last)

/-- The place of a part in a text from a place on. -/
def placeFrom (part : List Char) : Nat → List Char → Option Nat
  | place, [] => if part.isEmpty then some place else none
  | place, c :: rest =>
    if part.isPrefixOf (c :: rest) then some place else placeFrom part (place + 1) rest

/-- The last place of a part in a text that is no greater than a bound. -/
def lastPlace (chars part : List Char) (bound : Nat) : Option Nat :=
  ((List.range (min bound (chars.length - part.length) + 1)).reverse.find? fun place =>
    part.isPrefixOf (chars.drop place) && place + part.length ≤ chars.length)

/-- The number that digits with a mark for their base stand for. -/
def octal (chars : List Char) : Value :=
  let body := (chars.dropWhile isSpaceChar).filter (· != '_')
  let inBase (base : Nat) (digits : List Char) : Value :=
    Reading.wholeValue (ByteText.valueIn base (digits.takeWhile (ByteText.isDigitIn base)))
  match body with
  | '0' :: 'x' :: digits => inBase 16 digits
  | '0' :: 'X' :: digits => inBase 16 digits
  | 'x' :: digits => inBase 16 digits
  | '0' :: 'b' :: digits => inBase 2 digits
  | '0' :: 'B' :: digits => inBase 2 digits
  | 'b' :: digits => inBase 2 digits
  | '0' :: 'o' :: digits => inBase 8 digits
  | digits => inBase 8 digits

/-- The number that digits of base sixteen stand for. -/
def hexadecimal (chars : List Char) : Value :=
  let body := chars.filter (· != '_')
  let digits := match body with
    | '0' :: 'x' :: digits => digits
    | '0' :: 'X' :: digits => digits
    | 'x' :: digits => digits
    | digits => digits
  Reading.wholeValue (ByteText.valueIn 16 (digits.takeWhile (ByteText.isDigitIn 16)))

/-- A number without what stands behind its point. -/
def wholePart (value : Value) : Value :=
  match numberOfValue value with
  | .float n => if n < 0 then .float (-((-n).floor)) else .float n.floor
  | n => n

/-- The size of a number. -/
def magnitude (value : Value) : Value :=
  match numberOfValue value with
  | .int n => whole n.natAbs
  | n => .float (floatOf n).abs

/-! ## Texts of bytes -/

/-- How many items a letter of a form is for: a number, as many as there are, or one. -/
def formCount (text : List Char) : Option (Option Nat) × List Char :=
  match text with
  | '*' :: rest => (some none, rest)
  | text =>
    match digitsOf text with
    | (some n, rest) => (some (some n), rest)
    | (none, rest) => (none, rest)

/-- The bytes of a number, the least ones first. -/
def bytesOf (count : Nat) (n : Nat) : List Char :=
  (List.range count).map fun place => Char.ofNat (n / Nat.pow 256 place % 256)

/-- The number of some bytes, the least ones first. -/
def numberOfBytes (bytes : List Char) : Nat :=
  bytes.foldr (fun c sum => c.toNat + 256 * sum) 0

/-- How many bytes a number takes under a letter, and whether the greatest ones come first and it has a
sign. -/
def formSize? (c : Char) : Option (Nat × Bool × Bool) :=
  match c with
  | 'C' => some (1, false, false)
  | 'c' => some (1, false, true)
  | 'n' => some (2, true, false)
  | 'N' => some (4, true, false)
  | 'v' => some (2, false, false)
  | 'V' => some (4, false, false)
  | 'S' => some (2, false, false)
  | 's' => some (2, false, true)
  | 'L' => some (4, false, false)
  | 'l' => some (4, false, true)
  | 'I' => some (4, false, false)
  | 'i' => some (4, false, true)
  | 'Q' => some (8, false, false)
  | 'q' => some (8, false, true)
  | 'J' => some (8, false, false)
  | 'j' => some (8, false, true)
  | _ => none

/-- Groups of some characters, where the last one may be shorter. -/
def groupsOf (size : Nat) : Nat → List Char → List (List Char)
  | 0, _ => []
  | fuel + 1, chars => if chars.isEmpty then [] else chars.take size :: groupsOf size fuel (chars.drop size)

/-- The bytes of digits. -/
def packedDigits (base group : Nat) (isLow : Bool) (digits : List Char) : List Char :=
  (groupsOf group (digits.length + 1) digits).map fun part =>
    let part := part ++ List.replicate (group - part.length) '0'
    Char.ofNat (ByteText.valueIn base (if isLow then part.reverse else part))

/-- The digits of bytes. -/
def unpackedDigits (base group : Nat) (isLow : Bool) (bytes : List Char) : List Char :=
  bytes.flatMap fun c =>
    let digits := ByteText.digitsIn base c.toNat
    let digits := List.replicate (group - digits.length) '0' ++ digits
    if isLow then digits.reverse else digits

/-- The number of bytes that a letter for numbers of any size makes of one. -/
def longNumber (n : Nat) : List Char :=
  let rec groups : Nat → Nat → List Nat
    | 0, _ => []
    | fuel + 1, n => if n < 128 then [n] else n % 128 :: groups fuel (n / 128)
  match groups 12 n with
  | [] => []
  | last :: others => ((others.reverse.map fun g => Char.ofNat (g + 128)) ++ [Char.ofNat last])

/-- Values as bytes under a form.  Each step takes a letter. -/
def packFrom : Nat → List Char → List Value → List (List Char) → Bool → Running (List Char × Bool)
  | 0, _, _, pieces, isWide => return (pieces.reverse.flatten, isWide)
  | fuel + 1, form, values, pieces, isWide => do
    match form with
    | [] => return (pieces.reverse.flatten, isWide)
    | c :: rest =>
      if isSpaceChar c then packFrom fuel rest values pieces isWide
      else
        let (isTurned, rest) := match rest with
          | '<' :: rest => (some false, rest)
          | '>' :: rest => (some true, rest)
          | '!' :: rest => (none, rest)
          | rest => (none, rest)
        let (count, rest) := formCount rest
        let next := (values.head?).getD .nothing
        if c = 'A' || c = 'a' || c = 'Z' then
          let chars ← textOf next
          let size := match count with
            | none => 1
            | some none => if c = 'Z' then chars.length + 1 else chars.length
            | some (some n) => n
          let filler := if c = 'A' then ' ' else '\x00'
          let kept := chars.take (if c = 'Z' && count.isSome then size - 1 else size)
          let piece := kept ++ List.replicate (size - kept.length) filler
          packFrom fuel rest (values.drop 1) (piece :: pieces) isWide
        else if c = 'H' || c = 'h' || c = 'B' || c = 'b' then
          let chars ← textOf next
          let chars := match count with
            | none => chars.take 1
            | some none => chars
            | some (some n) => chars.take n
          let piece := if c = 'H' || c = 'h' then packedDigits 16 2 (c = 'h') chars
            else packedDigits 2 8 (c = 'b') chars
          packFrom fuel rest (values.drop 1) (piece :: pieces) isWide
        else if c = 'x' then
          let size := match count with
            | some (some n) => n
            | _ => 1
          packFrom fuel rest values (List.replicate size '\x00' :: pieces) isWide
        else
          let size := match count with
            | none => 1
            | some none => values.length
            | some (some n) => n
          let taken := values.take size
          let taken := taken ++ List.replicate (size - taken.length) .nothing
          let piece := taken.flatMap fun value =>
            match formSize? c with
            | some (bytes, isBig, _) =>
              let n := (Int.emod (intOf value) (Nat.pow 256 bytes : Nat)).toNat
              if isTurned.getD isBig then (bytesOf bytes n).reverse else bytesOf bytes n
            | none =>
              if c = 'U' || c = 'W' then [Char.ofNat (natOf value)]
              else if c = 'w' then longNumber (natOf value)
              else if c = 'd' || c = 'F' then bytesOf 8 (floatOf value).toBits.toNat
              else []
          packFrom fuel rest (values.drop size) (piece :: pieces) (isWide || c = 'U')

/-- The values of numbers of any size at the start of bytes. -/
def longNumbers : Nat → Nat → List Char → List Value × List Char
  | 0, _, bytes => ([], bytes)
  | fuel + 1, count, bytes =>
    if count = 0 || bytes.isEmpty then ([], bytes)
    else
      let body := bytes.takeWhile fun c => 128 ≤ c.toNat
      let taken := bytes.take (body.length + 1)
      let n := taken.foldl (fun sum c => sum * 128 + c.toNat % 128) 0
      let (others, rest) := longNumbers fuel (count - 1) (bytes.drop taken.length)
      (natural n :: others, rest)

/-- Bytes as values under a form.  Each step takes a letter. -/
def unpackFrom : Nat → List Char → List Char → List Char → List (List Value) → List Value
  | 0, _, _, _, taken => taken.reverse.flatten
  | fuel + 1, whole, form, bytes, taken =>
    match form with
    | [] => taken.reverse.flatten
    | c :: rest =>
      if isSpaceChar c then unpackFrom fuel whole rest bytes taken
      else
        let (isTurned, rest) := match rest with
          | '<' :: rest => (some false, rest)
          | '>' :: rest => (some true, rest)
          | '!' :: rest => (none, rest)
          | rest => (none, rest)
        let (count, rest) := formCount rest
        if c = 'A' || c = 'a' || c = 'Z' then
          let size := match count with
            | none => 1
            | some none => bytes.length
            | some (some n) => n
          let piece := bytes.take size
          let shown :=
            if c = 'A' then (piece.reverse.dropWhile fun d => isSpaceChar d || d = '\x00').reverse
            else if c = 'Z' then piece.takeWhile (· != '\x00')
            else piece
          unpackFrom fuel whole rest (bytes.drop size) ([.text shown] :: taken)
        else if c = 'H' || c = 'h' || c = 'B' || c = 'b' then
          let group := if c = 'H' || c = 'h' then 2 else 8
          let digits := match count with
            | none => 1
            | some none => bytes.length * group
            | some (some n) => n
          let size := (digits + group - 1) / group
          let piece := bytes.take size
          let shown := unpackedDigits (if group = 2 then 16 else 2) group (c = 'h' || c = 'b') piece
          unpackFrom fuel whole rest (bytes.drop size) ([.text (shown.take digits)] :: taken)
        else if c = 'x' then
          let size := match count with
            | some (some n) => n
            | _ => 1
          unpackFrom fuel whole rest (bytes.drop size) taken
        else if c = '@' then
          let size := match count with
            | some (some n) => n
            | _ => 0
          unpackFrom fuel whole rest (whole.drop size) taken
        else if c = 'w' then
          let most := match count with
            | none => 1
            | some none => bytes.length
            | some (some n) => n
          let (values, after) := longNumbers (bytes.length + 1) most bytes
          unpackFrom fuel whole rest after (values :: taken)
        else
          match formSize? c with
          | some (size, isBig, isSigned) =>
            let most := match count with
              | none => 1
              | some none => bytes.length / size
              | some (some n) => min n (bytes.length / size)
            let values := (groupsOf size (most + 1) (bytes.take (most * size))).map fun part =>
              let n := numberOfBytes (if isTurned.getD isBig then part.reverse else part)
              let half := Nat.pow 256 size / 2
              if isSigned && half ≤ n then Value.int ((n : Int) - (Nat.pow 256 size : Nat))
              else natural n
            unpackFrom fuel whole rest (bytes.drop (most * size)) (values :: taken)
          | none =>
            if c = 'U' || c = 'W' then
              let chars := if c = 'U' && bytes.all (fun d => d.toNat < 256) then decodedText bytes else bytes
              let most := match count with
                | none => 1
                | some none => chars.length
                | some (some n) => n
              let part := chars.take most
              unpackFrom fuel whole rest (chars.drop most)
                ((part.map fun d => natural d.toNat) :: taken)
            else if c = 'd' || c = 'F' then
              let n := numberOfBytes (bytes.take 8)
              unpackFrom fuel whole rest (bytes.drop 8)
                ([.float (Float.ofBits (UInt64.ofNat n))] :: taken)
            else unpackFrom fuel whole rest bytes taken

/-! ## Time -/

/-- The seconds since the start of 1970. -/
def secondsNow : Running Int := do return (← program Filing.tree).now / 1000000000

/-- The parts of a moment, from seconds up to years, and its days. -/
def momentParts (seconds : Int) : List Value :=
  let date := Calendar.ofSeconds seconds
  [natural date.second, natural date.minute, natural date.hour, natural date.day,
   natural (date.month - 1), .int (date.year - 1900), natural date.weekDay, natural date.yearDay, .int 0]

/-- A moment in words. -/
def momentText (seconds : Int) : List Char := Calendar.write (ascii "%a %b %e %H:%M:%S %Y") seconds

/-- The seconds of a moment in parts, which may be out of their bounds. -/
def momentOf (parts : List Value) : Int :=
  let part (place : Nat) : Int := ((parts[place]?).map intOf).getD 0
  let months := part 4
  let year := 1900 + part 5 + Int.fdiv months 12
  let month := (Int.fmod months 12).toNat + 1
  (Calendar.dayNumber year month 1 + part 3 - 1) * 86400 + part 2 * 3600 + part 1 * 60 + part 0

/-! ## Files -/

/-- Notes how a step on files went, and tells whether it went well. -/
def noted (result : Except FileError Unit) : Running Bool := do
  match result with
  | .ok () => return true
  | .error cause =>
    noteFault cause
    return false

/-- Changes the tree of files at a path. -/
def changePath (path : List Char) (leavesLast : Bool)
    (step : FilePlace → FileTree → Except FileError (FileTree → FileTree)) : Running Bool := do
  let path := (bytesFor false path).1
  match ← program (Filing.newPlaceWith leavesLast path) with
  | .error cause => noted (.error cause)
  | .ok place =>
    match step place (← program Filing.tree) with
    | .error cause => noted (.error cause)
    | .ok change =>
      program (Filing.changeTree change)
      return true

/-- Takes a file away. -/
def removeFile (path : List Char) : Running Bool :=
  changePath path true fun place _ =>
    match place.kind with
    | .missing => .error .notFound
    | .directory => .error .isADirectory
    | _ => .ok fun tree => tree.remove place.steps

/-- Makes a directory. -/
def makeDirectory (path : List Char) (wanted : Nat) : Running Bool := do
  let mask := (← program (readThe Process)).mask
  changePath path false fun place _ =>
    match place.kind with
    | .missing =>
      if FileTree.canMake place.steps then
        .ok fun tree => tree.putDirectory (Rights.without wanted mask) place.steps
      else .error .notFound
    | _ => .error .exists

/-- Takes an empty directory away. -/
def removeDirectory (path : List Char) : Running Bool :=
  changePath path true fun place tree =>
    match place.kind with
    | .missing => .error .notFound
    | .directory =>
      if (tree.namesIn place.steps).isEmpty then .ok fun tree => tree.remove place.steps
      else .error .notEmpty
    | _ => .error .notADirectory

/-- Gives a file another path. -/
def moveFile (source target : List Char) : Running Bool := do
  match ← program (Filing.linkPlaceOf (bytesFor false source).1) with
  | .error cause => noted (.error cause)
  | .ok from_ =>
    changePath target true fun place _ =>
      if place.kind = .directory && from_.kind != .directory then .error .isADirectory
      else .ok fun tree => Filing.renamed (tree.remove place.steps) from_.steps place.steps

/-- The names in a directory. -/
def namesAt (path : List Char) : Running (Option (List (List Char))) := do
  match ← program (Filing.placeOf (bytesFor false path).1) with
  | .error cause =>
    noteFault cause
    return none
  | .ok place =>
    if place.kind = .directory then
      return some (((← program Filing.tree).namesIn place.steps).map fun name => ByteText.ofString name)
    else
      noteFault .notADirectory
      return none

/-- What is noted of a file. -/
def fileMarks (path : List Char) : Running (List Value) := do
  match ← program (Filing.placeOf (bytesFor false path).1) with
  | .error cause =>
    noteFault cause
    return []
  | .ok place =>
    let tree ← program Filing.tree
    let size := ((tree.file? place.steps).getD []).length
    let kindBits := if place.kind = .directory then 16384 else 32768
    let now := tree.now / 1000000000
    return [.int 2049, .int 131, natural (kindBits + (tree.marks place.steps).mode), .int 1, .int 0, .int 0,
      .int 0, natural size, .int now, .int now, .int now, .int 4096, natural ((size + 511) / 512)]

/-! ## Opening files -/

/-- Opens a path for reading, writing or both under some name. -/
def openPath (name mode : String) (path : List Char) (isWide : Bool) : Running Bool := do
  let bytes := (bytesFor false path).1
  let opened ← program (match mode with
    | "<" => Program.openInput bytes
    | ">" => Program.openOutput bytes false
    | ">>" => Program.openOutput bytes true
    | _ => Program.openBoth bytes)
  match opened with
  | .error cause => noted (.error cause)
  | .ok channel =>
    if mode = "<" && (← program (Program.isDirectory channel)) then
      putStream name { channel := some channel, isEnded := true, path := path }
    else
      if mode = "+>" then
        match ← system (System.channel? channel) with
        | some (.file steps _ _) => system (System.setContents steps [])
        | _ => pure ()
      putStream name { channel := some channel, isWide := isWide, writes := mode != "<", path := path }
    return true

/-- Closes a stream, and gives the status of its command if it has one. -/
def closeStream (launcher : Launcher) (name : String) : Running Bool := do
  match ← stream? name with
  | none =>
    change fun machine => { machine with fault := 9 }
    return false
  | some stream =>
    let close : Running Unit :=
      change fun machine =>
        { machine with streams := machine.streams.erase name
                       lastRead := if machine.lastRead = some name then none else machine.lastRead }
    match stream.command with
    | some words =>
      if stream.writes then
        putStream name { stream with command := none, written := [], writes := false }
        close
        let source ← system (System.add (.source stream.written.reverse.flatten .ended 0))
        match ← startProgram launcher words (some source) none with
        | .ok ending =>
          putGlobal "main::?" (natural (statusOf ending))
          return statusOf ending = 0
        | .error cause =>
          noteFault cause
          return false
      else
        close
        putGlobal "main::?" (natural stream.status)
        return stream.status = 0
    | none =>
      flush name
      close
      return true

/-- Reads the output of a command. -/
def openCommand (launcher : Launcher) (name : String) (words : List ByteText) (isWide : Bool) : Running Bool := do
  let sink ← system (System.add (.sink [] .ended))
  match ← startProgram launcher words none (some sink) with
  | .error cause => noted (.error cause)
  | .ok ending =>
    let (written, tail) ← system (System.collected sink)
    let source ← system (System.add (.source written tail 0))
    putStream name { channel := some source, isWide := isWide, command := some words, status := statusOf ending }
    return true

/-- A copy of an open file under another name. -/
def openCopy (name mode : String) (source : List Char) : Running Bool := do
  let source := source.filter fun c => !isSpaceChar c
  let other := match source with
    | ['0'] => "main::STDIN"
    | ['1'] => "main::STDOUT"
    | ['2'] => "main::STDERR"
    | source => if source.contains ':' then String.ofList source else "main::" ++ String.ofList source
  flush other
  match ← stream? other with
  | none =>
    change fun machine => { machine with fault := 9 }
    return false
  | some stream =>
    putStream name { stream with written := [], size := 0, lines := 0, writes := mode != "<"
                                 buffer := if mode = "<" then stream.buffer else [] }
    return true

/-- The mode at the start of a text, and the path behind it. -/
def modeAndPath (text : List Char) : String × List Char :=
  let text := (text.dropWhile isSpaceChar)
  let text := (text.reverse.dropWhile isSpaceChar).reverse
  let trimmed (text : List Char) : List Char := text.dropWhile isSpaceChar
  match text with
  | '+' :: '<' :: rest => ("+<", trimmed rest)
  | '+' :: '>' :: rest => ("+>", trimmed rest)
  | '>' :: '>' :: rest => (">>", trimmed rest)
  | '>' :: '&' :: rest => (">&", trimmed rest)
  | '<' :: '&' :: rest => ("<&", trimmed rest)
  | '>' :: rest => (">", trimmed rest)
  | '<' :: rest => ("<", trimmed rest)
  | '|' :: rest => ("|-", trimmed rest)
  | text =>
    match text.reverse with
    | '|' :: rest => ("-|", (rest.dropWhile isSpaceChar).reverse)
    | _ => ("<", text)

/-- Opens something under a name, as the words behind it say. -/
def openStream (launcher : Launcher) (name : String) (arguments : List Value) : Running Bool := do
  let _ ← if (← stream? name).isSome then closeStream launcher name else pure true
  let state ← machine
  match arguments with
  | [] => failText "Not enough arguments for open"
  | [only] =>
    let (mode, path) := modeAndPath (← textOf only)
    act state mode "" (.text path) []
  | form :: target :: others =>
    let text ← textOf form
    let text := text.dropWhile isSpaceChar
    let mode := text.takeWhile fun c => (ascii "+<>|-&=").contains c
    act state (String.ofList mode) (String.ofList (text.drop mode.length)) target others
where
  /-- Opens something in a mode. -/
  act (state : Machine) (mode layers : String) (target : Value) (others : List Value) : Running Bool := do
    let isPlain := !ByteText.occursIn (ascii ":") layers.toList
    let namesLetters := ByteText.occursIn (ascii "utf8") (layers.toList.map Char.toLower)
      || ByteText.occursIn (ascii "utf-8") (layers.toList.map Char.toLower)
    let isWide := namesLetters
      || (isPlain && (if mode = "<" || mode = "-|" then state.readsWide else state.writesWide))
    let text ← match target with
      | .reference number => do
        match ← objectAt number with
        | .handle name => pure name.toList
        | .cell (.handle name) => pure name.toList
        | _ => textOf target
      | .handle name => pure name.toList
      | target => textOf target
    match mode with
    | "|-" =>
      let words ← if others.isEmpty then pure (commandWords text)
        else do pure ((← (target :: others).mapM textOf))
      putStream name { writes := true, isWide := isWide, command := some words }
      return true
    | "-|" =>
      let words ← if others.isEmpty then pure (commandWords text)
        else do pure ((← (target :: others).mapM textOf))
      openCommand launcher name words isWide
    | ">&" => openCopy name mode text
    | ">>&" => openCopy name mode text
    | ">&=" => openCopy name mode text
    | "<&" => openCopy name "<" text
    | "<&=" => openCopy name "<" text
    | mode =>
      match target with
      | .reference number =>
        let before ← match ← objectAt number with
          | .cell value => textOf value
          | _ => pure []
        if mode = "<" then
          let bytes := (bytesFor (isNarrow before == false) before).1
          let source ← system (System.add (.source bytes .ended 0))
          putStream name { channel := some source, isWide := isWide }
          return true
        else
          if mode = ">" then putValue number (.text [])
          putStream name { writes := true, cell := some number, isWide := isWide }
          return true
      | .nothing =>
        let source ← system (System.add (.source [] .ended 0))
        putStream name { channel := some source, writes := true }
        return true
      | _ =>
        if text = ['-'] && others.isEmpty then
          openCopy name (if mode = "<" then "<" else ">&") (if mode = "<" then ['0'] else ['1'])
        else openPath name mode text isWide

/-! ## Other programs -/

/-- Ends the program by a command that takes its place. -/
def becomeProgram (launcher : Launcher) (words : List ByteText) : Running Value := do
  match ← startProgram launcher words none none with
  | .error cause =>
    noteFault cause
    return truth false
  | .ok (.exited code) => throw (.gone code)
  | .ok (.killed signal) => throw (.killed signal)

/-- Runs a command to its end, and gives its status. -/
def runCommand (launcher : Launcher) (words : List ByteText) : Running Value := do
  match ← startProgram launcher words none none with
  | .error cause =>
    noteFault cause
    putGlobal "main::?" (.int (-1))
    return .int (-1)
  | .ok ending =>
    putGlobal "main::?" (natural (statusOf ending))
    return natural (statusOf ending)

/-- The output of a command. -/
def outputOfCommand (launcher : Launcher) (command : List Char) : Running (List Char) := do
  let sink ← system (System.add (.sink [] .ended))
  match ← startProgram launcher (commandWords command) none (some sink) with
  | .error cause =>
    noteFault cause
    putGlobal "main::?" (.int (-1))
    return []
  | .ok ending =>
    putGlobal "main::?" (natural (statusOf ending))
    return (← system (System.collected sink)).1

/-- The lines of a text, each with its end. -/
def linesOf (text : List Char) : List (List Char) :=
  (ByteText.lines text).map ByteText.Line.written

/-- The words of arguments of a command. -/
def wordsOf (values : List Value) : Running (List ByteText) := do
  match values with
  | [only] => return commandWords (bytesFor false (← textOf only)).1
  | values => values.mapM fun value => do return (bytesFor false (← textOf value)).1

/-- The number of this process. -/
def processNumber : Nat := 4242

/-! ## Chance -/

/-- The next number by chance from zero up to one. -/
def chance : Running Float := do
  let next := ((← look (·.seed)) * 25214903917 + 11) % 281474976710656
  change fun machine => { machine with seed := next }
  return Float.ofNat next / 281474976710656.0

/-! ## Functions by name -/

/-- Calls a function that looks at values only. -/
def callPlain (caller : Caller) (name : String) (values : List Value) (wantsList : Bool) :
    Running (List Value) := do
  let first := (values.head?).getD .nothing
  let second := (values[1]?).getD .nothing
  let one (value : Value) : Running (List Value) := return [value]
  let float (step : Float → Float) : Running (List Value) := one (.float (step (floatOf first)))
  match name with
  | "lc" => one (← lowerCase first)
  | "uc" => one (← upperCase first)
  | "fc" => one (← lowerCase first)
  | "lcfirst" => one (← firstChanged Char.toLower Text.lowerOf first)
  | "ucfirst" => one (← firstChanged Char.toUpper Text.headOf first)
  | "length" => if isDefined first then one (natural (← textOf first).length) else one .nothing
  | "chr" =>
    let n := intOf first
    if n < 0 then one (.wide [Char.ofNat 65533])
    else if n < 256 then one (.text [Char.ofNat n.toNat]) else one (.wide [Char.ofNat n.toNat])
  | "ord" => one (natural (((← textOf first).head?.map Char.toNat).getD 0))
  | "int" => one (wholePart first)
  | "abs" => one (magnitude first)
  | "sqrt" =>
    let n := floatOf first
    if n < 0 then fail (ascii "Can't take sqrt of " ++ (← textOf (numberOfValue first)))
    else float Float.sqrt
  | "sin" => float Float.sin
  | "cos" => float Float.cos
  | "exp" => float Float.exp
  | "log" =>
    if floatOf first ≤ 0 then fail (ascii "Can't take log of " ++ (← textOf (numberOfValue first)))
    else float Float.log
  | "atan2" => one (.float (Float.atan2 (floatOf first) (floatOf second)))
  | "hex" => one (hexadecimal (← textOf first))
  | "oct" => one (octal (← textOf first))
  | "rand" =>
    let bound := if values.isEmpty then 1.0 else floatOf first
    one (.float ((← chance) * (if bound == 0 then 1.0 else bound)))
  | "srand" =>
    change fun machine => { machine with seed := natOf first + 1 }
    one first
  | "quotemeta" => one (textual (isWide first) (quoted (isWide first) (← textOf first)))
  | "ref" => one (.text (← referenceWord first))
  | "index" =>
    let chars ← textOf first
    let part ← textOf second
    let start := min (intOf ((values[2]?).getD (.int 0))).toNat chars.length
    match placeFrom part start (chars.drop start) with
    | some place => one (natural place)
    | none => one (.int (-1))
  | "rindex" =>
    let chars ← textOf first
    let part ← textOf second
    let bound : Int := (values[2]?.map intOf).getD chars.length
    if bound < 0 && !part.isEmpty then one (.int (-1))
    else if chars.length < part.length then one (.int (-1))
    else
      match lastPlace chars part bound.toNat with
      | some place => one (natural place)
      | none => one (.int (-1))
  | "substr" =>
    let chars ← textOf first
    match partSpan chars.length (intOf second) ((values[2]?).bind fun value =>
        if isDefined value then some (intOf value) else none) with
    | some (start, stop) => one (textual (isWide first) ((chars.drop start).take (stop - start)))
    | none => one .nothing
  | "join" =>
    let separator ← textOf first
    let parts ← (values.drop 1).mapM textOf
    one (textual (values.any isWide) ((parts.intersperse separator).flatten))
  | "sprintf" => one (← format values)
  | "pack" =>
    let form ← textOf first
    let (bytes, isWide) ← packFrom (form.length + 1) form (values.drop 1) [] false
    one (textual (isWide || !isNarrow bytes) bytes)
  | "unpack" =>
    let form ← textOf first
    let bytes ← textOf second
    let values := unpackFrom (form.length + 1) bytes form bytes []
    if wantsList then return values else one ((values.head?).getD .nothing)
  | "time" => one (.int (← secondsNow))
  | "times" => return [.float 0.01, .float 0, .float 0, .float 0]
  | "wait" => one (.int (-1))
  | "waitpid" => one (.int (-1))
  | "getppid" => one (.int 4200)
  | "fork" =>
    change fun machine => { machine with fault := 11 }
    one .nothing
  | "sleep" =>
    system (System.wait (natOf first * 1000))
    one (natural (natOf first))
  | "alarm" => one (.int 0)
  | "umask" => one (.int 18)
  | "localtime" => moment first
  | "gmtime" => moment first
  | "crypt" => one .nothing
  | "study" => one (truth true)
  | "lock" => one first
  | "flock" => one (truth true)
  | "vec" =>
    let chars ← textOf first
    let size := natOf ((values[2]?).getD (.int 8))
    let place := natOf second
    if size < 8 then
      let bit := place * size
      let byte := ((chars[bit / 8]?).map Char.toNat).getD 0
      one (natural (byte / Nat.pow 2 (bit % 8) % Nat.pow 2 size))
    else
      let count := size / 8
      one (natural (numberOfBytes ((chars.drop (place * count)).take count).reverse))
  | "unlink" =>
    let mut count := 0
    for value in values do
      if ← removeFile (← textOf value) then count := count + 1
    one (natural count)
  | "mkdir" => one (truth (← makeDirectory (← textOf first) (if values.length < 2 then 511 else natOf second)))
  | "rmdir" => one (truth (← removeDirectory (← textOf first)))
  | "rename" => one (truth (← moveFile (← textOf first) (← textOf second)))
  | "chmod" =>
    let mut count := 0
    for value in values.drop 1 do
      let mode := natOf first
      let isDone ← changePath (← textOf value) false fun place _ =>
        if place.kind = .missing then .error .notFound
        else .ok fun tree => tree.putMarks place.steps { tree.marks place.steps with mode := mode }
      if isDone then count := count + 1
    one (natural count)
  | "chown" => one (natural (values.length - 2))
  | "utime" => one (natural (values.length - 2))
  | "symlink" =>
    let target ← textOf first
    one (truth (← changePath (← textOf second) true fun place _ =>
      if place.kind != .missing then .error .exists
      else .ok fun tree => tree.putLink place.steps (ByteText.toString target)))
  | "link" =>
    match ← program (Program.readOperand (← textOf first)) with
    | .ok text =>
      one (truth (← changePath (← textOf second) true fun place _ =>
        if place.kind != .missing then .error .exists
        else .ok fun tree => tree.putFile place.steps text.toBytes))
    | .error cause => one (truth (← noted (.error cause)))
  | "readlink" =>
    match ← program (Filing.linkPlaceOf (← textOf first)) with
    | .ok place =>
      match (← program Filing.tree).link? place.steps with
      | some target => one (.text (ByteText.ofString target))
      | none =>
        noteFault .invalidArgument
        one .nothing
    | .error cause =>
      noteFault cause
      one .nothing
  | "chdir" =>
    let path ← textOf first
    match ← program (Filing.placeOf path) with
    | .ok place =>
      if place.kind = .directory then
        change fun machine => { machine with directory := some place.steps }
        one (truth true)
      else one (truth (← noted (.error .notADirectory)))
    | .error cause => one (truth (← noted (.error cause)))
  | "stat" => fileMarks (← textOf first)
  | "lstat" => fileMarks (← textOf first)
  | "system" => one (← runCommand caller.launcher (← wordsOf values))
  | "exec" => one (← becomeProgram caller.launcher (← wordsOf values))
  | "readpipe" =>
    let text ← outputOfCommand caller.launcher (bytesFor false (← textOf first)).1
    if wantsList then return (linesOf text).map Value.text else one (.text text)
  | "kill" =>
    let signal ← do
      let text ← textOf first
      let word := match text with
        | '-' :: word => word
        | word => word
      match Signal.ofName? (if (ascii "SIG").isPrefixOf word then word.drop 3 else word) with
      | some signal => pure signal
      | none => pure (intOf first).natAbs
    let mut count := 0
    for value in values.drop 1 do
      if natOf value = processNumber then
        count := count + 1
        if signal != 0 then
          let handlers ← global .table "main::SIG"
          let name := ((Signal.name? signal).getD "").toList
          match ← lookUp handlers name with
          | .text ['I', 'G', 'N', 'O', 'R', 'E'] => pure ()
          | .reference number =>
            let argument ← cell (.text name)
            let _ ← caller.call (.reference number) [argument] false
          | _ => if !Signal.isHarmless signal then throw (.killed signal)
      else change fun machine => { machine with fault := 3 }
    one (natural count)
  | _ => failText ("The " ++ name ++ " function is unimplemented")
where
  /-- A moment in parts or in words. -/
  moment (value : Value) : Running (List Value) := do
    let seconds ← if isDefined value then pure (intOf value) else secondsNow
    if wantsList then return momentParts seconds else return [.text (momentText seconds)]

end Running

end SchemaDocs.Shell.Sigil
