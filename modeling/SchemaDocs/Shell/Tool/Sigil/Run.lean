import SchemaDocs.Shell.Glob
import SchemaDocs.Shell.Tool.Sigil.Toolkit
/-!
# Running programs of signed names

Expressions are turned into values and statements are done one after the other.  Each step that
goes a level down takes from a bound.
-/

namespace SchemaDocs.Shell.Sigil

namespace Running

/-! ## Open files -/

/-- The name of the open file that a value stands for. -/
def streamName (value : Value) : Running String := do
  match value with
  | .handle name => return name
  | .reference number =>
    match ← objectAt number with
    | .handle name => return name
    | .cell (.handle name) => return name
    | .table _ =>
      -- An object may hold its open file.
      match ← lookUp number (ascii "fh") with
      | .reference inner =>
        match ← objectAt inner with
        | .handle name => return name
        | _ => return ""
      | _ => return ""
    | _ => return ""
  | value =>
    let text ← textOf value
    if text.isEmpty then return "" else qualified text

/-- The open file that an expression stands for; one without a name gets one. -/
def newStreamName (w : Ways) (handle : Expr) : Running String := do
  match handle with
  | .constant (.handle name) => return name
  | handle =>
    if isPlace handle || (match handle with
        | .localize _ => true
        | _ => false) then
      let place ← w.place handle
      match ← valueAt place with
      | .nothing =>
        let count := (← look (·.streamCount)) + 1
        change fun machine => { machine with streamCount := count }
        let base := match handle with
          | .named .one (.package name) => name
          | _ => "$fh"
        let name := "main::" ++ String.ofList ((base.toList.reverse.takeWhile (· != ':')).reverse)
          ++ "#" ++ toString count
        putValue place (.reference (← make (.handle name)))
        return name
      | value => streamName value
    else streamName (← w.one handle)

/-- Opens the next of the files that arguments name, and tells whether there is one. -/
def nextArgumentFile : Nat → Running Bool
  | 0 => return false
  | fuel + 1 => do
    let row ← global .row "main::ARGV"
    let files ← match (← look (·.argumentFiles)) with
      | some _ => (← rowValues row).mapM textOf
      | none =>
        let files ← (← rowValues row).mapM textOf
        pure (if files.isEmpty then [['-']] else files)
    let isFirst := (← look (·.argumentFiles)).isNone
    change fun machine => { machine with argumentFiles := some files }
    match files with
    | [] => return false
    | path :: rest =>
      putRow row (rest.map Value.text)
      putGlobal "main::ARGV" (.text path)
      let lines := ((← stream? "main::ARGV").map Stream.lines).getD 0
      let lines := if isFirst then 0 else lines
      if path = ['-'] then
        match ← stream? "main::STDIN" with
        | some stream =>
          putStream "main::ARGV" { stream with lines := lines }
          return true
        | none => nextArgumentFile fuel
      else
        match ← program (Program.readOperand path) with
        | .ok _ =>
          let _ ← openPath "main::ARGV" "<" path (← look (·.readsWide))
          match ← stream? "main::ARGV" with
          | some stream => putStream "main::ARGV" { stream with lines := lines }
          | none => pure ()
          match (← look (·.inPlace)) with
          | some suffix => changeInPlace path suffix
          | none => pure ()
          return true
        | .error cause =>
          noteFault cause
          if cause = .isADirectory && (← look (·.inPlace)).isNone then
            putStream "main::ARGV" { isEnded := true, lines := lines }
            return true
          else
            let message := if (← look (·.inPlace)).isSome && cause = .isADirectory then
                ascii "Can't do inplace edit: " ++ path ++ ascii " is not a regular file"
              else ascii "Can't open " ++ path ++ ascii ": " ++ ascii cause.reason
            writeError (message ++ (← whereabouts))
            nextArgumentFile fuel
where
  /-- Lets what is written go into the file itself. -/
  changeInPlace (path suffix : List Char) : Running Unit := do
    match ← stream? "main::ARGV" with
    | none => return ()
    | some stream =>
      -- All of the file is read before it is written anew.
      let stream ← fill stream
      let text := stream.buffer
      putStream "main::ARGV" { stream with isEnded := true }
      if !suffix.isEmpty then
        let kept := if suffix.contains '*' then
            suffix.flatMap fun c => if c = '*' then path else [c]
          else path ++ suffix
        if ← openPath "main::BACKUP" ">" kept false then
          let _ ← write "main::BACKUP" text
          flush "main::BACKUP"
      flush "main::ARGVOUT"
      if ← openPath "main::ARGVOUT" ">" path (← look (·.writesWide)) then
        change fun machine => { machine with selected := "main::ARGVOUT" }

/-- Ends the change of files in place. -/
def endInPlace : Running Unit := do
  if (← look (·.inPlace)).isSome then
    flush "main::ARGVOUT"
    change fun machine => { machine with selected := "main::STDOUT" }

/-- Reads a line of the files that arguments name.  Each step opens a file. -/
def readArgumentLine : Nat → Running (Option Value)
  | 0 => return none
  | fuel + 1 => do
    let isOpen := (← look (·.argumentFiles)).isSome && (← stream? "main::ARGV").isSome
    if !isOpen then
      if ← nextArgumentFile 100000 then readArgumentLine fuel
      else
        endInPlace
        change fun machine => { machine with argumentFiles := none }
        return none
    else
      match ← readLineOf "main::ARGV" with
      | some line => return some line
      | none =>
        if ← nextArgumentFile 100000 then readArgumentLine fuel
        else
          endInPlace
          change fun machine => { machine with argumentFiles := none }
          return none

/-- Reads a line from an open file. -/
def lineOf (name : String) : Running (Option Value) := do
  if name = "main::ARGV" then readArgumentLine 100000 else readLineOf name

/-- All lines of an open file that are left.  Each step reads one. -/
def linesLeft (name : String) : Nat → List Value → Running (List Value)
  | 0, lines => return lines.reverse
  | fuel + 1, lines => do
    match ← lineOf name with
    | some line => linesLeft name fuel (line :: lines)
    | none => return lines.reverse

/-- How many lines are read at most. -/
def mostLines : Nat := 10000000

/-- Whether all files that arguments name are read to their end. -/
def isAtLastEnd : Running Bool := do
  if (← look (·.argumentFiles)).isNone then
    if !(← nextArgumentFile 100000) then return true
  if !(← isAtEnd "main::ARGV") then return false
  else
    let row ← global .row "main::ARGV"
    return (← rowSize row) = 0

/-! ## Values that depend on the run -/

/-- The value of a variable that shows something else. -/
def specialValue (name : String) : Running Value := do
  let state ← machine
  match name with
  | "$&" => return (state.matched.map fun matched => groupText matched 0).getD .nothing
  | "$\x60" =>
    return (state.matched.map fun matched =>
      textual matched.isWide (matched.chars.extract 0 matched.found.start).toList).getD .nothing
  | "$'" =>
    return (state.matched.map fun matched =>
      textual matched.isWide (matched.chars.extract matched.found.stop matched.chars.size).toList).getD .nothing
  | "$+" => return (state.matched.bind fun matched =>
      (groupValues matched).reverse.find? isDefined).getD .nothing
  | "$^N" => return (state.matched.map fun matched => groupText matched (matched.found.last.getD 0)).getD .nothing
  | "$!" => return .text (ascii (faultText state.fault))
  | "$." =>
    match state.lastRead with
    | some name =>
      match state.streams[name]? with
      | some stream => return natural stream.lines
      | none => return .nothing
    | none => return .nothing
  | "$|" =>
    return truth (((state.streams[state.selected]?).map Stream.isUnbuffered).getD false)
      |> fun value => if isTrue value then value else .int 0
  | "$$" => return natural processNumber
  | name =>
    let digits := name.toList.drop 1
    match state.matched with
    | some matched => return groupText matched (ByteText.valueIn 10 digits)
    | none => return .nothing

/-- The value of an expression that is used as a number. -/
def numeric (w : Ways) (value : Expr) : Running Value := do
  match value with
  | .special "$!" => return natural (← look (·.fault))
  | value => w.one value

/-- Operators that use their values as numbers. -/
def numericOperators : List String :=
  ["+", "-", "*", "/", "%", "**", "==", "!=", "<", ">", "<=", ">=", "<=>", "&", "|", "<<", ">>", "neg"]

/-! ## Functions -/

/-- Calls a function with places of arguments. -/
def callFunction (w : Ways) (value : Value) (arguments : List Nat) (wantsList : Bool) :
    Running (List Value) := do
  tick
  match value with
  | .reference number =>
    match ← objectAt number with
    | .library name =>
      match ← callLibrary w.caller name (← valuesOf arguments) wantsList with
      | some values => return values
      | none => failText ("Undefined subroutine &main::" ++ name ++ " called")
    | .function function =>
      let size := (← look (·.undo)).length
      let kept ← look fun before =>
        (before.matched, before.pad, before.isOuter, before.package, before.line, before.depth)
      let row ← make (.row arguments.toArray)
      change fun machine =>
        { machine with
          pad := function.pad.getD machine.outerPad
          isOuter := false
          package := function.package
          depth := machine.depth + 1
          frames := { package := machine.package, line := machine.line, function := function.name
                      wish := some wantsList, row := row } :: machine.frames }
      if 5000 < kept.2.2.2.2.2 then
        system (System.stall .busy)
        throw (.gone 0)
      let result ← attempt (withGlobal "@main::_" row (w.run (some wantsList) function.body))
      let (matched, pad, isOuter, package, line, depth) := kept
      change fun machine =>
        { machine with matched := matched, pad := pad, isOuter := isOuter, package := package, line := line
                       depth := depth, frames := machine.frames.drop 1 }
      let grown := (← look (·.undo)).length - size
      if grown != 0 then putBackTo grown size
      match result with
      | .ok values => return values
      | .error (.returned values) => return values
      | .error leaving => throw leaving
    | _ => failText "Not a CODE reference"
  | .nothing => failText "Can't use an undefined value as a subroutine reference"
  | value =>
    let text ← textOf value
    if (← look (·.isStrict)) then
      fail (ascii "Can't use string (\"" ++ text ++ ascii "\") as a subroutine ref while \"strict refs\" in use")
    else
      match ← global? .code (← qualified text) with
      | some number => w.caller.call (.reference number) arguments wantsList
      | none => fail (ascii "Undefined subroutine &" ++ (← qualified text).toList ++ ascii " called")

/-- Values in a scalar or a list context: of a list in the former the last one. -/
def give (wantsList : Bool) (values : List Value) : List Value :=
  if wantsList then values else [(values.getLast?).getD .nothing]

/-- The last part of a name behind its packages. -/
def shortName (name : String) : String :=
  String.ofList ((name.toList.reverse.takeWhile (· != ':')).reverse)

/-- The packages before the last part of a name. -/
def packageOf (name : String) : String :=
  let short := shortName name
  String.ofList (name.toList.take (name.length - short.length - 2))

/-- The function of a name, if there is one. -/
def functionNamed? (name : String) : Running (Option Nat) := do
  match ← global? .code name with
  | some number =>
    match ← objectAt number with
    | .cell _ => return none
    | _ => return some number
  | none => return none

/-- Changes whether a text is taken as letters or as bytes. -/
def callLetters (name : String) (places : List Nat) : Running (List Value) := do
  let place := (places.head?).getD 0
  let value ← valueAt place
  let chars ← textOf value
  match name with
  | "decode" =>
    let isPlain := chars.all fun c => c.toNat < 128
    let letters := decodedText chars
    let isRight := isNarrow chars && encodedText letters = chars
    if isRight && !isPlain then putValue place (.wide letters)
    return [truth isRight]
  | "encode" =>
    putValue place (.text (encodedText chars))
    return []
  | "upgrade" =>
    putValue place (.wide chars)
    return [natural chars.length]
  | "downgrade" =>
    if isNarrow chars then putValue place (.text chars)
    return [truth (isNarrow chars)]
  | "is_utf8" => return [truth (isWide value)]
  | "valid" => return [truth true]
  | name => failText ("Undefined subroutine &utf8::" ++ name ++ " called")

/-- Calls the function of a name. -/
def callNamed (w : Ways) (name : String) (arguments : Running (List Nat)) (wantsList : Bool) :
    Running (List Value) := do
  match ← functionNamed? name with
  | some number => w.caller.call (.reference number) (← arguments) wantsList
  | none =>
    let places ← arguments
    let values ← valuesOf places
    let short := shortName name
    if packageOf name = "utf8" then return ← callLetters short places
    let isOwn := packageOf name = "main" || packageOf name = (← look (·.package))
    let known ← if isOwn || (Reading.libraryNames (packageOf name)).isSome then
        callLibrary w.caller short values wantsList else pure none
    match known with
    | some values => return values
    | none =>
      match ← functionNamed? (packageOf name ++ "::AUTOLOAD") with
      | some number =>
        putGlobal (packageOf name ++ "::AUTOLOAD") (.text name.toList)
        w.caller.call (.reference number) places wantsList
      | none => fail (ascii "Undefined subroutine &" ++ name.toList ++ ascii " called")

/-- The function that a type or one that it builds on has under a name.  Each step looks a type up. -/
def methodOf : Nat → String → String → Running (Option Nat)
  | 0, _, _ => return none
  | fuel + 1, type, name => do
    match ← functionNamed? (type ++ "::" ++ name) with
    | some number => return some number
    | none =>
      match ← global? .row (type ++ "::ISA") with
      | none => return none
      | some row =>
        let parents ← rowValues row
        let mut found := none
        for parent in parents do
          if found.isNone then found := (← methodOf fuel (String.ofList (← textOf parent)) name)
        return found

/-- Writes values, with the separators that are set. -/
def writeValues (name : String) (values : List Value) (ending : List Char) : Running Bool := do
  let separator ← textOf (← globalValue "main::,")
  let last ← textOf (← globalValue "main::\\")
  let texts ← values.mapM textOf
  write name ((texts.intersperse separator).flatten ++ ending ++ last)

/-- Does what an open file can do. -/
def callStream (stream : String) (name : String) (values : List Value) (wantsList : Bool) (w : Ways) :
    Running (Option (List Value)) := do
  let one (value : Value) : Running (Option (List Value)) := return some [value]
  match name with
  | "print" => one (truth (← writeValues stream values []))
  | "say" => one (truth (← writeValues stream values ['\n']))
  | "printf" => one (truth (← write stream (← textOf (← format values))))
  | "autoflush" =>
    match ← stream? stream with
    | some found =>
      putStream stream { found with isUnbuffered := true }
      flush stream
    | none => pure ()
    one (truth true)
  | "flush" =>
    flush stream
    one (truth true)
  | "close" => one (truth (← closeStream w.caller.launcher stream))
  | "getline" => one ((← lineOf stream).getD .nothing)
  | "getlines" => return some (← linesLeft stream mostLines [])
  | "eof" => one (truth (← isAtEnd stream))
  | "opened" => one (truth (← stream? stream).isSome)
  | "binmode" =>
    match ← stream? stream with
    | some found =>
      let layer ← textOf ((values.head?).getD .nothing)
      putStream stream { found with isWide := ByteText.occursIn (ascii "utf") (layer.map Char.toLower) }
    | none => pure ()
    one (truth true)
  | "fileno" => one (match stream with
      | "main::STDIN" => .int 0
      | "main::STDOUT" => .int 1
      | "main::STDERR" => .int 2
      | _ => .int 3)
  | "input_line_number" => one (natural (((← stream? stream).map Stream.lines).getD 0))
  | _ => let _ := wantsList; return none

/-- Calls a method of a value or of a type. -/
def callMethod (w : Ways) (target : Value) (name : Value) (arguments : List Nat) (wantsList : Bool) :
    Running (List Value) := do
  match name with
  | .reference _ => w.caller.call name ((← cell target) :: arguments) wantsList
  | name =>
    let text := String.ofList (← textOf name)
    let self ← cell target
    let type? ← do
      match target with
      | .reference _ => typeOf? target
      | .nothing => failText ("Can't call method \"" ++ text ++ "\" on an undefined value")
      | .handle _ => pure none
      | target =>
        let type ← textOf target
        if type.isEmpty then
          failText ("Can't call method \"" ++ text ++ "\" without a package or object reference")
        else pure (some (String.ofList type))
    let stream? ← do
      match target, type? with
      | .handle name, _ => pure (some name)
      | .reference number, none =>
        match ← objectAt number with
        | .handle name => pure (some name)
        | _ => pure none
      | _, some "STDIN" => pure (some "main::STDIN")
      | _, some "STDERR" => pure (some "main::STDERR")
      | _, some "STDOUT" => pure (some "main::STDOUT")
      | _, _ => pure none
    match stream? with
    | some stream =>
      match ← callStream stream text (← valuesOf arguments) wantsList w with
      | some values => return values
      | none => failText ("Can't locate object method \"" ++ text ++ "\" via package \"IO::File\"")
    | none =>
      match type? with
      | none => failText ("Can't call method \"" ++ text ++ "\" on unblessed reference")
      | some type =>
        let (start, short) := if (ascii "SUPER::").isPrefixOf text.toList then
            (none, String.ofList (text.toList.drop 7))
          else if text.toList.contains ':' then (some (packageOf text), shortName text)
          else (some type, text)
        let found ← match start with
          | some start => methodOf deepestType start short
          | none =>
            let parents ← match ← global? .row ((← look (·.package)) ++ "::ISA") with
              | some row => rowValues row
              | none => pure []
            let mut found := none
            for parent in parents do
              if found.isNone then
                found := (← methodOf deepestType (String.ofList (← textOf parent)) short)
            pure found
        match found with
        | some number => w.caller.call (.reference number) (self :: arguments) wantsList
        | none =>
          let values ← valuesOf arguments
          match short with
          | "isa" =>
            return [truth (← buildsOn (String.ofList (← textOf ((values.head?).getD .nothing))) deepestType type)]
          | "can" =>
            match ← methodOf deepestType type (String.ofList (← textOf ((values.head?).getD .nothing))) with
            | some number => return [.reference number]
            | none => return [truth false]
          | "DOES" =>
            return [truth (← buildsOn (String.ofList (← textOf ((values.head?).getD .nothing))) deepestType type)]
          | "import" => return []
          | "unimport" => return []
          | "VERSION" => return [← globalValue (type ++ "::VERSION")]
          | short =>
            match ← callLibraryMethod w.caller type target short values wantsList with
            | some values => return values
            | none =>
              match ← methodOf deepestType type "AUTOLOAD" with
              | some number =>
                putGlobal (type ++ "::AUTOLOAD") (plain (type ++ "::" ++ short))
                w.caller.call (.reference number) (self :: arguments) wantsList
              | none =>
                let hint ← match target with
                  | .reference _ => pure ""
                  | _ => pure (" (perhaps you forgot to load \"" ++ type ++ "\"?)")
                failText ("Can't locate object method \"" ++ short ++ "\" via package \"" ++ type ++ "\"" ++ hint)

/-! ## Sorting and going through items -/

/-- Two sorted lists as one.  Each step takes a value. -/
def mergeBy (isBefore : Value → Value → Running Bool) : Nat → List Value → List Value → List Value →
    Running (List Value)
  | 0, _, _, taken => return taken.reverse
  | _ + 1, [], second, taken => return taken.reverse ++ second
  | _ + 1, first, [], taken => return taken.reverse ++ first
  | fuel + 1, a :: first, b :: second, taken => do
    if ← isBefore b a then mergeBy isBefore fuel (a :: first) second (b :: taken)
    else mergeBy isBefore fuel first (b :: second) (a :: taken)

/-- A list in the order that a comparison gives.  Each step halves it. -/
def sortBy (isBefore : Value → Value → Running Bool) : Nat → List Value → Running (List Value)
  | 0, values => return values
  | fuel + 1, values => do
    if values.length ≤ 1 then return values
    else
      let half := values.length / 2
      let first ← sortBy isBefore fuel (values.take half)
      let second ← sortBy isBefore fuel (values.drop half)
      mergeBy isBefore (values.length + 1) first second []

/-- Sorts values, by their texts or by what a block says of two of them. -/
def sorted (w : Ways) (body : List Statement) (values : List Value) : Running (List Value) := do
  if body.isEmpty then
    let pairs ← values.mapM fun value => do return (← textOf value, value)
    return (pairs.mergeSort fun a b => ByteText.isBefore a.1 b.1).map Prod.snd
  else
    let package := (← look (·.package))
    let a ← cell .nothing
    let b ← cell .nothing
    let isBefore (first second : Value) : Running Bool := do
      putValue a first
      putValue b second
      let order := ((← w.run (some false) body).getLast?).getD .nothing
      return intOf order < 0
    withGlobal ("$" ++ package ++ "::a") a
      (withGlobal ("$" ++ package ++ "::b") b (sortBy isBefore 64 values))

/-- Does something with a place as the topic. -/
def withTopic {α : Type} (place : Nat) (step : Running α) : Running α := withGlobal "$main::_" place step

/-- The values that a block gives for each of some places. -/
def mapPlaces (w : Ways) (body : List Statement) (places : List Nat) : Running (List Value) := do
  let values ← places.mapM fun place => do
    tick
    withTopic place (w.run (some true) body)
  return values.flatten

/-- The places for which a block holds. -/
def filterPlaces (w : Ways) (body : List Statement) (places : List Nat) : Running (List Nat) :=
  places.filterM fun place => do
    tick
    return isTrue (((← withTopic place (w.run (some false) body)).getLast?).getD .nothing)

/-- The first place for which a block holds or does not hold. -/
def findPlace (w : Ways) (body : List Statement) (wanted : Bool) : List Nat → Running (Option Nat)
  | [] => return none
  | place :: rest => do
    let holds := isTrue (((← withTopic place (w.run (some false) body)).getLast?).getD .nothing)
    if holds = wanted then return some place else findPlace w body wanted rest

/-- What is left of values when two of them are made one again and again. -/
def reduced (w : Ways) (body : List Statement) (values : List Value) (keeps : Bool) : Running (List Value) := do
  match values with
  | [] => return []
  | first :: rest =>
    let package := (← look (·.package))
    let a ← cell first
    let b ← cell .nothing
    let step (results : List Value) (value : Value) : Running (List Value) := do
      putValue b value
      let result := ((← w.run (some false) body).getLast?).getD .nothing
      putValue a result
      return result :: results
    let results ← withGlobal ("$" ++ package ++ "::a") a
      (withGlobal ("$" ++ package ++ "::b") b (rest.foldlM step [first]))
    return if keeps then results.reverse else results.take 1

/-- Values that a block gives for pairs of values.  Each step takes a pair. -/
def mapPairs (w : Ways) (body : List Statement) (filters : Bool) : Nat → List Value → Running (List Value)
  | 0, _ => return []
  | _ + 1, [] => return []
  | fuel + 1, first :: rest => do
    let package := (← look (·.package))
    let second := (rest.head?).getD .nothing
    let a ← cell first
    let b ← cell second
    let values ← withGlobal ("$" ++ package ++ "::a") a
      (withGlobal ("$" ++ package ++ "::b") b (w.run (some (!filters)) body))
    let values := if filters then
        (if isTrue ((values.getLast?).getD .nothing) then [first, second] else []) else values
    return values ++ (← mapPairs w body filters fuel (rest.drop 1))

/-- What a function makes that does something for each of some items. -/
def mapped (w : Ways) (wantsList : Bool) (name : String) (body : List Statement) (items : List Expr) :
    Running (List Value) := do
  let count (values : List Value) : List Value := if wantsList then values else [natural values.length]
  let one (value : Value) : Running (List Value) := return [value]
  match name with
  | "sort" =>
    let values ← (← items.mapM (w.eval true)).flatten |> sorted w body
    return count values
  | "reduce" => one (((← reduced w body (← items.mapM (w.eval true)).flatten false).head?).getD .nothing)
  | "reductions" => return count (← reduced w body (← items.mapM (w.eval true)).flatten true)
  | "pairmap" =>
    let values := (← items.mapM (w.eval true)).flatten
    return count (← mapPairs w body false (values.length + 1) values)
  | "pairgrep" =>
    let values := (← items.mapM (w.eval true)).flatten
    return count (← mapPairs w body true (values.length + 1) values)
  | name =>
    let places := (← items.mapM w.places).flatten
    match name with
    | "map" => return count (← mapPlaces w body places)
    | "grep" => return count (← valuesOf (← filterPlaces w body places))
    | "first" =>
      match ← findPlace w body true places with
      | some place => one (← valueAt place)
      | none => one .nothing
    | "any" => one (truth (← findPlace w body true places).isSome)
    | "all" => one (truth (← findPlace w body false places).isNone)
    | "none" => one (truth (← findPlace w body true places).isNone)
    | "notall" => one (truth (← findPlace w body false places).isSome)
    | name => failText ("Undefined subroutine &main::" ++ name ++ " called")

/-! ## Functions of the language -/

/-- Takes the end of a line off the text of a place, and gives how many characters it had. -/
def chompPlace (place : Nat) : Running Nat := do
  match ← valueAt place with
  | .nothing => return 0
  | value =>
    match ← globalValue "main::/" with
    | .nothing => return 0
    | separator =>
      let separator ← textOf separator
      let chars ← textOf value
      let ending := if separator.isEmpty then chars.reverse.takeWhile (· = '\n') else separator
      if !ending.isEmpty && ending.isSuffixOf chars then
        putValue place (textual (isWide value) (chars.take (chars.length - ending.length)))
        return ending.length
      else return 0

/-- The text of a message of values. -/
def messageOf (values : List Value) (usual : String) : Running Value := do
  match values with
  | [.reference number] => return .reference number
  | values =>
    let text := (← values.mapM textOf).flatten
    let before ← if text.isEmpty && usual = "Died" then globalValue "main::@" else pure .nothing
    match before with
    | .reference number => return .reference number
    | before =>
    let earlier ← textOf before
    let text := if !text.isEmpty then text
      else if earlier.isEmpty then ascii usual else earlier ++ ascii "\t...propagated"
    if text.getLast? = some '\n' then return textual (values.any isWide) text
    else return textual (values.any isWide) (text ++ (← whereabouts))

/-- Calls what is set to be done with a message, if anything is. -/
def handleMessage (w : Ways) (name : String) (message : Value) : Running Bool := do
  match ← global? .table "main::SIG" with
  | none => return false
  | some table =>
    match ← lookUp table (ascii name) with
    | .reference number =>
      let argument ← cell message
      -- While it is called it is not set.
      putEntry table (ascii name) .nothing
      let result ← attempt (w.caller.call (.reference number) [argument] false)
      putEntry table (ascii name) (.reference number)
      match result with
      | .ok _ => return true
      | .error leaving => throw leaving
    | _ => return false

/-- Takes elements out of a row and puts others in. -/
def spliceRow (number : Nat) (offset : Int) (length : Option Int) (values : List Value) : Running (List Value) := do
  let cells ← cellsAt number
  let size := cells.size
  let start := (if offset < 0 then max 0 ((size : Int) + offset) else min offset size).toNat
  let stop := match length with
    | none => size
    | some length =>
      if length < 0 then (max (start : Int) ((size : Int) + length)).toNat
      else min size (start + length.toNat)
  let removed ← valuesOf (cells.extract start stop).toList
  let added ← values.mapM cell
  putObject number (.row (cells.extract 0 start ++ added.toArray ++ cells.extract stop size))
  return removed

/-- Whether an expression has a value, without making anything. -/
def isThere (w : Ways) (value : Expr) : Running Bool := do
  match value with
  | .call name _ true => return (← functionNamed? name).isSome
  | .callValue inner [] true => return isDefined (← w.one inner)
  | .named .row home => return (← rowSize (← numberOf .row home)) != 0
  | .named .table home => return !(← tableAt (← numberOf .table home)).places.isEmpty
  | value => return isDefined (← w.one value)

/-- Whether there is an element or an entry. -/
def existsAt (w : Ways) (value : Expr) : Running Bool := do
  match value with
  | .entry table key =>
    let number ← w.holder .table true table
    return ((← tableAt number).find? (← keyOf w key)).isSome
  | .element row index =>
    let number ← w.holder .row true row
    return (← elementPlace? number (intOf (← w.one index))).isSome
  | .call name _ _ => return (← functionNamed? name).isSome
  | value => return isDefined (← w.one value)

/-- Takes entries out, and gives their values. -/
def deleteAt (w : Ways) (value : Expr) : Running (List Value) := do
  let removeKey (number : Nat) (key : List Char) : Running Value := do
    match (← tableAt number).find? key with
    | some place =>
      changeTable number fun table => table.erase key
      valueAt place
    | none => return .nothing
  match value with
  | .entry table key =>
    let number ← w.holder .table true table
    return [← removeKey number (← keyOf w key)]
  | .entries table keys _ =>
    let number ← w.holder .table true table
    (← w.eval true keys).mapM fun key => do removeKey number (← textOf key)
  | .element row index =>
    let number ← w.holder .row true row
    let index := intOf (← w.one index)
    match ← elementPlace? number index with
    | some place =>
      let removed ← valueAt place
      let size ← rowSize number
      match placeIn size index with
      | some index =>
        if index + 1 = size then changeRow number Array.pop
        else changeRow number fun cells => cells.setIfInBounds index 0
      | none => pure ()
      return [removed]
    | none => return [.nothing]
  | .localize inner =>
    let _ ← localized w inner
    return [.nothing]
  | _ => failText "delete argument is not a HASH or ARRAY element or slice"

/-- The names of files that patterns of names match. -/
def filesOf (text : List Char) : Running (List Value) := do
  let words := ByteText.words (text.map fun c => if c = '\n' then ' ' else c)
  let lists ← words.mapM fun word => do
    let options := braces word
    let found ← options.mapM fun word => do
      if word.any fun c => c = '*' || c = '?' || c = '[' then
        let directory := word.reverse.dropWhile (· != '/') |>.reverse
        let pattern := (word.reverse.takeWhile (· != '/')).reverse
        let glob := Glob.ofMarked {} (marked pattern false)
        match ← namesAt (if directory.isEmpty then ['.'] else directory) with
        | none => return []
        | some names =>
          let names := names.filter fun name =>
            (name.head? != some '.' || pattern.head? = some '.') && glob.matchesAll name
          return (names.mergeSort ByteText.isBefore).map fun name => directory ++ name
      else return [word]
    return found.flatten
  return lists.flatten.map Value.text
where
  /-- A word for each of the choices between braces. -/
  braces (word : List Char) : List (List Char) :=
    let before := word.takeWhile (· != '\x7b')
    match word.drop before.length with
    | _ :: rest =>
      let inner := rest.takeWhile (· != '\x7d')
      let after := rest.drop (inner.length + 1)
      if rest.contains '\x7d' then (ByteText.splitAt ',' inner).map fun choice => before ++ choice ++ after
      else [word]
    | [] => [word]

/-- Functions that take the topic if they are given nothing. -/
def topicNames : List String :=
  ["lc", "uc", "fc", "lcfirst", "ucfirst", "length", "chr", "ord", "int", "abs", "sqrt", "sin", "cos",
   "exp", "log", "hex", "oct", "quotemeta", "ref", "rmdir", "readlink", "stat", "lstat", "alarm", "mkdir",
   "unlink", "study", "lock"]

/-- Functions all of whose arguments are lists. -/
def spreadNames : List String :=
  ["join", "sprintf", "pack", "unlink", "chmod", "chown", "utime", "system", "exec", "kill"]

/-- The status that the program ends with when it dies. -/
def dyingStatus : Running Nat := do
  let fault := (← look (·.fault)) % 256
  if fault != 0 then return fault
  else
    let status := natOf (← globalValue "main::?") / 256 % 256
    return if status != 0 then status else 255

/-- Who called, as a package, a file and a line. -/
def callerOf (level : Nat) (isLong : Bool) (wantsList : Bool) : Running (List Value) := do
  let state ← machine
  match state.frames[level]? with
  | none => return if wantsList then [] else [.nothing]
  | some frame =>
    if !wantsList then return [.text frame.package.toList]
    else
      let base := [.text frame.package.toList, .text state.file, natural frame.line]
      return if isLong then base ++ [.text frame.function.toList, .int 1, (match frame.wish with
        | some holds => truth holds
        | none => .nothing)] else base

/-- Does what a function of the language does. -/
def builtIn (w : Ways) (wantsList : Bool) (name : String) (arguments : List Expr) : Running (List Value) := do
  let one (value : Value) : Running (List Value) := return [value]
  let first := (arguments.head?).getD Reading.topic
  let listed : Running (List Value) := do return (← arguments.mapM (w.eval true)).flatten
  match name with
  | "defined" =>
    match first with
    | .list [only] => one (truth (← isThere w only))
    | first => one (truth (← isThere w first))
  | "exists" => one (truth (← existsAt w first))
  | "delete" => return give wantsList (← deleteAt w first)
  | "scalar" => w.eval false first
  | "undef" =>
    match arguments with
    | [] => one .nothing
    | target :: _ =>
      match target with
      | .named .row home => putObject (← numberOf .row home) (.row #[])
      | .named .table home => putObject (← numberOf .table home) (.table {})
      | .follow .row inner => putObject (← follow w .row true inner) (.row #[])
      | .follow .table inner => putObject (← follow w .table true inner) (.table {})
      | .call name _ _ =>
        change fun machine => { machine with globals := machine.globals.erase ("&" ++ name) }
      | target => assignOne w target .nothing
      one .nothing
  | "push" =>
    let number ← w.holder .row true first
    let values := (← (arguments.drop 1).mapM (w.eval true)).flatten
    let cells ← values.mapM cell
    changeRow number fun row => cells.foldl Array.push row
    one (natural (← rowSize number))
  | "unshift" =>
    let number ← w.holder .row true first
    let values := (← (arguments.drop 1).mapM (w.eval true)).flatten
    let cells ← values.mapM cell
    changeRow number fun row => cells.toArray ++ row
    one (natural (← rowSize number))
  | "pop" =>
    let number ← argumentRow w arguments
    let size ← rowSize number
    if size = 0 then one .nothing
    else
      let place := ((← cellsAt number)[size - 1]?).getD 0
      changeRow number Array.pop
      if place = 0 then one .nothing else one (← valueAt place)
  | "shift" =>
    let number ← argumentRow w arguments
    let size ← rowSize number
    if size = 0 then one .nothing
    else
      let place := ((← cellsAt number)[0]?).getD 0
      changeRow number fun cells => cells.extract 1 cells.size
      if place = 0 then one .nothing else one (← valueAt place)
  | "splice" =>
    let number ← w.holder .row true first
    let offset ← match arguments[1]? with
      | some offset => do pure (intOf (← w.one offset))
      | none => pure 0
    let length ← match arguments[2]? with
      | some length =>
        match ← w.one length with
        | .nothing => pure none
        | value => pure (some (intOf value))
      | none => pure none
    let values := (← (arguments.drop 3).mapM (w.eval true)).flatten
    return give wantsList (← spliceRow number offset length values)
  | "keys" =>
    let number ← collection w first
    match ← objectAt number with
    | .row cells =>
      if wantsList then return (List.range cells.size).map natural else one (natural cells.size)
    | _ =>
      changeTable number fun table => { table with cursor := 0 }
      let entries := (← tableAt number).entries
      if wantsList then return entries.map fun (key, _) => keyValue key else one (natural entries.length)
  | "values" =>
    let number ← collection w first
    match ← objectAt number with
    | .row cells => if wantsList then valuesOf cells.toList else one (natural cells.size)
    | _ =>
      changeTable number fun table => { table with cursor := 0 }
      let entries := (← tableAt number).entries
      if wantsList then valuesOf (entries.map Prod.snd) else one (natural entries.length)
  | "each" =>
    let number ← collection w first
    match ← objectAt number with
    | .row _ => return []
    | _ =>
      let table ← tableAt number
      match table.entries[table.cursor]? with
      | some (key, place) =>
        changeTable number fun table => { table with cursor := table.cursor + 1 }
        if wantsList then return [keyValue key, ← valueAt place] else one (keyValue key)
      | none =>
        changeTable number fun table => { table with cursor := 0 }
        return if wantsList then [] else [.nothing]
  | "wantarray" =>
    match ((← look (·.frames)).head?).bind Frame.wish with
    | some holds => one (if holds then .int 1 else .int 0)
    | none => one .nothing
  | "return" =>
    let wish := (((← look (·.frames)).head?).bind Frame.wish).getD false
    let values ← if wish then listed
      else match arguments.getLast? with
        | some last => do
          let _ ← (arguments.dropLast).mapM (w.eval false)
          w.eval false last
        | none => pure [.nothing]
    throw (.returned values)
  | "next" => throw (.next (← label))
  | "last" => throw (.last (← label))
  | "redo" => throw (.redo (← label))
  | "die" =>
    let message ← messageOf (← listed) "Died"
    let _ ← handleMessage w "__DIE__" message
    throw (.died message)
  | "warn" =>
    let message ← messageOf (← listed) "Warning: something's wrong"
    if !(← handleMessage w "__WARN__" message) then writeError (← textOf message)
    one (truth true)
  | "exit" =>
    let code ← match arguments with
      | [] => pure 0
      | code :: _ => do pure (intOf (← numeric w code))
    throw (.ended (Int.emod code 256).toNat)
  | "chomp" =>
    let places ← if arguments.isEmpty then pure [← w.place first] else do pure (← arguments.mapM w.places).flatten
    let counts ← places.mapM chompPlace
    one (natural (ByteText.total counts))
  | "chop" =>
    let places ← if arguments.isEmpty then pure [← w.place first] else do pure (← arguments.mapM w.places).flatten
    let mut last : Value := .text []
    for place in places do
      let value ← valueAt place
      let chars ← textOf value
      last := textual (isWide value) (chars.drop (chars.length - 1))
      putValue place (textual (isWide value) chars.dropLast)
    one last
  | "pos" =>
    let place ← w.place first
    match (← look fun machine => machine.positions[place]?) with
    | some (position, _) => one (natural position)
    | none => one .nothing
  | "split" =>
    let values ← splitBy w arguments
    return if wantsList then values else [natural values.length]
  | "reverse" =>
    if wantsList then return (← listed).reverse
    else
      let values ← if arguments.isEmpty then pure [← w.one first] else listed
      one (textual (values.any isWide) ((← values.mapM textOf).flatten).reverse)
  | "substr" =>
    match arguments with
    | [target, offset, length, value] =>
      let value ← w.one value
      let place ← w.place target
      let length ← w.one length
      one (← replacePart place (intOf (← w.one offset)) (if isDefined length then some (intOf length) else none) value)
    | arguments => callPlain w.caller name (← arguments.mapM w.one) wantsList
  | "bless" =>
    let value ← w.one first
    let type ← match arguments[1]? with
      | some type => do
        match ← w.one type with
        | .reference number => do pure (((← look fun machine => machine.types[number]?)).getD "main")
        | type => do pure (String.ofList (← textOf type))
      | none => pure (← look (·.package))
    match value with
    | .reference number =>
      change fun machine => { machine with types := machine.types.insert number type }
      one value
    | _ => failText "Can't bless non-reference value"
  | "caller" =>
    match arguments with
    | [] => callerOf 0 false wantsList
    | level :: _ => callerOf (natOf (← w.one level)) true wantsList
  | "require" => one (truth true)
  | "do" =>
    let path ← w.text first
    match ← program (Program.readOperand path) with
    | .ok text => w.eval wantsList (.read (.constant (.text text)) [])
    | .error cause =>
      noteFault cause
      one .nothing
  | "constant" =>
    let package ← w.text first
    match arguments.drop 1 with
    | .newTable items :: _ =>
      let values := (← items.mapM (w.eval true)).flatten
      constants (String.ofList package) values
    | key :: values =>
      let key ← w.text key
      let values := (← values.mapM (w.eval true)).flatten
      defineConstant (String.ofList (package ++ ascii "::" ++ key)) values
    | [] => pure ()
    return []
  | "layers" =>
    let words ← (← listed).mapM textOf
    let isWide := words.any fun word => ByteText.occursIn (ascii "utf") (word.map Char.toLower)
    change fun machine => { machine with readsWide := isWide, writesWide := isWide }
    if words.any fun word => word = ascii ":std" then
      for name in ["main::STDIN", "main::STDOUT", "main::STDERR"] do
        match ← stream? name with
        | some stream => putStream name { stream with isWide := isWide }
        | none => pure ()
    return []
  | "bareword" =>
    let whole ← w.text first
    let short := (arguments[1]?).getD first
    match ← functionNamed? (String.ofList whole) with
    | some number => w.caller.call (.reference number) [] wantsList
    | none =>
      match ← callConstant (shortName (String.ofList whole)) with
      | some value => one value
      | none => w.eval false short
  | "open" =>
    let handle ← newStreamName w first
    let values ← (arguments.drop 1).mapM w.one
    one (truth (← openStream w.caller.launcher handle values))
  | "close" =>
    let handle ← match arguments with
      | [] => pure (← look (·.selected))
      | handle :: _ => do streamName (← w.one handle)
    one (truth (← closeStream w.caller.launcher handle))
  | "eof" =>
    let handle ← match arguments with
      | [] => do pure ((← look (·.lastRead)).getD "main::ARGV")
      | handle :: _ => do streamName (← w.one handle)
    one (truth (← isAtEnd handle))
  | "eofAll" => one (truth (← isAtLastEnd))
  | "readline" => w.eval wantsList (.readLine first)
  | "getc" =>
    let handle ← match arguments with
      | [] => pure "main::STDIN"
      | handle :: _ => do streamName (← w.one handle)
    match ← readChars handle 1 with
    | [] => one .nothing
    | chars => one (.text chars)
  | "read" => readInto w arguments
  | "sysread" => readInto w arguments
  | "syswrite" =>
    let handle ← streamName (← w.one first)
    let value ← match arguments[1]? with
      | some value => w.one value
      | none => pure .nothing
    let chars ← textOf value
    let _ ← write handle chars
    flush handle
    one (natural chars.length)
  | "binmode" =>
    let handle ← streamName (← w.one first)
    let layer ← match arguments[1]? with
      | some layer => w.text layer
      | none => pure []
    match ← stream? handle with
    | some stream =>
      flush handle
      let stream := (← stream? handle).getD stream
      putStream handle { stream with isWide := ByteText.occursIn (ascii "utf") (layer.map Char.toLower) }
      one (truth true)
    | none => one .nothing
  | "fileno" =>
    match ← callStream (← streamName (← w.one first)) "fileno" [] false w with
    | some values => return values
    | none => one .nothing
  | "select" =>
    match arguments with
    | [] => one (.text (← look (·.selected)).toList)
    | [handle] =>
      let before := (← look (·.selected))
      let name ← streamName (← w.one handle)
      change fun machine => { machine with selected := name }
      one (.handle before)
    | _ =>
      let time ← w.one ((arguments.getLast?).getD first)
      system (System.wait ((floatOf time * 1000).toUInt64.toNat))
      one (.int 0)
  | "seek" =>
    let handle ← streamName (← w.one first)
    let offset ← w.one ((arguments[1]?).getD first)
    flush handle
    match ← stream? handle with
    | some stream =>
      match stream.channel with
      | some channel =>
        match ← system (System.channel? channel) with
        | some (.file steps _ mode) =>
          system (System.put channel (.file steps (natOf offset) mode))
          putStream handle { stream with buffer := [], isEnded := false }
          one (truth true)
        | some (.source text tail taken) =>
          if stream.cell.isNone && natOf offset = 0 && stream.descriptor.isNone then
            let _ := (text, tail, taken)
            one (truth true)
          else
            change fun machine => { machine with fault := 29 }
            one (truth false)
        | _ => one (truth false)
      | none => one (truth true)
    | none => one (truth false)
  | "tell" => one (.int 0)
  | "truncate" => one (truth true)
  | "opendir" =>
    let handle ← newStreamName w first
    let path ← w.text ((arguments[1]?).getD first)
    match ← namesAt path with
    | none => one (truth false)
    | some names =>
      putStream handle { names := [['.'], ['.', '.']] ++ names }
      one (truth true)
  | "readdir" =>
    let handle ← streamName (← w.one first)
    match ← stream? handle with
    | none => return if wantsList then [] else [.nothing]
    | some stream =>
      if wantsList then
        putStream handle { stream with names := [] }
        return stream.names.map Value.text
      else
        match stream.names with
        | [] => one .nothing
        | name :: rest =>
          putStream handle { stream with names := rest }
          one (.text name)
  | "closedir" => one (truth true)
  | "rewinddir" => one (truth true)
  | "glob" => filesOf (← w.text first)
  | "local" => return []
  | "localtime" => callPlain w.caller name (← arguments.mapM w.one) wantsList
  | "gmtime" => callPlain w.caller name (← arguments.mapM w.one) wantsList
  | "int" => callPlain w.caller name [← numeric w first] wantsList
  | "__SUB__" => one .nothing
  | "sprintf" => one (← format (← listed))
  | name =>
    if arguments.isEmpty && topicNames.contains name then
      callPlain w.caller name [← w.one Reading.topic] wantsList
    else if spreadNames.contains name then callPlain w.caller name (← listed) wantsList
    else if name = "unpack" && arguments.length = 1 then
      callPlain w.caller name [← w.one first, ← w.one Reading.topic] wantsList
    else callPlain w.caller name (← arguments.mapM w.one) wantsList
where
  /-- A key as a value. -/
  keyValue (key : List Char) : Value := if isNarrow key then .text key else .wide key
  /-- The label of a step out of a loop. -/
  label : Running String := do
    match arguments with
    | [] => return ""
    | label :: _ => return String.ofList (← w.text label)
  /-- The row that is meant if none is given: the arguments of the function, or of the program. -/
  argumentRow (w : Ways) (arguments : List Expr) : Running Nat := do
    match arguments with
    | row :: _ => w.holder .row true row
    | [] =>
      if (← look (·.frames)).isEmpty then global .row "main::ARGV" else global .row "main::_"
  /-- The row or table that an expression stands for. -/
  collection (w : Ways) (value : Expr) : Running Nat := do
    match value with
    | .named .row _ => w.holder .row true value
    | .follow .row _ => w.holder .row true value
    | .list [only] =>
      match only with
      | .named .row _ => w.holder .row true only
      | only => w.holder .table true only
    | value => w.holder .table true value
  /-- Defines a constant. -/
  defineConstant (name : String) (values : List Value) : Running Unit := do
    let body : List Statement := [.expression 0 (.list (values.map Expr.constant))]
    let body := match values with
      | [value] => [Statement.expression 0 (.constant value)]
      | _ => body
    let number ← make (.function { name := name, package := "main", body := body, pad := none })
    change fun machine => { machine with globals := machine.globals.insert ("&" ++ name) number }
  /-- Defines several constants. -/
  constants (package : String) : List Value → Running Unit
    | key :: value :: rest => do
      defineConstant (package ++ "::" ++ String.ofList (← textOf key)) [value]
      constants package rest
    | _ => return ()
  /-- Reads some characters of an open file. -/
  readChars (handle : String) (count : Nat) : Running (List Char) := do
    match ← stream? handle with
    | none => return []
    | some stream =>
      let rec more : Nat → Stream → Running Stream
        | 0, stream => return stream
        | fuel + 1, stream => do
          if count ≤ stream.buffer.length || stream.isEnded then return stream else more fuel (← refill stream)
      let stream ← more mostBlocks stream
      putStream handle { stream with buffer := stream.buffer.drop count }
      return stream.buffer.take count
  /-- Reads some characters into a place. -/
  readInto (w : Ways) (arguments : List Expr) : Running (List Value) := do
    match arguments with
    | handle :: target :: count :: others =>
      let handle ← streamName (← w.one handle)
      let count := natOf (← w.one count)
      let place ← w.place target
      let before ← textOf (← valueAt place)
      let offset ← match others with
        | offset :: _ => do pure (natOf (← w.one offset))
        | [] => pure 0
      let chars ← readChars handle count
      putValue place (.text (before.take offset ++ chars))
      return [natural chars.length]
    | _ => failText "Not enough arguments for read"

/-! ## Expressions -/

/-- Whether a range that stays open is open now. -/
def flipFlop (w : Ways) (first last : Expr) (isLong : Bool) (number : Nat) : Running Value := do
  let holds (value : Expr) : Running Bool := do
    match value with
    | .constant (.int n) => return intOf (← specialValue "$.") = n
    | value => return isTrue (← w.one value)
  let put (count : Nat) : Running Unit :=
    change fun machine =>
      { machine with ranges := (number, count) :: machine.ranges.filter fun entry => entry.1 != number }
  let count := (((← look (·.ranges)).find? fun entry => entry.1 = number).map Prod.snd).getD 0
  if count = 0 then
    if ← holds first then
      if !isLong && (← holds last) then return .text (ascii "1E0")
      else
        put 1
        return .int 1
    else return truth false
  else if ← holds last then
    put 0
    return .text (ByteText.ofNat (count + 1) ++ ascii "E0")
  else
    put (count + 1)
    return natural (count + 1)

/-- References to all that an expression stands for. -/
def referencesTo (w : Ways) (value : Expr) : Running (List Value) := do
  match value with
  | .named sign home => return [.reference (← numberOf sign home)]
  | .follow .handle inner => return [.reference (← make (.handle (← streamName (← w.one inner))))]
  | .follow sign inner => return [.reference (← follow w sign true inner)]
  | .element _ _ => return [.reference (← w.place value)]
  | .entry _ _ => return [.reference (← w.place value)]
  | .declare isKept targets _ => return (← declare isKept targets).map Value.reference
  | .list items =>
    match items with
    | [.named .row home] => return (← rowPlaces (← numberOf .row home)).map Value.reference
    | items => return (← (← items.mapM w.places).flatten.mapM fun place => do return Value.reference place)
  | .call name [] true =>
    match ← functionNamed? name with
    | some number => return [.reference number]
    | none =>
      match ← callConstant (shortName name), Reading.isOwnName (shortName name) with
      | _, _ =>
        let number ← make (.library (shortName name))
        return [.reference number]
  | .callValue inner [] true => return [← w.one inner]
  | .constant (.handle name) => return [.reference (← make (.handle name))]
  | value => return [.reference (← cell (← w.one value))]

/-- The values of an expression. -/
def evalOf (w : Ways) (wantsList : Bool) (value : Expr) : Running (List Value) := do
  let one (value : Value) : Running (List Value) := return [value]
  match value with
  | .constant value => one value
  | .named .one home => one (← valueAt (← numberOf .one home))
  | .named .row home =>
    let number ← numberOf .row home
    if wantsList then rowValues number else one (natural (← rowSize number))
  | .named .table home => tableValues (← numberOf .table home)
  | .named _ _ => one .nothing
  | .special "@-" => spans
  | .special "@+" => spans
  | .special "%+" => tableValues (← w.holder .table true value)
  | .special name => one (← specialValue name)
  | .follow .row inner =>
    let number ← follow w .row false inner
    if wantsList then rowValues number else one (natural (← rowSize number))
  | .follow .table inner => tableValues (← follow w .table false inner)
  | .follow .handle inner => one (.handle (← streamName (← w.one inner)))
  | .follow sign inner => one (← valueAt (← follow w sign true inner))
  | .lastPlace row => one (.int ((← rowSize (← w.holder .row true row)) - 1 : Int))
  | .element row index =>
    let number ← w.holder .row true row
    match ← elementPlace? number (intOf (← w.one index)) with
    | some place => one (← valueAt place)
    | none => one .nothing
  | .entry table key =>
    let number ← w.holder .table true table
    one (← lookUp number (← keyOf w key))
  | .elements row places isPaired =>
    let number ← w.holder .row true row
    let values ← (← w.eval true places).mapM fun index => do
      let value ← match ← elementPlace? number (intOf index) with
        | some place => valueAt place
        | none => pure .nothing
      return if isPaired then [index, value] else [value]
    return give wantsList values.flatten
  | .entries table keys isPaired =>
    let number ← w.holder .table true table
    let values ← (← w.eval true keys).mapM fun key => do
      let value ← lookUp number (← textOf key)
      return if isPaired then [key, value] else [value]
    return give wantsList values.flatten
  | .pick items places =>
    let values := (← w.eval true items).toArray
    let picked := (← w.eval true places).map fun index =>
      match placeIn values.size (intOf index) with
      | some place => (values[place]?).getD .nothing
      | none => .nothing
    return give wantsList (if values.isEmpty then [] else picked)
  | .list items =>
    if wantsList then return (← items.mapM (w.eval true)).flatten
    else
      match items.getLast? with
      | none => one .nothing
      | some last =>
        let _ ← items.dropLast.mapM (w.eval false)
        w.eval false last
  | .joined parts =>
    let values ← parts.mapM w.one
    let texts ← values.mapM textOf
    one (textual (values.any isWide) texts.flatten)
  | .declare isKept targets isList =>
    let places ← declare isKept targets
    match targets, isList with
    | [(.row, _)], _ => return if wantsList then [] else [.int 0]
    | [(.table, _)], _ => return if wantsList then [] else [.int 0]
    | _, _ => return give wantsList (← valuesOf places)
  | .localize target =>
    let places ← localized w target
    return give wantsList (← valuesOf places)
  | .assign "=" target inner =>
    if isListTarget target then
      let values ← w.eval true inner
      assignList w 100000 [target] values
      if wantsList then
        match target with
        | .declare _ _ _ => return values
        | .localize _ => return values
        | target => w.eval true target
      else one (natural values.length)
    else
      match target with
      | .declare true [(sign, number)] _ =>
        -- A variable that is kept gets its first value once.
        if (((← look fun machine => machine.outerPad[number]?)).getD 0) = 0 then
          let result ← w.one inner
          putValue (← slot sign number) result
        one (← valueAt (← slot sign number))
      | .choose condition first second =>
        let result ← w.one inner
        assignOne w (if isTrue (← w.one condition) then first else second) result
        one result
      | target =>
        let result ← w.one inner
        assignOne w target result
        one result
  | .assign operator target inner => one (← assignBy w operator target inner)
  | .operate "x" (.list items) second =>
    if wantsList then
      let values := (← items.mapM (w.eval true)).flatten
      return (List.replicate (natOf (← w.one second)) values).flatten
    else one (← operate "x" (← w.one (.list items)) (← w.one second))
  | .operate operator first second =>
    if numericOperators.contains operator then
      let a ← numeric w first
      let b ← numeric w second
      one (← operate operator a b)
    else
      let a ← w.one first
      let b ← w.one second
      one (← operate operator a b)
  | .both first second =>
    let a ← w.one first
    if isTrue a then w.eval wantsList second else one a
  | .either first second =>
    let a ← w.one first
    if isTrue a then one a else w.eval wantsList second
  | .defaulted first second =>
    let a ← w.one first
    if isDefined a then one a else w.eval wantsList second
  | .choose condition first second =>
    if isTrue (← w.one condition) then w.eval wantsList first else w.eval wantsList second
  | .step isBefore isUp target =>
    match target with
    | .lastPlace _ => stepSimple isBefore isUp target
    | .special _ => stepSimple isBefore isUp target
    | target =>
      let place ← w.place target
      let before ← valueAt place
      let after ← if isUp then nextValue before else pure (valueBefore before)
      putValue place after
      one (if isBefore then after else match before with
        | .nothing => if isUp then .int 0 else .nothing
        | before => before)
  | .range first last isLong number =>
    if wantsList then rangeValues (← w.one first) (← w.one last)
    else one (← flipFlop w first last isLong number)
  | .seek target isNegated pattern flags => seek w wantsList target isNegated pattern flags
  | .exchange target isNegated pattern instead flags =>
    one (← exchange w target isNegated pattern instead flags)
  | .translate target _ from_ into flags => one (← translate w target from_ into flags)
  | .pattern pattern flags =>
    let value ← match pattern with
      | .constant value => pure value
      | pattern => w.one pattern
    let text ← textOf value
    let _ ← compiled text flags (isWide value)
    let number ← make (.pattern text flags)
    change fun machine => { machine with types := machine.types.insert number "Regexp" }
    one (.reference number)
  | .reference inner => return give wantsList (← referencesTo w inner)
  | .newRow items => one (.reference (← row (← items.mapM (w.eval true)).flatten))
  | .newTable items =>
    let number ← make (.table {})
    fillTable number (← items.mapM (w.eval true)).flatten
    one (.reference number)
  | .function name body =>
    let package ← look (·.package)
    let pad ← look fun state => if state.isOuter then state.outerPad else state.pad
    let number ← make (.function { name := if name.isEmpty then package ++ "::__ANON__" else name
                                   package := package, body := body, pad := some pad })
    one (.reference number)
  | .call name arguments isShared => callNamed w name (places arguments isShared) wantsList
  | .callValue function arguments isShared =>
    let function ← w.one function
    w.caller.call function (← places arguments isShared) wantsList
  | .method target name arguments =>
    let target ← w.one target
    let places := (← arguments.mapM w.places).flatten
    callMethod w target (← w.one name) places wantsList
  | .builtIn name arguments => builtIn w wantsList name arguments
  | .block body => inScope (w.run (some wantsList) body)
  | .guarded body =>
    guard (inScope (w.run (some wantsList) body))
  | .mapped name body items => mapped w wantsList name body items
  | .output name handle items =>
    let stream ← match handle with
      | some handle => do streamName (← w.one handle)
      | none => pure (← look (·.selected))
    let values ← if items.isEmpty then do pure [← w.one Reading.topic]
      else do pure (← items.mapM (w.eval true)).flatten
    match name with
    | "printf" => one (truth (← write stream (← textOf (← format values))))
    | "say" => one (truth (← writeValues stream values ['\n']))
    | _ => one (truth (← writeValues stream values []))
  | .readLine handle =>
    let name ← streamName (← w.one handle)
    if wantsList then linesLeft name mostLines []
    else one ((← lineOf name).getD .nothing)
  | .files pattern => filesOf (← w.text pattern)
  | .test letter inner =>
    let path ← do
      match ← w.one inner with
      | .handle "main::STDIN" => pure (ascii "/dev/stdin")
      | .handle "main::STDOUT" => pure (ascii "/dev/stdout")
      | .reference number =>
        match ← objectAt number with
        | .handle name => do pure (((← stream? name).map Stream.path).getD [])
        | _ => pure []
      | value => textOf value
    if letter = 't' then one (truth false)
    else if letter = 's' then
      if ← program (Program.isFilled path) then
        match ← fileMarks path with
        | marks => one ((marks[7]?).getD (truth false))
      else one (truth false)
    else if letter = 'z' then
      let isThere ← program (Program.fileHolds 'e' path)
      one (truth (isThere && !(← program (Program.isFilled path))))
    else if letter = 'M' || letter = 'A' || letter = 'C' then one (.int 0)
    else if letter = 'l' then one (truth (← program (Program.fileHolds 'L' path)))
    else if letter = 'T' || letter = 'B' then one (truth ((← program (Program.fileHolds 'f' path)) && letter = 'T'))
    else
      let holds ← program (Program.fileHolds letter path)
      if !holds then change fun machine => { machine with fault := 2 }
      one (truth holds)
  | .read inner names =>
    let text ← w.text inner
    guard (readAndRun w wantsList text names)
where
  /-- The keys and values of a table, or how many keys there are. -/
  tableValues (number : Nat) : Running (List Value) := do
    let entries := (← tableAt number).entries
    if wantsList then
      return (← entries.mapM fun (key, place) => do
        return [if isNarrow key then Value.text key else .wide key, ← valueAt place]).flatten
    else return [natural entries.length]
  /-- The spans of the last match. -/
  spans : Running (List Value) := do
    let values ← rowValues (← w.holder .row true value)
    if wantsList then return values else return [natural values.length]
  /-- Counts something on that has no place. -/
  stepSimple (isBefore isUp : Bool) (target : Expr) : Running (List Value) := do
    let before ← w.one target
    let after ← if isUp then nextValue before else pure (valueBefore before)
    assignOne w target after
    return [if isBefore then after else before]
  /-- The places of arguments, which may be those of the function around. -/
  places (arguments : List Expr) (isShared : Bool) : Running (List Nat) := do
    if isShared then return (← cellsAt (← global .row "main::_")).toList
    else return (← arguments.mapM w.places).flatten
  /-- Does something, and keeps the message it died with. -/
  guard (step : Running (List Value)) : Running (List Value) := do
    let kept ← look fun before =>
      (before.pad, before.isOuter, before.package, before.frames, before.depth)
    match ← attempt step with
    | .ok values =>
      putGlobal "main::@" (.text [])
      return values
    | .error (.died message) =>
      let (pad, isOuter, package, frames, depth) := kept
      change fun machine =>
        { machine with pad := pad, isOuter := isOuter, package := package, frames := frames, depth := depth }
      putGlobal "main::@" message
      return if wantsList then [] else [.nothing]
    | .error leaving => throw leaving
  /-- Reads a text as a program and runs it. -/
  readAndRun (w : Ways) (wantsList : Bool) (text : List Char) (names : List (String × Home)) :
      Running (List Value) := do
    let state ← machine
    let slots := max state.outerPad.size state.pad.size
    let count := state.readings + 1
    change fun machine => { machine with readings := count }
    let file := ascii "(eval " ++ ByteText.ofNat count ++ [')']
    let ending := ascii "Execution of " ++ file ++ ascii " aborted due to compilation errors.\n"
    let reader : Reader :=
      { rest := text ++ ['\n'], scopes := [[], names], slots := slots, package := state.package, file := file
        isStrict := state.isStrict, canSay := true
        functions := state.globals.toList.filterMap fun (key, _) =>
          if key.toList.head? = some '&' then some (String.ofList (key.toList.drop 1), none) else none }
    match Reading.whole.run reader with
    | .error fault =>
      let message := if fault.isSyntax then fault.message ++ ending
        else fault.message ++ ascii " at " ++ file ++ ascii " line " ++ ByteText.ofNat fault.line ++ ascii ".\n"
      throw (.died (.text message))
    | .ok (script, reader) =>
      match reader.faults with
      | _ :: _ => throw (.died (.text (Reading.earlierFaults reader ++ ending)))
      | [] =>
        let grow (pad : Array Nat) : Array Nat := pad ++ Array.replicate (script.slots - pad.size) 0
        change fun machine => { machine with pad := grow machine.pad, outerPad := grow machine.outerPad }
        for (name, body) in script.functions do
          let number ← make (.function { name := name, package := packageOf name, body := body, pad := none })
          change fun machine => { machine with globals := machine.globals.insert ("&" ++ name) number }
        let line ← look (·.line)
        let _ ← w.run none script.beginnings
        let outerFile ← look (·.file)
        change fun machine => { machine with file := file }
        let result ← attempt (inScope (w.run (some wantsList) script.body))
        change fun machine => { machine with line := line, file := outerFile }
        match result with
        | .ok values => return values
        | .error (.returned values) => return values
        | .error leaving => throw leaving

/-! ## Statements -/

/-- How many times a loop goes around at most. -/
def mostRounds : Nat := 1000000000000

/-- Whether a step out of a loop with a label is meant for one. -/
def isFor (wanted label : String) : Bool := wanted.isEmpty || wanted = label

/-- Does the body of a loop once, and tells whether the loop goes on. -/
def round (w : Ways) (label : String) (body : List Statement) : Nat → Running Bool
  | 0 => return false
  | fuel + 1 => do
    tick
    match ← attempt (inScope (w.run none body)) with
    | .ok _ => return true
    | .error (.next wanted) => if isFor wanted label then return true else throw (.next wanted)
    | .error (.last wanted) => if isFor wanted label then return false else throw (.last wanted)
    | .error (.redo wanted) =>
      if isFor wanted label then round w label body fuel else throw (.redo wanted)
    | .error leaving => throw leaving

/-- Does the body of a loop as long as a condition holds.  Each step goes around once. -/
def loopWhile (w : Ways) (line : Nat) (label : String) (isNegated : Bool) (condition : Option Expr)
    (body after : List Statement) : Nat → Running Unit
  | 0 => return ()
  | fuel + 1 => do
    change fun machine => { machine with line := line }
    let holds ← match condition with
      | none => pure true
      | some condition => do pure (isTrue (← w.one condition) != isNegated)
    if holds then
      if ← round w label body mostRounds then
        if !after.isEmpty then
          let _ ← w.run none after
        loopWhile w line label isNegated condition body after fuel

/-- A loop whose condition is looked at behind its body.  Each step goes around once. -/
def loopUntil (w : Ways) (line : Nat) (isNegated : Bool) (condition body : Expr) : Nat → Running Unit
  | 0 => return ()
  | fuel + 1 => do
    tick
    let _ ← w.eval false body
    change fun machine => { machine with line := line }
    if isTrue (← w.one condition) != isNegated then loopUntil w line isNegated condition body fuel

/-- A loop that counts.  Each step goes around once. -/
def countUp (w : Ways) (line : Nat) (label : String) (condition next : Option Expr) (body : List Statement) :
    Nat → Running Unit
  | 0 => return ()
  | fuel + 1 => do
    change fun machine => { machine with line := line }
    let holds ← match condition with
      | none => pure true
      | some condition => do pure (isTrue (← w.one condition))
    if holds then
      if ← round w label body mostRounds then
        match next with
        | some next =>
          let _ ← w.eval false next
        | none => pure ()
        countUp w line label condition next body fuel

/-- Does the body of a loop with each of some places. -/
def eachPlace (w : Ways) (label : String) (holder : Option Home) (body : List Statement) : List Nat → Running Unit
  | [] => return ()
  | place :: rest => do
    let goesOn ← match holder with
      | none => withTopic place (round w label body mostRounds)
      | some (.package name) => withGlobal (String.ofList ('$' :: name.toList)) place (round w label body mostRounds)
      | some (.slot number) => do
        putSlot number place
        round w label body mostRounds
    if goesOn then eachPlace w label holder body rest

/-- Does the body of a loop with each number of a range.  Each step takes one. -/
def eachNumber (w : Ways) (label : String) (holder : Option Home) (body : List Statement) (last : Int) :
    Nat → Int → Running Unit
  | 0, _ => return ()
  | fuel + 1, n => do
    if n ≤ last then
      let place ← cell (.int n)
      let goesOn ← match holder with
        | none => withTopic place (round w label body mostRounds)
        | some (.package name) => withGlobal (String.ofList ('$' :: name.toList)) place (round w label body mostRounds)
        | some (.slot number) => do
          putSlot number place
          round w label body mostRounds
      if goesOn then eachNumber w label holder body last fuel (n + 1)

/-- The first branch whose condition holds. -/
def branch (w : Ways) (wish : Option Bool) (otherwise : List Statement) :
    List (Expr × List Statement) → Running (List Value)
  | [] => if otherwise.isEmpty then return [] else inScope (w.run wish otherwise)
  | (condition, body) :: rest => do
    let value ← w.one condition
    if isTrue value then inScope (w.run wish body) else branch w wish otherwise rest

/-- Does a statement. -/
def step (w : Ways) (wish : Option Bool) (statement : Statement) : Running (List Value) := do
  match statement with
  | .nothing => return []
  | .package name =>
    change fun machine => { machine with package := name }
    return []
  | .expression line value =>
    tick
    if line != 0 then change fun machine => { machine with line := line }
    match wish with
    | some wantsList => w.eval wantsList value
    | none =>
      let _ ← w.eval false value
      return []
  | .block label body =>
    let result ← attempt (inScope (w.run wish body))
    match result with
    | .ok values => return values
    | .error (.next wanted) => if isFor wanted label then return [] else throw (.next wanted)
    | .error (.last wanted) => if isFor wanted label then return [] else throw (.last wanted)
    | .error leaving => throw leaving
  | .conditional line branches otherwise =>
    tick
    change fun machine => { machine with line := line }
    branch w wish otherwise branches
  | .loop line label isNegated condition body after =>
    inScope (loopWhile w line label isNegated condition body after mostRounds)
    return []
  | .loopLate line isNegated condition body =>
    loopUntil w line isNegated condition body mostRounds
    return []
  | .count line label start condition next body =>
    inScope do
      change fun machine => { machine with line := line }
      match start with
      | some start =>
        let _ ← w.eval false start
      | none => pure ()
      countUp w line label condition next body mostRounds
    return []
  | .each line label holder items body =>
    change fun machine => { machine with line := line }
    let saved ← match holder with
      | some (.slot number) => do
        look fun state => ((if state.isOuter then state.outerPad else state.pad)[number]?).getD 0
      | _ => pure 0
    let result ← attempt (loopEach holder label items body)
    match holder with
    | some (.slot number) => putSlot number saved
    | _ => pure ()
    match result with
    | .ok () => return []
    | .error leaving => throw leaving
where
  /-- A loop over items. -/
  loopEach (holder : Option Home) (label : String) (items : List Expr) (body : List Statement) : Running Unit := do
    match items with
    | [.range first last _ _] =>
      let low ← w.one first
      let high ← w.one last
      if ← isNumberRange low high then
        eachNumber w label holder body (intOf high) mostRounds (intOf low)
      else eachPlace w label holder body (← (← rangeValues low high).mapM cell)
    | items => eachPlace w label holder body (← items.mapM w.places).flatten

/-- Does statements one after the other, and gives the values of the last one. -/
def runAll (w : Ways) (wish : Option Bool) : List Statement → Running (List Value)
  | [] => return []
  | [last] => step w wish last
  | first :: rest => do
    let _ ← step w none first
    runAll w wish rest

/-- The ways of doing parts that hold others up to some depth. -/
def waysOf (launcher : Launcher) : Nat → Ways
  | 0 =>
    { eval := fun _ _ => throw (.gone 1), run := fun _ _ => throw (.gone 1), place := fun _ => throw (.gone 1)
      places := fun _ => throw (.gone 1), holder := fun _ _ _ => throw (.gone 1)
      caller := { call := fun _ _ _ => throw (.gone 1), launcher := launcher } }
  | depth + 1 =>
    { eval := fun wantsList value => evalOf (waysOf launcher depth) wantsList value
      run := fun wish statements => runAll (waysOf launcher depth) wish statements
      place := fun value => placeOf (waysOf launcher depth) value
      places := fun value => placesOf (waysOf launcher depth) value
      holder := fun sign creates value => holderOf (waysOf launcher depth) sign creates value
      caller :=
        { call := fun value arguments wantsList => callFunction (waysOf launcher depth) value arguments wantsList
          launcher := launcher } }

end Running

end SchemaDocs.Shell.Sigil
