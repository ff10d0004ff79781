import SchemaDocs.Shell.Tool.Indent.Toolkit
/-!
# Arguments that programs describe

A program says which arguments it takes: those with flags and those that stand alone.  The words
that it was started with are given to them, and it tells how it is used.
-/

namespace SchemaDocs.Shell.Indent

/-- An argument that a program takes. -/
structure Described where
  flags : List (List Char)
  target : List Char
  action : List Char := ascii "store"
  /-- How many words it takes, if that is said. -/
  count : Value := .nothing
  fixed : Value := .nothing
  usual : Value := .nothing
  type : Value := .nothing
  choices : Option (List Value) := none
  isRequired : Bool := false
  help : Value := .nothing
  label : Value := .nothing
  version : Value := .nothing
deriving Inhabited

namespace Described

/-- Whether an argument takes words. -/
def takesWords (described : Described) : Bool :=
  described.action = ascii "store" || described.action = ascii "append" || described.action = ascii "extend"

/-- The least and the greatest number of words that an argument takes. -/
def bounds (described : Described) : Nat × Option Nat :=
  match described.count with
  | .int n => (n.toNat, some n.toNat)
  | .text ['?'] => (0, some 1)
  | .text ['*'] => (0, none)
  | .text ['+'] => (1, none)
  | .text _ => (0, none)
  | _ => (1, some 1)

/-- What an argument is called in messages. -/
def name (described : Described) (label : List Char) : List Char :=
  if described.flags.isEmpty then label else (described.flags.intersperse ['/']).flatten

end Described

/-- What words were given to. -/
structure Assigning where
  /-- The arguments that stand alone and wait for words. -/
  waiting : List Described
  values : List (List Char × Value) := []
  seen : List (List Char) := []
  extras : List (List Char) := []

namespace Running

/-- The field of a program's description. -/
def descriptionOf (self : Value) : Running (List Described) := do
  let rows ← match ← fieldOf? self "_described" with
    | some (.object number) => do
      match ← objectAt number with
      | .list rows => pure rows.toList
      | _ => pure []
    | _ => pure []
  rows.mapM fun row => do
    let pairs ← match ← object? row with
      | some (.table _ table) => pure table.entries
      | _ => pure []
    let option (name : String) : Value :=
      ((pairs.find? fun entry => match entry.1 with
        | .text other => other = name.toList
        | _ => false).map Prod.snd).getD .nothing
    let flags := match option "flags" with
      | .tuple flags => flags.filterMap fun flag => match flag with
        | .text flag => if flag.head? = some '-' then some flag else none
        | _ => none
      | _ => []
    let alone := match option "flags" with
      | .tuple (.text name :: _) => name
      | _ => []
    let long := (flags.find? fun flag => ['-', '-'].isPrefixOf flag).or flags.head?
    let target := match option "dest", long with
      | .text target, _ => target
      | _, some flag => (flag.dropWhile (· = '-')).map fun c => if c = '-' then '_' else c
      | _, none => alone
    let action := match option "action" with
      | .text action => action
      | .builtIn _ => ascii "flag"
      | _ => ascii "store"
    let choices : Option (List Value) ← match option "choices" with
      | .nothing => pure none
      | .tuple items => pure (some items)
      | .object number => do
        match ← objectAt number with
        | .list items => pure (some items.toList)
        | .table _ table => pure (some table.keys)
        | .set _ table => pure (some table.keys)
        | _ => pure none
      | _ => pure none
    let isRequired : Bool := match option "required" with
      | .bool b => b
      | _ => false
    return { flags := flags, target := target, action := action, count := option "nargs"
             fixed := option "const", usual := option "default", type := option "type"
             choices := choices, isRequired := isRequired, help := option "help"
             label := option "metavar", version := option "version" }

/-- What stands for the words of an argument. -/
def labelOf (caller : Caller) (described : Described) : Running (List Char) := do
  match described.label, described.choices with
  | .text label, _ => return label
  | _, some choices =>
    let texts ← choices.mapM (plain caller)
    return ['\x7b'] ++ (texts.intersperse [',']).flatten ++ ['\x7d']
  | _, none =>
    return if described.flags.isEmpty then described.target else described.target.map Char.toUpper

/-- The words of an argument as they are shown. -/
def wordsShown (caller : Caller) (described : Described) : Running (List Char) := do
  let label ← labelOf caller described
  match described.count with
  | .text ['?'] => return ['['] ++ label ++ [']']
  | .text ['*'] => return ['['] ++ label ++ ascii " ...]"
  | .text ['+'] => return label ++ ascii " [" ++ label ++ ascii " ...]"
  | .int n => return ((List.replicate n.toNat label).intersperse [' ']).flatten
  | .text _ => return ascii "..."
  | _ => return label

/-- The name of the program that takes the arguments. -/
def usedName (self : Value) : Running (List Char) := do
  match ← fieldOf? self "prog" with
  | some (.text name) => return name
  | _ =>
    match ← setting? "sys.argv" with
    | some (.object number) =>
      match ← objectAt number with
      | .list items =>
        match (items[0]? : Option Value) with
        | some (.text path) => return lastName path
        | _ => return []
      | _ => return []
    | _ => return []

/-- Pieces put into lines of a width behind some blanks. -/
def pieceLines (width margin : Nat) (pieces : List (List Char)) : List (List Char) :=
  let (lines, line) := pieces.foldl (fun ((lines, line) : List (List Char) × List Char) piece =>
    if line.isEmpty then (lines, piece)
    else if width < margin + line.length + 1 + piece.length then (lines ++ [line], piece)
    else (lines, line ++ [' '] ++ piece)) ([], [])
  if line.isEmpty then lines else lines ++ [line]

/-- How a program is used, in lines. -/
def usageText (caller : Caller) (self : Value) : Running (List Char) := do
  let all ← descriptionOf self
  let name ← usedName self
  let options ← (all.filter fun described => !described.flags.isEmpty).mapM fun described => do
    let flag := described.flags.head?.getD []
    let words ← wordsShown caller described
    let text := if described.takesWords then flag ++ [' '] ++ words else flag
    return if described.isRequired then text else ['['] ++ text ++ [']']
  let alone ← (all.filter fun described => described.flags.isEmpty).mapM (wordsShown caller)
  match ← fieldOf? self "usage" with
  | some (.text usage) => return ascii "usage: " ++ usage ++ ['\n']
  | _ =>
    let whole := ((name :: options ++ alone).intersperse [' ']).flatten
    if whole.length + 7 ≤ 78 then return ascii "usage: " ++ whole ++ ['\n']
    else
      let margin := name.length + 8
      let gap := '\n' :: List.replicate margin ' '
      let lines := pieceLines 78 margin options ++ pieceLines 78 margin alone
      return ascii "usage: " ++ name ++ [' '] ++ (lines.intersperse gap).flatten ++ ['\n']

/-- What a program tells of its arguments. -/
def helpText (caller : Caller) (self : Value) : Running (List Char) := do
  let all ← descriptionOf self
  let paragraph (name : String) : Running (List Char) := do
    match ← fieldOf? self name with
    | some (.text text) =>
      return '\n' :: ((wrapped { width := 78 } text).intersperse ['\n']).flatten ++ ['\n']
    | _ => return []
  let rows (entries : List Described) : Running (List (List Char × List Char)) :=
    entries.mapM fun described => do
      let words ← wordsShown caller described
      let names :=
        if described.flags.isEmpty then []
        else
          described.flags.map fun flag => if described.takesWords then flag ++ [' '] ++ words else flag
      let head ← if described.flags.isEmpty then labelOf caller described
        else pure (names.intersperse [',', ' ']).flatten
      let help ← match described.help with
        | .text text =>
          let fields := [("default", described.usual), ("prog", Value.text (← usedName self)),
            ("dest", Value.text described.target)]
          match ← attempt (do
              let table ← make (.table .plain (← withPairs {} (namedPairs fields)))
              operate caller .remainder (.text text) table) with
          | .ok (.text text) => pure text
          | _ => pure text
        | _ => pure []
      return (head, help)
  let alone ← rows (all.filter fun described => described.flags.isEmpty)
  let options ← rows (all.filter fun described => !described.flags.isEmpty)
  let widest := ((alone ++ options).map fun row => row.1.length + 4).foldl max 0
  let column := min widest 24
  let block (title : String) (rows : List (List Char × List Char)) : List Char :=
    if rows.isEmpty then []
    else
      ascii ("\n" ++ title ++ ":\n") ++ (rows.map fun (head, help) =>
        let lines := wrapped { width := max 11 (78 - column) } help
        let gap := '\n' :: List.replicate column ' '
        let body := (lines.intersperse gap).flatten
        if help.isEmpty then ascii "  " ++ head ++ ['\n']
        else if head.length + 4 ≤ column then
          ascii "  " ++ head ++ List.replicate (column - 2 - head.length) ' ' ++ body ++ ['\n']
        else ascii "  " ++ head ++ gap ++ body ++ ['\n']).flatten
  return (← usageText caller self) ++ (← paragraph "description") ++ block "positional arguments" alone
    ++ block "options" options ++ (← paragraph "epilog")

/-- Tells what is wrong with the words that a program was started with, and ends. -/
def refuseWords {α : Type} (caller : Caller) (self : Value) (message : List Char) : Running α := do
  writeError (← usageText caller self)
  writeError ((← usedName self) ++ ascii ": error: " ++ message ++ ['\n'])
  leave (.int 2)

/-- A word as the value that an argument asks for. -/
def wordValue (caller : Caller) (self : Value) (described : Described) (word : List Char) :
    Running Value := do
  let label ← labelOf caller described
  let refuse {α : Type} (message : List Char) : Running α :=
    refuseWords caller self (ascii "argument " ++ described.name label ++ ascii ": " ++ message)
  let value ← match described.type with
    | .nothing => pure (Value.text word)
    | type => do
      match ← attempt (caller.call type [.text word] []) with
      | .ok value => pure value
      | .error (.raised exception) =>
        let isPlain := (← isException exception "ValueError") || (← isException exception "TypeError")
        if isPlain then
          let name ← match ← attempt (memberOf caller type "__name__") with
            | .ok (.text name) => pure name
            | _ => shown caller type
          refuse (ascii "invalid " ++ name ++ ascii " value: " ++ Show.quoted false word)
        else throw (.raised exception)
      | .error leaving => throw leaving
  match described.choices with
  | none => return value
  | some choices =>
    let isIn ← choices.anyM (equal caller value)
    if isIn then return value
    else
      let texts ← choices.mapM (shown caller)
      refuse (ascii "invalid choice: " ++ (← shown caller value) ++ ascii " (choose from "
        ++ Show.commas texts ++ [')'])

/-- Gives words to an argument. -/
def giveWords (caller : Caller) (self : Value) (state : Assigning) (described : Described)
    (words : List (List Char)) : Running Assigning := do
  let before := ((state.values.find? fun entry => entry.1 = described.target).map Prod.snd).getD .nothing
  let put (value : Value) : Assigning :=
    let values :=
      if state.values.any fun entry => entry.1 = described.target then
        state.values.map fun entry => if entry.1 = described.target then (entry.1, value) else entry
      else state.values ++ [(described.target, value)]
    { state with values := values, seen := described.target :: state.seen }
  let row : Running Value := do
    let values ← words.mapM (wordValue caller self described)
    match described.count, values with
    | .nothing, [value] => return value
    | .text ['?'], [value] => return value
    | .text ['?'], [] => return if described.flags.isEmpty then described.usual else described.fixed
    | .text ['*'], [] =>
      if described.flags.isEmpty then
        match described.usual with
        | .nothing => list []
        | usual => return usual
      else list []
    | _, values => list values
  let more (added : List Value) : Running Assigning := do
    let known ← match before with
      | .nothing => pure []
      | before => items caller before
    return put (← list (known ++ added))
  match String.ofList described.action with
  | "store_true" => return put (.bool true)
  | "store_false" => return put (.bool false)
  | "store_const" => return put described.fixed
  | "count" => return put (.int ((int? before).getD 0 + 1))
  | "append" => more [← row]
  | "append_const" => more [described.fixed]
  | "extend" => more (← items caller (← row))
  | "help" =>
    writeStream caller (← streamOf "sys.stdout") (← helpText caller self)
    leave (.int 0)
  | "version" =>
    match described.version with
    | .text text =>
      let name ← usedName self
      let text := Chars.replaceAll (ascii "%(prog)s") name none text
      writeStream caller (← streamOf "sys.stdout") (text ++ ['\n'])
    | _ => pure ()
    leave (.int 0)
  | "flag" => return put (.bool true)
  | _ => return put (← row)

/-- The argument that a word with a flag stands for, with the word behind an equals sign. -/
def flagged? (caller : Caller) (self : Value) (all : List Described) (word : List Char) :
    Running (Option (Described × List Char × Option (List Char))) := do
  let head := word.takeWhile (· != '=')
  let tail := if head.length < word.length then some (word.drop (head.length + 1)) else none
  let exact (flag : List Char) : Option Described := all.find? fun described => described.flags.contains flag
  match exact word with
  | some described => return some (described, word, none)
  | none =>
    match exact head with
    | some described => return some (described, head, tail)
    | none =>
      if ['-', '-'].isPrefixOf word then
        let near := all.flatMap fun described =>
          (described.flags.filter fun flag => head.isPrefixOf flag).map fun flag => (described, flag)
        match near with
        | [(described, flag)] => return some (described, flag, tail)
        | [] => return none
        | several =>
          refuseWords caller self (ascii "ambiguous option: " ++ word ++ ascii " could match "
            ++ Show.commas (several.map Prod.snd))
      else
        match exact (word.take 2) with
        | some described => return some (described, word.take 2, some (word.drop 2))
        | none => return none

/-- Whether a word begins like a flag. -/
def looksFlagged (all : List Described) (word : List Char) : Bool :=
  match word with
  | '-' :: _ :: _ =>
    let isNumber := (readFloat word).isSome
    !isNumber && (!word.contains ' ' || all.any fun described => described.flags.contains word)
  | _ => false

/-- Gives a row of words to the arguments that wait for some. -/
def giveRow (caller : Caller) (self : Value) (state : Assigning) (row : List (List Char)) :
    Running Assigning := do
  let fitting := (List.range (state.waiting.length + 1)).filter fun count =>
    ((state.waiting.take count).map fun described => described.bounds.1).foldl (· + ·) 0 ≤ row.length
  let taken := state.waiting.take (fitting.getLast?.getD 0)
  let rec share : List Described → List (List Char) → Assigning → Running (Assigning × List (List Char))
    | [], rest, state => return (state, rest)
    | described :: later, rest, state => do
      let needed := (later.map fun other => other.bounds.1).foldl (· + ·) 0
      let room := rest.length - needed
      let count := match described.bounds.2 with
        | some most => min most room
        | none => room
      let state ← giveWords caller self state described (rest.take count)
      share later (rest.drop count) state
  let state := { state with waiting := state.waiting.drop taken.length }
  let (state, rest) ← share taken row state
  return { state with extras := state.extras ++ rest }

/-- Gives all words to arguments.  Each step takes a word. -/
def giveAll (caller : Caller) (self : Value) (all : List Described) :
    Nat → Assigning → List (List Char) → Running Assigning
  | 0, state, _ => return state
  | _ + 1, state, [] => return state
  | fuel + 1, state, word :: rest => do
    if word = ['-', '-'] then giveRow caller self state rest
    else if looksFlagged all word then
      match ← flagged? caller self all word with
      | none => giveAll caller self all fuel { state with extras := state.extras ++ [word] } rest
      | some (described, flag, tail) =>
        let label ← labelOf caller described
        let refuse (message : String) : Running Assigning :=
          refuseWords caller self (ascii "argument " ++ described.name label ++ ascii (": " ++ message))
        if !described.takesWords then
          match tail with
          | none => giveAll caller self all fuel (← giveWords caller self state described []) rest
          | some more =>
            if flag.length = 2 && flag != ['-', '-'] && word.head? = some '-' && !word.contains '=' then
              let state ← giveWords caller self state described []
              giveAll caller self all fuel state (('-' :: more) :: rest)
            else
              refuseWords caller self (ascii "argument " ++ described.name label
                ++ ascii ": ignored explicit argument " ++ Show.quoted false more)
        else
          match tail with
          | some more =>
            giveAll caller self all fuel (← giveWords caller self state described [more]) rest
          | none =>
            let plainWords := rest.takeWhile fun word => !looksFlagged all word && word != ['-', '-']
            let (least, most) := described.bounds
            let words := match most with
              | some most => plainWords.take most
              | none => plainWords
            if words.length < least then
              refuse (match described.count with
                | .nothing => "expected one argument"
                | .text ['+'] => "expected at least one argument"
                | _ => "expected " ++ toString least ++ " argument" ++ (if least = 1 then "" else "s"))
            else
              let state ← giveWords caller self state described words
              giveAll caller self all fuel state (rest.drop words.length)
    else
      let row := (word :: rest).takeWhile fun word => !looksFlagged all word && word != ['-', '-']
      let state ← giveRow caller self state row
      giveAll caller self all fuel state ((word :: rest).drop row.length)

/-- Gives the words that a program was started with to its arguments, and gives the rest of them. -/
def readWords (caller : Caller) (self : Value) (words : List (List Char)) :
    Running (Value × List (List Char)) := do
  let all ← descriptionOf self
  let hasTarget (described : Described) : Bool :=
    described.action != ascii "help" && described.action != ascii "version"
  let defaults : List (List Char × Value) ← (all.filter hasTarget).filterMapM fun described => do
    let value := match String.ofList described.action, described.usual with
      | "store_true", .nothing => Value.bool false
      | "store_false", .nothing => Value.bool true
      | _, usual => usual
    let value ← match value, described.type with
      | .text word, type =>
        match type with
        | .nothing => pure value
        | _ => wordValue caller self { described with choices := none } word
      | value, _ => pure value
    return some (described.target, value)
  let set ← match ← fieldOf? self "_defaults" with
    | some (.object number) => do
      match ← objectAt number with
      | .table _ table => pure (table.entries.filterMap fun (key, value) =>
          match key with
          | .text name => some (name, value)
          | _ => none)
      | _ => pure []
    | _ => pure []
  let defaults := defaults ++ set.filter fun entry => !defaults.any fun other => other.1 = entry.1
  let distinctDefaults := defaults.foldl (fun (kept : List (List Char × Value)) entry =>
    if kept.any fun other => other.1 = entry.1 then kept else kept ++ [entry]) []
  let start : Assigning :=
    { waiting := all.filter fun described => described.flags.isEmpty, values := distinctDefaults }
  let state ← giveAll caller self all (words.length * 40 + words.flatten.length + 10) start words
  let state ← giveRow caller self state []
  let missing ← (all.filter fun described =>
      (described.isRequired && !state.seen.contains described.target)
        || (described.flags.isEmpty && state.waiting.any fun other => other.target = described.target)).mapM
    fun described => do return described.name (← labelOf caller described)
  if !missing.isEmpty then
    refuseWords caller self (ascii "the following arguments are required: " ++ Show.commas missing)
  let type ← libraryType "argparse.Namespace" ["__repr__", "__contains__"]
  let space ← make (.record type (state.values.map fun (name, value) => (String.ofList name, value)))
  return (space, state.extras)

/-- The functions of a description of arguments. -/
def describerFunctions : List String :=
  ["__init__", "add_argument", "parse_args", "parse_known_args", "print_help", "print_usage",
   "format_help", "format_usage", "error", "exit", "add_argument_group", "add_mutually_exclusive_group",
   "set_defaults"]

/-- Calls a function of the library for arguments. -/
def callArguments (caller : Caller) (name : String) (arguments : List Value)
    (named : List (String × Value)) : Running Value := do
  let self := (arguments.head?).getD .nothing
  let words : Running (List (List Char)) := do
    let source ← match (arguments[1]?).or ((named.find? fun entry => entry.1 = "args").map Prod.snd) with
      | some .nothing => setting? "sys.argv"
      | some value => pure (some value)
      | none => setting? "sys.argv"
    let isGiven := 1 < arguments.length || named.any fun entry => entry.1 = "args"
    let values ← items caller (source.getD .nothing)
    (if isGiven then values else values.drop 1).mapM (plain caller)
  match name with
  | "ArgumentParser" =>
    let type ← libraryType "argparse.ArgumentParser" describerFunctions
    caller.call type arguments named
  | "Namespace" =>
    let type ← libraryType "argparse.Namespace" ["__repr__", "__contains__"]
    make (.record type named)
  | "ArgumentParser.__init__" =>
    match self with
    | .object number =>
      let helpFlag := [("flags", Value.tuple [.text (ascii "-h"), .text (ascii "--help")]),
        ("action", .text (ascii "help")), ("dest", .text (ascii "help")),
        ("help", .text (ascii "show this help message and exit"))]
      let addsHelp ← match (named.find? fun entry => entry.1 = "add_help").map Prod.snd with
        | some value => truth caller value
        | none => pure true
      let rows ← if addsHelp then do
          pure [← make (.table .plain (← withPairs {} (namedPairs helpFlag)))]
        else pure []
      let names := ["prog", "usage", "description", "epilog"]
      for (name, value) in names.zip (arguments.drop 1) do putField number name value
      for (name, value) in named do putField number name value
      putField number "_described" (← list rows)
      putField number "_defaults" (← make (.table .plain {}))
      return .nothing
    | _ => return .nothing
  | "ArgumentParser.add_argument" =>
    match ← fieldOf? self "_described" with
    | some rows =>
      let pairs := ("flags", Value.tuple (arguments.drop 1)) :: named
      let row ← make (.table .plain (← withPairs {} (namedPairs pairs)))
      let _ ← caller.call (.method rows "append") [row] []
      return row
    | none => return .nothing
  | "ArgumentParser.add_argument_group" => return self
  | "ArgumentParser.add_mutually_exclusive_group" => return self
  | "ArgumentParser.set_defaults" =>
    match ← fieldOf? self "_defaults" with
    | some table =>
      let _ ← caller.call (.method table "update") [] named
      return .nothing
    | none => return .nothing
  | "ArgumentParser.parse_args" =>
    let (space, extras) ← readWords caller self (← words)
    if extras.isEmpty then return space
    else
      refuseWords caller self (ascii "unrecognized arguments: " ++ (extras.intersperse [' ']).flatten)
  | "ArgumentParser.parse_known_args" =>
    let (space, extras) ← readWords caller self (← words)
    return .tuple [space, ← list (extras.map Value.text)]
  | "ArgumentParser.format_help" => return .text (← helpText caller self)
  | "ArgumentParser.format_usage" => return .text (← usageText caller self)
  | "ArgumentParser.print_help" =>
    writeStream caller ((arguments[1]?).getD (← streamOf "sys.stdout")) (← helpText caller self)
    return .nothing
  | "ArgumentParser.print_usage" =>
    writeStream caller ((arguments[1]?).getD (← streamOf "sys.stdout")) (← usageText caller self)
    return .nothing
  | "ArgumentParser.error" =>
    refuseWords caller self (← plain caller ((arguments[1]?).getD .nothing))
  | "ArgumentParser.exit" =>
    match (arguments[2]? : Option Value) with
    | some (.text text) => writeError text
    | _ => pure ()
    leave ((arguments[1]?).getD (.int 0))
  | "Namespace.__repr__" =>
    match ← object? self with
    | some (.record _ fields) =>
      let texts ← fields.mapM fun (name, value) => do
        return name.toList ++ ['='] ++ (← shown caller value)
      return .text (ascii "Namespace(" ++ Show.commas texts ++ [')'])
    | _ => return .text []
  | "Namespace.__contains__" =>
    match (arguments[1]? : Option Value) with
    | some (.text name) => return .bool (← fieldOf? self (String.ofList name)).isSome
    | _ => return .bool false
  | name => failMember (.library "argparse") name

end Running

end SchemaDocs.Shell.Indent
