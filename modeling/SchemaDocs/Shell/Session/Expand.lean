import SchemaDocs.Shell.Script.Basic
import SchemaDocs.Shell.Session.Values
/-!
# What words stand for

Parameters, the output of commands and arithmetic expressions are put in their places.
Outside quotes the result is cut into fields, and fields that are patterns of names are
replaced by the names that they match.
-/

namespace SchemaDocs.Shell

namespace Expansion

/-! ## Parts of words -/

/-- The least number under which a process is read or written by way of a path. -/
def firstReader : Nat := 50

/-- The greatest number under which a process is read or written by way of a path. -/
def lastReader : Nat := 63

/-- Lets a number that is free lead to an open file, and gives the path for it. -/
def readerPath (channel : Nat) : Action ByteText := do
  let taken := (← Action.session).descriptors.map Prod.fst
  let free := (List.range (lastReader + 1)).reverse.find? fun number => !taken.contains number
  let number := free.getD lastReader
  Action.setDescriptor number (some channel)
  return ascii "/dev/fd/" ++ ByteText.ofNat number

/-- The path under which what commands write can be read, or what they read can be written. -/
def processPath (interpreter : Interpreter) (isRead : Bool) (commands : List Command) :
    Action ByteText := do
  if isRead then
    let stream ← Action.streamed fun sink =>
      Action.apartWith interpreter 1 sink (commands.forM (interpreter.run false))
    readerPath stream.channel
  else
    let sink ← Action.system (System.add (.sink [] .ended))
    Action.change fun session => { session with readers := (sink, commands) :: session.readers }
    readerPath sink

/-- Runs the commands that read what was written for them. -/
def finishReaders (interpreter : Interpreter) : Action Unit := do
  let readers := (← Action.session).readers.reverse
  Action.change fun session => { session with readers := [] }
  readers.forM fun (sink, commands) => do
    let (text, tail) ← Action.system (System.collected sink)
    let input ← Action.system (System.add (.source text tail 0))
    let _ ← Action.apartWith interpreter 0 input (commands.forM (interpreter.run false))

/-- The value of an arithmetic expression. -/
def calculated (text : ByteText) : Action Int64 := do
  if ← Action.isBash then
    match ← Calculation.evaluate? none text with
    | some value => return value
    | none =>
      Action.setStatus 1
      throw .passLine
  else Arithmetic.evaluate text

/-- What a part of a word stands for. -/
def part (interpreter : Interpreter) : WordPart → Action (List Piece)
  | .text chars isQuoted => return [.fixed (marked chars isQuoted)]
  | .parameter name isQuoted => parameter name isQuoted
  | .expansion reference operation isQuoted => do
    match (← Action.session).dialect, reference with
    | .sh, .named name => operated interpreter name operation isQuoted
    | _, reference => expansion interpreter reference operation isQuoted
  | .misuse source =>
    Action.failByDialect (ascii "Bad substitution") (source ++ ascii ": bad substitution")
  | .output commands isQuoted => do
    let text ← Action.captured interpreter (commands.forM (interpreter.run false))
    return [Piece.ofText isQuoted text]
  | .arithmetic expression isQuoted => do
    let text := unmarked (← wordText interpreter expression)
    let value ← calculated text
    return [Piece.ofText isQuoted (ByteText.ofInt value.toInt)]
  | .process isRead commands => do
    return [.fixed (marked (← processPath interpreter isRead commands) true)]
  | .bracket inner => do
    let inner ← wordText interpreter inner
    return [.fixed ([('[', false)] ++ inner ++ [(']', false)])]
  | .elements _ => return []

/-- What a word stands for. -/
def pieces (interpreter : Interpreter) (word : Word) : Action (List Piece) := do
  let parts ← word.mapM (part interpreter)
  return parts.flatten

/-! ## Tildes -/

/-- The directory that a tilde with a name stands for. -/
def homeOf? (name : ByteText) : Action (Option ByteText) := do
  if name.isEmpty then Action.value? (ascii "HOME")
  else if name = ascii "root" then return some (ascii "/root")
  else if name = ['+'] && (← Action.isBash) then Action.value? (ascii "PWD")
  else if name = ['-'] && (← Action.isBash) then Action.value? (ascii "OLDPWD")
  else return none

/-- A text that no quotes surround, with the tilde at its start replaced.  The name behind it has to
end within the text, unless the text is the end of the word. -/
def replaceTilde (isLast : Bool) (endsName : Char → Bool) (text : ByteText) :
    Action (List WordPart) := do
  match text with
  | '~' :: rest =>
    let name := rest.takeWhile fun c => !endsName c
    let after := rest.drop name.length
    if after.isEmpty && !isLast then return [.text text false]
    else
      match ← homeOf? name with
      | some home => return [.text home true, .text after false]
      | none => return [.text text false]
  | _ => return [.text text false]

/-- A word with the tilde at its start replaced. -/
def withTilde : Word → Action Word
  | .text text false :: rest => do
    if text.head? = some '~' then
      return (← replaceTilde rest.isEmpty (· = '/') text) ++ rest
    else return .text text false :: rest
  | word => return word

/-- Pieces of a text between colons, with their tildes replaced. -/
def replaceTildes (isLast : Bool) : List ByteText → Action (List WordPart)
  | [] => return []
  | [text] => replaceTilde isLast (· = '/') text
  | text :: rest => do
    let first ← replaceTilde true (· = '/') text
    return first ++ [.text [':'] false] ++ (← replaceTildes isLast rest)

/-- Whether a part is text that no quotes surround with a tilde in it. -/
def hasTilde : WordPart → Bool
  | .text text false => text.contains '~'
  | _ => false

/-- The value of an assignment with tildes replaced at its start and after colons. -/
def withTildes (isFirst : Bool) : Word → Action Word
  | [] => return []
  | .text text false :: rest => do
    let rest' ← withTildes false rest
    if hasTilde (.text text false) then
      match ByteText.splitAt ':' text with
      | [] => return rest'
      | first :: others =>
        let others' ← replaceTildes rest.isEmpty others
        let colon : List WordPart := if others.isEmpty then [] else [.text [':'] false]
        let first' ←
          if isFirst then replaceTilde (rest.isEmpty || !others.isEmpty) (· = '/') first
          else pure [.text first false]
        return first' ++ colon ++ others' ++ rest'
    else return .text text false :: rest'
  | part :: rest => do return part :: (← withTildes false rest)

/-! ## Names of files -/

/-- Cuts a marked text at slashes. -/
def splitPath (text : MarkedText) : List MarkedText :=
  let cut := text.foldl
    (fun (pieces, piece) c =>
      if c.1 = '/' then (piece.reverse :: pieces, []) else (pieces, c :: piece))
    (([] : List MarkedText), ([] : MarkedText))
  (cut.2.reverse :: cut.1).reverse

/-- The names in a directory, in order. -/
def namesIn (path : ByteText) : Action (List ByteText) := do
  let session ← Action.session
  let world ← Action.system get
  match world.tree.locate session.directory (if path.isEmpty then "." else path.toString) with
  | .error _ => return []
  | .ok place =>
    if place.kind = .directory then
      let names := (world.tree.namesIn place.steps).map ByteText.ofString
      return (ascii "." :: ascii ".." :: names).mergeSort ByteText.isBefore
    else return []

/-- The names in a directory that a pattern matches.  The directory itself and the one above it are
not among them in the shell with more features. -/
def matching (glob : Glob) (path : ByteText) : Action (List ByteText) := do
  let names ← namesIn path
  if ← Action.isBash then
    let names := names.filter fun name => name != ascii "." && name != ascii ".."
    if ← Action.hasFeature "dotglob" then return names.filter glob.matchesAll
    else return names.filter glob.matchesName
  else return names.filter glob.matchesName

/-- The paths that a pattern stands for.  Each step takes a name of it. -/
def pathsFrom (rules : GlobRules) (before : ByteText) : List MarkedText → Action (List ByteText)
  | [] => return []
  | [last] => do
    let glob := Glob.ofMarked rules last
    if glob.isPlain then
      let path := before ++ glob.filterMap fun item =>
        match item with
        | .char c => some c
        | _ => none
      if (← Action.program (Program.placeAt true path)).isNone then return [] else return [path]
    else
      return (← matching glob before).map (before ++ ·)
  | name :: rest => do
    let glob := Glob.ofMarked rules name
    if glob.isPlain then
      pathsFrom rules (before ++ unmarked name ++ ['/']) rest
    else
      let found ← (← matching glob before).mapM fun name =>
        pathsFrom rules (before ++ name ++ ['/']) rest
      return found.flatten

/-- Whether a field may be a pattern of names. -/
def mayBePattern (rules : GlobRules) : MarkedText → Bool
  | [] => false
  | (c, isQuoted) :: rest =>
    (!isQuoted && (c = '*' || c = '?' || c = '['
      || (rules.hasGroups && (GroupKind.ofChar? c).isSome && rest.head? = some ('(', false))))
      || mayBePattern rules rest

/-- The texts that a field stands for: the names that it matches, or itself. -/
def names (field : MarkedText) : Action (List ByteText) := do
  let rules ← globRules
  if mayBePattern rules field && !(← Action.hasOption 'f') then
    match ← pathsFrom rules [] (splitPath field) with
    | [] =>
      if ← Action.hasFeature "nullglob" then return []
      else if ← Action.hasFeature "failglob" then
        Action.passLine (ascii "no match: " ++ unmarked field)
      else return [unmarked field]
    | paths => return paths.mergeSort ByteText.isBefore
  else return [unmarked field]

/-! ## Whole words -/

/-- The fields that a word stands for in which braces mean nothing. -/
def fieldsOf (interpreter : Interpreter) (word : Word) : Action (List ByteText) := do
  let pieces ← pieces interpreter (← withTilde word)
  let fields := Piece.fields (← Action.separators) pieces
  return (← fields.mapM names).flatten

/-- The fields that a word stands for. -/
def fields (interpreter : Interpreter) (word : Word) : Action (List ByteText) := do
  match WordPart.plainText? word with
  | some text =>
    if text.all isNameChar && !text.isEmpty then return [text]
  | none => pure ()
  if (← Action.isBash) && (← Action.hasOption 'B') then
    return (← (Braces.expand word).mapM (fieldsOf interpreter)).flatten
  else fieldsOf interpreter word

/-- The one text that a word stands for, where nothing is cut. -/
def text (interpreter : Interpreter) (word : Word) : Action ByteText := do
  return unmarked (← plainOf (← pieces interpreter (← withTilde word)))

/-- The value that is assigned by a word. -/
def assigned (interpreter : Interpreter) (word : Word) : Action ByteText := do
  return unmarked (← plainOf (← pieces interpreter (← withTildes true word)))

/-- The pattern that a word stands for. -/
def pattern (interpreter : Interpreter) (word : Word) : Action Glob := do
  return Glob.ofMarked (← globRules) (← plainOf (← pieces interpreter (← withTilde word)))

end Expansion

end SchemaDocs.Shell

/-!
## Assignments

What assignments give to variables and to places in arrays.  Where a variable is marked as
a number its values are worked out first.
-/

namespace SchemaDocs.Shell

namespace Assignment

/-- A value that was worked out, if the variable is marked as a number. -/
def prepared (isNumber : Bool) (text : ByteText) : Action ByteText := do
  if !isNumber then return text
  else
    match ← Calculation.evaluate? (← Action.session).commandName text with
    | some value => return ByteText.ofInt value.toInt
    | none =>
      Action.setStatus 1
      throw .passLine

/-- A value behind another one: the sum of both if they are numbers. -/
def appended (isNumber : Bool) (old text : ByteText) : Action ByteText := do
  if isNumber then
    prepared true ((if old.isEmpty then ['0'] else old) ++ ['+', '('] ++ text ++ [')'])
  else return old ++ text

/-- Gives a variable or a place in an array a value, or puts it behind the one there. -/
def assignText (name : ByteText) (place : Option ElementPlace) (appends : Bool)
    (text : ByteText) : Action Unit := do
  let known := (← Action.variableOf? name).getD {}
  let text ←
    if appends then
      let old ← match place with
        | some place => Expansion.elementAt? name place
        | none => Action.value? name
      appended known.isNumber (old.getD []) text
    else prepared known.isNumber text
  Action.assignAt name place text

/-- The elements of a list after words were put behind them. -/
def extended (entries : List (Nat × ByteText)) (texts : List ByteText) : List (Nat × ByteText) :=
  let next := (Elements.list entries).next
  entries ++ texts.zipIdx.map fun (text, n) => (next + n, text)

/-- Elements with one more item of an assignment, and the number behind the item. -/
def withItem (interpreter : Interpreter) (name : ByteText) (isNumber : Bool)
    (state : Elements × Nat) (item : Option Word × Bool × Word) : Action (Elements × Nat) := do
  let (elements, next) := state
  match item with
  | (none, _, word) =>
    let texts ← (← Expansion.fields interpreter word).mapM (prepared isNumber)
    match elements with
    | .list entries =>
      if (Elements.list entries).next ≤ next then
        let added := texts.zipIdx.map fun (text, n) => (next + n, text)
        return (.list (entries ++ added), next + texts.length)
      else
        return (texts.zipIdx.foldl
          (fun elements (text, n) => elements.insert (.number (next + n)) text) elements,
          next + texts.length)
    | .table _ => return (elements, next)
  | (some place, appends, word) =>
    let text ← Expansion.assigned interpreter word
    let place ←
      match elements with
      | .table _ => pure (ElementPlace.key (← Expansion.subscriptText interpreter place))
      | .list _ => Expansion.placeOf interpreter name place
    let text ←
      if appends then appended isNumber ((elements.get? place).getD []) text
      else prepared isNumber text
    let next := match place with
      | .number n => n + 1
      | .key _ => next
    return (elements.insert place text, next)

/-- The texts under keys of which each second one is a key. -/
def paired (elements : Elements) : List ByteText → Elements
  | key :: value :: rest => paired (elements.insert (.key key) value) rest
  | [key] => elements.insert (.key key) []
  | [] => elements

/-- Gives a variable elements, or puts them behind those there. -/
def assignElements (interpreter : Interpreter) (name : ByteText) (appends : Bool)
    (items : List (Option Word × Bool × Word)) : Action Unit := do
  let known := (← Action.variableOf? name).getD {}
  let before : Elements :=
    match known.elements, appends with
    | some elements, true => elements
    | some (.table _), false => .table []
    | some (.list _), false => .list []
    | none, true => .list ((known.value.map fun text => [(0, text)]).getD [])
    | none, false => .list []
  match before, items with
  | .table _, (none, _) :: _ =>
    let texts ← items.mapM fun (_, _, word) => Expansion.assigned interpreter word
    Action.assignElements name (paired before texts)
  | _, _ =>
    let (elements, _) ←
      items.foldlM (withItem interpreter name known.isNumber) (before, before.next)
    Action.assignElements name elements

/-- Makes an assignment. -/
def perform (interpreter : Interpreter) : Assignment → Action Unit
  | .assign name place appends value => do
    match value with
    | [.elements items] =>
      match place with
      | none => assignElements interpreter name appends items
      | some place =>
        let text ← Expansion.subscriptText interpreter place
        Action.passLine (name ++ ['['] ++ text ++ ascii "]: cannot assign list to array member")
    | value =>
      let text ← Expansion.assigned interpreter value
      let place ← match place with
        | some place => pure (some (← Expansion.placeOf interpreter name place))
        | none => pure none
      assignText name place appends text

/-- The name of the variable of an assignment. -/
def name : Assignment → ByteText
  | .assign name .. => name

end Assignment

end SchemaDocs.Shell

/-!
## Redirections

Descriptors are led to files, to other descriptors or to text that follows the command.
All words are worked out before the first file is opened.
-/

namespace SchemaDocs.Shell

/-- A redirection whose word was worked out. -/
inductive Target where
  | input (descriptor : Nat) (path : ByteText)
  | output (descriptor : Nat) (path : ByteText) (overwrites : Bool)
  | append (descriptor : Nat) (path : ByteText)
  | both (descriptor : Nat) (path : ByteText)
  /-- The output and the messages. -/
  | everything (path : ByteText) (appends : Bool)
  | copy (descriptor source : Nat)
  /-- To where another descriptor leads, which leads nowhere then. -/
  | move (descriptor source : Nat)
  | close (descriptor : Nat)
  | text (descriptor : Nat) (text : ByteText)

namespace Redirection

/-- The reason that a file cannot be opened, as shells give it. -/
def reason (missing : String) (cause : FileError) : ByteText :=
  if cause = .notFound || cause = .notADirectory then ascii missing else ascii cause.reason

/-- The path that a word stands for, of which there has to be one. -/
def path (interpreter : Interpreter) (word : Word) : Action ByteText := do
  if ← Action.isBash then
    match ← Expansion.fields interpreter word with
    | [path] => return path
    | _ => Action.failWith 1 (WordPart.written word ++ ascii ": ambiguous redirect")
  else Expansion.text interpreter word

/-- What a descriptor is led to by the number of another one, or by a word that may be a path. -/
def copied (descriptor : Nat) (isInput : Bool) (text : ByteText) : Action Target := do
  let isBash ← Action.isBash
  let isMove := isBash && 1 < text.length && text.getLast? = some '-'
  let digits := if isMove then text.dropLast else text
  if text = ['-'] then return .close descriptor
  else
    match ByteText.toNat? digits with
    | some number =>
      if isMove then return .move descriptor number
      else if isBash || text.length = 1 then return .copy descriptor number
      else Action.fail (ascii "Syntax error: Bad fd number")
    | none =>
      if isBash then
        if isInput || descriptor != 1 then
          Action.failWith 1 (text ++ ascii ": ambiguous redirect")
        else return .everything text false
      else Action.fail (ascii "Syntax error: Bad fd number")

/-- Works out the word of a redirection. -/
def target (interpreter : Interpreter) : Redirect → Action Target
  | .input descriptor word => do return .input descriptor (← path interpreter word)
  | .output descriptor word overwrites => do
    return .output descriptor (← path interpreter word) overwrites
  | .append descriptor word => do return .append descriptor (← path interpreter word)
  | .both descriptor word => do return .both descriptor (← path interpreter word)
  | .everything word appends => do return .everything (← path interpreter word) appends
  | .copy descriptor isInput source => do
    copied descriptor isInput (← Expansion.text interpreter source)
  | .document descriptor number => do
    let word := ((← Action.session).documents.find? fun entry => entry.1 = number).map Prod.snd
    let pieces ← Expansion.pieces interpreter (word.getD [])
    return .text descriptor (unmarked (← Expansion.plainOf pieces))
  | .text descriptor word => do
    return .text descriptor ((← Expansion.text interpreter word) ++ ['\n'])

/-- Leads a descriptor to a file that was opened, or tells why it was not. -/
def lead (descriptor : Nat) (path : ByteText) (verb missing : String)
    (opened : Except FileError Nat) : Action Bool := do
  match opened with
  | .ok channel =>
    Action.setDescriptor descriptor (some channel)
    return true
  | .error cause =>
    match (← Action.session).dialect with
    | .sh =>
      Action.warn (ascii "cannot " ++ ascii verb ++ [' '] ++ path ++ ascii ": "
        ++ reason missing cause)
    | .bash =>
      let reason :=
        if cause = .exists then "cannot overwrite existing file" else cause.reason
      Action.warn (path ++ ascii ": " ++ ascii reason)
    return false

/-- Leads a descriptor to where another one leads, and tells whether that worked. -/
def copyTo (descriptor source : Nat) : Action Bool := do
  match ← Action.channelOf? source with
  | some channel =>
    Action.setDescriptor descriptor (some channel)
    return true
  | none =>
    Action.warn (ByteText.ofNat source ++ ascii ": Bad file descriptor")
    return false

/-- Redirects a descriptor, and tells whether that worked. -/
def apply : Target → Action Bool
  | .input descriptor path => do
    lead descriptor path "open" "No such file" (← Action.program (Program.openInput path))
  | .output descriptor path overwrites => do
    let isThere := (← Action.program (Program.kindOf path)) = .file
    if isThere && !overwrites && (← Action.hasOption 'C') then
      lead descriptor path "create" "Directory nonexistent" (.error .exists)
    else
      lead descriptor path "create" "Directory nonexistent"
        (← Action.program (Program.openOutput path false))
  | .append descriptor path => do
    lead descriptor path "create" "Directory nonexistent"
      (← Action.program (Program.openOutput path true))
  | .both descriptor path => do
    lead descriptor path "create" "Directory nonexistent"
      (← Action.program (Program.openBoth path))
  | .everything path appends => do
    if ← lead 1 path "create" "Directory nonexistent"
        (← Action.program (Program.openOutput path appends)) then copyTo 2 1
    else return false
  | .copy descriptor source => copyTo descriptor source
  | .move descriptor source => do
    if ← copyTo descriptor source then
      if descriptor != source then Action.setDescriptor source none
      return true
    else return false
  | .close descriptor => do
    Action.setDescriptor descriptor none
    return true
  | .text descriptor text => do
    let channel ← Action.system (System.add (.source text .ended 0))
    Action.setDescriptor descriptor (some channel)
    return true

/-- Redirects descriptors one after the other as long as that works. -/
def applyAll : List Target → Action Bool
  | [] => return true
  | first :: rest => do
    if ← apply first then applyAll rest else return false

/-- Redirects descriptors one after the other, each after its word was worked out. -/
def applyEach (interpreter : Interpreter) : List Redirect → Action Bool
  | [] => return true
  | first :: rest => do
    match ← Action.tried (target interpreter first) with
    | .ok target => if ← apply target then applyEach interpreter rest else return false
    | .error .fault => return false
    | .error jump => throw jump

/-- Redirects descriptors and tells whether that worked. -/
def redirect (interpreter : Interpreter) (redirects : List Redirect) : Action Bool := do
  if redirects.isEmpty then return true
  else if ← Action.isBash then applyEach interpreter redirects
  else applyAll (← redirects.mapM (target interpreter))

/-- The status after a redirection that did not work. -/
def faultStatus : Action Nat := do return if ← Action.isBash then 1 else 2

/-- Runs a step and then lets all descriptors lead to where they led before. -/
def restored {α : Type} (step : Action α) : Action α := do
  let before := (← Action.session).descriptors
  let result ← Action.tried step
  Action.change fun session => { session with descriptors := before }
  Action.resume result

end Redirection

end SchemaDocs.Shell
