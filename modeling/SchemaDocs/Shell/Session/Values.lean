import SchemaDocs.Shell.Session.Arithmetic
import SchemaDocs.Shell.Session.Subshell
import SchemaDocs.Shell.Script.Basic
import SchemaDocs.Shell.Session.Field
/-!
# Values

What is named between braces: parameters, and those that have several values.
-/

/-!
## Parameters

The values of variables, of arguments and of what the shell knows of itself, and what is
done with them between braces.
-/

namespace SchemaDocs.Shell

namespace Expansion

/-! ### Parameters -/

/-- The letters of options in the order in which they are listed. -/
def optionLetters : ByteText := ascii "ubaCEVvxsnmiIfe"

/-- The letters of the options that are set. -/
def shownOptions : Action ByteText := do
  let session ← Action.session
  match session.dialect with
  | .sh => return optionLetters.filter session.options.contains
  | .bash =>
    let letters := (ascii "aefhkmnptuvxBCEHPT").filter session.options.contains
    return letters ++ (if session.scriptName = ascii "-c" then ['c'] else [])

/-- Whether a parameter stands for all arguments. -/
def isArguments (name : ByteText) : Bool := name = ['@'] || name = ['*']

/-- Texts put together with another one between them. -/
def join (separator : ByteText) (texts : List ByteText) : ByteText :=
  (texts.intersperse separator).flatten

/-- What stands between arguments that are put together. -/
def argumentGap : Action ByteText := do
  match ← Action.value? (ascii "IFS") with
  | none => return [' ']
  | some separators => return separators.take 1

/-- The value of a parameter that stands for one text. -/
def value? (name : ByteText) : Action (Option ByteText) := do
  let session ← Action.session
  match ByteText.toNat? name with
  | some 0 => return some session.name
  | some (place + 1) => return session.arguments[place]?
  | none =>
    match name with
    | ['#'] => return some (ByteText.ofNat session.arguments.length)
    | ['?'] => return some (ByteText.ofNat session.status)
    | ['$'] => return some (ByteText.ofNat session.processId)
    | ['!'] => return session.jobs.head?.map fun job => ByteText.ofNat job.number
    | ['-'] => return some (← shownOptions)
    | name =>
      if isArguments name then
        if session.arguments.isEmpty then return none
        else return some (join (← argumentGap) session.arguments)
      else Action.value? name

/-- Fails because a parameter is not there. -/
def refuse {α : Type} (name : ByteText) (reason : ByteText) : Action α :=
  Action.fail (name ++ ascii ": " ++ reason)

/-- Ends the shell, or the part of it that is run on its own, after a message about a parameter. -/
def abandon {α : Type} (text : ByteText) : Action α := do
  Action.warn text
  Action.setStatus (if (← Action.session).isSubshell then 1 else 127)
  throw .leave

/-- Fails because a parameter has no value though it needs one. -/
def refuseUnset {α : Type} (name : ByteText) : Action α := do
  if ← Action.isBash then
    let sign := if (ByteText.toNat? name).isSome then ['$'] else []
    abandon (sign ++ name ++ ascii ": unbound variable")
  else refuse name (ascii "parameter not set")

/-- The value of a parameter, empty if it is not there, unless that is an error. -/
def value (name : ByteText) : Action ByteText := do
  match ← value? name with
  | some value => return value
  | none =>
    if (← Action.hasOption 'u') && !isArguments name then refuseUnset name else return []

/-- What a parameter stands for. -/
def parameter (name : ByteText) (isQuoted : Bool) : Action (List Piece) := do
  if name = ['@'] || (name = ['*'] && !isQuoted) then
    let arguments := (← Action.session).arguments
    return (arguments.map (Piece.ofText isQuoted)).intersperse .gap
  else return [Piece.ofText isQuoted (← value name)]

/-! ### Parts of words -/

/-- The text of pieces that are not cut. -/
def plainOf (pieces : List Piece) : Action MarkedText := do
  return Piece.joined (← argumentGap) pieces

/-- The text that a word stands for where it is not cut. -/
def wordText (interpreter : Interpreter) (word : Word) : Action MarkedText := do
  plainOf (← interpreter.expand word)

/-- What a word stands for in place of a parameter. -/
def replacement (interpreter : Interpreter) (isQuoted : Bool) (word : Word) :
    Action (List Piece) := do
  let pieces ← interpreter.expand word
  return if isQuoted then pieces else pieces.map Piece.loosen

/-- A value without what a pattern matches. -/
def trim (trim : Trim) (glob : Glob) (value : ByteText) : ByteText :=
  match trim with
  | .shortestStart => glob.trimStart false value
  | .longestStart => glob.trimStart true value
  | .shortestEnd => glob.trimEnd false value
  | .longestEnd => glob.trimEnd true value

/-- How patterns are written in the shell. -/
def globRules : Action GlobRules := do
  if ← Action.isBash then
    return { hasGroups := ← Action.hasFeature "extglob", hasCaret := true }
  else return {}

/-- What a parameter stands for that has a word for one case. -/
def conditional (interpreter : Interpreter) (name : ByteText) (rule : ParameterRule)
    (needsText : Bool) (word : Word) (isQuoted : Bool) : Action (List Piece) := do
  let value ← value? name
  let isThere := if needsText then value.any fun text => !text.isEmpty else value.isSome
  match rule, isThere with
  | .alternative, false => return if isQuoted then [.fixed []] else []
  | .alternative, true => replacement interpreter isQuoted word
  | _, true => parameter name isQuoted
  | .fallback, false => replacement interpreter isQuoted word
  | .assignment, false =>
    let text := unmarked (← wordText interpreter word)
    if isName name then
      Action.assign name text
      return [Piece.ofText isQuoted text]
    else refuse name (ascii "bad variable name")
  | .refusal, false =>
    if word.isEmpty then
      refuse name (ascii (if needsText then "parameter not set or null" else "parameter not set"))
    else refuse name (unmarked (← wordText interpreter word))

/-- What becomes of a parameter by an operation that every shell has. -/
def operated (interpreter : Interpreter) (name : ByteText) (operation : Operation)
    (isQuoted : Bool) : Action (List Piece) := do
  match operation with
  | .length =>
    let value ← value name
    return [Piece.ofText isQuoted (ByteText.ofNat value.length)]
  | .conditional rule needsText word => conditional interpreter name rule needsText word isQuoted
  | .trimmed kind pattern =>
    let value ← value name
    let glob := Glob.ofMarked (← globRules) (← wordText interpreter pattern)
    return [Piece.ofText isQuoted (trim kind glob value)]
  | _ => parameter name isQuoted

end Expansion

end SchemaDocs.Shell

/-!
## Values of parameters and arrays

What is named between braces has one value or several.  An operation works on each of
them, or picks some of them.
-/

namespace SchemaDocs.Shell

/-- What a reference stands for. -/
inductive Values where
  | single (value : Option ByteText)
  /-- Several values, which are put together where that makes a difference. -/
  | several (values : List ByteText) (isJoined : Bool)

namespace Values

/-- The same values after something was done with each of them. -/
def map (f : ByteText → ByteText) : Values → Values
  | .single value => .single (value.map f)
  | .several values isJoined => .several (values.map f) isJoined

/-- Whether there is a value, one that is not empty if that is asked for. -/
def isThere (needsText : Bool) : Values → Bool
  | .single none => false
  | .single (some value) => !needsText || !value.isEmpty
  | .several values _ =>
    if needsText then values.any fun value => !value.isEmpty else !values.isEmpty

/-- The pieces that values stand for. -/
def pieces (isQuoted : Bool) : Values → Action (List Piece)
  | .single value => return [Piece.ofText isQuoted (value.getD [])]
  | .several values isJoined => do
    if isJoined && isQuoted then
      return [Piece.ofText true (Expansion.join (← Expansion.argumentGap) values)]
    else return (values.map (Piece.ofText isQuoted)).intersperse .gap

end Values

namespace Expansion

/-! ### References -/

/-- The unquoted text of a word. -/
def subscriptText (interpreter : Interpreter) (word : Word) : Action ByteText := do
  return unmarked (← wordText interpreter word)

/-- The place in an array that a word stands for. -/
def placeOf (interpreter : Interpreter) (name : ByteText) (word : Word) : Action ElementPlace := do
  let text ← subscriptText interpreter word
  match (← Action.variableOf? name).bind Variable.elements with
  | some (.table _) => return .key text
  | _ =>
    match ← Action.tried (Calculation.placeOf name text) with
    | .ok place => return place
    | .error .fault => throw .passLine
    | .error jump => throw jump

/-- The text at a place in an array.  A variable without elements is its own first element. -/
def elementAt? (name : ByteText) (place : ElementPlace) : Action (Option ByteText) := do
  match ← Action.variableOf? name with
  | none => return none
  | some known =>
    match known.elements, place with
    | some elements, place => return elements.get? place
    | none, .number 0 => return known.value
    | none, _ => return none

/-- The elements of a variable. -/
def elementsOf (name : ByteText) : Action Elements := do
  match ← Action.variableOf? name with
  | none => return .list []
  | some known =>
    match known.elements, known.value with
    | some elements, _ => return elements
    | none, some value => return .list [(0, value)]
    | none, none => return .list []

/-- The reference that a text is, if it is one. -/
def referenceOf? (text : ByteText) : Option Reference :=
  let (name, place) := Calculation.splitName text
  match place with
  | none =>
    if isName name || (ByteText.toNat? name).isSome
        || (match name with | [c] => isSpecialParameter c | _ => false) then some (.named name)
    else none
  | some place =>
    if !isName name || text.getLast? != some ']' then none
    else
      match place with
      | ['@'] => some (.elements name false)
      | ['*'] => some (.elements name true)
      | place => some (.element name [.text place false])

/-- The name of the variable of a reference. -/
def nameOf : Reference → ByteText
  | .named name => name
  | .element name _ => name
  | .elements name _ => name
  | .pointed reference => nameOf reference

/-- The values of a reference to nothing by way of something else. -/
def direct (interpreter : Interpreter) : Reference → Action Values
  | .named ['@'] => do return .several (← Action.session).arguments false
  | .named ['*'] => do return .several (← Action.session).arguments true
  | .named name => do return .single (← value? name)
  | .element name place => do
    let place ← placeOf interpreter name place
    return .single (← elementAt? name place)
  | .elements name isJoined => do return .several (← elementsOf name).texts isJoined
  | .pointed _ => return .single none

/-- What a reference means in the end, by way of a value if it points. -/
def resolved (interpreter : Interpreter) : Reference → Action Reference
  | .pointed reference => do
    let pointer ← match reference with
      | .named name => Action.pointer? name
      | _ => pure none
    match pointer with
    | some { isPointer := true, value := some name, .. } => return .named name
    | _ =>
      match ← direct interpreter reference with
      | .single none =>
        Action.passLine (WordPart.writtenReference reference ++ ascii ": invalid indirect expansion")
      | .single (some text) =>
        match referenceOf? text with
        | some reference => return reference
        | none => Action.passLine (text ++ ascii ": invalid variable name")
      | .several values isJoined =>
        match values with
        | [text] =>
          match referenceOf? text with
          | some reference => return reference
          | none => Action.passLine (text ++ ascii ": invalid variable name")
        | _ =>
          let text := join [' '] values
          let _ ← pure isJoined
          Action.passLine (text ++ ascii ": invalid variable name")
  | reference => return reference

/-! ### Operations -/

/-- A pattern that a word stands for. -/
def patternOf (interpreter : Interpreter) (word : Word) : Action Glob := do
  return Glob.ofMarked (← globRules) (← wordText interpreter word)

/-- A replacement in which an ampersand that is not quoted stands for what is replaced. -/
def filled (replacement : MarkedText) (found : ByteText) : ByteText :=
  (replacement.map fun (c, isQuoted) => if c = '&' && !isQuoted then found else [c]).flatten

/-- A text with what a pattern matches replaced, once or wherever it is found.  Each step takes a
character at least. -/
def replaceFrom (glob : Glob) (replacement : MarkedText) (isAll : Bool) :
    Nat → ByteText → ByteText → ByteText
  | 0, taken, rest => taken.reverse ++ rest
  | _ + 1, taken, [] => taken.reverse
  | fuel + 1, taken, c :: rest =>
    match (glob.rests (c :: rest)).head? with
    | some after =>
      let after := ((glob.rests (c :: rest)).getLast?).getD after
      let found := (c :: rest).take ((c :: rest).length - after.length)
      if found.isEmpty then replaceFrom glob replacement isAll fuel (c :: taken) rest
      else
        let taken := (filled replacement found).reverse ++ taken
        if isAll then replaceFrom glob replacement isAll fuel taken after
        else taken.reverse ++ after
    | none => replaceFrom glob replacement isAll fuel (c :: taken) rest

/-- A text with what a pattern matches replaced. -/
def replaced (place : Replacing) (glob : Glob) (replacement : MarkedText) (text : ByteText) :
    ByteText :=
  match place with
  | .first => replaceFrom glob replacement false (text.length + 1) [] text
  | .all => replaceFrom glob replacement true (text.length + 1) [] text
  | .atStart =>
    if glob.isEmpty then filled replacement [] ++ text
    else
      match (glob.rests text).getLast? with
      | some rest => filled replacement (text.take (text.length - rest.length)) ++ rest
      | none => text
  | .atEnd =>
    if glob.isEmpty then text ++ filled replacement []
    else
      match (Glob.rests (Glob.backward glob) text.reverse).getLast? with
      | some rest =>
        rest.reverse ++ filled replacement (text.drop rest.length)
      | none => text

/-- A text with the case of its first letter or all letters changed, as far as a pattern matches
them. -/
def cased (change : CaseChange) (isAll : Bool) (glob : Glob) (text : ByteText) : ByteText :=
  let put (c : Char) : Char :=
    if glob.isEmpty || glob.matchesAll [c] then Action.changeCase change c else c
  match text with
  | [] => []
  | c :: rest => put c :: if isAll then rest.map put else rest

/-- The number that a word stands for, or none. -/
def numberOf (interpreter : Interpreter) (word : Word) : Action Int := do
  let text ← subscriptText interpreter word
  match ← Calculation.evaluate? none text with
  | some value => return value.toInt
  | none =>
    Action.setStatus 1
    throw .passLine

/-- Where a part begins and how long it is, of something of some length, if it begins within it.  A
length below zero counts from the end. -/
def bounds (interpreter : Interpreter) (size : Nat) (offset : Word) (length : Option Word)
    (countsBack : Bool) : Action (Option (Nat × Nat)) := do
  let start ← numberOf interpreter offset
  let start := if start < 0 then start + size else start
  if start < 0 || (size : Int) < start then return none
  else
    let rest := size - start.toNat
    match length with
    | none => return some (start.toNat, rest)
    | some word =>
      let text ← subscriptText interpreter word
      let count ← numberOf interpreter word
      if 0 ≤ count then return some (start.toNat, min count.toNat rest)
      else if countsBack && start ≤ size + count then
        return some (start.toNat, ((size : Int) + count - start).toNat)
      else Action.passLine (text ++ ascii ": substring expression < 0")

/-- The part of values that begins at some place and has some length. -/
def sliced (interpreter : Interpreter) (reference : Reference) (values : Values) (offset : Word)
    (length : Option Word) : Action Values := do
  match values with
  | .single none => return .single none
  | .single (some text) =>
    match ← bounds interpreter text.length offset length true with
    | some (start, count) => return .single (some ((text.drop start).take count))
    | none => return .single (some [])
  | .several values isJoined =>
    match reference with
    | .elements name _ =>
      match ← elementsOf name with
      | .list entries =>
        let next := (Elements.list entries).next
        let start ← numberOf interpreter offset
        let start := if start < 0 then start + next else start
        if start < 0 then return .several [] isJoined
        else
          let found := (entries.dropWhile fun entry => Nat.blt entry.1 start.toNat).map Prod.snd
          match length with
          | none => return .several found isJoined
          | some word =>
            let count ← numberOf interpreter word
            if count < 0 then
              let text ← subscriptText interpreter word
              Action.passLine (text ++ ascii ": substring expression < 0")
            else return .several (found.take count.toNat) isJoined
      | .table _ =>
        match ← bounds interpreter (values.length + 1) offset length false with
        | some (start, count) =>
          return .several ((values.drop (start - 1)).take count) isJoined
        | none => return .several [] isJoined
    | _ =>
      let whole := (← Action.session).name :: values
      match ← bounds interpreter whole.length offset length false with
      | some (start, count) => return .several ((whole.drop start).take count) isJoined
      | none => return .several [] isJoined

/-! ### Declarations -/

/-- The letters that tell what is known of a variable. -/
def letters (known : Variable) : ByteText :=
  (match known.elements with
    | some (.list _) => ['a']
    | some (.table _) => ['A']
    | none => [])
  ++ (if known.isNumber then ['i'] else [])
  ++ (if known.letterCase = some .swap then ['c'] else [])
  ++ (if known.letterCase = some .lower then ['l'] else [])
  ++ (if known.isPointer then ['n'] else [])
  ++ (if known.isReadOnly then ['r'] else [])
  ++ (if known.letterCase = some .upper then ['u'] else [])
  ++ (if known.isExported then ['x'] else [])

/-- The elements of an array as they are written in a declaration. -/
def writtenElements (elements : Elements) : ByteText :=
  let pairs := elements.places.zip elements.texts
  let isTable := match elements with
    | .table _ => true
    | .list _ => false
  let key (place : ByteText) : ByteText :=
    if isTable && (Quoted.hasMeaning none place || place.isEmpty) then Quoted.declared place
    else place
  let items := pairs.map fun (place, text) =>
    ['['] ++ key place ++ ascii "]=" ++ Quoted.declared text
  ['('] ++ (items.intersperse [' ']).flatten
    ++ (if isTable && !items.isEmpty then [' '] else []) ++ [')']

/-- The value of a variable as it is written in a declaration, after an equals sign. -/
def writtenValue (known : Variable) : ByteText :=
  match known.elements, known.value with
  | some elements, _ => ['='] ++ writtenElements elements
  | none, some value => ['='] ++ Quoted.declared value
  | none, none => []

/-- A command that would declare a variable. -/
def declaration (name : ByteText) (known : Variable) : ByteText :=
  let letters := letters known
  ascii "declare -" ++ (if letters.isEmpty then ['-'] else letters) ++ [' '] ++ name
    ++ writtenValue known

/-- The command that would give a variable its value. -/
def assignmentText (name : ByteText) (known : Variable) (value : Option ByteText) : ByteText :=
  let letters := letters known
  let head := if letters.isEmpty then [] else ascii "declare -" ++ letters ++ [' ']
  match known.elements, value with
  | some elements, _ => head ++ name ++ ['='] ++ writtenElements elements
  | none, some value => head ++ name ++ ['='] ++ Quoted.reusable value
  | none, none => if letters.isEmpty then [] else head ++ name

/-- Values in another form, which a letter names. -/
def transformed (reference : Reference) (values : Values) (letter : Char) : Action Values := do
  let name := nameOf reference
  match letter with
  | 'Q' => return values.map Quoted.reusable
  | 'U' => return values.map fun text => text.map Char.toUpper
  | 'L' => return values.map fun text => text.map Char.toLower
  | 'u' => return values.map (cased .upper false [])
  | 'E' => return values.map Escape.interpretQuoted
  | 'P' => return values
  | 'a' =>
    match ← Action.variableOf? name with
    | some known => return values.map fun _ => letters known
    | none => return .single (some [])
  | 'A' =>
    match ← Action.variableOf? name, values with
    | some known, .single value => return .single (some (assignmentText name known value))
    | some known, .several .. => return .single (some (assignmentText name known none))
    | none, .several values isJoined =>
      if values.isEmpty then return .several [] isJoined
      else
        let words := (values.map Quoted.reusable).intersperse [' ']
        return .single (some (ascii "set -- " ++ words.flatten))
    | none, _ => return .single (some [])
  | 'k' =>
    let elements ← elementsOf name
    return .several ((elements.places.zip elements.texts).map fun (place, text) => [place, text]).flatten
      false
  | 'K' =>
    match values with
    | .several _ isJoined =>
      let elements ← elementsOf name
      let items := (elements.places.zip elements.texts).map fun (place, text) =>
        place ++ [' '] ++ Quoted.declared text
      return .several [join [' '] items] isJoined
    | values => return values.map Quoted.reusable
  | _ => Action.passLine (ascii "$\x7b" ++ WordPart.writtenReference reference ++ ['@', letter]
      ++ ascii "\x7d: bad substitution")

/-! ### Conditions on values -/

/-- Gives what a reference stands for a value. -/
def assignTo (interpreter : Interpreter) (reference : Reference) (text : ByteText) :
    Action Unit := do
  match reference with
  | .named name =>
    if isName name then Action.assign name text
    else Action.passLine (['$'] ++ name ++ ascii ": cannot assign in this way")
  | .element name place => Action.assignAt name (some (← placeOf interpreter name place)) text
  | reference => Action.passLine (WordPart.writtenReference reference ++ ascii ": bad array subscript")

/-- What values stand for with a word for the case that they are there or not. -/
def conditionalOn (interpreter : Interpreter) (reference : Reference) (values : Values)
    (rule : ParameterRule) (needsText : Bool) (word : Word) (isQuoted : Bool) :
    Action (List Piece) := do
  match rule, values.isThere needsText with
  | .alternative, false => return if isQuoted then [.fixed []] else []
  | .alternative, true => replacement interpreter isQuoted word
  | _, true => values.pieces isQuoted
  | .fallback, false => replacement interpreter isQuoted word
  | .assignment, false =>
    let text := unmarked (← wordText interpreter word)
    assignTo interpreter reference text
    return [Piece.ofText isQuoted text]
  | .refusal, false =>
    let reason ←
      if word.isEmpty then
        pure (ascii (if needsText then "parameter null or not set" else "parameter not set"))
      else pure (unmarked (← wordText interpreter word))
    abandon (WordPart.writtenReference reference ++ ascii ": " ++ reason)

/-- Refuses values that are not there where they have to be. -/
def required (reference : Reference) (values : Values) : Action Values := do
  match values with
  | .single none =>
    if ← Action.hasOption 'u' then refuseUnset (WordPart.writtenReference reference) else return values
  | values => return values

/-- What becomes of a reference by an operation. -/
def expansion (interpreter : Interpreter) (reference : Reference) (operation : Operation)
    (isQuoted : Bool) : Action (List Piece) := do
  match operation with
  | .places =>
    match reference with
    | .elements name isJoined =>
      (Values.several (← elementsOf name).places isJoined).pieces isQuoted
    | _ => return []
  | .names isJoined =>
    let start := nameOf reference
    let names := ((← Action.session).bindings.filter fun entry =>
      start.isPrefixOf entry.1 && entry.2.text?.isSome || (start.isPrefixOf entry.1
        && entry.2.elements.isSome)).map Prod.fst
    (Values.several (names.mergeSort ByteText.isBefore) isJoined).pieces isQuoted
  | operation =>
    let reference ← resolved interpreter reference
    let values ← direct interpreter reference
    match operation with
    | .conditional rule needsText word =>
      conditionalOn interpreter reference values rule needsText word isQuoted
    | .length =>
      match ← required reference values with
      | .single value =>
        return [Piece.ofText isQuoted (ByteText.ofNat (value.getD []).length)]
      | .several values _ => return [Piece.ofText isQuoted (ByteText.ofNat values.length)]
    | operation =>
      let values ← required reference values
      let result ←
        match operation with
        | .trimmed kind pattern =>
          let glob ← patternOf interpreter pattern
          pure (values.map (trim kind glob))
        | .replaced place pattern replacement =>
          let glob ← patternOf interpreter pattern
          let replacement ← wordText interpreter replacement
          pure (values.map (replaced place glob replacement))
        | .sliced offset length =>
          if offset.isEmpty && length.isNone then
            Action.passLine (ascii "$\x7b" ++ WordPart.writtenReference reference ++ ascii ":\x7d: bad substitution")
          else sliced interpreter reference values offset length
        | .cased change isAll pattern =>
          let glob ← patternOf interpreter pattern
          pure (values.map (cased change isAll glob))
        | .transformed letter => transformed reference values letter
        | _ => pure values
      result.pieces isQuoted

end Expansion

end SchemaDocs.Shell
