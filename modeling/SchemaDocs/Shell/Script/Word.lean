import SchemaDocs.Shell.Escape
import SchemaDocs.Shell.Script.Token
/-!
# Reading words

A word is read part by part.  What a character means hangs on what surrounds it: nothing,
double quotes, the braces of a parameter, or the parentheses of an arithmetic expression.
-/

namespace SchemaDocs.Shell

/-- What surrounds a part of a word. -/
inductive WordContext where
  /-- Nothing: the word ends where a blank or an operator stands. -/
  | bare
  /-- Double quotes. -/
  | quoted
  /-- The braces of a parameter, perhaps between double quotes. -/
  | braced (isQuoted : Bool)
  /-- The braces of a parameter up to a mark. -/
  | segment (mark : Char) (isQuoted : Bool)
  /-- Brackets behind a name. -/
  | bracket
  /-- A pattern of characters in a condition. -/
  | regex
  /-- Text that follows a command. -/
  | document
  /-- The parentheses of an arithmetic expression. -/
  | arithmetic
deriving DecidableEq

/-- Whether what stands in a context is quoted. -/
def WordContext.isQuoted : WordContext → Bool
  | .bare => false
  | .bracket => false
  | .regex => false
  | .braced isQuoted => isQuoted
  | .segment _ isQuoted => isQuoted
  | _ => true

/-- Which list of commands is read. -/
inductive ListKind where
  /-- A line of a script. -/
  | line
  /-- The inside of a compound command, which must not be empty. -/
  | body
  /-- A list that may be empty. -/
  | any
deriving DecidableEq

/-- How the nested parts of a script are read. -/
structure Grammar where
  list : ListKind → Parser (Option Command)
  command : Parser Command
  /-- Reads the parts of a word up to what ends them, and tells whether any of it is quoted, or
  whether an arithmetic expression is none. -/
  parts : WordContext → Parser (Word × Bool)
  /-- Reads the next token, and a reserved word as such if it may stand here. -/
  token : Bool → Parser Token

namespace Parser

/-- Whether a character ends a word. -/
def endsWord (c : Char) : Bool :=
  c = ' ' || c = '\t' || c = '\n' || c = ';' || c = '&' || c = '|' || c = '<' || c = '>'
    || c = '(' || c = ')'

/-- Runs a step on a text of its own. -/
def within {α : Type} (text : ByteText) (step : Parser α) : Parser α := do
  let outer ← get
  set { outer with rest := text, lineStart := text, given := none, pending := [] }
  let value ← step
  modify fun inner =>
    { inner with
      rest := outer.rest, line := outer.line, lineStart := outer.lineStart, given := outer.given
      lastToken := outer.lastToken, pending := outer.pending }
  return value

/-! ## Substitutions -/

/-- Reads commands up to a closing parenthesis. -/
def enclosed (grammar : Grammar) : Parser (List Command) := do
  let outer ← get
  set { outer with pending := [], mayAssign := false }
  let commands ← grammar.list .any
  match ← grammar.token true with
  | .closeParenthesis =>
    modify fun inner =>
      { inner with
        pending := outer.pending, mayAssign := outer.mayAssign, lastToken := outer.lastToken }
    return commands.toList
  | .endOfFile => failToClose
  | token => unexpected token (some .closeParenthesis)
where
  /-- Fails because the parenthesis is not closed. -/
  failToClose : Parser (List Command) := do
    if ← isBash then failOpen (← get).line ')' "" else unexpected .endOfFile (some .closeParenthesis)

/-- Reads commands up to a closing parenthesis whose output is meant. -/
def outputOf (grammar : Grammar) (isQuoted : Bool) : Parser WordPart := do
  return .output (← enclosed grammar) isQuoted

/-- The text up to a backquote, without the backslashes before characters that need one. -/
def backquotedText (line : Nat) (isQuoted : Bool) : Nat → Parser ByteText
  | 0 => return []
  | fuel + 1 => do
    let failToClose : Parser ByteText := failOpen line '\x60' "EOF in backquote substitution"
    match ← peekJoined with
    | none => failToClose
    | some '\x60' =>
      skip
      return []
    | some '\\' =>
      skip
      match ← peekJoined with
      | none => failToClose
      | some c =>
        skip
        let rest ← backquotedText line isQuoted fuel
        if c = '\\' || c = '\x60' || c = '$' || (isQuoted && c = '"') then return c :: rest
        else return '\\' :: c :: rest
    | some c =>
      skip
      return c :: (← backquotedText line isQuoted fuel)

/-- Reads commands between backquotes. -/
def backquoted (grammar : Grammar) (isQuoted : Bool) : Parser WordPart := do
  let text ← backquotedText (← get).line isQuoted (← enough)
  let commands ← within text do
    let commands ← grammar.list .any
    match ← grammar.token true with
    | .endOfFile => return commands
    | token => unexpected token none
  return .output commands.toList isQuoted

/-- Reads the word of a parameter up to the closing brace. -/
def bracedWord (grammar : Grammar) (isQuoted : Bool) : Parser Word := do
  let (word, _) ← grammar.parts (.braced isQuoted)
  return word

/-- Reads parts up to a mark or the closing brace, which are not taken. -/
def segment (grammar : Grammar) (mark : Char) (isQuoted : Bool) : Parser Word := do
  let (word, _) ← grammar.parts (.segment mark isQuoted)
  return word

/-- Takes a character if it comes next, and tells whether it did. -/
def takeIf (c : Char) : Parser Bool := do
  if (← peekJoined) = some c then
    skip
    return true
  else return false

/-- Reads a pattern and what is put in place of it, after their first slash. -/
def replacement (grammar : Grammar) : Parser Operation := do
  let place ←
    match ← peekJoined with
    | some '/' => skip; pure Replacing.all
    | some '#' => skip; pure Replacing.atStart
    | some '%' => skip; pure Replacing.atEnd
    | _ => pure Replacing.first
  -- A slash that comes at once belongs to the pattern.
  let slash : Word ← if place = .first && (← takeIf '/') then pure [.text ['/'] false] else pure []
  let pattern ← segment grammar '/' false
  let other : Word ← if ← takeIf '/' then bracedWord grammar false else do
    let _ ← takeIf '\x7d'
    pure []
  return .replaced place (slash ++ pattern) other

/-- Reads where a part of a value begins and perhaps how long it is, after the first colon. -/
def slice (grammar : Grammar) : Parser Operation := do
  let offset ← segment grammar ':' true
  if ← takeIf ':' then return .sliced offset (some (← bracedWord grammar true))
  else
    let _ ← takeIf '\x7d'
    return .sliced offset none

/-- Reads which letters change their case, after the first mark. -/
def caseChange (grammar : Grammar) (mark : Char) : Parser Operation := do
  let isAll ← takeIf mark
  let change : CaseChange := if mark = '^' then .upper else if mark = ',' then .lower else .swap
  return .cased change isAll (← bracedWord grammar false)

/-- What is done with a reference.  Without an operation it may be written without braces. -/
def expansionOf (reference : Reference) (operation : Operation) (isQuoted : Bool) : WordPart :=
  match reference, operation with
  | .named name, .value => .parameter name isQuoted
  | reference, operation => .expansion reference operation isQuoted

/-- Reads what follows a reference between braces. -/
def afterReference (grammar : Grammar) (isQuoted : Bool) (reference : Reference) :
    Parser WordPart := do
  let misused : Parser WordPart := do
    let _ ← bracedWord grammar isQuoted
    return .misuse []
  let conditional (rule : ParameterRule) (needsText : Bool) : Parser WordPart := do
    skip
    let word ← bracedWord grammar isQuoted
    return .expansion reference (.conditional rule needsText word) isQuoted
  let ruled (needsText : Bool) : Parser WordPart := do
    match ← peekJoined with
    | some '-' => conditional .fallback needsText
    | some '=' => conditional .assignment needsText
    | some '?' => conditional .refusal needsText
    | some '+' => conditional .alternative needsText
    | some '\x7d' =>
      if needsText then misused
      else
        skip
        return expansionOf reference .value isQuoted
    | _ => misused
  let trimmed (mark : Char) (short long : Trim) : Parser WordPart := do
    skip
    let trim := if ← takeIf mark then long else short
    return .expansion reference (.trimmed trim (← bracedWord grammar false)) isQuoted
  let isBash ← isBash
  let extended (operation : Parser Operation) : Parser WordPart := do
    if isBash then
      skip
      return .expansion reference (← operation) isQuoted
    else misused
  match ← peekJoined with
  | some ':' =>
    skip
    let isRuled := match ← peekJoined with
      | some c => c = '-' || c = '=' || c = '?' || c = '+'
      | none => false
    if isBash && !isRuled then return .expansion reference (← slice grammar) isQuoted
    else if !isBash && (← takeIf '\x7d') then return expansionOf reference .value isQuoted
    else ruled true
  | some '#' => trimmed '#' .shortestStart .longestStart
  | some '%' => trimmed '%' .shortestEnd .longestEnd
  | some '/' => extended (replacement grammar)
  | some '^' => extended (caseChange grammar '^')
  | some ',' => extended (caseChange grammar ',')
  | some '~' => extended (caseChange grammar '~')
  | some '@' => extended (do
      match ← peekJoined with
      | some c =>
        skip
        let word ← bracedWord grammar false
        return if word.isEmpty then .transformed c else .transformed ' '
      | none => return .transformed ' ')
  | _ => ruled false

/-- Reads a reference that begins with a name, which may be followed by a place in an array. -/
def referenceOf (grammar : Grammar) (name : ByteText) : Parser Reference := do
  if (← isBash) && (← takeIf '[') then
    let (place, _) ← grammar.parts .bracket
    return match WordPart.plainText? place with
      | some ['@'] => .elements name false
      | some ['*'] => .elements name true
      | _ => .element name place
  else return .named name

/-- Reads the name of a parameter between braces, and what belongs to it, if there is one. -/
def reference? (grammar : Grammar) : Parser (Option Reference) := do
  match ← peekJoined with
  | none => return none
  | some c =>
    if beginsName c then return some (← referenceOf grammar (← takeWhile isNameChar))
    else if c.isDigit then return some (.named (← takeWhile Char.isDigit))
    else if isSpecialParameter c then
      skip
      return some (.named [c])
    else return none

/-- Reads the length of a parameter up to the closing brace. -/
def lengthOf (grammar : Grammar) (isQuoted : Bool) (reference : Reference) : Parser WordPart := do
  let word ← bracedWord grammar isQuoted
  if word.isEmpty then return .expansion reference .length isQuoted else return .misuse []

/-- Reads what follows an exclamation mark between braces: something whose value is a name, the places
of an array, or the start of names. -/
def pointed (grammar : Grammar) (isQuoted : Bool) : Parser WordPart := do
  match ← reference? grammar with
  | none => afterReference grammar isQuoted (.named ['!'])
  | some reference =>
    let rest := (joinLines (← get).rest).1
    match reference, rest with
    | .elements name isJoined, '\x7d' :: _ =>
      skip
      return .expansion (.elements name isJoined) .places isQuoted
    | .named name, '@' :: '\x7d' :: _ =>
      skip
      skip
      return .expansion (.named name) (.names false) isQuoted
    | .named name, '*' :: '\x7d' :: _ =>
      skip
      skip
      return .expansion (.named name) (.names true) isQuoted
    | reference, _ => afterReference grammar isQuoted (.pointed reference)

/-- Whether a text begins with what may be a name behind an exclamation mark. -/
def mayPoint : ByteText → Bool
  | c :: d :: _ => isNameChar c || ((c = '#' || c = '@' || c = '*' || c = '?') && d = '\x7d')
  | _ => false

/-- Reads a parameter after its opening brace. -/
def braced (grammar : Grammar) (isQuoted : Bool) : Parser WordPart := do
  match ← peekJoined with
  | some '#' =>
    skip
    match ← peekJoined with
    | some c =>
      if isNameChar c then
        match ← reference? grammar with
        | some reference => lengthOf grammar isQuoted reference
        | none => afterReference grammar isQuoted (.named ['#'])
      else
        match (joinLines (← get).rest).1 with
        | c :: '\x7d' :: _ =>
          if c != '\x7d' && isSpecialParameter c then
            skip
            lengthOf grammar isQuoted (.named [c])
          else afterReference grammar isQuoted (.named ['#'])
        | _ => afterReference grammar isQuoted (.named ['#'])
    | none =>
      let _ ← bracedWord grammar isQuoted
      return .misuse []
  | some '!' =>
    skip
    if (← isBash) && mayPoint (joinLines (← get).rest).1 then pointed grammar isQuoted
    else afterReference grammar isQuoted (.named ['!'])
  | _ =>
    match ← reference? grammar with
    | some reference => afterReference grammar isQuoted reference
    | none =>
      let _ ← bracedWord grammar isQuoted
      return .misuse []

/-- Reads a parameter between braces.  What is none is kept as it is written. -/
def bracedParameter (grammar : Grammar) (isQuoted : Bool) : Parser WordPart := do
  let start := (← get).rest
  match ← braced grammar isQuoted with
  | .misuse _ =>
    let source := start.take (start.length - (← get).rest.length)
    return .misuse (ascii "$\x7b" ++ source)
  | part => return part

/-- Reads an expression between two parentheses, of which the last ones stand side by side.  If they
do not nothing is read. -/
def arithmetic? (grammar : Grammar) : Parser (Option Word) := do
  let before ← get
  let (expression, isOther) ← grammar.parts .arithmetic
  if isOther then
    set before
    return none
  else return some expression

/-- The text between quotes behind a dollar sign, in which a backslash hides a quote.  Each step takes
a character. -/
def namedCharacters (line : Nat) : Nat → Parser ByteText
  | 0 => return []
  | fuel + 1 => do
    match ← peek with
    | none => failOpen line '\'' ""
    | some '\'' =>
      skip
      return []
    | some '\\' =>
      skip
      match ← peek with
      | none => failOpen line '\'' ""
      | some c =>
        skip
        return '\\' :: c :: (← namedCharacters line fuel)
    | some c =>
      skip
      return c :: (← namedCharacters line fuel)

/-- Reads what follows a dollar sign.  Where no parameter does the sign stands for itself. -/
def dollar (grammar : Grammar) (context : WordContext) : Parser WordPart := do
  let isQuoted := context.isQuoted
  let isBash ← isBash
  match ← peekJoined with
  | some '(' =>
    skip
    if (← peekJoined) = some '(' then
      let before ← get
      skip
      match ← arithmetic? grammar with
      | some expression => return .arithmetic expression isQuoted
      | none =>
        set before
        outputOf grammar isQuoted
    else outputOf grammar isQuoted
  | some '\x7b' =>
    skip
    bracedParameter grammar isQuoted
  | some '[' =>
    if isBash then
      skip
      let (expression, _) ← grammar.parts .bracket
      return .arithmetic expression isQuoted
    else return .text ['$'] isQuoted
  | some '\'' =>
    if isBash && !isQuoted then
      let line := (← get).line
      skip
      let text ← namedCharacters line (← enough)
      return .text (Escape.interpretQuoted text) true
    else return .text ['$'] isQuoted
  | some '"' =>
    if isBash && !isQuoted then return .text [] false else return .text ['$'] isQuoted
  | some c =>
    if beginsName c then return .parameter (← takeWhile isNameChar) isQuoted
    else if isSpecialParameter c then
      skip
      return .parameter [c] isQuoted
    else return .text ['$'] isQuoted
  | none => return .text ['$'] isQuoted

/-! ## Parts -/

/-- The parts of what stands between double quotes.  Even if nothing does it makes a field, unless
it is the list of all arguments. -/
def quotedParts : Word → Word
  | [part] => if part.isQuotedSpread then [part] else [.text [] true, part]
  | parts => .text [] true :: parts

/-- Reads what follows a backslash between double quotes, where it takes the meaning from few
characters only. -/
def escapedInQuotes (context : WordContext) : Parser Word := do
  match ← peek with
  | none => return [.text ['\\'] true]
  | some c =>
    skip
    let isEscapable :=
      c = '\\' || c = '\x60' || c = '$' || (c = '"' && context ≠ .document)
        || (c = '\x7d' && context = .braced true)
    return [.text (if isEscapable then [c] else ['\\', c]) true]

/-- What ends at the end of a script, where it began on some line. -/
def atEnd (line : Nat) : WordContext → Parser Unit
  | .bare => return ()
  | .regex => return ()
  | .quoted => failOpen line '"' "Unterminated quoted string"
  | .braced true => failOpen line '\x7d' "Unterminated quoted string"
  | .braced false => failOpen line '\x7d' "Missing '\x7d'"
  | .segment .. => failOpen line '\x7d' ""
  | .bracket => failOpen line ']' ""
  | .document => return ()
  | .arithmetic => failOpen line ')' "Missing '))'"

/-- The state of reading parts: those that were read, the last one first, whether any of them is
quoted, how many parentheses are open, and whether a quote within quotes is open. -/
structure PartsState where
  line : Nat
  parts : Word := []
  isQuoted : Bool := false
  depth : Nat := 0
  isInnerQuoted : Bool := false
  /-- Whether what was taken for an arithmetic expression is none. -/
  isOther : Bool := false

namespace PartsState

/-- Adds parts. -/
def add (state : PartsState) (parts : Word) : PartsState :=
  { state with parts := parts.reverse ++ state.parts }

/-- Adds parts that stand between quotes. -/
def addQuoted (state : PartsState) (parts : Word) : PartsState :=
  { state.add parts with isQuoted := true }

/-- Adds a character to the text before it. -/
def addChar (state : PartsState) (c : Char) (isQuoted : Bool) : PartsState :=
  state.add [.text [c] isQuoted]

end PartsState

/-- Puts texts that stand side by side together. -/
def merge : Word → Word
  | .text first true :: rest =>
    match merge rest with
    | .text second true :: rest => .text (first ++ second) true :: rest
    | rest => .text first true :: rest
  | .text first false :: rest =>
    match merge rest with
    | .text second false :: rest => .text (first ++ second) false :: rest
    | rest => .text first false :: rest
  | part :: rest => part :: merge rest
  | [] => []

/-- Whether the text that was read last opens a group of patterns before a parenthesis. -/
def opensGroup (state : PartsState) : Bool :=
  match state.parts with
  | .text chars false :: _ => chars.getLast?.any (ascii "?*+@!").contains
  | _ => false

/-- The name that was read so far, if nothing else was. -/
def nameSoFar? (state : PartsState) : Bool :=
  match WordPart.plainText? state.parts.reverse with
  | some text => isName text
  | none => false

/-- Reads the elements of an array up to a closing parenthesis.  Each step reads one, or passes over
a blank or a comment. -/
def elementsFrom (grammar : Grammar) (line : Nat) : Nat →
    Parser (List (Option Word × Bool × Word))
  | 0 => return []
  | fuel + 1 => do
    match ← peekJoined with
    | none => failOpenWith 1 line ')' ""
    | some c =>
      let start ← get
      if c = ')' then
        skip
        return []
      else if c = ' ' || c = '\t' || c = '\n' then
        skip
        elementsFrom grammar line fuel
      else if c = '#' then
        modify fun reader => { reader with rest := reader.rest.dropWhile (· != '\n') }
        elementsFrom grammar line fuel
      else if c = '[' then
        skip
        let (place, _) ← grammar.parts .bracket
        let appends ← takeIf '+'
        if ← takeIf '=' then
          let (value, _) ← grammar.parts .bare
          return (some place, appends, value) :: (← elementsFrom grammar line fuel)
        else
          set start
          let (value, _) ← grammar.parts .bare
          return (none, false, value) :: (← elementsFrom grammar line fuel)
      else
        let (value, _) ← grammar.parts .bare
        if (← get).rest.length = start.rest.length then
          modify fun reader => { reader with lastToken := ⟨start.rest, start.line, start.lineStart⟩ }
          skip
          unexpected (.word [] false) none
        else return (none, false, value) :: (← elementsFrom grammar line fuel)

/-- What a character means to a word that no quotes surround. -/
inductive BareStep where
  | stop
  | char
  /-- A parenthesis that belongs to the word. -/
  | openGroup | closeGroup
  | process (isRead : Bool)
  | bracket
  | elements

/-- What a character means to a word that no quotes surround. -/
def bareStep (state : PartsState) (c : Char) : Parser BareStep := do
  let reader ← get
  let isBash := reader.dialect = .bash
  if 0 < state.depth then
    return if c = '(' then .openGroup else if c = ')' then .closeGroup else .char
  else if (c = '<' || c = '>') && isBash && (joinLines (reader.rest.drop 1)).1.head? = some '(' then
    return .process (c = '<')
  else if c = '(' && reader.groupsPatterns && opensGroup state then return .openGroup
  else if c = '(' && reader.mayAssign && WordPart.isOpenAssignment (state.parts.reverse) then
    return .elements
  else if c = '[' && reader.mayAssign && nameSoFar? state then return .bracket
  else return if endsWord c then .stop else .char

/-- Reads parts up to what ends them.  Each step takes a character at least. -/
def partsFrom (grammar : Grammar) (context : WordContext) :
    Nat → PartsState → Parser PartsState
  | 0, state => return state
  | fuel + 1, state => do
    let isQuoted := context.isQuoted
    match ← peekJoined with
    | none =>
      atEnd state.line context
      return state
    | some '\\' =>
      skip
      if isQuoted then
        partsFrom grammar context fuel (state.addQuoted (← escapedInQuotes context))
      else
        match ← peek with
        | none => partsFrom grammar context fuel (state.addQuoted [.text ['\\'] true])
        | some c =>
          skip
          partsFrom grammar context fuel (state.addQuoted [.text [c] true])
    | some '$' =>
      skip
      partsFrom grammar context fuel (state.add [← dollar grammar context])
    | some '\x60' =>
      skip
      partsFrom grammar context fuel (state.add [← backquoted grammar isQuoted])
    | some '\'' =>
      skip
      if isQuoted then partsFrom grammar context fuel (state.addChar '\'' true)
      else
        let text ← takeUntil '\'' "Unterminated quoted string"
        partsFrom grammar context fuel (state.addQuoted [.text text true])
    | some '"' =>
      skip
      match context with
      | .quoted => return state
      | .document => partsFrom grammar context fuel (state.addChar '"' true)
      | .arithmetic => partsFrom grammar context fuel state
      | .segment _ true => partsFrom grammar context fuel state
      | .braced true =>
        partsFrom grammar context fuel
          { state.addQuoted [.text [] true] with isInnerQuoted := !state.isInnerQuoted }
      | _ =>
        let (parts, _) ← grammar.parts .quoted
        partsFrom grammar context fuel (state.addQuoted (quotedParts parts))
    | some '\x7d' =>
      match context with
      | .braced _ =>
        skip
        if state.isInnerQuoted then partsFrom grammar context fuel (state.addChar '\x7d' isQuoted)
        else return state
      | .segment .. => return state
      | _ =>
        skip
        partsFrom grammar context fuel (state.addChar '\x7d' isQuoted)
    | some c =>
      let goOn (state : PartsState) : Parser PartsState := do
        skip
        partsFrom grammar context fuel state
      let deeper : PartsState := { state.addChar c isQuoted with depth := state.depth + 1 }
      let higher : PartsState := { state.addChar c isQuoted with depth := state.depth - 1 }
      match context with
      | .bare =>
        match ← bareStep state c with
        | .stop => return state
        | .char => goOn (state.addChar c false)
        | .openGroup => goOn deeper
        | .closeGroup => goOn higher
        | .process isRead =>
          skip
          let _ ← peekJoined
          skip
          partsFrom grammar context fuel (state.add [.process isRead (← enclosed grammar)])
        | .bracket =>
          skip
          let (place, _) ← grammar.parts .bracket
          partsFrom grammar context fuel (state.add [.bracket place])
        | .elements =>
          let line := (← get).line
          skip
          let items ← elementsFrom grammar line (← enough)
          partsFrom grammar context fuel (state.add [.elements items])
      | .arithmetic =>
        if c = '(' then goOn deeper
        else if c = ')' then
          if state.depth = 0 then
            skip
            if (← peekJoined) = some ')' then
              skip
              return state
            else if ← isBash then return { state with isOther := true }
            else partsFrom grammar context fuel (state.addChar c true)
          else goOn higher
        else goOn (state.addChar c true)
      | .segment mark _ =>
        if c = mark && state.depth = 0 then return state
        else if mark = ':' && (c = '(' || c = '?') then goOn deeper
        else if mark = ':' && (c = ')' || c = ':') then goOn higher
        else goOn (state.addChar c isQuoted)
      | .bracket =>
        if c = '[' then goOn deeper
        else if c = ']' then
          if state.depth = 0 then
            skip
            return state
          else goOn higher
        else goOn (state.addChar c false)
      | .regex =>
        if c = '(' then goOn deeper
        else if c = ')' then if state.depth = 0 then return state else goOn higher
        else if state.depth = 0 && endsWord c && c != '|' then return state
        else goOn (state.addChar c false)
      | _ => goOn (state.addChar c isQuoted)

/-- Reads the parts of a word up to what ends them. -/
def parts (grammar : Grammar) (context : WordContext) : Parser (Word × Bool) := do
  let outer ← get
  if context ≠ .bare then set { outer with mayAssign := false }
  let state ← partsFrom grammar context (← enough) { line := outer.line }
  modify fun reader => { reader with mayAssign := outer.mayAssign }
  return (merge state.parts.reverse, if context = .arithmetic then state.isOther else state.isQuoted)

/-! ## Text that follows a command -/

/-- Reads lines up to the one that ends a document. -/
def documentLines (document : PendingDocument) : Nat → Parser ByteText
  | 0 => return []
  | fuel + 1 => do
    let reader ← get
    if reader.rest.isEmpty then
      let warning := ascii "warning: here-document at line " ++ ByteText.ofNat document.line
        ++ ascii " delimited by end-of-file (wanted \x60" ++ document.delimiter ++ ascii "')"
      set { reader with warnings := reader.warnings ++ [(reader.line - 1, warning)] }
      return []
    else
      let strip := fun (text : ByteText) =>
        if document.stripsTabs then text.dropWhile (· = '\t') else text
      let line := reader.rest.takeWhile (· != '\n')
      let rest := reader.rest.drop (line.length + 1)
      let isEnded := line.length < reader.rest.length
      set { reader with
        rest := rest, line := if isEnded then reader.line + 1 else reader.line, lineStart := rest }
      if strip line = document.delimiter then return []
      else
        let more ← documentLines document fuel
        return strip line ++ (if isEnded then ['\n'] else []) ++ more

/-- Reads the texts that follow this line. -/
def pendingDocuments (grammar : Grammar) : List PendingDocument → Parser Unit
  | [] => return ()
  | document :: rest => do
    let text ← documentLines document (← enough)
    let word ←
      if document.expands then do
        let (word, _) ← within text (grammar.parts .document)
        pure word
      else pure [.text text true]
    modify fun reader =>
      { reader with documents := (document.number, word) :: reader.documents }
    pendingDocuments grammar rest

/-- Reads the texts that follow this line, if any do. -/
def readDocuments (grammar : Grammar) : Parser Unit := do
  let pending := (← get).pending
  modify fun reader => { reader with pending := [] }
  pendingDocuments grammar pending

end Parser

end SchemaDocs.Shell
