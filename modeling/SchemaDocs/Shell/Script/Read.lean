import SchemaDocs.Shell.Script.Word
/-!
# Reading scripts

A script is read line by line: a command is read, run, and only then the next one is
looked at.  Where something else is expected than what stands there, reading fails with
the names of both.
-/

namespace SchemaDocs.Shell

namespace Parser

/-! ## Tokens -/

/-- The mark of a redirection after its first character. -/
def redirectMark : Char → Parser RedirectMark
  | '>' => do
    match ← peekJoined with
    | some '>' => skip; return .append
    | some '|' => skip; return .overwrite
    | some '&' => skip; return .copyOutput
    | _ => return .output
  | _ => do
    match ← peekJoined with
    | some '<' =>
      skip
      match ← peekJoined with
      | some '-' => skip; return .document true
      | some '<' =>
        if ← isBash then
          skip
          return .text
        else return .document false
      | _ => return .document false
    | some '>' => skip; return .both
    | some '&' => skip; return .copyInput
    | _ => return .input

/-- The descriptor that a redirection is about if none is written. -/
def usualDescriptor : RedirectMark → Nat
  | .output => 1
  | .overwrite => 1
  | .append => 1
  | .copyOutput => 1
  | .everything _ => 1
  | _ => 0

/-- Takes an operator that may be doubled. -/
def operator (c : Char) (single double : Token) : Parser Token := do
  skip
  if (← peekJoined) = some c then
    skip
    return double
  else return single

/-- Reads a word or a redirection. -/
def wordToken (grammar : Grammar) : Parser Token := do
  let (word, isQuoted) ← grammar.parts .bare
  let digits : Option ByteText := if isQuoted then none else WordPart.plainText? word
  let isBash ← isBash
  match ← peek, digits with
  | some c, some text =>
    if (c = '<' || c = '>') && text.all Char.isDigit && (text.length ≤ 1 || isBash) then
      skip
      let mark ← redirectMark c
      return .redirect ((ByteText.toNat? text).getD (usualDescriptor mark)) mark
    else return .word word isQuoted
  | _, _ => return .word word isQuoted

/-- Notes where a token begins. -/
def noteStart : Parser Unit :=
  modify fun reader => { reader with lastToken := ⟨reader.rest, reader.line, reader.lineStart⟩ }

/-- Takes an operator that begins with an ampersand. -/
def ampersand : Parser Token := do
  let token ← operator '&' .background .andIf
  match token with
  | .background =>
    if (← isBash) && (← peekJoined) = some '>' then
      skip
      if ← takeIf '>' then return .redirect 1 (.everything true)
      else return .redirect 1 (.everything false)
    else return token
  | token => return token

/-- Takes an operator that begins with a bar. -/
def bar : Parser Token := do
  let token ← operator '|' .pipe .orIf
  match token with
  | .pipe => if (← isBash) && (← takeIf '&') then return .pipeAll else return token
  | token => return token

/-- Takes an operator that begins with a semicolon. -/
def semicolon : Parser Token := do
  let token ← operator ';' .semicolon .doubleSemicolon
  if ← isBash then
    match token with
    | .semicolon => if ← takeIf '&' then return .choiceEnd .fall else return token
    | token => if ← takeIf '&' then return .choiceEnd .search else return token
  else return token

/-- Reads the next token.  Each step passes over a blank or a comment. -/
def freshToken (grammar : Grammar) : Nat → Parser Token
  | 0 => return .endOfFile
  | fuel + 1 => do
    match ← peekJoined with
    | none =>
      noteStart
      return .endOfFile
    | some c =>
      match c with
      | ' ' => skip; freshToken grammar fuel
      | '\t' => skip; freshToken grammar fuel
      | '#' =>
        modify fun reader => { reader with rest := reader.rest.dropWhile (· != '\n') }
        freshToken grammar fuel
      | c =>
        noteStart
        match c with
        | '\n' => skip; return .endOfLine
        | '&' => ampersand
        | '|' => bar
        | ';' => semicolon
        | '(' => skip; return .openParenthesis
        | ')' => skip; return .closeParenthesis
        | _ => wordToken grammar

/-- Turns a word into a reserved word if it is one. -/
def reserve (dialect : Dialect) : Token → Token
  | .word word isQuoted =>
    if isQuoted then .word word isQuoted
    else
      match (WordPart.plainText? word).bind (Keyword.ofText? dialect) with
      | some keyword => .keyword keyword
      | none => .word word isQuoted
  | token => token

/-- Reads the next token, or the one that was given back. -/
def token (grammar : Grammar) (mayBeReserved : Bool) : Parser Token := do
  let read ←
    match (← get).given with
    | some token =>
      modify fun reader => { reader with given := none }
      pure token
    | none => do
      modify fun reader =>
        { reader with mayAssign := reader.mayAssign || (mayBeReserved && reader.dialect = .bash) }
      let read ← freshToken grammar (← enough)
      modify fun reader => { reader with mayAssign := false }
      pure read
  let dialect := (← get).dialect
  return if mayBeReserved then reserve dialect read else read

/-- Reads the next token after the ends of lines.  Each step passes over one. -/
def tokenAfterLinesFrom (grammar : Grammar) (mayBeReserved : Bool) : Nat → Parser Token
  | 0 => return .endOfFile
  | fuel + 1 => do
    let read ← token grammar mayBeReserved
    if read.isEndOfLine then
      readDocuments grammar
      tokenAfterLinesFrom grammar mayBeReserved fuel
    else return read

/-- Reads the next token after the ends of lines. -/
def tokenAfterLines (grammar : Grammar) (mayBeReserved : Bool) : Parser Token := do
  tokenAfterLinesFrom grammar mayBeReserved ((← enough) + 1)

/-! ## Redirections -/

/-- Reads the word of a redirection. -/
def redirection (grammar : Grammar) (descriptor : Nat) (mark : RedirectMark) : Parser Redirect := do
  match ← token grammar false with
  | .word word isQuoted =>
    match mark with
    | .input => return .input descriptor word
    | .output => return .output descriptor word false
    | .overwrite => return .output descriptor word true
    | .append => return .append descriptor word
    | .both => return .both descriptor word
    | .copyInput => return .copy descriptor true word
    | .copyOutput => return .copy descriptor false word
    | .everything appends => return .everything word appends
    | .text => return .text descriptor word
    | .document stripsTabs =>
      let number := (← get).nextDocument
      let delimiter := (word.map fun part =>
        match part with
        | .text chars _ => chars
        | _ => []).flatten
      modify fun reader =>
        { reader with
          nextDocument := number + 1
          pending := reader.pending ++ [⟨number, delimiter, stripsTabs, !isQuoted, reader.line⟩] }
      return .document descriptor number
  | other => unexpected other none

/-- Reads redirections.  Each step reads one. -/
def redirectionsFrom (grammar : Grammar) : Nat → Parser (List Redirect)
  | 0 => return []
  | fuel + 1 => do
    match ← token grammar true with
    | .redirect descriptor mark =>
      let first ← redirection grammar descriptor mark
      return first :: (← redirectionsFrom grammar fuel)
    | other =>
      giveBack other
      return []

/-- Reads redirections. -/
def redirections (grammar : Grammar) : Parser (List Redirect) := do
  redirectionsFrom grammar (← enough)

/-! ## Simple commands -/

/-- The parts of a simple command, the last ones first. -/
structure SimpleParts where
  assignments : List Assignment := []
  words : List (Word × Bool) := []
  redirects : List Redirect := []

/-- The names of functions that are refused because commands of the shell have them. -/
def refusedNames : List ByteText :=
  [".", ":", "break", "continue", "eval", "exec", "exit", "export", "readonly", "return", "set",
    "shift", "times", "trap", "unset"].map ascii

/-- Whether a token may begin the body of a function. -/
def beginsBody : Token → Bool
  | .openParenthesis => true
  | .keyword reserved =>
    [Keyword.openBrace, .ifThat, .whileThat, .untilThat, .forEach, .caseOf, .openTest].contains
      reserved
  | _ => false

/-- Reads the body of a function. -/
def functionBody (grammar : Grammar) (name : ByteText) : Parser Command := do
  let line := (← get).line
  let first ← tokenAfterLines grammar true
  if (← isBash) && !beginsBody first then unexpected first none
  else
    giveBack first
    return .definition line name (← grammar.command)

/-- Reads the body of a function after its name and opening parenthesis. -/
def function (grammar : Grammar) (name : Word) : Parser Command := do
  match ← token grammar true with
  | .closeParenthesis =>
    match WordPart.plainText? name with
    | some text =>
      if (← isBash) || (isName text && !refusedNames.contains text) then functionBody grammar text
      else fail "Bad function name"
    | none => fail "Bad function name"
  | other => unexpected other (some .closeParenthesis)

/-- Reads a function after the word that says that it is one. -/
def namedFunction (grammar : Grammar) : Parser Command := do
  match ← token grammar false with
  | .word word _ =>
    match WordPart.plainText? word with
    | some name =>
      match ← token grammar false with
      | .openParenthesis =>
        match ← token grammar false with
        | .closeParenthesis => functionBody grammar name
        | other => unexpected other none
      | other =>
        giveBack other
        functionBody grammar name
    | none => unexpected (.word word true) none
  | other => unexpected other none

/-- The commands of the shell whose arguments may be assignments to arrays. -/
def assigningNames : List ByteText :=
  ["declare", "typeset", "local", "export", "readonly"].map ascii

/-- Whether the words of a command so far make its arguments assignments. -/
def assignsByWords (words : List (Word × Bool)) : Bool :=
  let names := words.reverse.map fun (word, _) => (WordPart.plainText? word).getD []
  match names.dropWhile fun name => name = ascii "command" || name = ascii "builtin" with
  | name :: _ => assigningNames.contains name
  | [] => true

/-- Reads a token of a simple command. -/
def simpleToken (grammar : Grammar) (words : List (Word × Bool)) : Parser Token := do
  if ← isBash then
    modify fun reader => { reader with mayAssign := assignsByWords words }
  token grammar false

/-- Reads the parts of a simple command up to what ends them.  Each step reads one of them. -/
def simpleFrom (grammar : Grammar) (line : Nat) : Nat → SimpleParts → Parser Command
  | 0, _ => return default
  | fuel + 1, parts => do
    let finish : Parser Command :=
      return .simple line parts.assignments.reverse (parts.words.map Prod.fst).reverse
        parts.redirects.reverse
    let dialect := (← get).dialect
    match ← simpleToken grammar parts.words with
    | .word word isQuoted =>
      match if parts.words.isEmpty then WordPart.assignment? dialect word else none with
      | some assignment =>
        simpleFrom grammar line fuel { parts with assignments := assignment :: parts.assignments }
      | none => simpleFrom grammar line fuel { parts with words := (word, isQuoted) :: parts.words }
    | .redirect descriptor mark =>
      let redirect ← redirection grammar descriptor mark
      simpleFrom grammar line fuel { parts with redirects := redirect :: parts.redirects }
    | .openParenthesis =>
      match parts.words, parts.assignments, parts.redirects with
      | [(name, _)], [], [] => function grammar name
      | _, _, _ =>
        giveBack .openParenthesis
        finish
    | other =>
      giveBack other
      finish

/-! ## Compound commands -/

/-- Reads a list of commands that must not be empty. -/
def body (grammar : Grammar) : Parser Command := do
  return (← grammar.list .body).getD default

/-- Takes a reserved word, or fails. -/
def expectKeyword (grammar : Grammar) (word : Keyword) : Parser Unit := do
  let read ← token grammar true
  if read.isKeyword word then return () else unexpected read (some (.keyword word))

/-- Reads a branch after its first word.  Each step reads a test. -/
def branchFrom (grammar : Grammar) : Nat → Parser Command
  | 0 => return default
  | fuel + 1 => do
    let test ← body grammar
    expectKeyword grammar .then
    let first ← body grammar
    match ← token grammar true with
    | .keyword .elseIf => return .branch test first (some (← branchFrom grammar fuel))
    | .keyword .otherwise =>
      let second ← body grammar
      return .branch test first (some second)
    | other =>
      giveBack other
      return .branch test first none

/-- Reads a loop after its first word. -/
def loop (grammar : Grammar) (isUntil : Bool) : Parser Command := do
  let test ← body grammar
  expectKeyword grammar .doLoop
  let inner ← body grammar
  return .loop isUntil test inner

/-- Reads words up to the end of a line or a semicolon.  Each step reads one of them. -/
def wordList (grammar : Grammar) : Nat → Parser (List Word)
  | 0 => return []
  | fuel + 1 => do
    match ← token grammar false with
    | .word word _ => return word :: (← wordList grammar fuel)
    | .endOfLine => giveBack .endOfLine; return []
    | .semicolon => return []
    | other => unexpected other none

/-- Takes the token that closes a compound command, or fails. -/
def close (grammar : Grammar) (wanted : Token) (isWanted : Token → Bool) : Parser Unit := do
  let read ← token grammar true
  if isWanted read then return () else unexpected read (some wanted)

/-- Reads the body of an iteration with the words around it. -/
def iterationBody (grammar : Grammar) : Parser Command := do
  let next ← tokenAfterLines grammar true
  let closed (word : Keyword) : Parser Command := do
    let inner ← body grammar
    close grammar (.keyword word) (Token.isKeyword word)
    return inner
  if next.isKeyword .doLoop then closed .done
  else if (← isBash) && next.isKeyword .openBrace then closed .closeBrace
  else unexpected next (some (.keyword .doLoop))

/-- Reads a loop over numbers after its first parenthesis. -/
def counting (grammar : Grammar) (line : Nat) : Parser Command := do
  skip
  match ← arithmetic? grammar with
  | some expression =>
    match WordPart.splitText ';' expression with
    | [start, test, step] =>
      match ← token grammar true with
      | .semicolon => pure ()
      | other => giveBack other
      return .counting line start test step (← iterationBody grammar)
    | _ => fail "arithmetic expression required"
  | none => unexpected .openParenthesis none

/-- Reads an iteration after its first word. -/
def iteration (grammar : Grammar) (line : Nat) : Parser Command := do
  let badName : Parser Command := do
    if ← isBash then unexpected (.word [] false) none else fail "Bad for loop variable"
  match ← token grammar false with
  | .word word isQuoted =>
    match if isQuoted then none else WordPart.plainText? word with
    | some name =>
      if isName name || (← isBash) then
        let words ←
          match ← tokenAfterLines grammar true with
          | .keyword .inside => wordList grammar (← enough)
          | .semicolon => pure [[.parameter ['@'] true]]
          | other =>
            giveBack other
            pure [[.parameter ['@'] true]]
        return .iteration line name words (← iterationBody grammar)
      else badName
    | none => badName
  | .openParenthesis =>
    if (← isBash) && (← peek) = some '(' then counting grammar line else badName
  | other => if ← isBash then unexpected other none else badName

/-- The word of a token that stands for a pattern. -/
def patternWord : Token → Word
  | .word word _ => word
  | .keyword keyword => [.text (ascii keyword.text) false]
  | _ => []

/-- Reads the patterns of a choice up to a closing parenthesis.  Each step reads one of them. -/
def patternsFrom (grammar : Grammar) : Nat → Token → Parser (List Word)
  | 0, _ => return []
  | fuel + 1, first => do
    if (← isBash) && !isPatternToken first then unexpected first none
    else
      match ← token grammar false with
      | .pipe =>
        let next ← token grammar false
        return patternWord first :: (← patternsFrom grammar fuel next)
      | .closeParenthesis => return [patternWord first]
      | other => unexpected other (some .closeParenthesis)
where
  /-- Whether a token stands for a pattern. -/
  isPatternToken : Token → Bool
    | .word .. => true
    | .keyword _ => true
    | _ => false

/-- Reads the choices of a selection.  Each step reads one of them. -/
def choicesFrom (grammar : Grammar) : Nat →
    Parser (List (List Word × Option Command × ChoiceEnd))
  | 0 => return []
  | fuel + 1 => do
    let first ← tokenAfterLines grammar true
    if first.isKeyword .esac then return []
    else
      let first ←
        match first with
        | .openParenthesis => token grammar false
        | other => pure other
      let patterns ← patternsFrom grammar (← enough) first
      let inner ← grammar.list .any
      match ← tokenAfterLines grammar true with
      | .keyword .esac => return [(patterns, inner, .stop)]
      | .doubleSemicolon => return (patterns, inner, .stop) :: (← choicesFrom grammar fuel)
      | .choiceEnd ending => return (patterns, inner, ending) :: (← choicesFrom grammar fuel)
      | other => unexpected other (some .doubleSemicolon)

/-- Reads a selection after its first word. -/
def selection (grammar : Grammar) (line : Nat) : Parser Command := do
  match ← token grammar false with
  | .word word _ =>
    let next ← tokenAfterLines grammar true
    if next.isKeyword .inside then return .selection line word (← choicesFrom grammar (← enough))
    else unexpected next (some (.keyword .inside))
  | other => unexpected other (some (.word [] false))

/-- Reads the redirections behind a compound command. -/
def withRedirections (grammar : Grammar) (line : Nat) (command : Command) : Parser Command := do
  match ← redirections grammar with
  | [] => return command
  | redirects =>
    match command with
    | .subshell line inner _ => return .subshell line inner redirects
    | other => return .redirected line other redirects

/-! ## Conditions -/

/-- A word of a condition, or a mark that stands for itself there. -/
def testWord : Token → Option (Word × ByteText)
  | .word word false => some (word, (WordPart.plainText? word).getD [])
  | .word word true => some (word, [])
  | .redirect 0 .input => some ([], ['<'])
  | .redirect 1 .output => some ([], ['>'])
  | _ => none

/-- Whether a word stands before an operand. -/
def isUnaryTest (text : ByteText) : Bool :=
  match text with
  | ['-', c] => (ascii "abcdefghknoprstuvwxzGLNORS").contains c
  | _ => false

/-- Whether a word stands between operands. -/
def isBinaryTest (text : ByteText) : Bool :=
  (["=", "==", "!=", "<", ">", "=~", "-eq", "-ne", "-gt", "-ge", "-lt", "-le", "-nt", "-ot",
    "-ef"].map ascii).contains text

/-- Fails because of a word in a condition. -/
def failTest {α : Type} (token : Token) (what : String) (wasExpected : Bool) : Parser α := do
  let text ← lastText
  let shown := match token with
    | .endOfLine => ascii "newline"
    | _ => text
  let first :=
    if wasExpected then ascii "unexpected token `" ++ shown ++ ascii "', " ++ ascii what
    else ascii what
  failNear (ascii "syntax error near `" ++ shown ++ ['\'']) [first]

/-- Reads an operand of a condition. -/
def testOperand (grammar : Grammar) (isPattern : Bool) : Parser Word := do
  if isPattern then
    let blanks := fun c => c = ' ' || c = '	'
    let _ ← takeWhile blanks
    noteStart
    let (word, _) ← grammar.parts .regex
    return word
  else
    let read ← token grammar false
    match read with
    | .word word _ =>
      if WordPart.plainText? word = some (ascii "]]") then
        failTest read "unexpected argument `]]' to conditional binary operator" false
      else return word
    | _ => failTest read "unexpected argument to conditional binary operator" false

/-- Reads a single condition that begins with a word. -/
def testAfter (grammar : Grammar) (first : Word) (text : ByteText) : Parser Test := do
  let whole : Test := .unary (ascii "-n") first
  let next ← token grammar false
  let giveUp : Parser Test := do
    giveBack next
    return whole
  match testWord next with
  | some (_, operator) =>
    if isUnaryTest text && !isBinaryTest operator then
      match next with
      | .word word _ =>
        if operator = ascii "]]" then giveUp else return .unary text word
      | _ => giveUp
    else if isBinaryTest operator then
      return .binary operator first (← testOperand grammar (operator = ascii "=~"))
    else if operator = ascii "]]" then giveUp
    else failTest next "conditional binary operator expected" false
  | none =>
    match next with
    | .andIf => giveUp
    | .orIf => giveUp
    | .closeParenthesis => giveUp
    | .endOfLine => failTest next "conditional binary operator expected" true
    | _ => failTest next "conditional binary operator expected" true

/-- Reads a condition of some looseness: two for one of which a part has to hold, one for one all of
whose parts have to, none for a single one.  Each step goes a level down or takes a word. -/
def testFrom (grammar : Grammar) : Nat → Nat → Parser Test
  | 0, _ => fail "too deeply nested"
  | fuel + 1, 2 => do
    let first ← testFrom grammar fuel 1
    match ← tokenAfterLines grammar false with
    | .orIf => return .or first (← testFrom grammar fuel 2)
    | other =>
      giveBack other
      return first
  | fuel + 1, 1 => do
    let first ← testFrom grammar fuel 0
    match ← tokenAfterLines grammar false with
    | .andIf => return .and first (← testFrom grammar fuel 1)
    | other =>
      giveBack other
      return first
  | fuel + 1, _ => do
    let read ← tokenAfterLines grammar false
    match read with
    | .openParenthesis =>
      let inner ← testFrom grammar fuel 2
      match ← tokenAfterLines grammar false with
      | .closeParenthesis => return inner
      | other => failTest other "expected `)'" true
    | .word word isQuoted =>
      let text := if isQuoted then [] else (WordPart.plainText? word).getD []
      if text = ['!'] then return .not (← testFrom grammar fuel 0)
      else if text = ascii "]]" then failTest read "conditional command" true
      else testAfter grammar word text
    | other => failTest other "conditional command" true

/-- Reads a condition up to the brackets that close it. -/
def test (grammar : Grammar) (line : Nat) : Parser Command := do
  let groups := (← get).groupsPatterns
  modify fun reader => { reader with groupsPatterns := true }
  let whole ← testFrom grammar (4 * (← enough)) 2
  let last ← tokenAfterLines grammar false
  match last with
  | .word word false =>
    if WordPart.plainText? word = some (ascii "]]") then
      modify fun reader => { reader with groupsPatterns := groups }
      return .test line whole
    else failTest last "syntax error in conditional expression" false
  | _ => failTest last "syntax error in conditional expression" true

/-! ## All commands -/

/-- The text that a token stands for as the first word of a command. -/
def aliasOf? (aliases : List (ByteText × ByteText)) : Token → Option (ByteText × ByteText)
  | .word word isQuoted =>
    if isQuoted then none
    else
      match WordPart.plainText? word with
      | some text => aliases.find? fun entry => entry.1 = text
      | none => none
  | _ => none

/-- Reads the first token of a command.  A word may stand for other text, in which it stands for
itself.  Each step replaces a word. -/
def firstToken (grammar : Grammar) : Nat → List (ByteText × ByteText) → Parser Token
  | 0, _ => token grammar true
  | fuel + 1, aliases => do
    let read ← token grammar true
    match aliasOf? aliases read with
    | none => return read
    | some (name, text) =>
      modify fun reader => { reader with rest := text ++ reader.rest }
      firstToken grammar fuel (aliases.filter fun entry => entry.1 != name)

/-- Reads a command that stands between parentheses, after the first of them. -/
def parenthesized (grammar : Grammar) (line : Nat) : Parser Command := do
  let subshell : Parser Command := do
    let inner ← body grammar
    match ← token grammar true with
    | .closeParenthesis => withRedirections grammar line (.subshell line inner [])
    | other => unexpected other (some .closeParenthesis)
  if (← isBash) && (← peek) = some '(' then
    let before ← get
    skip
    match ← arithmetic? grammar with
    | some expression => withRedirections grammar line (.arithmetic line expression)
    | none =>
      set before
      subshell
  else subshell

/-- Reads a command. -/
def command (grammar : Grammar) : Parser Command := do
  let line := (← get).line
  let aliases := (← get).aliases
  let closed (word : Keyword) (inner : Parser Command) : Parser Command := do
    let command ← inner
    close grammar (.keyword word) (Token.isKeyword word)
    withRedirections grammar line command
  match ← firstToken grammar (aliases.length + 1) aliases with
  | .keyword .ifThat => closed .fi do branchFrom grammar (← enough)
  | .keyword .whileThat => closed .done (loop grammar false)
  | .keyword .untilThat => closed .done (loop grammar true)
  | .keyword .forEach => withRedirections grammar line (← iteration grammar line)
  | .keyword .caseOf => withRedirections grammar line (← selection grammar line)
  | .keyword .openBrace => closed .closeBrace (body grammar)
  | .keyword .function => namedFunction grammar
  | .keyword .openTest => withRedirections grammar line (← test grammar line)
  | .openParenthesis => parenthesized grammar line
  | .word word isQuoted =>
    giveBack (.word word isQuoted)
    simpleFrom grammar line (← enough) {}
  | .redirect descriptor mark =>
    giveBack (.redirect descriptor mark)
    simpleFrom grammar line (← enough) {}
  | other => unexpected other none

/-! ## Lists -/

/-- A command with one more redirection. -/
def redirectedTo (redirect : Redirect) : Command → Command
  | .simple line assignments words redirects =>
    .simple line assignments words (redirects ++ [redirect])
  | .redirected line inner redirects => .redirected line inner (redirects ++ [redirect])
  | .subshell line inner redirects => .subshell line inner (redirects ++ [redirect])
  | other => .redirected 0 other [redirect]

/-- Reads the commands of a pipeline after the first.  Each step reads one of them. -/
def pipelineFrom (grammar : Grammar) (first : Command) : Nat → Parser (List Command)
  | 0 => return [first]
  | fuel + 1 => do
    let follow (first : Command) : Parser (List Command) := do
      giveBack (← tokenAfterLines grammar true)
      let next ← grammar.command
      return first :: (← pipelineFrom grammar next fuel)
    match ← token grammar true with
    | .pipe => follow first
    | .pipeAll => follow (redirectedTo (.copy 2 false [.text ['1'] false]) first)
    | other =>
      giveBack other
      return [first]

/-- Whether a token ends a command before it has begun. -/
def endsCommand : Token → Bool
  | .endOfFile => true
  | .endOfLine => true
  | .semicolon => true
  | token => token.endsList

/-- Reads a pipeline.  Each step takes a word before it. -/
def pipelineAfter (grammar : Grammar) : Nat → Parser Command
  | 0 => return default
  | fuel + 1 => do
    let first ← token grammar true
    if first.isKeyword .not then
      if ← isBash then return .negation (← pipelineAfter grammar fuel)
      else
        giveBack (← token grammar true)
        return .negation (← unmarkedPipeline)
    else if first.isKeyword .time then
      let next ← token grammar true
      let isPlain := isWord "-p" next
      let next ← if isPlain then token grammar true else pure next
      giveBack next
      if endsCommand next then return .timed isPlain none
      else return .timed isPlain (some (← pipelineAfter grammar fuel))
    else
      giveBack first
      unmarkedPipeline
where
  /-- Whether a token is a word of some text. -/
  isWord (text : String) : Token → Bool
    | .word word false => WordPart.plainText? word = some (ascii text)
    | _ => false
  /-- Reads a pipeline without words before it. -/
  unmarkedPipeline : Parser Command := do
    let first ← grammar.command
    match ← pipelineFrom grammar first (← enough) with
    | [command] => return command
    | commands => return .pipeline commands

/-- Reads a pipeline. -/
def pipeline (grammar : Grammar) : Parser Command := do
  pipelineAfter grammar (← enough)

/-- Reads pipelines that hang on the ones before them.  Each step reads one of them. -/
def conditionsFrom (grammar : Grammar) : Nat → Command → Parser Command
  | 0, first => return first
  | fuel + 1, first => do
    match ← token grammar true with
    | .andIf =>
      giveBack (← tokenAfterLines grammar true)
      conditionsFrom grammar fuel (.conjunction first (← pipeline grammar))
    | .orIf =>
      giveBack (← tokenAfterLines grammar true)
      conditionsFrom grammar fuel (.disjunction first (← pipeline grammar))
    | other =>
      giveBack other
      return first

/-- A command after those before it. -/
def joined (before : Option Command) (next : Command) : Command :=
  match before with
  | none => next
  | some before => .sequence before next

/-- Reads the commands of a list.  Each step reads one of them. -/
def listFrom (grammar : Grammar) (kind : ListKind) :
    Nat → Bool → Option Command → Parser (Option Command)
  | 0, _, before => return before
  | fuel + 1, mayEnd, before => do
    let first ←
      if kind = .line then token grammar true else tokenAfterLines grammar true
    match first with
    | .endOfLine =>
      readDocuments grammar
      return before
    | .endOfFile =>
      readDocuments grammar
      giveBack .endOfFile
      if kind = .line || mayEnd then return before else unexpected .endOfFile none
    | first =>
      giveBack first
      if kind ≠ .line && mayEnd && first.endsList then return before
      else
        let line := (← get).line
        let next ← conditionsFrom grammar (← enough) (← pipeline grammar)
        match ← token grammar true with
        | .background =>
          listFrom grammar kind fuel true (some (joined before (.background line next)))
        | .semicolon => listFrom grammar kind fuel true (some (joined before next))
        | .endOfLine =>
          giveBack .endOfLine
          listFrom grammar kind fuel true (some (joined before next))
        | .endOfFile =>
          readDocuments grammar
          giveBack .endOfFile
          return some (joined before next)
        | other =>
          if kind = .line then unexpected other none
          else
            giveBack other
            return some (joined before next)

/-- Reads a list of commands. -/
def list (grammar : Grammar) (kind : ListKind) : Parser (Option Command) := do
  listFrom grammar kind ((← enough) + 1) (kind = .any) none

end Parser

/-- How scripts are read whose parts are nested in so many levels. -/
def Grammar.ofDepth : Nat → Grammar
  | 0 =>
    { list := fun _ => Parser.fail "too deeply nested"
      command := Parser.fail "too deeply nested"
      parts := fun _ => Parser.fail "too deeply nested"
      token := fun _ => Parser.fail "too deeply nested" }
  | depth + 1 =>
    let inner := Grammar.ofDepth depth
    { list := Parser.list inner
      command := Parser.command inner
      parts := Parser.parts inner
      token := Parser.token inner }

/-- The greatest number of levels that are read. -/
def Grammar.deepest : Nat := 400

/-- How scripts are read. -/
def Grammar.full : Grammar := Grammar.ofDepth Grammar.deepest

/-- Reads the next line of a script, which may hold no command.  At its end there is none. -/
def readLine (grammar : Grammar) (reader : Reader) :
    Except ScriptError (Option (Option Command × Reader)) :=
  if reader.rest.isEmpty then .ok none
  else
    match (Parser.list grammar .line).run { reader with given := none } with
    | .error fault => .error fault
    | .ok (command, reader) => .ok (some (command, reader))

end SchemaDocs.Shell
