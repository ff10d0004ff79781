import SchemaDocs.Shell.Tool.Indent.Token
/-!
# Reading programs of indented blocks

Tokens are put together to expressions and statements by descending through the rules.  Every
step that goes a level down or takes a token uses up a bound that follows from their number.
-/

namespace SchemaDocs.Shell.Indent

/-- What is known while tokens are read. -/
structure Cursor where
  rest : List Token
  /-- The place of the token that was taken last. -/
  last : Span := ⟨1, 0, 1, 0⟩

/-- A step of reading tokens. -/
abbrev Reading := StateT Cursor (Except SyntaxFault)

namespace Reading

/-- The next token. -/
def peek : Reading Token := do return (← get).rest.head?.getD ⟨.ended, (← get).last⟩

/-- The token after the next one. -/
def peekAfter : Reading TokenKind := do
  return (((← get).rest[1]?).map Token.kind).getD .ended

/-- Takes a token. -/
def take : Reading Token := do
  let token ← peek
  modify fun cursor => { cursor with rest := cursor.rest.drop 1, last := token.span }
  return token

/-- Fails at a place. -/
def failAt {α : Type} (span : Span) (message : String) (kind : String := "SyntaxError") :
    Reading α :=
  throw { kind := kind, message := message.toList, span := span }

/-- Fails at the next token. -/
def fail {α : Type} : Reading α := do
  let token ← peek
  match token.kind with
  | .indent => failAt token.span "unexpected indent" "IndentationError"
  | _ => failAt token.span "invalid syntax"

/-- Whether the next token is a sign. -/
def isSign (sign : String) : Reading Bool := do
  match (← peek).kind with
  | .sign other => return other = sign
  | _ => return false

/-- Whether the next token is a word. -/
def isWord (word : String) : Reading Bool := do
  match (← peek).kind with
  | .name other => return other = word
  | _ => return false

/-- Takes a sign if it is the next token. -/
def accept (sign : String) : Reading Bool := do
  if ← isSign sign then
    let _ ← take
    return true
  else return false

/-- Takes a word if it is the next token. -/
def acceptWord (word : String) : Reading Bool := do
  if ← isWord word then
    let _ ← take
    return true
  else return false

/-- Takes a sign that has to follow. -/
def expect (sign : String) : Reading Unit := do
  if !(← accept sign) then
    if sign = ":" then failAt (← peek).span "expected ':'" else fail

/-- Takes the colon behind the head of a block.  Only at the end of a line it is told to be missing, unless
it always has to follow. -/
def expectColon (isAlways : Bool) : Reading Unit := do
  if !(← accept ":") then
    match (← peek).kind with
    | .lineEnd => failAt (← peek).span "expected ':'"
    | .ended => failAt (← peek).span "expected ':'"
    | _ => if isAlways then failAt (← peek).span "expected ':'" else fail

/-- Takes a word that has to follow. -/
def expectWord (word : String) : Reading Unit := do if !(← acceptWord word) then fail

/-- The words that are no names. -/
def keywords : List String :=
  ["False", "None", "True", "and", "as", "assert", "async", "await", "break", "class", "continue",
   "def", "del", "elif", "else", "except", "finally", "for", "from", "global", "if", "import", "in",
   "is", "lambda", "nonlocal", "not", "or", "pass", "raise", "return", "try", "while", "with",
   "yield"]

/-- Takes a name. -/
def identifier : Reading String := do
  match (← peek).kind with
  | .name name =>
    if keywords.contains name then fail
    else
      let _ ← take
      return name
  | _ => fail

/-- An expression with its place, from a token on. -/
def placed (start : Span) (inner : Expr) : Reading Expr := do
  return .placed (start.upTo (← get).last) inner

/-- An expression without its place. -/
def bare : Expr → Expr
  | .placed _ inner => bare inner
  | e => e

/-- What an expression is called that cannot be assigned to, if it cannot. -/
def unassignable? (e : Expr) : Option String :=
  match bare e with
  | .name _ => none
  | .member _ _ => none
  | .subscript _ _ => none
  | .tuple _ => none
  | .list _ => none
  | .starred _ => none
  | .literal .nothing => some "None"
  | .literal (.bool b) => some (if b then "True" else "False")
  | .literal .ellipsis => some "ellipsis"
  | .literal _ => some "literal"
  | .call _ _ => some "function call"
  | .unary _ _ => some "expression"
  | .binary _ _ _ => some "expression"
  | .and _ _ => some "expression"
  | .or _ _ => some "expression"
  | .compare _ _ => some "comparison"
  | .function _ _ => some "lambda"
  | .choose _ _ _ => some "conditional expression"
  | .dict _ => some "dict literal"
  | .set _ => some "set display"
  | .format _ => some "f-string expression"
  | .comprehension .list _ _ _ => some "list comprehension"
  | .comprehension .generator _ _ _ => some "generator expression"
  | .give _ _ => some "yield expression"
  | _ => some "expression"

/-- The place of an expression. -/
def spanOf (e : Expr) (other : Span) : Span :=
  match e with
  | .placed span _ => span
  | _ => other

/-- Fails unless an expression can be assigned to. -/
def checkTarget (e : Expr) : Reading Unit := do
  match unassignable? e with
  | none => return ()
  | some word =>
    let isConstant := word = "None" || word = "True" || word = "False"
    failAt (spanOf e (← get).last) ("cannot assign to " ++ word
      ++ (if isConstant then "" else " here. Maybe you meant '==' instead of '='?"))

/-- The operations that bind two values, level by level from the loosest one on. -/
def levels : List (List (String × Operator)) :=
  [[("|", .or)], [("^", .xor)], [("&", .and)], [("<<", .shiftLeft), (">>", .shiftRight)],
   [("+", .add), ("-", .subtract)],
   [("*", .multiply), ("/", .divide), ("//", .floorDivide), ("%", .remainder), ("@", .matrix)]]

/-- The operations that change a place. -/
def updates : List (String × Operator) :=
  [("+=", .add), ("-=", .subtract), ("*=", .multiply), ("/=", .divide), ("//=", .floorDivide),
   ("%=", .remainder), ("**=", .power), ("<<=", .shiftLeft), (">>=", .shiftRight), ("&=", .and),
   ("|=", .or), ("^=", .xor), ("@=", .matrix)]

/-- The comparison that the next tokens stand for, which are taken. -/
def comparison? : Reading (Option Comparison) := do
  let one (comparison : Comparison) : Reading (Option Comparison) := do
    let _ ← take
    return some comparison
  match (← peek).kind with
  | .sign "==" => one .equal
  | .sign "!=" => one .notEqual
  | .sign "<" => one .less
  | .sign "<=" => one .lessEqual
  | .sign ">" => one .greater
  | .sign ">=" => one .greaterEqual
  | .name "in" => one .isIn
  | .name "not" =>
    match ← peekAfter with
    | .name "in" =>
      let _ ← take
      one .notIn
    | _ => return none
  | .name "is" =>
    let _ ← take
    if ← acceptWord "not" then return some .notSame else return some .same
  | _ => return none

/-! ## Texts with values -/

/-- The expression at the start of a text between braces, up to the sign that ends it.  Each step takes
a character. -/
def valueLength : Nat → Nat → Nat → List Char → Nat
  | 0, _, length, _ => length
  | _ + 1, _, length, [] => length
  | fuel + 1, depth, length, c :: rest =>
    if c = '\'' || c = '"' then
      let inner := rest.takeWhile (· != c)
      valueLength fuel depth (length + inner.length + 2) (rest.drop (inner.length + 1))
    else if c = '(' || c = '[' || c = '\x7b' then valueLength fuel (depth + 1) (length + 1) rest
    else if depth != 0 && (c = ')' || c = ']' || c = '\x7d') then
      valueLength fuel (depth - 1) (length + 1) rest
    else if depth != 0 then valueLength fuel depth (length + 1) rest
    else if c = '\x7d' || c = ':' then length
    else if c = '!' && rest.head? != some '=' then length
    else if (c = '!' || c = '=' || c = '<' || c = '>') && rest.head? = some '=' then
      valueLength fuel depth (length + 2) (rest.drop 1)
    else if c = '=' then length
    else valueLength fuel depth (length + 1) rest

/-- A text up to the brace that closes it. -/
def formatLength : Nat → Nat → Nat → List Char → Nat
  | 0, _, length, _ => length
  | _ + 1, _, length, [] => length
  | fuel + 1, depth, length, c :: rest =>
    if c = '\x7b' then formatLength fuel (depth + 1) (length + 1) rest
    else if c = '\x7d' then
      if depth = 0 then length else formatLength fuel (depth - 1) (length + 1) rest
    else formatLength fuel depth (length + 1) rest

/-- A text with what stands behind backslashes replaced. -/
def plainText (isRaw : Bool) (text : List Char) : List Char :=
  if isRaw then text else (Scanning.unescaped false (text.length + 1) [] text []).1

/-- Puts a text before pieces. -/
def addText (text : List Char) (pieces : List Piece) : List Piece :=
  match text, pieces with
  | [], pieces => pieces
  | text, .text more :: rest => .text (text ++ more) :: rest
  | text, pieces => .text text :: pieces

/-- Fails because something stands where a comma should be. -/
def failMissingComma {α : Type} (next : Reading Expr) (before : Expr) : Reading α := do
  let state ← get
  let start := spanOf before state.last
  let isNamedText : Bool :=
    match bare before, (← peek).kind with
    | .name _, .text _ => true
    | .name _, .formatted _ _ => true
    | _, _ => false
  let ofEnd (isEnd : Bool) : Reading α := do
    if isEnd || isNamedText then fail
    else
      match (do let e ← next; return spanOf e (← get).last : Reading Span).run state with
      | .ok (stop, _) => failAt (start.upTo stop) "invalid syntax. Perhaps you forgot a comma?"
      | .error _ => fail
  match (← peek).kind with
  | .sign sign => ofEnd (sign != "(" && sign != "[" && sign != "\x7b")
  | .name name => ofEnd (keywords.contains name && !(["None", "True", "False", "not", "lambda"].contains name))
  | .ended => fail
  | .lineEnd => fail
  | _ => ofEnd false

/-! ## Expressions -/

mutual

/-- The pieces of a text with values in it. -/
def pieces : Nat → Bool → Bool → Span → List Char → Reading (List Piece)
  | 0, _, _, _, _ => return []
  | fuel + 1, isRaw, isFormat, span, text => do
    let plain := text.takeWhile fun c => c != '\x7b' && c != '\x7d'
    let before := plainText isRaw plain
    match text.drop plain.length with
    | [] => return addText before []
    | '\x7b' :: '\x7b' :: rest =>
      if isFormat then failAt span "f-string: expecting a valid expression after '\x7b'"
      else return addText (before ++ ['\x7b']) (← pieces fuel isRaw isFormat span rest)
    | '\x7d' :: '\x7d' :: rest =>
      return addText (before ++ ['\x7d']) (← pieces fuel isRaw isFormat span rest)
    | '\x7d' :: _ => failAt span "f-string: single '\x7d' is not allowed"
    | _ :: rest =>
      let source := rest.take (valueLength (rest.length + 1) 0 0 rest)
      let rest := rest.drop source.length
      if source.all isSpaceChar then
        failAt span (if rest.isEmpty then "f-string: expecting '\x7d'"
          else "f-string: valid expression required before '\x7d'")
      match tokensAt span.line span.column source with
      | .error fault => throw fault
      | .ok tokens =>
        let outer ← get
        set { outer with rest := tokens }
        let value ← expressions fuel
        match (← peek).kind with
        | .ended => pure ()
        | _ => fail
        set outer
        let (shown, rest) : List Char × List Char :=
          match rest with
          | '=' :: rest =>
            let blanks := rest.takeWhile isSpaceChar
            (source ++ ['='] ++ blanks, rest.drop blanks.length)
          | rest => ([], rest)
        let (conversion, rest) : Option Char × List Char :=
          match rest with
          | '!' :: c :: rest => (some c, rest)
          | rest => (none, rest)
        let (format, rest) : List Char × List Char :=
          match rest with
          | ':' :: rest =>
            let format := rest.take (formatLength (rest.length + 1) 0 0 rest)
            (format, rest.drop format.length)
          | rest => ([], rest)
        match rest with
        | '\x7d' :: rest =>
          let format ← pieces fuel isRaw true span format
          let conversion :=
            if shown.isEmpty || conversion.isSome || !format.isEmpty then conversion else some 'r'
          let later ← pieces fuel isRaw isFormat span rest
          return addText (before ++ shown) (.value value conversion format :: later)
        | _ => failAt span "f-string: expecting '\x7d'"

/-- An expression without a comma on top. -/
def expression : Nat → Reading Expr
  | 0 => fail
  | fuel + 1 => do
    let start := (← peek).span
    if ← acceptWord "lambda" then
      let parameters ← parameters fuel ":" false
      expect ":"
      let body ← expression fuel
      placed start (.function parameters body)
    else
      let first ← disjunction fuel
      if ← acceptWord "if" then
        let condition ← disjunction fuel
        if !(← acceptWord "else") then
          failAt (start.upTo (← get).last) "expected 'else' after 'if' expression"
        let second ← expression fuel
        placed start (.choose condition first second)
      else return first

/-- An expression that may give its value a name. -/
def namedExpression : Nat → Reading Expr
  | 0 => fail
  | fuel + 1 => do
    match (← peek).kind, ← peekAfter with
    | .name name, .sign ":=" =>
      let start := (← peek).span
      let _ ← take
      let _ ← take
      let value ← expression fuel
      placed start (.bind name value)
    | _, _ => expression fuel

/-- Conditions of which one has to hold. -/
def disjunction : Nat → Reading Expr
  | 0 => fail
  | fuel + 1 => do
    let start := (← peek).span
    let first ← conjunction fuel
    if ← acceptWord "or" then
      let second ← disjunction fuel
      placed start (.or first second)
    else return first

/-- Conditions all of which have to hold. -/
def conjunction : Nat → Reading Expr
  | 0 => fail
  | fuel + 1 => do
    let start := (← peek).span
    let first ← negation fuel
    if ← acceptWord "and" then
      let second ← conjunction fuel
      placed start (.and first second)
    else return first

/-- A condition that may be denied. -/
def negation : Nat → Reading Expr
  | 0 => fail
  | fuel + 1 => do
    let start := (← peek).span
    if ← acceptWord "not" then
      let inner ← negation fuel
      placed start (.unary .not inner)
    else comparisons fuel

/-- Values that are compared in a row. -/
def comparisons : Nat → Reading Expr
  | 0 => fail
  | fuel + 1 => do
    let start := (← peek).span
    let first ← operation fuel levels
    let rest ← comparisonRest fuel
    if rest.isEmpty then return first else placed start (.compare first rest)

/-- The comparisons behind a value. -/
def comparisonRest : Nat → Reading (List (Comparison × Expr))
  | 0 => return []
  | fuel + 1 => do
    match ← comparison? with
    | none => return []
    | some comparison =>
      let value ← operation fuel levels
      return (comparison, value) :: (← comparisonRest fuel)

/-- Operations of some levels. -/
def operation : Nat → List (List (String × Operator)) → Reading Expr
  | 0, _ => fail
  | fuel + 1, [] => signed fuel
  | fuel + 1, level :: tighter => do
    let start := (← peek).span
    let first ← operation fuel tighter
    operationRest fuel level tighter start first

/-- The operations of a level behind a value. -/
def operationRest : Nat → List (String × Operator) → List (List (String × Operator)) → Span → Expr →
    Reading Expr
  | 0, _, _, _, first => return first
  | fuel + 1, level, tighter, start, first => do
    match (← peek).kind with
    | .sign sign =>
      match level.find? fun entry => entry.1 = sign with
      | some (_, operator) =>
        let _ ← take
        let second ← operation fuel tighter
        operationRest fuel level tighter start (← placed start (.binary operator first second))
      | none => return first
    | _ => return first

/-- A value behind signs. -/
def signed : Nat → Reading Expr
  | 0 => fail
  | fuel + 1 => do
    let start := (← peek).span
    let prefixed (operator : Prefixed) : Reading Expr := do
      let _ ← take
      let inner ← signed fuel
      placed start (.unary operator inner)
    match (← peek).kind with
    | .sign "-" => prefixed .minus
    | .sign "+" => prefixed .plus
    | .sign "~" => prefixed .invert
    | _ =>
      let base ← primary fuel
      if ← accept "**" then
        let exponent ← signed fuel
        placed start (.binary .power base exponent)
      else return base

/-- A value with what is done to it. -/
def primary : Nat → Reading Expr
  | 0 => fail
  | fuel + 1 => do
    let _ ← acceptWord "await"
    let start := (← peek).span
    let first ← atom fuel
    primaryRest fuel start first

/-- What is done to a value. -/
def primaryRest : Nat → Span → Expr → Reading Expr
  | 0, _, value => return value
  | fuel + 1, start, value => do
    match (← peek).kind with
    | .sign "." =>
      let _ ← take
      let name ← identifier
      primaryRest fuel start (← placed start (.member value name))
    | .sign "(" =>
      let _ ← take
      let arguments ← arguments fuel
      expect ")"
      primaryRest fuel start (← placed start (.call value arguments))
    | .sign "[" =>
      let _ ← take
      let first ← subscript fuel
      let index ←
        if ← isSign "," then do
          let rest ← subscripts fuel
          pure (Expr.tuple (first :: rest))
        else pure first
      expect "]"
      primaryRest fuel start (← placed start (.subscript value index))
    | _ => return value

/-- What stands between brackets behind a value. -/
def subscript : Nat → Reading Expr
  | 0 => fail
  | fuel + 1 => do
    let isEnd : Reading Bool := do
      return (← isSign ":") || (← isSign "]") || (← isSign ",")
    let start ← if ← isEnd then pure none else do
      if ← isSign "*" then
        let _ ← take
        pure (some (Expr.starred (← expression fuel)))
      else pure (some (← namedExpression fuel))
    if ← accept ":" then
      let stop ← if ← isEnd then pure none else do pure (some (← expression fuel))
      let step ←
        if ← accept ":" then do
          if ← isEnd then pure none else do pure (some (← expression fuel))
        else pure none
      return .slice start stop step
    else
      match start with
      | some value => return value
      | none => fail

/-- More of what stands between brackets, each behind a comma. -/
def subscripts : Nat → Reading (List Expr)
  | 0 => return []
  | fuel + 1 => do
    if ← accept "," then
      if ← isSign "]" then return []
      else
        let first ← subscript fuel
        return first :: (← subscripts fuel)
    else return []

/-- The arguments of a call. -/
def arguments : Nat → Reading (List Argument)
  | 0 => return []
  | fuel + 1 => do
    if ← isSign ")" then return []
    else
      let (argument, value) : Argument × Expr ← do
        if ← accept "*" then
          let value ← expression fuel
          pure (.all value, value)
        else if ← accept "**" then
          let value ← expression fuel
          pure (.allNamed value, value)
        else
          match (← peek).kind, ← peekAfter with
          | .name name, .sign "=" =>
            let _ ← take
            let _ ← take
            let value ← expression fuel
            pure (.named name value, value)
          | _, _ =>
            let start := (← peek).span
            let value ← namedExpression fuel
            if ← isWord "for" then
              let clauses ← clauses fuel
              let whole ← placed start (.comprehension .generator value none clauses)
              pure (.plain whole, whole)
            else pure (.plain value, value)
      if ← accept "," then
        let rest ← arguments fuel
        match argument, rest with
        | .named _ _, .plain _ :: _ =>
          failAt (← closeOf) "positional argument follows keyword argument"
        | .allNamed _, .plain _ :: _ =>
          failAt (← closeOf) "positional argument follows keyword argument unpacking"
        | _, _ => return argument :: rest
      else if ← isSign ")" then return [argument]
      else failMissingComma (expression fuel) value
where
  /-- The place of the next token. -/
  closeOf : Reading Span := do
    let span := (← peek).span
    return { span with endLine := span.line, endColumn := span.column + 1 }

/-- The clauses of a comprehension. -/
def clauses : Nat → Reading (List Clause)
  | 0 => return []
  | fuel + 1 => do
    let _ ← acceptWord "async"
    if ← acceptWord "for" then
      let target ← targets fuel
      expectWord "in"
      let values ← disjunction fuel
      return .each target values :: (← clauses fuel)
    else if ← acceptWord "if" then
      let condition ← condition fuel
      return .only condition :: (← clauses fuel)
    else return []

/-- A condition in a comprehension. -/
def condition : Nat → Reading Expr
  | 0 => fail
  | fuel + 1 => do
    match (← peek).kind, ← peekAfter with
    | .name _, .sign ":=" => namedExpression fuel
    | _, _ => if ← isWord "lambda" then expression fuel else disjunction fuel

/-- The targets of a loop: values that are assigned to, perhaps with commas between them. -/
def targets : Nat → Reading Expr
  | 0 => fail
  | fuel + 1 => do
    let start := (← peek).span
    let first ← target fuel
    if ← isSign "," then
      let rest ← targetRest fuel
      placed start (.tuple (first :: rest))
    else return first

/-- A target of a loop. -/
def target : Nat → Reading Expr
  | 0 => fail
  | fuel + 1 => do
    if ← accept "*" then return .starred (← primary fuel)
    else
      let value ← primary fuel
      checkTarget value
      return value

/-- More targets of a loop. -/
def targetRest : Nat → Reading (List Expr)
  | 0 => return []
  | fuel + 1 => do
    if ← accept "," then
      if (← isWord "in") || (← isSign "=") then return []
      else
        let first ← target fuel
        return first :: (← targetRest fuel)
    else return []

/-- Expressions with commas between them, which make a tuple. -/
def expressions : Nat → Reading Expr
  | 0 => fail
  | fuel + 1 => do
    let start := (← peek).span
    if ← isWord "yield" then giving fuel
    else
      let first ← starredOr fuel
      if ← isSign "," then
        let rest ← expressionRest fuel
        placed start (.tuple (first :: rest))
      else return first

/-- A value that is given to who goes through the values of a function. -/
def giving : Nat → Reading Expr
  | 0 => fail
  | fuel + 1 => do
    let start := (← peek).span
    expectWord "yield"
    if ← acceptWord "from" then
      let value ← expression fuel
      placed start (.give (some value) true)
    else if (← isSign ")") || (← isSign "]") || (← isSign "=") || (← isSign ";") then
      placed start (.give none false)
    else
      match (← peek).kind with
      | .lineEnd => placed start (.give none false)
      | .ended => placed start (.give none false)
      | _ =>
        let value ← expressions fuel
        placed start (.give (some value) false)

/-- An expression, or one whose values are put in. -/
def starredOr : Nat → Reading Expr
  | 0 => fail
  | fuel + 1 => do
    if ← accept "*" then return .starred (← operation fuel levels) else namedExpression fuel

/-- More expressions, each behind a comma. -/
def expressionRest : Nat → Reading (List Expr)
  | 0 => return []
  | fuel + 1 => do
    if ← accept "," then
      match (← peek).kind with
      | .lineEnd => return []
      | .ended => return []
      | .sign sign =>
        if [")", "]", "\x7d", "=", ":", ";"].contains sign || updates.any (fun e => e.1 = sign) then
          return []
        else
          let first ← starredOr fuel
          return first :: (← expressionRest fuel)
      | _ =>
        let first ← starredOr fuel
        return first :: (← expressionRest fuel)
    else return []

/-- A value that stands alone. -/
def atom : Nat → Reading Expr
  | 0 => fail
  | fuel + 1 => do
    let token ← peek
    let start := token.span
    let literal (value : Literal) : Reading Expr := do
      let _ ← take
      placed start (.literal value)
    match token.kind with
    | .number value => literal value
    | .text _ => texts fuel start
    | .formatted _ _ => texts fuel start
    | .bytes _ => texts fuel start
    | .name "None" => literal .nothing
    | .name "True" => literal (.bool true)
    | .name "False" => literal (.bool false)
    | .name name =>
      if keywords.contains name then fail
      else
        let _ ← take
        placed start (.name name)
    | .sign "..." => literal .ellipsis
    | .sign "(" =>
      let _ ← take
      if ← accept ")" then placed start (.tuple [])
      else if ← isWord "yield" then
        let value ← giving fuel
        expect ")"
        return value
      else
        let first ← starredOr fuel
        if ← isWord "for" then
          let clauses ← clauses fuel
          expect ")"
          placed start (.comprehension .generator first none clauses)
        else if ← isSign "," then
          let rest ← expressionRest fuel
          expectClose fuel ")" (rest.getLast?.getD first)
          placed start (.tuple (first :: rest))
        else
          expectClose fuel ")" first
          return first
    | .sign "[" =>
      let _ ← take
      if ← accept "]" then placed start (.list [])
      else
        let first ← starredOr fuel
        if ← isWord "for" then
          let clauses ← clauses fuel
          expect "]"
          placed start (.comprehension .list first none clauses)
        else
          let rest ← expressionRest fuel
          expectClose fuel "]" (rest.getLast?.getD first)
          placed start (.list (first :: rest))
    | .sign "\x7b" =>
      let _ ← take
      braced fuel start
    | _ => fail

/-- Takes the bracket behind values. -/
def expectClose : Nat → String → Expr → Reading Unit
  | 0, _, _ => fail
  | fuel + 1, sign, last => do
    if !(← accept sign) then failMissingComma (expression fuel) last

/-- A set or a table behind its brace. -/
def braced : Nat → Span → Reading Expr
  | 0, _ => fail
  | fuel + 1, start => do
    if ← accept "\x7d" then placed start (.dict [])
    else if ← isSign "**" then
      let entries ← entries fuel
      expect "\x7d"
      placed start (.dict entries)
    else
      let first ← starredOr fuel
      if ← accept ":" then
        let value ← expression fuel
        if ← isWord "for" then
          let clauses ← clauses fuel
          expect "\x7d"
          placed start (.comprehension .dict first (some value) clauses)
        else
          let rest ← if ← accept "," then entries fuel else pure []
          expectClose fuel "\x7d" ((rest.getLast?.map Prod.snd).getD value)
          placed start (.dict ((some first, value) :: rest))
      else if ← isWord "for" then
        let clauses ← clauses fuel
        expect "\x7d"
        placed start (.comprehension .set first none clauses)
      else
        let rest ← expressionRest fuel
        expectClose fuel "\x7d" (rest.getLast?.getD first)
        placed start (.set (first :: rest))

/-- The entries of a table. -/
def entries : Nat → Reading (List (Option Expr × Expr))
  | 0 => return []
  | fuel + 1 => do
    if ← isSign "\x7d" then return []
    else
      let entry ← do
        if ← accept "**" then pure ((none : Option Expr), ← operation fuel levels)
        else
          let key ← expression fuel
          if !(← isSign ":") then
            let span := spanOf key (← get).last
            failAt { span with endLine := span.line, endColumn := span.column + 1 }
              "':' expected after dictionary key"
          expect ":"
          pure (some key, ← expression fuel)
      if ← accept "," then return entry :: (← entries fuel) else return [entry]

/-- Texts one behind the other. -/
def texts : Nat → Span → Reading Expr
  | 0, _ => fail
  | fuel + 1, start => do
    match (← peek).kind with
    | .bytes _ =>
      let bytes ← bytesRest fuel
      placed start (.literal (.bytes bytes))
    | _ =>
      let pieces ← textRest fuel
      match pieces with
      | [] => placed start (.literal (.text []))
      | [.text text] => placed start (.literal (.text text))
      | pieces => placed start (.format pieces)

/-- The bytes of texts one behind the other. -/
def bytesRest : Nat → Reading ByteText
  | 0 => return []
  | fuel + 1 => do
    match (← peek).kind with
    | .bytes bytes =>
      let _ ← take
      return bytes ++ (← bytesRest fuel)
    | _ => return []

/-- The pieces of texts one behind the other. -/
def textRest : Nat → Reading (List Piece)
  | 0 => return []
  | fuel + 1 => do
    let token ← peek
    match token.kind with
    | .text text =>
      let _ ← take
      return addText text (← textRest fuel)
    | .formatted isRaw body =>
      let _ ← take
      let first ← pieces fuel isRaw false token.span body
      let rest ← textRest fuel
      match first.getLast?, rest with
      | some (.text a), .text b :: rest => return first.dropLast ++ .text (a ++ b) :: rest
      | _, rest => return first ++ rest
    | _ => return []

/-- The parameters of a function up to a sign. -/
def parameters : Nat → String → Bool → Reading (List Parameter)
  | 0, _, _ => return []
  | fuel + 1, close, isNamed => do
    if ← isSign close then return []
    else
      let note : Reading Unit := do
        if close = ")" then
          if ← accept ":" then
            let _ ← expression fuel
      let (parameter, isNamed) ← do
        if ← accept "**" then
          let name ← identifier
          note
          pure ([Parameter.mk name .namedRest none], isNamed)
        else if ← accept "*" then
          if ← isSign "," then pure ([], true)
          else
            let name ← identifier
            note
            pure ([Parameter.mk name .rest none], true)
        else if ← accept "/" then pure ([], isNamed)
        else
          let name ← identifier
          note
          let default ← if ← accept "=" then do pure (some (← expression fuel)) else pure none
          pure ([Parameter.mk name (if isNamed then .named else .plain) default], isNamed)
      if ← accept "," then
        let span := (← peek).span
        let rest ← parameters fuel close isNamed
        match parameter, rest with
        | [.mk _ .plain (some _)], .mk _ .plain none :: _ =>
          failAt { span with endLine := span.line, endColumn := span.column + 1 }
            "parameter without a default follows parameter with a default"
        | _, _ => return parameter ++ rest
      else return parameter

end

/-- Whether a token ends a line. -/
def isLineEnd : TokenKind → Bool
  | .lineEnd => true
  | _ => false

/-- How much depth a token may take. -/
def depthOfToken : TokenKind → Nat
  | .formatted _ body => 24 * (body.length + 1)
  | _ => 24

/-- How much depth an expression may take: it ends with its line. -/
def depthOf : Reading Nat := do
  let tokens := (← get).rest.takeWhile fun token => !isLineEnd token.kind
  return tokens.foldl (fun depth token => depth + depthOfToken token.kind) 64

/-- An expression whose depth follows from the tokens. -/
def wholeExpression : Reading Expr := do expression (← depthOf)

/-- Expressions with commas whose depth follows from the tokens. -/
def wholeExpressions : Reading Expr := do expressions (← depthOf)

/-! ## Statements -/

/-- A name with points in it. -/
def dottedName : Nat → Reading (List String)
  | 0 => return []
  | fuel + 1 => do
    let name ← identifier
    if ← accept "." then return name :: (← dottedName fuel) else return [name]

/-- The name that something goes by. -/
def alias? : Reading (Option String) := do
  if ← acceptWord "as" then return some (← identifier) else return none

/-- Things with commas between them.  Each step takes one. -/
def separated {α : Type} (one : Reading α) : Nat → Reading (List α)
  | 0 => return []
  | fuel + 1 => do
    let first ← one
    if ← accept "," then
      if (← isSign ")") then return [first]
      else return first :: (← separated one fuel)
    else return [first]

/-- Targets and values with the sign of assignment between them, where the last one is the value. -/
def assignments : Nat → List Expr → Reading (List Expr)
  | 0, values => return values
  | fuel + 1, values => do
    if ← accept "=" then
      let value ← wholeExpressions
      assignments fuel (value :: values)
    else return values

/-- Checks the parts of a target, which may stand behind another one. -/
def checkTargets (isLater : Bool) (e : Expr) : Reading Unit := do
  let check (e : Expr) : Reading Unit := do
    match unassignable? e with
    | none => return ()
    | some word => failAt (spanOf e (← get).last) ("cannot assign to " ++ word)
  match bare e with
  | .tuple items => items.forM check
  | .list items => items.forM check
  | _ => if isLater then check e else checkTarget e

/-- A statement that begins with an expression. -/
def expressionStatement : Reading Statement := do
  let start := (← peek).span
  let first ← wholeExpressions
  match (← peek).kind with
  | .sign "=" =>
    let values ← assignments (← get).rest.length [first]
    match values with
    | value :: targets =>
      targets.reverse.zipIdx.forM fun (target, place) => checkTargets (place != 0) target
      return .assign targets.reverse value
    | [] => fail
  | .sign ":" =>
    let _ ← take
    let _ ← wholeExpression
    checkTarget first
    let value ← if ← accept "=" then do pure (some (← wholeExpressions)) else pure none
    match bare first, value with
    | .name name, value => return .declare name value
    | _, some value => return .assign [first] value
    | _, none => return .nothing
  | .sign sign =>
    match updates.find? fun entry => entry.1 = sign with
    | some (_, operator) =>
      match unassignable? first with
      | some word =>
        failAt (spanOf first start)
          ("'" ++ word ++ "' is an illegal expression for augmented assignment")
      | none => pure ()
      let _ ← take
      let value ← wholeExpressions
      return .update operator first value
    | none => return .evaluate first
  | .lineEnd => return .evaluate first
  | .ended => return .evaluate first
  | _ =>
    match bare first with
    | .name "print" => failAt (start.upTo (← peek).span) "Missing parentheses in call to 'print'. Did you mean print(...)?"
    | .name "exec" => failAt (start.upTo (← peek).span) "Missing parentheses in call to 'exec'. Did you mean exec(...)?"
    | _ => fail

/-- Whether a simple statement ends here. -/
def isAtEnd : Reading Bool := do
  match (← peek).kind with
  | .lineEnd => return true
  | .ended => return true
  | .sign ";" => return true
  | _ => return false

/-- A statement within a line. -/
def simpleStatement : Reading Statement := do
  let start := (← peek).span
  let count := (← get).rest.length
  let statement ← do
    match (← peek).kind with
    | .name "pass" =>
      let _ ← take
      pure Statement.nothing
    | .name "break" =>
      let _ ← take
      pure Statement.leaveLoop
    | .name "continue" =>
      let _ ← take
      pure Statement.continueLoop
    | .name "return" =>
      let _ ← take
      if ← isAtEnd then pure (Statement.giveBack none)
      else pure (Statement.giveBack (some (← wholeExpressions)))
    | .name "raise" =>
      let _ ← take
      if ← isAtEnd then pure (Statement.raise none none)
      else
        let exception ← wholeExpression
        let cause ← if ← acceptWord "from" then do pure (some (← wholeExpression)) else pure none
        pure (Statement.raise (some exception) cause)
    | .name "assert" =>
      let _ ← take
      let condition ← wholeExpression
      let message ← if ← accept "," then do pure (some (← wholeExpression)) else pure none
      pure (Statement.assert condition message)
    | .name "del" =>
      let _ ← take
      let first ← wholeExpressions
      let targets := match bare first with
        | .tuple items => items
        | _ => [first]
      targets.forM fun target => do
        match unassignable? target with
        | none => pure ()
        | some word => failAt (spanOf target (← get).last) ("cannot delete " ++ word)
      pure (Statement.delete targets)
    | .name "global" =>
      let _ ← take
      pure (Statement.shared false (← separated identifier count))
    | .name "nonlocal" =>
      let _ ← take
      pure (Statement.shared true (← separated identifier count))
    | .name "import" =>
      let _ ← take
      let one : Reading (List String × Option String) := do
        let path ← dottedName count
        return (path, ← alias?)
      pure (Statement.load (← separated one count))
    | .name "from" =>
      let _ ← take
      let path ← dottedName count
      expectWord "import"
      if ← accept "*" then pure (Statement.loadAll path)
      else
        let isOpen ← accept "("
        let one : Reading (String × Option String) := do
          let name ← identifier
          return (name, ← alias?)
        let names ← separated one count
        if isOpen then
          let _ ← accept ","
          expect ")"
        pure (Statement.loadFrom path names)
    | _ => expressionStatement
  return .placed (start.upTo (← get).last) statement

/-- Statements within a line, with semicolons between them. -/
def simpleStatements : Nat → Reading (List Statement)
  | 0 => return []
  | fuel + 1 => do
    let first ← simpleStatement
    if ← accept ";" then
      match (← peek).kind with
      | .lineEnd =>
        let _ ← take
        return [first]
      | .ended => return [first]
      | _ => return first :: (← simpleStatements fuel)
    else
      match (← peek).kind with
      | .lineEnd =>
        let _ ← take
        return [first]
      | .ended => return [first]
      | _ => fail

/-- A literal in a pattern. -/
def shapeValue : Reading Expr := do operation (← depthOf) levels

mutual

/-- Patterns with commas between them. -/
def shapes : Nat → Reading Shape
  | 0 => fail
  | fuel + 1 => do
    let first ← shape fuel
    if ← isSign "," then
      let rest ← shapeRest fuel
      return .sequence (first :: rest)
    else
      match first with
      | .rest _ => return .sequence [first]
      | first => return first

/-- More patterns, each behind a comma. -/
def shapeRest : Nat → Reading (List Shape)
  | 0 => return []
  | fuel + 1 => do
    if ← accept "," then
      if (← isSign "]") || (← isSign ")") || (← isSign ":") || (← isSign "\x7d") || (← isWord "if") then
        return []
      else
        let first ← shape fuel
        return first :: (← shapeRest fuel)
    else return []

/-- A pattern, perhaps one of several and with a name. -/
def shape : Nat → Reading Shape
  | 0 => fail
  | fuel + 1 => do
    let first ← closedShape fuel
    let options ← shapeOptions fuel
    let whole := if options.isEmpty then first else .either (first :: options)
    if ← acceptWord "as" then return .named whole (← identifier) else return whole

/-- More patterns, one of which has to hold. -/
def shapeOptions : Nat → Reading (List Shape)
  | 0 => return []
  | fuel + 1 => do
    if ← accept "|" then
      let first ← closedShape fuel
      return first :: (← shapeOptions fuel)
    else return []

/-- A pattern that stands alone. -/
def closedShape : Nat → Reading Shape
  | 0 => fail
  | fuel + 1 => do
    let named (name : String) : Option String := if name = "_" then none else some name
    match (← peek).kind with
    | .sign "*" =>
      let _ ← take
      return .rest (named (← identifier))
    | .sign "[" =>
      let _ ← take
      if ← accept "]" then return .sequence []
      let first ← shape fuel
      let rest ← shapeRest fuel
      expect "]"
      return .sequence (first :: rest)
    | .sign "(" =>
      let _ ← take
      if ← accept ")" then return .sequence []
      let inner ← shapes fuel
      expect ")"
      return inner
    | .sign "\x7b" =>
      let _ ← take
      mappingShape fuel []
    | .name name =>
      match ← peekAfter, keywords.contains name with
      | _, true => return .value (← shapeValue)
      | .sign "(", _ =>
        let type ← atom 4
        let _ ← take
        objectShape fuel type [] []
      | .sign ".", _ => return .value (← shapeValue)
      | _, _ =>
        let _ ← take
        return .any (named name)
    | _ => return .value (← shapeValue)

/-- A pattern for a table behind its brace. -/
def mappingShape : Nat → List (Expr × Shape) → Reading Shape
  | 0, _ => fail
  | fuel + 1, entries => do
    if ← accept "\x7d" then return .mapping entries none
    else if ← accept "**" then
      let name ← identifier
      let _ ← accept ","
      expect "\x7d"
      return .mapping entries (some name)
    else
      let key ← shapeValue
      expect ":"
      let value ← shape fuel
      let _ ← accept ","
      mappingShape fuel (entries ++ [(key, value)])

/-- A pattern for an object of a type behind its parenthesis. -/
def objectShape : Nat → Expr → List Shape → List (String × Shape) → Reading Shape
  | 0, _, _, _ => fail
  | fuel + 1, type, items, named => do
    if ← accept ")" then return .object type items named
    else
      match (← peek).kind, ← peekAfter with
      | .name name, .sign "=" =>
        let _ ← take
        let _ ← take
        let value ← shape fuel
        let _ ← accept ","
        objectShape fuel type items (named ++ [(name, value)])
      | _, _ =>
        let value ← shape fuel
        let _ ← accept ","
        objectShape fuel type (items ++ [value]) named

end

/-- Fails because a block is missing behind some kind of statement. -/
def failBlock {α : Type} (owner : String) (line : Nat) : Reading α := do
  failAt (← peek).span ("expected an indented block after " ++ owner ++ " on line " ++ toString line)
    "IndentationError"

mutual

/-- The block behind a colon. -/
def block : Nat → String → Nat → Reading (List Statement)
  | 0, _, _ => fail
  | fuel + 1, owner, line => do
    expectColon (["'else' statement", "'try' statement", "'finally' statement",
      "function definition"].contains owner)
    match (← peek).kind with
    | .lineEnd =>
      let _ ← take
      match (← peek).kind with
      | .indent =>
        let _ ← take
        let body ← statements fuel
        match (← peek).kind with
        | .dedent =>
          let _ ← take
          return body
        | _ => return body
      | _ => failBlock owner line
    | _ => simpleStatements (← get).rest.length

/-- Statements up to the end of a block. -/
def statements : Nat → Reading (List Statement)
  | 0 => return []
  | fuel + 1 => do
    match (← peek).kind with
    | .dedent => return []
    | .ended => return []
    | .lineEnd =>
      let _ ← take
      statements fuel
    | _ =>
      let first ← statement fuel
      return first ++ (← statements fuel)

/-- A statement, or several within a line. -/
def statement : Nat → Reading (List Statement)
  | 0 => fail
  | fuel + 1 => do
    let start := (← peek).span
    let line := start.line
    let one (statement : Reading Statement) : Reading (List Statement) := do
      let inner ← statement
      return [.placed (start.upTo (← get).last) inner]
    match (← peek).kind with
    | .indent => fail
    | .name "if" => one do
      let _ ← take
      conditional fuel "'if' statement" line
    | .name "while" => one do
      let _ ← take
      let condition ← namedExpression (← depthOf)
      let body ← block fuel "'while' statement" line
      let otherwise ← otherwise fuel
      return .loop condition body otherwise
    | .name "for" => one do
      let _ ← take
      let target ← targets (← depthOf)
      expectWord "in"
      let values ← wholeExpressions
      let body ← block fuel "'for' statement" line
      let otherwise ← otherwise fuel
      return .each target values body otherwise
    | .name "try" => one do
      let _ ← take
      let body ← block fuel "'try' statement" line
      let handlers ← handlers fuel
      let otherwise ← otherwise fuel
      let final ←
        if ← isWord "finally" then do
          let line := (← peek).span.line
          let _ ← take
          block fuel "'finally' statement" line
        else pure []
      if handlers.isEmpty && final.isEmpty then
        let next ← peek
        let last := (← get).last
        let isEnd : Bool := match next.kind with
          | .ended => true
          | .dedent => true
          | _ => false
        failAt (if isEnd then last else next.span) "expected 'except' or 'finally' block"
      return .attempt body handlers otherwise final
    | .name "with" => one do
      let _ ← take
      let count := (← get).rest.length
      let item : Reading (Expr × Option Expr) := do
        let value ← wholeExpression
        if ← acceptWord "as" then
          let target ← target (← depthOf)
          return (value, some target)
        else return (value, none)
      let before ← get
      let plain : Reading (List (Expr × Option Expr)) := do
        let items ← separated item count
        if !(← isSign ":") then fail
        return items
      let enclosed : Reading (List (Expr × Option Expr)) := do
        expect "("
        let items ← separated item count
        let _ ← accept ","
        expect ")"
        if !(← isSign ":") then fail
        return items
      let items ←
        match enclosed.run before with
        | .ok (items, after) => do
          set after
          pure items
        | .error _ => plain
      let body ← block fuel "'with' statement" line
      return .within items body
    | .name "def" => one (definition fuel [] line)
    | .name "class" => one (typeDefinition fuel [] line)
    | .name "async" =>
      let _ ← take
      statement fuel
    | .sign "@" =>
      let decorators ← decorators fuel
      let line := (← peek).span.line
      if ← isWord "class" then one (typeDefinition fuel decorators line)
      else one (definition fuel decorators line)
    | .name "match" =>
      let before ← get
      let selection : Reading Statement := do
        let _ ← take
        let subject ← wholeExpressions
        expect ":"
        match (← peek).kind with
        | .lineEnd =>
          let _ ← take
          match (← peek).kind with
          | .indent =>
            let _ ← take
            if !(← isWord "case") then fail
            return .select subject (← cases fuel)
          | _ => fail
        | _ => fail
      match selection.run before with
      | .ok (statement, after) =>
        set after
        return [.placed (start.upTo (← get).last) statement]
      | .error _ => simpleStatements (← get).rest.length
    | _ => simpleStatements (← get).rest.length

/-- The cases of a selection. -/
def cases : Nat → Reading (List Case)
  | 0 => return []
  | fuel + 1 => do
    match (← peek).kind with
    | .name "case" =>
      let line := (← peek).span.line
      let _ ← take
      let shape ← shapes (← depthOf)
      let condition ←
        if ← acceptWord "if" then do pure (some (← namedExpression (← depthOf))) else pure none
      let body ← block fuel "'case' statement" line
      return .mk shape condition body :: (← cases fuel)
    | .dedent =>
      let _ ← take
      return []
    | _ => return []

/-- What stands behind the word of a condition. -/
def conditional : Nat → String → Nat → Reading Statement
  | 0, _, _ => fail
  | fuel + 1, owner, line => do
    let condition ← namedExpression (← depthOf)
    let first ← block fuel owner line
    let start := (← peek).span
    if ← acceptWord "elif" then
      let second ← conditional fuel "'elif' statement" start.line
      return .choose condition first [.placed (start.upTo (← get).last) second]
    else return .choose condition first (← otherwise fuel)

/-- What is done otherwise, if anything. -/
def otherwise : Nat → Reading (List Statement)
  | 0 => return []
  | fuel + 1 => do
    if ← isWord "else" then
      let line := (← peek).span.line
      let _ ← take
      block fuel "'else' statement" line
    else return []

/-- What is done about exceptions. -/
def handlers : Nat → Reading (List Handler)
  | 0 => return []
  | fuel + 1 => do
    if ← isWord "except" then
      let line := (← peek).span.line
      let _ ← take
      if ← isSign ":" then
        let body ← block fuel "'except' statement" line
        return .mk none none body :: (← handlers fuel)
      else
        let type ← wholeExpressions
        let name ← alias?
        let body ← block fuel "'except' statement" line
        return .mk (some type) name body :: (← handlers fuel)
    else return []

/-- The definition of a function. -/
def definition : Nat → List Expr → Nat → Reading Statement
  | 0, _, _ => fail
  | fuel + 1, decorators, line => do
    expectWord "def"
    let name ← identifier
    if !(← accept "(") then failAt (← peek).span "expected '('"
    let parameters ← parameters (← depthOf) ")" false
    expect ")"
    if ← accept "->" then
      let _ ← wholeExpressions
    let body ← block fuel "function definition" line
    return .function name parameters body decorators

/-- The definition of a type. -/
def typeDefinition : Nat → List Expr → Nat → Reading Statement
  | 0, _, _ => fail
  | fuel + 1, decorators, line => do
    expectWord "class"
    let name ← identifier
    let bases ←
      if ← accept "(" then do
        let bases ← arguments (← depthOf)
        expect ")"
        pure bases
      else pure []
    let body ← block fuel "class definition" line
    return .type name bases body decorators

/-- The functions that a definition is handed to. -/
def decorators : Nat → Reading (List Expr)
  | 0 => return []
  | fuel + 1 => do
    if ← accept "@" then
      let first ← namedExpression (← depthOf)
      match (← peek).kind with
      | .lineEnd =>
        let _ ← take
        return first :: (← decorators fuel)
      | _ => fail
    else return []

end

/-- All statements of a program. -/
def program : Reading (List Statement) := do
  let body ← statements (8 * (← get).rest.length + 16)
  match (← peek).kind with
  | .ended => return body
  | _ => fail

end Reading

/-- Reads a program, and tells what is strange in it. -/
def readProgram (text : List Char) :
    Except SyntaxFault (List Statement × List (Nat × List Char)) :=
  match tokensOf text with
  | .error fault => .error fault
  | .ok (tokens, warnings) =>
    match Reading.program.run { rest := tokens } with
    | .ok (body, _) => .ok (body, warnings)
    | .error fault => .error fault

/-- Reads an expression. -/
def readExpression (text : List Char) : Except SyntaxFault Expr :=
  match tokensOf text with
  | .error fault => .error fault
  | .ok (tokens, _) =>
    let whole : Reading Expr := do
      let value ← Reading.wholeExpressions
      match (← Reading.peek).kind with
      | .lineEnd => return value
      | .ended => return value
      | _ => Reading.fail
    match whole.run { rest := tokens } with
    | .ok (value, _) => .ok value
    | .error fault => .error fault

end SchemaDocs.Shell.Indent
