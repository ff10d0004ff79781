import SchemaDocs.Shell.Tool.Record.Token
/-!
# Reading programs over records

Rules and functions are read from words.  Operators bind in levels, of which the one
without a mark, that puts texts together, stands between comparing and adding.
-/

namespace SchemaDocs.Shell.Record

/-- What a statement stands in. -/
inductive Scope where
  | outside | rule | function
deriving DecidableEq

/-- How far a program was read. -/
structure Reader where
  tokens : List Placed
  /-- The number of parentheses that are open. -/
  opened : Nat := 0
  loops : Nat := 0
  scope : Scope := .outside
  /-- The functions that are called, with the number of arguments. -/
  calls : List (ByteText × Nat) := []

/-- A step of reading, which may fail with messages. -/
abbrev Reading := StateT Reader (Except (List ByteText))

namespace Reading

/-- The next word and its line. -/
def here : Reading Placed := do return ((← get).tokens.head?).getD ⟨.ended, 1⟩

/-- The next word. -/
def peek : Reading Token := do return (← here).token

/-- Goes on behind the next word. -/
def skip : Reading Unit := modify fun reader => { reader with tokens := reader.tokens.drop 1 }

/-- A message about a line. -/
def complaint (line : Nat) (text : ByteText) : ByteText :=
  ascii "line " ++ ByteText.ofNat line ++ ascii ": " ++ text

/-- Fails with a message about the next word's line. -/
def fail {α : Type} (text : ByteText) : Reading α := do throw [complaint (← here).line text]

/-- Whether a word ends a line of a program, or what stands between braces. -/
def endsLine : Token → Bool
  | .newline => true
  | .ended => true
  | .symbol mark => mark = "\x7d"
  | _ => false

/-- Fails because the next word may not stand where it does. -/
def misplaced {α : Type} : Reading α := do
  let token ← peek
  match token with
  | .fault text => throw [text]
  | .ended => fail (ascii "missing \x7d near end of file")
  | .symbol ")" =>
    if (← get).opened = 0 then fail (ascii "extra ')'")
    else fail (ascii "syntax error at or near )")
  | token =>
    if 0 < (← get).opened && endsLine token then fail (ascii "missing ) near " ++ token.shown)
    else fail (ascii "syntax error at or near " ++ token.shown)

/-- Whether the next word is a mark. -/
def sees (mark : String) : Reading Bool := do
  match ← peek with
  | .symbol found => return found = mark
  | _ => return false

/-- Whether the next word is a word with a meaning. -/
def seesWord (word : String) : Reading Bool := do
  match ← peek with
  | .keyword found => return found = word
  | _ => return false

/-- Goes on behind a mark if it comes next. -/
def skips (mark : String) : Reading Bool := do
  if ← sees mark then
    skip
    return true
  else return false

/-- Goes on behind a mark that has to come next. -/
def expect (mark : String) : Reading Unit := do
  if !(← skips mark) then misplaced

/-- Goes on behind an opening parenthesis. -/
def openParenthesis : Reading Unit := do
  expect "("
  modify fun reader => { reader with opened := reader.opened + 1 }

/-- Goes on behind a closing parenthesis. -/
def closeParenthesis : Reading Unit := do
  expect ")"
  modify fun reader => { reader with opened := reader.opened - 1 }

/-- Goes on behind the ends of lines. -/
def skipLines : Reading Unit :=
  modify fun reader => { reader with tokens := reader.tokens.dropWhile fun placed =>
    match placed.token with
    | .newline => true
    | _ => false }

/-- Goes on behind the ends of lines and statements. -/
def skipEnds : Reading Unit :=
  modify fun reader => { reader with tokens := reader.tokens.dropWhile fun placed =>
    match placed.token with
    | .newline => true
    | .symbol mark => mark = ";"
    | _ => false }

/-- Whether a value can be put into what an expression stands for. -/
def isPlace : Expr → Bool
  | .name _ => true
  | .element .. => true
  | .field _ => true
  | _ => false

/-- A pattern between slashes. -/
def patternOf (source : ByteText) : Reading Expr := do
  match PatternText.read source with
  | .ok pattern => return .pattern pattern
  | .error fault =>
    fail (ascii ("regular expression compile failed (" ++ PatternText.fault fault ++ ")\n") ++ source)

/-- The arithmetic of an assignment with a mark. -/
def updateOf? (mark : String) : Option (Option Arithmetic) :=
  match mark with
  | "=" => some none
  | "+=" => some (some .add)
  | "-=" => some (some .subtract)
  | "*=" => some (some .multiply)
  | "/=" => some (some .divide)
  | "%=" => some (some .remainder)
  | "^=" => some (some .power)
  | _ => none

/-- What a mark between operands makes of them, on a level of binding. -/
def operatorOf? (level : Nat) (isInPrint : Bool) (mark : String) : Option (Expr → Expr → Expr) :=
  match level, mark with
  | 1, "||" => some .or
  | 2, "&&" => some .and
  | 4, "~" => some (.search false)
  | 4, "!~" => some (.search true)
  | 5, "<" => some (.compare .less)
  | 5, "<=" => some (.compare .lessEqual)
  | 5, "==" => some (.compare .equal)
  | 5, "!=" => some (.compare .notEqual)
  | 5, ">" => if isInPrint then none else some (.compare .greater)
  | 5, ">=" => some (.compare .greaterEqual)
  | 7, "+" => some (.arithmetic .add)
  | 7, "-" => some (.arithmetic .subtract)
  | 8, "*" => some (.arithmetic .multiply)
  | 8, "/" => some (.arithmetic .divide)
  | 8, "%" => some (.arithmetic .remainder)
  | _, _ => none

/-- The level on which texts are put together. -/
def joining : Nat := 6

/-- The level of single operands. -/
def highest : Nat := 9

/-- Whether an operand begins with a word, behind another operand. -/
def beginsOperand : Token → Bool
  | .numeral .. => true
  | .quotation _ => true
  | .pattern _ => true
  | .identifier _ => true
  | .call _ => true
  | .builtIn .. => true
  | .symbol mark => ["$", "!", "(", "++", "--"].contains mark
  | .keyword word => word = "getline"
  | _ => false

/-- The least and the greatest number of arguments of a function. -/
def arity : BuiltIn → Nat × Nat
  | .length => (0, 1)
  | .index => (2, 2)
  | .substr => (2, 3)
  | .sprintf => (1, 1000)
  | .split => (2, 3)
  | .search => (2, 2)
  | .substitute => (2, 3)
  | .substituteAll => (2, 3)
  | .arctangent => (2, 2)
  | .random => (0, 0)
  | .seed => (0, 1)
  | .flush => (0, 1)
  | .now => (0, 0)
  | _ => (1, 1)

mutual

/-- Reads an expression, in which an assignment binds least. -/
def expression : Nat → Bool → Reading Expr
  | 0, _ => fail (ascii "syntax error")
  | fuel + 1, isInPrint => do
    let condition ← binary fuel isInPrint 1
    match ← peek with
    | .symbol mark =>
      if mark = "?" then
        skip
        skipLines
        let first ← expression fuel isInPrint
        skipLines
        expect ":"
        skipLines
        return .choose condition first (← expression fuel isInPrint)
      else
        match updateOf? mark with
        | some operation =>
          if isPlace condition then
            skip
            let value ← expression fuel isInPrint
            return match operation with
              | none => .assign condition value
              | some operation => .update operation condition value
          else return condition
        | none => return condition
    | _ => return condition

/-- Reads operands and the marks between them on a level and those above it. -/
def binary : Nat → Bool → Nat → Reading Expr
  | 0, _, _ => fail (ascii "syntax error")
  | fuel + 1, isInPrint, level => do
    if highest ≤ level then unary fuel isInPrint
    else
      let first ← binary fuel isInPrint (level + 1)
      moreOf fuel isInPrint level first

/-- Reads more operands of a level behind the first one. -/
def moreOf : Nat → Bool → Nat → Expr → Reading Expr
  | 0, _, _, first => return first
  | fuel + 1, isInPrint, level, first => do
    let token ← peek
    if level = joining then
      if beginsOperand token then
        let second ← binary fuel isInPrint (level + 1)
        moreOf fuel isInPrint level (.join first second)
      else return first
    else if level = 3 then
      match token with
      | .keyword "in" =>
        skip
        match ← peek with
        | .identifier table =>
          skip
          let keys := match first with
            | .several keys => keys
            | key => [key]
          moreOf fuel isInPrint level (.member keys table)
        | _ => misplaced
      | _ => return first
    else
      match token with
      | .symbol mark =>
        match operatorOf? level isInPrint mark with
        | some combine =>
          skip
          if level ≤ 2 then skipLines
          let second ← binary fuel isInPrint (level + 1)
          match ← peek with
          | .symbol assigning =>
            if (updateOf? assigning).isSome && isPlace second && level ≤ 5 then
              let operation := (updateOf? assigning).getD none
              skip
              let value ← expression fuel isInPrint
              return combine first (match operation with
                | none => .assign second value
                | some operation => .update operation second value)
            else moreOf fuel isInPrint level (combine first second)
          | _ => moreOf fuel isInPrint level (combine first second)
        | none => return first
      | _ => return first

/-- Reads an operand behind signs. -/
def unary : Nat → Bool → Reading Expr
  | 0, _ => fail (ascii "syntax error")
  | fuel + 1, isInPrint => do
    if ← skips "!" then return .not (← unary fuel isInPrint)
    else if ← skips "-" then return .sign true (← unary fuel isInPrint)
    else if ← skips "+" then return .sign false (← unary fuel isInPrint)
    else
      let first ← power fuel isInPrint
      piped fuel isInPrint first

/-- Reads the commands whose output is read. -/
def piped : Nat → Bool → Expr → Reading Expr
  | 0, _, first => return first
  | fuel + 1, isInPrint, first => do
    match (← get).tokens with
    | ⟨.symbol "|", _⟩ :: ⟨.keyword "getline", _⟩ :: _ =>
      if isInPrint then return first
      else
        skip
        skip
        let place ← placeAfterRead fuel
        piped fuel isInPrint (.nextOfCommand place first)
    | _ => return first

/-- Reads the place that a record is put into, if there is one. -/
def placeAfterRead : Nat → Reading (Option Expr)
  | 0 => return none
  | fuel + 1 => do
    match ← peek with
    | .identifier _ => return some (← primary fuel)
    | .symbol "$" => return some (← primary fuel)
    | _ => return none

/-- Reads an operand and its exponent. -/
def power : Nat → Bool → Reading Expr
  | 0, _ => fail (ascii "syntax error")
  | fuel + 1, isInPrint => do
    let base ← counted fuel
    if ← skips "^" then
      match ← peek with
      | .symbol mark =>
        if mark = "-" || mark = "+" || mark = "!" then
          return .arithmetic .power base (← unary fuel isInPrint)
        else return .arithmetic .power base (← power fuel isInPrint)
      | _ => return .arithmetic .power base (← power fuel isInPrint)
    else return base

/-- Reads an operand that may be counted up or down behind. -/
def counted : Nat → Reading Expr
  | 0 => fail (ascii "syntax error")
  | fuel + 1 => do
    let operand ← primary fuel
    if isPlace operand then
      if ← skips "++" then return .count .add false operand
      else if ← skips "--" then return .count .subtract false operand
      else return operand
    else return operand

/-- Reads expressions between commas. -/
def list : Nat → Bool → Reading (List Expr)
  | 0, _ => fail (ascii "syntax error")
  | fuel + 1, isInPrint => do
    let first ← expression fuel isInPrint
    if ← skips "," then
      skipLines
      return first :: (← list fuel isInPrint)
    else return [first]

/-- Reads the arguments of a function between parentheses. -/
def arguments : Nat → Reading (List Expr)
  | 0 => fail (ascii "syntax error")
  | fuel + 1 => do
    openParenthesis
    if ← sees ")" then
      closeParenthesis
      return []
    else
      let values ← list fuel false
      closeParenthesis
      return values

/-- Reads a single operand. -/
def primary : Nat → Reading Expr
  | 0 => fail (ascii "syntax error")
  | fuel + 1 => do
    match ← peek with
    | .numeral _ n =>
      skip
      return .number n
    | .quotation text =>
      skip
      return .text text
    | .pattern source =>
      let pattern ← patternOf source
      skip
      return pattern
    | .identifier name =>
      skip
      if ← skips "[" then
        let keys ← list fuel false
        expect "]"
        return .element name keys
      else return .name name
    | .call name =>
      skip
      let values ← arguments fuel
      modify fun reader => { reader with calls := (name, values.length) :: reader.calls }
      return .call name values
    | .builtIn name function =>
      skip
      let values ←
        if ← sees "(" then arguments fuel
        else if function = .length then pure []
        else misplaced
      let (least, most) := arity function
      if values.length < least || most < values.length then
        fail (ascii "wrong number of arguments in call to " ++ name)
      else return .apply function values
    | .keyword "getline" =>
      skip
      let place ← placeAfterRead fuel
      if ← skips "<" then return .nextOfFile place (← counted fuel)
      else return .nextRecord place
    | .symbol "$" =>
      skip
      match ← peek with
      | .symbol mark =>
        if mark = "-" || mark = "+" || mark = "!" then return .field (← unary fuel false)
        else return .field (← primary fuel)
      | _ => return .field (← primary fuel)
    | .symbol "++" =>
      skip
      let place ← primary fuel
      if isPlace place then return .count .add true place else misplaced
    | .symbol "--" =>
      skip
      let place ← primary fuel
      if isPlace place then return .count .subtract true place else misplaced
    | .symbol "(" =>
      openParenthesis
      let values ← list fuel false
      closeParenthesis
      match values with
      | [.several inner] => return .several inner
      | [value] => return .several [value]
      | values => return .several values
    | _ => misplaced

end

mutual

/-- An expression in which every list between parentheses holds one value, or none where it holds
more. -/
def single? : Expr → Option Expr
  | .several [value] => single? value
  | .several _ => none
  | .element table keys => return .element table (← singles? keys)
  | .field place => return .field (← single? place)
  | .assign place value => return .assign (← single? place) (← single? value)
  | .update operation place value => return .update operation (← single? place) (← single? value)
  | .count operation isBefore place => return .count operation isBefore (← single? place)
  | .sign isNegative inner => return .sign isNegative (← single? inner)
  | .not inner => return .not (← single? inner)
  | .arithmetic operation first second =>
    return .arithmetic operation (← single? first) (← single? second)
  | .join first second => return .join (← single? first) (← single? second)
  | .compare comparison first second =>
    return .compare comparison (← single? first) (← single? second)
  | .search isNegated subject pattern =>
    return .search isNegated (← single? subject) (← single? pattern)
  | .member keys table => return .member (← singles? keys) table
  | .and first second => return .and (← single? first) (← single? second)
  | .or first second => return .or (← single? first) (← single? second)
  | .choose condition first second =>
    return .choose (← single? condition) (← single? first) (← single? second)
  | .call function arguments => return .call function (← singles? arguments)
  | .apply function arguments => return .apply function (← singles? arguments)
  | .nextRecord (some place) => return .nextRecord (some (← single? place))
  | .nextOfFile (some place) file => return .nextOfFile (some (← single? place)) (← single? file)
  | .nextOfFile none file => return .nextOfFile none (← single? file)
  | .nextOfCommand (some place) command =>
    return .nextOfCommand (some (← single? place)) (← single? command)
  | .nextOfCommand none command => return .nextOfCommand none (← single? command)
  | other => some other

/-- Expressions in each of which every list between parentheses holds one value. -/
def singles? : List Expr → Option (List Expr)
  | [] => some []
  | first :: rest => return (← single? first) :: (← singles? rest)

end

/-- Reads an expression that stands for one value. -/
def value (isInPrint : Bool := false) : Reading Expr := do
  let read ← expression (8 * (← get).tokens.length + 32) isInPrint
  match single? read with
  | some value => return value
  | none => misplaced

/-- Whether a word ends a statement. -/
def endsStatement : Token → Bool
  | .newline => true
  | .ended => true
  | .symbol mark => mark = ";" || mark = "\x7d"
  | _ => false

/-- Goes on behind the end of a statement. -/
def statementEnd : Reading Unit := do
  match ← peek with
  | .newline => skip
  | .symbol ";" => skip
  | .symbol "\x7d" => return ()
  | _ => misplaced

/-- Reads what is shown, and where. -/
def printed (isFormatted : Bool) : Reading Statement := do
  let goesOut : Token → Bool
    | .symbol mark => mark = ">" || mark = ">>" || mark = "|"
    | _ => false
  let first ← peek
  let values ←
    if endsStatement first || goesOut first then
      if isFormatted then fail (ascii "no arguments in call to printf") else pure []
    else list (8 * (← get).tokens.length + 32) true
  let values :=
    match values with
    | [.several inner] => inner
    | values => values
  match singles? values with
  | none => misplaced
  | some values =>
    let target : Option Target ←
      match ← peek with
      | .symbol ">" => pure (some Target.file)
      | .symbol ">>" => pure (some Target.fileEnd)
      | .symbol "|" => pure (some Target.command)
      | _ => pure none
    match target with
    | none =>
      statementEnd
      return .print isFormatted values none
    | some target =>
      skip
      let place ← value
      statementEnd
      return .print isFormatted values (some (target, place))

/-- Reads a value if the statement does not end. -/
def valueOrEnd : Reading (Option Expr) := do
  if endsStatement (← peek) then
    statementEnd
    return none
  else
    let read ← value
    statementEnd
    return some read

/-- Reads a value between parentheses. -/
def condition : Reading Expr := do
  openParenthesis
  let read ← value
  closeParenthesis
  return read

/-- Reads something as the body of a loop. -/
def inLoop {α : Type} (body : Reading α) : Reading α := do
  modify fun reader => { reader with loops := reader.loops + 1 }
  let read ← body
  modify fun reader => { reader with loops := reader.loops - 1 }
  return read

mutual

/-- Reads a statement. -/
def statement : Nat → Reading Statement
  | 0 => fail (ascii "syntax error")
  | fuel + 1 => do
    match ← peek with
    | .symbol "\x7b" => block fuel
    | .symbol ";" =>
      skip
      return .block []
    | .keyword word =>
      match word with
      | "if" =>
        skip
        let holds ← condition
        skipLines
        let first ← statement fuel
        let before ← get
        skipLines
        if ← seesWord "else" then
          skip
          skipLines
          return .choose holds first (← statement fuel)
        else
          set before
          return .choose holds first (.block [])
      | "while" =>
        skip
        let holds ← condition
        if ← skips ";" then return .loop true holds (.block []) (.block [])
        else
          skipLines
          return .loop true holds (.block []) (← inLoop (statement fuel))
      | "do" =>
        skip
        skipLines
        let body ← inLoop (statement fuel)
        skipEnds
        if ← seesWord "while" then
          skip
          let holds ← condition
          statementEnd
          return .loop false holds (.block []) body
        else misplaced
      | "for" =>
        skip
        forLoop fuel
      | "print" =>
        skip
        printed false
      | "printf" =>
        skip
        printed true
      | "break" =>
        if (← get).loops = 0 then fail (ascii "break statement outside of loop")
        skip
        statementEnd
        return .leaveLoop
      | "continue" =>
        if (← get).loops = 0 then fail (ascii "continue statement outside of loop")
        skip
        statementEnd
        return .continueLoop
      | "next" =>
        if (← get).scope = .outside then fail (ascii "improper use of next")
        skip
        statementEnd
        return .next
      | "nextfile" =>
        if (← get).scope = .outside then fail (ascii "improper use of nextfile")
        skip
        statementEnd
        return .nextFile
      | "exit" =>
        skip
        return .exit (← valueOrEnd)
      | "return" =>
        if (← get).scope ≠ .function then fail (ascii "return outside function body")
        skip
        return .giveBack (← valueOrEnd)
      | "delete" =>
        skip
        match ← peek with
        | .identifier table =>
          skip
          if ← skips "[" then
            let keys ← list (8 * (← get).tokens.length + 32) false
            expect "]"
            statementEnd
            match singles? keys with
            | some keys => return .delete table (some keys)
            | none => misplaced
          else
            statementEnd
            return .delete table none
        | _ => misplaced
      | _ =>
        let read ← value
        statementEnd
        return .evaluate read
    | _ =>
      let read ← value
      statementEnd
      return .evaluate read

/-- Reads the rest of a loop that names its steps. -/
def forLoop : Nat → Reading Statement
  | 0 => fail (ascii "syntax error")
  | fuel + 1 => do
    match (← get).tokens with
    | ⟨.symbol "(", _⟩ :: ⟨.identifier name, _⟩ :: ⟨.keyword "in", _⟩ :: ⟨.identifier table, _⟩
        :: ⟨.symbol ")", _⟩ :: rest =>
      modify fun reader => { reader with tokens := rest }
      skipLines
      return .forEach name table (← inLoop (statement fuel))
    | _ =>
      openParenthesis
      let start : Statement ←
        if ← sees ";" then pure (.block []) else do pure (.evaluate (← value))
      expect ";"
      skipLines
      let holds ← if ← sees ";" then pure (.number 1) else value
      expect ";"
      skipLines
      let step : Statement ←
        if ← sees ")" then pure (.block []) else do pure (.evaluate (← value))
      closeParenthesis
      let body ←
        if ← skips ";" then pure (.block [])
        else do
          skipLines
          inLoop (statement fuel)
      return .block [start, .loop true holds step body]

/-- Reads statements between braces. -/
def block : Nat → Reading Statement
  | 0 => fail (ascii "syntax error")
  | fuel + 1 => do
    expect "\x7b"
    let body ← statements fuel
    expect "\x7d"
    return .block body

/-- Reads statements up to a closing brace. -/
def statements : Nat → Reading (List Statement)
  | 0 => fail (ascii "syntax error")
  | fuel + 1 => do
    skipEnds
    if ← sees "\x7d" then return []
    else
      let first ← statement fuel
      return first :: (← statements fuel)

end

/-- Reads statements between braces in some scope. -/
def body (scope : Scope) : Reading Statement := do
  modify fun reader => { reader with scope := scope, loops := 0 }
  let read ← block (4 * (← get).tokens.length + 16)
  modify fun reader => { reader with scope := .outside }
  return read

/-- Reads the names of parameters. -/
def parameters : Nat → Reading (List ByteText)
  | 0 => misplaced
  | fuel + 1 => do
    match ← peek with
    | .identifier name =>
      skip
      if ← skips "," then
        skipLines
        let rest ← parameters fuel
        if rest.contains name then fail (name ++ ascii " is duplicated in argument list")
        return name :: rest
      else return [name]
    | _ => misplaced

/-- Reads a function behind its first word. -/
def function : Reading Function := do
  let name ←
    match ← peek with
    | .identifier name => pure name
    | .call name => pure name
    | _ => misplaced
  skip
  openParenthesis
  let names ←
    if ← sees ")" then pure [] else do parameters ((← get).tokens.length + 1)
  closeParenthesis
  skipLines
  return ⟨name, names, ← body .function⟩

/-- Reads a rule. -/
def rule : Reading Rule := do
  match ← peek with
  | .keyword "BEGIN" =>
    skip
    return ⟨.atBegin, some (← body .outside)⟩
  | .keyword "END" =>
    skip
    return ⟨.atEnd, some (← body .outside)⟩
  | .symbol "\x7b" => return ⟨.always, some (← body .rule)⟩
  | _ =>
    let first ← value
    let selector ←
      if ← skips "," then
        skipLines
        pure (Selector.range first (← value))
      else pure (Selector.satisfying first)
    if ← sees "\x7b" then return ⟨selector, some (← body .rule)⟩
    else
      match ← peek with
      | .ended => return ⟨selector, none⟩
      | _ =>
        statementEnd
        return ⟨selector, none⟩

/-- Reads rules and functions up to the end.  Each step reads one of them. -/
def all : Nat → Source → Reading Source
  | 0, source => return source
  | fuel + 1, source => do
    skipEnds
    match ← peek with
    | .ended => return { rules := source.rules.reverse, functions := source.functions.reverse }
    | .symbol "\x7d" =>
      let line := (← here).line
      skip
      let next ← here
      throw [complaint line (ascii "extra '\x7d'"),
        complaint next.line (ascii "syntax error at or near " ++ next.token.shown)]
    | .keyword "function" =>
      skip
      let read ← function
      if source.functions.any fun other => other.name = read.name then
        fail (ascii "redefinition of " ++ read.name)
      all fuel { source with functions := read :: source.functions }
    | _ =>
      let read ← rule
      all fuel { source with rules := read :: source.rules }

/-- Fails if a function that is called is missing or gets too many arguments. -/
def checkCalls (functions : List Function) (line : Nat) : List (ByteText × Nat) → Reading Unit
  | [] => return ()
  | (name, count) :: rest => do
    match functions.find? fun function => function.name = name with
    | none => throw [complaint line (ascii "function " ++ name ++ ascii " never defined")]
    | some function =>
      if function.parameters.length < count then
        throw [complaint (line - 1) (ascii "too many arguments in call to " ++ name)]
      checkCalls functions line rest

end Reading

namespace Source

/-- Whether more braces are opened among some words than closed, and the words go on to the end. -/
def isOpen (tokens : List Placed) : Bool :=
  let isWhole : Bool :=
    match tokens.getLast? with
    | some ⟨.fault _, _⟩ => false
    | _ => true
  let count := tokens.foldl (fun (count : Int) placed =>
    match placed.token with
    | .symbol mark => if mark = "\x7b" then count + 1 else if mark = "\x7d" then count - 1 else count
    | _ => count) 0
  isWhole && 0 < count

/-- Reads a program, or says what is wrong with it. -/
def read (text : ByteText) : Except (List ByteText) Source :=
  let tokens := Token.readAll text
  let line := (tokens.getLast?.map Placed.line).getD 1
  let reading : Reading Source := do
    let source ← Reading.all (tokens.length + 1) ⟨[], []⟩
    Reading.checkCalls source.functions line (← get).calls.reverse
    return source
  match StateT.run reading { tokens := tokens } with
  | .ok (source, _) => .ok source
  | .error messages =>
    let last := Reading.complaint line (ascii "missing \x7d near end of file")
    .error (if isOpen tokens && !messages.contains last then messages ++ [last] else messages)

end Source

end SchemaDocs.Shell.Record
