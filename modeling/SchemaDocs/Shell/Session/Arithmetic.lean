import SchemaDocs.Shell.Session.Basic
/-!
# Arithmetic expressions

Whole numbers of 64 bits with the operators of the language C.  An expression is read and
worked out in one go, so that the first thing that goes wrong counts.
-/

namespace SchemaDocs.Shell

/-- An operator between two numbers. -/
inductive BinaryOperator where
  | multiply | divide | remainder | add | subtract | shiftLeft | shiftRight
  | less | lessEqual | greater | greaterEqual | equal | unequal | bitAnd | bitXor | bitOr
deriving DecidableEq

/-- How loosely an operator binds. -/
def BinaryOperator.looseness : BinaryOperator → Nat
  | .multiply => 0
  | .divide => 0
  | .remainder => 0
  | .add => 1
  | .subtract => 1
  | .shiftLeft => 2
  | .shiftRight => 2
  | .less => 3
  | .lessEqual => 3
  | .greater => 3
  | .greaterEqual => 3
  | .equal => 4
  | .unequal => 4
  | .bitAnd => 5
  | .bitXor => 6
  | .bitOr => 7

/-- One for what holds, and zero for what does not. -/
def truth (holds : Bool) : Int64 := if holds then 1 else 0

/-- The value of an operator, if it has one. -/
def BinaryOperator.apply? (operator : BinaryOperator) (a b : Int64) : Option Int64 :=
  match operator with
  | .multiply => some (a * b)
  | .divide => if b = 0 then none else some (a / b)
  | .remainder => if b = 0 then none else some (a % b)
  | .add => some (a + b)
  | .subtract => some (a - b)
  | .shiftLeft => some (a <<< b)
  | .shiftRight => some (a >>> b)
  | .less => some (truth (a < b))
  | .lessEqual => some (truth (a ≤ b))
  | .greater => some (truth (b < a))
  | .greaterEqual => some (truth (b ≤ a))
  | .equal => some (truth (a = b))
  | .unequal => some (truth (a ≠ b))
  | .bitAnd => some (a &&& b)
  | .bitXor => some (a ^^^ b)
  | .bitOr => some (a ||| b)

/-- A token of an arithmetic expression. -/
inductive ArithmeticToken where
  | bad
  | number (value : Int64)
  | name (name : ByteText)
  | binary (operator : BinaryOperator)
  /-- An assignment, which may work out something with the old value. -/
  | assign (operator : Option BinaryOperator)
  | not | complement | and | or | question | colon | openParenthesis | closeParenthesis
deriving DecidableEq

namespace Arithmetic

/-- The greatest number. -/
def greatest : Nat := 9223372036854775807

/-- The number at the start of a text in the notation of the language C, and what follows it. -/
def leadingNumber (text : ByteText) : Nat × ByteText :=
  let take (base : Nat) (text : ByteText) : Nat × ByteText :=
    let digits := text.takeWhile (ByteText.isDigitIn base)
    (ByteText.valueIn base digits, text.drop digits.length)
  match text with
  | '0' :: x :: c :: rest =>
    if (x = 'x' || x = 'X') && ByteText.isDigitIn 16 c then take 16 (c :: rest) else take 8 text
  | '0' :: _ => take 8 text
  | _ => take 10 text

/-- The number of a text that holds nothing else, in the notation of the language C. -/
def number? (text : ByteText) : Option Int64 :=
  let text := text.dropWhile isSpaceChar
  let (isNegative, digits) :=
    match text with
    | '-' :: rest => (true, rest)
    | '+' :: rest => (false, rest)
    | _ => (false, text)
  let (value, rest) := leadingNumber digits
  let bound := if isNegative then greatest + 1 else greatest
  if digits.head?.any Char.isDigit then
    if rest.all isSpaceChar && value ≤ bound then
      some (if isNegative then -(Int64.ofNat value) else Int64.ofNat value)
    else none
  else if text.isEmpty then some 0
  else none

/-- An operator that becomes an assignment before an equals sign, with the text after it. -/
def assignable (operator : BinaryOperator) : ByteText → ArithmeticToken × ByteText
  | '=' :: rest => (.assign (some operator), rest)
  | rest => (.binary operator, rest)

/-- The first token of a text that begins with a character, and the text after it. -/
def token (c : Char) (rest : ByteText) : ArithmeticToken × ByteText :=
  if c.isDigit then
    let (value, rest) := leadingNumber (c :: rest)
    (.number (Int64.ofNat (min value greatest)), rest)
  else if beginsName c then
    let name := c :: rest.takeWhile isNameChar
    (.name name, rest.drop (name.length - 1))
  else
    match c, rest with
    | '=', '=' :: rest => (.binary .equal, rest)
    | '=', _ => (.assign none, rest)
    | '>', '=' :: rest => (.binary .greaterEqual, rest)
    | '>', '>' :: rest => assignable .shiftRight rest
    | '>', _ => (.binary .greater, rest)
    | '<', '=' :: rest => (.binary .lessEqual, rest)
    | '<', '<' :: rest => assignable .shiftLeft rest
    | '<', _ => (.binary .less, rest)
    | '|', '|' :: rest => (.or, rest)
    | '|', _ => assignable .bitOr rest
    | '&', '&' :: rest => (.and, rest)
    | '&', _ => assignable .bitAnd rest
    | '!', '=' :: rest => (.binary .unequal, rest)
    | '!', _ => (.not, rest)
    | '(', _ => (.openParenthesis, rest)
    | ')', _ => (.closeParenthesis, rest)
    | '*', _ => assignable .multiply rest
    | '/', _ => assignable .divide rest
    | '%', _ => assignable .remainder rest
    | '+', _ => assignable .add rest
    | '-', _ => assignable .subtract rest
    | '^', _ => assignable .bitXor rest
    | '~', _ => (.complement, rest)
    | '?', _ => (.question, rest)
    | ':', _ => (.colon, rest)
    | _, _ => (.bad, [])

/-- The tokens of a text.  Each step takes one of them or a blank. -/
def tokensFrom : Nat → ByteText → List ArithmeticToken
  | 0, _ => []
  | _ + 1, [] => []
  | fuel + 1, c :: rest =>
    if c = ' ' || c = '\t' || c = '\n' then tokensFrom fuel rest
    else
      let (token, rest) := token c rest
      token :: tokensFrom fuel rest

/-- The tokens of a text.  Nothing is read after one that makes no sense. -/
def tokens (text : ByteText) : List ArithmeticToken := tokensFrom (text.length + 1) text

/-- The tokens that are still to be read. -/
abbrev Tokens := List ArithmeticToken

/-- Where an expression is worked out: its text, and whether its value is not needed, so that nothing
is done for it. -/
structure Place where
  text : ByteText
  isIdle : Bool

/-- Fails with a message about an expression. -/
def fail {α : Type} (place : Place) (text : String) : Action α :=
  Action.fail (ascii "arithmetic expression: " ++ ascii text ++ ascii ": \"" ++ place.text
    ++ ['"'])

/-- The value of a variable in an expression. -/
def lookup (name : ByteText) : Action Int64 := do
  let text := (← Action.value? name).getD []
  match number? text with
  | some value => return value
  | none => Action.fail (ascii "Illegal number: " ++ text)

/-- The value of an operator. -/
def apply (place : Place) (operator : BinaryOperator) (a b : Int64) : Action Int64 :=
  match operator.apply? a b with
  | some value => pure value
  | none => fail place "division by zero"

/-- A place where nothing is done in some case. -/
def Place.idleIf (place : Place) (isIdle : Bool) : Place :=
  { place with isIdle := place.isIdle || isIdle }

mutual

/-- Works out an assignment, or an expression without one.  Each step goes a level down or takes a
token. -/
def assignment (place : Place) : Nat → Tokens → Action (Int64 × Tokens)
  | 0, _ => fail place "expecting primary"
  | fuel + 1, tokens => do
    match tokens with
    | .name name :: .assign operator :: rest =>
      let (value, rest) ← assignment place fuel rest
      if place.isIdle then return (value, rest)
      else
        let new ←
          match operator with
          | none => pure value
          | some operator => apply place operator (← lookup name) value
        Action.assign name (ByteText.ofInt new.toInt)
        return (new, rest)
    | _ => condition place fuel tokens

/-- Works out a choice between two expressions. -/
def condition (place : Place) : Nat → Tokens → Action (Int64 × Tokens)
  | 0, _ => fail place "expecting primary"
  | fuel + 1, tokens => do
    match ← disjunction place fuel tokens with
    | (test, .question :: rest) =>
      match ← assignment (place.idleIf (test = 0)) fuel rest with
      | (first, .colon :: rest) =>
        let (second, rest) ← condition (place.idleIf (test ≠ 0)) fuel rest
        return (if test = 0 then second else first, rest)
      | _ => fail place "expecting ':'"
    | result => return result

/-- Works out expressions of which one has to hold. -/
def disjunction (place : Place) : Nat → Tokens → Action (Int64 × Tokens)
  | 0, _ => fail place "expecting primary"
  | fuel + 1, tokens => do
    match ← conjunction place fuel tokens with
    | (first, .or :: rest) =>
      let (second, rest) ← disjunction (place.idleIf (first ≠ 0)) fuel rest
      return (truth (first ≠ 0 || second ≠ 0), rest)
    | result => return result

/-- Works out expressions all of which have to hold. -/
def conjunction (place : Place) : Nat → Tokens → Action (Int64 × Tokens)
  | 0, _ => fail place "expecting primary"
  | fuel + 1, tokens => do
    let (first, rest) ← primary place fuel tokens
    let (first, rest) ←
      match rest with
      | .binary operator :: rest => operations place fuel 8 first operator rest
      | _ => pure (first, rest)
    match rest with
    | .and :: rest =>
      let (second, rest) ← conjunction (place.idleIf (first = 0)) fuel rest
      return (truth (first ≠ 0 && second ≠ 0), rest)
    | _ => return (first, rest)

/-- Works out what follows a value and an operator, as long as the operators bind closer than some
other one. -/
def operations (place : Place) : Nat → Nat → Int64 → BinaryOperator → Tokens →
    Action (Int64 × Tokens)
  | 0, _, _, _, _ => fail place "expecting primary"
  | fuel + 1, looseness, first, operator, tokens => do
    let (second, rest) ← primary place fuel tokens
    let (second, rest) ←
      match rest with
      | .binary next :: after =>
        if next.looseness < operator.looseness then
          operations place fuel operator.looseness second next after
        else pure (second, rest)
      | _ => pure (second, rest)
    let value ← if place.isIdle then pure second else apply place operator first second
    match rest with
    | .binary next :: after =>
      if next.looseness < looseness then operations place fuel looseness value next after
      else return (value, rest)
    | _ => return (value, rest)

/-- Works out a number, a variable or an expression between parentheses, after signs. -/
def primary (place : Place) : Nat → Tokens → Action (Int64 × Tokens)
  | 0, _ => fail place "expecting primary"
  | fuel + 1, tokens => do
    match tokens with
    | .openParenthesis :: rest =>
      match ← assignment place fuel rest with
      | (value, .closeParenthesis :: rest) => return (value, rest)
      | _ => fail place "expecting ')'"
    | .number value :: rest => return (value, rest)
    | .name name :: rest =>
      if place.isIdle then return (1, rest) else return (← lookup name, rest)
    | .binary .add :: rest => primary place fuel rest
    | .binary .subtract :: rest =>
      let (value, rest) ← primary place fuel rest
      return (-value, rest)
    | .not :: rest =>
      let (value, rest) ← primary place fuel rest
      return (truth (value = 0), rest)
    | .complement :: rest =>
      let (value, rest) ← primary place fuel rest
      return (~~~value, rest)
    | _ => fail place "expecting primary"

end

/-- The value of an expression. -/
def evaluate (text : ByteText) : Action Int64 := do
  let tokens := tokens text
  let place : Place := ⟨text, false⟩
  match ← assignment place (8 * (tokens.length + 2)) tokens with
  | (value, []) => return value
  | _ => fail place "expecting EOF"

end Arithmetic

end SchemaDocs.Shell

/-!
## Calculations

Arithmetic expressions of the shell with more features: variables hold expressions
themselves, arrays have places, numbers have bases up to 64, and there are powers, steps
up and down and several expressions one after the other.
-/

namespace SchemaDocs.Shell

/-- A token of a calculation. -/
inductive CalculationToken where
  | ended
  | number
  | name
  | binary (operator : BinaryOperator)
  | power
  | assign
  /-- An assignment that works out something with the old value. -/
  | update (operator : BinaryOperator)
  | not | complement | and | or | question | colon | comma | openParenthesis | closeParenthesis
  /-- One more or less, before or after a variable. -/
  | stepBefore (isDown : Bool)
  | stepAfter (isDown : Bool)
  /-- What a choice leaves behind. -/
  | choice
deriving DecidableEq

/-- How far a calculation has come. -/
structure Calculation where
  text : ByteText
  rest : ByteText
  /-- What follows the start of the last token. -/
  lastRest : ByteText
  token : CalculationToken := .ended
  lastToken : CalculationToken := .ended
  value : Int64 := 0
  name : ByteText := []
  /-- Whether the value is not needed, so that nothing is done for it. -/
  isIdle : Bool := false

/-- A step of a calculation. -/
abbrev Calculator := StateT Calculation Action

namespace Calculation

/-- Fails with a message about the expression. -/
def failWith {α : Type} (text : String) : Calculator α := do
  let state ← get
  let expression := state.text.dropWhile fun c => c = ' ' || c = '\t'
  (Action.failWith 1 (expression ++ ascii ": " ++ ascii text ++ ascii " (error token is \""
    ++ state.lastRest ++ ascii "\")") : Action α)

/-- The value of a digit in a base up to 64. -/
def digit? (base : Nat) (c : Char) : Option Nat :=
  if c.isDigit then some (c.toNat - '0'.toNat)
  else if 'a' ≤ c && c ≤ 'z' then some (c.toNat - 'a'.toNat + 10)
  else if 'A' ≤ c && c ≤ 'Z' then
    some (c.toNat - 'A'.toNat + if base ≤ 36 then 10 else 36)
  else if c = '@' then some 62
  else if c = '_' then some 63
  else none

/-- The value of digits in a base. -/
def digits (base : Nat) (before : Int64) (text : ByteText) : Calculator Int64 := do
  text.foldlM (fun (value : Int64) c => do
    let digit := (digit? base c).getD 0
    if base ≤ digit then failWith "value too great for base"
    else return value * Int64.ofNat base + Int64.ofNat digit) before

/-- The value of a number as it is written. -/
def number (text : ByteText) : Calculator Int64 := do
  match text with
  | ['0'] => return 0
  | '0' :: c :: rest =>
    if text.contains '#' then failWith "invalid number"
    else if c = 'x' || c = 'X' then digits 16 0 rest
    else digits 8 0 (c :: rest)
  | _ =>
    let base := text.takeWhile (· != '#')
    match text.drop base.length with
    | [] => digits 10 0 text
    | _ :: rest =>
      let value := ByteText.valueIn 10 base
      if value < 2 || 64 < value then failWith "invalid arithmetic base"
      else if rest.isEmpty then failWith "invalid integer constant"
      else digits value 0 rest

/-- The value of a number to the power of another one. -/
def powerOf (base : Int64) : Nat → Nat → Int64
  | 0, _ => 1
  | _, 0 => 1
  | fuel + 1, exponent + 1 =>
    let half := powerOf base fuel ((exponent + 1) / 2)
    if (exponent + 1) % 2 = 0 then half * half else half * half * base

/-- How many characters a text holds up to the bracket that closes an open one.  Each step takes a
character. -/
def bracketLength? : Nat → ByteText → Option Nat
  | _, [] => none
  | depth, c :: rest =>
    if c = ']' then
      match depth with
      | 0 => some 0
      | depth + 1 => (bracketLength? depth rest).map (· + 1)
    else if c = '[' then (bracketLength? (depth + 1) rest).map (· + 1)
    else (bracketLength? depth rest).map (· + 1)

/-- The parts of a name that may have a place in brackets. -/
def splitName (text : ByteText) : ByteText × Option ByteText :=
  let name := text.takeWhile (· != '[')
  match text.drop name.length with
  | [] => (name, none)
  | _ :: rest => (name, some rest.dropLast)

/-- Whether a character is blank. -/
def isBlank (c : Char) : Bool := c = ' ' || c = '\t' || c = '\n'

/-- The operator that a character before an equals sign updates by. -/
def updating? (c : Char) : Option BinaryOperator :=
  match c with
  | '*' => some .multiply
  | '/' => some .divide
  | '%' => some .remainder
  | '+' => some .add
  | '-' => some .subtract
  | '&' => some .bitAnd
  | '^' => some .bitXor
  | '|' => some .bitOr
  | _ => none

/-- The token of a character that stands alone. -/
def single? (c : Char) : Option CalculationToken :=
  match c with
  | '=' => some .assign
  | '>' => some (.binary .greater)
  | '<' => some (.binary .less)
  | '!' => some .not
  | '~' => some .complement
  | '?' => some .question
  | ':' => some .colon
  | ',' => some .comma
  | '(' => some .openParenthesis
  | ')' => some .closeParenthesis
  | c => (updating? c).map .binary

/-- The token of two characters or three, and how long it is. -/
def double? (c d : Char) (rest : ByteText) : Option (CalculationToken × Nat) :=
  match c, d with
  | '=', '=' => some (.binary .equal, 2)
  | '!', '=' => some (.binary .unequal, 2)
  | '>', '=' => some (.binary .greaterEqual, 2)
  | '<', '=' => some (.binary .lessEqual, 2)
  | '<', '<' => some (if rest.head? = some '=' then (.update .shiftLeft, 3) else (.binary .shiftLeft, 2))
  | '>', '>' =>
    some (if rest.head? = some '=' then (.update .shiftRight, 3) else (.binary .shiftRight, 2))
  | '&', '&' => some (.and, 2)
  | '|', '|' => some (.or, 2)
  | '*', '*' => some (.power, 2)
  | c, '=' => (updating? c).map fun operator => (.update operator, 2)
  | _, _ => none

/-- Whether a token asks for an operand behind it. -/
def wantsOperand : CalculationToken → Bool
  | .number => false
  | .name => false
  | .closeParenthesis => false
  | .stepAfter _ => false
  | _ => true

/-- Goes on to a token that ends after some characters. -/
def take (token : CalculationToken) (count : Nat) : Calculator Unit :=
  modify fun state =>
    { state with
      lastToken := state.token, token := token, rest := state.lastRest.drop count }

/-- Takes an operator that begins with a character. -/
def takeOperator (c : Char) (rest : ByteText) : Calculator Unit := do
  let state ← get
  let isDoubled := (c = '+' || c = '-') && rest.head? = some c
  if isDoubled && state.token = .name then take (.stepAfter (c = '-')) 2
  else if isDoubled && state.token = .number
      && (state.lastToken = .stepBefore true || state.lastToken = .stepBefore false) then
    failWith (if c = '-' then "--: assignment requires lvalue" else "++: assignment requires lvalue")
  else if isDoubled && ((rest.drop 1).dropWhile isBlank).head?.any beginsName then
    take (.stepBefore (c = '-')) 2
  else
    match if isDoubled then none else rest.head?.bind fun d => double? c d (rest.drop 1) with
    | some (token, count) => take token count
    | none =>
      match single? c with
      | some token => take token 1
      | none =>
        if wantsOperand state.token then failWith "syntax error: operand expected"
        else failWith "syntax error: invalid arithmetic operator"

/-- How a value is worked out from a text and put at a place, each with less fuel. -/
structure Evaluator where
  value : ByteText → Action Int64

/-- The place in an array that a text between brackets stands for. -/
def place (evaluator : Evaluator) (name text : ByteText) : Action ElementPlace := do
  match (← Action.variableOf? name).bind Variable.elements with
  | some (.table _) =>
    let isQuoted := 2 ≤ text.length && (text.head? = some '"' || text.head? = some '\'')
      && text.head? = text.getLast?
    return .key (if isQuoted then (text.drop 1).dropLast else text)
  | elements =>
    let value := (← evaluator.value text).toInt
    let next : Int := (((elements.map Elements.next).getD 1 : Nat) : Int)
    let value := if value < 0 then value + next else value
    if value < 0 then
      Action.failWith 1 (name ++ ['['] ++ text ++ ascii "]: bad array subscript")
    else return .number value.toNat

/-- The text that a name stands for, which may have a place. -/
def lookup? (evaluator : Evaluator) (whole : ByteText) : Action (Option ByteText) := do
  match splitName whole with
  | (name, none) => Action.value? name
  | (name, some text) =>
    let place ← place evaluator name text
    match ← Action.variableOf? name with
    | some known =>
      match known.elements, place with
      | some elements, place => return elements.get? place
      | none, .number 0 => return known.value
      | none, _ => return none
    | none => return none

/-- The value that a name stands for. -/
def valueOf (evaluator : Evaluator) (whole : ByteText) : Calculator Int64 := do
  if (← get).isIdle then return 0
  else
    match ← (lookup? evaluator whole : Action _) with
    | some [] => return 0
    | some text => (evaluator.value text : Action _)
    | none =>
      if ← (Action.hasOption 'u' : Action _) then
        (Action.warn (whole ++ ascii ": unbound variable") : Action _)
        (Action.setStatus (if (← (Action.session : Action _)).isSubshell then 1 else 127) : Action _)
        throw .leave
      else return 0

/-- Gives what a name stands for a value. -/
def assign (evaluator : Evaluator) (whole : ByteText) (value : Int64) : Calculator Unit := do
  if (← get).isIdle then return ()
  else
    let text := ByteText.ofInt value.toInt
    let put : Action Unit := do
      match splitName whole with
      | (name, none) => Action.assign name text
      | (name, some key) => Action.assignAt name (some (← place evaluator name key)) text
    put

mutual

/-- Goes on to the next token.  Each step goes a level down. -/
def readToken (evaluator : Evaluator) : Nat → Calculator Unit
  | 0 => failWith "expression recursion level exceeded"
  | fuel + 1 => do
    let state ← get
    let rest := state.rest.dropWhile isBlank
    match rest with
    | [] => set { state with lastToken := state.token, token := .ended, rest := [] }
    | c :: after =>
      set { state with lastRest := rest, rest := rest }
      if beginsName c then
        let name := rest.takeWhile isNameChar
        let afterName := rest.drop name.length
        let name ←
          match afterName with
          | '[' :: inner =>
            match bracketLength? 0 inner with
            | some count => pure (rest.take (name.length + count + 2))
            | none => failWith "bad array subscript"
          | _ => pure name
        -- The value is not looked up if an assignment follows.
        let rest := rest.drop name.length
        set { state with
          lastRest := state.rest.dropWhile isBlank, rest := rest, token := .name, isIdle := true }
        readToken evaluator fuel
        let next := (← get).token
        set { state with
          lastRest := state.rest.dropWhile isBlank, rest := rest, name := name
          lastToken := state.token, token := .name }
        let isStep := state.token = .stepBefore true || state.token = .stepBefore false
        if isStep || next ≠ .assign then
          let value ← valueOf evaluator name
          modify fun state => { state with value := value }
        else modify fun state => { state with value := 0 }
      else if c.isDigit then
        let digits := rest.takeWhile fun c => c.isAlphanum || c = '#' || c = '@' || c = '_'
        let value ← number digits
        modify fun state => { state with value := value }
        take .number digits.length
      else takeOperator c after

/-- Works out expressions one after the other. -/
def several (evaluator : Evaluator) : Nat → Calculator Int64
  | 0 => failWith "expression recursion level exceeded"
  | fuel + 1 => do
    let value ← assignment evaluator fuel
    if (← get).token = .comma then
      readToken evaluator fuel
      several evaluator fuel
    else return value

/-- Works out an assignment, or an expression without one. -/
def assignment (evaluator : Evaluator) : Nat → Calculator Int64
  | 0 => failWith "expression recursion level exceeded"
  | fuel + 1 => do
    let old ← choice evaluator fuel
    let state ← get
    let assigned (operator : Option BinaryOperator) : Calculator Int64 := do
      if state.lastToken ≠ .name then failWith "attempted assignment to non-variable"
      else
        let name := state.name
        readToken evaluator fuel
        let value ← assignment evaluator fuel
        let value ←
          match operator with
          | none => pure value
          | some operator =>
            match operator.apply? old value with
            | some value => pure value
            | none => if state.isIdle then pure old else failWith "division by 0"
        assign evaluator name value
        return value
    match state.token with
    | .assign => assigned none
    | .update operator => assigned (some operator)
    | _ => return old

/-- Works out a choice between two expressions. -/
def choice (evaluator : Evaluator) : Nat → Calculator Int64
  | 0 => failWith "expression recursion level exceeded"
  | fuel + 1 => do
    let test ← logical evaluator fuel false
    if (← get).token ≠ .question then return test
    else
      let isIdle := (← get).isIdle
      modify fun state => { state with isIdle := isIdle || test = 0 }
      readToken evaluator fuel
      if (← get).token = .ended || (← get).token = .colon then failWith "expression expected"
      let first ← several evaluator fuel
      if (← get).token ≠ .colon then failWith "\x60:' expected for conditional expression"
      modify fun state => { state with isIdle := isIdle || test ≠ 0 }
      readToken evaluator fuel
      if (← get).token = .ended then failWith "expression expected"
      let second ← choice evaluator fuel
      modify fun state => { state with isIdle := isIdle, lastToken := .choice }
      return if test = 0 then second else first

/-- Works out expressions of which one has to hold, or all of which have to. -/
def logical (evaluator : Evaluator) : Nat → Bool → Calculator Int64
  | 0, _ => failWith "expression recursion level exceeded"
  | fuel + 1, isAnd => do
    let operand : Calculator Int64 :=
      if isAnd then operations evaluator fuel 7 else logical evaluator fuel true
    let first ← operand
    logicalAfter evaluator fuel isAnd first

/-- Works out what follows an expression that has to hold. -/
def logicalAfter (evaluator : Evaluator) : Nat → Bool → Int64 → Calculator Int64
  | 0, _, _ => failWith "expression recursion level exceeded"
  | fuel + 1, isAnd, first => do
    if (← get).token ≠ (if isAnd then .and else .or) then return first
    else
      let isIdle := (← get).isIdle
      modify fun state =>
        { state with isIdle := isIdle || (if isAnd then first = 0 else first ≠ 0) }
      readToken evaluator fuel
      let second ← if isAnd then operations evaluator fuel 7 else logical evaluator fuel true
      modify fun state => { state with isIdle := isIdle, lastToken := .and }
      let holds := if isAnd then first ≠ 0 && second ≠ 0 else first ≠ 0 || second ≠ 0
      logicalAfter evaluator fuel isAnd (truth holds)

/-- Works out operations that bind at least as closely as some looseness says. -/
def operations (evaluator : Evaluator) : Nat → Nat → Calculator Int64
  | 0, _ => failWith "expression recursion level exceeded"
  | fuel + 1, looseness => do
    let first ←
      match looseness with
      | 0 => power evaluator fuel
      | looser + 1 => operations evaluator fuel looser
    operationsAfter evaluator fuel looseness first

/-- Works out what follows a value, as long as the operators have some looseness. -/
def operationsAfter (evaluator : Evaluator) : Nat → Nat → Int64 → Calculator Int64
  | 0, _, _ => failWith "expression recursion level exceeded"
  | fuel + 1, looseness, first => do
    match (← get).token with
    | .binary operator =>
      if operator.looseness ≠ looseness then return first
      else
        let start := (← get).rest
        readToken evaluator fuel
        let second ←
          match looseness with
          | 0 => power evaluator fuel
          | looser + 1 => operations evaluator fuel looser
        match operator.apply? first second with
        | some value =>
          modify fun state => { state with lastToken := .number }
          operationsAfter evaluator fuel looseness value
        | none =>
          if (← get).isIdle then operationsAfter evaluator fuel looseness first
          else
            modify fun state =>
              { state with lastRest := start.dropWhile fun c => c = ' ' || c = '\t' }
            failWith "division by 0"
    | _ => return first

/-- Works out a power, whose exponent may be one. -/
def power (evaluator : Evaluator) : Nat → Calculator Int64
  | 0 => failWith "expression recursion level exceeded"
  | fuel + 1 => do
    let base ← signed evaluator fuel
    if (← get).token ≠ .power then return base
    else
      readToken evaluator fuel
      let exponent ← power evaluator fuel
      modify fun state => { state with lastToken := .number }
      if exponent < 0 then failWith "exponent less than 0"
      else return powerOf base 64 exponent.toInt.toNat

/-- Works out a primary expression after signs. -/
def signed (evaluator : Evaluator) : Nat → Calculator Int64
  | 0 => failWith "expression recursion level exceeded"
  | fuel + 1 => do
    let after (f : Int64 → Int64) : Calculator Int64 := do
      readToken evaluator fuel
      let value ← signed evaluator fuel
      modify fun state => { state with lastToken := .number }
      return f value
    match (← get).token with
    | .not => after fun value => truth (value = 0)
    | .complement => after fun value => ~~~value
    | .binary .subtract => after fun value => -value
    | .binary .add => after id
    | _ => primary evaluator fuel

/-- Works out a number, a variable or expressions between parentheses. -/
def primary (evaluator : Evaluator) : Nat → Calculator Int64
  | 0 => failWith "expression recursion level exceeded"
  | fuel + 1 => do
    let state ← get
    match state.token with
    | .stepBefore isDown =>
      readToken evaluator fuel
      let state ← get
      if state.token ≠ .name then
        failWith "identifier expected after pre-increment or pre-decrement"
      else
        let value := state.value + if isDown then -1 else 1
        assign evaluator state.name value
        modify fun state => { state with token := .number }
        readToken evaluator fuel
        return value
    | .openParenthesis =>
      readToken evaluator fuel
      let value ← several evaluator fuel
      if (← get).token ≠ .closeParenthesis then failWith "missing \x60)'"
      readToken evaluator fuel
      return value
    | .number =>
      readToken evaluator fuel
      return state.value
    | .name =>
      let value := state.value
      -- A step behind the variable belongs to it.
      modify fun state => { state with isIdle := true }
      readToken evaluator fuel
      match (← get).token with
      | .stepAfter isDown =>
        modify fun next => { next with isIdle := state.isIdle, name := state.name }
        assign evaluator state.name (value + if isDown then -1 else 1)
        modify fun next => { next with token := .number, lastToken := .name }
        readToken evaluator fuel
        return value
      | _ =>
        set state
        readToken evaluator fuel
        modify fun next =>
          if next.token = .name then next else { next with name := state.name }
        return value
    | _ => failWith "syntax error: operand expected"

end

/-- The value of an expression, whose variables are worked out up to some depth. -/
def evaluateFrom : Nat → ByteText → Action Int64
  | 0, text => Action.failWith 1 (text ++ ascii ": expression recursion level exceeded (error token is \""
      ++ text ++ ascii "\")")
  | depth + 1, text => do
    if text.all isBlank then return 0
    else
      let evaluator : Evaluator := ⟨evaluateFrom depth⟩
      let fuel := 40 * (text.length + 4)
      let whole : Calculator Int64 := do
        readToken evaluator fuel
        let value ← several evaluator fuel
        if (← get).token ≠ .ended then failWith "syntax error in expression"
        else return value
      let (value, _) ← whole.run { text := text, rest := text, lastRest := text }
      return value

/-- The value of an expression. -/
def evaluate (text : ByteText) : Action Int64 := evaluateFrom 1024 text

/-- The value of an expression that is worked out under a name, unless something is wrong with it. -/
def evaluate? (name : Option ByteText) (text : ByteText) : Action (Option Int64) := do
  let before := (← Action.session).commandName
  Action.change fun session => { session with commandName := name }
  let result ← Action.tried (evaluate text)
  Action.change fun session => { session with commandName := before }
  match result with
  | .ok value => return some value
  | .error .fault => return none
  | .error .passLine => return none
  | .error jump => throw jump

/-- The place in an array that a text between brackets stands for. -/
def placeOf (name text : ByteText) : Action ElementPlace := place ⟨evaluate⟩ name text

end Calculation

end SchemaDocs.Shell
