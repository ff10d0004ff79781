import SchemaDocs.Shell.Regex.Read
import SchemaDocs.Shell.Tool.Basic
/-!
# Expressions as arguments

Arguments that are read as an expression on numbers and texts, one word each.  Whatever looks
like a number is one.
-/

namespace SchemaDocs.Shell

namespace Expression

/-- The value of an expression. -/
inductive Value where
  | text (text : ByteText)
  | number (n : Int)
deriving DecidableEq

/-- A value as it is shown. -/
def Value.shown : Value → ByteText
  | .text chars => chars
  | .number n => ByteText.ofInt n

/-- The number that a text looks like. -/
def integer? (text : ByteText) : Option Int :=
  match text with
  | '-' :: digits => (ByteText.toNat? digits).map fun n => -(n : Int)
  | digits => (ByteText.toNat? digits).map fun n => (n : Int)

/-- The number that a value looks like. -/
def Value.integer? : Value → Option Int
  | .text chars => Expression.integer? chars
  | .number n => some n

/-- Whether a value counts as nothing. -/
def Value.isNothing : Value → Bool
  | .number n => n = 0
  | .text [] => true
  | .text ('-' :: digits) => !digits.isEmpty && digits.all (· = '0')
  | .text digits => digits.all (· = '0')

/-- What is wrong with an expression. -/
inductive Fault where
  | missingAfter (word : ByteText)
  | unexpected (word : ByteText)
  | unexpectedClose
  | notClosedAfter (word : ByteText)
  | notClosedBefore (word : ByteText)
  | notInteger
  | divisionByZero
  | regex (cause : RegexError)

/-- The text of a fault. -/
def Fault.message : Fault → ByteText
  | .missingAfter word => ascii "syntax error: missing argument after " ++ Quoting.inQuotes word
  | .unexpected word => ascii "syntax error: unexpected argument " ++ Quoting.inQuotes word
  | .unexpectedClose => ascii "syntax error: unexpected ')'"
  | .notClosedAfter word => ascii "syntax error: expecting ')' after " ++ Quoting.inQuotes word
  | .notClosedBefore word =>
    ascii "syntax error: expecting ')' instead of " ++ Quoting.inQuotes word
  | .notInteger => ascii "non-integer argument"
  | .divisionByZero => ascii "division by zero"
  | .regex cause => ascii cause.message

/-- How far the words of an expression were read. -/
structure Reader where
  last : ByteText
  rest : List ByteText

/-- A step of reading an expression. -/
abbrev Step := StateT Reader (Except Fault)

/-- Reads a word if it is the next one. -/
def take? (word : String) : Step Bool := do
  match (← get).rest with
  | next :: rest =>
    if next = ascii word then
      set { last := next, rest := rest : Reader }
      return true
    else return false
  | [] => return false

/-- Reads the first of some words that is the next one. -/
def takeOne? (words : List String) : Step (Option String) := do
  match (← get).rest with
  | next :: rest =>
    match words.find? fun word => ascii word = next with
    | some word =>
      set { last := next, rest := rest : Reader }
      return some word
    | none => return none
  | [] => return none

/-- Reads the next word. -/
def next : Step ByteText := do
  match (← get).rest with
  | word :: rest =>
    set { last := word, rest := rest : Reader }
    return word
  | [] => throw (.missingAfter (← get).last)

/-- What a text matches from its start on: what the first group matched, or how long the match is. -/
def matching (text pattern : ByteText) : Except Fault Value :=
  match Pattern.read { isExtended := false } pattern with
  | .error cause => .error (.regex cause)
  | .ok pattern =>
    let subject : Subject := { chars := text.toArray }
    match pattern.matchAt? subject 0 with
    | some found =>
      if pattern.groups = 0 then .ok (.number found.stop)
      else .ok (.text (found.group subject 1))
    | none => .ok (if pattern.groups = 0 then .number 0 else .text [])

/-- The place of the first character of a text that is one of some others, or zero. -/
def placeOfAny (text chars : ByteText) : Nat :=
  match (text.zipIdx 1).find? fun (c, _) => chars.contains c with
  | some (_, place) => place
  | none => 0

/-- A part of a text, from a place counted from one, of some length. -/
def partOf (text : ByteText) (place length : Value) : ByteText :=
  match place.integer?, length.integer? with
  | some place, some length =>
    if place ≤ 0 || length ≤ 0 then [] else (text.drop (place - 1).toNat).take length.toNat
  | _, _ => []

/-- The values of levels of an expression, from those that bind strongest.  Where the value is not
needed nothing is computed.  Each step goes one level deeper. -/
def operand (whole : Bool → Step Value) (evaluates : Bool) : Nat → Step Value
  | 0 => do throw (.missingAfter (← get).last)
  | fuel + 1 => do
    let inner := operand whole evaluates fuel
    match ← takeOne? ["+", "length", "match", "index", "substr", "("] with
    | some "+" => return .text (← next)
    | some "length" => return .number (← inner).shown.length
    | some "match" => do
      let text ← inner
      let pattern ← inner
      if evaluates then liftM (matching text.shown pattern.shown) else return text
    | some "index" => do
      let text ← inner
      let chars ← inner
      return .number (placeOfAny text.shown chars.shown)
    | some "substr" => do
      let text ← inner
      let place ← inner
      let length ← inner
      return .text (partOf text.shown place length)
    | some _ => do
      let value ← whole evaluates
      match (← get).rest with
      | [] => throw (.notClosedAfter (← get).last)
      | word :: _ =>
        if ← take? ")" then return value else throw (.notClosedBefore word)
    | none =>
      if ← take? ")" then throw .unexpectedClose else return .text (← next)

/-- Goes on with operators of one level.  Each step takes one of them. -/
def chainFrom (operators : List String) (inner : Bool → Step Value)
    (needed : Value → Bool) (apply : String → Value → Value → Except Fault Value) :
    Nat → Value → Step Value
  | 0, value => return value
  | fuel + 1, value => do
    match ← takeOne? operators with
    | none => return value
    | some operator =>
      let other ← inner (needed value)
      let value ← liftM (apply operator value other)
      chainFrom operators inner needed apply fuel value

/-- Operands with operators of one level between them. -/
def chain (operators : List String) (evaluates : Bool) (inner : Bool → Step Value)
    (needed : Value → Bool) (apply : String → Value → Value → Except Fault Value) :
    Step Value := do
  let first ← inner evaluates
  chainFrom operators inner needed apply ((← get).rest.length + 1) first

/-- A number for a condition. -/
def truth (condition : Bool) : Value := .number (if condition then 1 else 0)

/-- How two values compare. -/
def compared (operator : String) (a b : Value) : Bool :=
  let order : Ordering :=
    match a.integer?, b.integer? with
    | some a, some b => compare a b
    | _, _ =>
      if a.shown = b.shown then .eq else if decide (a.shown < b.shown) then .lt else .gt
  match operator with
  | "<" => order = .lt
  | "<=" => order != .gt
  | "=" => order = .eq
  | "==" => order = .eq
  | "!=" => order != .eq
  | ">=" => order != .lt
  | _ => order = .gt

/-- The value of an operation on numbers. -/
def computed (operator : String) (a b : Value) : Except Fault Value :=
  match a.integer?, b.integer? with
  | some a, some b =>
    match operator with
    | "+" => .ok (.number (a + b))
    | "-" => .ok (.number (a - b))
    | "*" => .ok (.number (a * b))
    | _ =>
      if b = 0 then .error .divisionByZero
      else .ok (.number (if operator = "/" then Int.tdiv a b else Int.tmod a b))
  | _, _ => .error .notInteger

/-- An expression.  Each step goes one level of parentheses deeper. -/
def valueFrom : Nat → Bool → Step Value
  | 0, _ => do throw (.missingAfter (← get).last)
  | fuel + 1, evaluates =>
    let whole := valueFrom fuel
    let unlessIdle (evaluates : Bool) (apply : String → Value → Value → Except Fault Value)
        (operator : String) (a b : Value) : Except Fault Value :=
      if evaluates then apply operator a b else .ok a
    let matches' (evaluates : Bool) : Step Value := do
      chain [":"] evaluates (fun evaluates => do
          operand whole evaluates ((← get).rest.length + 1))
        (fun _ => evaluates)
        (unlessIdle evaluates fun _ a b => matching a.shown b.shown)
    let products (evaluates : Bool) : Step Value :=
      chain ["*", "/", "%"] evaluates matches' (fun _ => evaluates) (unlessIdle evaluates computed)
    let sums (evaluates : Bool) : Step Value :=
      chain ["+", "-"] evaluates products (fun _ => evaluates) (unlessIdle evaluates computed)
    let comparisons (evaluates : Bool) : Step Value :=
      chain ["<=", "<", "==", "=", "!=", ">=", ">"] evaluates sums (fun _ => evaluates)
        (unlessIdle evaluates fun operator a b => .ok (truth (compared operator a b)))
    let both (evaluates : Bool) : Step Value :=
      chain ["&"] evaluates comparisons (fun value => evaluates && !value.isNothing) fun _ a b =>
        .ok (if a.isNothing || b.isNothing then .number 0 else a)
    chain ["|"] evaluates both (fun value => evaluates && value.isNothing) fun _ a b =>
      .ok (if !a.isNothing then a else if b.isNothing then .number 0 else b)

/-- The value of the words of an expression. -/
def evaluate (words : List ByteText) : Except Fault Value := do
  let (value, reader) ← (valueFrom (words.length + 1) true).run ⟨[], words⟩
  match reader.rest with
  | [] => .ok value
  | word :: _ => .error (.unexpected word)

end Expression

namespace Tool

/-- Shows the value of an expression. -/
def expr : Tool := do
  let arguments := (← read).arguments
  let words :=
    match arguments with
    | ['-', '-'] :: words => words
    | words => words
  if words.isEmpty then Program.missingOperand 2
  else
    match Expression.evaluate words with
    | .error fault => Program.die 2 fault.message
    | .ok value =>
      Program.outLine value.shown
      return if value.isNothing then 1 else 0

end Tool

end SchemaDocs.Shell
