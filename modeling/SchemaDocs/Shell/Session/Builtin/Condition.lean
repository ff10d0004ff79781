import SchemaDocs.Shell.Session.Builtin.Basic
import SchemaDocs.Shell.Regex.Read
/-!
# Conditions

Arguments that are read as a condition on texts, numbers and files.
-/

namespace SchemaDocs.Shell

namespace Condition

/-- A word of conditions that stands before an operand. -/
def isUnary (text : ByteText) : Bool :=
  match text with
  | ['-', c] => (ascii "rwxefdcbpugkstznhOGLS").contains c
  | _ => false

/-- The words of conditions that stand between operands. -/
def binaryWords : List ByteText :=
  ["=", "!=", "<", ">", "-eq", "-ne", "-gt", "-ge", "-lt", "-le", "-nt", "-ot", "-ef"].map ascii

/-- Whether a word stands between operands. -/
def isBinary (text : ByteText) : Bool := binaryWords.contains text

/-- What a word is where it stands. -/
inductive Role where
  | ended
  | operand
  | unary
  | binary
  | not
  | and
  | or
  | openParenthesis
  | closeParenthesis
deriving DecidableEq

/-- The role of the first of some words. -/
def role : List ByteText → Role
  | [] => .ended
  | ['!'] :: _ => .not
  | ['-', 'a'] :: _ => .and
  | ['-', 'o'] :: _ => .or
  | [['(']] => .operand
  | ['('] :: _ => .openParenthesis
  | [')'] :: _ => .closeParenthesis
  | word :: rest =>
    if isBinary word then .binary
    else if isUnary word then
      match rest with
      | [] => .operand
      | [_] => .unary
      | next :: _ => if isBinary next then .operand else .unary
    else .operand

/-- Fails because the words make no condition. -/
def misuse {α : Type} (word : ByteText) (text : String) : Action α :=
  if word.isEmpty then Action.fail (ascii text)
  else Action.fail (word ++ ascii ": " ++ ascii text)

/-- Whether a path leads to a file of a kind. -/
def fileHolds (c : Char) (path : ByteText) : Action Bool :=
  Action.program (Program.fileHolds c path)

/-- Whether one file was changed after another one.  Of files that are not there, the shell with more
features says that they are older. -/
def isNewer (first second : ByteText) : Action Bool := do
  let isBash ← Action.isBash
  let a ← Action.program (Program.marksOf first)
  let b ← Action.program (Program.marksOf second)
  match a, b with
  | some a, some b => return b.changed < a.changed
  | some _, none => return isBash
  | none, _ => return false

/-- Whether a word before an operand holds of it. -/
def unaryHolds (word operand : ByteText) : Action Bool := do
  match word with
  | ['-', 'z'] => return operand.isEmpty
  | ['-', 'n'] => return !operand.isEmpty
  | ['-', 't'] =>
    let _ ← Builtin.integer operand
    return false
  | ['-', c] => fileHolds c operand
  | _ => return false

/-- Whether a word between operands holds of them. -/
def binaryHolds (first word second : ByteText) : Action Bool := do
  let compare (p : Int → Int → Bool) : Action Bool := do
    let a ← Builtin.integer first
    let b ← Builtin.integer second
    return p a b
  match String.ofList word with
  | "=" => return first = second
  | "!=" => return first ≠ second
  | "<" => return decide (first < second)
  | ">" => return decide (second < first)
  | "-eq" => compare fun a b => a = b
  | "-ne" => compare fun a b => a ≠ b
  | "-gt" => compare fun a b => b < a
  | "-ge" => compare fun a b => b ≤ a
  | "-lt" => compare fun a b => a < b
  | "-le" => compare fun a b => a ≤ b
  | "-ef" =>
    Action.program (Program.isSameFile first second)
  | "-nt" => isNewer first second
  | _ => isNewer second first

mutual

/-- Conditions of which one has to hold, with the words from the last one of them on.  Each step goes
a level down or takes a word. -/
def disjunction : Nat → Role → List ByteText → Action (Bool × List ByteText)
  | 0, _, words => return (false, words)
  | fuel + 1, first, words => do
    let (holds, words) ← conjunction fuel first words
    if role (words.drop 1) = .or then
      let rest := words.drop 2
      let (others, words) ← disjunction fuel (role rest) rest
      return (holds || others, words)
    else return (holds, words)

/-- Conditions all of which have to hold. -/
def conjunction : Nat → Role → List ByteText → Action (Bool × List ByteText)
  | 0, _, words => return (false, words)
  | fuel + 1, first, words => do
    let (holds, words) ← negation fuel first words
    if role (words.drop 1) = .and then
      let rest := words.drop 2
      let (others, words) ← conjunction fuel (role rest) rest
      return (holds && others, words)
    else return (holds, words)

/-- A condition, or one that must not hold. -/
def negation : Nat → Role → List ByteText → Action (Bool × List ByteText)
  | 0, _, words => return (false, words)
  | fuel + 1, first, words => do
    if first = .not then
      let next := role (words.drop 1)
      let (holds, words) ← negation fuel next (if next = .ended then words else words.drop 1)
      return (!holds, words)
    else primary fuel first words

/-- A single condition, or one between parentheses. -/
def primary : Nat → Role → List ByteText → Action (Bool × List ByteText)
  | 0, _, words => return (false, words)
  | fuel + 1, first, words => do
    match first, words with
    | .ended, words => return (false, words)
    | .openParenthesis, _ :: inner =>
      if role inner = .closeParenthesis then return (false, inner)
      else
        let (holds, words) ← disjunction fuel (role inner) inner
        let after := words.drop 1
        if role after = .closeParenthesis then return (holds, after)
        else misuse [] "closing paren expected"
    | .unary, word :: rest =>
      match rest with
      | [] => misuse word "argument expected"
      | operand :: _ => return (← unaryHolds word operand, rest)
    | _, operand :: rest =>
      if role rest = .binary then
        match rest with
        | word :: second :: more =>
          return (← binaryHolds operand word second, second :: more)
        | [word] => misuse word "argument expected"
        | [] => return (!operand.isEmpty, words)
      else return (!operand.isEmpty, words)
    | _, [] => return (false, [])

end

/-- Whether words hold as a condition that begins with a word in some role. -/
def holdsFrom (first : Role) (words : List ByteText) : Action Bool := do
  match ← disjunction (8 * (words.length + 2)) first words with
  | (_, word :: _ :: _) => misuse word "unexpected operator"
  | (holds, _) => return holds

/-- Whether words hold as a condition.  Up to four words are read by their number. -/
def holds : List ByteText → Action Bool
  | [] => return false
  | [first, second, third] => do
    if isBinary second then holdsFrom .operand [first, second, third]
    else if first = ['('] && third = [')'] then holdsFrom (role [second]) [second]
    else if first = ['!'] then return !(← holdsFrom (role [second, third]) [second, third])
    else holdsFrom (role [first, second, third]) [first, second, third]
  | [first, second, third, fourth] => do
    if first = ['('] && fourth = [')'] then
      holdsFrom (role [second, third]) [second, third]
    else if first = ['!'] then
      if isBinary third then return !(← holdsFrom .operand [second, third, fourth])
      else if second = ['('] && fourth = [')'] then return !(← holdsFrom (role [third]) [third])
      else if second = ['!'] then return !(← holdsFrom (role [third, fourth]) [third, fourth])
      else return !(← holdsFrom (role [second, third, fourth]) [second, third, fourth])
    else holdsFrom (role [first, second, third, fourth]) [first, second, third, fourth]
  | words => holdsFrom (role words) words

/-- The status of a condition. -/
def status (words : List ByteText) : Action Nat := do
  return if ← holds words then 0 else 1

/-- Conditions, and conditions between brackets. -/
def builtins : List Builtin :=
  [{ name := "test", run := fun _ words => status words },
   { name := "[", run := fun _ words => do
      match words.getLast? with
      | some [']'] => status words.dropLast
      | _ => Action.fail (ascii "missing ]") }]

end Condition

end SchemaDocs.Shell

/-!
## Conditions of the shell with more features

Conditions between double brackets, whose words are not cut and may be patterns, and
conditions as arguments of a command, which are read by their number.
-/

namespace SchemaDocs.Shell

namespace Truth

/-- Whether a variable or an element of an array is there. -/
def isSet (text : ByteText) : Action Bool := do
  match Calculation.splitName text with
  | (name, none) => return (← Action.value? name).isSome
  | (name, some ['@']) => return !(← Expansion.elementsOf name).texts.isEmpty
  | (name, some place) =>
    match ← Action.tried (Calculation.placeOf name place) with
    | .ok place => return (← Expansion.elementAt? name place).isSome
    | .error _ => return false

/-- The letters of options of the shell by name. -/
def hasNamedOption (name : ByteText) : Action Bool := do
  let letters : List (String × Char) :=
    [("allexport", 'a'), ("errexit", 'e'), ("noglob", 'f'), ("noexec", 'n'), ("nounset", 'u'),
     ("verbose", 'v'), ("xtrace", 'x'), ("noclobber", 'C'), ("pipefail", '2')]
  match letters.find? fun entry => ascii entry.1 = name with
  | some (_, letter) => Action.hasOption letter
  | none => return false

/-- Whether a word before an operand holds of it. -/
def unaryHolds (operator operand : ByteText) : Action Bool := do
  match operator with
  | ['-', 'v'] => isSet operand
  | ['-', 'o'] => hasNamedOption operand
  | ['-', 'a'] => Condition.fileHolds 'e' operand
  | ['-', 't'] => return false
  | ['-', 'R'] => return ((← Action.pointer? operand).map Variable.isPointer).getD false
  | operator => Condition.unaryHolds operator operand

/-- How two numbers are compared. -/
def comparison? (operator : ByteText) : Option (Int → Int → Bool) :=
  match String.ofList operator with
  | "-eq" => some fun a b => a = b
  | "-ne" => some fun a b => a ≠ b
  | "-gt" => some fun a b => b < a
  | "-ge" => some fun a b => b ≤ a
  | "-lt" => some fun a b => a < b
  | "-le" => some fun a b => a ≤ b
  | _ => none

/-! ### Conditions between brackets -/

/-- The text of a regular expression, in which quoted characters stand for themselves. -/
def regexText (text : MarkedText) : ByteText :=
  (text.map fun (c, isQuoted) =>
    if isQuoted && (ascii ".[]*^$+?()\x7b\x7d|\\").contains c then ['\\', c] else [c]).flatten

/-- Whether a text has a match of a regular expression, whose groups are kept.  There is none if the
expression is wrong. -/
def matchesRegex (text : ByteText) (pattern : MarkedText) : Action (Option Bool) := do
  match Pattern.read { isExtended := true, isLoose := true } (regexText pattern) with
  | .error _ => return none
  | .ok pattern =>
    let subject : Subject := { chars := text.toArray }
    let name := ascii "BASH_REMATCH"
    match pattern.search subject 0 with
    | some found =>
      let groups := (List.range (pattern.groups + 1)).map (found.group subject)
      Action.putVariable name (Action.listVariable groups)
      return some true
    | none =>
      Action.putVariable name (Action.listVariable [])
      return some false

/-- A text in small letters if case does not count. -/
def folded (text : ByteText) : Action ByteText := do
  if ← Action.hasFeature "nocasematch" then return text.map Char.toLower else return text

/-- Whether a pattern that is written by some rules matches a text. -/
def matchesUnder (rules : GlobRules) (interpreter : Interpreter) (text : ByteText)
    (pattern : Word) : Action Bool := do
  let marked ← Expansion.plainOf
    (← Expansion.pieces interpreter (← Expansion.withTilde pattern))
  let marked := if ← Action.hasFeature "nocasematch" then
      marked.map fun (c, isQuoted) => (c.toLower, isQuoted)
    else marked
  return (Glob.ofMarked rules marked).matchesAll (← folded text)

/-- Whether a pattern between brackets matches a text. -/
def matchesPattern (interpreter : Interpreter) (text : ByteText) (pattern : Word) : Action Bool :=
  matchesUnder { hasGroups := true, hasCaret := true } interpreter text pattern

/-- Whether a pattern of a selection matches a text. -/
def matchesCase (interpreter : Interpreter) (text : ByteText) (pattern : Word) : Action Bool := do
  matchesUnder (← Expansion.globRules) interpreter text pattern

/-- How a condition came out. -/
inductive Verdict where
  | holds | fails
  /-- It makes no sense. -/
  | wrong
deriving DecidableEq

/-- The verdict for a truth value. -/
def Verdict.ofBool (holds : Bool) : Verdict := if holds then .holds else .fails

/-- How a word between operands comes out. -/
def binary (interpreter : Interpreter) (operator : ByteText) (first second : Word) :
    Action Verdict := do
  let text ← Expansion.text interpreter first
  match String.ofList operator with
  | "=" => return .ofBool (← matchesPattern interpreter text second)
  | "==" => return .ofBool (← matchesPattern interpreter text second)
  | "!=" => return .ofBool !(← matchesPattern interpreter text second)
  | "=~" =>
    let marked ← Expansion.plainOf (← Expansion.pieces interpreter second)
    match ← matchesRegex text marked with
    | some holds => return .ofBool holds
    | none => return .wrong
  | _ =>
    let other ← Expansion.text interpreter second
    match comparison? operator with
    | some compare =>
      let name := some (ascii "[[")
      match ← Calculation.evaluate? name text with
      | none => return .fails
      | some a =>
        match ← Calculation.evaluate? name other with
        | none => return .fails
        | some b => return .ofBool (compare a.toInt b.toInt)
    | none => return .ofBool (← Condition.binaryHolds text operator other)

/-- How a condition comes out. -/
def judge (interpreter : Interpreter) : Test → Action Verdict
  | .unary operator operand => do
    return .ofBool (← unaryHolds operator (← Expansion.text interpreter operand))
  | .binary operator first second => binary interpreter operator first second
  | .not test => do
    match ← judge interpreter test with
    | .holds => return .fails
    | .fails => return .holds
    | .wrong => return .wrong
  | .and first second => do
    match ← judge interpreter first with
    | .holds => judge interpreter second
    | verdict => return verdict
  | .or first second => do
    match ← judge interpreter first with
    | .holds => return .holds
    | .fails => judge interpreter second
    | .wrong => return .wrong

/-- The status of a verdict. -/
def Verdict.status : Verdict → Nat
  | .holds => 0
  | .fails => 1
  | .wrong => 2

/-! ### Conditions as arguments -/

/-- Whether a word stands before an operand. -/
def isUnary (text : ByteText) : Bool :=
  match text with
  | ['-', c] => (ascii "abcdefghknoprstuvwxzGLNORS").contains c
  | _ => false

/-- Whether a word stands between operands. -/
def isBinary (text : ByteText) : Bool := text = ascii "==" || Condition.isBinary text

/-- Fails because the words make no condition. -/
def misuse {α : Type} (text : ByteText) : Action α := Action.failWith 2 text

/-- A whole number. -/
def integer (text : ByteText) : Action Int := do
  match Builtin.integer? text with
  | some value => return value
  | none => misuse (text ++ ascii ": integer expression expected")

/-- Whether a word between operands holds of them. -/
def binaryHolds (first operator second : ByteText) : Action Bool := do
  match comparison? operator with
  | some compare =>
    let a ← integer first
    let b ← integer second
    return compare a b
  | none =>
    if operator = ascii "==" then return first = second
    else Condition.binaryHolds first operator second

mutual

/-- Conditions of which one has to hold, and the words after them.  Each step goes a level down. -/
def disjunction : Nat → List ByteText → Action (Bool × List ByteText)
  | 0, words => return (false, words)
  | fuel + 1, words => do
    let (holds, rest) ← conjunction fuel words
    match rest with
    | ['-', 'o'] :: rest =>
      let (others, rest) ← disjunction fuel rest
      return (holds || others, rest)
    | rest => return (holds, rest)

/-- Conditions all of which have to hold. -/
def conjunction : Nat → List ByteText → Action (Bool × List ByteText)
  | 0, words => return (false, words)
  | fuel + 1, words => do
    let (holds, rest) ← primary fuel words
    match rest with
    | ['-', 'a'] :: rest =>
      let (others, rest) ← conjunction fuel rest
      return (holds && others, rest)
    | rest => return (holds, rest)

/-- A single condition. -/
def primary : Nat → List ByteText → Action (Bool × List ByteText)
  | 0, words => return (false, words)
  | fuel + 1, words => do
    match words with
    | [] => misuse (ascii "argument expected")
    | ['!'] :: rest =>
      let (holds, rest) ← primary fuel rest
      return (!holds, rest)
    | ['('] :: rest =>
      let (holds, rest) ← disjunction fuel rest
      match rest with
      | [')'] :: rest => return (holds, rest)
      | [] => misuse (ascii "\x60)' expected")
      | other :: _ => misuse (ascii "\x60)' expected, found " ++ other)
    | first :: operator :: second :: rest =>
      if isBinary operator then return (← binaryHolds first operator second, rest)
      else if isUnary first then return (← unaryHolds first operator, second :: rest)
      else return (!first.isEmpty, operator :: second :: rest)
    | [first, second] =>
      if isUnary first then return (← unaryHolds first second, [])
      else return (!first.isEmpty, [second])
    | [first] => return (!first.isEmpty, [])

end

/-- Whether two words hold as a condition. -/
def twoHold (first second : ByteText) : Action Bool := do
  if first = ['!'] then return second.isEmpty
  else if isUnary first then unaryHolds first second
  else misuse (first ++ ascii ": unary operator expected")

/-- Whether three words hold as a condition. -/
def threeHold (first second third : ByteText) : Action Bool := do
  if isBinary second then binaryHolds first second third
  else if second = ['-', 'a'] then return !first.isEmpty && !third.isEmpty
  else if second = ['-', 'o'] then return !first.isEmpty || !third.isEmpty
  else if first = ['!'] then return !(← twoHold second third)
  else if first = ['('] && third = [')'] then return !second.isEmpty
  else misuse (second ++ ascii ": binary operator expected")

/-- Whether words hold as a condition that is read from left to right. -/
def manyHold (words : List ByteText) : Action Bool := do
  match ← disjunction (4 * (words.length + 2)) words with
  | (holds, []) => return holds
  | _ => misuse (ascii "too many arguments")

/-- Whether words hold as a condition. -/
def hold : List ByteText → Action Bool
  | [] => return false
  | [word] => return !word.isEmpty
  | [first, second] => twoHold first second
  | [first, second, third] => threeHold first second third
  | [first, second, third, fourth] => do
    if first = ['!'] then return !(← threeHold second third fourth)
    else if first = ['('] && fourth = [')'] then twoHold second third
    else manyHold [first, second, third, fourth]
  | words => manyHold words

/-- The status of words as a condition. -/
def statusOf (words : List ByteText) : Action Nat := do return if ← hold words then 0 else 1

/-- Conditions, and conditions between brackets. -/
def builtins : List Builtin :=
  [{ name := "test", run := fun _ => statusOf },
   { name := "[", run := fun _ words => do
      match words.getLast? with
      | some [']'] => statusOf words.dropLast
      | _ => misuse (ascii "missing \x60]'") }]

end Truth

end SchemaDocs.Shell
