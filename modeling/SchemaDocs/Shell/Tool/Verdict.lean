import SchemaDocs.Shell.Tool.Basic
/-!
# Conditions as programs

A program whose arguments are a condition on texts, numbers and files, which says by its code
whether it holds.  How many arguments there are decides first what they can mean.
-/

namespace SchemaDocs.Shell

namespace Verdict

/-- What is known while a condition is read. -/
structure State where
  rest : List ByteText
  /-- The last of all words. -/
  last : ByteText

/-- A step of reading a condition, which may find that the words make none. -/
abbrev Reading := ExceptT ByteText (StateT State Program)

/-- The words make no condition. -/
def fail {α : Type} (text : ByteText) : Reading α := throw text

/-- A word is missing. -/
def failAtEnd {α : Type} : Reading α := do
  fail (ascii "missing argument after " ++ Program.quoted (← get).last)

/-- The words that are still to be read. -/
def words : Reading (List ByteText) := do return (← get).rest

/-- Goes on after some words. -/
def skip (count : Nat) : Reading Unit :=
  modify fun state => { state with rest := state.rest.drop count }

/-- Goes on after a word that another one has to follow. -/
def advance : Reading Unit := do
  skip 1
  if (← words).isEmpty then failAtEnd

/-- A step of a program. -/
def program {α : Type} (step : Program α) : Reading α := liftM (m := StateT State Program) (liftM step)

/-- The words that stand between operands. -/
def binaryWords : List ByteText :=
  ["=", "!=", "==", "-nt", "-ot", "-ef", "-eq", "-ne", "-lt", "-le", "-gt", "-ge"].map ascii

/-- Whether a word stands between operands. -/
def isBinary (word : ByteText) : Bool := binaryWords.contains word

/-- Whether a word has the shape of one that stands before an operand. -/
def isUnary (word : ByteText) : Bool :=
  match word with
  | ['-', _] => true
  | _ => false

/-- A whole number between blanks. -/
def integer (word : ByteText) : Reading Int := do
  let isBlank (c : Char) : Bool := c = ' ' || c = '\t'
  let text := word.dropWhile isSpaceChar
  let (isNegative, digits) :=
    match text with
    | '-' :: rest => (true, rest)
    | '+' :: rest => (false, rest)
    | rest => (false, rest)
  let number := digits.takeWhile Char.isDigit
  if number.isEmpty || !((digits.drop number.length).all isBlank) then
    fail (ascii "invalid integer " ++ Program.quoted word)
  else
    let value : Int := ByteText.valueIn 10 number
    return if isNegative then -value else value

/-- Whether one file was changed after another one.  One that is not there is older. -/
def isNewer (first second : ByteText) : Program Bool := do
  let a ← Program.marksOf first
  let b ← Program.marksOf second
  match a, b with
  | some a, some b => return b.changed < a.changed
  | some _, none => return true
  | none, _ => return false

/-- A comparison of two operands, of which each may be the length of a text. -/
def comparison (takesLength : Bool) : Reading Bool := do
  if takesLength then skip 1
  let first := (← words).head?.getD []
  let operator := ((← words)[1]?).getD []
  let count := (← words).length
  let rightTakesLength := 3 < count && (← words)[2]? = some ['-', 'l']
  let second := ((← words)[if rightTakesLength then 3 else 2]?).getD []
  skip (if rightTakesLength then 4 else 3)
  let number (isLength : Bool) (word : ByteText) : Reading Int :=
    if isLength then return (word.length : Int) else integer word
  let compare (p : Int → Int → Bool) : Reading Bool := do
    let a ← number takesLength first
    let b ← number rightTakesLength second
    return p a b
  let withoutLength (step : Program Bool) : Reading Bool := do
    if takesLength || rightTakesLength then fail (operator ++ ascii " does not accept -l")
    else program step
  match String.ofList operator with
  | "=" => return first = second
  | "==" => return first = second
  | "!=" => return first ≠ second
  | "-eq" => compare fun a b => a = b
  | "-ne" => compare fun a b => a ≠ b
  | "-gt" => compare fun a b => b < a
  | "-ge" => compare fun a b => b ≤ a
  | "-lt" => compare fun a b => a < b
  | "-le" => compare fun a b => a ≤ b
  | "-nt" => withoutLength (isNewer first second)
  | "-ot" => withoutLength (isNewer second first)
  | _ => withoutLength (Program.isSameFile first second)

/-- Whether a word before an operand holds of it. -/
def property : Reading Bool := do
  let word := (← words).head?.getD []
  match word with
  | ['-', c] =>
    if (ascii "eftnzrwxdsSGOcbpLhugkN").contains c then
      advance
      let operand := (← words).head?.getD []
      skip 1
      match c with
      | 'n' => return !operand.isEmpty
      | 'z' => return operand.isEmpty
      | 't' =>
        let _ ← integer operand
        return false
      | 'N' => return false
      | c => program (Program.fileHolds c operand)
    else fail (Program.quoted word ++ ascii ": unary operator expected")
  | _ => fail (Program.quoted word ++ ascii ": unary operator expected")

/-- A condition that is one word. -/
def oneWord : Reading Bool := do
  let word := (← words).head?.getD []
  skip 1
  return !word.isEmpty

/-- A condition of two words. -/
def twoWords : Reading Bool := do
  match ← words with
  | ['!'] :: _ =>
    skip 1
    return !(← oneWord)
  | word :: _ => if isUnary word then property else failAtEnd
  | [] => failAtEnd

mutual

/-- Conditions of which one has to hold.  Each step goes a level down or takes a word. -/
def disjunction : Nat → Bool → Reading Bool
  | 0, sofar => return sofar
  | fuel + 1, sofar => do
    let holds := sofar || (← conjunction fuel true)
    match ← words with
    | ['-', 'o'] :: _ =>
      skip 1
      disjunctionOn fuel holds
    | _ => return holds

/-- The conditions after the word for one of them, which are read even if one holds. -/
def disjunctionOn : Nat → Bool → Reading Bool
  | 0, sofar => return sofar
  | fuel + 1, sofar => do
    let others ← disjunction fuel false
    return sofar || others

/-- Conditions all of which have to hold. -/
def conjunction : Nat → Bool → Reading Bool
  | 0, sofar => return sofar
  | fuel + 1, sofar => do
    let one ← term fuel
    let holds := sofar && one
    match ← words with
    | ['-', 'a'] :: _ =>
      skip 1
      conjunction fuel holds
    | _ => return holds

/-- A condition that may be denied or stand between parentheses. -/
def term : Nat → Reading Bool
  | 0 => return false
  | fuel + 1 => do
    match ← words with
    | [] => failAtEnd
    | ['!'] :: _ =>
      advance
      return !(← term fuel)
    | ['('] :: _ =>
      advance
      let rest ← words
      let inner := (rest.drop 1).takeWhile (· != [')'])
      let count := if 3 ≤ inner.length then rest.length else inner.length + 1
      let holds ← counted fuel count
      match ← words with
      | [] => fail (Program.quoted [')'] ++ ascii " expected")
      | [')'] :: _ =>
        skip 1
        return holds
      | word :: _ =>
        fail (Program.quoted [')'] ++ ascii " expected, found " ++ Program.quoted word)
    | ['-', 'l'] :: _ :: operator :: _ :: _ =>
      if isBinary operator then comparison true
      else if isBinary (((← words)[1]?).getD []) then comparison false
      else property
    | word :: operator :: _ :: _ =>
      if isBinary operator then comparison false
      else if isUnary word then property
      else oneWord
    | word :: _ => if isUnary word then property else oneWord

/-- A condition of so many words. -/
def counted : Nat → Nat → Reading Bool
  | 0, _ => return false
  | fuel + 1, count => do
    match count, ← words with
    | 1, _ => oneWord
    | 2, _ => twoWords
    | 3, a :: b :: c :: _ =>
      if isBinary b then comparison false
      else if a = ['!'] then
        advance
        return !(← twoWords)
      else if a = ['('] && c = [')'] then
        skip 1
        let holds ← oneWord
        skip 1
        return holds
      else if b = ['-', 'a'] || b = ['-', 'o'] then disjunction fuel false
      else fail (Program.quoted b ++ ascii ": binary operator expected")
    | 4, a :: b =>
      if a = ['!'] then
        advance
        return !(← counted fuel 3)
      else if a = ['('] && b[2]? = some [')'] then
        skip 1
        let holds ← twoWords
        skip 1
        return holds
      else disjunction fuel false
    | _, _ => disjunction fuel false

end

/-- Whether all of some words are a condition that holds. -/
def whole (arguments : List ByteText) : Reading Bool := do
  let holds ← counted (8 * arguments.length + 8) arguments.length
  match ← words with
  | [] => return holds
  | word :: _ => fail (ascii "extra argument " ++ Program.quoted word)

/-- The code for a condition. -/
def judge (arguments : List ByteText) : Program Nat := do
  if arguments.isEmpty then return 1
  let state : State := { rest := arguments, last := (arguments.getLast?).getD [] }
  let (result, _) ← ((whole arguments).run).run state
  match result with
  | .ok holds => return if holds then 0 else 1
  | .error text => Program.die 2 text

end Verdict

namespace Tool

/-- Says whether a condition holds. -/
def test : Tool := do Verdict.judge (← read).arguments

/-- Says whether a condition holds that a bracket ends. -/
def bracket : Tool := do
  let arguments := (← read).arguments
  if arguments = [ascii "--help"] || arguments = [ascii "--version"] then return 0
  else if arguments.getLast? = some [']'] then Verdict.judge arguments.dropLast
  else Program.die 2 (ascii "missing " ++ Program.quoted [']'])

end Tool

end SchemaDocs.Shell
