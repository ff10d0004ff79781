import SchemaDocs.Shell.Regex.Basic
/-!
# Reading regular expressions

Two spellings of regular expressions: the basic one, in which a backslash makes an
operator of a parenthesis, a brace or a bar, and the extended one, in which it takes the
meaning from them.
-/

namespace SchemaDocs.Shell

/-- Which spelling of regular expressions is read. -/
structure RegexRules where
  isExtended : Bool
  /-- Whether operators that have nothing to work on, and closing parentheses and braces that close
  nothing, stand for themselves in the extended spelling. -/
  isLoose : Bool := false
deriving DecidableEq

/-- What is wrong with a regular expression. -/
inductive RegexError where
  | badClass | badCollation | trailingBackslash | badReference | openBracket | openGroup
  | closedGroup | openBrace | badBrace | badRange | tooBig | nothingToRepeat
  /-- A bracket at the very end. -/
  | bareBracket
  /-- A class without a bracket around it. -/
  | bareClass
deriving DecidableEq

/-- The text of a fault. -/
def RegexError.message : RegexError → String
  | .badClass => "Invalid character class name"
  | .badCollation => "Invalid collation character"
  | .trailingBackslash => "Trailing backslash"
  | .badReference => "Invalid back reference"
  | .openBracket => "Unmatched [, [^, [:, [., or [="
  | .openGroup => "Unmatched ( or \\("
  | .closedGroup => "Unmatched ) or \\)"
  | .openBrace => "Unmatched \\\x7b"
  | .badBrace => "Invalid content of \\\x7b\\\x7d"
  | .badRange => "Invalid range end"
  | .tooBig => "Regular expression too big"
  | .nothingToRepeat => "Invalid preceding regular expression"
  | .bareBracket => "Invalid regular expression"
  | .bareClass => "character class syntax is [[:space:]], not [:space:]"

/-- A part of a regular expression as it is written. -/
inductive RegexToken where
  | stop
  | char (c : Char)
  | any
  | bracket
  | openGroup
  | closeGroup
  | bar
  | star
  | plus
  | question
  | openBrace
  | closeBrace
  | again (number : Nat)
  | anchor (kind : Anchor)
  | set (set : CharSet)
  | trailingBackslash
deriving DecidableEq

/-- How far a regular expression was read. -/
structure RegexReader where
  rest : ByteText
  /-- Whether nothing was read yet. -/
  isAtStart : Bool
  /-- The number of groups that were opened. -/
  opened : Nat
  /-- The groups that were closed. -/
  closed : List Nat

namespace RegexReader

/-- The token after a backslash. -/
def escapedToken (rules : RegexRules) (c : Char) : RegexToken :=
  if '1' ≤ c && c ≤ '9' then .again (c.toNat - '0'.toNat)
  else
    match c with
    | '<' => .anchor .wordStart
    | '>' => .anchor .wordEnd
    | 'b' => .anchor .wordEdge
    | 'B' => .anchor .noWordEdge
    | '\x60' => .anchor .textStart
    | '\'' => .anchor .textEnd
    | 'w' => .set CharSet.word
    | 'W' => .set CharSet.word.negate
    | 's' => .set CharSet.space
    | 'S' => .set CharSet.space.negate
    | _ =>
      if rules.isExtended then .char c
      else
        match c with
        | '(' => .openGroup
        | ')' => .closeGroup
        | '|' => .bar
        | '+' => .plus
        | '?' => .question
        | '\x7b' => .openBrace
        | '\x7d' => .closeBrace
        | _ => .char c

/-- Whether a dollar sign before some text ends a line in the basic spelling. -/
def endsLineBefore : ByteText → Bool
  | [] => true
  | '\\' :: ')' :: _ => true
  | '\\' :: '|' :: _ => true
  | _ => false

/-- The token at the head of a text, and the text after it.  A caret begins a line where an
expression begins. -/
def token (rules : RegexRules) (caretBegins : Bool) : ByteText → RegexToken × ByteText
  | [] => (.stop, [])
  | ['\\'] => (.trailingBackslash, [])
  | '\\' :: c :: rest => (escapedToken rules c, rest)
  | c :: rest =>
    match c with
    | '.' => (.any, rest)
    | '*' => (.star, rest)
    | '[' => (.bracket, rest)
    | '^' => (if rules.isExtended || caretBegins then .anchor .lineStart else .char c, rest)
    | '$' =>
      (if rules.isExtended || endsLineBefore rest then .anchor .lineEnd else .char c, rest)
    | _ =>
      if rules.isExtended then
        match c with
        | '(' => (.openGroup, rest)
        | ')' => (.closeGroup, rest)
        | '|' => (.bar, rest)
        | '+' => (.plus, rest)
        | '?' => (.question, rest)
        | '\x7b' => (.openBrace, rest)
        | '\x7d' => (.closeBrace, rest)
        | _ => (.char c, rest)
      else (.char c, rest)

/-! ## Brackets -/

/-- What stands at one end of a range in a bracket. -/
inductive BracketItem where
  | one (c : Char)
  | ranges (ranges : List (Char × Char))

/-- The text up to a mark and a closing bracket, and the text after them. -/
def untilMark (mark : Char) : ByteText → Option (ByteText × ByteText)
  | [] => none
  | c :: rest =>
    if c = mark && rest.head? = some ']' then some ([], rest.drop 1)
    else (untilMark mark rest).map fun (name, rest) => (c :: name, rest)

/-- Reads a character or a class in a bracket. -/
def bracketItem : ByteText → Except RegexError (BracketItem × ByteText)
  | [] => .error .openBracket
  | '[' :: ':' :: rest =>
    match untilMark ':' rest with
    | none => .error .openBracket
    | some (name, rest) =>
      match CharSet.rangesOfClass? name with
      | some ranges => .ok (.ranges ranges, rest)
      | none => .error .badClass
  | '[' :: '.' :: rest =>
    match untilMark '.' rest with
    | none => .error .openBracket
    | some ([c], rest) => .ok (.one c, rest)
    | some _ => .error .badCollation
  | '[' :: '=' :: rest =>
    match untilMark '=' rest with
    | none => .error .openBracket
    | some ([c], rest) => .ok (.one c, rest)
    | some _ => .error .badCollation
  | c :: rest => .ok (.one c, rest)

/-- Reads the ranges of a bracket up to the one that closes it.  Each step takes a character. -/
def bracketRanges : Nat → Bool → ByteText → Except RegexError (List (Char × Char) × ByteText)
  | 0, _, _ => .error .openBracket
  | fuel + 1, isFirst, text =>
    match text with
    | [] => .error .openBracket
    | c :: rest =>
      if c = ']' && !isFirst then .ok ([], rest)
      else do
        let (item, rest) ← bracketItem text
        match item, rest with
        | .one low, '-' :: next :: after =>
          if next = ']' then
            let (ranges, rest) ← bracketRanges fuel false rest
            .ok ((low, low) :: ranges, rest)
          else do
            let (stop, rest) ← bracketItem (next :: after)
            match stop with
            | .ranges _ => .error .badRange
            | .one high =>
              if high < low then .error .badRange
              else
                let (ranges, rest) ← bracketRanges fuel false rest
                .ok ((low, high) :: ranges, rest)
        | .one c, _ =>
          let (ranges, rest) ← bracketRanges fuel false rest
          .ok ((c, c) :: ranges, rest)
        | .ranges more, _ =>
          let (ranges, rest) ← bracketRanges fuel false rest
          .ok (more ++ ranges, rest)

/-- Whether what stands in a bracket looks like a class. -/
def looksLikeClass (text : ByteText) : Bool :=
  match text with
  | ':' :: rest =>
    let inner := rest.takeWhile fun c => c != ']' && c != '['
    inner.getLast? = some ':' && inner.any (· != ':') && (rest.drop inner.length).head? = some ']'
  | _ => false

/-- Reads a bracket after its opening mark. -/
def bracket (text : ByteText) : Except RegexError (CharSet × ByteText) := do
  let (isNegated, text) := match text with
    | '^' :: rest => (true, rest)
    | _ => (false, text)
  if text.isEmpty then throw .bareBracket
  if looksLikeClass text then throw .bareClass
  let (ranges, rest) ← bracketRanges (text.length + 1) true text
  .ok (⟨ranges, isNegated⟩, rest)

/-! ## Repetitions -/

/-- The greatest number of repetitions. -/
def mostTimes : Nat := 32767

/-- What a bound of repetitions turns out to be. -/
inductive Bound where
  | number (n : Nat)
  | missing
  | bad
deriving DecidableEq

/-- Reads a bound of repetitions up to a comma or a closing brace, and tells which of them comes. -/
def bound (rules : RegexRules) : Nat → Bound → ByteText → Bound × RegexToken × ByteText
  | 0, bound, text => (bound, .stop, text)
  | fuel + 1, read, text =>
    match token rules false text with
    | (.stop, rest) => (.bad, .stop, rest)
    | (.closeBrace, rest) => (read, .closeBrace, rest)
    | (.char ',', rest) => (read, .char ',', rest)
    | (.char c, rest) =>
      match read with
      | .bad => bound rules fuel .bad rest
      | .missing =>
        bound rules fuel (if c.isDigit then .number (c.toNat - '0'.toNat) else .bad) rest
      | .number n =>
        bound rules fuel
          (if c.isDigit then .number (min (mostTimes + 1) (n * 10 + (c.toNat - '0'.toNat)))
            else .bad) rest
    | (_, rest) => bound rules fuel .bad rest

/-- Reads the bounds between braces.  Braces that hold none are no repetition where they may stand
for themselves. -/
def interval (rules : RegexRules) (text : ByteText) :
    Except RegexError (Option ((Nat × Option Nat) × ByteText)) := do
  let fail (mark : RegexToken) : Except RegexError (Option ((Nat × Option Nat) × ByteText)) :=
    if rules.isLoose && rules.isExtended then .ok none
    else if mark = .stop then .error .openBrace
    else .error .badBrace
  let (low, mark, rest) := bound rules (text.length + 1) .missing text
  let low := if low = .missing && mark = .char ',' then Bound.number 0 else low
  match low with
  | .missing => .error .badBrace
  | .bad => fail mark
  | .number low =>
    let finish (high : Option Nat) (rest : ByteText) :
        Except RegexError (Option ((Nat × Option Nat) × ByteText)) :=
      if high.any (· < low) then .error .badBrace
      else if mostTimes < high.getD low then .error .tooBig
      else .ok (some ((low, high), rest))
    match mark with
    | .closeBrace => finish (some low) rest
    | _ =>
      let (high, mark, rest) := bound rules (rest.length + 1) .missing rest
      match high, mark with
      | .bad, _ => fail mark
      | .missing, .closeBrace => finish none rest
      | .number high, .closeBrace => finish (some high) rest
      | _, _ => .error .badBrace

/-- Whether a token repeats what stands before it. -/
def repeats : RegexToken → Bool
  | .star => true
  | .plus => true
  | .question => true
  | .openBrace => true
  | _ => false

/-- Reads the repetitions after a part.  Each step takes one. -/
def repetitions (rules : RegexRules) :
    Nat → Regex → ByteText → Except RegexError (Regex × ByteText)
  | 0, inner, text => .ok (inner, text)
  | fuel + 1, inner, text =>
    let next (inner : Regex) (rest : ByteText) : Except RegexError (Regex × ByteText) :=
      match (token rules false rest).1 with
      | .star => if rules.isExtended then repetitions rules fuel inner rest
        else .error .nothingToRepeat
      | .openBrace => if rules.isExtended then repetitions rules fuel inner rest
        else .error .nothingToRepeat
      | _ => repetitions rules fuel inner rest
    match token rules false text with
    | (.star, rest) => next (.times inner 0 none) rest
    | (.plus, rest) => next (.times inner 1 none) rest
    | (.question, rest) => next (.times inner 0 (some 1)) rest
    | (.openBrace, rest) => do
      match ← interval rules rest with
      | none => .ok (inner, text)
      | some ((least, most), rest) => next (.times inner least most) rest
    | _ => .ok (inner, text)

/-! ## Expressions -/

/-- What reading goes on with. -/
abbrev Step := RegexReader → Except RegexError (Regex × RegexReader)

/-- A part that was read, and what may follow it: repetitions or none. -/
def withRepetitions (rules : RegexRules) (reader : RegexReader) (inner : Regex) (rest : ByteText) :
    Except RegexError (Regex × RegexReader) := do
  let (regex, rest) ← repetitions rules (rest.length + 1) inner rest
  .ok (regex, { reader with rest := rest, isAtStart := false })

/-- Reads a group after its opening parenthesis. -/
def group (rules : RegexRules) (alternatives : Step) (reader : RegexReader) (rest : ByteText) :
    Except RegexError (Regex × RegexReader) := do
  let number := reader.opened + 1
  let (inner, inside) ← alternatives { reader with rest := rest, opened := number, isAtStart := true }
  match token rules false inside.rest with
  | (.closeGroup, rest) =>
    withRepetitions rules { inside with closed := number :: inside.closed }
      (.group number inner) rest
  | _ => .error .openGroup

/-- Reads an operator that has nothing to work on.  In the basic spelling it is a character if it may
be one; a loose reader of the extended one passes over it. -/
def strayOperator (rules : RegexRules) (reader : RegexReader) (mark : RegexToken) (c : Char)
    (rest : ByteText) : Except RegexError (Regex × RegexReader) := do
  if !rules.isExtended then
    if mark ≠ .openBrace then withRepetitions rules reader (.char c) rest
    else .error .nothingToRepeat
  else if !rules.isLoose then .error .nothingToRepeat
  else if mark = .openBrace then
    match ← interval rules rest with
    | some (_, rest) => .ok (.empty, { reader with rest := rest })
    | none => withRepetitions rules reader (.char c) rest
  else .ok (.empty, { reader with rest := rest })

/-- Reads a part of a sequence. -/
def part (rules : RegexRules) (alternatives : Step) (reader : RegexReader) :
    Except RegexError (Regex × RegexReader) :=
  match token rules reader.isAtStart reader.rest with
  | (.stop, _) => .ok (.empty, reader)
  | (.char c, rest) => withRepetitions rules reader (.char c) rest
  | (.any, rest) => withRepetitions rules reader (.one CharSet.all) rest
  | (.set set, rest) => withRepetitions rules reader (.one set) rest
  | (.bracket, rest) => do
    let (set, rest) ← bracket rest
    withRepetitions rules reader (.one set) rest
  | (.openGroup, rest) => group rules alternatives reader rest
  | (.again number, rest) =>
    if reader.closed.contains number then withRepetitions rules reader (.again number) rest
    else .error .badReference
  | (.anchor kind, rest) => .ok (.anchor kind, { reader with rest := rest, isAtStart := true })
  | (.closeGroup, rest) =>
    if rules.isExtended && rules.isLoose then withRepetitions rules reader (.char ')') rest
    else .error .closedGroup
  | (.closeBrace, rest) => withRepetitions rules reader (.char '\x7d') rest
  | (.star, rest) => strayOperator rules reader .star '*' rest
  | (.plus, rest) => strayOperator rules reader .plus '+' rest
  | (.question, rest) => strayOperator rules reader .question '?' rest
  | (.openBrace, rest) => strayOperator rules reader .openBrace '\x7b' rest
  | (.bar, _) => .ok (.empty, reader)
  | (.trailingBackslash, _) => .error .trailingBackslash

/-- Reads parts up to the end of a sequence.  Each step takes one of them. -/
def sequenceFrom (rules : RegexRules) (alternatives : Step) (isInGroup : Bool) :
    Nat → Regex → Step
  | 0, regex, reader => .ok (regex, reader)
  | fuel + 1, regex, reader =>
    let goOn := do
      let (next, reader) ← part rules alternatives reader
      let joined := if regex = .empty then next else .sequence regex next
      sequenceFrom rules alternatives isInGroup fuel joined reader
    match (token rules reader.isAtStart reader.rest).1 with
    | .stop => .ok (regex, reader)
    | .bar => .ok (regex, reader)
    | .closeGroup => if isInGroup then .ok (regex, reader) else goOn
    | _ => goOn

/-- Reads sequences between bars.  Each step takes one of them. -/
def alternativesFrom (rules : RegexRules) (alternatives : Step) (isInGroup : Bool) :
    Nat → Step
  | 0, reader => .ok (.empty, reader)
  | fuel + 1, reader => do
    let (first, reader) ←
      sequenceFrom rules alternatives isInGroup (reader.rest.length + 1) .empty
        { reader with isAtStart := true }
    match token rules false reader.rest with
    | (.bar, rest) =>
      let (second, reader) ←
        alternativesFrom rules alternatives isInGroup fuel { reader with rest := rest }
      .ok (.choice first second, reader)
    | _ => .ok (first, reader)

/-- Reads what stands in a group, with so many levels of groups in it. -/
def inner (rules : RegexRules) : Nat → Step
  | 0, _ => .error .tooBig
  | depth + 1, reader =>
    alternativesFrom rules (inner rules depth) true (reader.rest.length + 1) reader

end RegexReader

/-- Reads a regular expression. -/
def Pattern.read (rules : RegexRules) (text : ByteText) : Except RegexError Pattern := do
  let (regex, reader) ←
    RegexReader.alternativesFrom rules (RegexReader.inner rules (text.length + 1)) false
      (text.length + 1) ⟨text, true, 0, []⟩
  .ok (Pattern.ofRegex regex reader.opened)

end SchemaDocs.Shell
