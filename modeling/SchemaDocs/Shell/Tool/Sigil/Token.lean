import SchemaDocs.Shell.ByteText
/-!
# Programs of signed names

Expressions and statements of a language in which a sign before a name tells whether it stands
for a single value, a row or a table.
-/

namespace SchemaDocs.Shell.Sigil

/-- What a name stands for, as the sign before it tells. -/
inductive Sign where
  | one | row | table | code | handle
deriving DecidableEq, Inhabited

/-- The character of a sign. -/
def Sign.char : Sign → Char
  | .one => '$'
  | .row => '@'
  | .table => '%'
  | .code => '&'
  | .handle => '*'

/-- A value that a variable can hold. -/
inductive Value where
  | nothing
  | int (n : Int)
  | float (n : Float)
  | text (chars : List Char)
  /-- A text of letters that were told apart from bytes. -/
  | wide (chars : List Char)
  /-- Leads to what stands under a number. -/
  | reference (number : Nat)
  /-- A name for several things at once, with its package. -/
  | handle (name : String)
deriving Inhabited

/-- Where a variable is kept. -/
inductive Home where
  /-- In the place of its declaration. -/
  | slot (number : Nat)
  /-- Under a name with its package. -/
  | package (name : String)
deriving Inhabited

mutual

/-- An expression. -/
inductive Expr where
  | constant (value : Value)
  | named (sign : Sign) (home : Home)
  /-- A variable that shows something else. -/
  | special (name : String)
  /-- What a reference leads to. -/
  | follow (sign : Sign) (inner : Expr)
  | lastPlace (row : Expr)
  | element (row place : Expr)
  | entry (table key : Expr)
  | elements (row places : Expr) (isPaired : Bool)
  | entries (table keys : Expr) (isPaired : Bool)
  | pick (items places : Expr)
  | list (items : List Expr)
  /-- A text with values in it. -/
  | joined (parts : List Expr)
  | declare (isKept : Bool) (targets : List (Sign × Nat)) (isList : Bool)
  | localize (target : Expr)
  | assign (operator : String) (target value : Expr)
  | operate (operator : String) (first second : Expr)
  | both (first second : Expr)
  | either (first second : Expr)
  | defaulted (first second : Expr)
  | choose (condition first second : Expr)
  | step (isBefore isUp : Bool) (target : Expr)
  | range (first last : Expr) (isLong : Bool) (number : Nat)
  | seek (target : Option Expr) (isNegated : Bool) (pattern : Expr) (flags : List Char)
  | exchange (target : Option Expr) (isNegated : Bool) (pattern instead : Expr) (flags : List Char)
  | translate (target : Option Expr) (isNegated : Bool) (from_ into flags : List Char)
  | pattern (pattern : Expr) (flags : List Char)
  | reference (inner : Expr)
  | newRow (items : List Expr)
  | newTable (items : List Expr)
  | function (name : String) (body : List Statement)
  | call (name : String) (arguments : List Expr) (isShared : Bool)
  | callValue (function : Expr) (arguments : List Expr) (isShared : Bool)
  | method (target name : Expr) (arguments : List Expr)
  | builtIn (name : String) (arguments : List Expr)
  | block (body : List Statement)
  | guarded (body : List Statement)
  /-- Something done for each of some items. -/
  | mapped (name : String) (body : List Statement) (items : List Expr)
  | output (name : String) (handle : Option Expr) (items : List Expr)
  | readLine (handle : Expr)
  | files (pattern : Expr)
  | test (letter : Char) (inner : Expr)
  /-- The value of a text that is read as a program, where some names are known. -/
  | read (text : Expr) (names : List (String × Home))

/-- A statement. -/
inductive Statement where
  | expression (line : Nat) (value : Expr)
  | block (label : String) (body : List Statement)
  | conditional (line : Nat) (branches : List (Expr × List Statement)) (otherwise : List Statement)
  | loop (line : Nat) (label : String) (isNegated : Bool) (condition : Option Expr)
      (body after : List Statement)
  /-- Something done once before a condition is looked at. -/
  | loopLate (line : Nat) (isNegated : Bool) (condition body : Expr)
  | count (line : Nat) (label : String) (start condition next : Option Expr)
      (body : List Statement)
  | each (line : Nat) (label : String) (holder : Option Home) (items : List Expr)
      (body : List Statement)
  | package (name : String)
  | nothing

end

instance : Inhabited Expr := ⟨.constant .nothing⟩
instance : Inhabited Statement := ⟨.nothing⟩

/-- A program that was read. -/
structure Script where
  body : List Statement
  /-- The functions with a name. -/
  functions : List (String × List Statement)
  /-- What is done before all else. -/
  beginnings : List Statement
  /-- What is done at the end, the last part first. -/
  endings : List (List Statement)
  /-- The number of declarations. -/
  slots : Nat
  /-- The text behind the program. -/
  data : Option (List Char)
  /-- Whether texts and warnings are treated strictly. -/
  isStrict : Bool
  libraries : List String
deriving Inhabited

end SchemaDocs.Shell.Sigil

/-!
## Pieces of programs of signed names

What a program is made of below its expressions: blanks and comments, names, numbers, texts
between delimiters, and operators.
-/

namespace SchemaDocs.Shell.Sigil

/-- What is wrong with a program. -/
structure Fault where
  message : List Char
  line : Nat
  /-- Whether reading would go on after it. -/
  isSyntax : Bool := false

/-- What is known while a program is read. -/
structure Reader where
  rest : List Char
  line : Nat := 1
  previous : Char := '\n'
  /-- The number of lines that were taken from behind the next line feed. -/
  skipped : Nat := 0
  /-- Where the last two tokens begin. -/
  marks : List Char × List Char := ([], [])
  /-- The names that were declared, the innermost ones first. -/
  scopes : List (List (String × Home)) := [[]]
  /-- Names that count from the next statement on. -/
  pending : List (String × Home) := []
  slots : Nat := 1
  ranges : Nat := 0
  package : String := "main"
  /-- The functions that are known, with the kinds of their arguments if these are told. -/
  functions : List (String × Option String) := []
  isStrict : Bool := false
  isWide : Bool := false
  canSay : Bool := false
  hasSignatures : Bool := false
  libraries : List String := []
  beginnings : List Statement := []
  endings : List (List Statement) := []
  defined : List (String × List Statement) := []
  data : Option (List Char) := none
  faults : List Fault := []
  /-- The name that the program is called by in messages. -/
  file : List Char := []

/-- A step of reading a program. -/
abbrev Reading := StateT Reader (Except Fault)

/-- Whether a character may begin a name. -/
def isNameStart (c : Char) : Bool := c.isAlpha || c = '_'

/-- Whether a character may stand in a name. -/
def isNamePart (c : Char) : Bool := c.isAlphanum || c = '_'

/-- The name at the start of a text, with the packages before it. -/
def nameAt : Nat → List Char → List Char
  | 0, _ => []
  | fuel + 1, text =>
    let word := text.takeWhile isNamePart
    match text.drop word.length with
    | ':' :: ':' :: rest =>
      if rest.head?.any isNameStart || !word.isEmpty then word ++ [':', ':'] ++ nameAt fuel rest
      else word
    | '\'' :: c :: rest =>
      if isNameStart c && !word.isEmpty then word ++ ['\''] ++ nameAt fuel (c :: rest) else word
    | _ => word

/-- The closing delimiter for an opening one. -/
def closing (c : Char) : Char :=
  match c with
  | '(' => ')'
  | '[' => ']'
  | '\x7b' => '\x7d'
  | '<' => '>'
  | c => c

/-- A text as it is known outside of programs, from its bytes. -/
def decodedText (bytes : List Char) : List Char := (ByteText.toString bytes).toList

/-- The bytes of a text of letters. -/
def encodedText (text : List Char) : List Char := ByteText.ofString (String.ofList text)

/-- Whether all characters are bytes. -/
def isNarrow (text : List Char) : Bool := text.all fun c => c.toNat < 256

namespace Reading

/-- The text that is still to be read. -/
def rest : Reading (List Char) := do return (← get).rest

/-- Goes on after some characters. -/
def advance (count : Nat) : Reading Unit :=
  modify fun reader =>
    let taken := reader.rest.take count
    let feeds := taken.count '\n'
    { reader with
      rest := reader.rest.drop count
      line := reader.line + feeds + (if feeds = 0 then 0 else reader.skipped)
      skipped := if feeds = 0 then reader.skipped else 0
      previous := taken.getLast?.getD reader.previous }

/-- Fails where the reader is. -/
def failWith {α : Type} (message : List Char) : Reading α := do
  throw { message := message, line := (← get).line }

/-- The length of the token at the start of a text. -/
def lexemeLength (text : List Char) : Nat :=
  match text with
  | [] => 0
  | c :: rest =>
    if isNameStart c then (text.takeWhile isNamePart).length
    else if c.isDigit then (text.takeWhile fun d => d.isAlphanum || d = '.').length
    else if c = '$' || c = '@' || c = '%' then 1 + (rest.takeWhile isNamePart).length
    else if c = '"' || c = '\'' then (rest.takeWhile (· != c)).length + 2
    else
      match text with
      | '=' :: '>' :: _ => 2
      | '-' :: '>' :: _ => 2
      | '=' :: '=' :: _ => 2
      | '&' :: '&' :: _ => 2
      | '|' :: '|' :: _ => 2
      | _ => 1

/-- The line of the next token, which is the last one if there is none. -/
def lineOfNext (reader : Reader) : Nat :=
  let blanks := reader.rest.takeWhile isSpaceChar
  let line := reader.line + blanks.count '\n'
  if blanks.length < reader.rest.length then line
  else if (blanks.getLast?.getD reader.previous) = '\n' then line - 1 else line

/-- The messages of faults that were found before. -/
def earlierFaults (reader : Reader) : List Char :=
  (reader.faults.map fun fault =>
    if fault.isSyntax then fault.message
    else fault.message ++ ascii " at " ++ reader.file ++ ascii " line " ++ ByteText.ofNat fault.line
      ++ ascii ".\n").flatten

/-- Fails because the next token does not fit. -/
def failSyntax {α : Type} : Reading α := do
  let reader ← get
  let blanks := reader.rest.takeWhile isSpaceChar
  let later := reader.rest.drop blanks.length
  let behind := later.drop (lexemeLength later)
  let isMarked := (reader.marks.2.dropWhile isSpaceChar).length = later.length
  let start := if isMarked then reader.marks.1 else reader.marks.2
  let start := if start.length < later.length then later else start
  let near := start.take (start.length - behind.length)
  let place := if later.isEmpty then ascii "at EOF" else ascii "near \"" ++ near ++ ['"']
  let line := ascii " at " ++ reader.file ++ ascii " line " ++ ByteText.ofNat (lineOfNext reader) ++ ascii ", "
  let word := start.takeWhile isNamePart
  let hint := if word.head?.any isNameStart && (start.drop word.length).dropWhile isSpaceChar = later then
      ascii " (Do you need to predeclare \"" ++ word ++ ascii "\"?)"
    else ascii " (Missing operator before \"" ++ later.take (lexemeLength later) ++ ascii "\"?)"
  let found := if isMarked || start = later then none
    else match later with
      | c :: _ =>
        if c.isDigit then some "Number"
        else if c = '"' || c = '\'' then some "String"
        else if c = '$' then some "Scalar"
        else if c = '@' then some "Array"
        else none
      | [] => none
  let notice := match found with
    | some kind => ascii kind ++ ascii " found where operator expected" ++ hint ++ line ++ place ++ ['\n']
    | none => []
  throw { message := earlierFaults reader ++ notice ++ ascii "syntax error" ++ line ++ place ++ ['\n']
          line := reader.line, isSyntax := true }

/-- Whether comments that fill lines begin here: a sign and a word at the start of a line. -/
def isManual (reader : Reader) : Bool :=
  reader.previous = '\n' && (match reader.rest with
    | '=' :: c :: _ => c.isAlpha
    | _ => false)

/-- The number of characters up to the end of comments that fill lines.  Each step takes a line. -/
def manualLength : Nat → List Char → Nat
  | 0, text => text.length
  | fuel + 1, text =>
    let line := text.takeWhile (· != '\n')
    let rest := text.drop line.length
    if rest.isEmpty then line.length
    else if (ascii "=cut").isPrefixOf line then line.length + 1
    else line.length + 1 + manualLength fuel (rest.drop 1)

/-- Skips blanks and comments.  Each step takes some. -/
def skipFrom : Nat → Reading Unit
  | 0 => return ()
  | fuel + 1 => do
    let reader ← get
    match reader.rest with
    | [] => return ()
    | '#' :: rest =>
      advance (1 + (rest.takeWhile (· != '\n')).length)
      skipFrom fuel
    | c :: rest =>
      if isSpaceChar c then
        if c = '\n' then advance 1
        else advance (1 + (rest.takeWhile fun d => isSpaceChar d && d != '\n').length)
        skipFrom fuel
      else if isManual reader then
        advance (manualLength reader.rest.length reader.rest)
        skipFrom fuel
      else return ()

/-- Skips blanks and comments. -/
def skip : Reading Unit := do skipFrom ((← rest).length + 1)

/-- Notes that a token begins here. -/
def mark : Reading Unit :=
  modify fun reader => { reader with marks := (reader.marks.2, reader.rest) }

/-- Whether some sign comes next, after blanks. -/
def isNext (sign : String) : Reading Bool := do
  skip
  return sign.toList.isPrefixOf (← rest)

/-- Takes a sign if it comes next. -/
def accept (sign : String) : Reading Bool := do
  if ← isNext sign then
    mark
    advance sign.length
    return true
  else return false

/-- Takes a sign that has to come next. -/
def expect (sign : String) : Reading Unit := do
  if !(← accept sign) then
    if (← rest).isEmpty && (sign = "\x7d" || sign = "]") then
      let reader ← get
      let line := ByteText.ofNat (lineOfNext reader)
      throw { message := earlierFaults reader ++ ascii "Missing right curly or square bracket at " ++ reader.file
                ++ ascii " line " ++ line ++ ascii ", at end of line\nsyntax error at " ++ reader.file
                ++ ascii " line " ++ line ++ ascii ", at EOF\n"
              line := reader.line, isSyntax := true }
    else failSyntax

/-- The word that comes next. -/
def nextWord : Reading String := do
  skip
  return String.ofList ((← rest).takeWhile isNamePart)

/-- Whether some word comes next, not as the key of a table. -/
def isWord (word : String) : Reading Bool := do
  if (← nextWord) = word then
    let after := ((← rest).drop word.length).dropWhile isSpaceChar
    return !(ascii "=>").isPrefixOf after
  else return false

/-- Takes a word if it comes next. -/
def acceptWord (word : String) : Reading Bool := do
  if ← isWord word then
    mark
    advance word.length
    return true
  else return false

/-! ### Texts between delimiters -/

/-- The text up to a closing delimiter, and what follows it.  Backslashes before delimiters are
kept or not. -/
def untilClose (start stop : Char) (keeps : Bool) : Nat → List Char → List Char →
    Option (List Char × List Char)
  | _, _, [] => none
  | level, taken, '\\' :: c :: text =>
    if (c = start || c = stop) && !keeps then untilClose start stop keeps level (c :: taken) text
    else if c = '\\' && !keeps && stop = '\\' then untilClose start stop keeps level (c :: taken) text
    else untilClose start stop keeps level (c :: '\\' :: taken) text
  | level, taken, c :: text =>
    if c = stop then
      match level with
      | 0 => some (taken.reverse, text)
      | level + 1 => untilClose start stop keeps level (c :: taken) text
    else if c = start then untilClose start stop keeps (level + 1) (c :: taken) text
    else untilClose start stop keeps level (c :: taken) text

/-- Takes the text between delimiters, the first of which is given and was taken. -/
def delimited (start : Char) (keeps : Bool) (message : List Char) : Reading (List Char) := do
  let text ← rest
  match untilClose start (closing start) keeps 0 [] text with
  | some (inner, after) =>
    advance (text.length - after.length)
    return inner
  | none => failWith message

/-- What is said of a text without an end. -/
def endlessText (c : Char) : List Char :=
  let quote := if c = '"' then '\'' else '"'
  ascii "Can't find string terminator " ++ [quote, c, quote] ++ ascii " anywhere before EOF"

/-- Takes the delimiter of a text, after blanks. -/
def delimiter : Reading Char := do
  match ← rest with
  | c :: _ =>
    if isSpaceChar c then
      skip
      match ← rest with
      | c :: _ =>
        advance 1
        return c
      | [] => failSyntax
    else
      advance 1
      return c
  | [] => failSyntax

/-- The text between single quotes, in which a backslash stands only for one before it. -/
def rawText : List Char → List Char
  | '\\' :: '\\' :: text => '\\' :: rawText text
  | c :: text => c :: rawText text
  | [] => []

/-- A constant text. -/
def constantText (text : List Char) : Reading Expr := do
  if (← get).isWide && text.any (fun c => 128 ≤ c.toNat) then
    return .constant (.wide (decodedText text))
  else return .constant (.text text)

/-- The lines of a text up to one with its mark, and the number of characters taken. -/
def untilMark (name : List Char) (isIndented : Bool) : Nat → List (List Char) → List Char →
    Option (List (List Char) × List Char)
  | 0, _, _ => none
  | fuel + 1, taken, text =>
    let line := text.takeWhile (· != '\n')
    let rest := text.drop line.length
    let shown := if isIndented then line.dropWhile fun c => c = ' ' || c = '\t' else line
    if shown = name then some (taken.reverse, rest.drop 1)
    else if rest.isEmpty then none
    else untilMark name isIndented fuel (line :: taken) (rest.drop 1)

/-- The blanks that all lines begin with that are not blank. -/
def sharedBlanks (lines : List (List Char)) : Nat :=
  let filled := lines.filter fun line => line.any fun c => !isSpaceChar c
  let counts := filled.map fun line => (line.takeWhile fun c => c = ' ' || c = '\t').length
  match counts with
  | [] => 0
  | first :: others => others.foldl min first

/-- Takes the lines behind the current one up to a mark. -/
def linesUntil (name : List Char) (isIndented : Bool) : Reading (List Char) := do
  let text ← rest
  let line := text.takeWhile (· != '\n')
  match untilMark name isIndented (text.length + 1) [] (text.drop (line.length + 1)) with
  | some (lines, after) =>
    let lines :=
      if isIndented then
        let count := sharedBlanks lines
        lines.map (List.drop count)
      else lines
    modify fun reader =>
      { reader with rest := line ++ ['\n'] ++ after, skipped := reader.skipped + lines.length + 1 }
    return (lines.map fun line => line ++ ['\n']).flatten
  | none =>
    failWith (ascii "Can't find string terminator " ++ ['"'] ++ name
      ++ ascii "\" anywhere before EOF")

/-- The character that a letter behind a backslash stands for in a text. -/
def escapedChar? (c : Char) : Option Char :=
  match c with
  | 'n' => some '\n'
  | 't' => some '\t'
  | 'r' => some '\x0d'
  | 'a' => some '\x07'
  | 'e' => some '\x1b'
  | 'f' => some '\x0c'
  | 'b' => some '\x08'
  | '0' => none
  | _ => none

/-! ### Numbers -/

/-- Digits with marks between them. -/
def digitsAt (base : Nat) (text : List Char) : List Char :=
  text.takeWhile fun c => ByteText.isDigitIn base c || c = '_'

/-- The greatest whole number without a sign. -/
def mostNatural : Nat := 18446744073709551615

/-- A whole number that is written in some base. -/
def wholeValue (n : Nat) : Value := if n ≤ mostNatural then .int n else .float (Float.ofNat n)

/-- Takes a number. -/
def number (read : List Char → Float) : Reading Value := do
  let text ← rest
  let inBase (base skipped : Nat) : Reading Value := do
    let digits := digitsAt base (text.drop skipped)
    advance (skipped + digits.length)
    return wholeValue (ByteText.valueIn base (digits.filter (· != '_')))
  match text with
  | '0' :: 'x' :: _ => inBase 16 2
  | '0' :: 'X' :: _ => inBase 16 2
  | '0' :: 'b' :: _ => inBase 2 2
  | '0' :: 'B' :: _ => inBase 2 2
  | '0' :: 'o' :: _ => inBase 8 2
  | '0' :: c :: _ => if c.isDigit || c = '_' then inBase 8 1 else decimal text
  | _ => decimal text
where
  /-- A number in decimal digits. -/
  decimal (text : List Char) : Reading Value := do
    let whole := digitsAt 10 text
    let after := text.drop whole.length
    let fraction := match after with
      | '.' :: '.' :: _ => []
      | '.' :: more => '.' :: digitsAt 10 more
      | _ => []
    let after := after.drop fraction.length
    let exponent := match after with
      | e :: more =>
        if e = 'e' || e = 'E' then
          let (sign, more) := match more with
            | '-' :: more => (['-'], more)
            | '+' :: more => (['+'], more)
            | more => ([], more)
          let digits := digitsAt 10 more
          if digits.isEmpty then [] else e :: (sign ++ digits)
        else []
      | [] => []
    advance (whole.length + fraction.length + exponent.length)
    if fraction.isEmpty && exponent.isEmpty then
      return wholeValue (ByteText.valueIn 10 (whole.filter (· != '_')))
    else return .float (read ((whole ++ fraction ++ exponent).filter (· != '_')))

/-! ### Operators -/

/-- How tightly operators bind, the ones for values apart from those for words. -/
def signOperators : List (String × Nat) :=
  [("**=", 5), ("||=", 5), ("&&=", 5), ("//=", 5), ("<<=", 5), (">>=", 5), ("...", 7), ("<=>", 12),
   ("**", 20), ("=~", 18), ("!~", 18), ("==", 12), ("!=", 12), ("<=", 13), (">=", 13), ("<<", 15),
   (">>", 15), ("&&", 9), ("||", 8), ("//", 8), ("..", 7), ("+=", 5), ("-=", 5), (".=", 5),
   ("*=", 5), ("/=", 5), ("%=", 5), ("&=", 5), ("|=", 5), ("^=", 5), ("*", 17), ("/", 17), ("%", 17),
   ("+", 16), ("-", 16), (".", 16), ("<", 13), (">", 13), ("&", 11), ("|", 10), ("^", 10), ("?", 6),
   ("=", 5)]

/-- Operators that are words. -/
def wordOperators : List (String × Nat) :=
  [("x", 17), ("lt", 13), ("gt", 13), ("le", 13), ("ge", 13), ("eq", 12), ("ne", 12), ("cmp", 12),
   ("isa", 14)]

/-- The operator at the start of a text. -/
def operatorAt (text : List Char) : Option (String × Nat) :=
  match text with
  | '=' :: '>' :: _ => none
  | '-' :: '-' :: _ => none
  | '+' :: '+' :: _ => none
  | '-' :: '>' :: _ => none
  | 'x' :: '=' :: rest =>
    match rest with
    | '=' :: _ => some ("x", 17)
    | '~' :: _ => some ("x", 17)
    | '>' :: _ => none
    | _ => some ("x=", 5)
  | 'x' :: c :: _ =>
    if c.isDigit then some ("x", 17)
    else if isNamePart c then none
    else keyed "x" 17
  | c :: _ =>
    if isNameStart c then
      let word := String.ofList (text.takeWhile isNamePart)
      match wordOperators.find? fun entry => entry.1 = word with
      | some (word, level) => keyed word level
      | none => none
    else signOperators.find? fun entry => entry.1.toList.isPrefixOf text
  | [] => none
where
  /-- An operator, unless it is the key of a table. -/
  keyed (word : String) (level : Nat) : Option (String × Nat) :=
    if (ascii "=>").isPrefixOf ((text.drop word.length).dropWhile isSpaceChar) then none
    else some (word, level)

/-! ### Names -/

/-- A name with its package in one spelling. -/
def plainName (name : List Char) : String :=
  let parts := name.flatMap fun c => if c = '\'' then [':', ':'] else [c]
  let parts := match parts with
    | ':' :: ':' :: rest => ascii "main::" ++ rest
    | parts => parts
  String.ofList parts

/-- Names that belong to the main package wherever they stand. -/
def isSharedName (name : String) : Bool :=
  ["ENV", "ARGV", "INC", "STDIN", "STDOUT", "STDERR", "ARGVOUT", "_"].contains name
    || !(name.toList.head?.any isNameStart)

/-- A name with the package that it belongs to. -/
def wholeName (name : List Char) : Reading String := do
  let plain := plainName name
  if plain.toList.contains ':' then return plain
  else if isSharedName plain then return "main::" ++ plain
  else return (← get).package ++ "::" ++ plain

/-- Notes a fault after which reading goes on. -/
def noteFault (message : List Char) : Reading Unit :=
  modify fun reader =>
    { reader with faults := reader.faults ++ [{ message := message, line := reader.line }] }

/-- Where the variable of some sign and name is kept. -/
def homeOf (sign : Sign) (name : List Char) : Reading Home := do
  let reader ← get
  let key := String.ofList (sign.char :: name)
  let known := (reader.scopes.findSome? fun scope =>
    (scope.find? fun entry => entry.1 = key).map Prod.snd)
  match known with
  | some home => return home
  | none =>
    let plain := plainName name
    if reader.isStrict && !plain.toList.contains ':' && !isSharedName plain
        && !(sign = .one && (plain = "a" || plain = "b")) then
      noteFault (ascii "Global symbol \"" ++ key.toList
        ++ ascii "\" requires explicit package name (did you forget to declare \"my " ++ key.toList
        ++ ascii "\"?)")
    return .package (← wholeName name)

/-- The variables that show something else. -/
def isSpecial (sign : Sign) (name : String) : Bool :=
  match sign with
  | .one =>
    ["&", "\x60", "'", "+", "!", ".", "|", "$", "^N"].contains name
      || (name != "0" && !name.isEmpty && name.toList.all Char.isDigit)
  | .row => name = "-" || name = "+"
  | .table => name = "+" || name = "-"
  | _ => false

/-- The variable of some sign and name. -/
def namedVariable (sign : Sign) (name : List Char) : Reading Expr := do
  let text := String.ofList name
  if isSpecial sign text then return .special (String.ofList (sign.char :: name))
  else return .named sign (← homeOf sign name)

/-- Declares a variable, which counts from the next statement on. -/
def declareName (sign : Sign) (name : List Char) : Reading (Sign × Nat) := do
  let reader ← get
  let slot := reader.slots
  set { reader with
        slots := slot + 1
        pending := (String.ofList (sign.char :: name), .slot slot) :: reader.pending }
  return (sign, slot)

/-- Lets the names count that were declared. -/
def introduce : Reading Unit :=
  modify fun reader =>
    match reader.scopes with
    | scope :: outer => { reader with scopes := (reader.pending ++ scope) :: outer, pending := [] }
    | [] => { reader with scopes := [reader.pending], pending := [] }

/-- Reads something in a scope of its own. -/
def inScope {α : Type} (step : Reading α) : Reading α := do
  introduce
  let before ← get
  set { before with scopes := [] :: before.scopes }
  let result ← step
  introduce
  modify fun reader =>
    { reader with scopes := before.scopes, package := before.package, isStrict := before.isStrict }
  return result

/-- Reads another text in the place of the rest. -/
def within {α : Type} (text : List Char) (step : Reading α) : Reading α := do
  let before ← get
  set { before with rest := text, skipped := 0, marks := (text, text) }
  let result ← step
  modify fun reader =>
    { reader with rest := before.rest, line := before.line, skipped := before.skipped
                  marks := before.marks, previous := before.previous }
  return result

end Reading

end SchemaDocs.Shell.Sigil
