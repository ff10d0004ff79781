import SchemaDocs.Shell.Escape
import SchemaDocs.Shell.Regex.Read
import SchemaDocs.Shell.Regex.Basic
import SchemaDocs.Shell.Tool.Record.Datum
/-!
# Words of programs over records

The patterns of such programs, and what else they are written with.

## Patterns of programs over records

Patterns are extended regular expressions in which a backslash names a character as it
does in texts, also within brackets.
-/

namespace SchemaDocs.Shell.Record

namespace PatternText

/-- What is wrong with a pattern, in the words of a message. -/
def fault : RegexError → String
  | .openGroup => "missing ')'"
  | .nothingToRepeat => "missing operand"
  | .openBracket => "bad class -- [], [^] or ["
  | .bareBracket => "bad class -- [], [^] or ["
  | .badClass => "bad class -- [], [^] or ["
  | _ => "bad interval expression"

/-- The character that a backslash names at the start of a text, and what follows it. -/
def named (text : ByteText) : Char × ByteText :=
  match text with
  | [] => ('\\', [])
  | c :: rest =>
    if ByteText.isDigitIn 8 c then
      let (digits, rest) := Escape.digits 8 3 text
      (Escape.byte (ByteText.valueIn 8 digits), rest)
    else if c = 'e' then (c, rest)
    else ((Escape.letter? c).getD c, rest)

/-- Whether a character has a meaning of its own in a pattern. -/
def isOperator (c : Char) : Bool := (ascii ".[]()*+?\x7b\x7d|^$\\").contains c

/-- A character that stands for itself in a pattern. -/
def literal (c : Char) : ByteText := if isOperator c then ['\\', c] else [c]

/-- What a bracket holds. -/
structure Holding where
  singles : ByteText := []
  /-- Ranges and classes as they are written, the last one first. -/
  others : List ByteText := []

/-- The text up to the end of a class with a mark, and what follows it. -/
def classText? (mark : Char) (text : ByteText) : Option (ByteText × ByteText) :=
  (RegexReader.untilMark mark text).map fun (name, rest) =>
    (['[', mark] ++ name ++ [mark, ']'], rest)

/-- Reads what a bracket holds up to its end, and gives what follows it.  Each step takes a
character. -/
def holding : Nat → Bool → Holding → ByteText → Option (Holding × ByteText)
  | 0, _, _, _ => none
  | _ + 1, _, _, [] => none
  | fuel + 1, isFirst, held, c :: rest =>
    if c = ']' && !isFirst then some (held, rest)
    else
      let classed : Option (ByteText × ByteText) :=
        match c, rest with
        | '[', ':' :: inner => classText? ':' inner
        | _, _ => none
      match classed with
      | some (text, rest) => holding fuel false { held with others := text :: held.others } rest
      | none =>
        let (low, rest) := if c = '\\' then named rest else (c, rest)
        match rest with
        | '-' :: d :: more =>
          if d = ']' then holding fuel false { held with singles := low :: held.singles } rest
          else
            let (high, rest) := if d = '\\' then named more else (d, more)
            holding fuel false { held with others := [low, '-', high] :: held.others } rest
        | _ => holding fuel false { held with singles := low :: held.singles } rest

/-- A bracket that holds something, written so that every character in it stands for itself. -/
def bracket (isNegated : Bool) (held : Holding) : ByteText :=
  let has (c : Char) : Bool := held.singles.contains c
  let plain := held.singles.reverse.filter fun c => !(ascii "]^-[").contains c
  let inner := (if has ']' then [']'] else []) ++ plain ++ held.others.reverse.flatten
    ++ (if has '[' then ['['] else [])
  match inner, isNegated, has '^', has '-' with
  | [], false, true, false => ['\\', '^']
  | [], false, true, true => ascii "[-^]"
  | inner, _, hasCaret, hasDash =>
    ['['] ++ (if isNegated then ['^'] else []) ++ inner ++ (if hasCaret then ['^'] else [])
      ++ (if hasDash then ['-'] else []) ++ [']']

/-- A pattern in the spelling of extended regular expressions.  The flag tells whether an operand
has to come.  Each step takes a character. -/
def respell : Nat → Bool → ByteText → Except RegexError (List ByteText)
  | 0, _, _ => .ok []
  | _ + 1, _, [] => .ok []
  | fuel + 1, isOpen, c :: rest => do
    match c with
    | '\\' =>
      let (named, rest) := named rest
      return literal named :: (← respell fuel false rest)
    | '[' =>
      let (isNegated, inner) :=
        match rest with
        | '^' :: inner => (true, inner)
        | inner => (false, inner)
      match holding (inner.length + 1) true {} inner with
      | none => throw .openBracket
      | some (held, rest) => return bracket isNegated held :: (← respell fuel false rest)
    | '(' => return ['('] :: (← respell fuel true rest)
    | '|' => return ['|'] :: (← respell fuel true rest)
    | '^' => return ['^'] :: (← respell fuel isOpen rest)
    | _ =>
      if isOpen && (c = '*' || c = '+' || c = '?') then throw .nothingToRepeat
      else return [c] :: (← respell fuel false rest)

/-- Reads a pattern. -/
def read (text : ByteText) : Except RegexError Pattern := do
  let pieces ← respell (text.length + 1) true text
  Pattern.read { isExtended := true, isLoose := true } pieces.flatten

end PatternText

end SchemaDocs.Shell.Record

/-!
## Programs over records

A program over records consists of rules: a pattern that selects records, and an action
that is run for each of them.  Records are cut into fields, and actions work on numbers,
texts and tables under keys.
-/

namespace SchemaDocs.Shell.Record

/-- Arithmetic on two numbers. -/
inductive Arithmetic where
  | add | subtract | multiply | divide | remainder | power
deriving DecidableEq

/-- A comparison of two values. -/
inductive Comparison where
  | less | lessEqual | equal | notEqual | greater | greaterEqual
deriving DecidableEq

/-- A function that every program has. -/
inductive BuiltIn where
  | length | index | substr | sprintf | split | search | substitute | substituteAll
  | upper | lower | sine | cosine | arctangent | exponential | logarithm | root | whole
  | random | seed | system | close | flush | now
deriving DecidableEq

/-- An expression. -/
inductive Expr where
  | number (n : Float)
  | text (text : ByteText)
  /-- Whether the record has a match. -/
  | pattern (pattern : Pattern)
  | name (name : ByteText)
  | element (table : ByteText) (keys : List Expr)
  | field (place : Expr)
  | assign (place value : Expr)
  | update (operation : Arithmetic) (place value : Expr)
  /-- A place that one is added to or taken from.  The value is the one before or after. -/
  | count (operation : Arithmetic) (isBefore : Bool) (place : Expr)
  | sign (isNegative : Bool) (inner : Expr)
  | not (inner : Expr)
  | arithmetic (operation : Arithmetic) (first second : Expr)
  | join (first second : Expr)
  | compare (comparison : Comparison) (first second : Expr)
  | search (isNegated : Bool) (subject pattern : Expr)
  | member (keys : List Expr) (table : ByteText)
  | and (first second : Expr)
  | or (first second : Expr)
  | choose (condition first second : Expr)
  | call (function : ByteText) (arguments : List Expr)
  | apply (function : BuiltIn) (arguments : List Expr)
  /-- The next record, put into a place. -/
  | nextRecord (place : Option Expr)
  | nextOfFile (place : Option Expr) (file : Expr)
  | nextOfCommand (place : Option Expr) (command : Expr)
  /-- Several values between parentheses, which only some places allow. -/
  | several (values : List Expr)
deriving Inhabited

/-- Where output goes. -/
inductive Target where
  | file | fileEnd | command
deriving DecidableEq

/-- A statement. -/
inductive Statement where
  | evaluate (value : Expr)
  | print (isFormatted : Bool) (values : List Expr) (target : Option (Target × Expr))
  | block (body : List Statement)
  | choose (condition : Expr) (first second : Statement)
  /-- Runs the body as long as the condition holds, with a step after each time. -/
  | loop (checksFirst : Bool) (condition : Expr) (step body : Statement)
  | forEach (name table : ByteText) (body : Statement)
  | leaveLoop
  | continueLoop
  | next
  | nextFile
  | exit (status : Option Expr)
  | giveBack (value : Option Expr)
  | delete (table : ByteText) (keys : Option (List Expr))
deriving Inhabited

/-- What selects the records of a rule. -/
inductive Selector where
  | atBegin
  | atEnd
  | always
  | satisfying (condition : Expr)
  | range (start stop : Expr)

/-- A rule.  Without an action it shows the record. -/
structure Rule where
  selector : Selector
  action : Option Statement

/-- A function of a program. -/
structure Function where
  name : ByteText
  parameters : List ByteText
  body : Statement

/-- A program. -/
structure Source where
  rules : List Rule
  functions : List Function

end SchemaDocs.Shell.Record

/-!
### Words of programs over records

A program as a row of words with the lines that they stand in.  A slash begins a pattern
where no operand ends before it.
-/

namespace SchemaDocs.Shell.Record

/-- A word of a program. -/
inductive Token where
  | numeral (source : ByteText) (n : Float)
  | quotation (text : ByteText)
  | pattern (source : ByteText)
  | identifier (name : ByteText)
  /-- A name right before an opening parenthesis. -/
  | call (name : ByteText)
  | builtIn (name : ByteText) (function : BuiltIn)
  | keyword (word : String)
  | symbol (mark : String)
  | newline
  | ended
  /-- Something that is no word, and what is said of it. -/
  | fault (text : ByteText)
deriving Inhabited

/-- A word and its line. -/
structure Placed where
  token : Token
  line : Nat
deriving Inhabited

namespace Token

/-- Words with a meaning of their own. -/
def words : List String :=
  ["BEGIN", "END", "function", "if", "else", "while", "for", "do", "break", "continue", "next",
   "nextfile", "exit", "return", "delete", "getline", "print", "printf", "in"]

/-- The functions that every program has. -/
def functions : List (String × BuiltIn) :=
  [("length", .length), ("index", .index), ("substr", .substr), ("sprintf", .sprintf),
   ("split", .split), ("match", .search), ("sub", .substitute), ("gsub", .substituteAll),
   ("toupper", .upper), ("tolower", .lower), ("sin", .sine), ("cos", .cosine),
   ("atan2", .arctangent), ("exp", .exponential), ("log", .logarithm), ("sqrt", .root),
   ("int", .whole), ("rand", .random), ("srand", .seed), ("system", .system),
   ("close", .close), ("fflush", .flush), ("systime", .now)]

/-- Marks, longer ones before shorter ones. -/
def marks : List String :=
  ["&&", "||", "++", "--", "+=", "-=", "*=", "/=", "%=", "^=", "==", "!=", "<=", ">=", ">>", "!~",
   "+", "-", "*", "/", "%", "^", "=", "!", "<", ">", "~", "|", "?", ":", "$", "(", ")", "[", "]",
   "\x7b", "\x7d", ",", ";"]

/-- A word as it stands in messages. -/
def shown : Token → ByteText
  | .numeral source _ => source
  | .quotation chars => ['"'] ++ chars ++ ['"']
  | .pattern source => ['/'] ++ source ++ ['/']
  | .identifier name => name
  | .call name => name
  | .builtIn name _ => name
  | .keyword word => ascii word
  | .symbol mark => ascii mark
  | .newline => ascii "end of line"
  | .ended => ascii "end of file"
  | .fault text => text

/-- Whether an operand ends with a word, so that a slash behind it divides. -/
def endsOperand : Token → Bool
  | .numeral .. => true
  | .quotation _ => true
  | .pattern _ => true
  | .identifier _ => true
  | .builtIn _ .length => true
  | .keyword word => word = "getline"
  | .symbol mark => mark = ")" || mark = "]" || mark = "++" || mark = "--"
  | _ => false

/-- Whether a character may stand in a name. -/
def isNameChar (c : Char) : Bool := c.isAlphanum || c = '_'

/-- The characters that a backslash and the text behind it stand for, and what follows them. -/
def behindBackslash (d : Char) (after : ByteText) : ByteText × ByteText :=
  if d = '"' then ([d], after)
  else if d = 'x' && after.head?.any (ByteText.isDigitIn 16) then
    let (digits, after) := Escape.digits 16 2 after
    ([Escape.byte (ByteText.valueIn 16 digits)], after)
  else if ByteText.isDigitIn 8 d then
    let (digits, after) := Escape.digits 8 3 (d :: after)
    ([Escape.byte (ByteText.valueIn 8 digits)], after)
  else
    match if d = 'e' then none else Escape.letter? d with
    | some named => ([named], after)
    | none => (['\\', d], after)

/-- The characters that a text between quotes stands for, behind those of it that were read, and
what follows it.  Each step takes a character. -/
def quoted : Nat → ByteText → ByteText → Option (ByteText × ByteText)
  | 0, _, _ => none
  | _ + 1, _, [] => none
  | fuel + 1, taken, c :: rest =>
    match c, rest with
    | '"', _ => some (taken.reverse, rest)
    | '\n', _ => none
    | '\\', '\n' :: rest => quoted fuel taken rest
    | '\\', d :: after =>
      let (chars, after) := behindBackslash d after
      quoted fuel (chars.reverse ++ taken) after
    | _, _ => quoted fuel (c :: taken) rest

/-- The characters that a text with backslashes stands for, behind those of it that were read.  Each
step takes a character. -/
def unescapedFrom : Nat → ByteText → ByteText → ByteText
  | 0, taken, _ => taken.reverse
  | _ + 1, taken, [] => taken.reverse
  | fuel + 1, taken, c :: rest =>
    match c, rest with
    | '\\', d :: after =>
      let (chars, after) := behindBackslash d after
      unescapedFrom fuel (chars.reverse ++ taken) after
    | _, _ => unescapedFrom fuel (c :: taken) rest

/-- The characters that a text with backslashes stands for. -/
def unescaped (text : ByteText) : ByteText := unescapedFrom (text.length + 1) [] text

/-- The source of a pattern up to its slash, and what follows it.  Each step takes a character. -/
def patternSource : Nat → Bool → ByteText → ByteText → Option (ByteText × ByteText)
  | 0, _, _, _ => none
  | _ + 1, _, _, [] => none
  | fuel + 1, isInBracket, taken, c :: rest =>
    match c, rest with
    | '\n', _ => none
    | '/', _ =>
      if isInBracket then patternSource fuel true ('/' :: taken) rest
      else some (taken.reverse, rest)
    | '\\', d :: rest =>
      patternSource fuel isInBracket (if d = '/' then '/' :: taken else d :: '\\' :: taken) rest
    | '[', _ =>
      if isInBracket then
        match rest with
        | ':' :: more =>
          match RegexReader.untilMark ':' more with
          | some (name, after) =>
            patternSource fuel true (']' :: ':' :: name.reverse ++ (':' :: '[' :: taken)) after
          | none => patternSource fuel true ('[' :: taken) rest
        | _ => patternSource fuel true ('[' :: taken) rest
      else
        match rest with
        | '^' :: ']' :: rest => patternSource fuel true (']' :: '^' :: '[' :: taken) rest
        | ']' :: rest => patternSource fuel true (']' :: '[' :: taken) rest
        | _ => patternSource fuel true ('[' :: taken) rest
    | ']', _ => patternSource fuel false (']' :: taken) rest
    | _, _ => patternSource fuel isInBracket (c :: taken) rest

/-- The decimal number at the start of a text. -/
def decimal (text : ByteText) : ByteText :=
  let whole := text.takeWhile Char.isDigit
  let rest := text.drop whole.length
  let fraction : ByteText :=
    match rest with
    | '.' :: more => '.' :: more.takeWhile Char.isDigit
    | _ => []
  let rest := rest.drop fraction.length
  let exponent : ByteText :=
    match rest with
    | e :: more =>
      if e = 'e' || e = 'E' then
        let sign := (more.take 1).filter fun c => c = '+' || c = '-'
        let digits := (more.drop sign.length).takeWhile Char.isDigit
        if digits.isEmpty then [] else e :: sign ++ digits
      else []
    | [] => []
  whole ++ fraction ++ exponent

/-- The first characters of a line, as they stand in messages. -/
def excerpt (text : ByteText) : ByteText :=
  (text.takeWhile (· != '\n')).take 10 ++ ascii " ..."

/-- What is said of something in a line that is no word. -/
def unreadable (line : Nat) (head : String) (text : ByteText) : Placed :=
  ⟨.fault (ascii head ++ ByteText.ofNat line ++ ascii ": " ++ text), line⟩

/-- The word of a name. -/
def ofName (name : ByteText) (isCalled : Bool) : Token :=
  let text := String.ofList name
  if words.contains text then .keyword text
  else
    match functions.find? fun entry => entry.1 = text with
    | some (_, function) => .builtIn name function
    | none => if isCalled then .call name else .identifier name

/-- Reads the words of a program, behind the last one.  Each step takes a word or a blank. -/
def readFrom : Nat → Nat → Token → ByteText → List Placed
  | 0, line, _, _ => [⟨.ended, line⟩]
  | _ + 1, line, _, [] => [⟨.newline, line⟩, ⟨.ended, line + 1⟩]
  | fuel + 1, line, last, c :: rest =>
    let put (token : Token) (line : Nat) (rest : ByteText) : List Placed :=
      ⟨token, line⟩ :: readFrom fuel line token rest
    if c = '\n' then ⟨.newline, line⟩ :: readFrom fuel (line + 1) .newline rest
    else if c = ' ' || c = '\t' || c = '\r' then readFrom fuel line last rest
    else if c = '\\' && rest.head? = some '\n' then readFrom fuel (line + 1) last (rest.drop 1)
    else if c = '#' then readFrom fuel line last (rest.dropWhile (· != '\n'))
    else if c = '"' then
      match quoted (rest.length + 1) [] rest with
      | some (text, after) =>
        let lines := (rest.take (rest.length - after.length)).filter (· = '\n')
        put (.quotation text) (line + lines.length) after
      | none => [unreadable line "line " (ascii "runaway string constant \"" ++ excerpt rest)]
    else if c.isDigit || (c = '.' && rest.head?.any Char.isDigit) then
      let source := decimal (c :: rest)
      put (.numeral source (Number.ofText source)) line ((c :: rest).drop source.length)
    else if c.isAlpha || c = '_' then
      let name := (c :: rest).takeWhile isNameChar
      let after := (c :: rest).drop name.length
      put (ofName name (after.head? = some '(')) line after
    else if c = '/' && !endsOperand last then
      match patternSource (rest.length + 1) false [] rest with
      | some (source, after) => put (.pattern source) line after
      | none => [unreadable line "line " (ascii "runaway regular expression /" ++ excerpt rest)]
    else
      match marks.find? fun mark => (ascii mark).isPrefixOf (c :: rest) with
      | some mark => put (.symbol mark) line ((c :: rest).drop mark.length)
      | none => [unreadable line "" (ascii "unexpected character '" ++ [c] ++ ascii "'")]

/-- Reads the words of a program. -/
def readAll (text : ByteText) : List Placed := readFrom (text.length + 1) 1 .newline text

end Token

end SchemaDocs.Shell.Record
