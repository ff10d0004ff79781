import SchemaDocs.Shell.Script.Basic
/-!
# Tokens of scripts

What a script is cut into: words, operators and the ends of lines.  Some words are
reserved where a command may begin.
-/

namespace SchemaDocs.Shell

/-- A word that is reserved where a command may begin. -/
inductive Keyword where
  | not | caseOf | doLoop | done | elseIf | otherwise | esac | fi | forEach | ifThat | inside | then
  | untilThat | whileThat | openBrace | closeBrace | function | openTest | time
deriving DecidableEq

/-- How a reserved word is written. -/
def Keyword.text : Keyword → String
  | .not => "!"
  | .caseOf => "case"
  | .doLoop => "do"
  | .done => "done"
  | .elseIf => "elif"
  | .otherwise => "else"
  | .esac => "esac"
  | .fi => "fi"
  | .forEach => "for"
  | .ifThat => "if"
  | .inside => "in"
  | .then => "then"
  | .untilThat => "until"
  | .whileThat => "while"
  | .openBrace => "\x7b"
  | .closeBrace => "\x7d"
  | .function => "function"
  | .openTest => "[["
  | .time => "time"

/-- The reserved words of every shell. -/
def Keyword.common : List Keyword :=
  [.not, .caseOf, .doLoop, .done, .elseIf, .otherwise, .esac, .fi, .forEach, .ifThat, .inside,
    .then, .untilThat, .whileThat, .openBrace, .closeBrace]

/-- The reserved words of a shell. -/
def Keyword.all : Dialect → List Keyword
  | .sh => common
  | .bash => [.function, .openTest, .time] ++ common

/-- The reserved word of a text. -/
def Keyword.ofText? (dialect : Dialect) (text : ByteText) : Option Keyword :=
  (Keyword.all dialect).find? fun (word : Keyword) => ascii word.text = text

/-- How a redirection is written. -/
inductive RedirectMark where
  | input | output | overwrite | append | both | copyInput | copyOutput
  /-- The output and the messages. -/
  | everything (appends : Bool)
  /-- The text of a word. -/
  | text
  /-- Text that follows, with or without tabs before its lines. -/
  | document (stripsTabs : Bool)
deriving DecidableEq

/-- A token. -/
inductive Token where
  | endOfFile
  | endOfLine
  | semicolon
  | background
  | andIf
  | orIf
  | pipe
  /-- A pipe for the messages as well. -/
  | pipeAll
  | openParenthesis
  | closeParenthesis
  | doubleSemicolon
  /-- The end of a list in a selection after which the selection goes on. -/
  | choiceEnd (ending : ChoiceEnd)
  | redirect (descriptor : Nat) (mark : RedirectMark)
  | keyword (word : Keyword)
  /-- A word, and whether any of it is quoted. -/
  | word (word : Word) (isQuoted : Bool)

namespace Token

/-- How a token is called in messages. -/
def describe : Token → String
  | .endOfFile => "end of file"
  | .endOfLine => "newline"
  | .semicolon => "\";\""
  | .background => "\"&\""
  | .andIf => "\"&&\""
  | .orIf => "\"||\""
  | .pipe => "\"|\""
  | .pipeAll => "\"|&\""
  | .openParenthesis => "\"(\""
  | .closeParenthesis => "\")\""
  | .doubleSemicolon => "\";;\""
  | .choiceEnd _ => "\";&\""
  | .redirect .. => "redirection"
  | .keyword reserved => "\"" ++ reserved.text ++ "\""
  | .word .. => "word"

/-- Whether a token ends a list of commands. -/
def endsList : Token → Bool
  | .endOfFile => true
  | .closeParenthesis => true
  | .doubleSemicolon => true
  | .choiceEnd _ => true
  | .keyword reserved =>
    [Keyword.doLoop, .done, .elseIf, .otherwise, .esac, .fi, .then, .closeBrace].contains reserved
  | _ => false

/-- Whether a token is a reserved word. -/
def isKeyword (reserved : Keyword) : Token → Bool
  | .keyword other => reserved = other
  | _ => false

/-- Whether a token ends a line. -/
def isEndOfLine : Token → Bool
  | .endOfLine => true
  | _ => false

end Token

/-- What is wrong with a script, in one message or several, and the line on which it was found. -/
structure ScriptError where
  line : Nat
  texts : List ByteText
  /-- The status of a shell that ends because of it. -/
  status : Nat := 2
deriving DecidableEq

/-- Text that is still to follow: its number, the line that ends it, and how it is read. -/
structure PendingDocument where
  number : Nat
  delimiter : ByteText
  stripsTabs : Bool
  expands : Bool
  line : Nat

/-- A place in a script: what follows it, the line it is on, and what follows the start of that
line. -/
structure ScriptPlace where
  rest : ByteText
  line : Nat
  lineStart : ByteText

/-- How far a script was read. -/
structure Reader where
  dialect : Dialect
  rest : ByteText
  line : Nat
  /-- What follows the start of the line. -/
  lineStart : ByteText := rest
  /-- Where the last token begins. -/
  lastToken : ScriptPlace := ⟨rest, line, rest⟩
  /-- A token that was read and given back. -/
  given : Option Token := none
  pending : List PendingDocument := []
  documents : Documents := []
  nextDocument : Nat := 0
  /-- Texts that stand for the first words of commands. -/
  aliases : List (ByteText × ByteText) := []
  /-- Whether patterns may be grouped with parentheses. -/
  groupsPatterns : Bool := false
  /-- Whether the next word may be an assignment to a place in an array or of several elements. -/
  mayAssign : Bool := false
  /-- Messages about what is not as it should be. -/
  warnings : List (Nat × ByteText) := []

/-- A step of reading a script. -/
abbrev Parser := StateT Reader (Except ScriptError)

namespace Parser

/-- Whether the script is one for a shell with more features. -/
def isBash : Parser Bool := do return (← get).dialect = .bash

/-- Fails with a message about the line that was reached. -/
def fail {α : Type} (text : String) : Parser α := do
  throw { line := (← get).line, texts := [ascii "Syntax error: " ++ ascii text] }

/-- Fails because what a mark ends has no end, with a status. -/
def failOpenWith {α : Type} (status line : Nat) (mark : Char) (text : String) : Parser α := do
  if ← isBash then
    throw
      { line := line, status := status
        texts := [ascii "unexpected EOF while looking for matching `" ++ [mark, '\'']] }
  else fail text

/-- Fails because what a mark ends has no end. -/
def failOpen {α : Type} (line : Nat) (mark : Char) (text : String) : Parser α :=
  failOpenWith 2 line mark text

/-- The last token as it is written. -/
def lastText : Parser ByteText := do
  let reader ← get
  let start := reader.lastToken.rest
  return start.take (start.length - reader.rest.length)

/-- Fails because of the last token, with the line on which it stands. -/
def failNear {α : Type} (token : ByteText) (texts : List ByteText) : Parser α := do
  let place := (← get).lastToken
  let line := place.lineStart.takeWhile (· != '
')
  throw { line := place.line, texts := texts ++ [token, ascii "`" ++ line ++ ['\'']] }

/-- Fails because a token was not expected, where perhaps another one was. -/
def unexpected {α : Type} (token : Token) (wanted : Option Token) : Parser α := do
  if ← isBash then
    let near (text : ByteText) : Parser α :=
      failNear (ascii "syntax error near unexpected token `" ++ text ++ ['\'']) []
    match token with
    | .endOfFile =>
      throw { line := (← get).line, texts := [ascii "syntax error: unexpected end of file"] }
    | .endOfLine => near (ascii "newline")
    | _ => near (← lastText)
  else
    fail (token.describe ++ " unexpected"
      ++ match wanted with
        | some wanted => " (expecting " ++ wanted.describe ++ ")"
        | none => "")

/-- Runs a step that may fail.  If it does nothing has happened. -/
def attempt {α : Type} (step : Parser α) : Parser (Option α) := fun reader =>
  match step.run reader with
  | .ok (value, reader) => .ok (some value, reader)
  | .error _ => .ok (none, reader)

/-- The next character, which is not taken. -/
def peek : Parser (Option Char) := do return (← get).rest.head?

/-- A text without the backslashes that join its first lines, and how many there were. -/
def joinLines : ByteText → ByteText × Nat
  | '\\' :: '\n' :: rest =>
    let (text, count) := joinLines rest
    (text, count + 1)
  | text => (text, 0)

/-- Joins the line to the next one where a backslash stands before its end. -/
def join : Parser Unit :=
  modify fun reader =>
    match joinLines reader.rest with
    | (_, 0) => reader
    | (rest, count) => { reader with rest := rest, line := reader.line + count, lineStart := rest }

/-- The next character after joined lines, which is not taken. -/
def peekJoined : Parser (Option Char) := do
  join
  peek

/-- Takes a character. -/
def skip : Parser Unit :=
  modify fun reader =>
    match reader.rest with
    | [] => reader
    | c :: rest =>
      if c = '\n' then { reader with rest := rest, line := reader.line + 1, lineStart := rest }
      else { reader with rest := rest }

/-- Takes the characters that have a property, with lines joined.  Each step takes one. -/
def takeWhileFrom (p : Char → Bool) : Nat → Parser ByteText
  | 0 => return []
  | fuel + 1 => do
    match ← peekJoined with
    | none => return []
    | some c =>
      if p c then
        skip
        return c :: (← takeWhileFrom p fuel)
      else return []

/-- Takes the characters that have a property, with lines joined. -/
def takeWhile (p : Char → Bool) : Parser ByteText := do
  takeWhileFrom p ((← get).rest.length + 1)

/-- What follows the last line feed of a text, if it has one, and what comes behind the text. -/
def lastLine (text rest start : ByteText) : ByteText :=
  if text.contains '\n' then (text.reverse.takeWhile (· != '\n')).reverse ++ rest else start

/-- Takes characters up to one that is taken as well, or fails. -/
def takeUntil (mark : Char) (fault : String) : Parser ByteText := do
  let reader ← get
  let text := reader.rest.takeWhile (· != mark)
  let lines := (text.filter (· = '\n')).length
  match reader.rest.drop text.length with
  | _ :: rest =>
    set { reader with
      rest := rest, line := reader.line + lines
      lineStart := lastLine text (mark :: rest) reader.lineStart }
    return text
  | [] =>
    set { reader with rest := [], line := reader.line + lines }
    failOpen reader.line mark fault

/-- The amount of steps that are enough to read the rest, where a token may have been given back. -/
def enough : Parser Nat := do return (← get).rest.length + 4

/-- Gives a token back. -/
def giveBack (token : Token) : Parser Unit :=
  modify fun reader => { reader with given := some token }

end Parser

end SchemaDocs.Shell
