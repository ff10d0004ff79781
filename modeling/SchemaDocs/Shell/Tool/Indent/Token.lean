import SchemaDocs.Shell.ByteText
import SchemaDocs.Shell.NumberText
import SchemaDocs.Shell.Tool.Record.Datum
import SchemaDocs.Text.Letter
/-!
# Programs of indented blocks

What a program consists of whose blocks are told by their indentation: statements one below
the other, and expressions within them.  Each stands with its place in the text.
-/

namespace SchemaDocs.Shell.Indent

/-- A place in a program: lines are counted from one, columns from zero. -/
structure Span where
  line : Nat
  column : Nat
  endLine : Nat
  endColumn : Nat
deriving DecidableEq, Inhabited

/-- The place from the start of one place to the end of another one. -/
def Span.upTo (first last : Span) : Span :=
  { first with endLine := last.endLine, endColumn := last.endColumn }

/-- A value that is written out. -/
inductive Literal where
  | nothing
  | ellipsis
  | bool (b : Bool)
  | int (n : Int)
  | float (n : Float)
  | text (text : List Char)
  | bytes (bytes : ByteText)
deriving Inhabited

/-- An operation on two values. -/
inductive Operator where
  | add | subtract | multiply | divide | floorDivide | remainder | power
  | shiftLeft | shiftRight | and | or | xor | matrix
deriving DecidableEq

/-- The sign of an operation. -/
def Operator.sign : Operator → String
  | .add => "+"
  | .subtract => "-"
  | .multiply => "*"
  | .divide => "/"
  | .floorDivide => "//"
  | .remainder => "%"
  | .power => "** or pow()"
  | .shiftLeft => "<<"
  | .shiftRight => ">>"
  | .and => "&"
  | .or => "|"
  | .xor => "^"
  | .matrix => "@"

/-- An operation on one value. -/
inductive Prefixed where
  | minus | plus | invert | not
deriving DecidableEq

/-- A comparison of two values. -/
inductive Comparison where
  | equal | notEqual | less | lessEqual | greater | greaterEqual | same | notSame | isIn | notIn
deriving DecidableEq

/-- What a comprehension builds. -/
inductive Collection where
  | list | set | dict | generator
deriving DecidableEq

/-- How a parameter takes arguments. -/
inductive ParameterKind where
  | plain | rest | named | namedRest
deriving DecidableEq, Inhabited

mutual

/-- An expression. -/
inductive Expr where
  | literal (value : Literal)
  | name (name : String)
  | list (items : List Expr)
  | tuple (items : List Expr)
  | set (items : List Expr)
  /-- Pairs of a key and a value.  Without a key the value is a table that is put in. -/
  | dict (entries : List (Option Expr × Expr))
  | starred (inner : Expr)
  | member (object : Expr) (name : String)
  | subscript (object index : Expr)
  | slice (start stop step : Option Expr)
  | call (function : Expr) (arguments : List Argument)
  | unary (operator : Prefixed) (inner : Expr)
  | binary (operator : Operator) (first second : Expr)
  | compare (first : Expr) (rest : List (Comparison × Expr))
  | and (first second : Expr)
  | or (first second : Expr)
  | choose (condition first second : Expr)
  | function (parameters : List Parameter) (body : Expr)
  | comprehension (kind : Collection) (element : Expr) (value : Option Expr) (clauses : List Clause)
  | format (pieces : List Piece)
  | bind (name : String) (value : Expr)
  | give (value : Option Expr) (isAll : Bool)
  | placed (span : Span) (inner : Expr)

/-- An argument of a call. -/
inductive Argument where
  | plain (value : Expr)
  | all (values : Expr)
  | named (name : String) (value : Expr)
  | allNamed (values : Expr)

/-- A parameter of a function. -/
inductive Parameter where
  | mk (name : String) (kind : ParameterKind) (default : Option Expr)

/-- A part of a comprehension. -/
inductive Clause where
  | each (target values : Expr)
  | only (condition : Expr)

/-- A piece of a text with values in it. -/
inductive Piece where
  | text (text : List Char)
  | value (value : Expr) (conversion : Option Char) (format : List Piece)

end

instance : Inhabited Expr := ⟨.literal .nothing⟩

/-- The name of a parameter. -/
def Parameter.name : Parameter → String
  | .mk name _ _ => name

/-- How a parameter takes arguments. -/
def Parameter.kind : Parameter → ParameterKind
  | .mk _ kind _ => kind

/-- What a parameter is if no argument is given. -/
def Parameter.default : Parameter → Option Expr
  | .mk _ _ default => default

/-- A pattern that a value is matched against. -/
inductive Shape where
  | any (name : Option String)
  | value (value : Expr)
  | sequence (items : List Shape)
  | rest (name : Option String)
  | mapping (entries : List (Expr × Shape)) (rest : Option String)
  | object (type : Expr) (items : List Shape) (named : List (String × Shape))
  | either (options : List Shape)
  | named (shape : Shape) (name : String)
deriving Inhabited

mutual

/-- A statement. -/
inductive Statement where
  | evaluate (value : Expr)
  | assign (targets : List Expr) (value : Expr)
  | update (operator : Operator) (target value : Expr)
  /-- A name with a type, perhaps with a value. -/
  | declare (name : String) (value : Option Expr)
  | choose (condition : Expr) (first second : List Statement)
  | loop (condition : Expr) (body otherwise : List Statement)
  | each (target values : Expr) (body otherwise : List Statement)
  | attempt (body : List Statement) (handlers : List Handler) (otherwise final : List Statement)
  | within (items : List (Expr × Option Expr)) (body : List Statement)
  | function (name : String) (parameters : List Parameter) (body : List Statement)
      (decorators : List Expr)
  | type (name : String) (bases : List Argument) (body : List Statement) (decorators : List Expr)
  | select (subject : Expr) (cases : List Case)
  | giveBack (value : Option Expr)
  | leaveLoop
  | continueLoop
  | nothing
  | raise (exception cause : Option Expr)
  | assert (condition : Expr) (message : Option Expr)
  | delete (targets : List Expr)
  | shared (isOuter : Bool) (names : List String)
  | load (paths : List (List String × Option String))
  | loadFrom (path : List String) (names : List (String × Option String))
  | loadAll (path : List String)
  | placed (span : Span) (inner : Statement)

/-- What is done about exceptions of some types. -/
inductive Handler where
  | mk (type : Option Expr) (name : Option String) (body : List Statement)

/-- A case of a selection. -/
inductive Case where
  | mk (shape : Shape) (condition : Option Expr) (body : List Statement)

end

instance : Inhabited Statement := ⟨.nothing⟩

end SchemaDocs.Shell.Indent

/-!
## Words of programs of indented blocks

A program is cut into words, signs, numbers and texts.  The ends of lines and the changes of
indentation are tokens too, but not between brackets.
-/

namespace SchemaDocs.Shell.Indent

/-- What a token is. -/
inductive TokenKind where
  | name (name : String)
  | number (value : Literal)
  | text (text : List Char)
  | bytes (bytes : ByteText)
  /-- A text with values in it, as it is written. -/
  | formatted (isRaw : Bool) (body : List Char)
  | sign (sign : String)
  | lineEnd | indent | dedent | ended
deriving Inhabited

/-- A token and its place. -/
structure Token where
  kind : TokenKind
  span : Span
deriving Inhabited

/-- What is wrong with the text of a program. -/
structure SyntaxFault where
  kind : String := "SyntaxError"
  message : List Char
  span : Span

/-- What is known while a program is cut into tokens. -/
structure Scan where
  rest : List Char
  line : Nat := 1
  column : Nat := 0
  /-- The indentations of the blocks around, the innermost one first. -/
  indents : List Nat := [0]
  /-- The open brackets with their places, the innermost one first. -/
  brackets : List (Char × Span) := []
  /-- The tokens so far, the last one first. -/
  tokens : List Token := []
  /-- What is strange but not wrong, with its line. -/
  warnings : List (Nat × List Char) := []

/-- A step of cutting a program into tokens. -/
abbrev Scanning := StateT Scan (Except SyntaxFault)

namespace Scanning

/-- The place of the next character. -/
def here : Scanning Span := do
  let scan ← get
  return ⟨scan.line, scan.column, scan.line, scan.column⟩

/-- Fails at a place. -/
def failAt {α : Type} (span : Span) (message : List Char) : Scanning α :=
  throw { message := message, span := span }

/-- The place of one character. -/
def oneAt (span : Span) : Span := { span with endLine := span.line, endColumn := span.column + 1 }

/-- Goes on after a character. -/
def pass (scan : Scan) : Scan :=
  match scan.rest with
  | [] => scan
  | '\n' :: rest => { scan with rest := rest, line := scan.line + 1, column := 0 }
  | _ :: rest => { scan with rest := rest, column := scan.column + 1 }

/-- Goes on after some characters. -/
def skip : Nat → Scanning Unit
  | 0 => return ()
  | count + 1 => do
    modify pass
    skip count

/-- Adds a token that began at some place. -/
def emit (start : Span) (kind : TokenKind) : Scanning Unit := do
  let stop ← here
  modify fun scan => { scan with tokens := ⟨kind, start.upTo stop⟩ :: scan.tokens }

/-- The signs, the longer ones first. -/
def signs : List String :=
  ["**=", "//=", ">>=", "<<=", "...", "!=", "==", "<=", ">=", "->", ":=", "+=", "-=", "*=", "/=",
   "%=", "&=", "|=", "^=", "@=", "**", "//", "<<", ">>", "+", "-", "*", "/", "%", "@", "&", "|",
   "^", "~", "<", ">", "(", ")", "[", "]", "\x7b", "\x7d", ",", ":", ".", ";", "="]

/-- Whether a character may begin a name. -/
def beginsName (c : Char) : Bool := c = '_' || Text.isLetter c

/-- Whether a character may stand in a name. -/
def isInName (c : Char) : Bool := Text.isWordLetter c

/-! ### Texts -/

/-- The bracket that closes another one. -/
def closing (c : Char) : Char :=
  match c with
  | '(' => ')'
  | '[' => ']'
  | _ => '\x7d'

/-- The length of a text in quotes up to its end, where values may stand between braces.  Each step
takes a character. -/
def quotedLength (quote : List Char) (hasValues : Bool) : Nat → Nat → Nat → List Char → Option Nat
  | 0, _, _, _ => none
  | _ + 1, _, _, [] => none
  | fuel + 1, depth, length, c :: rest =>
    if c = '\\' then
      if rest.isEmpty then none
      else quotedLength quote hasValues fuel depth (length + 2) (rest.drop 1)
    else if quote.isPrefixOf (c :: rest) && depth = 0 then some length
    else if quote.length = 1 && c = '\n' then none
    else if hasValues && c = '\x7b' then
      if rest.head? = some '\x7b' && depth = 0 then
        quotedLength quote hasValues fuel depth (length + 2) (rest.drop 1)
      else quotedLength quote hasValues fuel (depth + 1) (length + 1) rest
    else if hasValues && c = '\x7d' then
      quotedLength quote hasValues fuel (depth - 1) (length + 1) rest
    else if 0 < depth && (c = '\'' || c = '"') then
      let inner := rest.takeWhile fun d => d != c && d != '\n'
      quotedLength quote hasValues fuel depth (length + inner.length + 2)
        (rest.drop (inner.length + 1))
    else quotedLength quote hasValues fuel depth (length + 1) rest

/-- Digits of a base at the start of a text, so many of them at most. -/
def digitsOf (base count : Nat) (text : List Char) : List Char × List Char :=
  let digits := (text.take count).takeWhile (ByteText.isDigitIn base)
  (digits, text.drop digits.length)

/-- A text with what stands behind backslashes replaced, and what was not known there.  Each step takes
a character. -/
def unescaped (isBytes : Bool) : Nat → List Char → List Char → List Char → List Char × List Char
  | 0, taken, _, unknown => (taken.reverse, unknown.reverse)
  | _ + 1, taken, [], unknown => (taken.reverse, unknown.reverse)
  | fuel + 1, taken, '\\' :: c :: rest, unknown =>
    let simple? : Option Char :=
      match c with
      | '\\' => some '\\'
      | '\'' => some '\''
      | '"' => some '"'
      | 'a' => some '\x07'
      | 'b' => some '\x08'
      | 'f' => some '\x0c'
      | 'n' => some '\n'
      | 'r' => some '\x0d'
      | 't' => some '\t'
      | 'v' => some '\x0b'
      | _ => none
    match simple? with
    | some d => unescaped isBytes fuel (d :: taken) rest unknown
    | none =>
      let coded (base count : Nat) (text : List Char) : List Char × List Char × List Char :=
        let (digits, rest) := digitsOf base count text
        (Char.ofNat (ByteText.valueIn base digits) :: taken, rest, unknown)
      if c = '\n' then unescaped isBytes fuel taken rest unknown
      else
        let (taken, rest, unknown) :=
          if c = 'x' then coded 16 2 rest
          else if c = 'u' && !isBytes then coded 16 4 rest
          else if c = 'U' && !isBytes then coded 16 8 rest
          else if ByteText.isDigitIn 8 c then coded 8 3 (c :: rest)
          else (c :: '\\' :: taken, rest, c :: unknown)
        unescaped isBytes fuel taken rest unknown
  | fuel + 1, taken, c :: rest, unknown => unescaped isBytes fuel (c :: taken) rest unknown

/-- Takes a text in quotes behind some letters. -/
def quotedText (start : Span) (letters : List Char) : Scanning Unit := do
  let rest := (← get).rest
  let c := rest.head?.getD '"'
  let quote := if [c, c, c].isPrefixOf rest then [c, c, c] else [c]
  let body := rest.drop quote.length
  let has (c : Char) : Bool := letters.any fun d => d.toLower = c
  let hasValues := has 'f'
  match quotedLength quote hasValues (body.length + 1) 0 0 body with
  | none =>
    let lines := body.takeWhile (· != '\n')
    let allLines := (rest.filter (· = '\n')).length
    let form := if hasValues then "f-string" else "string"
    if quote.length = 3 then
      let last := start.line + allLines - (if rest.getLast? = some '\n' then 1 else 0)
      failAt (oneAt start) (ascii ("unterminated triple-quoted " ++ form
        ++ " literal (detected at line ") ++ ByteText.ofNat last ++ [')'])
    else
      let _ := lines
      failAt (oneAt start) (ascii ("unterminated " ++ form ++ " literal (detected at line ")
        ++ ByteText.ofNat start.line ++ [')'])
  | some length =>
    let text := body.take length
    skip (length + 2 * quote.length)
    let isRaw := has 'r'
    if hasValues then emit start (.formatted isRaw text)
    else
      let isBytes := has 'b'
      let (plain, unknown) :=
        if isRaw then (text, []) else unescaped isBytes (text.length + 1) [] text []
      let line := start.line
      modify fun scan =>
        { scan with warnings := scan.warnings ++ unknown.map fun c =>
            (line, ascii "invalid escape sequence '\\" ++ [c, '\'']) }
      if isBytes then emit start (.bytes plain) else emit start (.text plain)

/-! ### Numbers -/

/-- Takes a number. -/
def number (start : Span) : Scanning Unit := do
  let rest := (← get).rest
  let isPart (base : Nat) (c : Char) : Bool := ByteText.isDigitIn base c || c = '_'
  let valueOf (base : Nat) (digits : List Char) : Int :=
    (ByteText.valueIn base (digits.filter (· != '_')) : Nat)
  let based? : Option Nat :=
    match rest with
    | '0' :: c :: _ =>
      match c.toLower with
      | 'x' => some 16
      | 'o' => some 8
      | 'b' => some 2
      | _ => none
    | _ => none
  match based? with
  | some base =>
    let digits := (rest.drop 2).takeWhile (isPart base)
    skip (digits.length + 2)
    emit start (.number (.int (valueOf base digits)))
  | none =>
    let whole := rest.takeWhile (isPart 10)
    let after := rest.drop whole.length
    let fraction :=
      match after with
      | '.' :: more => '.' :: more.takeWhile (isPart 10)
      | _ => []
    let after := after.drop fraction.length
    let exponent :=
      match after with
      | e :: more =>
        if e = 'e' || e = 'E' then
          let sign := more.takeWhile fun c => c = '+' || c = '-'
          let digits := (more.drop sign.length).takeWhile (isPart 10)
          if digits.isEmpty || 1 < sign.length then [] else e :: sign ++ digits
        else []
      | [] => []
    let text := whole ++ fraction ++ exponent
    skip text.length
    let word := (← get).rest.takeWhile isInName
    if word.head?.any beginsName
        && !(["and", "else", "for", "if", "in", "is", "not", "or"].contains (String.ofList word)) then
      let place := start.column + text.length - 1
      failAt ⟨start.line, place, start.line, place + 1⟩ (ascii "invalid decimal literal")
    if fraction.isEmpty && exponent.isEmpty then
      if 1 < whole.length && whole.head? = some '0' && whole.any fun c => c != '0' && c != '_' then
        failAt start (ascii ("leading zeros in decimal integer literals are not permitted; "
          ++ "use an 0o prefix for octal integers"))
      emit start (.number (.int (valueOf 10 whole)))
    else emit start (.number (.float (Record.Number.ofText (text.filter (· != '_')))))

/-! ### Lines -/

/-- The width of the blanks at the start of a line. -/
def indentWidth (text : List Char) : Nat :=
  text.foldl (fun width c => if c = '\t' then (width / 8 + 1) * 8 else width + 1) 0

/-- Begins a line: tells how its indentation differs from that of the line before. -/
def beginLine : Scanning Unit := do
  let scan ← get
  let blanks := scan.rest.takeWhile fun c => c = ' ' || c = '\t' || c = '\x0c'
  let after := scan.rest.drop blanks.length
  let isBlank :=
    match after with
    | [] => true
    | '\n' :: _ => true
    | '#' :: _ => true
    | '\x0d' :: '\n' :: _ => true
    | _ => false
  skip blanks.length
  if !isBlank then
    let width := indentWidth blanks
    let current := scan.indents.head?.getD 0
    let start ← here
    if current < width then
      modify fun scan => { scan with indents := width :: scan.indents }
      emit start .indent
    else
      let kept := scan.indents.dropWhile fun indent => width < indent
      let closed := scan.indents.length - kept.length
      if kept.head? != some width then
        throw { kind := "IndentationError"
                message := ascii "unindent does not match any outer indentation level"
                span :=
                  let stop := start.column + (scan.rest.takeWhile (· != '\n')).length
                  ⟨start.line, stop, start.line, stop⟩ }
      modify fun scan => { scan with indents := kept }
      (List.range closed).forM fun _ => emit start .dedent

/-- Takes a sign. -/
def takeSign (start : Span) : Scanning Unit := do
  let rest := (← get).rest
  match signs.find? fun sign => sign.toList.isPrefixOf rest with
  | none =>
    let c := rest.head?.getD ' '
    if c.toNat < 128 then failAt (oneAt start) (ascii "invalid syntax")
    else
      let digits := (ByteText.digitsIn 16 c.toNat).map Char.toUpper
      let code := ascii "U+" ++ List.replicate (4 - digits.length) '0' ++ digits
      if Text.isBlank c || c.toNat = 0xFEFF || c.toNat = 0x200B then
        failAt (oneAt start) (ascii "invalid non-printable character " ++ code)
      else failAt (oneAt start) (ascii "invalid character '" ++ [c] ++ ascii "' (" ++ code ++ [')'])
  | some sign =>
    skip sign.length
    match sign.toList with
    | [c] =>
      if c = '(' || c = '[' || c = '\x7b' then
        let span := oneAt start
        modify fun scan => { scan with brackets := (c, span) :: scan.brackets }
      else if c = ')' || c = ']' || c = '\x7d' then
        match (← get).brackets with
        | [] => failAt (oneAt start) (ascii "unmatched '" ++ [c] ++ ['\''])
        | (opened, at_) :: outer =>
          if closing opened != c then
            failAt (oneAt start) (ascii "closing parenthesis '" ++ [c]
              ++ ascii "' does not match opening parenthesis '" ++ [opened] ++ ['\'']
              ++ (if at_.line = start.line then []
                else ascii " on line " ++ ByteText.ofNat at_.line))
          modify fun scan => { scan with brackets := outer }
    | _ => pure ()
    emit start (.sign sign)

/-- Takes tokens up to the end.  Each step takes a token or skips something. -/
def all : Nat → Bool → Scanning Unit
  | 0, _ => return ()
  | fuel + 1, isAtStart => do
    if isAtStart && (← get).brackets.isEmpty then beginLine
    let start ← here
    match (← get).rest with
    | [] => return ()
    | '#' :: rest =>
      skip ((rest.takeWhile (· != '\n')).length + 1)
      all fuel false
    | '\n' :: _ =>
      let isOpen := !(← get).brackets.isEmpty
      let hasTokens :=
        match (← get).tokens.head?.map Token.kind with
        | none => false
        | some .lineEnd => false
        | some .indent => false
        | some .dedent => false
        | _ => true
      if hasTokens && !isOpen then
        modify fun scan => { scan with tokens := ⟨.lineEnd, start⟩ :: scan.tokens }
      skip 1
      all fuel (!isOpen)
    | '\\' :: '\n' :: _ =>
      skip 2
      all fuel false
    | '\\' :: '\x0d' :: '\n' :: _ =>
      skip 3
      all fuel false
    | '\\' :: _ =>
      failAt ⟨start.line, start.column + 1, start.line, start.column + 2⟩
        (ascii "unexpected character after line continuation character")
    | c :: rest =>
      if c = ' ' || c = '\t' || c = '\x0c' || c = '\x0d' then
        skip 1
        all fuel false
      else if c = '"' || c = '\'' then
        quotedText start []
        all fuel false
      else if c.isDigit || (c = '.' && rest.head?.any Char.isDigit) then
        number start
        all fuel false
      else if beginsName c then
        let name := (c :: rest).takeWhile isInName
        let next := (rest.drop (name.length - 1)).head?
        let isQuoted := (next = some '"' || next = some '\'') && name.length ≤ 2
          && name.all fun c => (ascii "rbfu").contains c.toLower
        skip name.length
        if isQuoted then quotedText start name
        else emit start (.name (String.ofList name))
        all fuel false
      else
        takeSign start
        all fuel false

/-- All tokens of a program, with the ends of all blocks at its end. -/
def program : Scanning Unit := do
  all (2 * (← get).rest.length + 8) true
  match (← get).brackets.head? with
  | some (c, span) => failAt span (['\''] ++ [c] ++ ascii "' was never closed")
  | none =>
    let stop ← here
    let needsEnd :=
      match (← get).tokens.head?.map Token.kind with
      | none => false
      | some .lineEnd => false
      | some .dedent => false
      | _ => true
    if needsEnd then emit stop .lineEnd
    let next : Span := ⟨stop.line + 1, 0, stop.line + 1, 0⟩
    let open_ := (← get).indents.length - 1
    (List.range open_).forM fun _ =>
      modify fun scan => { scan with tokens := ⟨.dedent, next⟩ :: scan.tokens }
    modify fun scan => { scan with tokens := ⟨.ended, next⟩ :: scan.tokens }

end Scanning

/-- The tokens of a program, and what is strange in it. -/
def tokensOf (text : List Char) : Except SyntaxFault (List Token × List (Nat × List Char)) :=
  match Scanning.program.run { rest := text } with
  | .ok (_, scan) => .ok (scan.tokens.reverse, scan.warnings)
  | .error fault => .error fault

/-- The tokens of an expression that begins at some place. -/
def tokensAt (line column : Nat) (text : List Char) : Except SyntaxFault (List Token) :=
  let around : Char × Span := ('(', ⟨line, column, line, column⟩)
  let scan : Scan := { rest := text, line := line, column := column, brackets := [around] }
  match (Scanning.all (2 * text.length + 8) false).run scan with
  | .ok (_, scan) =>
    let stop : Span := ⟨scan.line, scan.column, scan.line, scan.column⟩
    .ok ((⟨.ended, stop⟩ :: scan.tokens).reverse)
  | .error fault => .error fault

end SchemaDocs.Shell.Indent

/-!
## The names in a program

Which names a block of statements gives values to, and whether it gives values one after the other
itself.
-/

namespace SchemaDocs.Shell.Indent

/-- How far parts of programs stand in each other that are looked through. -/
def deepestPart : Nat := 300

/-- The expressions in the pieces of a text. -/
def Piece.values : Piece → List Expr
  | .text _ => []
  | .value held _ format =>
    held :: format.filterMap fun piece =>
      match piece with
      | .value inner _ _ => some inner
      | .text _ => none

/-- The expression that an argument is made of. -/
def Argument.value : Argument → Expr
  | .plain value => value
  | .all values => values
  | .named _ value => value
  | .allNamed values => values

/-- The expressions that an expression is made of. -/
def Expr.parts : Expr → List Expr
  | .literal _ => []
  | .name _ => []
  | .list items => items
  | .tuple items => items
  | .set items => items
  | .dict entries => entries.flatMap fun entry => entry.1.toList ++ [entry.2]
  | .starred inner => [inner]
  | .member object _ => [object]
  | .subscript object index => [object, index]
  | .slice start stop step => start.toList ++ stop.toList ++ step.toList
  | .call callee arguments => callee :: arguments.map Argument.value
  | .unary _ inner => [inner]
  | .binary _ first second => [first, second]
  | .compare first rest => first :: rest.map Prod.snd
  | .and first second => [first, second]
  | .or first second => [first, second]
  | .choose condition first second => [condition, first, second]
  | .function parameters _ => parameters.filterMap Parameter.default
  | .comprehension _ element value clauses =>
    element :: value.toList ++ clauses.flatMap fun clause =>
      match clause with
      | .each _ values => [values]
      | .only condition => [condition]
  | .format pieces => pieces.flatMap Piece.values
  | .bind _ value => [value]
  | .give value _ => value.toList
  | .placed _ inner => [inner]

/-- The names that an expression gives values to.  Each step goes a level down. -/
def Expr.boundNames : Nat → Expr → List String
  | 0, _ => []
  | fuel + 1, e =>
    let inner := e.parts.flatMap (Expr.boundNames fuel)
    match e with
    | .bind bound _ => bound :: inner
    | _ => inner

/-- Whether an expression gives values one after the other. -/
def Expr.gives : Nat → Expr → Bool
  | 0, _ => false
  | fuel + 1, e =>
    match e with
    | .give _ _ => true
    | e => e.parts.any (Expr.gives fuel)

/-- The names that get values if something is assigned to an expression. -/
def Expr.targetNames : Nat → Expr → List String
  | 0, _ => []
  | fuel + 1, e =>
    match e with
    | .name target => [target]
    | .tuple items => items.flatMap (Expr.targetNames fuel)
    | .list items => items.flatMap (Expr.targetNames fuel)
    | .starred inner => Expr.targetNames fuel inner
    | .placed _ inner => Expr.targetNames fuel inner
    | _ => []

/-- The names that get values if something is of a shape. -/
def Shape.names : Nat → Shape → List String
  | 0, _ => []
  | fuel + 1, shape =>
    match shape with
    | .any name => name.toList
    | .value _ => []
    | .sequence items => items.flatMap (Shape.names fuel)
    | .rest name => name.toList
    | .mapping entries others =>
      entries.flatMap (fun entry => Shape.names fuel entry.2) ++ others.toList
    | .object _ items fields =>
      items.flatMap (Shape.names fuel) ++ fields.flatMap fun entry => Shape.names fuel entry.2
    | .either options => options.flatMap (Shape.names fuel)
    | .named inner own => own :: Shape.names fuel inner

/-- The blocks that a statement is made of. -/
def Statement.blocks : Statement → List (List Statement)
  | .choose _ first second => [first, second]
  | .loop _ body otherwise => [body, otherwise]
  | .each _ _ body otherwise => [body, otherwise]
  | .attempt body handlers otherwise final =>
    [body] ++ handlers.map (fun handler => match handler with | .mk _ _ body => body)
      ++ [otherwise, final]
  | .within _ body => [body]
  | .select _ cases => cases.map fun entry => match entry with | .mk _ _ body => body
  | .placed _ inner => [[inner]]
  | _ => []

/-- The expressions that a statement is made of, those in its blocks apart. -/
def Statement.values : Statement → List Expr
  | .evaluate value => [value]
  | .assign targets value => targets ++ [value]
  | .update _ target value => [target, value]
  | .declare _ value => value.toList
  | .choose condition _ _ => [condition]
  | .loop condition _ _ => [condition]
  | .each _ values _ _ => [values]
  | .within items _ => items.map Prod.fst
  | .select subject cases =>
    subject :: cases.filterMap fun entry => match entry with | .mk _ condition _ => condition
  | .giveBack value => value.toList
  | .raise exception cause => exception.toList ++ cause.toList
  | .assert condition message => condition :: message.toList
  | .delete targets => targets
  | .function _ parameters _ decorators => decorators ++ parameters.filterMap Parameter.default
  | .type _ bases _ decorators => decorators ++ bases.map Argument.value
  | _ => []

/-- The names that a statement itself gives values to. -/
def Statement.ownNames : Statement → List String
  | .assign targets _ => targets.flatMap (Expr.targetNames deepestPart)
  | .update _ target _ => target.targetNames deepestPart
  | .declare name _ => [name]
  | .each target _ _ _ => target.targetNames deepestPart
  | .attempt _ handlers _ _ =>
    handlers.flatMap fun handler => match handler with | .mk _ name _ => name.toList
  | .within items _ =>
    items.flatMap fun item => (item.2.map (Expr.targetNames deepestPart)).getD []
  | .function name _ _ _ => [name]
  | .type name _ _ _ => [name]
  | .select _ cases =>
    cases.flatMap fun entry => match entry with | .mk shape _ _ => shape.names deepestPart
  | .load paths => paths.map fun (path, name) => name.getD (path.head?.getD "")
  | .loadFrom _ names => names.map fun (name, other) => other.getD name
  | .delete targets => targets.flatMap (Expr.targetNames deepestPart)
  | _ => []

/-- The names that a statement gives values to.  Each step goes a level down. -/
def Statement.names : Nat → Statement → List String
  | 0, _ => []
  | fuel + 1, statement =>
    statement.ownNames ++ statement.values.flatMap (Expr.boundNames deepestPart)
      ++ statement.blocks.flatten.flatMap (Statement.names fuel)

/-- Whether a statement gives values one after the other. -/
def Statement.gives : Nat → Statement → Bool
  | 0, _ => false
  | fuel + 1, statement =>
    statement.values.any (Expr.gives deepestPart) || statement.blocks.flatten.any (Statement.gives fuel)

/-- The names that a block shares with the blocks around it, or with the whole program. -/
def Statement.sharedNames (isOuter : Bool) : Nat → Statement → List String
  | 0, _ => []
  | fuel + 1, statement =>
    match statement with
    | .shared isOther names => if isOther = isOuter then names else []
    | statement => statement.blocks.flatten.flatMap (Statement.sharedNames isOuter fuel)

/-- The names of a block that stand with a type, in order. -/
def declaredNames (body : List Statement) : List String :=
  body.flatMap fun statement =>
    match bare deepestPart statement with
    | .declare name _ => [name]
    | _ => []
where
  /-- A statement without its place. -/
  bare : Nat → Statement → Statement
    | fuel + 1, .placed _ inner => bare fuel inner
    | _, statement => statement

/-- What stands where it may not, with its place: the end of a call outside of functions, the end of a loop
outside of loops.  Each step goes a level down. -/
def Statement.misplaced? (isFunction isLoop : Bool) :
    Nat → Option Span → Statement → Option (String × Option Span)
  | 0, _, _ => none
  | fuel + 1, span, statement =>
    let inner (isFunction isLoop : Bool) (body : List Statement) : Option (String × Option Span) :=
      body.findSome? (Statement.misplaced? isFunction isLoop fuel span)
    let isGiving := !isFunction && statement.values.any (Expr.gives deepestPart)
    match statement with
    | .placed span inner => Statement.misplaced? isFunction isLoop fuel (some span) inner
    | .giveBack _ => if isFunction then none else some ("'return' outside function", span)
    | .leaveLoop => if isLoop then none else some ("'break' outside loop", span)
    | .continueLoop => if isLoop then none else some ("'continue' not properly in loop", span)
    | .shared true _ =>
      if isFunction then none else some ("nonlocal declaration not allowed at module level", span)
    | .function _ _ body _ => inner true false body
    | .type _ _ body _ => inner false false body
    | statement =>
      if isGiving then some ("'yield' outside function", span)
      else
        match statement with
        | .loop _ body otherwise => (inner isFunction true body).or (inner isFunction isLoop otherwise)
        | .each _ _ body otherwise => (inner isFunction true body).or (inner isFunction isLoop otherwise)
        | statement => inner isFunction isLoop statement.blocks.flatten

/-- Names without those that came before. -/
def distinct (names : List String) : List String :=
  (names.foldl (fun (kept : List String) name => if kept.contains name then kept else name :: kept) []).reverse

/-- The text that a block begins with, if it does. -/
def docOf (body : List Statement) : Option (List Char) :=
  match body.head?.map (declaredNames.bare deepestPart) with
  | some (.evaluate value) => textOf deepestPart value
  | _ => none
where
  /-- The text that an expression is. -/
  textOf : Nat → Expr → Option (List Char)
    | fuel + 1, .placed _ inner => textOf fuel inner
    | _, .literal (.text text) => some text
    | _, _ => none

end SchemaDocs.Shell.Indent
