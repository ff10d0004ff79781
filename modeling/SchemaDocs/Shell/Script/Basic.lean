import SchemaDocs.Shell.ByteText
/-!
# Scripts

What a shell script consists of: commands that are made of words.  A word holds text and
things that are replaced by text when a command is run.  Every part knows whether it
stood between quotes.
-/

namespace SchemaDocs.Shell

/-- Which shell is at work. -/
inductive Dialect where
  | sh | bash
deriving DecidableEq

/-- When the word of a parameter is used. -/
inductive ParameterRule where
  /-- In place of a parameter that is not there. -/
  | fallback
  /-- As the value of a parameter that is not there. -/
  | assignment
  /-- In the message that a parameter is not there. -/
  | refusal
  /-- In place of a parameter that is there. -/
  | alternative
deriving DecidableEq

/-- What is cut off a value. -/
inductive Trim where
  | shortestStart | longestStart | shortestEnd | longestEnd
deriving DecidableEq

/-- Where a pattern is replaced in a value. -/
inductive Replacing where
  | first | all | atStart | atEnd
deriving DecidableEq

/-- What is done with the case of letters. -/
inductive CaseChange where
  | upper | lower | swap
deriving DecidableEq

/-- How a list of commands in a selection ends. -/
inductive ChoiceEnd where
  /-- The selection is over. -/
  | stop
  /-- The next list is run as well. -/
  | fall
  /-- The next patterns are looked at as well. -/
  | search
deriving DecidableEq

mutual

/-- A part of a word. -/
inductive WordPart where
  | text (chars : ByteText) (isQuoted : Bool)
  | parameter (name : ByteText) (isQuoted : Bool)
  /-- What becomes of the values of parameters. -/
  | expansion (reference : Reference) (operation : Operation) (isQuoted : Bool)
  /-- Something between braces that is no parameter, as it is written. -/
  | misuse (source : ByteText)
  /-- What commands write. -/
  | output (commands : List Command) (isQuoted : Bool)
  /-- The value of an arithmetic expression. -/
  | arithmetic (expression : List WordPart) (isQuoted : Bool)
  /-- A path under which can be read what commands write, or written what they read. -/
  | process (isRead : Bool) (commands : List Command)
  /-- A word between brackets behind a name. -/
  | bracket (inner : List WordPart)
  /-- Elements for an array: their places, whether they are put behind the ones there, and their
  words. -/
  | elements (items : List (Option (List WordPart) × Bool × List WordPart))

/-- What is named between the braces of a parameter. -/
inductive Reference where
  | named (name : ByteText)
  /-- An element of an array. -/
  | element (name : ByteText) (place : List WordPart)
  /-- All elements of an array, one by one or joined. -/
  | elements (name : ByteText) (isJoined : Bool)
  /-- What is named by the value of something else. -/
  | pointed (reference : Reference)

/-- What is done with the values of parameters. -/
inductive Operation where
  | value
  | length
  /-- A word for the case that there is a value or not, where an empty one may count as not there. -/
  | conditional (rule : ParameterRule) (needsText : Bool) (word : List WordPart)
  /-- Without what a pattern matches. -/
  | trimmed (trim : Trim) (pattern : List WordPart)
  | replaced (place : Replacing) (pattern : List WordPart) (replacement : List WordPart)
  /-- A part of a text, or some of several values. -/
  | sliced (offset : List WordPart) (length : Option (List WordPart))
  /-- With the first letter or all letters in another case, as far as a pattern matches them. -/
  | cased (change : CaseChange) (isAll : Bool) (pattern : List WordPart)
  /-- In another form, which a letter names. -/
  | transformed (letter : Char)
  /-- The places of the elements of an array. -/
  | places
  /-- The names of variables that begin with the name. -/
  | names (isJoined : Bool)

/-- What a descriptor is redirected to. -/
inductive Redirect where
  | input (descriptor : Nat) (path : List WordPart)
  | output (descriptor : Nat) (path : List WordPart) (overwrites : Bool)
  | append (descriptor : Nat) (path : List WordPart)
  | both (descriptor : Nat) (path : List WordPart)
  /-- To where another descriptor leads, or to nothing. -/
  | copy (descriptor : Nat) (isInput : Bool) (source : List WordPart)
  /-- The output and the messages. -/
  | everything (path : List WordPart) (appends : Bool)
  /-- To the text with a number that follows the command. -/
  | document (descriptor : Nat) (number : Nat)
  /-- To the text of a word. -/
  | text (descriptor : Nat) (word : List WordPart)

/-- An assignment before a command: to a variable or to a place in an array, instead of its value or
behind it. -/
inductive Assignment where
  | assign (name : ByteText) (place : Option (List WordPart)) (appends : Bool)
      (value : List WordPart)

/-- A condition on words. -/
inductive Test where
  | unary (operator : ByteText) (operand : List WordPart)
  | binary (operator : ByteText) (first second : List WordPart)
  | not (test : Test)
  | and (first second : Test)
  | or (first second : Test)

/-- A command. -/
inductive Command where
  | simple (line : Nat) (assignments : List Assignment) (words : List (List WordPart))
      (redirects : List Redirect)
  | pipeline (commands : List Command)
  | negation (command : Command)
  | conjunction (first second : Command)
  | disjunction (first second : Command)
  | sequence (first second : Command)
  | background (line : Nat) (command : Command)
  | redirected (line : Nat) (command : Command) (redirects : List Redirect)
  | subshell (line : Nat) (command : Command) (redirects : List Redirect)
  | branch (test body : Command) (otherwise : Option Command)
  | loop (isUntil : Bool) (test body : Command)
  | iteration (line : Nat) (name : ByteText) (words : List (List WordPart)) (body : Command)
  /-- A loop with expressions to begin with, to test and to go on with. -/
  | counting (line : Nat) (start test step : List WordPart) (body : Command)
  | selection (line : Nat) (word : List WordPart)
      (choices : List (List (List WordPart) × Option Command × ChoiceEnd))
  /-- An expression that has to be other than zero. -/
  | arithmetic (line : Nat) (expression : List WordPart)
  | test (line : Nat) (test : Test)
  /-- A command whose time is told. -/
  | timed (isPlain : Bool) (command : Option Command)
  | definition (line : Nat) (name : ByteText) (body : Command)

end

/-- A word of a script. -/
abbrev Word := List WordPart

instance : Inhabited Command := ⟨.simple 0 [] [] []⟩

/-- Text that follows a command, under its number. -/
abbrev Documents := List (Nat × Word)

/-! ## Names -/

/-- Whether a character may begin the name of a variable. -/
def beginsName (c : Char) : Bool := c.isAlpha || c = '_'

/-- Whether a character may stand in the name of a variable. -/
def isNameChar (c : Char) : Bool := c.isAlphanum || c = '_'

/-- Whether a text is the name of a variable. -/
def isName : ByteText → Bool
  | [] => false
  | c :: cs => beginsName c && cs.all isNameChar

/-- Whether a character that is no letter names a parameter. -/
def isSpecialParameter (c : Char) : Bool :=
  c.isDigit || c = '@' || c = '*' || c = '#' || c = '?' || c = '$' || c = '!' || c = '-'

namespace WordPart

/-- Whether a reference stands for several values one by one. -/
def isSpread : Reference → Bool
  | .named name => name = ['@']
  | .elements _ isJoined => !isJoined
  | _ => false

/-- Whether a part stands for several values one by one between quotes, of which there may be
none. -/
def isQuotedSpread : WordPart → Bool
  | .parameter name true => name = ['@']
  | .expansion reference operation true =>
    match operation with
    | .length => false
    | .names isJoined => !isJoined
    | _ => isSpread reference
  | _ => false

/-- The text of a word that holds nothing else. -/
def plainText? : Word → Option ByteText
  | [] => some []
  | .text chars false :: rest => (plainText? rest).map (chars ++ ·)
  | _ => none

/-- The text at the head of a word that no quotes surround. -/
def leadingText : Word → ByteText
  | .text chars false :: rest => chars ++ leadingText rest
  | _ => []

/-- A word without characters at its head, which are text. -/
def dropText : Nat → Word → Word
  | 0, word => word
  | count, .text chars isQuoted :: rest =>
    if count < chars.length then .text (chars.drop count) isQuoted :: rest
    else dropText (count - chars.length) rest
  | _, word => word

/-- The assignment that a word is. -/
def assignment? (dialect : Dialect) (word : Word) : Option Assignment :=
  let text := leadingText word
  let name := text.takeWhile isNameChar
  if !isName name then none
  else
    match (text.drop name.length), dropText name.length word with
    | '=' :: _, rest => some (.assign name none false (dropText 1 rest))
    | '+' :: '=' :: _, rest =>
      if dialect = .bash then some (.assign name none true (dropText 2 rest)) else none
    | [], .bracket place :: rest =>
      match leadingText rest with
      | '=' :: _ => some (.assign name (some place) false (dropText 1 rest))
      | '+' :: '=' :: _ => some (.assign name (some place) true (dropText 2 rest))
      | _ => none
    | _, _ => none

/-- Whether the parts of a word so far are an assignment without its value. -/
def isOpenAssignment (word : Word) : Bool :=
  match assignment? .bash word with
  | some (.assign _ _ _ []) => true
  | _ => false

/-- The words between the occurrences of a character in the text of a word. -/
def splitText (mark : Char) : Word → List Word
  | [] => [[]]
  | .text chars isQuoted :: rest =>
    let pieces := (ByteText.splitAt mark chars).map fun piece => [WordPart.text piece isQuoted]
    match splitText mark rest with
    | first :: others => pieces.dropLast ++ (pieces.getLast?.getD [] ++ first) :: others
    | [] => pieces
  | part :: rest =>
    match splitText mark rest with
    | first :: others => (part :: first) :: others
    | [] => [[part]]

end WordPart

end SchemaDocs.Shell

/-!
## Words as they may have been written

A word does not keep how it was quoted.  For messages it is written with double quotes
around what was quoted somehow.
-/

namespace SchemaDocs.Shell

namespace WordPart

/-- How a reference is written. -/
def writtenReference : Reference → ByteText
  | .named name => name
  | .element name place => name ++ ['['] ++ (plainText? place).getD [] ++ [']']
  | .elements name isJoined => name ++ ascii (if isJoined then "[*]" else "[@]")
  | .pointed reference => '!' :: writtenReference reference

/-- Whether a part was quoted somehow. -/
def wasQuoted : WordPart → Bool
  | .text _ isQuoted => isQuoted
  | .parameter _ isQuoted => isQuoted
  | .expansion _ _ isQuoted => isQuoted
  | .output _ isQuoted => isQuoted
  | .arithmetic _ isQuoted => isQuoted
  | _ => false

/-- How it is written what is done with the values of parameters, where words in it are written in
some way. -/
def writtenOperation (written : Word → ByteText) : Operation → ByteText
  | .value => []
  | .length => []
  | .places => []
  | .conditional rule needsText word =>
    let sign := match rule with
      | .fallback => '-'
      | .assignment => '='
      | .refusal => '?'
      | .alternative => '+'
    (if needsText then [':'] else []) ++ [sign] ++ written word
  | .trimmed trim pattern =>
    let sign := match trim with
      | .shortestStart => "#"
      | .longestStart => "##"
      | .shortestEnd => "%"
      | .longestEnd => "%%"
    ascii sign ++ written pattern
  | .replaced place pattern replacement =>
    let sign := match place with
      | .first => ascii "/"
      | .all => ascii "//"
      | .atStart => ascii "/#"
      | .atEnd => ascii "/%"
    sign ++ written pattern ++ ['/'] ++ written replacement
  | .sliced offset length =>
    [':'] ++ written offset ++ ((length.map fun length => ':' :: written length).getD [])
  | .cased change isAll pattern =>
    let sign := match change with
      | .upper => '^'
      | .lower => ','
      | .swap => '~'
    (if isAll then [sign, sign] else [sign]) ++ written pattern
  | .transformed letter => ['@', letter]
  | .names isJoined => if isJoined then ['*'] else ['@']

/-- How a part is written, apart from quotes around it, where words in it are written in some way. -/
def writtenPart (written : Word → ByteText) : WordPart → ByteText
  | .text chars _ => chars
  | .parameter name _ => '$' :: name
  | .expansion reference operation _ =>
    let sign := match operation with
      | .length => ['#']
      | .places => ['!']
      | .names _ => ['!']
      | _ => []
    ascii "$\x7b" ++ sign ++ writtenReference reference ++ writtenOperation written operation
      ++ ascii "\x7d"
  | .misuse source => source
  | .output _ _ => ascii "$()"
  | .arithmetic expression _ => ascii "$((" ++ written expression ++ ascii "))"
  | .process isRead _ => ascii (if isRead then "<()" else ">()")
  | .bracket inner => ['['] ++ written inner ++ [']']
  | .elements _ => ascii "()"

/-- Adds a part to what is written, in quotes that may be open already. -/
def addWritten (written : Word → ByteText) (before : ByteText × Bool) (part : WordPart) :
    ByteText × Bool :=
  let quote := if wasQuoted part = before.2 then [] else ['"']
  (before.1 ++ quote ++ writtenPart written part, wasQuoted part)

/-- A word as it may have been written.  Each step goes into a word within it. -/
def writtenTo : Nat → Word → ByteText
  | 0, _ => []
  | fuel + 1, word =>
    let whole := word.foldl (addWritten (writtenTo fuel)) ([], false)
    if whole.2 then whole.1 ++ ['"'] else whole.1

/-- A word as it may have been written. -/
def written (word : Word) : ByteText := writtenTo 8 word

end WordPart

end SchemaDocs.Shell

/-!
## Braces

Alternatives between braces make several words of one, and so do two ends of a sequence.
Only text that no quotes surround counts; everything else stays as it is.
-/

namespace SchemaDocs.Shell

namespace Braces

/-- A character that no quotes surround, or another part of a word. -/
inductive Item where
  | char (c : Char)
  | part (part : WordPart)

/-- The items of a word. -/
def itemsOf (word : Word) : List Item :=
  (word.map fun part =>
    match part with
    | .text chars false => chars.map Item.char
    | part => [Item.part part]).flatten

/-- A word of some items. -/
def wordOf : List Item → Word
  | [] => []
  | .char c :: rest =>
    match wordOf rest with
    | .text chars false :: others => .text (c :: chars) false :: others
    | others => .text [c] false :: others
  | .part part :: rest => part :: wordOf rest

/-- The texts between braces that are separated by commas, up to the brace that closes them, with what
follows it.  The piece at hand has its last item first.  Each step takes an item. -/
def pieces? : Nat → List Item → List (List Item) → List Item →
    Option (List (List Item) × List Item)
  | _, _, _, [] => none
  | depth, piece, pieces, item :: rest =>
    match item with
    | .char '\x7b' => pieces? (depth + 1) (item :: piece) pieces rest
    | .char '\x7d' =>
      match depth with
      | 0 => some ((piece.reverse :: pieces).reverse, rest)
      | depth + 1 => pieces? depth (item :: piece) pieces rest
    | .char ',' =>
      if depth = 0 then pieces? 0 [] (piece.reverse :: pieces) rest
      else pieces? depth (item :: piece) pieces rest
    | item => pieces? depth (item :: piece) pieces rest

/-- The text of items that are nothing else. -/
def plainText? : List Item → Option ByteText
  | [] => some []
  | .char c :: rest => (plainText? rest).map (c :: ·)
  | .part _ :: _ => none

/-- The pieces of a text between two dots side by side. -/
def splitDots : ByteText → List ByteText
  | [] => [[]]
  | '.' :: '.' :: rest => [] :: splitDots rest
  | c :: rest =>
    match splitDots rest with
    | first :: others => (c :: first) :: others
    | [] => [[c]]

/-- A whole number with perhaps a sign. -/
def integer? (text : ByteText) : Option Int :=
  match text with
  | '-' :: digits => (ByteText.toNat? digits).map fun n => -(n : Int)
  | '+' :: digits => (ByteText.toNat? digits).map Int.ofNat
  | digits => (ByteText.toNat? digits).map Int.ofNat

/-- The greatest number of words that a sequence stands for. -/
def longest : Nat := 100000

/-- The numbers from one to another by steps. -/
def numbers (start stop step : Int) : List Int :=
  let size := if step = 0 then 1 else step.natAbs
  let count := (stop - start).natAbs / size + 1
  (List.range (min count longest)).map fun (n : Nat) =>
    let distance : Int := ((n * size : Nat) : Int)
    if start ≤ stop then start + distance else start - distance

/-- A number with zeros before it, up to a width that counts the sign. -/
def padded (width : Nat) (n : Int) : ByteText :=
  let digits := ByteText.ofNat n.natAbs
  let sign : ByteText := if n < 0 then ['-'] else []
  sign ++ List.replicate (width - digits.length - sign.length) '0' ++ digits

/-- Whether a number is written with zeros before it. -/
def isPadded (text : ByteText) : Bool :=
  match text with
  | '0' :: _ :: _ => true
  | '-' :: '0' :: _ :: _ => true
  | _ => false

/-- The words of a sequence, whose ends are numbers or letters. -/
def sequence? (text : ByteText) : Option (List ByteText) :=
  let between (first last : ByteText) (step : Option Int) : Option (List ByteText) :=
    match integer? first, integer? last with
    | some start, some stop =>
      let width :=
        if isPadded first || isPadded last then max first.length last.length else 0
      some ((numbers start stop (step.getD 1)).map (padded width))
    | _, _ =>
      match first, last with
      | [a], [b] =>
        if a.isAlpha && b.isAlpha then
          some ((numbers a.toNat b.toNat (step.getD 1)).map fun n => [Char.ofNat n.toNat])
        else none
      | _, _ => none
  match splitDots text with
  | [first, last] => between first last none
  | [first, last, step] =>
    match integer? step with
    | some step => between first last (some step)
    | none => none
  | _ => none

/-- The words that items stand for.  Each step goes into braces or takes an item. -/
def expandFrom : Nat → List Item → List (List Item)
  | 0, items => [items]
  | _ + 1, [] => [[]]
  | fuel + 1, item :: rest =>
    let literal := (expandFrom fuel rest).map (item :: ·)
    match item with
    | .char '\x7b' =>
      match pieces? 0 [] [] rest with
      | none => literal
      | some ([], _) => literal
      | some ([inner], after) =>
        match (plainText? inner).bind sequence? with
        | some texts =>
          let ends := expandFrom fuel after
          (texts.map fun text => ends.map fun tail => text.map Item.char ++ tail).flatten
        | none => literal
      | some (pieces, after) =>
        let ends := expandFrom fuel after
        let starts := (pieces.map fun piece => expandFrom fuel piece).flatten
        (starts.map fun start => ends.map fun tail => start ++ tail).flatten
    | _ => literal

/-- Whether a part of a word is text with an opening brace. -/
def mayExpand : WordPart → Bool
  | .text chars false => chars.contains '\x7b'
  | _ => false

/-- The words that a word with braces stands for. -/
def expand (word : Word) : List Word :=
  if word.any mayExpand then
    let items := itemsOf word
    (expandFrom (items.length + 1) items).map wordOf
  else [word]

end Braces

end SchemaDocs.Shell
