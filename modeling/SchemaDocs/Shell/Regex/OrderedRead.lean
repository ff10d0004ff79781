import SchemaDocs.Shell.Regex.Ordered
/-!
# Reading regular expressions with an order of ways

The written form of such patterns.  Strict rules refuse what has no meaning; lenient ones take a
character for itself then and know more kinds of characters.
-/

namespace SchemaDocs.Shell.Ordered

/-- What is wrong with a pattern. -/
inductive Cause where
  | nothingToRepeat | repeatedTwice | openGroup | strayClose | openSet | loneEscape
  | badEscape (text : List Char)
  | badRange (text : List Char)
  | unknownGroup (name : List Char)
  | missingGroup (number : Nat)
  | sameName (name : List Char)
  | unknownForm (text : List Char)
  | leastAboveMost | variableWidth
  | lateFlags | openComment | badName (name : List Char)

/-- What is wrong with a pattern, and where: the place that it concerns and the one that was read up
to. -/
structure Fault where
  cause : Cause
  place : Nat
  mark : Nat

/-- What the letters before a pattern say. -/
structure Flags where
  ignoresCase : Bool := false
  hasLines : Bool := false
  dotHoldsAll : Bool := false
  isSpaced : Bool := false
  isWide : Bool := false

/-- What is known while a pattern is read. -/
structure Reader where
  rest : List Char
  place : Nat := 0
  flags : Flags
  isStrict : Bool
  groups : Nat := 0
  names : List (List Char × Nat) := []
  /-- The groups that are not closed yet. -/
  opened : List Nat := []

/-- A step of reading a pattern. -/
abbrev Reading := StateT Reader (Except Fault)

namespace Reading

/-- Fails at a place. -/
def failAt {α : Type} (place : Nat) (cause : Cause) : Reading α := do
  throw ⟨cause, place, (← get).place⟩

/-- Fails where the reader is. -/
def fail {α : Type} (cause : Cause) : Reading α := do failAt (← get).place cause

/-- The text that is still to be read. -/
def rest : Reading (List Char) := do return (← get).rest

/-- Goes on after some characters. -/
def advance (count : Nat) : Reading Unit :=
  modify fun reader => { reader with rest := reader.rest.drop count, place := reader.place + count }

/-- Takes characters as long as they have a property. -/
def takeWhile (holds : Char → Bool) : Reading (List Char) := do
  let taken := (← rest).takeWhile holds
  advance taken.length
  return taken

/-- Takes some characters at most that have a property. -/
def takeUpTo (count : Nat) (holds : Char → Bool) : Reading (List Char) := do
  let taken := ((← rest).take count).takeWhile holds
  advance taken.length
  return taken

/-- The character of some code. -/
def charOf (code : Nat) : Char := Char.ofNat code

/-- The value of digits in some base. -/
def valueIn (base : Nat) (digits : List Char) : Nat := ByteText.valueIn base digits

/-- A set under the flags. -/
def setOf (parts : List Part) (isNegated : Bool := false) : Reading ClassSet := do
  let flags := (← get).flags
  return { parts := parts, isNegated := isNegated, ignoresCase := flags.ignoresCase
           isWide := flags.isWide }

/-- A pattern for one character. -/
def charNode (c : Char) : Reading Node := do return .one (← setOf [.range c c])

/-- The kind of characters that a letter behind a backslash stands for, and whether it is meant the
other way round. -/
def kindOf? (isStrict : Bool) (c : Char) : Option (Kind × Bool) :=
  match c with
  | 'd' => some (.digit, false)
  | 'D' => some (.digit, true)
  | 'w' => some (.word, false)
  | 'W' => some (.word, true)
  | 's' => some (.space, false)
  | 'S' => some (.space, true)
  | 'h' => if isStrict then none else some (.blank, false)
  | 'H' => if isStrict then none else some (.blank, true)
  | 'v' => if isStrict then none else some (.vertical, false)
  | 'V' => if isStrict then none else some (.vertical, true)
  | 'N' => if isStrict then none else some (.notFeed, false)
  | _ => none

/-- The kind of characters with a name. -/
def kindNamed? (name : List Char) : Option Kind :=
  match String.ofList name with
  | "alpha" | "L" | "Alpha" | "Alphabetic" | "Letter" => some .alpha
  | "digit" | "Nd" | "Digit" => some .digit
  | "alnum" | "Alnum" => some .alnum
  | "upper" | "Lu" | "Upper" | "Uppercase" => some .upper
  | "lower" | "Ll" | "Lower" | "Lowercase" => some .lower
  | "space" | "Space" | "XPosixSpace" => some .space
  | "blank" | "Blank" | "Zs" => some .blank
  | "punct" | "P" | "Punct" | "Punctuation" => some .punct
  | "print" | "Print" => some .print
  | "graph" | "Graph" => some .graph
  | "cntrl" | "Cc" | "Cntrl" => some .control
  | "xdigit" | "XDigit" => some .hexDigit
  | "word" | "Word" => some .word
  | "ascii" | "ASCII" => some .ascii
  | "N" | "Number" => some .digit
  | _ => none

/-- The character that a letter behind a backslash stands for. -/
def letterOf? (isStrict isInSet : Bool) (c : Char) : Option Char :=
  match c with
  | 'n' => some '\n'
  | 't' => some '\t'
  | 'r' => some '\r'
  | 'f' => some '\x0c'
  | 'a' => some '\x07'
  | 'v' => if isStrict then some '\x0b' else none
  | 'e' => if isStrict then none else some '\x1b'
  | 'b' => if isInSet then some '\x08' else none
  | _ => none

/-- The kind that braces behind a letter for properties name. -/
def namedKind (isNegated : Bool) (start : Nat) : Reading Part := do
  let name ← do
    match ← rest with
    | '\x7b' :: _ =>
      advance 1
      let name ← takeWhile (· != '\x7d')
      advance 1
      pure name
    | _ => takeUpTo 1 fun _ => true
  let (isTurned, name) :=
    match name with
    | '^' :: name => (true, name)
    | name => (false, name)
  match kindNamed? name with
  | some kind => return .kind kind (isNegated != isTurned)
  | none => failAt start (.badEscape ('p' :: name))

/-- The part of a set behind a backslash: a character, or a kind of characters. -/
def escapedPart (isInSet : Bool) : Reading Part := do
  let start := (← get).place - 1
  let isStrict := (← get).isStrict
  match ← rest with
  | [] => failAt start .loneEscape
  | c :: _ =>
    advance 1
    let char (c : Char) : Part := .range c c
    match kindOf? isStrict c, letterOf? isStrict isInSet c with
    | some (kind, isNegated), _ => return .kind kind isNegated
    | none, some c => return char c
    | none, none =>
      if c = 'x' then
        match isStrict, ← rest with
        | false, '\x7b' :: _ =>
          advance 1
          let digits ← takeWhile (ByteText.isDigitIn 16)
          advance 1
          return char (charOf (valueIn 16 digits))
        | _, _ =>
          let digits ← takeUpTo 2 (ByteText.isDigitIn 16)
          if isStrict && digits.length < 2 then failAt start (.badEscape ('x' :: digits))
          else return char (charOf (valueIn 16 digits))
      else if isStrict && (c = 'u' || c = 'U') then
        let count := if c = 'u' then 4 else 8
        let digits ← takeUpTo count (ByteText.isDigitIn 16)
        if digits.length < count then failAt start (.badEscape (c :: digits))
        else return char (charOf (valueIn 16 digits))
      else if !isStrict && (c = 'p' || c = 'P') then namedKind (c = 'P') start
      else if !isStrict && c = 'c' then
        let letter ← takeUpTo 1 fun _ => true
        return char (charOf ((letter.head?.getD '@').toUpper.toNat ^^^ 64))
      else if ByteText.isDigitIn 8 c then
        let digits ← takeUpTo 2 (ByteText.isDigitIn 8)
        return char (charOf (valueIn 8 (c :: digits)))
      else if isStrict && (c.isAlpha || c.isDigit) then failAt start (.badEscape [c])
      else return char c

/-- The parts of a set up to its bracket.  Each step takes a part. -/
def setParts (start : Nat) : Nat → Bool → List Part → Reading (List Part)
  | 0, _, parts => return parts
  | fuel + 1, isFirst, parts => do
    let isStrict := (← get).isStrict
    match ← rest with
    | [] => failAt start .openSet
    | ']' :: _ =>
      if isFirst then
        advance 1
        withRange ']' fuel parts
      else
        advance 1
        return parts
    | '[' :: ':' :: more =>
      let name := more.takeWhile fun c => c.isAlpha || c = '^'
      if !isStrict && (ascii ":]").isPrefixOf (more.drop name.length) then
        advance (name.length + 4)
        let (isNegated, word) :=
          match name with
          | '^' :: word => (true, word)
          | word => (false, word)
        match kindNamed? word with
        | some kind => setParts start fuel false (.kind kind isNegated :: parts)
        | none => fail (.unknownForm name)
      else
        advance 1
        withRange '[' fuel parts
    | '\\' :: _ =>
      advance 1
      match ← escapedPart true with
      | .range c _ => withRange c fuel parts
      | part => setParts start fuel false (part :: parts)
    | c :: _ =>
      advance 1
      withRange c fuel parts
where
  /-- Goes on after a character that may begin a range. -/
  withRange (first : Char) (fuel : Nat) (parts : List Part) : Reading (List Part) := do
    let begun := (← get).place - 1
    match ← rest with
    | '-' :: ']' :: _ => setParts start fuel false (.range first first :: parts)
    | '-' :: '\\' :: _ =>
      advance 2
      match ← escapedPart true with
      | .range last _ => close first last begun fuel parts
      | part => setParts start fuel false (part :: .range '-' '-' :: .range first first :: parts)
    | '-' :: last :: _ =>
      advance 2
      close first last begun fuel parts
    | _ => setParts start fuel false (.range first first :: parts)
  /-- Goes on after both ends of a range. -/
  close (first last : Char) (begun fuel : Nat) (parts : List Part) : Reading (List Part) := do
    if last < first then failAt begun (.badRange [first, '-', last])
    else setParts start fuel false (.range first last :: parts)

/-- The set behind an open bracket. -/
def bracketed : Reading Node := do
  let start := (← get).place - 1
  let isNegated := (← rest).head? = some '^'
  if isNegated then advance 1
  let parts ← setParts start ((← rest).length + 1) true []
  return .one (← setOf parts.reverse isNegated)

/-- Skips blanks and comments where the flags say so. -/
def skipSpace : Nat → Reading Unit
  | 0 => return ()
  | fuel + 1 => do
    if (← get).flags.isSpaced then
      match ← rest with
      | '#' :: _ =>
        let _ ← takeWhile (· != '\n')
        skipSpace fuel
      | c :: _ =>
        if isSpaceChar c then
          advance 1
          skipSpace fuel
      | [] => return ()

/-- The bounds between braces, if there are any. -/
def bounds? (isStrict : Bool) (text : List Char) : Option (Nat × Option Nat × Nat) :=
  let least := text.takeWhile Char.isDigit
  match text.drop least.length with
  | '\x7d' :: _ =>
    if least.isEmpty then none
    else some (valueIn 10 least, some (valueIn 10 least), least.length + 1)
  | ',' :: more =>
    let most := more.takeWhile Char.isDigit
    match more.drop most.length with
    | '\x7d' :: _ =>
      if least.isEmpty && most.isEmpty && !isStrict then none
      else
        some (valueIn 10 least, if most.isEmpty then none else some (valueIn 10 most),
          least.length + most.length + 2)
    | _ => none
  | _ => none

/-- The bounds at the place of the reader, with the length of their text. -/
def repetition? : Reading (Option (Nat × Option Nat × Nat)) := do
  match ← rest with
  | '*' :: _ => return some (0, none, 1)
  | '+' :: _ => return some (1, none, 1)
  | '?' :: _ => return some (0, some 1, 1)
  | '\x7b' :: more =>
    return (bounds? (← get).isStrict more).map fun (least, most, length) => (least, most, length + 1)
  | _ => return none

/-- A pattern with the repetition behind it. -/
def quantified (node : Node) (mayRepeat : Bool) : Reading Node := do
  skipSpace ((← rest).length + 1)
  match ← repetition? with
  | none => return node
  | some (least, most, length) =>
    let start := (← get).place
    if !mayRepeat then
      advance length
      failAt start .nothingToRepeat
    else
      if most.any fun most => most < least then failAt (start + 1) .leastAboveMost
      advance length
      let greed ← do
        match ← rest with
        | '?' :: _ =>
          advance 1
          pure Greed.short
        | '+' :: _ =>
          advance 1
          pure Greed.fixed
        | _ => pure Greed.long
      skipSpace ((← rest).length + 1)
      match ← repetition? with
      | some (_, _, length) =>
        let again := (← get).place
        advance length
        failAt again .repeatedTwice
      | none => return .times node least most greed

/-- The flags that letters set or take back. -/
def withLetters (flags : Flags) (letters : List Char) : Flags :=
  (letters.foldl (fun (flags, isOn) c =>
    match c with
    | '-' => (flags, false)
    | 'i' => ({ flags with ignoresCase := isOn }, isOn)
    | 'm' => ({ flags with hasLines := isOn }, isOn)
    | 's' => ({ flags with dotHoldsAll := isOn }, isOn)
    | 'x' => ({ flags with isSpaced := isOn }, isOn)
    | 'a' => ({ flags with isWide := false }, isOn)
    | 'u' => ({ flags with isWide := true }, isOn)
    | '^' => ({ isWide := flags.isWide }, isOn)
    | _ => (flags, isOn)) ((flags, true) : Flags × Bool)).1

/-- Opens a group, perhaps with a name. -/
def openGroup (name : Option (List Char)) : Reading Nat := do
  let reader ← get
  let number := reader.groups + 1
  match name with
  | some name =>
    if reader.isStrict && reader.names.any fun entry => entry.1 = name then
      fail (.sameName name)
    set { reader with groups := number, names := reader.names ++ [(name, number)] }
  | none => set { reader with groups := number }
  return number

/-- A pattern for the text of a group with some number. -/
def againNode (start number : Nat) : Reading Node := do
  let reader ← get
  if reader.isStrict && (reader.groups < number || reader.opened.contains number) then
    failAt start (.missingGroup number)
  else return .again reader.flags.ignoresCase number

/-- A pattern for the text of a group with some name. -/
def againNamed (start : Nat) (name : List Char) : Reading Node := do
  match (← get).names.find? fun entry => entry.1 = name with
  | some (_, number) => againNode start number
  | none => failAt start (.unknownGroup name)

/-- The pattern behind a backslash. -/
def escapedNode : Reading (Node × Bool) := do
  let start := (← get).place - 1
  let reader ← get
  let isWide := reader.flags.isWide
  let spot (spot : Spot) : Reading (Node × Bool) := do
    advance 1
    return (.spot spot, true)
  match ← rest with
  | 'b' :: _ => spot (.wordEdge isWide)
  | 'B' :: _ => spot (.noWordEdge isWide)
  | 'A' :: _ => spot .textStart
  | 'Z' :: _ => spot (if reader.isStrict then .textEnd else .lastEnd)
  | c :: more =>
    if c.isDigit && c != '0' then
      let digits := (c :: more).takeWhile Char.isDigit
      let number := valueIn 10 digits
      let isOctal := 3 ≤ digits.length && (digits.take 3).all (ByteText.isDigitIn 8)
      if isOctal || (!reader.isStrict && 9 < number && reader.groups < number) then
        match ← escapedPart false with
        | part => return (.one (← setOf [part]), true)
      else
        let digits := if reader.isStrict then digits.take 2 else digits
        advance digits.length
        return (← againNode start (valueIn 10 digits), true)
    else if reader.isStrict then
      return (.one (← setOf [← escapedPart false]), true)
    else
      match c with
      | 'z' => spot .textEnd
      | 'G' => spot .searchStart
      | 'K' =>
        advance 1
        return (.keep, true)
      | 'R' =>
        advance 1
        let feed ← charNode '\n'
        let pair : Node := .sequence (← charNode '\x0d') feed
        return (.choice pair (.one (← setOf [.kind .vertical false])), true)
      | 'k' =>
        advance 2
        let name ← takeWhile fun c => c.isAlphanum || c = '_'
        advance 1
        return (← againNamed start name, true)
      | 'g' =>
        let isBraced := more.head? = some '\x7b'
        advance (if isBraced then 2 else 1)
        let name ← takeWhile fun c => c.isAlphanum || c = '_' || c = '-'
        if isBraced then advance 1
        match name with
        | '-' :: digits =>
          return (← againNode start (reader.groups + 1 - valueIn 10 digits), true)
        | name =>
          if name.all Char.isDigit then return (← againNode start (valueIn 10 name), true)
          else return (← againNamed start name, true)
      | _ => return (.one (← setOf [← escapedPart false]), true)
  | [] => failAt start .loneEscape

/-- The width of what a pattern matches, if there is only one. -/
def width? (widths : Nat → Option Nat) : Node → Option Nat
  | .one _ => some 1
  | .group _ inner => width? widths inner
  | .again _ number => widths number
  | .sequence first second => do return (← width? widths first) + (← width? widths second)
  | .choice first second => do
    let width ← width? widths first
    if width? widths second = some width then some width else none
  | .times inner least most _ => do
    let width ← width? widths inner
    if most = some least || width = 0 then some (width * least) else none
  | .atomic inner => width? widths inner
  | .given _ first second => do
    let width ← width? widths first
    if width? widths second = some width then some width else none
  | _ => some 0

/-- Takes the parenthesis that closes a group. -/
def closeGroup (start : Nat) : Reading Unit := do
  match ← rest with
  | ')' :: _ => advance 1
  | _ => failAt start .openGroup

/-- Nodes one after the other, which come in the wrong order. -/
def chain (nodes : List Node) : Node :=
  match nodes with
  | [] => .empty
  | last :: before => before.foldl (fun later node => .sequence node later) last

mutual

/-- Alternatives up to the end of a group or the text.  Each step takes an alternative or goes a level
down. -/
def alternatives : Nat → Reading Node
  | 0 => return .empty
  | fuel + 1 => do
    let first ← items fuel []
    match ← rest with
    | '|' :: _ =>
      advance 1
      return .choice first (← alternatives fuel)
    | _ => return first

/-- Patterns one after the other. -/
def items : Nat → List Node → Reading Node
  | 0, nodes => return chain nodes
  | fuel + 1, nodes => do
    skipSpace ((← rest).length + 1)
    match ← rest with
    | [] => return chain nodes
    | '|' :: _ => return chain nodes
    | ')' :: _ => return chain nodes
    | _ =>
      match ← item fuel with
      | none => items fuel nodes
      | some (node, mayRepeat) => items fuel ((← quantified node mayRepeat) :: nodes)

/-- A pattern without its repetition, and whether it may have one. -/
def item : Nat → Reading (Option (Node × Bool))
  | 0 => return none
  | fuel + 1 => do
    let flags := (← get).flags
    match ← rest with
    | '\\' :: _ =>
      advance 1
      return some (← escapedNode)
    | '[' :: _ =>
      advance 1
      return some (← bracketed, true)
    | '.' :: _ =>
      advance 1
      let parts := if flags.dotHoldsAll then [] else [Part.kind .notFeed false]
      return some (.one (← setOf parts parts.isEmpty), true)
    | '^' :: _ =>
      advance 1
      return some (.spot (if flags.hasLines then .lineStart else .textStart), true)
    | '$' :: _ =>
      advance 1
      return some (.spot (if flags.hasLines then .lineEnd else .lastEnd), true)
    | '(' :: '?' :: more => extended fuel more
    | '(' :: '*' :: _ =>
      if (← get).isStrict then
        advance 1
        failAt (← get).place .nothingToRepeat
      else
        let word ← takeWhile (· != ')')
        advance 1
        return (if word = ascii "(*FAIL" || word = ascii "(*F" then some (.never, true) else none)
    | '(' :: _ =>
      let start := (← get).place
      advance 1
      return some (← captured fuel start none, true)
    | c :: _ =>
      match ← repetition? with
      | some (_, _, length) =>
        let start := (← get).place
        advance length
        failAt start .nothingToRepeat
      | none =>
        advance 1
        return some (← charNode c, true)
    | [] => return none

/-- A numbered group behind its parenthesis. -/
def captured : Nat → Nat → Option (List Char) → Reading Node
  | 0, _, _ => return .empty
  | fuel + 1, start, name => do
    let number ← openGroup name
    modify fun reader => { reader with opened := number :: reader.opened }
    let inner ← enclosed fuel start
    modify fun reader => { reader with opened := reader.opened.drop 1 }
    return .group number inner

/-- What stands in a group, whose flags end with it. -/
def enclosed : Nat → Nat → Reading Node
  | 0, _ => return .empty
  | fuel + 1, start => do
    let flags := (← get).flags
    let inner ← alternatives fuel
    closeGroup start
    modify fun reader => { reader with flags := flags }
    return inner

/-- A group that begins with a question mark. -/
def extended : Nat → List Char → Reading (Option (Node × Bool))
  | 0, _ => return none
  | fuel + 1, more => do
    let reader ← get
    let start := reader.place
    let inner (skipped : Nat) : Reading Node := do
      advance skipped
      enclosed fuel start
    let behind (isNegated : Bool) : Reading (Option (Node × Bool)) := do
      let node ← inner 4
      if reader.isStrict && (width? (fun _ => none) node).isNone then
        failAt start .variableWidth
      else return some (.look false isNegated node, true)
    let named (skipped : Nat) (close : Char) : Reading (Option (Node × Bool)) := do
      advance skipped
      let place := (← get).place
      let name ← takeWhile fun c => c != close && c != ')'
      if (← rest).head? != some close || name.isEmpty || name.head?.any Char.isDigit
          || !name.all Text.isWordLetter then
        failAt place (.badName name)
      advance 1
      return some (← captured fuel start (some name), true)
    match more with
    | ':' :: _ => return some (← inner 3, true)
    | '=' :: _ => return some (.look true false (← inner 3), true)
    | '!' :: _ => return some (.look true true (← inner 3), true)
    | '<' :: '=' :: _ => behind false
    | '<' :: '!' :: _ => behind true
    | '>' :: _ => return some (.atomic (← inner 3), true)
    | '#' :: _ =>
      let _ ← takeWhile (· != ')')
      if (← rest).isEmpty then failAt start .openComment
      advance 1
      return none
    | 'P' :: '<' :: _ => named 4 '>'
    | 'P' :: '=' :: _ =>
      advance 4
      let place := (← get).place
      let name ← takeWhile (· != ')')
      closeGroup start
      return some (← againNamed place name, true)
    | '<' :: c :: _ =>
      if reader.isStrict then
        advance 2
        failAt (start + 1) (.unknownForm ['?', '<', c])
      else named 3 '>'
    | '\'' :: _ =>
      if reader.isStrict then
        advance 2
        failAt (start + 1) (.unknownForm ['?', '\''])
      else named 3 '\''
    | '(' :: _ =>
      advance 3
      let name ← takeWhile (· != ')')
      advance 1
      let name := name.filter fun c => c != '<' && c != '>' && c != '\''
      let number :=
        if name.all Char.isDigit then valueIn 10 name
        else ((reader.names.find? fun entry => entry.1 = name).map Prod.snd).getD 0
      match ← enclosed fuel start with
      | .choice first second => return some (.given number first second, true)
      | node => return some (.given number node .empty, true)
    | _ =>
      let letters := more.takeWhile fun c => (ascii "aiLmsuxpndl-^").contains c
      let after := more.drop letters.length
      match after with
      | ')' :: _ =>
        if reader.isStrict && reader.place != 0 then failAt start .lateFlags
        else
          advance (letters.length + 3)
          modify fun reader => { reader with flags := withLetters reader.flags letters }
          return none
      | ':' :: _ =>
        advance (letters.length + 3)
        modify fun reader => { reader with flags := withLetters reader.flags letters }
        let node ← alternatives fuel
        closeGroup start
        modify fun later => { later with flags := reader.flags }
        return some (node, true)
      | c :: _ =>
        advance 3
        failAt (start + 1) (.unknownForm ('?' :: (letters ++ [c]).take 1))
      | [] =>
        advance (letters.length + 2)
        fail .openGroup

end

/-- A whole pattern. -/
def whole : Reading Pattern := do
  let node ← alternatives (4 * (← rest).length + 16)
  match ← rest with
  | [] =>
    let reader ← get
    return { node := node, groups := reader.groups, names := reader.names }
  | _ =>
    let place := (← get).place
    advance 1
    failAt place .strayClose

end Reading

/-- Reads a pattern. -/
def Pattern.read (isStrict : Bool) (flags : Flags) (text : List Char) : Except Fault Pattern :=
  match Reading.whole.run { rest := text, flags := flags, isStrict := isStrict } with
  | .ok (pattern, _) => .ok pattern
  | .error fault => .error fault

/-- What a strict reader says of a fault. -/
def Fault.text (fault : Fault) : List Char :=
  let at_ (text : List Char) : List Char := text ++ ascii " at position " ++ ByteText.ofNat fault.place
  match fault.cause with
  | .nothingToRepeat => at_ (ascii "nothing to repeat")
  | .repeatedTwice => at_ (ascii "multiple repeat")
  | .openGroup => at_ (ascii "missing ), unterminated subpattern")
  | .strayClose => at_ (ascii "unbalanced parenthesis")
  | .openSet => at_ (ascii "unterminated character set")
  | .loneEscape => at_ (ascii "bad escape (end of pattern)")
  | .badEscape text => at_ (ascii "bad escape \\" ++ text)
  | .badRange text => at_ (ascii "bad character range " ++ text)
  | .unknownGroup name => at_ (ascii "unknown group name '" ++ name ++ ['\''])
  | .missingGroup number => at_ (ascii "invalid group reference " ++ ByteText.ofNat number)
  | .sameName name => at_ (ascii "redefinition of group name '" ++ name ++ ['\''])
  | .unknownForm text => at_ (ascii "unknown extension " ++ text)
  | .leastAboveMost => at_ (ascii "min repeat greater than max repeat")
  | .variableWidth => ascii "look-behind requires fixed-width pattern"
  | .lateFlags => at_ (ascii "global flags not at the start of the expression")
  | .openComment => at_ (ascii "missing ), unterminated comment")
  | .badName name => at_ (ascii "bad character in group name '" ++ name ++ ['\''])

end SchemaDocs.Shell.Ordered
