import SchemaDocs.Shell.Tool.Sigil.Value
import SchemaDocs.Text.Letter
/-!
# What is done with values of signed names

Arithmetic that stays whole as long as it can, texts that count on, texts under directives, sets of
characters that are exchanged, and the search for patterns.
-/

namespace SchemaDocs.Shell.Sigil

namespace Running

/-! ## Arithmetic -/

/-- A value as an operand: whole if it is one that is kept exactly. -/
def operand (value : Value) : Value :=
  match numberOfValue value with
  | .float n => settled n
  | value => value

/-- Two numbers put together, as whole ones if both are whole. -/
def combine (wholes : Int → Int → Int) (floats : Float → Float → Float) (a b : Value) : Value :=
  match operand a, operand b with
  | .int x, .int y => whole (wholes x y)
  | x, y => .float (floats (floatOf x) (floatOf y))

/-- The number of binary digits of a number. -/
def bitsOf (n : Nat) : Nat := if n = 0 then 0 else n.log2 + 1

/-- A power. -/
def power (a b : Value) : Value :=
  match operand a, operand b with
  | .int x, .int y =>
    let size := x.natAbs
    if 0 ≤ y && (size ≤ 1 || bitsOf size * y.toNat ≤ 64) && y < 1000000 then
      let result : Int := Nat.pow size (if size ≤ 1 then min y.toNat 1 else y.toNat)
      let result := if size ≤ 1 && y = 0 then 1 else result
      whole (if x < 0 && y.toNat % 2 = 1 then -result else result)
    else settled (Float.pow (Float.ofInt x) (Float.ofInt y))
  | x, y => .float (Float.pow (floatOf x) (floatOf y))

/-- A quotient. -/
def quotient (a b : Value) : Running Value := do
  let x := operand a
  let y := operand b
  if floatOf y == 0 then failText "Illegal division by zero"
  else
    match x, y with
    | .int n, .int m =>
      if 9007199254740992 < n.natAbs && Int.emod n m = 0 then return whole (n / m)
      else return .float (Float.ofInt n / Float.ofInt m)
    | x, y => return .float (floatOf x / floatOf y)

/-- What is left of a whole number. -/
def modulus (a b : Value) : Running Value := do
  let x := intOf (operand a)
  let y := intOf (operand b)
  if y = 0 then failText "Illegal modulus zero" else return whole (Int.fmod x y)

/-- A value as a row of 64 bits. -/
def bits (value : Value) : Nat := (Int.emod (intOf value) 18446744073709551616).toNat

/-- Whether a value is a text and not a number. -/
def isText : Value → Bool
  | .text _ => true
  | .wide _ => true
  | _ => false

/-- Two rows of bits put together; those of texts character by character. -/
def combineBits (numbers : Nat → Nat → Nat) (isShort : Bool) (a b : Value) : Running Value := do
  if isText a && isText b then
    let x ← textOf a
    let y ← textOf b
    let length := if isShort then min x.length y.length else max x.length y.length
    let chars := (List.range length).map fun place =>
      Char.ofNat (numbers ((x[place]?.map Char.toNat).getD 0) ((y[place]?.map Char.toNat).getD 0))
    return .text chars
  else return whole (numbers (bits a) (bits b))

/-- A row of bits moved to one side. -/
def shifted (value : Value) (count : Int) : Value :=
  let n := bits value
  if 64 ≤ count || count ≤ -64 then .int 0
  else if 0 ≤ count then whole ((n * Nat.pow 2 count.toNat) % 18446744073709551616 : Nat)
  else whole ((n / Nat.pow 2 (-count).toNat : Nat) : Int)

/-- The order of two numbers, if they have one. -/
def numberOrder (a b : Value) : Option Ordering :=
  match numberOfValue a, numberOfValue b with
  | .int x, .int y => some (if x < y then .lt else if x = y then .eq else .gt)
  | x, y =>
    let x := floatOf x
    let y := floatOf y
    if x < y then some .lt else if x == y then some .eq else if y < x then some .gt else none

/-- The order of two texts. -/
def textOrder (a b : Value) : Running Ordering := do
  let x ← textOf a
  let y ← textOf b
  return if decide (x < y) then .lt else if x = y then .eq else .gt

/-- An order as a number. -/
def orderValue : Ordering → Value
  | .lt => .int (-1)
  | .eq => .int 0
  | .gt => .int 1

/-- The value of a sign turned around. -/
def negated (value : Value) : Running Value := do
  match value with
  | .int n => return whole (-n)
  | .float n => return .float (-n)
  | value =>
    if isText value then
      let chars ← textOf value
      match chars with
      | [] => return .int 0
      | c :: rest =>
        if looksNumeric chars then
          match numberOfText chars with
          | .int n => return whole (-n)
          | n => return .float (-(floatOf n))
        else if isNameStart c then return textual (isWide value) ('-' :: chars)
        else if c = '-' then return textual (isWide value) ('+' :: rest)
        else if c = '+' then return textual (isWide value) ('-' :: rest)
        else
          match numberOfText chars with
          | .int n => return whole (-n)
          | n => return .float (-(floatOf n))
    else
      match numberOfValue value with
      | .int n => return whole (-n)
      | n => return .float (-(floatOf n))

/-- A text so many times. -/
def repeated (value : Value) (count : Int) : Running Value := do
  let chars ← textOf value
  return textual (isWide value) (List.replicate count.toNat chars).flatten

/-- Two texts one after the other. -/
def appended (a b : Value) : Running Value := do
  let x ← textOf a
  let y ← textOf b
  if isWide a && !isWide b || !isWide a && isWide b then
    -- Bytes count as letters beside letters.
    return .wide (x ++ y)
  else return textual (isWide a) (x ++ y)

/-- Whether a type builds on another one.  Each step looks a level further up. -/
def buildsOn (name : String) : Nat → String → Running Bool
  | 0, _ => return false
  | depth + 1, type => do
    if type = name then return true
    else
      match ← global? .row (type ++ "::ISA") with
      | none => return false
      | some number =>
        let parents ← rowValues number
        let mut found := false
        for parent in parents do
          if !found then found := (← buildsOn name depth (String.ofList (← textOf parent)))
        return found

/-- The depth of types that is looked at. -/
def deepestType : Nat := 50

/-- What an operator makes of two values, the second of which does not count for those of one. -/
def operate (operator : String) (a b : Value) : Running Value := do
  let compare (holds : Ordering → Bool) : Running Value :=
    return truth ((numberOrder a b).any holds)
  let compareTexts (holds : Ordering → Bool) : Running Value := do
    return truth (holds (← textOrder a b))
  match operator with
  | "+" => return combine (· + ·) (· + ·) a b
  | "-" => return combine (· - ·) (· - ·) a b
  | "*" => return combine (· * ·) (· * ·) a b
  | "/" => quotient a b
  | "%" => modulus a b
  | "**" => return power a b
  | "." => appended a b
  | "x" => repeated a (intOf b)
  | "==" => compare (· = .eq)
  | "!=" => return truth (!((numberOrder a b).any (· = .eq)))
  | "<" => compare (· = .lt)
  | ">" => compare (· = .gt)
  | "<=" => compare (· != .gt)
  | ">=" => compare (· != .lt)
  | "<=>" => return ((numberOrder a b).map orderValue).getD .nothing
  | "eq" => compareTexts (· = .eq)
  | "ne" => compareTexts (· != .eq)
  | "lt" => compareTexts (· = .lt)
  | "gt" => compareTexts (· = .gt)
  | "le" => compareTexts (· != .gt)
  | "ge" => compareTexts (· != .lt)
  | "cmp" => return orderValue (← textOrder a b)
  | "&" => combineBits (· &&& ·) true a b
  | "|" => combineBits (· ||| ·) false a b
  | "^" => combineBits (· ^^^ ·) false a b
  | "<<" => return shifted a (intOf b)
  | ">>" => return shifted a (-(intOf b))
  | "!" => return truth (!isTrue a)
  | "~" => return whole ((18446744073709551615 - bits a : Nat) : Int)
  | "neg" => negated a
  | "xor" => return truth (isTrue a != isTrue b)
  | "isa" =>
    match ← typeOf? a with
    | some type => return truth (← buildsOn (String.ofList (← textOf b)) deepestType type)
    | none => return truth false
  | _ => return .nothing

/-! ## Counting on -/

/-- The text that follows one of letters and digits.  The characters come in the wrong order. -/
def nextChars : List Char → List Char × Option Char
  | [] => ([], none)
  | c :: rest =>
    let carry (zero one : Char) : List Char × Option Char :=
      match nextChars rest with
      | (rest, none) => if rest.isEmpty then ([zero], some one) else (zero :: rest, none)
      | (rest, some c) => (zero :: rest, some c)
    if c = 'z' then carry 'a' 'a'
    else if c = 'Z' then carry 'A' 'A'
    else if c = '9' then carry '0' '1'
    else (Char.ofNat (c.toNat + 1) :: rest, none)

/-- Whether a text counts on as one of letters and digits. -/
def countsOn (chars : List Char) : Bool :=
  !chars.isEmpty && (chars.dropWhile Char.isAlpha).all Char.isDigit

/-- The text that follows another one. -/
def nextText (chars : List Char) : List Char :=
  match nextChars chars.reverse with
  | (chars, none) => chars.reverse
  | (chars, some c) => c :: chars.reverse

/-- The value that follows another one. -/
def nextValue (value : Value) : Running Value := do
  match value with
  | .nothing => return .int 1
  | .int n => return whole (n + 1)
  | .float n => return .float (n + 1)
  | value =>
    if isText value then
      let chars ← textOf value
      if chars.isEmpty then return .int 1
      else if countsOn chars && !looksNumeric chars then return textual (isWide value) (nextText chars)
      else return combine (· + ·) (· + ·) (numberOfText chars) (.int 1)
    else return combine (· + ·) (· + ·) value (.int 1)

/-- The value before another one. -/
def valueBefore (value : Value) : Value :=
  match value with
  | .nothing => .int (-1)
  | .float n => .float (n - 1)
  | value => combine (· - ·) (· - ·) value (.int 1)

/-- The texts from one to another, or as long as that one. -/
def textsUpTo (last : List Char) : Nat → List Char → List (List Char)
  | 0, _ => []
  | fuel + 1, chars =>
    if chars = last then [chars]
    else if last.length < chars.length then []
    else chars :: textsUpTo last fuel (nextText chars)

/-- How many values a range holds at most. -/
def longestRange : Nat := 3000000

/-- Whether a range begins with a number. -/
def isNumberRange (first last : Value) : Running Bool := do
  let plain (value : Value) : Running Bool := do
    if isText value then
      let chars ← textOf value
      return looksNumeric chars && (chars.head? != some '0' || chars.length = 1)
    else return true
  if isText first && (← textOf first).isEmpty then return false
  return (← plain first) || (!isText first && !isText last)

/-- The values from one to another. -/
def rangeValues (first last : Value) : Running (List Value) := do
  if ← isNumberRange first last then
    let low := intOf first
    let high := intOf last
    if longestRange < (high - low + 1).toNat then fail (ascii "Out of memory in perl:extend")
    else return (List.range (high - low + 1).toNat).map fun (place : Nat) => .int (low + place)
  else
    let start ← textOf first
    if countsOn start then
      return (textsUpTo (← textOf last) longestRange start).map Value.text
    else return [.text start]

/-! ## Letters -/

/-- A text in capitals. -/
def upperCase (value : Value) : Running Value := do
  let chars ← textOf value
  if isWide value then return .wide (chars.map Text.upperOf).flatten else return .text (chars.map Char.toUpper)

/-- A text in small letters. -/
def lowerCase (value : Value) : Running Value := do
  let chars ← textOf value
  if isWide value then return .wide (chars.map Text.lowerOf).flatten else return .text (chars.map Char.toLower)

/-- A text whose first letter is changed. -/
def firstChanged (narrow : Char → Char) (wide : Char → List Char) (value : Value) : Running Value := do
  match ← textOf value with
  | [] => return value
  | c :: rest => if isWide value then return .wide (wide c ++ rest) else return .text (narrow c :: rest)

/-- A text with backslashes before all that means something in patterns. -/
def quoted (isWide : Bool) (chars : List Char) : List Char :=
  chars.flatMap fun c =>
    if isNamePart c || (isWide && 127 < c.toNat) then [c] else ['\\', c]

/-! ## Texts under directives -/

/-- The whole number after digits at the start of a text, and what follows it. -/
def digitsOf (text : List Char) : Option Nat × List Char :=
  let digits := text.takeWhile Char.isDigit
  if digits.isEmpty then (none, text) else (some (ByteText.valueIn 10 digits), text.drop digits.length)

/-- A whole number in the digits of a base under a directive. -/
def baseText (directive : Directive) (n : Nat) : List Char :=
  let digits := ByteText.digitsIn 2 n
  let digits := match directive.precision with
    | some least => List.replicate (least - digits.length) '0' ++ digits
    | none => digits
  let mark := if directive.has '#' && n != 0 then ['0', directive.conversion] else []
  directive.padNumber directive.precision.isNone mark digits

/-- A value under a directive. -/
def directed (directive : Directive) (value : Value) : Running (List Char) := do
  let number := numberOfValue value
  let odd : Option (List Char) := match number with
    | .float n =>
      if n != n then some (ascii "NaN")
      else if n.abs == 1.0 / 0.0 then
        some (if n < 0 then ascii "-Inf" else if directive.has '+' then ascii "+Inf" else ascii "Inf")
      else none
    | _ => none
  let isText := directive.conversion = 's' || directive.conversion = 'c'
  match odd, isText with
  | some text, false => return directive.pad text
  | _, _ =>
    match directive.conversion with
    | 's' => return directive.writeText (← textOf value)
    | 'c' => return directive.writeText [Char.ofNat (natOf value)]
    | 'd' =>
      let n := match number with
        | .float n =>
          if 9223372036854775807.0 < n then
            if n < 18446744073709551615.0 then Record.Number.bounded least (Reading.mostNatural : Int) n
            else -1
          else intOf number
        | number => intOf number
      return directive.writeSigned n
    | 'e' => return Record.Number.write directive (floatOf value)
    | 'E' => return Record.Number.write directive (floatOf value)
    | 'f' => return Record.Number.write directive (floatOf value)
    | 'F' => return Record.Number.write { directive with conversion := 'f' } (floatOf value)
    | 'g' => return Record.Number.write directive (floatOf value)
    | 'G' => return Record.Number.write directive (floatOf value)
    | 'b' => return baseText directive (bits value)
    | 'B' => return baseText directive (bits value)
    | _ => return directive.writeUnsigned (bits value)

/-- What is known while a text is made under directives. -/
structure Formatting where
  values : Array Value
  place : Nat := 0
  isWide : Bool := false

/-- The next value, or the one with a number. -/
def nextOf (state : Formatting) (number : Option Nat) : Value × Formatting :=
  match number with
  | some number => ((state.values[number - 1]?).getD .nothing, state)
  | none => ((state.values[state.place]?).getD .nothing, { state with place := state.place + 1 })

/-- A text under directives, piece by piece. -/
def formatFrom : Nat → List Char → Formatting → List (List Char) → Running (List Char × Formatting)
  | 0, _, state, pieces => return (pieces.reverse.flatten, state)
  | _ + 1, [], state, pieces => return (pieces.reverse.flatten, state)
  | fuel + 1, '%' :: '%' :: rest, state, pieces => formatFrom fuel rest state (['%'] :: pieces)
  | fuel + 1, '%' :: rest, state, pieces => do
    let (number, afterNumber) := match digitsOf rest with
      | (some n, '$' :: after) => (some n, after)
      | _ => (none, rest)
    let flags := afterNumber.takeWhile fun c => (ascii "+- #0").contains c
    let after := afterNumber.drop flags.length
    let (isVector, after) := match after with
      | 'v' :: after => (true, after)
      | after => (false, after)
    let (width, state, after) := match after with
      | '*' :: after =>
        let (value, state) := nextOf state none
        (intOf value, state, after)
      | after =>
        let (width, after) := digitsOf after
        (((width.getD 0 : Nat) : Int), state, after)
    let flags := if width < 0 then '-' :: flags else flags
    let (precision, state, after) := match after with
      | '.' :: '*' :: after =>
        let (value, state) := nextOf state none
        (if intOf value < 0 then none else some (natOf value), state, after)
      | '.' :: after =>
        let (precision, after) := digitsOf after
        (some (precision.getD 0), state, after)
      | after => (none, state, after)
    let after := after.dropWhile fun c => (ascii "hlqLVzt").contains c
    match after with
    | c :: more =>
      let conversion := if c = 'i' || c = 'D' then 'd' else if c = 'U' then 'u' else if c = 'O' then 'o' else c
      if (ascii "csduoxXeEfFgGbB").contains conversion then
        let (value, state) := nextOf state number
        let directive : Directive :=
          { flags := flags, width := width.natAbs, precision := precision, conversion := conversion }
        if isVector then
          let chars ← textOf value
          let parts := chars.map fun c => ByteText.ofNat c.toNat
          formatFrom fuel more state (directive.pad ((parts.intersperse ['.']).flatten) :: pieces)
        else
          let text ← directed directive value
          let isWide := state.isWide || (conversion = 's' && isWide value)
            || (conversion = 'c' && 255 < natOf value)
          formatFrom fuel more { state with isWide := isWide } (text :: pieces)
      else
        let taken := rest.take (rest.length - after.length)
        formatFrom fuel after state (('%' :: taken) :: pieces)
    | [] => return ((('%' :: rest) :: pieces).reverse.flatten, state)
  | fuel + 1, text, state, pieces =>
    let plain := text.takeWhile (· != '%')
    formatFrom fuel (text.drop plain.length) state (plain :: pieces)

/-- A text under directives. -/
def format (values : List Value) : Running Value := do
  match values with
  | [] => return .text []
  | form :: values =>
    let chars ← textOf form
    let (text, state) ← formatFrom (chars.length + 1) chars
      { values := values.toArray, isWide := isWide form } []
    return textual state.isWide text

/-! ## Exchanging characters -/

/-- The characters that backslashes stand for, where those that are taken as they are have a mark. -/
def translationChars : Nat → List Char → List (Char × Bool)
  | 0, _ => []
  | _ + 1, [] => []
  | fuel + 1, '\\' :: c :: rest =>
    match Reading.escapedChar? c with
    | some c => (c, true) :: translationChars fuel rest
    | none =>
      if c = 'x' then
        match rest with
        | '\x7b' :: inner =>
          let digits := inner.takeWhile (· != '\x7d')
          (Char.ofNat (ByteText.valueIn 16 digits), true)
            :: translationChars fuel (inner.drop (digits.length + 1))
        | rest =>
          let digits := (rest.take 2).takeWhile (ByteText.isDigitIn 16)
          (Char.ofNat (ByteText.valueIn 16 digits), true) :: translationChars fuel (rest.drop digits.length)
      else if ByteText.isDigitIn 8 c then
        let digits := ((c :: rest).take 3).takeWhile (ByteText.isDigitIn 8)
        (Char.ofNat (ByteText.valueIn 8 digits), true)
          :: translationChars fuel ((c :: rest).drop digits.length)
      else (c, true) :: translationChars fuel rest
  | fuel + 1, c :: rest => (c, false) :: translationChars fuel rest

/-- Characters with those between the ends of ranges. -/
def withRanges : List (Char × Bool) → List Char
  | (first, _) :: ('-', false) :: (last, _) :: rest =>
    (List.range (last.toNat + 1 - first.toNat)).map (fun (place : Nat) => Char.ofNat (first.toNat + place))
      ++ withRanges rest
  | (c, _) :: rest => c :: withRanges rest
  | [] => []

/-- The characters of a set that is written down. -/
def translationSet (text : List Char) : List Char := withRanges (translationChars (text.length + 1) text)

/-- A text with characters exchanged, and how many were found. -/
def translated (from_ into flags chars : List Char) : List Char × Nat :=
  let sought := translationSet from_
  let given := translationSet into
  let isOther := flags.contains 'c'
  let deletes := flags.contains 'd'
  let squeezes := flags.contains 's'
  let given := if given.isEmpty && !deletes then (if isOther then [] else sought) else given
  let last := given.getLast?
  let placeOf (c : Char) : Option Nat :=
    if isOther then (if sought.contains c then none else some given.length)
    else
      let place := (sought.takeWhile (· != c)).length
      if place < sought.length then some place else none
  let (taken, count, _) := chars.foldl (fun (taken, count, before) c =>
    match placeOf c with
    | none => (c :: taken, count, none)
    | some place =>
      let d : Option Char :=
        match given[place]? with
        | some d => some d
        | none => if deletes then none else if isOther && given.isEmpty then some c else last.or (some c)
      match d with
      | none => (taken, count + 1, before)
      | some d =>
        if squeezes && before = some d then (taken, count + 1, before)
        else (d :: taken, count + 1, some d)) (([], 0, none) : List Char × Nat × Option Char)
  (taken.reverse, count)

/-! ## Patterns -/

/-- What is said of a fault in a pattern. -/
def patternFault (text : List Char) (fault : Ordered.Fault) : List Char :=
  let marked (message : List Char) (place : Nat) : List Char :=
    message ++ ascii " in regex; marked by <-- HERE in m/" ++ text.take place ++ ascii " <-- HERE "
      ++ text.drop place ++ ['/']
  match fault.cause with
  | .openGroup => marked (ascii "Unmatched (") (fault.place + 1)
  | .strayClose => marked (ascii "Unmatched )") (fault.place + 1)
  | .openSet => marked (ascii "Unmatched [") (fault.place + 1)
  | .nothingToRepeat => marked (ascii "Quantifier follows nothing") fault.mark
  | .repeatedTwice => marked (ascii "Nested quantifiers") fault.mark
  | .missingGroup _ => marked (ascii "Reference to nonexistent group") fault.mark
  | .unknownGroup _ => marked (ascii "Reference to nonexistent named group") fault.place
  | .badRange range => marked (ascii "Invalid [] range \"" ++ range ++ ['"']) fault.mark
  | .loneEscape => ascii "Trailing \\ in regex m/" ++ text ++ ['/']
  | .unknownForm form =>
    marked (ascii "Sequence (" ++ form ++ ascii "...) not recognized") (fault.mark)
  | _ => marked (ascii "Sequence (?#... not terminated") fault.mark

/-- The flags of a pattern by their letters. -/
def patternFlags (flags : List Char) (isWide : Bool) : Ordered.Flags :=
  { ignoresCase := flags.contains 'i', hasLines := flags.contains 'm', dotHoldsAll := flags.contains 's'
    isSpaced := flags.contains 'x', isWide := isWide && !flags.contains 'a' }

/-- How many patterns are kept. -/
def mostPatterns : Nat := 40

/-- Reads a pattern, unless it was read before. -/
def compiled (text flags : List Char) (isWide : Bool) : Running Ordered.Pattern := do
  let key := (text, flags.filter fun c => (ascii "imsxan").contains c, isWide)
  match (← look (·.patterns)).find? fun entry => entry.1 = key with
  | some (_, pattern) => return pattern
  | none =>
    match Ordered.Pattern.read false (patternFlags flags isWide) text with
    | .ok pattern =>
      change fun machine =>
        { machine with patterns := (key, pattern) :: machine.patterns.take mostPatterns }
      return pattern
    | .error fault => fail (patternFault text fault)

/-- The text of a group of a match. -/
def groupText (matched : Matched) (number : Nat) : Value :=
  let span := if number = 0 then some (matched.found.start, matched.found.stop)
    else ((matched.found.groups[number - 1]?).join)
  match span with
  | some (start, stop) => textual matched.isWide ((matched.chars.extract start stop).toList)
  | none => .nothing

/-- The texts of all groups of a match. -/
def groupValues (matched : Matched) : List Value :=
  (List.range matched.found.groups.size).map fun (place : Nat) => groupText matched (place + 1)

/-- A text in pieces between matches of a pattern, with what the groups matched between them.  Each step
takes a piece. -/
def splitFrom (pattern : Ordered.Pattern) (chars : Array Char) (isWide : Bool) :
    Nat → Nat → Nat → Nat → List Value → List Value
  | 0, _, start, _, pieces => (textual isWide (chars.extract start chars.size).toList :: pieces).reverse
  | fuel + 1, limit, start, place, pieces =>
    let rest (_ : Unit) : Value := textual isWide (chars.extract start chars.size).toList
    if limit = 1 then (rest () :: pieces).reverse
    else
      match pattern.search chars place (place = start) with
      | none => (rest () :: pieces).reverse
      | some found =>
        if found.start = found.stop && chars.size ≤ found.start then (rest () :: pieces).reverse
        else
          let matched : Matched := { chars := chars, isWide := isWide, found := found, names := [] }
          let piece := textual isWide (chars.extract start found.start).toList
          let groups := groupValues matched
          splitFrom pattern chars isWide fuel (limit - 1) found.stop found.stop
            (groups.reverse ++ piece :: pieces)

/-- A text without blanks before it, for a split at blanks. -/
def withoutLeading (chars : List Char) : List Char := chars.dropWhile isSpaceChar

/-- Values without empty ones at the end. -/
def withoutEmptyEnd (values : List Value) : List Value :=
  (values.reverse.dropWhile fun value =>
    match value with
    | .nothing => true
    | .text [] => true
    | .wide [] => true
    | _ => false).reverse

/-- Splits a text at a pattern into so many pieces at most, if a number is given. -/
def split (pattern : Option Ordered.Pattern) (value : Value) (limit : Int) : Running (List Value) := do
  let chars ← textOf value
  let wide := isWide value
  if chars.isEmpty then return []
  else
    let blanks ← compiled (ascii "\\s+") [] wide
    let text := if pattern.isNone then withoutLeading chars else chars
    if text.isEmpty then return []
    let array := text.toArray
    let most := if limit ≤ 0 then 0 else limit.toNat
    let fuel := array.size + 2
    let values :=
      -- A limit of zero never comes down to one.
      splitFrom (pattern.getD blanks) array wide fuel (if most = 0 then fuel + 5 else most) 0 0 []
    -- A match that stands at the start makes an empty piece only if it is not empty itself.
    if limit = 0 then return withoutEmptyEnd values else return values

end Running

end SchemaDocs.Shell.Sigil
