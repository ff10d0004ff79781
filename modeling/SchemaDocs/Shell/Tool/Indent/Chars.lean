import SchemaDocs.Shell.Tool.Indent.Operate
/-!
# What texts can do

The functions that texts and bytes have: looking for parts, cutting, changing the case, filling
up, and putting values in.
-/

namespace SchemaDocs.Shell.Indent

namespace Chars

/-- The place of a part in a text, from a place on. -/
def findFrom (part : List Char) : Nat → List Char → Option Nat
  | place, [] => if part.isEmpty then some place else none
  | place, c :: rest =>
    if part.isPrefixOf (c :: rest) then some place else findFrom part (place + 1) rest

/-- The last place of a part in a text. -/
def findLast (part : List Char) : Nat → List Char → Option Nat → Option Nat
  | place, [], last => if part.isEmpty then some place else last
  | place, c :: rest, last =>
    findLast part (place + 1) rest (if part.isPrefixOf (c :: rest) then some place else last)

/-- The pieces of a text between the first occurrences of a separator, so many of them at most, with
the piece that is under way turned around.  Each step takes a character. -/
def pieces (separator : List Char) : Nat → Option Nat → List Char → List Char → List (List Char)
  | 0, _, taken, rest => [taken.reverse ++ rest]
  | _ + 1, _, taken, [] => [taken.reverse]
  | fuel + 1, most, taken, c :: rest =>
    if most = some 0 then [taken.reverse ++ c :: rest]
    else if separator.isPrefixOf (c :: rest) then
      taken.reverse :: pieces separator fuel (most.map (· - 1)) []
        ((c :: rest).drop separator.length)
    else pieces separator fuel most (c :: taken) rest

/-- A text cut at a separator, so many times at most. -/
def splitAt (separator : List Char) (most : Option Nat) (text : List Char) : List (List Char) :=
  pieces separator (text.length + 1) most [] text

/-- A text cut at a separator from its end on. -/
def splitAtEnd (separator : List Char) (most : Option Nat) (text : List Char) : List (List Char) :=
  ((splitAt separator.reverse most text.reverse).map List.reverse).reverse

/-- The words of a text, where only so many cuts are made.  Each step takes a word. -/
def wordsOf (isBlank : Char → Bool) : Nat → Option Nat → List Char → List (List Char)
  | 0, _, _ => []
  | fuel + 1, most, text =>
    let text := text.dropWhile isBlank
    if text.isEmpty then []
    else if most = some 0 then [text]
    else
      let word := text.takeWhile fun c => !isBlank c
      word :: wordsOf isBlank fuel (most.map (· - 1)) (text.drop word.length)

/-- A text with a part replaced, so many times at most. -/
def replaceAll (old new : List Char) (most : Option Nat) (text : List Char) : List Char :=
  if old.isEmpty then
    let count := most.getD (text.length + 1)
    let changed := (text.take (count - 1)).map fun c => c :: new
    if count = 0 then text
    else
      new ++ (if count ≤ text.length then changed.flatten ++ text.drop (count - 1)
        else (text.map fun c => c :: new).flatten)
  else ((splitAt old most text).intersperse new).flatten

/-- The number of times that a part occurs in a text. -/
def countOf (part text : List Char) : Nat :=
  if part.isEmpty then text.length + 1 else (splitAt part none text).length - 1

/-- Whether a character ends a line. -/
def endsLine (isBytes : Bool) (c : Char) : Bool :=
  c = '\n' || c = '\x0d' || (!isBytes && (c = '\x0b' || c = '\x0c' || c = '\x1c' || c = '\x1d'
    || c = '\x1e' || c.toNat = 0x85 || c.toNat = 0x2028 || c.toNat = 0x2029))

/-- The lines of a text, with or without what ends them.  Each step takes a line. -/
def lines (isBytes keepsEnds : Bool) : Nat → List Char → List (List Char)
  | 0, _ => []
  | _ + 1, [] => []
  | fuel + 1, text =>
    let line := text.takeWhile fun c => !endsLine isBytes c
    let (mark, rest) : List Char × List Char :=
      match text.drop line.length with
      | '\x0d' :: '\n' :: rest => (['\x0d', '\n'], rest)
      | c :: rest => ([c], rest)
      | [] => ([], [])
    (if keepsEnds then line ++ mark else line) :: lines isBytes keepsEnds fuel rest

/-- A text with every tab filled up to the next stop. -/
def withoutTabs (size : Nat) (text : List Char) : List Char :=
  (text.foldl (fun (taken, column) c =>
    if c = '\t' then
      let count := if size = 0 then 0 else size - column % size
      (List.replicate count ' ' ++ taken, column + count)
    else if c = '\n' || c = '\x0d' then (c :: taken, 0)
    else (c :: taken, column + 1)) (([] : List Char), 0)).1.reverse

/-- A text with the first letter of every word in upper case and the others in lower case. -/
def titled (text : List Char) : List Char :=
  ((text.foldl (fun ((taken, isInWord) : List (List Char) × Bool) c =>
    let isCased := Text.isUpperLetter c || Text.isLowerLetter c || Text.isLetter c
    ((if isInWord then Text.lowerOf c else Text.headOf c) :: taken, isCased))
    (([] : List (List Char)), false)).1.reverse).flatten

/-- Whether every word of a text begins with a letter in upper case and goes on in lower case. -/
def isTitled (text : List Char) : Bool :=
  let result := text.foldl (fun ((isGood, isInWord, hasLetters) : Bool × Bool × Bool) c =>
    if Text.isUpperLetter c then (isGood && !isInWord, true, true)
    else if Text.isLowerLetter c then (isGood && isInWord, true, true)
    else (isGood, false, hasLetters)) (true, false, false)
  result.1 && result.2.2

/-- A text with every letter in the other case. -/
def swapped (text : List Char) : List Char :=
  (text.map fun c => if Text.isUpperLetter c then Text.lowerOf c else Text.upperOf c).flatten

end Chars

namespace Running

/-! ## Arguments -/

/-- Arguments under the names of parameters. -/
def slotsFor (function : String) (names : List String) (arguments : List Value)
    (named : List (String × Value)) : Running (List (Option Value)) := do
  if names.length < arguments.length then
    failType (ascii (function ++ "() takes at most " ++ toString names.length ++ " argument"
      ++ (if names.length = 1 then "" else "s") ++ " (" ++ toString arguments.length ++ " given)"))
  match named.find? fun entry => !names.contains entry.1 with
  | some (name, _) =>
    failType (ascii (function ++ "() got an unexpected keyword argument '" ++ name ++ "'"))
  | none =>
    return names.zipIdx.map fun (name, place) =>
      match arguments[place]? with
      | some value => some value
      | none => (named.find? fun entry => entry.1 = name).map Prod.snd

/-- The argument at a place among some, nothing if there is none. -/
def slot (slots : List (Option Value)) (place : Nat) : Value :=
  ((slots[place]?).join).getD .nothing

/-- An argument as a whole number, or another one if there is none. -/
def intSlot (slots : List (Option Value)) (place : Nat) (other : Int) : Running Int := do
  match (slots[place]?).join with
  | none => return other
  | some .nothing => return other
  | some value =>
    match int? value with
    | some n => return n
    | none =>
      failType (ascii ("'" ++ (← typeName value) ++ "' object cannot be interpreted as an integer"))

/-- A text of the same sort as another value. -/
def alike (isBytes : Bool) (text : List Char) : Value := if isBytes then .bytes text else .text text

/-- The characters of an argument that has to be a text. -/
def charsOf (isBytes : Bool) (function : String) (value : Value) : Running (List Char) := do
  match isBytes, value with
  | false, .text text => return text
  | true, .bytes bytes => return bytes
  | true, .int n => return [Char.ofNat n.toNat]
  | true, other =>
    failType (ascii ("a bytes-like object is required, not '" ++ (← typeName other) ++ "'"))
  | false, other =>
    failType (ascii (function ++ " must be str, not " ++ (← typeName other)))

/-! ## Encodings -/

/-- The name of an encoding without what does not matter. -/
def encodingName (name : List Char) : String :=
  String.ofList ((name.map Char.toLower).filter fun c => c != '-' && c != '_' && c != ' ')

/-- The bytes of a number, the last one first. -/
def littleBytes (count code : Nat) : ByteText :=
  (List.range count).map fun place => Char.ofNat (code / Nat.pow 256 place % 256)

/-- The units of two bytes that a character is written as. -/
def units (c : Char) : List Nat :=
  if c.toNat < 65536 then [c.toNat]
  else [0xD800 + (c.toNat - 65536) / 1024, 0xDC00 + (c.toNat - 65536) % 1024]

/-- A text as bytes in an encoding. -/
def encodeAs (name errors text : List Char) : Running ByteText := do
  let limited (most : Nat) (codec : String) : Running ByteText := do
    let pieces ← text.zipIdx.mapM fun (c, place) => do
      if c.toNat < most then pure [c]
      else
        match String.ofList errors with
        | "ignore" => pure []
        | "replace" => pure ['?']
        | "xmlcharrefreplace" => pure (['&', '#'] ++ ByteText.ofNat c.toNat ++ [';'])
        | "backslashreplace" => pure (Show.inAscii [c])
        | _ =>
          fail "UnicodeEncodeError" (ascii ("'" ++ codec ++ "' codec can't encode character '")
            ++ Show.inAscii [c] ++ ascii "' in position " ++ ByteText.ofNat place
            ++ ascii (": ordinal not in range(" ++ toString most ++ ")"))
    return pieces.flatten
  match encodingName name with
  | "utf8" => return encoded text
  | "u8" => return encoded text
  | "utf" => return encoded text
  | "utf8sig" => return '\xef' :: '\xbb' :: '\xbf' :: encoded text
  | "ascii" => limited 128 "ascii"
  | "usascii" => limited 128 "ascii"
  | "latin1" => limited 256 "latin-1"
  | "iso88591" => limited 256 "latin-1"
  | "utf16le" => return (text.map fun c => (units c).flatMap (littleBytes 2)).flatten
  | "utf16be" => return (text.map fun c => (units c).flatMap fun u => (littleBytes 2 u).reverse).flatten
  | "utf16" => return '\xff' :: '\xfe' :: (text.map fun c => (units c).flatMap (littleBytes 2)).flatten
  | "utf32le" => return (text.map fun c => littleBytes 4 c.toNat).flatten
  | "utf32be" => return (text.map fun c => (littleBytes 4 c.toNat).reverse).flatten
  | "utf32" =>
    return ['\xff', '\xfe', '\x00', '\x00'] ++ (text.map fun c => littleBytes 4 c.toNat).flatten
  | _ => fail "LookupError" (ascii "unknown encoding: " ++ name)

/-- What is wrong with bytes in the usual encoding: the place and the reason, with the bytes before and
the length of what is wrong. -/
def badSequence? : Nat → Nat → ByteText → Option (Nat × Char × String × Nat)
  | 0, _, _ => none
  | _ + 1, _, [] => none
  | fuel + 1, place, c :: rest =>
    let lead := c.toNat
    let follow (count : Nat) (least most : Nat) : Option (Nat × Char × String × Nat) :=
      let taken := (rest.take count).zipIdx.takeWhile fun (d, index) =>
        if index = 0 then least ≤ d.toNat && d.toNat ≤ most else 128 ≤ d.toNat && d.toNat < 192
      if taken.length = count then badSequence? fuel (place + 1 + count) (rest.drop count)
      else if rest.length ≤ taken.length then
        some (place, c, "unexpected end of data", taken.length + 1)
      else some (place, c, "invalid continuation byte", taken.length + 1)
    if lead < 128 then badSequence? fuel (place + 1) rest
    else if lead < 0xC2 then some (place, c, "invalid start byte", 1)
    else if lead < 0xE0 then follow 1 128 191
    else if lead = 0xE0 then follow 2 0xA0 191
    else if lead = 0xED then follow 2 128 0x9F
    else if lead < 0xF0 then follow 2 128 191
    else if lead = 0xF0 then follow 3 0x90 191
    else if lead < 0xF4 then follow 3 128 191
    else if lead = 0xF4 then follow 3 128 0x8F
    else some (place, c, "invalid start byte", 1)

/-- The text of bytes in the usual encoding. -/
def decodeUsual (errors : List Char) (bytes : ByteText) : Running (List Char) := do
  match badSequence? (bytes.length + 1) 0 bytes with
  | none => return decoded bytes
  | some (place, c, reason, length) =>
    match String.ofList errors with
    | "replace" => return decoded bytes
    | "surrogateescape" => return decoded bytes
    | "ignore" => return (decoded bytes).filter fun c => c.toNat != 0xFFFD
    | "backslashreplace" => return decoded bytes
    | _ =>
      let what :=
        if length = 1 then
          ascii "byte 0x" ++ ByteText.digitsIn 16 c.toNat ++ ascii " in position " ++ ByteText.ofNat place
        else
          ascii "bytes in position " ++ ByteText.ofNat place ++ ['-'] ++ ByteText.ofNat (place + length - 1)
      fail "UnicodeDecodeError" (ascii "'utf-8' codec can't decode " ++ what ++ ascii (": " ++ reason))

/-- Numbers of two bytes put together to characters. -/
def ofUnits : Nat → List Nat → List Char
  | 0, _ => []
  | _ + 1, [] => []
  | fuel + 1, u :: v :: rest =>
    if 0xD800 ≤ u && u < 0xDC00 && 0xDC00 ≤ v && v < 0xE000 then
      Char.ofNat (65536 + (u - 0xD800) * 1024 + (v - 0xDC00)) :: ofUnits fuel rest
    else Char.ofNat u :: ofUnits fuel (v :: rest)
  | _ + 1, [u] => [Char.ofNat u]

/-- Bytes in groups of the same size, as numbers. -/
def numbersOf (size : Nat) (isLittle : Bool) : Nat → ByteText → List Nat
  | 0, _ => []
  | _ + 1, [] => []
  | fuel + 1, bytes =>
    let group := bytes.take size
    let group := if isLittle then group.reverse else group
    group.foldl (fun n c => n * 256 + c.toNat) 0 :: numbersOf size isLittle fuel (bytes.drop size)

/-- The text that bytes stand for in an encoding. -/
def decodeAs (name errors : List Char) (bytes : ByteText) : Running (List Char) := do
  let wide (size : Nat) (isLittle : Bool) (bytes : ByteText) : List Char :=
    let numbers := numbersOf size isLittle (bytes.length + 1) bytes
    if size = 2 then ofUnits (numbers.length + 1) numbers else numbers.map Char.ofNat
  match encodingName name with
  | "utf8" => decodeUsual errors bytes
  | "u8" => decodeUsual errors bytes
  | "utf8sig" =>
    decodeUsual errors (if (ascii "\xef\xbb\xbf").isPrefixOf bytes then bytes.drop 3 else bytes)
  | "latin1" => return bytes
  | "iso88591" => return bytes
  | "ascii" =>
    match bytes.zipIdx.find? fun (c, _) => 128 ≤ c.toNat with
    | none => return bytes
    | some (c, place) =>
      match String.ofList errors with
      | "ignore" => return bytes.filter fun c => c.toNat < 128
      | "replace" => return bytes.map fun c => if c.toNat < 128 then c else Char.ofNat 0xFFFD
      | _ =>
        fail "UnicodeDecodeError" (ascii "'ascii' codec can't decode byte 0x"
          ++ ByteText.digitsIn 16 c.toNat ++ ascii " in position " ++ ByteText.ofNat place
          ++ ascii ": ordinal not in range(128)")
  | "utf16le" => return wide 2 true bytes
  | "utf16be" => return wide 2 false bytes
  | "utf16" =>
    match bytes with
    | '\xff' :: '\xfe' :: rest => return wide 2 true rest
    | '\xfe' :: '\xff' :: rest => return wide 2 false rest
    | bytes => return wide 2 true bytes
  | "utf32le" => return wide 4 true bytes
  | "utf32be" => return wide 4 false bytes
  | _ => fail "LookupError" (ascii "unknown encoding: " ++ name)

/-! ## Putting values in -/

/-- The steps behind the name of a field: attributes and indices. -/
def fieldSteps : Nat → List Char → List (Bool × List Char)
  | 0, _ => []
  | _ + 1, [] => []
  | fuel + 1, '.' :: rest =>
    let name := rest.takeWhile fun c => c != '.' && c != '['
    (true, name) :: fieldSteps fuel (rest.drop name.length)
  | fuel + 1, '[' :: rest =>
    let name := rest.takeWhile (· != ']')
    (false, name) :: fieldSteps fuel (rest.drop (name.length + 1))
  | _ + 1, _ => []

/-- A text with values put in between braces.  Each step takes a field. -/
def filledIn (caller : Caller) (member : Value → String → Running Value)
    (arguments : List Value) (look : List Char → Running Value) :
    Nat → Nat → List Char → Running (List Char × Nat)
  | 0, next, _ => return ([], next)
  | fuel + 1, next, text => do
    let before := text.takeWhile fun c => c != '\x7b' && c != '\x7d'
    match text.drop before.length with
    | [] => return (before, next)
    | '\x7b' :: '\x7b' :: rest =>
      let (later, next) ← filledIn caller member arguments look fuel next rest
      return (before ++ '\x7b' :: later, next)
    | '\x7d' :: '\x7d' :: rest =>
      let (later, next) ← filledIn caller member arguments look fuel next rest
      return (before ++ '\x7d' :: later, next)
    | '\x7d' :: _ => fail "ValueError" (ascii "Single '\x7d' encountered in format string")
    | _ :: rest =>
      let length := fieldLength (rest.length + 1) 0 0 rest
      match rest.drop length with
      | [] =>
        fail "ValueError" (ascii (if rest.isEmpty then "Single '\x7b' encountered in format string"
          else "expected '\x7d' before end of string"))
      | _ :: after =>
        let field := rest.take length
        let name := field.takeWhile fun c => c != '!' && c != ':'
        let tail := field.drop name.length
        let (conversion, tail) : Option Char × List Char :=
          match tail with
          | '!' :: c :: tail => (some c, tail)
          | tail => (none, tail)
        let format := tail.drop 1
        let base := name.takeWhile fun c => c != '.' && c != '['
        let steps := fieldSteps (name.length + 1) (name.drop base.length)
        let (value, next) ← do
          if base.isEmpty then
            match arguments[next]? with
            | some value => pure (value, next + 1)
            | none =>
              fail "IndexError" (ascii "Replacement index " ++ ByteText.ofNat next
                ++ ascii " out of range for positional args tuple")
          else if base.all Char.isDigit then
            let place := ByteText.valueIn 10 base
            match arguments[place]? with
            | some value => pure (value, next)
            | none =>
              fail "IndexError" (ascii "Replacement index " ++ base
                ++ ascii " out of range for positional args tuple")
          else pure (← look base, next)
        let value ← steps.foldlM (fun value (isAttribute, name) => do
          if isAttribute then member value (String.ofList name)
          else if name.all Char.isDigit && !name.isEmpty then
            itemOf caller value (.int (ByteText.valueIn 10 name : Nat))
          else itemOf caller value (.text name)) value
        let value ← match conversion with
          | some 'r' => do pure (Value.text (← shown caller value))
          | some 's' => do pure (Value.text (← plain caller value))
          | some 'a' => do pure (Value.text (Show.inAscii (← shown caller value)))
          | _ => pure value
        let (format, next) ← filledIn caller member arguments look fuel next format
        let shownText ← formatted caller value format
        let (later, next) ← filledIn caller member arguments look fuel next after
        return (before ++ shownText ++ later, next)
where
  /-- The length of a field up to the brace that closes it. -/
  fieldLength : Nat → Nat → Nat → List Char → Nat
    | 0, _, length, _ => length
    | _ + 1, _, length, [] => length
    | fuel + 1, depth, length, c :: rest =>
      if c = '\x7b' then fieldLength fuel (depth + 1) (length + 1) rest
      else if c = '\x7d' then
        if depth = 0 then length else fieldLength fuel (depth - 1) (length + 1) rest
      else fieldLength fuel depth (length + 1) rest

/-! ## Functions of texts -/

/-- The names of the functions that texts have. -/
def textFunctions : List String :=
  ["capitalize", "casefold", "center", "count", "encode", "endswith", "expandtabs", "find",
   "format", "format_map", "index", "isalnum", "isalpha", "isascii", "isdecimal", "isdigit",
   "isidentifier", "islower", "isnumeric", "isprintable", "isspace", "istitle", "isupper", "join",
   "ljust", "lower", "lstrip", "maketrans", "partition", "removeprefix", "removesuffix", "replace",
   "rfind", "rindex", "rjust", "rpartition", "rsplit", "rstrip", "split", "splitlines",
   "startswith", "strip", "swapcase", "title", "translate", "upper", "zfill"]

/-- The names of the functions that bytes have. -/
def bytesFunctions : List String :=
  (textFunctions.filter fun name =>
    !(["casefold", "encode", "format", "format_map", "isdecimal", "isidentifier", "isnumeric",
      "isprintable"].contains name)) ++ ["decode", "hex", "fromhex"]

/-- Whether a blank is one for texts or bytes. -/
def isBlankFor (isBytes : Bool) (c : Char) : Bool :=
  isSpaceChar c || (!isBytes && (Text.isBlank c || ('\x1c' ≤ c && c ≤ '\x1f')))

/-- A text without some characters at its ends. -/
def trimmed (atStart atEnd : Bool) (drops : Char → Bool) (text : List Char) : List Char :=
  let text := if atStart then text.dropWhile drops else text
  if atEnd then (text.reverse.dropWhile drops).reverse else text

/-- The part of a text between two places that are counted like indices. -/
def window (caller : Caller) (text : List Char) (start stop : Value) :
    Running (List Char × Nat) := do
  let count := text.length
  let bound (value : Value) (other : Int) : Running Int := do
    match value with
    | .nothing => return other
    | value =>
      match ← placeOf? caller value with
      | some n => return if n < 0 then max 0 (n + count) else n
      | none =>
        failType (ascii "slice indices must be integers or None or have an __index__ method")
  let first ← bound start 0
  let last ← bound stop count
  let last := min last count
  return ((text.take last.toNat).drop first.toNat, first.toNat)

/-- Calls a function of a text or of bytes. -/
def callChars (caller : Caller) (member : Value → String → Running Value) (isBytes : Bool)
    (text : List Char) (name : String) (arguments : List Value) (named : List (String × Value)) :
    Running Value := do
  let wrap (text : List Char) : Value := alike isBytes text
  let slots (names : List String) : Running (List (Option Value)) :=
    slotsFor name names arguments named
  let upper (text : List Char) : List Char :=
    if isBytes then text.map Char.toUpper else (text.map Text.upperOf).flatten
  let lower (text : List Char) : List Char :=
    if isBytes then text.map Char.toLower else (text.map Text.lowerOf).flatten
  let chars (value : Value) : Running (List Char) := charsOf isBytes (name ++ "() argument 1") value
  let isWide := !isBytes
  let all (holds : Char → Bool) : Running Value := return .bool (!text.isEmpty && text.all holds)
  let search (isLast mustFind : Bool) : Running Value := do
    let slots ← slots ["sub", "start", "end"]
    let part ← charsOf isBytes (if isBytes then name else name ++ "() argument 1") (slot slots 0)
    let (part', offset) ← window caller text (slot slots 1) (slot slots 2)
    let found := if isLast then Chars.findLast part 0 part' none else Chars.findFrom part 0 part'
    match found with
    | some place => return .int (place + offset : Nat)
    | none =>
      if mustFind then
        fail "ValueError" (ascii (if isBytes then "subsection not found" else "substring not found"))
      else return .int (-1)
  let ends (isStart : Bool) : Running Value := do
    let slots ← slots ["prefix", "start", "end"]
    let (part, _) ← window caller text (slot slots 1) (slot slots 2)
    let test (value : Value) : Running Bool := do
      let one ← match isBytes, value with
        | false, .text one => pure one
        | true, .bytes one => pure one
        | _, other =>
          let sort := if isBytes then "bytes" else "str"
          failType (ascii (name ++ " first arg must be " ++ sort ++ " or a tuple of " ++ sort ++ ", not "
            ++ (← typeName other)))
      return if isStart then one.isPrefixOf part else one.isSuffixOf part
    match slot slots 0 with
    | .tuple options => return .bool (← options.anyM test)
    | one => return .bool (← test one)
  let fill (side : Char) : Running Value := do
    let slots ← slots ["width", "fillchar"]
    let width ← intSlot slots 0 0
    let mark ← match (slots[1]?).join with
      | none => pure ' '
      | some value => do
        match ← chars value with
        | [c] => pure c
        | _ => failType (ascii "The fill character must be exactly one character long")
    let missing := width.toNat - text.length
    let left :=
      if side = '<' then 0
      else if side = '>' then missing
      else missing / 2 + (if missing % 2 = 1 && width % 2 = 1 then 1 else 0)
    return wrap (List.replicate left mark ++ text ++ List.replicate (missing - left) mark)
  let strip (atStart atEnd : Bool) : Running Value := do
    let slots ← slots ["chars"]
    match slot slots 0 with
    | .nothing => return wrap (trimmed atStart atEnd (isBlankFor isBytes) text)
    | value =>
      let drops ← match isBytes, value with
        | false, .text drops => pure drops
        | true, .bytes drops => pure drops
        | false, _ => failType (ascii (name ++ " arg must be None or str"))
        | true, other =>
          failType (ascii ("a bytes-like object is required, not '" ++ (← typeName other) ++ "'"))
      return wrap (trimmed atStart atEnd drops.contains text)
  let cut (fromEnd : Bool) : Running Value := do
    let slots ← slots ["sep", "maxsplit"]
    let most ← intSlot slots 1 (-1)
    let most := if most < 0 then none else some most.toNat
    let parts ← match slot slots 0 with
      | .nothing =>
        let isBlank := isBlankFor isBytes
        if fromEnd then
          pure (((Chars.wordsOf isBlank (text.length + 1) most text.reverse).map List.reverse).reverse)
        else pure (Chars.wordsOf isBlank (text.length + 1) most text)
      | value => do
        let separator ← match isBytes, value with
          | false, .text separator => pure separator
          | true, .bytes separator => pure separator
          | false, other => failType (ascii ("must be str or None, not " ++ (← typeName other)))
          | true, other =>
            failType (ascii ("a bytes-like object is required, not '" ++ (← typeName other) ++ "'"))
        if separator.isEmpty then fail "ValueError" (ascii "empty separator")
        else if fromEnd then pure (Chars.splitAtEnd separator most text)
        else pure (Chars.splitAt separator most text)
    list (parts.map wrap)
  let parted (fromEnd : Bool) : Running Value := do
    let separator ← chars (slot (← slots ["sep"]) 0)
    if separator.isEmpty then fail "ValueError" (ascii "empty separator")
    else
      let parts :=
        if fromEnd then Chars.splitAtEnd separator (some 1) text
        else Chars.splitAt separator (some 1) text
      match parts with
      | [first, second] => return .tuple [wrap first, wrap separator, wrap second]
      | _ =>
        return .tuple (if fromEnd then [wrap [], wrap [], wrap text] else [wrap text, wrap [], wrap []])
  match name with
  | "upper" => return wrap (upper text)
  | "lower" => return wrap (lower text)
  | "casefold" =>
    return wrap ((text.map fun c => if c.toNat = 0xDF then ['s', 's'] else Text.lowerOf c).flatten)
  | "swapcase" => return wrap (Chars.swapped text)
  | "title" => return wrap (Chars.titled text)
  | "capitalize" =>
    match text with
    | [] => return wrap []
    | c :: rest =>
      return wrap ((if isBytes then [c.toUpper] else Text.headOf c) ++ lower rest)
  | "strip" => strip true true
  | "lstrip" => strip true false
  | "rstrip" => strip false true
  | "split" => cut false
  | "rsplit" => cut true
  | "partition" => parted false
  | "rpartition" => parted true
  | "find" => search false false
  | "rfind" => search true false
  | "index" => search false true
  | "rindex" => search true true
  | "startswith" => ends true
  | "endswith" => ends false
  | "ljust" => fill '<'
  | "rjust" => fill '>'
  | "center" => fill '^'
  | "count" =>
    let slots ← slots ["sub", "start", "end"]
    let part ← chars (slot slots 0)
    let (text, _) ← window caller text (slot slots 1) (slot slots 2)
    return .int (Chars.countOf part text)
  | "replace" =>
    let slots ← slots ["old", "new", "count"]
    if arguments.length < 2 then
      failType (ascii ("replace expected at least 2 arguments, got " ++ toString arguments.length))
    let old ← charsOf isBytes "replace() argument 1" (slot slots 0)
    let new ← charsOf isBytes "replace() argument 2" (slot slots 1)
    let most ← intSlot slots 2 (-1)
    return wrap (Chars.replaceAll old new (if most < 0 then none else some most.toNat) text)
  | "join" =>
    let values ← items caller (slot (← slots ["iterable"]) 0)
    let texts ← values.zipIdx.mapM fun (value, place) => do
      match isBytes, value with
      | false, .text one => pure one
      | true, .bytes one => pure one
      | _, other =>
        let sort := if isBytes then "a bytes-like object is required, " else "expected str instance, "
        let kind ← typeName other
        failType (ascii ("sequence item " ++ toString place ++ ": " ++ (if isBytes then "expected a bytes-like object, " else sort)
          ++ kind ++ " found"))
    return wrap ((texts.intersperse text).flatten)
  | "splitlines" =>
    let slots ← slots ["keepends"]
    let keeps ← truth caller (slot slots 0)
    list ((Chars.lines isBytes keeps (text.length + 1) text).map wrap)
  | "expandtabs" =>
    let size ← intSlot (← slots ["tabsize"]) 0 8
    return wrap (Chars.withoutTabs size.toNat text)
  | "zfill" =>
    let width ← intSlot (← slots ["width"]) 0 0
    let zeros := List.replicate (width.toNat - text.length) '0'
    match text with
    | c :: rest =>
      return wrap (if c = '-' || c = '+' then c :: (zeros ++ rest) else zeros ++ text)
    | [] => return wrap zeros
  | "removeprefix" =>
    let part ← chars (slot (← slots ["prefix"]) 0)
    return wrap (if part.isPrefixOf text then text.drop part.length else text)
  | "removesuffix" =>
    let part ← chars (slot (← slots ["suffix"]) 0)
    return wrap (if part.isSuffixOf text then text.take (text.length - part.length) else text)
  | "isalpha" => all fun c => if isWide then Text.isLetter c else c.isAlpha
  | "isalnum" => all fun c => if isWide then Text.isLetter c || Text.isNumeral c else c.isAlphanum
  | "isdigit" => all fun c => if isWide then (Text.decimalValue? c).isSome || (c.toNat ≥ 128 && Text.isNumeral c && c.toNat < 0x2500) else c.isDigit
  | "isdecimal" => all fun c => (Text.decimalValue? c).isSome
  | "isnumeric" => all Text.isNumeral
  | "isspace" => all (isBlankFor isBytes)
  | "isascii" => return .bool (text.all fun c => c.toNat < 128)
  | "isprintable" =>
    return .bool (text.all fun c => c = ' ' || (Text.isPrintable c && !Text.isBlank c && 31 < c.toNat))
  | "isupper" =>
    return .bool (text.any Text.isUpperLetter && !text.any Text.isLowerLetter)
  | "islower" =>
    return .bool (text.any Text.isLowerLetter && !text.any Text.isUpperLetter)
  | "istitle" => return .bool (Chars.isTitled text)
  | "isidentifier" =>
    match text with
    | c :: rest => return .bool ((c = '_' || Text.isLetter c) && rest.all Text.isWordLetter)
    | [] => return .bool false
  | "encode" =>
    let slots ← slots ["encoding", "errors"]
    let name ← match slot slots 0 with
      | .text name => pure name
      | _ => pure (ascii "utf-8")
    let errors ← match slot slots 1 with
      | .text errors => pure errors
      | _ => pure (ascii "strict")
    return .bytes (← encodeAs name errors text)
  | "decode" =>
    let slots ← slots ["encoding", "errors"]
    let name ← match slot slots 0 with
      | .text name => pure name
      | _ => pure (ascii "utf-8")
    let errors ← match slot slots 1 with
      | .text errors => pure errors
      | _ => pure (ascii "strict")
    return .text (← decodeAs name errors text)
  | "hex" =>
    let digits := text.map fun c =>
      let digits := ByteText.digitsIn 16 c.toNat
      List.replicate (2 - digits.length) '0' ++ digits
    match slot (← slots ["sep"]) 0 with
    | .text separator => return .text ((digits.intersperse separator).flatten)
    | _ => return .text digits.flatten
  | "format" =>
    let look (key : List Char) : Running Value := do
      match named.find? fun entry => entry.1.toList = key with
      | some (_, value) => return value
      | none => raise (← makeException "KeyError" [.text key])
    let (result, _) ← filledIn caller member arguments look (text.length + 1) 0 text
    return .text result
  | "format_map" =>
    let table := slot (← slots ["mapping"]) 0
    let look (key : List Char) : Running Value := itemOf caller table (.text key)
    let (result, _) ← filledIn caller member [] look (text.length + 1) 0 text
    return .text result
  | "translate" =>
    let table := slot (← slots ["table"]) 0
    match isBytes, table with
    | true, .bytes map =>
      return wrap (text.map fun c => (map[c.toNat]?).getD c)
    | _, _ =>
      let pieces ← text.mapM fun c => do
        match ← attempt (itemOf caller table (.int c.toNat)) with
        | .ok .nothing => pure []
        | .ok (.int n) => pure [Char.ofNat n.toNat]
        | .ok (.text piece) => pure piece
        | _ => pure [c]
      return wrap pieces.flatten
  | _ => fail "AttributeError" (ascii ("'str' object has no attribute '" ++ name ++ "'"))

/-- A table that characters are replaced by. -/
def replacementTable (arguments : List Value) : Running Value := do
  let entry (table : Table) (c : Char) (value : Value) : Table :=
    table.insert (.int c.toNat) (.int c.toNat) value
  match arguments with
  | [.object number] =>
    match ← objectAt number with
    | .table _ given =>
      let table := given.entries.foldl (fun (table : Table) (key, value) =>
        match key with
        | .text [c] => entry table c value
        | .int n => table.insert (.int n) (.int n) value
        | _ => table) {}
      make (.table .plain table)
    | _ => failType (ascii "if you give only one argument to maketrans it must be a dict")
  | .text xs :: .text ys :: rest =>
    if xs.length != ys.length then
      fail "ValueError" (ascii "the first two maketrans arguments must have equal length")
    let table := (xs.zip ys).foldl (fun table (x, y) => entry table x (.int y.toNat)) ({} : Table)
    let table := match rest with
      | .text zs :: _ => zs.foldl (fun table z => entry table z .nothing) table
      | _ => table
    make (.table .plain table)
  | .bytes xs :: .bytes ys :: _ =>
    let map := (List.range 256).map fun code =>
      match (xs.zip ys).reverse.find? fun (x, _) => x.toNat = code with
      | some (_, y) => y
      | none => Char.ofNat code
    return .bytes map
  | _ => failType (ascii "if you give only one argument to maketrans it must be a dict")

end Running

end SchemaDocs.Shell.Indent
