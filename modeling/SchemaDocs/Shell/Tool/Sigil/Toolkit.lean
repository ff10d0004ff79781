import SchemaDocs.Shell.Tool.Checksum
import SchemaDocs.Shell.Tool.Encoding
import SchemaDocs.Shell.Tool.Sigil.Place
/-!
# Libraries of signed names

Functions and types that a program of signed names finds ready: sums and choices of lists, what
values are, rounding, moments, paths, texts of data structures, options of commands, and codes for
bytes.
-/

namespace SchemaDocs.Shell.Sigil

namespace Running

/-! ## Constants -/

/-- The value of a constant of a library. -/
def callConstant (name : String) : Running (Option Value) := do
  let number (n : Int) : Running (Option Value) := return some (.int n)
  match name with
  | "LOCK_SH" => number 1
  | "LOCK_EX" => number 2
  | "LOCK_NB" => number 4
  | "LOCK_UN" => number 8
  | "SEEK_SET" => number 0
  | "SEEK_CUR" => number 1
  | "SEEK_END" => number 2
  | "O_RDONLY" => number 0
  | "O_WRONLY" => number 1
  | "O_RDWR" => number 2
  | "O_CREAT" => number 64
  | "O_EXCL" => number 128
  | "O_TRUNC" => number 512
  | "O_APPEND" => number 1024
  | "INT_MAX" => number 2147483647
  | "INT_MIN" => number (-2147483648)
  | "UINT_MAX" => number 4294967295
  | "LONG_MAX" => number most
  | "LONG_MIN" => number least
  | "CHAR_BIT" => number 8
  | "EXIT_SUCCESS" => number 0
  | "EXIT_FAILURE" => number 1
  | "DBL_MAX" => return some (.float 1.7976931348623157e308)
  | "DBL_MIN" => return some (.float 2.2250738585072014e-308)
  | "DBL_EPSILON" => return some (.float 2.220446049250313e-16)
  | "ENOENT" => number 2
  | "EINTR" => number 4
  | "EACCES" => number 13
  | "EEXIST" => number 17
  | "EPIPE" => number 32
  | "SIGINT" => number 2
  | "SIGKILL" => number 9
  | "SIGALRM" => number 14
  | "SIGTERM" => number 15
  | "WNOHANG" => number 1
  | _ => return none

/-! ## Lists -/

/-- The sum of values. -/
def sumOf (values : List Value) : Running Value := do
  let mut sum : Value := .int 0
  for value in values do
    sum ← operate "+" sum value
  return sum

/-- The product of values. -/
def productOf (values : List Value) : Running Value := do
  let mut product : Value := .int 1
  for value in values do
    product ← operate "*" product value
  return product

/-- The first of the values that come before or behind all others. -/
def extreme (comesFirst : Value → Value → Running Bool) : List Value → Running Value
  | [] => return .nothing
  | first :: rest => do
    let mut best := first
    for value in rest do
      if ← comesFirst value best then best := value
    return best

/-- The values that no value before them has the text of. -/
def distinct (asNumbers : Bool) (values : List Value) : Running (List Value) := do
  let mut known : Std.HashMap (List Char) Unit := ∅
  let mut kept : List Value := []
  for value in values do
    let key ← textOf (if asNumbers then numberOfValue value else value)
    if !(known.contains key) then
      known := known.insert key ()
      kept := value :: kept
  return kept.reverse

/-- Values in an order that chance gives. -/
def shuffled : Nat → List Value → Running (List Value)
  | 0, values => return values
  | _, [] => return []
  | fuel + 1, values => do
    let place := min ((← chance) * Float.ofNat values.length).toUInt64.toNat (values.length - 1)
    let chosen := (values[place]?).getD .nothing
    return chosen :: (← shuffled fuel (values.take place ++ values.drop (place + 1)))

/-- Values two by two. -/
def pairsOf : List Value → List (Value × Value)
  | [] => []
  | [first] => [(first, .nothing)]
  | first :: second :: rest => (first, second) :: pairsOf rest

/-- The elements of several rows by their places. -/
def zipped (isShort interleaves : Bool) (rows : List Value) : Running (List Value) := do
  let lists ← rows.mapM fun value =>
    match value with
    | .reference number => rowValues number
    | _ => pure []
  let sizes := lists.map List.length
  let size := if isShort then sizes.foldl min ((sizes.head?).getD 0) else sizes.foldl max 0
  let columns := (List.range size).map fun place => lists.map fun list => (list[place]?).getD .nothing
  if interleaves then return columns.flatten
  else columns.mapM fun column => do return .reference (← row column)

/-! ## Paths -/

/-- The part of a path behind its directories, where slashes at its end do not count. -/
def baseName (path : List Char) : List Char :=
  let trimmed := (path.reverse.dropWhile (· = '/')).reverse
  if trimmed.isEmpty then (if path.isEmpty then [] else ['/'])
  else (trimmed.reverse.takeWhile (· != '/')).reverse

/-- The directory of a path. -/
def directoryName (path : List Char) : List Char :=
  let trimmed := (path.reverse.dropWhile (· = '/')).reverse
  if trimmed.isEmpty then (if path.isEmpty then ['.'] else ['/'])
  else
    let directory := (trimmed.reverse.dropWhile (· != '/')).dropWhile (· = '/') |>.reverse
    if directory.isEmpty then (if trimmed.contains '/' then ['/'] else ['.']) else directory

/-- A path with what does not count in it taken out. -/
def tidyPath (path : List Char) : List Char :=
  let isWhole := path.head? = some '/'
  let steps := (ByteText.splitAt '/' path).filter fun step => !(step.isEmpty || step = ['.'])
  let inner := (steps.intersperse ['/']).flatten
  if isWhole then '/' :: inner else if inner.isEmpty then (if path.isEmpty then [] else ['.']) else inner

/-- A text without the first of some endings that it has, and that ending.  The endings may be patterns. -/
def withoutSuffix (arePatterns : Bool) (name : List Char) : List Value → Running (List Char × List Char)
  | [] => return (name, [])
  | value :: rest => do
    let text ← textOf value
    let pattern ← compiled (ascii "(?:" ++ (if arePatterns then text else quoted false text) ++ ascii ")\\z")
      [] false
    match pattern.search name.toArray 0 with
    | some found =>
      if 0 < found.start && found.start < name.length then
        return (name.take found.start, name.drop found.start)
      else withoutSuffix arePatterns name rest
    | none => withoutSuffix arePatterns name rest

/-- The directory of the program as a path. -/
def currentPath : Running (List Char) := do return Filing.pathOf (← program read).directory

/-- A path from the root on. -/
def fullPath (path : List Char) : Running (List Char) := do
  if path.head? = some '/' then return tidyPath path
  else return tidyPath ((← currentPath) ++ ['/'] ++ path)

/-- The directories of a path, one by one, each with those before it. -/
def growingPaths (path : List Char) : List (List Char) :=
  let steps := (ByteText.splitAt '/' path).filter fun step => !step.isEmpty
  let start := if path.head? = some '/' then ['/'] else []
  (List.range steps.length).map fun (place : Nat) =>
    start ++ ((steps.take (place + 1)).intersperse ['/']).flatten

/-! ## Faults of callers -/

/-- A value in the list of a call that a message shows. -/
def shownArgument (value : Value) : Running (List Char) := do
  match value with
  | .nothing => return ascii "undef"
  | .text chars => return if looksNumeric chars then chars else ['"'] ++ chars ++ ['"']
  | .wide chars => return ['"'] ++ chars ++ ['"']
  | value => textOf value

/-- The calls that are under way, for a message. -/
def callsText (file : List Char) : List Frame → Running (List Char)
  | [] => return []
  | frame :: rest => do
    let shown ← (← rowValues frame.row).mapM shownArgument
    let line := ['\t'] ++ frame.function.toList ++ ['('] ++ (shown.intersperse (ascii ", ")).flatten
      ++ ascii ") called at " ++ file ++ ascii " line " ++ ByteText.ofNat frame.line ++ ['\n']
    return line ++ (← callsText file rest)

/-- A message with the place that a function was called from, or with all calls that are under way. -/
def blamed (isLong : Bool) (values : List Value) : Running Value := do
  match values with
  | [.reference number] => return .reference number
  | values =>
    let text := (← values.mapM textOf).flatten
    let state ← machine
    let place (line : Nat) : List Char :=
      ascii " at " ++ state.file ++ ascii " line " ++ ByteText.ofNat line
    let here ← whereabouts
    -- What was read last is told behind the place.
    let own := place state.line
    let reading := here.drop own.length
    match isLong, state.frames.find? fun frame => frame.package != state.package with
    | false, some frame => return .text (text ++ place frame.line ++ reading)
    | _, _ => return .text (text ++ here ++ (← callsText state.file state.frames))

/-! ## Letters and bytes -/

/-- A coding of letters by its name. -/
inductive Coding where
  | letters | narrow | sevenBits | pairs (isBigFirst : Option Bool)

/-- The coding with a name. -/
def coding? (name : List Char) : Option Coding :=
  match String.ofList ((name.map Char.toLower).filter fun c => c != '-' && c != '_') with
  | "utf8" => some .letters
  | "utf8strict" => some .letters
  | "latin1" => some .narrow
  | "iso88591" => some .narrow
  | "ascii" => some .sevenBits
  | "usascii" => some .sevenBits
  | "utf16" => some (.pairs none)
  | "utf16be" => some (.pairs (some true))
  | "utf16le" => some (.pairs (some false))
  | _ => none

/-- A letter as one or two units of sixteen bits. -/
def unitsOf (c : Char) : List Nat :=
  let n := c.toNat
  if n < 65536 then [n] else [55296 + (n - 65536) / 1024, 56320 + (n - 65536) % 1024]

/-- Letters from units of sixteen bits. -/
def lettersOfUnits : List Nat → List Char
  | [] => []
  | [unit] => [Char.ofNat unit]
  | first :: second :: rest =>
    if 55296 ≤ first && first < 56320 && 56320 ≤ second && second < 57344 then
      Char.ofNat (65536 + (first - 55296) * 1024 + (second - 56320)) :: lettersOfUnits rest
    else Char.ofNat first :: lettersOfUnits (second :: rest)

/-- Letters as bytes. -/
def encodedBy (coding : Coding) (chars : List Char) : List Char :=
  match coding with
  | .letters => encodedText chars
  | .narrow => chars.map fun c => if c.toNat < 256 then c else '?'
  | .sevenBits => chars.map fun c => if c.toNat < 128 then c else '?'
  | .pairs isBigFirst =>
    let bytes (unit : Nat) : List Char :=
      if isBigFirst = some false then [Char.ofNat (unit % 256), Char.ofNat (unit / 256)]
      else [Char.ofNat (unit / 256), Char.ofNat (unit % 256)]
    (if isBigFirst.isNone then bytes 65279 else []) ++ (chars.flatMap unitsOf).flatMap bytes

/-- Units of sixteen bits from bytes. -/
def unitsOfBytes (isBigFirst : Bool) : List Char → List Nat
  | a :: b :: rest =>
    (if isBigFirst then a.toNat * 256 + b.toNat else b.toNat * 256 + a.toNat)
      :: unitsOfBytes isBigFirst rest
  | _ => []

/-- Letters from bytes. -/
def decodedBy (coding : Coding) (bytes : List Char) : List Char :=
  match coding with
  | .letters => decodedText bytes
  | .narrow => bytes
  | .sevenBits => bytes.map fun c => if c.toNat < 128 then c else Char.ofNat 65533
  | .pairs (some isBigFirst) => lettersOfUnits (unitsOfBytes isBigFirst bytes)
  | .pairs none =>
    match bytes with
    | '\xff' :: '\xfe' :: rest => lettersOfUnits (unitsOfBytes false rest)
    | '\xfe' :: '\xff' :: rest => lettersOfUnits (unitsOfBytes true rest)
    | bytes => lettersOfUnits (unitsOfBytes true bytes)

/-- Bytes in letters of sixty-four kinds, in lines with some ending. -/
def sixtyFourText (ending bytes : List Char) : List Char :=
  let text := Tool.Alphabet.sixtyFour.encode bytes
  let lines := groupsOf 76 (text.length + 1) text
  (lines.map fun line => line ++ ending).flatten

/-- The digest with a name of some bytes. -/
def digest? (name : String) (bytes : List Char) : Option (List Nat) :=
  match name with
  | "md5" => some (Digest.md5 bytes)
  | "sha1" => some (Digest.sha1 bytes)
  | "sha224" => some (Digest.sha224 bytes)
  | "sha256" => some (Digest.sha256 bytes)
  | "sha384" => some (Digest.sha384 bytes)
  | "sha512" => some (Digest.sha512 bytes)
  | _ => none

/-- A digest as a value in one of three forms. -/
def digestValue (form : String) (bytes : List Nat) : Value :=
  let chars := bytes.map Char.ofNat
  match form with
  | "hex" => .text (Digest.hex bytes)
  | "base64" => .text ((Tool.Alphabet.sixtyFour.encode chars).filter (· != '='))
  | _ => .text chars

/-! ## Lines of some width -/

/-- A text with its tabs filled up by blanks. -/
def withoutTabs (text : List Char) : List Char :=
  (text.foldl (fun ((taken, column) : List Char × Nat) c =>
    if c = '\t' then (List.replicate (8 - column % 8) ' ' ++ taken, column + (8 - column % 8))
    else if c = '\n' then (c :: taken, 0)
    else (c :: taken, column + 1)) ([], 0)).1.reverse

/-- A text with blanks before stops put together to tabs. -/
def withTabs (text : List Char) : List Char :=
  let line (text : List Char) : List Char :=
    let text := withoutTabs text
    let parts := groupsOf 8 (text.length + 1) text
    let shorten (part : List Char) : List Char :=
      let kept := (part.reverse.dropWhile (· = ' ')).reverse
      if kept.length + 2 ≤ part.length then kept ++ ['\t'] else part
    match parts.reverse with
    | [] => []
    | last :: before =>
      let last := if last.length = 8 then (if last.all (· = ' ') then ['\t'] else shorten last) else last
      (before.reverse.map shorten).flatten ++ last
  ((ByteText.splitAt '\n' text).map line).intersperse ['\n'] |>.flatten

/-- The part of a text that a line takes, what ends the line, and what follows. -/
def lineOfWidth (width : Nat) (text : List Char) : Option (List Char × List Char × List Char) :=
  let longest := ((text.take width).takeWhile (· != '\n')).length
  let sizes := (List.range (longest + 1)).reverse
  sizes.findSome? fun size =>
    match text.drop size with
    | [] => some (text.take size, [], [])
    | c :: rest => if isSpaceChar c then some (text.take size, [c], rest) else none

/-- A text in lines of some width.  Each step makes a line. -/
def wrapFrom (first other : Nat) (ending : List Char) (next : List Char) :
    Nat → List Char → List Char → List (List Char) → List Char → List (List Char)
  | 0, _, _, taken, _ => taken
  | fuel + 1, feed, lead, taken, text =>
    if text.all isSpaceChar then ending :: taken
    else
      let (piece, remainder, rest) := match lineOfWidth first text with
        | some found => found
        | none => (text.take (max first 1), ['\n'], text.drop (max first 1))
      wrapFrom other other remainder next fuel ['\n'] next (withTabs (feed ++ lead ++ piece) :: taken) rest

/-- Texts as one paragraph whose lines begin with some texts. -/
def wrapText (columns : Nat) (first next : List Char) (texts : List (List Char)) : List Char :=
  let joined := match texts.reverse with
    | [] => []
    | last :: before =>
      ((before.reverse.map fun text =>
        if text.getLast?.any isSpaceChar then text else text ++ [' ']).flatten) ++ last
  let text := withoutTabs joined
  let width (lead : List Char) : Nat := columns - (withoutTabs lead).length - 1
  (wrapFrom (width first) (width next) [] next (text.length + 1) [] first [] text).reverse.flatten

/-- The words of a text as a shell takes them.  Each step takes a character. -/
def shellWords : Nat → Option Char → Option (List Char) → List (List Char) → List Char → List (List Char)
  | 0, _, word, words, _ => (word.map List.reverse).toList ++ words |>.reverse
  | _ + 1, _, word, words, [] => ((word.map List.reverse).toList ++ words).reverse
  | fuel + 1, some quote, word, words, c :: rest =>
    if c = quote then shellWords fuel none word words rest
    else if c = '\\' && quote = '"' then
      match rest with
      | d :: rest => shellWords fuel (some quote) (some (d :: word.getD [])) words rest
      | [] => shellWords fuel (some quote) word words []
    else shellWords fuel (some quote) (some (c :: word.getD [])) words rest
  | fuel + 1, none, word, words, c :: rest =>
    if isSpaceChar c then shellWords fuel none none ((word.map List.reverse).toList ++ words) rest
    else if c = '"' || c = '\'' then shellWords fuel (some c) (some (word.getD [])) words rest
    else if c = '\\' then
      match rest with
      | d :: rest => shellWords fuel none (some (d :: word.getD [])) words rest
      | [] => shellWords fuel none word words []
    else shellWords fuel none (some (c :: word.getD [])) words rest

/-- The number that switches a colour or a style on. -/
def colorCode? (name : List Char) : Option Nat :=
  let colors := ["black", "red", "green", "yellow", "blue", "magenta", "cyan", "white"]
  let styles := [("reset", 0), ("clear", 0), ("bold", 1), ("dark", 2), ("faint", 2), ("italic", 3),
    ("underline", 4), ("underscore", 4), ("blink", 5), ("reverse", 7), ("concealed", 8)]
  let text := String.ofList name
  match styles.find? fun entry => entry.1 = text with
  | some (_, n) => some n
  | none =>
    let place (base : Nat) (start : String) : Option Nat :=
      if start.toList.isPrefixOf name then
        (colors.idxOf? (String.ofList (name.drop start.length))).map (base + ·)
      else none
    ((place 40 "on_").orElse fun _ => (place 90 "bright_").orElse fun _ => (place 100 "on_bright_").orElse
      fun _ => place 30 "")

/-- The characters that switch colours and styles on. -/
def colorText (names : List Char) : List Char :=
  let words := ByteText.words (names.map fun c => if c = ',' then ' ' else c)
  let codes := words.filterMap colorCode?
  if codes.isEmpty then []
  else ['\x1b', '['] ++ ((codes.map ByteText.ofNat).intersperse [';']).flatten ++ ['m']

/-! ## Copies -/

/-- A value with copies of all that it leads to.  Each step goes a level down. -/
def copied : Nat → Value → Running Value
  | 0, value => return value
  | fuel + 1, value => do
    match value with
    | .reference number =>
      let type := (← look fun machine => machine.types[number]?)
      let mark (made : Nat) : Running Value := do
        match type with
        | some type => change fun machine => { machine with types := machine.types.insert made type }
        | none => pure ()
        return .reference made
      match ← objectAt number with
      | .row cells =>
        let values ← (← valuesOf cells.toList).mapM (copied fuel)
        mark (← row values)
      | .table table =>
        let made ← make (.table {})
        for (key, place) in table.entries do
          putEntry made key (← copied fuel (← valueAt place))
        mark made
      | .cell value => mark (← cell (← copied fuel value))
      | _ => return value
    | value => return value

/-! ## Texts of structures -/

/-- How structures are shown. -/
structure Dumping where
  indent : Nat := 2
  isTerse : Bool := false
  sortsKeys : Option Value := none
  isPlainText : Bool := false
  deepest : Nat := 0

/-- A text between single quotes, or between double ones if it has letters beyond bytes. -/
def dumpedText (isWide isPlain : Bool) (chars : List Char) : List Char :=
  if isWide && chars.any (fun c => 127 < c.toNat) || isPlain then
    let piece (c : Char) : List Char :=
      match c with
      | '\n' => ascii "\\n"
      | '\t' => ascii "\\t"
      | '\r' => ascii "\\r"
      | '\x1b' => ascii "\\e"
      | '\x07' => ascii "\\a"
      | '\x08' => ascii "\\b"
      | '\x0c' => ascii "\\f"
      | '"' => ascii "\\\""
      | '\\' => ascii "\\\\"
      | '$' => ascii "\\$"
      | '@' => ascii "\\@"
      | c =>
        if c.toNat < 32 || c.toNat = 127 then '\\' :: ByteText.digitsIn 8 c.toNat
        else if c.toNat < 128 then [c]
        else if isWide then ascii "\\x\x7b" ++ ByteText.digitsIn 16 c.toNat ++ ['\x7d']
        else '\\' :: ByteText.digitsIn 8 c.toNat
    ['"'] ++ chars.flatMap piece ++ ['"']
  else
    ['\''] ++ (chars.flatMap fun c => if c = '\'' || c = '\\' then ['\\', c] else [c]) ++ ['\'']

/-- The name of something in a structure, behind the name of what holds it. -/
def innerName (path part : List Char) : List Char :=
  let isNested := match path with
    | '$' :: '\x7b' :: _ => false
    | path => path.getLast? = some ']' || path.getLast? = some '\x7d'
  if isNested then path ++ part else path ++ ascii "->" ++ part

/-- The keys of a table in the order that they are shown in. -/
def keysShown (caller : Caller) (settings : Dumping) (number : Nat) : Running (List (List Char)) := do
  let keys := (← tableAt number).entries.map Prod.fst
  match settings.sortsKeys with
  | none => return keys
  | some (.reference function) =>
    let argument ← cell (.reference number)
    match ← caller.call (.reference function) [argument] false with
    | [.reference chosen] => (← rowValues chosen).mapM textOf
    | _ => return keys
  | some _ => return keys.mergeSort ByteText.isBefore

/-- A value as it would be written in a program, with the names of what was shown before.  Each step goes
a level down. -/
def dumped (caller : Caller) (settings : Dumping) : Nat → Nat → Nat → List Char → List (Nat × List Char) → Value →
    Running (List Char × List (Nat × List Char))
  | 0, _, _, _, seen, _ => return (ascii "'...'", seen)
  | fuel + 1, level, column, path, seen, value => do
    match value with
    | .nothing => return (ascii "undef", seen)
    | .int n =>
      let digits := ByteText.ofInt n
      return (if 10 < digits.length then ['\''] ++ digits ++ ['\''] else digits, seen)
    | .float n => return (['\''] ++ floatText n ++ ['\''], seen)
    | .text chars => return (dumpedText false settings.isPlainText chars, seen)
    | .wide chars => return (dumpedText true settings.isPlainText chars, seen)
    | .handle name => return (ascii "\\*" ++ ascii "::" ++ (name.toList.reverse.takeWhile (· != ':')).reverse, seen)
    | .reference number =>
      match seen.find? fun entry => entry.1 = number with
      | some (_, name) => return (name, seen)
      | none =>
        let seen := (number, path) :: seen
        let type := (← look fun machine => machine.types[number]?)
        let object ← objectAt number
        if settings.deepest != 0 && settings.deepest ≤ level then
          return (['\''] ++ (← textOf value) ++ ['\''], seen)
        let opening := if type.isSome then ascii "bless( " else []
        let closing := match type with
          | some type => ascii ", '" ++ type.toList ++ ascii "' )"
          | none => []
        let column := if settings.indent = 2 then column + opening.length else column
        let feed (column : Nat) : List Char :=
          if settings.indent = 0 then [] else '\n' :: List.replicate column ' '
        let inside := column + 2
        match object with
        | .row cells =>
          if cells.isEmpty then return (opening ++ ascii "[]" ++ closing, seen)
          else
            let mut seen := seen
            let mut parts : List (List Char) := []
            let mut place := 0
            for value in ← valuesOf cells.toList do
              let (text, now) ← dumped caller settings fuel (level + 1) inside
                (innerName path (ascii "[" ++ ByteText.ofNat place ++ ascii "]")) seen value
              seen := now
              parts := (feed inside ++ text) :: parts
              place := place + 1
            return (opening ++ ['['] ++ (parts.reverse.intersperse [',']).flatten ++ feed column ++ [']']
              ++ closing, seen)
        | .table table =>
          if table.entries.isEmpty then return (opening ++ ascii "\x7b\x7d" ++ closing, seen)
          else
            let mut seen := seen
            let mut parts : List (List Char) := []
            for key in ← keysShown caller settings number do
              let name := dumpedText (!isNarrow key) settings.isPlainText key ++ ascii " => "
              let (text, now) ← dumped caller settings fuel (level + 1)
                (if settings.indent = 2 then inside + name.length else inside)
                (innerName path (['\x7b'] ++ dumpedText false false key ++ ['\x7d'])) seen (← lookUp number key)
              seen := now
              parts := (feed inside ++ name ++ text) :: parts
            return (opening ++ ['\x7b'] ++ (parts.reverse.intersperse [',']).flatten ++ feed column ++ ['\x7d']
              ++ closing, seen)
        | .cell inner =>
          let (text, seen) ← dumped caller settings fuel (level + 1) inside
            (ascii "$\x7b" ++ path ++ ['\x7d']) seen inner
          if type.isSome then
            return (opening ++ ascii "do\x7b\\(my $o = " ++ text ++ ascii ")\x7d" ++ closing, seen)
          else return (['\\'] ++ text, seen)
        | .pattern text flags =>
          return (ascii "qr/" ++ text ++ ['/'] ++ flags.filter fun c => (ascii "msixxn").contains c, seen)
        | .handle name =>
          return (ascii "\\*\x7b'::$" ++ ((name.toList.reverse.takeWhile (· != ':')).reverse.takeWhile (· != '#')
            |>.filter (· != '$')) ++ ascii "'\x7d", seen)
        | _ => return (opening ++ ascii "sub \x7b \"DUMMY\" \x7d" ++ closing, seen)

/-- How structures are shown, as global variables say. -/
def dumpingNow : Running Dumping := do
  let setting (name : String) : Running Value := globalValue ("Data::Dumper::" ++ name)
  let indent ← setting "Indent"
  let sorts ← setting "Sortkeys"
  return { indent := if isDefined indent then natOf indent else 2, isTerse := isTrue (← setting "Terse")
           sortsKeys := if isTrue sorts then some sorts else none, isPlainText := isTrue (← setting "Useqq")
           deepest := natOf (← setting "Maxdepth") }

/-- The deepest structure that is shown. -/
def deepestStructure : Nat := 1000

/-- Values as statements that would make them. -/
def dumpAll (caller : Caller) (settings : Dumping) (names : List (List Char)) (values : List Value) :
    Running (List Char) := do
  let mut whole : List (List Char) := []
  let mut place := 1
  for value in values do
    let given := (names[place - 1]?).getD []
    let bare := match given with
      | '$' :: name => name
      | '*' :: name => name
      | name => name
    let isStarred := given.head? = some '*'
    let bare := if bare.isEmpty then ascii "VAR" ++ ByteText.ofNat place else bare
    let object ← match value with
      | .reference number => objectAt number
      | _ => pure (.cell .nothing)
    let (sign, isList) :=
      if isStarred then
        match object with
        | .row _ => ('@', true)
        | .table _ => ('%', true)
        | _ => ('$', false)
      else ('$', false)
    let start := if settings.isTerse then [] else sign :: bare ++ ascii " = "
    let (text, _) ← dumped caller settings deepestStructure 0 (if settings.indent = 2 then start.length else 0)
      ('$' :: bare) [] value
    let text := if isList then ['('] ++ (text.drop 1).dropLast ++ [')'] else text
    let ending := if settings.isTerse then [] else [';']
    whole := (start ++ text ++ ending ++ (if settings.indent = 0 && !settings.isTerse then []
      else if settings.indent = 0 then [] else ['\n'])) :: whole
    place := place + 1
  return whole.reverse.flatten

/-! ## Notation of data -/

/-- How data is written down. -/
structure Notation where
  isPretty : Bool := false
  isSorted : Bool := false
  isAscii : Bool := false
  isBytes : Bool := true
  allowsBlessed : Bool := false
  allowsAny : Bool := false

/-- A text between double quotes as data has it. -/
def notedText (settings : Notation) (chars : List Char) : List Char :=
  let unit (n : Nat) : List Char := 
    let digits := ByteText.digitsIn 16 n
    ascii "\\u" ++ List.replicate (4 - digits.length) '0' ++ digits
  let piece (c : Char) : List Char :=
    match c with
    | '"' => ascii "\\\""
    | '\\' => ascii "\\\\"
    | '\n' => ascii "\\n"
    | '\r' => ascii "\\r"
    | '\t' => ascii "\\t"
    | '\x08' => ascii "\\b"
    | '\x0c' => ascii "\\f"
    | c =>
      if c.toNat < 32 || c.toNat = 127 then unit c.toNat
      else if settings.isAscii && 127 < c.toNat then (unitsOf c).flatMap unit
      else [c]
  ['"'] ++ chars.flatMap piece ++ ['"']

/-- A value as data.  Each step goes a level down. -/
def notedValue (settings : Notation) : Nat → Nat → Value → Running (List Char)
  | 0, _, _ => return ascii "null"
  | fuel + 1, level, value => do
    let feed (level : Nat) : List Char :=
      if settings.isPretty then '\n' :: List.replicate (level * 3) ' ' else []
    match value with
    | .nothing => return ascii "null"
    | .int n => return ByteText.ofInt n
    | .float n => return floatText n
    | .reference number =>
      match ← objectAt number with
      | .row cells =>
        let parts ← (← valuesOf cells.toList).mapM (notedValue settings fuel (level + 1))
        if parts.isEmpty then return ascii "[]"
        else
          return ['['] ++ ((parts.map fun part => feed (level + 1) ++ part).intersperse [',']).flatten
            ++ feed level ++ [']']
      | .table table =>
        let keys := table.entries.map Prod.fst
        let keys := if settings.isSorted then keys.mergeSort ByteText.isBefore else keys
        let parts ← keys.mapM fun key => do
          let text ← notedValue settings fuel (level + 1) (← lookUp number key)
          return feed (level + 1) ++ notedText settings key
            ++ (if settings.isPretty then ascii " : " else [':']) ++ text
        if parts.isEmpty then return ascii "\x7b\x7d"
        else return ['\x7b'] ++ (parts.intersperse [',']).flatten ++ feed level ++ ['\x7d']
      | .cell (.int 1) => return ascii "true"
      | .cell (.int 0) => return ascii "false"
      | _ =>
        fail (ascii "encountered " ++ (← textOf value) ++ ascii (", but JSON can only represent references to "
          ++ "arrays or hashes"))
    | value => return notedText settings (← textOf value)

/-- What is wrong with data, and what is left of it there. -/
abbrev NotedFault := String × List Char

/-- The letter of four digits behind a backslash, with what follows it. -/
def notedUnit (text : List Char) : Option (Nat × List Char) :=
  let digits := text.take 4
  if digits.length = 4 && digits.all Char.isHexDigit then some (ByteText.valueIn 16 digits, text.drop 4)
  else none

/-- A text of data up to its end.  Each step takes a character. -/
def readNotedText : Nat → List Char → List Char → Except NotedFault (List Char × List Char)
  | 0, _, rest => .error ("unexpected end of string while parsing JSON string", rest)
  | fuel + 1, taken, text =>
    match text with
    | [] => .error ("unexpected end of string while parsing JSON string", [])
    | '"' :: rest => .ok (taken.reverse, rest)
    | '\\' :: c :: rest =>
      match c with
      | 'n' => readNotedText fuel ('\n' :: taken) rest
      | 't' => readNotedText fuel ('\t' :: taken) rest
      | 'r' => readNotedText fuel ('\r' :: taken) rest
      | 'b' => readNotedText fuel ('\x08' :: taken) rest
      | 'f' => readNotedText fuel ('\x0c' :: taken) rest
      | 'u' =>
        match notedUnit rest with
        | none => .error ("malformed \\uXXXX character in JSON string", rest)
        | some (first, rest) =>
          match rest with
          | '\\' :: 'u' :: more =>
            match notedUnit more with
            | some (second, after) =>
              if 55296 ≤ first && first < 56320 && 56320 ≤ second && second < 57344 then
                readNotedText fuel ((lettersOfUnits [first, second]).reverse ++ taken) after
              else readNotedText fuel (Char.ofNat first :: taken) rest
            | none => readNotedText fuel (Char.ofNat first :: taken) rest
          | rest => readNotedText fuel (Char.ofNat first :: taken) rest
      | c =>
        if c = '"' || c = '\\' || c = '/' then readNotedText fuel (c :: taken) rest
        else .error ("illegal backslash escape sequence in string", text)
    | c :: rest =>
      if c.toNat < 32 then
        .error ("invalid character 0x" ++ String.ofList (ByteText.digitsIn 16 c.toNat |>.map Char.toUpper)
          ++ " encountered while parsing JSON string", rest)
      else readNotedText fuel (c :: taken) rest

/-- Blanks of data. -/
def withoutBlanks (text : List Char) : List Char :=
  text.dropWhile fun c => c = ' ' || c = '\t' || c = '\n' || c = '\r'

/-- The kinds of steps that reading data takes. -/
inductive NotedPart where
  | value
  | elements (taken : List Value)
  | entries (taken : List (List Char × Value))

/-- A value of data, or the rest of a list.  Each step takes a part. -/
def readNoted (isBytes : Bool) : Nat → NotedPart → List Char → Running (Except NotedFault (Value × List Char))
  | 0, _, text => return .error ("nesting too deep", text)
  | fuel + 1, part, text => do
    let text := withoutBlanks text
    match part with
    | .value =>
      match text with
      | '"' :: rest =>
        match readNotedText (rest.length + 1) [] rest with
        | .error fault => return .error fault
        | .ok (chars, rest) =>
          return .ok (if chars.all fun c => c.toNat < 128 then .text chars else .wide chars, rest)
      | '[' :: rest =>
        match withoutBlanks rest with
        | ']' :: rest => return .ok (.reference (← row []), rest)
        | [] => return .error (", or ] expected while parsing array", [])
        | rest => readNoted isBytes fuel (.elements []) rest
      | '\x7b' :: rest =>
        match withoutBlanks rest with
        | '\x7d' :: rest => return .ok (.reference (← make (.table {})), rest)
        | [] => return .error (", or \x7d expected while parsing object/hash", [])
        | rest => readNoted isBytes fuel (.entries []) rest
      | c :: _ =>
        if (ascii "true").isPrefixOf text then return .ok (.int 1, text.drop 4)
        else if (ascii "false").isPrefixOf text then return .ok (.int 0, text.drop 5)
        else if (ascii "null").isPrefixOf text then return .ok (.nothing, text.drop 4)
        else if c.isDigit || c = '-' then
          let (whole, all) := numberLengths text
          if all = 0 then return .error ("malformed number (no digits after initial minus)", text.drop 2)
          else if c = '0' && (text.drop 1).head?.any Char.isDigit then
            return .error ("malformed number (leading zero must not be followed by another digit)", text.drop 1)
          else if whole = all then return .ok (numberOfText (text.take all), text.drop all)
          else return .ok (.float (floatOf (numberOfText (text.take all))), text.drop all)
        else if c = 'n' then return .error ("'null' expected", text)
        else if c = 't' then return .error ("'true' expected", text)
        else if c = 'f' then
          return .error ("'false' expected", if (ascii "fals").isPrefixOf text then text.drop 3 else text)
        else
          return .error ("malformed JSON string, neither array, object, number, string or atom", text)
      | [] => return .error ("malformed JSON string, neither array, object, number, string or atom", [])
    | .elements taken =>
      match ← readNoted isBytes fuel .value text with
      | .error fault => return .error fault
      | .ok (value, rest) =>
        match withoutBlanks rest with
        | ',' :: rest =>
          if (withoutBlanks rest).isEmpty then return .error (", or ] expected while parsing array", [])
          else readNoted isBytes fuel (.elements (value :: taken)) rest
        | ']' :: rest => return .ok (.reference (← row (value :: taken).reverse), rest)
        | rest => return .error (", or ] expected while parsing array", rest)
    | .entries taken =>
      match text with
      | '"' :: rest =>
        match readNotedText (rest.length + 1) [] rest with
        | .error fault => return .error fault
        | .ok (key, rest) =>
          match withoutBlanks rest with
          | ':' :: rest =>
            if (withoutBlanks rest).isEmpty then
              return .error (", or \x7d expected while parsing object/hash", [])
            match ← readNoted isBytes fuel .value rest with
            | .error fault => return .error fault
            | .ok (value, rest) =>
              match withoutBlanks rest with
              | ',' :: rest =>
                if (withoutBlanks rest).isEmpty then
                  return .error (", or \x7d expected while parsing object/hash", [])
                else readNoted isBytes fuel (.entries ((key, value) :: taken)) rest
              | '\x7d' :: rest =>
                let table ← make (.table {})
                for (key, value) in ((key, value) :: taken).reverse do
                  putEntry table key value
                return .ok (.reference table, rest)
              | rest => return .error (", or \x7d expected while parsing object/hash", rest)
          | rest => return .error ("':' expected", if rest.isEmpty then text.drop (text.length - 1) else rest)
      | rest => return .error ("unexpected end of string while parsing JSON string", rest.drop 1)

/-- The value of data. -/
def valueOfNoted (isBytes : Bool) (text : List Char) : Running Value := do
  let chars := if isBytes then decodedText text else text
  let refuse (message : String) (rest : List Char) : Running Value := do
    let near := if rest.isEmpty then ascii "(end of string)"
      else if 20 < rest.length then rest.take 20 ++ ascii "..." else rest
    let fault ← blamed false [.text (ascii message ++ ascii ", at character offset "
      ++ ByteText.ofNat (chars.length - rest.length) ++ ascii " (before \"" ++ near ++ ascii "\")")]
    throw (.died fault)
  match ← readNoted isBytes (chars.length + 2) .value chars with
  | .error (message, rest) => refuse message rest
  | .ok (value, rest) =>
    match withoutBlanks rest with
    | [] => return value
    | rest => refuse "garbage after JSON object" (rest.drop 1)

/-! ## Options of commands -/

/-- What an option of a command may have. -/
structure OptionForm where
  names : List (List Char)
  isNegatable : Bool := false
  counts : Bool := false
  /-- The kind of its value, and whether it has to have one. -/
  value : Option (Char × Bool) := none
  holder : Option Char := none

/-- The form of an option as it is told. -/
def optionForm (text : List Char) : OptionForm :=
  let names := text.takeWhile fun c => c.isAlphanum || (ascii "|-_?").contains c
  let form := text.drop names.length
  let names := ByteText.splitAt '|' names
  match form with
  | ['!'] => { names := names, isNegatable := true }
  | ['+'] => { names := names, counts := true }
  | sign :: kind :: rest =>
    { names := names, value := some (kind, sign = '='), holder := rest.head? }
  | _ => { names := names }

/-- Where the value of an option goes. -/
inductive OptionTarget where
  | reference (value : Value)
  | entry (table : Nat)
  | global (name : String)

/-- Gives an option its value. -/
def storeOption (caller : Caller) (form : OptionForm) (target : OptionTarget) (value : Value) : Running Unit := do
  let name := (form.names.head?).getD []
  let pair : Running (List Char × Value) := do
    let text ← textOf value
    let key := text.takeWhile (· != '=')
    return (key, if key.length < text.length then .text (text.drop (key.length + 1)) else .int 1)
  let putIn (place : Nat) : Running Unit := do
    match form.holder with
    | some '@' =>
      match ← valueAt place with
      | .reference number =>
        let made ← cell value
        changeRow number fun cells => cells.push made
      | _ => putValue place (.reference (← row [value]))
    | some '%' =>
      let (key, value) ← pair
      match ← valueAt place with
      | .reference number => putEntry number key value
      | _ =>
        let table ← make (.table {})
        putEntry table key value
        putValue place (.reference table)
    | _ =>
      if form.counts then putValue place (.int (intOf (← valueAt place) + 1)) else putValue place value
  match target with
  | .reference (.reference number) =>
    match ← objectAt number with
    | .row _ =>
      let made ← cell value
      changeRow number fun cells => cells.push made
    | .table _ =>
      let (key, value) ← pair
      putEntry number key value
    | .cell _ => putIn number
    | _ =>
      let arguments ← [Value.text name, value].mapM cell
      let _ ← caller.call (.reference number) arguments false
  | .reference _ => return ()
  | .entry table =>
    let place ← match (← tableAt table).find? name with
      | some place => pure place
      | none => do
        let place ← cell .nothing
        changeTable table fun entries => entries.insert name place
        pure place
    putIn place
  | .global name => putIn (← global .one name)

/-- The option that a word stands for, and whether it is turned around. -/
def chosenOption (options : List (OptionForm × OptionTarget)) (word : List Char) :
    Option (OptionForm × OptionTarget × Bool) :=
  let lower := word.map Char.toLower
  let names (form : OptionForm) : List (List Char × Bool) :=
    form.names.map (fun name => (name, false))
      ++ (if form.isNegatable then
            form.names.flatMap fun name => [(ascii "no" ++ name, true), (ascii "no-" ++ name, true)]
          else [])
  let all := options.flatMap fun (form, target) =>
    (names form).map fun (name, isNegated) => (name.map Char.toLower, form, target, isNegated)
  match all.find? fun entry => entry.1 = lower with
  | some (_, form, target, isNegated) => some (form, target, isNegated)
  | none =>
    match all.filter fun entry => lower.isPrefixOf entry.1 with
    | (_, form, target, isNegated) :: others =>
      if others.all fun other => other.2.1.names = form.names then some (form, target, isNegated) else none
    | [] => none

/-- Takes options out of arguments, and tells what is left and whether all is right.  Each step takes an
argument. -/
def takeOptions (caller : Caller) (options : List (OptionForm × OptionTarget)) :
    Nat → List Value → List Value → Bool → Running (List Value × Bool)
  | 0, _, kept, isRight => return (kept.reverse, isRight)
  | _ + 1, [], kept, isRight => return (kept.reverse, isRight)
  | fuel + 1, argument :: rest, kept, isRight => do
    let text ← textOf argument
    if text = ['-', '-'] then return (kept.reverse ++ rest, isRight)
    else if text.head? = some '-' && 1 < text.length then
      let body := if (ascii "--").isPrefixOf text then text.drop 2 else text.drop 1
      let word := body.takeWhile (· != '=')
      let given := if word.length < body.length then some (body.drop (word.length + 1)) else none
      match chosenOption options word with
      | none =>
        writeError (ascii "Unknown option: " ++ word.map Char.toLower ++ ['\n'])
        takeOptions caller options fuel rest kept false
      | some (form, target, isNegated) =>
        let name := (form.names.head?).getD word
        match form.value with
        | none =>
          match given with
          | some _ =>
            writeError (ascii "Option " ++ name ++ ascii " does not take an argument\n")
            takeOptions caller options fuel rest kept false
          | none =>
            storeOption caller form target (.int (if isNegated then 0 else 1))
            takeOptions caller options fuel rest kept isRight
        | some (kind, isNeeded) =>
          let isNumber (text : List Char) : Bool :=
            let digits := match text with
              | '-' :: digits => digits
              | '+' :: digits => digits
              | digits => digits
            if kind = 'i' then !digits.isEmpty && digits.all Char.isDigit
            else if kind = 'f' then looksNumeric text
            else true
          let usual : Value := if kind = 's' then .text [] else .int 0
          let (value?, rest) ← match given, rest with
            | some text, rest => pure (some text, rest)
            | none, next :: more => do
              let next ← textOf next
              if isNeeded then pure (some next, more)
              else if next.head? = some '-' && 1 < next.length || !(isNumber next) then pure (none, rest)
              else pure (some next, more)
            | none, [] => pure (none, [])
          match value? with
          | none =>
            if isNeeded then
              writeError (ascii "Option " ++ word ++ ascii " requires an argument\n")
              takeOptions caller options fuel rest kept false
            else
              storeOption caller form target usual
              takeOptions caller options fuel rest kept isRight
          | some text =>
            if isNumber text then
              storeOption caller form target (.text text)
              takeOptions caller options fuel rest kept isRight
            else
              writeError (ascii "Value \"" ++ text ++ ascii "\" invalid for option " ++ word
                ++ ascii (if kind = 'i' then " (number expected)\n" else " (real number expected)\n"))
              takeOptions caller options fuel rest kept false
    else takeOptions caller options fuel rest (argument :: kept) isRight

/-- The options that values tell of: forms with what they go to. -/
def optionsOf : Nat → Option Nat → List Value → Running (List (OptionForm × OptionTarget))
  | 0, _, _ => return []
  | _ + 1, _, [] => return []
  | fuel + 1, table, form :: rest => do
    let form := optionForm (← textOf form)
    match rest with
    | .reference number :: more =>
      return (form, .reference (.reference number)) :: (← optionsOf fuel table more)
    | rest =>
      let target : OptionTarget := match table with
        | some table => .entry table
        | none => .global ("main::opt_" ++ String.ofList ((form.names.head?).getD []))
      return (form, target) :: (← optionsOf fuel table rest)

/-- Takes options of single letters out of arguments.  Each step takes an argument. -/
def takeLetters (letters : List Char) (store : Char → Value → Running Unit) :
    Nat → List Value → Bool → Running (List Value × Bool)
  | 0, arguments, isRight => return (arguments, isRight)
  | _ + 1, [], isRight => return ([], isRight)
  | fuel + 1, argument :: rest, isRight => do
    let text ← textOf argument
    match text with
    | ['-', '-'] => return (rest, isRight)
    | '-' :: c :: more =>
      let behind := (letters.dropWhile (· != c))
      if behind.isEmpty || c = ':' then
        writeError (ascii "Unknown option: " ++ [c, '\n'])
        let next := if more.isEmpty then rest else .text ('-' :: more) :: rest
        takeLetters letters store fuel next false
      else if (behind.drop 1).head? = some ':' then
        match more, rest with
        | [], value :: rest =>
          store c value
          takeLetters letters store fuel rest isRight
        | [], [] =>
          store c .nothing
          takeLetters letters store fuel [] isRight
        | more, rest =>
          store c (.text more)
          takeLetters letters store fuel rest isRight
      else
        store c (.int 1)
        takeLetters letters store fuel (if more.isEmpty then rest else .text ('-' :: more) :: rest) isRight
    | _ => return (argument :: rest, isRight)

/-! ## Functions by name -/

/-- Opens a new file with a name of its own, and gives both. -/
def newFile (fuel : Nat) : Running (Value × List Char) := do
  let count := (← look (·.streamCount)) + 1
  change fun machine => { machine with streamCount := count }
  let letters := (ascii "ABCDEFGHIJKLMNOPQRSTUVWXYZabcdefghijklmnopqrstuvwxyz0123456789").toArray
  let mut name : List Char := ascii "/tmp/"
  for _ in List.range fuel do
    let place := ((← chance) * Float.ofNat letters.size).toUInt64.toNat % letters.size
    name := name ++ [(letters[place]?).getD 'x']
  let stream := "main::$fh#" ++ toString count
  let _ ← openPath stream "+>" name false
  return (.reference (← make (.handle stream)), name)

/-- What a library does with paths. -/
def callPaths (name : String) (values : List Value) (wantsList : Bool) : Running (Option (List Value)) := do
  let one (value : Value) : Running (Option (List Value)) := return some [value]
  let first := (values.head?).getD .nothing
  match name with
  | "basename" =>
    let base := baseName (← textOf first)
    let quotedSuffixes := values.drop 1
    one (.text (← withoutSuffix false base quotedSuffixes).1)
  | "dirname" => one (.text (directoryName (← textOf first)))
  | "fileparse" =>
    let path ← textOf first
    let base := (path.reverse.takeWhile (· != '/')).reverse
    let directory := path.take (path.length - base.length)
    let (stem, suffix) ← withoutSuffix true base (values.drop 1)
    if wantsList then
      return some [.text stem, .text (if directory.isEmpty then ascii "./" else directory), .text suffix]
    else one (.text stem)
  | "catfile" =>
    let parts ← values.mapM textOf
    one (.text (tidyPath ((parts.intersperse ['/']).flatten)))
  | "catdir" =>
    let parts ← values.mapM textOf
    one (.text (tidyPath ((parts.intersperse ['/']).flatten)))
  | "curdir" => one (plain ".")
  | "updir" => one (plain "..")
  | "rootdir" => one (plain "/")
  | "tmpdir" => one (plain "/tmp")
  | "devnull" => one (plain "/dev/null")
  | "canonpath" => one (.text (tidyPath (← textOf first)))
  | "rel2abs" => one (.text (← fullPath (← textOf first)))
  | "file_name_is_absolute" => one (truth ((← textOf first).head? = some '/'))
  | "splitdir" => return some ((ByteText.splitAt '/' (← textOf first)).map Value.text)
  | "splitpath" =>
    let path ← textOf first
    let base := (path.reverse.takeWhile (· != '/')).reverse
    return some [.text [], .text (path.take (path.length - base.length)), .text base]
  | "cwd" => one (.text (← currentPath))
  | "getcwd" => one (.text (← currentPath))
  | "abs_path" => one (.text (← fullPath (← textOf first)))
  | "realpath" => one (.text (← fullPath (← textOf first)))
  | "make_path" => makeAll values
  | "mkpath" => makeAll values
  | "copy" => copyFile false first ((values[1]?).getD .nothing)
  | "cp" => copyFile false first ((values[1]?).getD .nothing)
  | "move" => one (truth (← moveFile (← textOf first) (← textOf ((values[1]?).getD .nothing))))
  | "mv" => one (truth (← moveFile (← textOf first) (← textOf ((values[1]?).getD .nothing))))
  | "tempfile" =>
    let (handle, name) ← newFile 10
    if wantsList then return some [handle, .text name] else one handle
  | "tempdir" =>
    let (_, name) ← newFile 10
    let _ ← removeFile name
    let _ ← makeDirectory name 448
    one (.text name)
  | _ => return none
where
  /-- Makes directories with those around them. -/
  makeAll (values : List Value) : Running (Option (List Value)) := do
    let mut made := 0
    for value in values do
      match value with
      | .reference _ => pure ()
      | value =>
        for path in growingPaths (← textOf value) do
          if ← makeDirectory path 511 then made := made + 1
    return some [natural made]
  /-- Copies a file. -/
  copyFile (_isMoved : Bool) (source target : Value) : Running (Option (List Value)) := do
    match ← program (Program.readOperand (← textOf source)) with
    | .error cause => return some [truth (← noted (.error cause))]
    | .ok text =>
      let target ← textOf target
      let isDirectory ← program (Program.fileHolds 'd' target)
      let base := baseName (← textOf source)
      let target := if isDirectory then target ++ ['/'] ++ base else target
      if ← openPath "main::COPY" ">" target false then
        let _ ← write "main::COPY" text
        flush "main::COPY"
        return some [truth true]
      else return some [truth false]

/-- What a library does with lists. -/
def callLists (caller : Caller) (name : String) (values : List Value) (wantsList : Bool) :
    Running (Option (List Value)) := do
  let one (value : Value) : Running (Option (List Value)) := return some [value]
  let many (values : List Value) : Running (Option (List Value)) :=
    return some (if wantsList then values else [natural values.length])
  let first := (values.head?).getD .nothing
  let isLess (a b : Value) : Running Bool := return numberOrder a b = some .lt
  let isGreater (a b : Value) : Running Bool := return numberOrder a b = some .gt
  match name with
  | "sum" => if values.isEmpty then one .nothing else one (← sumOf values)
  | "sum0" => one (← sumOf values)
  | "product" => one (← productOf values)
  | "max" => one (numberIn (← extreme isGreater values))
  | "min" => one (numberIn (← extreme isLess values))
  | "maxstr" => one (← extreme (fun a b => do return (← textOrder a b) = .gt) values)
  | "minstr" => one (← extreme (fun a b => do return (← textOrder a b) = .lt) values)
  | "uniq" => many (← distinct false values)
  | "uniqstr" => many (← distinct false values)
  | "uniqnum" => many (← distinct true values)
  | "uniqint" => many ((← distinct true (values.map wholePart)))
  | "shuffle" => many (← shuffled values.length values)
  | "sample" => many (← shuffled (min (natOf first) (values.length - 1)) (values.drop 1)
      |> fun step => do return (← step).take (natOf first))
  | "pairs" =>
    many (← (pairsOf values).mapM fun (key, value) => do
      let number ← row [key, value]
      change fun machine => { machine with types := machine.types.insert number "List::Util::_Pair" }
      return .reference number)
  | "unpairs" =>
    let lists ← values.mapM fun value =>
      match value with
      | .reference number => do return (← rowValues number).take 2
      | _ => return []
    many lists.flatten
  | "pairkeys" => many ((pairsOf values).map Prod.fst)
  | "pairvalues" => many ((pairsOf values).map Prod.snd)
  | "head" => many (portion true (intOf first) (values.drop 1))
  | "tail" => many (portion false (intOf first) (values.drop 1))
  | "zip" => many (← zipped false false values)
  | "zip_shortest" => many (← zipped true false values)
  | "mesh" => many (← zipped false true values)
  | "mesh_shortest" => many (← zipped true true values)
  | "reduce" =>
    match values with
    | function :: first :: rest =>
      let mut sum := first
      for value in rest do
        let a ← cell sum
        let b ← cell value
        sum := (((← withGlobal "$main::a" a (withGlobal "$main::b" b (caller.call function [] false))).head?)).getD .nothing
      one sum
    | _ => one .nothing
  | "first" => one ((← findValue first (values.drop 1) true).getD .nothing)
  | "any" => one (truth (← findValue first (values.drop 1) true).isSome)
  | "none" => one (truth (← findValue first (values.drop 1) true).isNone)
  | "all" => one (truth (← findValue first (values.drop 1) false).isNone)
  | "notall" => one (truth (← findValue first (values.drop 1) false).isSome)
  | "blessed" =>
    match ← typeOf? first, first with
    | some type, _ => one (.text type.toList)
    | none, .reference number =>
      match ← objectAt number with
      | .pattern _ _ => one (plain "Regexp")
      | _ => one .nothing
    | none, _ => one .nothing
  | "reftype" => one (match ← plainKind first with
      | some kind => plain (if kind = "Regexp" then "REGEXP" else kind)
      | none => .nothing)
  | "refaddr" => one (match first with
      | .reference number => natural (address number)
      | _ => .nothing)
  | "looks_like_number" => one (match first with
      | .int _ => truth true
      | .float _ => truth true
      | .text chars => truth (looksNumeric chars)
      | .wide chars => truth (looksNumeric chars)
      | _ => truth false)
  | "dualvar" => one ((values[1]?).getD .nothing)
  | "readonly" => one (.int 0)
  | "weaken" => return some []
  | "unweaken" => return some []
  | "isweak" => one (truth false)
  | "openhandle" => one first
  | "dclone" => one (← copied deepestStructure first)
  | _ => return none
where
  /-- A value as a number. -/
  numberIn (value : Value) : Value :=
    match value with
    | .nothing => .nothing
    | value => numberOfValue value
  /-- So many values from one end on, or all but so many from the other. -/
  portion (fromStart : Bool) (count : Int) (values : List Value) : List Value :=
    let size : Int := values.length
    let kept := (if count < 0 then max 0 (size + count) else min count size).toNat
    if fromStart then values.take kept else values.drop (values.length - kept)
  /-- The first value that a function holds for, or does not. -/
  findValue (function : Value) (values : List Value) (wanted : Bool) : Running (Option Value) := do
    let mut found := none
    for value in values do
      if found.isNone then
        let place ← cell value
        let result ← withGlobal "$main::_" place (caller.call function [] false)
        if isTrue ((result.head?).getD .nothing) = wanted then found := some value
    return found

/-- What a library does with numbers, moments and faults. -/
def callMeasures (name : String) (values : List Value) (wantsList : Bool) : Running (Option (List Value)) := do
  let one (value : Value) : Running (Option (List Value)) := return some [value]
  let first := (values.head?).getD .nothing
  let second := (values[1]?).getD .nothing
  let float (n : Float) : Running (Option (List Value)) := one (settled n)
  match name with
  | "floor" => float (floatOf first).floor
  | "ceil" => float (floatOf first).ceil
  | "round" => float (floatOf first).round
  | "trunc" => one (wholePart first)
  | "fmod" =>
    let a := floatOf first
    let b := floatOf second
    let n := a - b * (if a / b < 0 then (a / b).ceil else (a / b).floor)
    float n
  | "pow" => one (power first second)
  | "fabs" => one (magnitude first)
  | "tan" => float (Float.tan (floatOf first))
  | "asin" => float (Float.asin (floatOf first))
  | "acos" => float (Float.acos (floatOf first))
  | "atan" => float (Float.atan (floatOf first))
  | "sinh" => float (Float.sinh (floatOf first))
  | "cosh" => float (Float.cosh (floatOf first))
  | "tanh" => float (Float.tanh (floatOf first))
  | "log10" => float (Float.log10 (floatOf first))
  | "log2" => float (Float.log2 (floatOf first))
  | "toupper" => one (← upperCase first)
  | "tolower" => one (← lowerCase first)
  | "strtol" =>
    let text ← textOf first
    let base := if values.length < 2 then 10 else natOf second
    let digits := text.takeWhile fun c =>
      c.isDigit && c.toNat - 48 < base || c.isAlpha && c.toLower.toNat - 87 < base
    let n := digits.foldl (fun n c =>
      n * base + (if c.isDigit then c.toNat - 48 else c.toLower.toNat - 87)) 0
    if wantsList then return some [natural n, natural (text.length - digits.length)] else one (natural n)
  | "strtod" => one (numberOfValue first)
  | "strftime" =>
    let form ← textOf first
    one (textual (isWide first) (Calendar.write form (momentOf (values.drop 1))))
  | "mktime" => one (.int (momentOf values))
  | "timelocal" => one (.int (momentOf (fullYear values)))
  | "timegm" => one (.int (momentOf (fullYear values)))
  | "timelocal_nocheck" => one (.int (momentOf (fullYear values)))
  | "timegm_nocheck" => one (.int (momentOf (fullYear values)))
  | "timelocal_modern" => one (.int (momentOf (fullYear values)))
  | "timegm_modern" => one (.int (momentOf (fullYear values)))
  | "getpid" => one (natural processNumber)
  | "isatty" => one (truth false)
  | "strerror" => one (plain (faultText (natOf first)))
  | "WEXITSTATUS" => one (natural (natOf first / 256))
  | "WIFEXITED" => one (truth (natOf first % 128 = 0))
  | "WIFSIGNALED" => one (truth (natOf first % 128 != 0))
  | "WTERMSIG" => one (natural (natOf first % 128))
  | "_exit" => throw (.gone (natOf first % 256))
  | "abort" => throw (.killed 6)
  | "usleep" =>
    system (System.wait (natOf first / 1000))
    one first
  | "gettimeofday" =>
    let now := (← program Filing.tree).now
    if wantsList then return some [.int (now / 1000000000), .int (now / 1000 % 1000000)]
    else one (.float (Float.ofInt now / 1e9))
  | "tv_interval" => one (.float 0.001)
  | "croak" => throw (.died (← blamed false values))
  | "confess" => throw (.died (← blamed true values))
  | "carp" =>
    writeError (← textOf (← blamed false values))
    one (truth true)
  | "cluck" =>
    writeError (← textOf (← blamed true values))
    one (truth true)
  | "longmess" => one (← blamed true values)
  | "shortmess" => one (← blamed false values)
  | _ => return none
where
  /-- The parts of a moment with a year that counts from 1900 on. -/
  fullYear (parts : List Value) : List Value :=
    match parts[5]? with
    | some year =>
      let n := intOf year
      let n := if 1000 ≤ n then n - 1900 else if n < 70 then n + 100 else n
      parts.take 5 ++ [.int n]
    | none => parts

/-- What a library does with texts and bytes. -/
def callCodes (caller : Caller) (name : String) (values : List Value) (wantsList : Bool) :
    Running (Option (List Value)) := do
  let one (value : Value) : Running (Option (List Value)) := return some [value]
  let first := (values.head?).getD .nothing
  let second := (values[1]?).getD .nothing
  let coded (value : Value) : Running Coding := do
    let name ← textOf value
    match coding? name with
    | some coding => return coding
    | none => do
      let fault ← blamed false [.text (ascii "Unknown encoding '" ++ name ++ ['\''])]
      throw (.died fault)
  match name with
  | "encode" => one (.text (encodedBy (← coded first) (← textOf second)))
  | "decode" => one (.wide (decodedBy (← coded first) (← textOf second)))
  | "encode_utf8" => one (.text (encodedText (← textOf first)))
  | "decode_utf8" => one (.wide (decodedText (← textOf first)))
  | "is_utf8" => one (truth (isWide first))
  | "encode_base64" =>
    let ending ← if values.length < 2 then pure ['\n'] else textOf second
    one (.text (sixtyFourText ending (← textOf first)))
  | "decode_base64" =>
    let kept := (← textOf first).filter fun c => c.isAlphanum || c = '+' || c = '/'
    let missing := (4 - kept.length % 4) % 4
    one (.text (Tool.Alphabet.sixtyFour.decode (kept ++ List.replicate missing '=')).1)
  | "wrap" =>
    let columns ← globalValue "Text::Wrap::columns"
    let texts ← (values.drop 2).mapM textOf
    one (textual (values.any isWide)
      (wrapText (if isDefined columns then natOf columns else 76) (← textOf first) (← textOf second) texts))
  | "fill" =>
    let columns ← globalValue "Text::Wrap::columns"
    let width := if isDefined columns then natOf columns else 76
    let texts ← (values.drop 2).mapM textOf
    let start ← textOf first
    let next ← textOf second
    let paragraphs := paragraphsOf ((texts.intersperse ['\n']).flatten)
    let pieces := paragraphs.map fun text =>
      wrapText width start next [((ByteText.words text).intersperse [' ']).flatten]
    one (.text ((pieces.intersperse (if start = next then ascii "\n\n" else ['\n'])).flatten))
  | "shellwords" =>
    let lists ← values.mapM fun value => do
      let text ← textOf value
      return shellWords (text.length + 1) none none [] text
    return some (lists.flatten.map Value.text)
  | "expand" =>
    let texts ← values.mapM textOf
    if wantsList then return some (texts.map fun text => .text (withoutTabs text))
    else one (.text (withoutTabs ((texts.head?).getD [])))
  | "unexpand" =>
    let texts ← values.mapM textOf
    if wantsList then return some (texts.map fun text => .text (withTabs text))
    else one (.text (withTabs ((texts.head?).getD [])))
  | "color" => one (.text (colorText ((← values.mapM textOf).intersperse [' ']).flatten))
  | "colored" =>
    let text ← textOf first
    match first with
    | .reference number =>
      let names ← (← rowValues number).mapM textOf
      let text := (← (values.drop 1).mapM textOf).flatten
      one (.text (colorText (names.intersperse [' ']).flatten ++ text ++ ascii "\x1b[0m"))
    | _ =>
      let names ← (values.drop 1).mapM textOf
      one (.text (colorText (names.intersperse [' ']).flatten ++ text ++ ascii "\x1b[0m"))
  | "Dumper" => one (.text (← dumpAll caller (← dumpingNow) [] values))
  | "encode_json" =>
    let text ← notedValue {} deepestStructure 0 first
    one (.text (encodedText text))
  | "decode_json" => one (← valueOfNoted true (← textOf first))
  | "GetOptions" =>
    let (table, forms) ← match values with
      | .reference number :: rest => do
        match ← objectAt number with
        | .table _ => pure (some number, rest)
        | _ => pure (none, values)
      | values => pure (none, values)
    let options ← optionsOf (forms.length + 1) table forms
    let arguments ← global .row "main::ARGV"
    let given ← rowValues arguments
    let (kept, isRight) ← takeOptions caller options (given.length + 1) given [] true
    putRow arguments kept
    one (truth isRight)
  | "getopts" =>
    let store (c : Char) (value : Value) : Running Unit :=
      match second with
      | .reference table => putEntry table [c] value
      | _ => putGlobal ("main::opt_" ++ String.ofList [c]) value
    let arguments ← global .row "main::ARGV"
    let given ← rowValues arguments
    let count := ((← given.mapM textOf).map List.length).foldl (· + ·) given.length
    let (kept, isRight) ← takeLetters (← textOf first) store (count + 1) given true
    putRow arguments kept
    one (truth isRight)
  | name =>
    let base := name.toList.takeWhile (· != '_')
    match digest? (String.ofList base) [] with
    | none => return none
    | some _ =>
      let bytes := (← values.mapM textOf).flatten
      let form := String.ofList (name.toList.drop (base.length + 1))
      match digest? (String.ofList base) bytes with
      | some digest => one (digestValue form digest)
      | none => return none
where
  /-- The parts of a text between empty lines. -/
  paragraphsOf (text : List Char) : List (List Char) :=
    let lines := ByteText.splitAt '\n' text
    let groups := lines.foldl (fun ((done, current) : List (List (List Char)) × List (List Char)) line =>
      if line.all isSpaceChar then (if current.isEmpty then (done, []) else (current.reverse :: done, []))
      else (done, line :: current)) ([], [])
    let all := if groups.2.isEmpty then groups.1 else groups.2.reverse :: groups.1
    all.reverse.map fun lines => (lines.intersperse ['\n']).flatten

/-- Calls a function of a library. -/
def callLibrary (caller : Caller) (name : String) (values : List Value) (wantsList : Bool) :
    Running (Option (List Value)) := do
  match ← callConstant name with
  | some value => return some [value]
  | none =>
  match ← callLists caller name values wantsList with
  | some values => return some values
  | none =>
  match ← callMeasures name values wantsList with
  | some values => return some values
  | none =>
  match ← callPaths name values wantsList with
  | some values => return some values
  | none => callCodes caller name values wantsList

/-- How an object that writes data does it. -/
def notationOf (table : Nat) : Running Notation := do
  let holds (name : String) : Running Bool := do return isTrue (← lookUp table (ascii name))
  return { isPretty := ← holds "pretty", isSorted := ← holds "canonical", isAscii := ← holds "ascii"
           isBytes := ← holds "utf8" }

/-- Calls a method of a type of a library. -/
def callLibraryMethod (caller : Caller) (type : String) (target : Value) (name : String)
    (values : List Value) (wantsList : Bool) : Running (Option (List Value)) := do
  let one (value : Value) : Running (Option (List Value)) := return some [value]
  let newObject : Running (Option (List Value)) := do
    let table ← make (.table {})
    change fun machine => { machine with types := machine.types.insert table type }
    one (.reference table)
  let first := (values.head?).getD .nothing
  match (type, target) with
  | ("JSON::PP", .reference table) =>
    let isOn := values.isEmpty || isTrue first
    match name with
    | "encode" =>
      let settings ← notationOf table
      let text := (← notedValue settings deepestStructure 0 first)
        ++ (if settings.isPretty then ['\n'] else [])
      one (if settings.isBytes then .text (encodedText text)
        else if text.all fun c => c.toNat < 128 then .text text else .wide text)
    | "decode" => one (← valueOfNoted (← notationOf table).isBytes (← textOf first))
    | name =>
      putEntry table (ascii name) (truth isOn)
      one target
  | ("JSON::PP", _) =>
    match name with
    | "new" => newObject
    | "true" => one (.int 1)
    | "false" => one (.int 0)
    | _ => return none
  | ("Data::Dumper", .reference table) =>
    match name with
    | "Dump" =>
      let setting (name : String) : Running Value := lookUp table (ascii name)
      let usual ← dumpingNow
      let indent ← setting "Indent"
      let sorts ← setting "Sortkeys"
      let settings : Dumping :=
        { usual with
          indent := if isDefined indent then natOf indent else usual.indent
          isTerse := usual.isTerse || isTrue (← setting "Terse")
          isPlainText := usual.isPlainText || isTrue (← setting "Useqq")
          sortsKeys := if isTrue sorts then some sorts else usual.sortsKeys }
      let held ← match ← setting "values" with
        | .reference number => rowValues number
        | _ => pure []
      let names ← match ← setting "names" with
        | .reference number => do (← rowValues number).mapM textOf
        | _ => pure []
      one (.text (← dumpAll caller settings names held))
    | name =>
      putEntry table (ascii name) first
      one target
  | ("Data::Dumper", _) =>
    match name with
    | "new" => do
      let table ← make (.table {})
      change fun machine => { machine with types := machine.types.insert table type }
      putEntry table (ascii "values") first
      putEntry table (ascii "names") ((values[1]?).getD .nothing)
      one (.reference table)
    | "Dump" =>
      let held ← match first with
        | .reference number => rowValues number
        | _ => pure []
      let names ← match (values[1]?).getD .nothing with
        | .reference number => do (← rowValues number).mapM textOf
        | _ => pure []
      one (.text (← dumpAll caller (← dumpingNow) names held))
    | _ => return none
  | ("List::Util::_Pair", .reference number) =>
    let held ← rowValues number
    match name with
    | "key" => one ((held[0]?).getD .nothing)
    | "value" => one ((held[1]?).getD .nothing)
    | _ => return none
  | (type, target) =>
    if type = "File::Spec" || type = "File::Spec::Functions" then callPaths name values wantsList
    else if type = "Digest::MD5" || type = "Digest::SHA" then
      match name, target with
      | "new", _ =>
        let table ← make (.table {})
        change fun machine => { machine with types := machine.types.insert table type }
        let size ← textOf first
        let size := size.filter Char.isDigit
        putEntry table (ascii "kind") (.text (if type = "Digest::MD5" then ascii "md5"
          else ascii "sha" ++ (if size.isEmpty then ['1'] else size)))
        one (.reference table)
      | "add", .reference table =>
        let before ← textOf (← lookUp table (ascii "text"))
        let more := (← values.mapM textOf).flatten
        putEntry table (ascii "text") (.text (before ++ more))
        one target
      | name, .reference table =>
        let kind := String.ofList (← textOf (← lookUp table (ascii "kind")))
        let bytes ← textOf (← lookUp table (ascii "text"))
        let form := match name with
          | "hexdigest" => "hex"
          | "b64digest" => "base64"
          | _ => ""
        match digest? kind bytes with
        | some digest => one (digestValue form digest)
        | none => return none
      | _, _ => return none
    else if type = "Time::HiRes" || type = "POSIX" || type = "Cwd" || type = "Carp" then
      callLibrary caller name values wantsList
    else return none

end Running

end SchemaDocs.Shell.Sigil
