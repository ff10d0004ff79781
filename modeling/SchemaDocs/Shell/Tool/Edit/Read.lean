import SchemaDocs.Shell.Tool.Edit.Basic
/-!
# Reading editing scripts

A script comes in parts.  What is wrong with one is reported with the number of characters
that were read of it, or with the line of its file.
-/

namespace SchemaDocs.Shell.Edit

/-- Where a part of a script comes from. -/
inductive Origin where
  | expression (number : Nat)
  | file (name : ByteText)

/-- A part of a script. -/
structure ScriptPart where
  text : ByteText
  origin : Origin
  isExtended : Bool

/-- Why a script cannot be run. -/
structure Fault where
  code : Nat
  message : ByteText

/-- How far a script was read. -/
structure Reader where
  rest : ByteText
  taken : Nat
  line : Nat
  origin : Origin
  isExtended : Bool
  /-- The parts after this one. -/
  parts : List ScriptPart
  /-- Whether this is the first part. -/
  isFirst : Bool
  /-- The entries that were read, the last one first. -/
  entries : List Entry
  /-- The number of blocks that are open. -/
  depth : Nat
  files : List ByteText
  isQuiet : Bool

/-- A step of reading a script. -/
abbrev Reading := StateT Reader (Except Fault)

namespace Reading

/-- Refuses a script at a place. -/
def failAt {α : Type} (origin : Origin) (taken line : Nat) (why : ByteText) : Reading α :=
  let place : ByteText :=
    match origin with
    | .expression number =>
      ascii "-e expression #" ++ ByteText.ofNat number ++ ascii ", char " ++ ByteText.ofNat taken
    | .file name => ascii "file " ++ name ++ ascii " line " ++ ByteText.ofNat line
  throw ⟨1, place ++ ascii ": " ++ why⟩

/-- Refuses a script where it was read up to. -/
def fail {α : Type} (why : String) : Reading α := do
  let reader ← get
  failAt reader.origin reader.taken reader.line (ascii why)

/-- Takes a character. -/
def next? : Reading (Option Char) :=
  modifyGet fun reader =>
    match reader.rest with
    | [] => (none, reader)
    | c :: rest =>
      (some c,
        { reader with
          rest := rest, taken := reader.taken + 1
          line := if c = '\n' then reader.line + 1 else reader.line })

/-- Takes the characters at the head that have a property. -/
def takeWhile (test : Char → Bool) : Reading ByteText :=
  modifyGet fun reader =>
    let taken := reader.rest.takeWhile test
    (taken,
      { reader with
        rest := reader.rest.drop taken.length
        taken := reader.taken + taken.length
        line := reader.line + (taken.filter (· = '\n')).length })

/-- The character at the head. -/
def peek? : Reading (Option Char) := do return (← get).rest.head?

/-- Whether a character is a blank within a line. -/
def isBlank (c : Char) : Bool := c = ' ' || c = '\t'

/-- Whether a character is a blank or ends a line. -/
def isSpace (c : Char) : Bool := c = ' ' || ('\t' ≤ c && c ≤ '\r')

/-- Passes over blanks. -/
def skipBlanks : Reading Unit := do let _ ← takeWhile isBlank

/-- Takes the character after blanks. -/
def nextNonblank? : Reading (Option Char) := do
  skipBlanks
  next?

/-- Passes over a character at the head. -/
def skip : Reading Unit := do let _ ← next?

/-- Reads a number, which is zero without digits. -/
def number : Reading Nat := do return ByteText.valueIn 10 (← takeWhile Char.isDigit)

/-- Reads up to the end of a command. -/
def endCommand : Reading Unit := do
  skipBlanks
  match ← peek? with
  | none => return ()
  | some '\x7d' => return ()
  | some '#' => return ()
  | some '\n' => skip
  | some ';' => skip
  | some _ =>
    skip
    fail "extra characters after command"

/-- Reads the rest of a line after blanks. -/
def fileName : Reading ByteText := do
  skipBlanks
  let name ← takeWhile (· != '\n')
  if name.isEmpty then fail "missing filename in r/R/w/W commands"
  skip
  return name

/-- Reads a label after blanks. -/
def label (mayHoldBrace : Bool) : Reading ByteText := do
  skipBlanks
  takeWhile fun c => !isSpace c && c != ';' && (mayHoldBrace || c != '\x7d')

/-- The target with the name of a file. -/
def target (name : ByteText) : Reading Target := do
  if name = ascii "/dev/stdout" then return .stream
  else if name = ascii "/dev/stderr" then return .messages
  else
    let files := (← get).files
    match files.findIdx? (· = name) with
    | some index => return .file index
    | none =>
      modify fun reader => { reader with files := reader.files ++ [name] }
      return .file files.length

/-! ## Texts between slashes -/

/-- Where one is within a regular expression. -/
inductive BracketPlace where
  | outside
  /-- Right after a bracket was opened. -/
  | opened
  /-- Where a closing bracket stands for itself. -/
  | first
  | inside
  /-- In a class within a bracket, up to a mark. -/
  | named (mark : Char)
  /-- Behind the mark of a class. -/
  | closing
deriving DecidableEq

/-- The place after a character. -/
def BracketPlace.after (place : BracketPlace) (c : Char) (rest : ByteText) : BracketPlace :=
  match place with
  | .outside => if c = '[' then .opened else .outside
  | .named mark => if c = mark && rest.head? = some ']' then .closing else .named mark
  | .closing => .inside
  | _ =>
    if c = '[' then
      match rest with
      | mark :: _ => if mark = ':' || mark = '.' || mark = '=' then .named mark else .inside
      | [] => .inside
    else if c = ']' && place = .inside then .outside
    else if c = '^' && place = .opened then .first
    else .inside

/-- Reads a text up to a delimiter, unless the line or the script ends before.  A backslash before
the delimiter is dropped.  Each step takes a character. -/
def delimitedFrom (delimiter : Char) (isRegex : Bool) :
    Nat → BracketPlace → ByteText → Reading (Option ByteText)
  | 0, _, _ => return none
  | fuel + 1, place, taken => do
    match ← peek? with
    | none => return none
    | some '\n' => return none
    | some c =>
      skip
      if c = delimiter && place = .outside then return some taken.reverse
      else if c = '\\' then
        match place, ← peek? with
        | _, none => return none
        | .outside, some d =>
          skip
          let kept : ByteText :=
            if d = 'n' && isRegex then ['\n']
            else if d = '\n' || (d = delimiter && (isRegex || d != '&')) then [d]
            else [d, '\\']
          delimitedFrom delimiter isRegex fuel place (kept ++ taken)
        | _, some 'n' =>
          skip
          delimitedFrom delimiter isRegex fuel .inside ('\n' :: taken)
        | _, some '\\' =>
          skip
          delimitedFrom delimiter isRegex fuel .inside ('\\' :: '\\' :: taken)
        | _, some _ => delimitedFrom delimiter isRegex fuel .inside ('\\' :: taken)
      else
        let rest := (← get).rest
        let after := if isRegex then place.after c rest else place
        delimitedFrom delimiter isRegex fuel after (c :: taken)

/-- Reads a text up to a delimiter. -/
def delimited (delimiter : Char) (isRegex : Bool) (missing : String) : Reading ByteText := do
  match ← delimitedFrom delimiter isRegex ((← get).rest.length + 1) .outside [] with
  | some text => return text
  | none => fail missing

/-- Reads the delimiter of a command. -/
def delimiter (missing : String) : Reading Char := do
  match ← peek? with
  | none => fail missing
  | some '\n' => fail missing
  | some '\\' => fail missing
  | some c =>
    skip
    return c

/-! ## Characters behind backslashes -/

/-- The character that is written by its number or as a control character after a backslash, and the
text after it. -/
def coded? (text : ByteText) : Option (Char × ByteText) :=
  let numbered (base most : Nat) (rest : ByteText) : Option (Char × ByteText) :=
    let digits := (rest.take most).takeWhile (ByteText.isDigitIn base)
    if digits.isEmpty then none
    else some (Char.ofNat (ByteText.valueIn base digits % 256), rest.drop digits.length)
  match text with
  | 'd' :: rest => numbered 10 3 rest
  | 'o' :: rest => numbered 8 3 rest
  | 'x' :: rest => numbered 16 2 rest
  | 'c' :: '\\' :: '\\' :: rest => some ('\x1c', rest)
  | 'c' :: c :: rest => some (Char.ofNat (c.toUpper.toNat ^^^ 64), rest)
  | _ => none

/-- The character that a letter after a backslash names. -/
def named? (c : Char) : Option Char :=
  match c with
  | 'a' => some '\x07'
  | 'f' => some '\x0c'
  | 'r' => some '\r'
  | 't' => some '\t'
  | 'v' => some '\x0b'
  | _ => none

/-- A regular expression with named and numbered characters in it.  Each step takes a character. -/
def decodeRegex : Nat → ByteText → ByteText
  | 0, text => text
  | _ + 1, [] => []
  | fuel + 1, '\\' :: c :: rest =>
    match named? c with
    | some named => named :: decodeRegex fuel rest
    | none =>
      match coded? (c :: rest) with
      | some (coded, rest) => coded :: decodeRegex fuel rest
      | none => '\\' :: c :: decodeRegex fuel rest
  | fuel + 1, c :: rest => c :: decodeRegex fuel rest

/-- A text with backslashes taken away.  Each step takes a character. -/
def decodeText : Nat → ByteText → ByteText
  | 0, text => text
  | _ + 1, [] => []
  | fuel + 1, '\\' :: c :: rest =>
    match (if c = 'n' then some '\n' else named? c) with
    | some named => named :: decodeText fuel rest
    | none =>
      match coded? (c :: rest) with
      | some (coded, rest) => coded :: decodeText fuel rest
      | none => c :: decodeText fuel rest
  | fuel + 1, c :: rest => c :: decodeText fuel rest

/-- The change of case that a letter stands for. -/
def caseChange? (c : Char) : Option CaseChange :=
  match c with
  | 'U' => some .upper
  | 'L' => some .lower
  | 'E' => some .asIs
  | 'u' => some .nextUpper
  | 'l' => some .nextLower
  | _ => none

/-- The parts of a replacement, the last one first.  Each step takes one. -/
def replacementParts : Nat → List ReplacementPart → ByteText → List ReplacementPart
  | 0, parts, _ => parts
  | _ + 1, parts, [] => parts
  | fuel + 1, parts, '\\' :: c :: rest =>
    if c.isDigit then
      replacementParts fuel (.group (c.toNat - '0'.toNat) :: parts) rest
    else
      match caseChange? c with
      | some change => replacementParts fuel (.change change :: parts) rest
      | none =>
        match (if c = 'n' then some '\n' else named? c) with
        | some named => replacementParts fuel (.text [named] :: parts) rest
        | none =>
          match coded? (c :: rest) with
          | some (coded, rest) => replacementParts fuel (.text [coded] :: parts) rest
          | none => replacementParts fuel (.text [c] :: parts) rest
  | fuel + 1, parts, '&' :: rest => replacementParts fuel (.group 0 :: parts) rest
  | fuel + 1, parts, c :: rest =>
    let plain := rest.takeWhile fun c => c != '\\' && c != '&'
    replacementParts fuel (.text (c :: plain) :: parts) (rest.drop plain.length)

/-- The parts of a replacement. -/
def replacement (text : ByteText) : List ReplacementPart :=
  (replacementParts (text.length + 1) [] text).reverse

/-! ## Patterns and addresses -/

/-- The pattern of a text with the number of groups that it has to have. -/
def sought (text : ByteText) (ignoresCase hasLines : Bool) (groups : Nat) : Reading Sought := do
  if text.isEmpty then
    if ignoresCase || hasLines then fail "cannot specify modifiers on empty regexp"
    return ⟨none, false, false⟩
  let regex := decodeRegex (text.length + 1) text
  match Pattern.read { isExtended := (← get).isExtended } regex with
  | .error .bareClass => throw ⟨4, ascii RegexError.bareClass.message⟩
  | .error cause => fail cause.message
  | .ok pattern =>
    if pattern.groups < groups then
      fail ("invalid reference \\" ++ toString groups ++ " on \x60s' command's RHS")
    return ⟨some pattern, ignoresCase, hasLines⟩

/-- Reads the letters after a pattern of an address.  Each step takes one. -/
def addressFlags : Nat → Bool → Bool → Reading (Bool × Bool)
  | 0, ignoresCase, hasLines => return (ignoresCase, hasLines)
  | fuel + 1, ignoresCase, hasLines => do
    skipBlanks
    match ← peek? with
    | some 'I' => do skip; addressFlags fuel true hasLines
    | some 'M' => do skip; addressFlags fuel ignoresCase true
    | _ => return (ignoresCase, hasLines)

/-- What stands in the place of an address. -/
inductive AddressItem where
  | address (address : Address)
  | after (count : Nat)
  | multiple (factor : Nat)

/-- Reads an address if there is one. -/
def address? : Reading (Option AddressItem) := do
  let pattern (delimiter : Char) : Reading (Option AddressItem) := do
    let text ← delimited delimiter true "unterminated address regex"
    let (ignoresCase, hasLines) ← addressFlags ((← get).rest.length + 1) false false
    return some (.address (.text (← sought text ignoresCase hasLines 0)))
  match ← peek? with
  | some '/' =>
    skip
    pattern '/'
  | some '\\' =>
    skip
    let delimiter ← delimiter "unterminated address regex"
    pattern delimiter
  | some '$' =>
    skip
    return some (.address .last)
  | some '+' =>
    skip
    skipBlanks
    return some (.after (← number))
  | some '~' =>
    skip
    skipBlanks
    return some (.multiple (← number))
  | some c =>
    if c.isDigit then
      let first ← number
      skipBlanks
      if (← peek?) = some '~' then
        skip
        skipBlanks
        let width ← number
        return some (.address (if width = 0 then .line first else .step first width))
      else return some (.address (.line first))
    else return none
  | none => return none

/-- Whether the first address may be the line before all lines. -/
def endsAtText : Option RangeEnd → Bool
  | some (.address (.text _)) => true
  | _ => false

/-- Reads the end of a range after its comma. -/
def rangeEnd : Reading RangeEnd := do
  skipBlanks
  match ← address? with
  | some (.address address) => return .address address
  | some (.after count) => return .after count
  | some (.multiple factor) => return .multiple factor
  | none =>
    skip
    fail "unexpected \x60,'"

/-- Reads the lines that a command is for. -/
def selector : Reading Selector := do
  let selector : Selector ←
    match ← address? with
    | none => pure {}
    | some (.after _) => fail "invalid usage of +N or ~N as first address"
    | some (.multiple _) => fail "invalid usage of +N or ~N as first address"
    | some (.address start) =>
      skipBlanks
      let stop : Option RangeEnd ←
        if (← peek?) = some ',' then
          skip
          let stop ← rangeEnd
          skipBlanks
          pure (some stop)
        else pure none
      match start with
      | .line 0 =>
        if !endsAtText stop then
          skip
          fail "invalid usage of line address 0"
        pure { start := some start, stop := stop }
      | _ => pure { start := some start, stop := stop }
  if (← peek?) = some '!' then
    skip
    skipBlanks
    if (← peek?) = some '!' then
      skip
      fail "multiple \x60!'s"
    return { selector with isNegated := true }
  return selector

/-! ## Commands -/

/-- Takes the next part of the script as if it stood on the next line. -/
def nextPart : Reading Bool := do
  match (← get).parts with
  | [] => return false
  | part :: parts =>
    modify fun reader =>
      { reader with
        rest := part.text, taken := 0, line := 1, origin := part.origin
        isExtended := part.isExtended, parts := parts, isFirst := false }
    return true

/-- Reads lines of text, of which a backslash at the end goes on to the next line.  What is read is
kept with its backslashes.  Each step takes a character. -/
def textFrom : Nat → ByteText → Reading ByteText
  | 0, taken => return taken.reverse
  | fuel + 1, taken => do
    match ← next? with
    | none => return ('\n' :: taken).reverse
    | some '\n' => return ('\n' :: taken).reverse
    | some '\\' =>
      match ← next? with
      | some c => textFrom fuel (c :: '\\' :: taken)
      | none =>
        if ← nextPart then textFrom fuel ('\n' :: taken)
        else return ('\n' :: taken).reverse
    | some c => textFrom fuel (c :: taken)

/-- The number of characters in all parts that are left. -/
def remaining : Reading Nat := do
  let reader ← get
  return reader.rest.length + ByteText.total (reader.parts.map fun part => part.text.length + 1) + 2

/-- Reads the text of a command. -/
def text : Reading ByteText := do
  let missing := "expected \\ after \x60a', \x60c' or \x60i'"
  skipBlanks
  let body : Reading ByteText := do
    let raw ← textFrom (← remaining) []
    return decodeText (raw.length + 1) raw
  match ← peek? with
  | none => fail missing
  | some '\n' =>
    skip
    return []
  | some '\\' =>
    skip
    match ← peek? with
    | none =>
      if ← nextPart then body else return []
    | some '\n' =>
      skip
      body
    | some c =>
      skip
      let raw ← textFrom (← remaining) []
      return c :: decodeText (raw.length + 1) raw
  | some _ => body

/-- The flags of a substitution. -/
structure SubstitutionFlags where
  ignoresCase : Bool := false
  hasLines : Bool := false
  isGlobal : Bool := false
  count : Nat := 0
  prints : Bool := false
  /-- Whether the line is run as a command then. -/
  runs : Bool := false
  target : Option Target := none

/-- Reads the flags of a substitution.  Each step takes one. -/
def substitutionFlags : Nat → SubstitutionFlags → Reading SubstitutionFlags
  | 0, flags => return flags
  | fuel + 1, flags => do
    match ← peek? with
    | none => return flags
    | some '\x7d' => return flags
    | some '#' => return flags
    | some c =>
      if c.isDigit then
        if flags.count != 0 then
          skip
          fail "multiple number options to \x60s' command"
        let count ← number
        if count = 0 then fail "number option to \x60s' command may not be zero"
        substitutionFlags fuel { flags with count := count }
      else
        skip
        match c with
        | '\n' => return flags
        | ';' => return flags
        | ' ' => substitutionFlags fuel flags
        | 'i' => substitutionFlags fuel { flags with ignoresCase := true }
        | 'I' => substitutionFlags fuel { flags with ignoresCase := true }
        | 'm' => substitutionFlags fuel { flags with hasLines := true }
        | 'M' => substitutionFlags fuel { flags with hasLines := true }
        | 'e' => substitutionFlags fuel { flags with runs := true }
        | 'g' =>
          if flags.isGlobal then fail "multiple \x60g' options to \x60s' command"
          substitutionFlags fuel { flags with isGlobal := true }
        | 'p' =>
          if flags.prints then fail "multiple \x60p' options to \x60s' command"
          substitutionFlags fuel { flags with prints := true }
        | 'w' =>
          let name ← fileName
          return { flags with target := some (← target name) }
        | _ => fail "unknown option to \x60s'"

/-- The greatest group that a replacement refers to. -/
def greatestGroup (parts : List ReplacementPart) : Nat :=
  parts.foldl (fun most part =>
    match part with
    | .group number => max most number
    | _ => most) 0

/-- Reads a substitution. -/
def substitution : Reading Substitution := do
  let missing := "unterminated \x60s' command"
  let delimiter ← delimiter missing
  let regex ← delimited delimiter true missing
  let text ← delimited delimiter false missing
  let flags ← substitutionFlags ((← get).rest.length + 1) {}
  let parts := replacement text
  let sought ← sought regex flags.ignoresCase flags.hasLines (greatestGroup parts)
  return {
    sought := sought, replacement := parts, isGlobal := flags.isGlobal
    count := max 1 flags.count, prints := flags.prints, runs := flags.runs
    target := flags.target }

/-- Reads which characters are exchanged for which. -/
def exchangePairs : Reading (List (Char × Char)) := do
  let missing := "unterminated \x60y' command"
  let delimiter ← delimiter missing
  let old ← delimited delimiter false missing
  let new ← delimited delimiter false missing
  let old := decodeText (old.length + 1) old
  let new := decodeText (new.length + 1) new
  if old.length != new.length then fail "strings for \x60y' command are different lengths"
  endCommand
  return old.zip new

/-- Adds an entry. -/
def add (selector : Selector) (command : Command) : Reading Unit :=
  modify fun reader => { reader with entries := ⟨selector, command, 0⟩ :: reader.entries }

/-- Refuses a range of lines. -/
def refuseRange (selector : Selector) : Reading Unit := do
  if selector.stop.isSome then fail "command only uses one address"

/-- Reads a number after blanks if there is one, up to the end of the command. -/
def optionalNumber : Reading (Option Nat) := do
  skipBlanks
  let digits ← takeWhile Char.isDigit
  endCommand
  return if digits.isEmpty then none else some (ByteText.valueIn 10 digits)

/-- Passes over a comment.  One that begins the script may make it quiet. -/
def comment : Reading Unit := do
  let reader ← get
  let text ← takeWhile (· != '\n')
  if reader.isFirst && reader.taken = 1 && text = ['n'] then
    modify fun reader => { reader with isQuiet := true }
  skip

/-- The command of a letter that takes nothing. -/
def plainCommand? (c : Char) : Option Command :=
  match c with
  | 'd' => some .delete
  | 'D' => some .deleteFirst
  | '=' => some .showNumber
  | 'F' => some .showFile
  | 'g' => some .fetch
  | 'G' => some .fetchMore
  | 'h' => some .hold
  | 'H' => some .holdMore
  | 'n' => some .next
  | 'N' => some .nextMore
  | 'p' => some .print
  | 'P' => some .printFirst
  | 'x' => some .swap
  | 'z' => some .clear
  | _ => none

/-- The version of the language of scripts. -/
def version : List Nat := [4, 9, 0]

/-- Whether a version that a script asks for is there. -/
def hasVersion (wanted : ByteText) : Bool :=
  if wanted.isEmpty then true
  else
    match (ByteText.splitAt '.' wanted).mapM ByteText.toNat? with
    | some numbers => !decide (version < numbers)
    | none => false

/-- Reads the command that begins with a letter. -/
def command (selector : Selector) (c : Char) : Reading Unit := do
  match plainCommand? c with
  | some command =>
    endCommand
    add selector command
  | none =>
    match c with
    | '#' =>
      if selector.start.isSome then fail "comments don't accept any addresses"
      comment
    | ':' =>
      if selector.start.isSome then fail ": doesn't want any addresses"
      let name ← label true
      if name.isEmpty then fail "\":\" lacks a label"
      add selector (.mark name)
    | '\x7b' =>
      modify fun reader => { reader with depth := reader.depth + 1 }
      add selector .openBlock
    | '\x7d' =>
      if (← get).depth = 0 then fail "unexpected \x60\x7d'"
      if selector.start.isSome then fail "\x60\x7d' doesn't want any addresses"
      endCommand
      modify fun reader => { reader with depth := reader.depth - 1 }
      add selector .closeBlock
    | 'a' => do add selector (.append (← text))
    | 'i' => do add selector (.insert (← text))
    | 'c' => do add selector (.change (← text))
    | 'e' =>
      skipBlanks
      let command ← takeWhile (· != '\n')
      skip
      add selector (.execute command)
    | 'b' => do
      let name ← label false
      endCommand
      add selector (.jump .always name)
    | 't' => do
      let name ← label false
      endCommand
      add selector (.jump .replaced name)
    | 'T' => do
      let name ← label false
      endCommand
      add selector (.jump .notReplaced name)
    | 'l' => do add selector (.list (← optionalNumber))
    | 'q' =>
      refuseRange selector
      add selector (.quit ((← optionalNumber).getD 0))
    | 'Q' =>
      refuseRange selector
      add selector (.quitSilently ((← optionalNumber).getD 0))
    | 'r' => do add selector (.readFile (← fileName))
    | 'R' => do add selector (.readLine (← fileName))
    | 'w' => do add selector (.write (← target (← fileName)))
    | 'W' => do add selector (.writeFirst (← target (← fileName)))
    | 's' => do add selector (.substitute (← substitution))
    | 'y' => do add selector (.exchange (← exchangePairs))
    | 'v' =>
      if !hasVersion (← label true) then fail "expected newer version of sed"
      endCommand
    | c =>
      let reader ← get
      failAt reader.origin reader.taken reader.line
        (ascii "unknown command: \x60" ++ [c] ++ ['\''])

/-- Reads commands up to the end of all parts.  Each step takes one or goes on to the next part. -/
def commands : Nat → Reading Unit
  | 0 => return ()
  | fuel + 1 => do
    let _ ← takeWhile fun c => c = ';' || isSpace c
    if (← get).rest.isEmpty then
      if ← nextPart then commands fuel else return ()
    else
      let selector ← selector
      match ← nextNonblank? with
      | none => fail "missing command"
      | some '\n' => fail "missing command"
      | some c =>
        command selector c
        commands fuel

end Reading

/-! ## Jumps -/

/-- The place after the command that closes the block opened before a place. -/
def closingOf (entries : Array Entry) : Nat → Nat → Nat → Nat
  | 0, _, place => place
  | fuel + 1, depth, place =>
    match entries[place]? with
    | none => place
    | some entry =>
      match entry.command with
      | .openBlock => closingOf entries fuel (depth + 1) (place + 1)
      | .closeBlock =>
        if depth = 0 then place + 1 else closingOf entries fuel (depth - 1) (place + 1)
      | _ => closingOf entries fuel depth (place + 1)

/-- The place of a label. -/
def markOf? (entries : Array Entry) (name : ByteText) : Option Nat :=
  entries.findIdx? fun entry =>
    match entry.command with
    | .mark other => other = name
    | _ => false

/-- The entries with the places that their commands jump to. -/
def withTargets (entries : Array Entry) : Except Fault (Array Entry) :=
  (List.range entries.size).foldlM (fun (done : Array Entry) place =>
    match entries[place]? with
    | none => .ok done
    | some entry =>
      match entry.command with
      | .openBlock =>
        .ok (done.push { entry with target := closingOf entries (entries.size + 1) 0 (place + 1) })
      | .jump _ [] => .ok (done.push { entry with target := entries.size })
      | .jump _ name =>
        match markOf? entries name with
        | some target => .ok (done.push { entry with target := target })
        | none => .error ⟨4, ascii "can't find label for jump to \x60" ++ name ++ ['\'']⟩
      | _ => .ok (done.push entry)) #[]

/-- Reads a script from its parts. -/
def Script.read (parts : List ScriptPart) : Except Fault Script := do
  let start : Reader :=
    { rest := [], taken := 0, line := 1, origin := .expression 0, isExtended := false
      parts := parts, isFirst := false, entries := [], depth := 0, files := [], isQuiet := false }
  let reading : Reading Unit := do
    let _ ← Reading.nextPart
    modify fun reader => { reader with isFirst := true }
    let length ← Reading.remaining
    Reading.commands (length + parts.length + 1)
    let reader ← get
    if reader.depth != 0 then Reading.failAt reader.origin 0 reader.line (ascii "unmatched \x60\x7b'")
  let (_, reader) ← reading.run start
  let entries ← withTargets reader.entries.reverse.toArray
  .ok ⟨entries, reader.files, reader.isQuiet⟩

end SchemaDocs.Shell.Edit
