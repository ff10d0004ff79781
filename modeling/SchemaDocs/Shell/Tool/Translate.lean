import SchemaDocs.Shell.Escape
import SchemaDocs.Shell.Tool.Basic
/-!
# Translating characters

Characters of one set become those of another one in the same place, are taken out, or
are left only once where several stand side by side.
-/

namespace SchemaDocs.Shell

namespace Tool

/-- A part of a set of characters. -/
inductive SetItem where
  | char (c : Char)
  | range (first last : Char)
  | class (name : ByteText)
  /-- A character so many times, or as often as there is room. -/
  | copies (c : Char) (count : Option Nat)
deriving DecidableEq

/-- What is wrong with a set, as a message. -/
abbrev SetFault := ByteText

/-- The characters of a set as they are written, where a mark says that a backslash stood before
one. -/
def unescapeSet : Nat → ByteText → List (Char × Bool)
  | 0, _ => []
  | _ + 1, [] => []
  | fuel + 1, '\\' :: rest =>
    match rest with
    | [] => [('\\', false)]
    | c :: more =>
      let (digits, after) := Escape.digits 8 3 rest
      if digits.isEmpty then
        match c with
        | 'e' => ('e', true) :: unescapeSet fuel more
        | c => ((Escape.letter? c).getD c, true) :: unescapeSet fuel more
      else
        let value := ByteText.valueIn 8 digits
        if 256 ≤ value then
          (Char.ofNat (ByteText.valueIn 8 (digits.take 2)), true)
            :: unescapeSet fuel (digits.drop 2 ++ after)
        else (Char.ofNat value, true) :: unescapeSet fuel after
  | fuel + 1, c :: rest => (c, false) :: unescapeSet fuel rest

/-- What is said of doubtful backslashes in a set. -/
def setWarnings : Nat → ByteText → List ByteText
  | 0, _ => []
  | _ + 1, [] => []
  | _ + 1, ['\\'] => [ascii "warning: an unescaped backslash at end of string is not portable"]
  | fuel + 1, '\\' :: rest =>
    let (digits, after) := Escape.digits 8 3 rest
    if 256 ≤ ByteText.valueIn 8 digits then
      (ascii "warning: the ambiguous octal escape \\" ++ digits ++ ascii " is being\n\tinterpreted as "
        ++ ascii "the 2-byte sequence \\0" ++ digits.take 2 ++ ascii ", " ++ digits.drop 2)
        :: setWarnings fuel after
    else setWarnings fuel (rest.drop 1)
  | fuel + 1, _ :: rest => setWarnings fuel rest

/-- The text between a bracket with a mark and the same mark with a bracket, with what follows. -/
def closedBy? (mark : Char) : List (Char × Bool) → Option (ByteText × List (Char × Bool))
  | (c, false) :: (']', false) :: rest =>
    if c = mark then some ([], rest)
    else (closedBy? mark ((']', false) :: rest)).map fun (text, rest) => (c :: text, rest)
  | (c, _) :: rest => (closedBy? mark rest).map fun (text, rest) => (c :: text, rest)
  | [] => none

/-- A character as it is shown in a message. -/
def shownChar (c : Char) : ByteText := if isShown c then [c] else Quoting.escaped c

/-- The item at the start of a set, with what follows.  Brackets that hold nothing known stand for
themselves. -/
def bracketItem? (rest : List (Char × Bool)) :
    Except SetFault (Option (List SetItem × List (Char × Bool))) :=
  match rest with
  | (':', false) :: more =>
    match closedBy? ':' more with
    | some (name, after) =>
      if (inClass? name).isSome then .ok (some ([.class name], after))
      else if name.isEmpty then .error (ascii "missing character class name '[::]'")
      else
        match copies? rest with
        | .ok (some found) => .ok (some found)
        | _ => .error (ascii "invalid character class " ++ Quoting.inQuotes name)
    | none => copies? rest
  | ('=', false) :: more =>
    match closedBy? '=' more with
    | some ([c], after) => .ok (some ([.char c], after))
    | some ([], _) => .error (ascii "missing equivalence class character '[==]'")
    | some (text, _) =>
      match copies? rest with
      | .ok (some found) => .ok (some found)
      | _ =>
        .error (text ++ ascii ": equivalence class operand must be a single character")
    | none => copies? rest
  | _ => copies? rest
where
  /-- A character with a star and a number behind it. -/
  copies? (rest : List (Char × Bool)) :
      Except SetFault (Option (List SetItem × List (Char × Bool))) :=
    match rest with
    | (c, _) :: ('*', false) :: more =>
      let digits := (more.takeWhile fun c => c.1.isDigit && !c.2).map Prod.fst
      match more.drop digits.length with
      | (']', false) :: after =>
        if digits.isEmpty then .ok (some ([.copies c none], after))
        else
          let base := if digits.head? = some '0' then 8 else 10
          let count := ByteText.valueIn base digits
          .ok (some ([.copies c (if count = 0 then none else some count)], after))
      | rest =>
        match closedHere? (more.map Prod.fst) with
        | some text =>
          let _ := rest
          .error (ascii "invalid repeat count " ++ Quoting.inQuotes text
            ++ ascii " in [c*n] construct")
        | none => .ok none
    | _ => .ok none
  /-- The text up to a bracket, if there is one. -/
  closedHere? (text : ByteText) : Option ByteText :=
    let inner := text.takeWhile (· != ']')
    if inner.length < text.length then some inner else none

/-- Reads the items of a set.  Each step takes an item. -/
def readItems : Nat → List (Char × Bool) → Except SetFault (List SetItem)
  | 0, _ => .ok []
  | _ + 1, [] => .ok []
  | fuel + 1, (c, isEscaped) :: rest => do
    let bracket ←
      if c = '[' && !isEscaped then bracketItem? rest else .ok none
    match bracket with
    | some (items, after) => return items ++ (← readItems fuel after)
    | none =>
      match rest with
      | ('-', false) :: (last, _) :: after =>
        if last < c then
          .error (ascii "range-endpoints of '" ++ shownChar c ++ ['-'] ++ shownChar last
            ++ ascii "' are in reverse collating sequence order")
        else return .range c last :: (← readItems fuel after)
      | _ => return .char c :: (← readItems fuel rest)

/-- Reads a set. -/
def readSet (text : ByteText) : Except SetFault (List SetItem) :=
  let chars := unescapeSet (text.length + 1) text
  readItems (chars.length + 1) chars

/-- All characters, in order. -/
def allBytes : ByteText := (List.range 256).map Char.ofNat

/-- The characters of an item, where a number says how often one is repeated for which no number
was given. -/
def SetItem.chars (room : Nat) : SetItem → ByteText
  | .char c => [c]
  | .range first last =>
    (List.range (last.toNat + 1 - first.toNat)).map fun step => Char.ofNat (first.toNat + step)
  | .class name => allBytes.filter ((inClass? name).getD fun _ => false)
  | .copies c count => List.replicate (count.getD room) c

/-- The characters of a set. -/
def setChars (room : Nat) (items : List SetItem) : ByteText :=
  (items.map (SetItem.chars room)).flatten

/-- Whether an item is a class of letters of one case. -/
def isCaseClass : SetItem → Bool
  | .class name => name = ascii "upper" || name = ascii "lower"
  | _ => false

/-- Whether an item is a class. -/
def isClass : SetItem → Bool
  | .class _ => true
  | _ => false

/-- Whether an item is repeated as often as there is room. -/
def isOpenCopies : SetItem → Bool
  | .copies _ none => true
  | _ => false

/-- What is done with characters. -/
structure TrSettings where
  isComplement : Bool := false
  deletes : Bool := false
  squeezes : Bool := false
  truncates : Bool := false

/-- The options of the program that translates characters. -/
def trRules : OptionRules :=
  { forms :=
    [.both 'c' "complement", .letter 'C', .both 'd' "delete", .both 's' "squeeze-repeats",
     .both 't' "truncate-set1", .word "help", .word "version"]
    stopsAtOperand := true }

/-- Settings after an option of the program that translates characters. -/
def trOption (settings : TrSettings) (key : String) (_ : ByteText) :
    Program (Except Nat TrSettings) :=
  return .ok (match key with
    | "c" => { settings with isComplement := true }
    | "C" => { settings with isComplement := true }
    | "d" => { settings with deletes := true }
    | "s" => { settings with squeezes := true }
    | "t" => { settings with truncates := true }
    | _ => settings)

/-- A text in which characters of a set stand once where several of the same stand side by side. -/
def squeeze (isIn : Char → Bool) (text : ByteText) : ByteText :=
  (text.foldl
    (fun ((kept, last) : ByteText × Option Char) c =>
      if last = some c && isIn c then (kept, last) else (c :: kept, some c))
    (([] : ByteText), none)).1.reverse

/-- Membership in a set as a table. -/
def memberTable (chars : ByteText) : Array Bool :=
  chars.foldl (fun table c => table.setIfInBounds c.toNat true) (Array.replicate 256 false)

/-- Whether a table holds a character. -/
def inTable (table : Array Bool) (c : Char) : Bool := table.getD c.toNat false

/-- The pairs of characters of two sets, in which upper and lower case stand for each other. -/
def pairs (firsts seconds : List SetItem) (room : Nat) : List (Char × Char) :=
  let first := setChars 0 firsts
  let second := setChars room seconds
  let last := second.getLast?.getD '\x00'
  first.zip (second ++ List.replicate (first.length - second.length) last)

/-- The part of a set up to its first class of one case, and what follows it, with the length of the
part. -/
def beforeCase (items : List SetItem) : List SetItem := items.takeWhile fun item => !isCaseClass item

/-- Whether the classes of one case in the second set stand where ones stand in the first set. -/
def casesAlign (room : Nat) : Nat → List SetItem → List SetItem → Bool
  | 0, _, _ => true
  | fuel + 1, firsts, seconds =>
    let before := beforeCase seconds
    match seconds.drop before.length with
    | [] => true
    | _ :: rest =>
      let others := beforeCase firsts
      match firsts.drop others.length with
      | [] => false
      | _ :: more =>
        (setChars 0 others).length = (setChars room before).length
          && casesAlign room fuel more rest

/-- What is wrong with two sets of which one is translated into the other. -/
def translationFault? (settings : TrSettings) (firsts seconds : List SetItem) (room : Nat) :
    Option String :=
  if 1 < (seconds.filter isOpenCopies).length then
    some "only one [c*] repeat construct may appear in string2"
  else if seconds.any fun item => isClass item && !isCaseClass item then
    some "when translating, the only character classes that may appear in\nstring2 are 'upper' and 'lower'"
  else if !settings.isComplement && !casesAlign room (seconds.length + 1) firsts seconds then
    some "misaligned [:upper:] and/or [:lower:] construct"
  else if seconds.isEmpty && !settings.truncates && !firsts.isEmpty then
    some "when not truncating set1, string2 must be non-empty"
  else if settings.isComplement && firsts.any isClass
      && (setChars room seconds).eraseDups.length != 1 then
    some "when translating with complemented character classes,\nstring2 must map all characters in the domain to one"
  else none

/-- Translates, deletes or squeezes the input. -/
def trBody (settings : TrSettings) (firsts : List SetItem) (seconds : Option (List SetItem)) :
    Program Nat := do
  if firsts.any isOpenCopies then
    Program.die 1 (ascii "the [c*] repeat construct may not appear in string1")
  else
    let plain := setChars 0 firsts
    let plainTable := memberTable plain
    let isFirst (c : Char) : Bool := inTable plainTable c != settings.isComplement
    let firstChars := if settings.isComplement then allBytes.filter isFirst else plain
    let translates := !settings.deletes && seconds.isSome
    let second := seconds.getD []
    let fixed := (setChars 0 second).length
    let room := firstChars.length - fixed
    match (if translates then translationFault? settings firsts second room else none) with
    | some fault => Program.die 1 (ascii fault)
    | none =>
      if !translates && 1 < (second.filter isOpenCopies).length then
        Program.die 1 (ascii "only one [c*] repeat construct may appear in string2")
      else
      match ← Program.readInput with
      | .error cause => Program.die 1 (ascii "read error: " ++ ascii cause.reason)
      | .ok text =>
        let secondTable := memberTable (setChars room second)
        if settings.deletes then
          let kept := text.filter fun c => !isFirst c
          Program.out (if settings.squeezes then squeeze (inTable secondTable) kept else kept)
        else if translates then
          let base := (List.range 256).toArray.map Char.ofNat
          let couples :=
            if settings.isComplement then
              let chars := setChars room second
              firstChars.zip
                (chars ++ List.replicate (firstChars.length - chars.length)
                  (chars.getLast?.getD '\x00'))
            else pairs firsts second room
          let couples :=
            if settings.truncates then couples.take (setChars room second).length else couples
          let table := couples.foldl
            (fun table (couple : Char × Char) => table.setIfInBounds couple.1.toNat couple.2) base
          let changed := text.map fun c => table.getD c.toNat c
          Program.out
            (if settings.squeezes then squeeze (inTable secondTable) changed else changed)
        else Program.out (squeeze isFirst text)
        return 0

/-- Translates characters. -/
def tr : Tool :=
  Program.withArguments trRules {} trOption fun settings operands => do
    let least := if settings.deletes == settings.squeezes then 2 else 1
    let most := if settings.deletes && !settings.squeezes then 1 else 2
    let misuse (text : ByteText) (hint : Option String) : Program Nat := do
      Program.complain text
      match hint with
      | some hint => Program.err (ascii hint ++ ['\n'])
      | none => pure ()
      Program.suggestHelp
      return 1
    match operands with
    | [] => misuse (ascii "missing operand") none
    | first :: rest =>
      if operands.length < least then
        misuse (ascii "missing operand after " ++ Program.quoted (operands.getLast?.getD []))
          (some (if settings.squeezes then
            "Two strings must be given when both deleting and squeezing repeats."
            else "Two strings must be given when translating."))
      else if most < operands.length then
        misuse (ascii "extra operand " ++ Program.quoted ((operands[most]?).getD []))
          (if operands.length = 2 then
            some "Only one string may be given when deleting without squeezing repeats."
            else none)
      else
        operands.forM fun text => do
          (setWarnings (text.length + 1) text).forM Program.complain
        match readSet first, rest.head?.map readSet with
        | .error fault, _ => Program.die 1 fault
        | _, some (.error fault) => Program.die 1 fault
        | .ok firsts, some (.ok seconds) => trBody settings firsts (some seconds)
        | .ok firsts, none => trBody settings firsts none

end Tool

end SchemaDocs.Shell
