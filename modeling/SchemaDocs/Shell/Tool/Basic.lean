import SchemaDocs.Shell.Process
/-!
# Parts of programs

How programs name files in messages and read their options, and what many of them do alike.

## Names in messages

A name in a message is put between quotes so that a shell would read it as it is, always
or only where it holds something that a shell would not leave alone.
-/

namespace SchemaDocs.Shell

namespace Quoting

/-- Whether a character means something to a shell wherever it stands. -/
def isActive (c : Char) : Bool :=
  c = '!' || c = '"' || c = '$' || c = '&' || c = '(' || c = ')' || c = '*' || c = ';' || c = '<'
    || c = '>' || c = '[' || c = '^' || c = '\x60' || c = '|' || c = ' ' || c = '=' || c = '?'
    || c = '\\' || c = '\''

/-- Whether a character cannot be shown. -/
def isHidden (c : Char) : Bool := !isShown c

/-- A character that cannot be shown, behind a backslash. -/
def escaped (c : Char) : ByteText :=
  match c with
  | '\x07' => ascii "\\a"
  | '\x08' => ascii "\\b"
  | '\x0c' => ascii "\\f"
  | '\n' => ascii "\\n"
  | '\r' => ascii "\\r"
  | '\t' => ascii "\\t"
  | '\x0b' => ascii "\\v"
  | c =>
    let digits := ByteText.digitsIn 8 c.toNat
    '\\' :: (List.replicate (3 - digits.length) '0' ++ digits)

/-- A text between single quotes, with what cannot stand there outside of them. -/
def inQuotes (text : ByteText) : ByteText :=
  if text.contains '\'' && !(text.any fun c => isHidden c || c = '"' || c = '$' || c = '\x60'
      || c = '\\' || c = '!') then
    ['"'] ++ text ++ ['"']
  else
    let pieces := text.foldl
      (fun ((pieces, isEscaping) : List ByteText × Bool) c =>
        if isHidden c then
          ((if isEscaping then escaped c else ascii "'$'" ++ escaped c) :: pieces, true)
        else
          let before : ByteText := if isEscaping then ascii "''" else []
          let shown : ByteText := if c = '\'' then ascii "'\\''" else [c]
          ((before ++ shown) :: pieces, false))
      (([] : List ByteText), false)
    ['\''] ++ pieces.1.reverse.flatten ++ ['\'']

/-- A text between quotes where it needs them. -/
def whereNeeded (text : ByteText) : ByteText :=
  let opens :=
    match text with
    | [] => true
    | c :: _ => c = '#' || c = '~'
  let isBrace := text = ['\x7b'] || text = ['\x7d']
  if opens || isBrace || text.any fun c => isActive c || isHidden c then inQuotes text else text

end Quoting

namespace Program

/-- A message about a file. -/
def complainOf (file : ByteText) (cause : FileError) : Program Unit :=
  complain (Quoting.whereNeeded file ++ ascii ": " ++ ascii cause.reason)

end Program

end SchemaDocs.Shell

/-!
## Options of programs

Options may stand anywhere among the operands of a program, up to two dashes.  Short ones
are single letters, of which several may share a dash; long ones may be cut short as long
as they cannot be confused.
-/

namespace SchemaDocs.Shell

/-- Whether an option takes an argument. -/
inductive Need where
  | nothing | required | optional
deriving DecidableEq

/-- An option that a program has. -/
structure OptionForm where
  /-- The letter of the option, if it has one. -/
  short : Option Char
  /-- The long name of the option, empty if it has none. -/
  long : String
  need : Need := .nothing

namespace OptionForm

/-- An option with a letter and a long name. -/
def both (short : Char) (long : String) (need : Need := .nothing) : OptionForm :=
  ⟨some short, long, need⟩

/-- An option with a letter only. -/
def letter (short : Char) (need : Need := .nothing) : OptionForm := ⟨some short, "", need⟩

/-- An option with a long name only. -/
def word (long : String) (need : Need := .nothing) : OptionForm := ⟨none, long, need⟩

/-- The name that an option is known by: its letter, or its long name. -/
def key (form : OptionForm) : String :=
  match form.short with
  | some c => String.singleton c
  | none => form.long

end OptionForm

/-- Something that stands among the arguments of a program. -/
inductive OptionItem where
  | option (key : String) (argument : Option ByteText)
  /-- What is wrong with an option. -/
  | fault (text : ByteText)

/-- The options and operands of a program. -/
structure Arguments where
  items : List OptionItem
  operands : List ByteText

/-- How a program reads its arguments. -/
structure OptionRules where
  forms : List OptionForm
  /-- Whether the first operand ends the options. -/
  stopsAtOperand : Bool := false

namespace OptionRules

/-- The forms with a long name that begins with some text.  One that is written out is alone. -/
def matching (rules : OptionRules) (name : ByteText) : List OptionForm :=
  match rules.forms.find? fun form => form.long != "" && ascii form.long = name with
  | some form => [form]
  | none => rules.forms.filter fun form => form.long != "" && name.isPrefixOf (ascii form.long)

/-- A text between single quotes. -/
def quoted (text : ByteText) : ByteText := ['\''] ++ text ++ ['\'']

/-- Reads a long option, with the arguments after it. -/
def readLong (rules : OptionRules) (text : ByteText) (rest : List ByteText) :
    OptionItem × List ByteText :=
  let name := text.takeWhile (· != '=')
  let value : Option ByteText :=
    match text.drop name.length with
    | _ :: value => some value
    | [] => none
  match rules.matching name with
  | [] => (.fault (ascii "unrecognized option " ++ quoted (ascii "--" ++ name)), rest)
  | [form] =>
    match form.need, value, rest with
    | .nothing, some _, _ =>
      (.fault (ascii "option " ++ quoted (ascii ("--" ++ form.long))
        ++ ascii " doesn't allow an argument"), rest)
    | .nothing, none, _ => (.option form.key none, rest)
    | .optional, _, _ => (.option form.key value, rest)
    | .required, some value, _ => (.option form.key (some value), rest)
    | .required, none, value :: rest => (.option form.key (some value), rest)
    | .required, none, [] =>
      (.fault (ascii "option " ++ quoted (ascii ("--" ++ form.long))
        ++ ascii " requires an argument"), [])
  | several =>
    let names := several.map fun form => ascii " " ++ quoted (ascii ("--" ++ form.long))
    (.fault (ascii "option " ++ quoted (ascii "--" ++ text)
      ++ ascii " is ambiguous; possibilities:" ++ names.flatten), rest)

/-- Reads the short options that share a dash, with the arguments after them. -/
def readShort (rules : OptionRules) (rest : List ByteText) :
    ByteText → List OptionItem × List ByteText
  | [] => ([], rest)
  | c :: cs =>
    match rules.forms.find? fun form => form.short = some c with
    | none => ([.fault (ascii "invalid option -- " ++ quoted [c])], rest)
    | some form =>
      match form.need, cs, rest with
      | .nothing, _, _ =>
        let (items, rest) := readShort rules rest cs
        (.option form.key none :: items, rest)
      | .optional, [], _ => ([.option form.key none], rest)
      | _, c :: cs, _ => ([.option form.key (some (c :: cs))], rest)
      | .required, [], value :: rest => ([.option form.key (some value)], rest)
      | .required, [], [] =>
        ([.fault (ascii "option requires an argument -- " ++ quoted [c])], [])

/-- Whether something is wrong among some options. -/
def isFault : OptionItem → Bool
  | .fault _ => true
  | _ => false

/-- Reads arguments.  Each step takes one of them. -/
def readFrom (rules : OptionRules) : Nat → List ByteText → Arguments
  | 0, _ => ⟨[], []⟩
  | _ + 1, [] => ⟨[], []⟩
  | fuel + 1, argument :: rest =>
    match argument with
    | ['-', '-'] => ⟨[], rest⟩
    | '-' :: '-' :: text =>
      let (item, rest) := rules.readLong text rest
      if isFault item then ⟨[item], []⟩
      else
        let read := readFrom rules fuel rest
        ⟨item :: read.items, read.operands⟩
    | '-' :: c :: cs =>
      let (items, rest) := rules.readShort rest (c :: cs)
      if items.any isFault then ⟨items, []⟩
      else
        let read := readFrom rules fuel rest
        ⟨items ++ read.items, read.operands⟩
    | _ =>
      if rules.stopsAtOperand then ⟨[], argument :: rest⟩
      else
        let read := readFrom rules fuel rest
        ⟨read.items, argument :: read.operands⟩

/-- Reads the arguments of a program. -/
def read (rules : OptionRules) (arguments : List ByteText) : Arguments :=
  rules.readFrom (arguments.length + 1) arguments

end OptionRules

namespace Program

/-- Tells how to get help. -/
def suggestHelp : Program Unit := do
  let name ← name
  err (ascii "Try '" ++ name ++ ascii " --help' for more information.\n")

/-- Goes through options from left to right, each of which changes settings or ends the program
with a code.  What is wrong with an option ends it with a code of its own, after a message and a
word on how the program is used. -/
def withOptions {σ : Type} (faultCode : Nat) (usage : Program Unit)
    (step : σ → String → ByteText → Program (Except Nat σ))
    (settings : σ) : List OptionItem → Program (Except Nat σ)
  | [] => return .ok settings
  | .fault text :: _ => do
    complain text
    usage
    return .error faultCode
  | .option key argument :: rest => do
    match ← step settings key (argument.getD []) with
    | .error code => return .error code
    | .ok settings => withOptions faultCode usage step settings rest

/-- A program that reads options into settings and goes on with its operands. -/
def withArguments {σ : Type} (rules : OptionRules) (settings : σ)
    (step : σ → String → ByteText → Program (Except Nat σ))
    (body : σ → List ByteText → Program Nat) (faultCode : Nat := 1)
    (usage : Program Unit := suggestHelp) : Tool := do
  let arguments := rules.read (← read).arguments
  match ← withOptions faultCode usage step settings arguments.items with
  | .error code => return code
  | .ok settings => body settings arguments.operands

end Program

end SchemaDocs.Shell

/-!
## Parts of programs

What many programs do alike: reading one file after the other, reading numbers with units,
and refusing operands.
-/

namespace SchemaDocs.Shell

namespace Program

/-- A text between single quotes, as it stands in messages. -/
def quoted (text : ByteText) : ByteText := Quoting.inQuotes text

/-- Ends with a code after a message. -/
def die (code : Nat) (text : ByteText) : Program Nat := do
  complain text
  return code

/-- Ends after a message that tells how to get help. -/
def misuse (code : Nat) (text : ByteText) : Program Nat := do
  complain text
  suggestHelp
  return code

/-- Ends because an operand is missing. -/
def missingOperand (code : Nat := 1) : Program Nat := misuse code (ascii "missing operand")

/-- Ends because there is one operand too many. -/
def extraOperand (operand : ByteText) (code : Nat := 1) : Program Nat :=
  misuse code (ascii "extra operand " ++ quoted operand)

/-- The place of the group of words that an argument of an option belongs to, of which the first letters
are enough.  Otherwise the program ends after a message with all words. -/
def choose (code : Nat) (option : String) (groups : List (List String)) (argument : ByteText) :
    Program (Except Nat Nat) := do
  let indices (accepts : String → Bool) : List Nat :=
    groups.zipIdx.filterMap fun (group, index) => if group.any accepts then some index else none
  match indices fun word => ascii word = argument with
  | index :: _ => return .ok index
  | [] =>
    match indices fun word => argument.isPrefixOf (ascii word) with
    | [index] => return .ok index
    | found =>
      let lines := groups.map fun group =>
        let words := group.map fun word => ascii ("'" ++ word ++ "'")
        ascii "\n  - " ++ (words.intersperse (ascii ", ")).flatten
      let isAmbiguous := !found.isEmpty && !argument.isEmpty
      return .error (← misuse code
        (ascii (if isAmbiguous then "ambiguous argument " else "invalid argument ")
          ++ quoted argument ++ ascii (" for '" ++ option ++ "'\nValid arguments are:")
          ++ lines.flatten))

/-- The files that are read: the operands, or the input if there are none. -/
def inputsOr (operands : List ByteText) : List ByteText :=
  if operands.isEmpty then [['-']] else operands

/-- Does something with the text of each file, and gives the greater of two codes if a file cannot be
read. -/
def eachText (operands : List ByteText) (step : ByteText → ByteText → Program Unit) :
    Program Nat :=
  (inputsOr operands).foldlM (fun code file => do
    match ← readOperand file with
    | .error cause =>
      complainOf file cause
      return 1
    | .ok text =>
      step file text
      return code) 0

/-- The texts of all files put together, and a code. -/
def allText (operands : List ByteText) : Program (ByteText × Nat) := do
  let (texts, code) ← (inputsOr operands).foldlM (fun (texts, code) file => do
    match ← readOperand file with
    | .error cause =>
      complainOf file cause
      return (texts, 1)
    | .ok text => return (text :: texts, code)) (([] : List ByteText), 0)
  return (texts.reverse.flatten, code)

end Program

namespace Units

/-- The factor of a letter of a unit, as a power of a base. -/
def power? (c : Char) : Option Nat :=
  match c with
  | 'k' => some 1
  | 'K' => some 1
  | 'm' => some 2
  | 'M' => some 2
  | 'G' => some 3
  | 'T' => some 4
  | 'P' => some 5
  | 'E' => some 6
  | 'Z' => some 7
  | 'Y' => some 8
  | _ => none

/-- The factor of a unit. -/
def factor? (unit : ByteText) : Option Nat :=
  match unit with
  | [] => some 1
  | ['b'] => some 512
  | [c] => (power? c).map fun power => Nat.pow 1024 power
  | [c, 'B'] => (power? c).map fun power => Nat.pow 1000 power
  | [c, 'i', 'B'] => (power? c).map fun power => Nat.pow 1024 power
  | _ => none

/-- A number with a unit behind it. -/
def number? (text : ByteText) : Option Nat :=
  let digits := text.takeWhile Char.isDigit
  if digits.isEmpty then none
  else (factor? (text.drop digits.length)).map fun factor => ByteText.valueIn 10 digits * factor

end Units

end SchemaDocs.Shell
