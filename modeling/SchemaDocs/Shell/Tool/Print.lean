import SchemaDocs.Shell.Escape
import SchemaDocs.Shell.NumberText
import SchemaDocs.Shell.Tool.Basic
/-!
# Writing under a format

A format is gone through as long as there are arguments for it.  Each argument is written
under a directive; what stands between directives is written as it is, up to characters
behind a backslash.
-/

namespace SchemaDocs.Shell

namespace Tool

/-- The state of writing under a format. -/
structure PrintState where
  arguments : List ByteText
  /-- The text so far, the last piece first. -/
  written : List ByteText := []
  code : Nat := 0
  /-- Whether the program is at its end. -/
  isOver : Bool := false

namespace PrintState

/-- Adds text. -/
def add (state : PrintState) (text : ByteText) : PrintState :=
  { state with written := text :: state.written }

/-- Takes the next argument, which is empty if there is none. -/
def next (state : PrintState) : ByteText × PrintState :=
  match state.arguments with
  | [] => ([], state)
  | first :: rest => (first, { state with arguments := rest })

/-- Ends the program after a message. -/
def abort (state : PrintState) (text : ByteText) : Program PrintState := do
  Program.complain text
  return { state with code := 1, isOver := true }

/-! ## Numbers -/

/-- A whole number at the start of a text in the base that it tells, and what follows it. -/
def magnitude (text : ByteText) : Nat × ByteText :=
  let take (base : Nat) (text : ByteText) : Nat × ByteText :=
    let digits := text.takeWhile (ByteText.isDigitIn base)
    (ByteText.valueIn base digits, text.drop digits.length)
  match text with
  | '0' :: x :: c :: rest =>
    if x.toLower = 'x' && ByteText.isDigitIn 16 c then take 16 (c :: rest) else take 8 text
  | '0' :: _ => take 8 text
  | _ => take 10 text

/-- A character constant, with a warning if more than one character follows the quote. -/
def constant? (text : ByteText) : Program (Option Nat) := do
  match text with
  | quote :: c :: rest =>
    if quote = '"' || quote = '\'' then
      if !rest.isEmpty then
        Program.complain (ascii "warning: " ++ rest
          ++ ascii ": character(s) following character constant have been ignored")
      return some c.toNat
    else return none
  | _ => return none

/-- Tells what is wrong with a number, if anything is. -/
def check (state : PrintState) (text rest : ByteText) (isTooBig : Bool) : Program PrintState := do
  let tell (words : String) : Program PrintState := do
    Program.complain (Program.quoted text ++ ascii (": " ++ words))
    return { state with code := 1 }
  if isTooBig then tell "Numerical result out of range"
  else if rest.isEmpty then return state
  else if rest = text then tell "expected a numeric value"
  else tell "value not completely converted"

/-- The whole number of an argument, within 64 bits with a sign or without. -/
def integer (state : PrintState) (isSigned : Bool) (text : ByteText) : Program (Int × PrintState) := do
  match ← constant? text with
  | some code => return ((code : Nat), state)
  | none =>
    let body := text.dropWhile isSpaceChar
    let (isNegative, digits) :=
      match body with
      | '-' :: digits => (true, digits)
      | '+' :: digits => (false, digits)
      | digits => (false, digits)
    if !(digits.head?.any Char.isDigit) then return (0, ← state.check text text false)
    else
      let (value, rest) := magnitude digits
      let bound :=
        if isSigned then (if isNegative then Nat.pow 2 63 else Nat.pow 2 63 - 1)
        else Nat.pow 2 64 - 1
      let kept : Int := (min value bound : Nat)
      let number := if isNegative && (isSigned || value ≤ bound) then -kept else kept
      return (number, ← state.check text rest (bound < value))

/-- The number with a fraction of an argument. -/
def fraction (state : PrintState) (text : ByteText) : Program (Fractional × PrintState) := do
  match ← constant? text with
  | some code => return (⟨false, .finite code 0⟩, state)
  | none =>
    match Fractional.read? 64 text with
    | none => return (⟨false, .finite 0 0⟩, ← state.check text text false)
    | some (number, rest) => return (number, ← state.check text rest false)

/-! ## Characters behind a backslash -/

/-- Writes what stands behind a backslash, and gives what follows it.  A zero may come before octal
digits. -/
def escape (state : PrintState) (skipsZero : Bool) (text : ByteText) :
    Program (ByteText × PrintState) := do
  let missing : Program (ByteText × PrintState) := do
    return ([], ← state.abort (ascii "missing hexadecimal number in escape"))
  match text with
  | [] => return ([], state.add ['\\'])
  | 'x' :: rest =>
    let (digits, rest) := Escape.digits 16 2 rest
    if digits.isEmpty then missing
    else return (rest, state.add [Escape.byte (ByteText.valueIn 16 digits)])
  | 'c' :: rest => return (rest, { state with isOver := true })
  | '"' :: rest => return (rest, state.add ['"'])
  | c :: rest =>
    if ByteText.isDigitIn 8 c then
      let (digits, rest) := Escape.digits 8 3 (if skipsZero && c = '0' then rest else text)
      return (rest, state.add [Escape.byte (ByteText.valueIn 8 digits)])
    else if c = 'u' || c = 'U' then
      let size := if c = 'u' then 4 else 8
      let (digits, rest) := Escape.digits 16 size rest
      let code := ByteText.valueIn 16 digits
      if digits.length < size then missing
      else if 0xd800 ≤ code && code ≤ 0xdfff then
        return ([], ← state.abort (ascii "invalid universal character name \\" ++ [c]
          ++ digits.map Char.toLower))
      else return (rest, state.add (Escape.codePoint code))
    else
      match Escape.letter? c with
      | some named => return (rest, state.add [named])
      | none => return (rest, state.add ['\\', c])

/-- Writes an argument in which backslashes name characters.  Each step takes a character. -/
def escaped : Nat → PrintState → ByteText → Program PrintState
  | 0, state, _ => return state
  | _ + 1, state, [] => return state
  | fuel + 1, state, '\\' :: rest => do
    let (rest, state) ← escape state true rest
    if state.isOver then return state else escaped fuel state rest
  | fuel + 1, state, c :: rest => escaped fuel (state.add [c]) rest

/-! ## Directives -/

/-- The conversions that some flags and a precision leave. -/
def allowed (flags : ByteText) (hasPrecision : Bool) : List Char :=
  let all := ascii "aAcdeEfFgGiosuxX"
  let taken :=
    (if flags.contains '\'' || flags.contains 'I' then ascii "aAceEosxX" else [])
      ++ (if flags.contains '#' then ascii "cdisu" else [])
      ++ (if flags.contains '0' then ascii "cs" else [])
      ++ (if hasPrecision then ['c'] else [])
  all.filter fun c => !taken.contains c

/-- A number in a directive, which may be an argument, and what follows it. -/
def directiveNumber (state : PrintState) (text : ByteText) :
    Program (Option Int × ByteText × PrintState) := do
  match text with
  | '*' :: rest =>
    let (argument, state) := state.next
    let (value, state) ← state.integer true argument
    return (some value, rest, state)
  | _ =>
    let digits := text.takeWhile Char.isDigit
    return ((ByteText.toNat? digits).map Int.ofNat, text.drop digits.length, state)

/-- Writes an argument under a directive. -/
def convert (state : PrintState) (directive : Directive) : Program PrintState := do
  let (text, state) := state.next
  match directive.conversion with
  | 's' => return state.add (directive.writeText text)
  | 'c' => return state.add (directive.pad [text.head?.getD '\x00'])
  | c =>
    if c = 'd' || c = 'i' then
      let (value, state) ← state.integer true text
      return state.add (directive.writeSigned value)
    else if c = 'o' || c = 'u' || c = 'x' || c = 'X' then
      let (value, state) ← state.integer false text
      return state.add (directive.writeUnsigned (value % (Nat.pow 2 64 : Nat)).toNat)
    else
      let (value, state) ← state.fraction text
      return state.add (Fractional.write directive value)

/-- Reads a directive and writes an argument under it, and gives what follows it. -/
def directive (state : PrintState) (text : ByteText) : Program (ByteText × PrintState) := do
  let flags := text.takeWhile (ascii "I'-+ #0").contains
  let (width, rest, state) ← state.directiveNumber (text.drop flags.length)
  let hasPrecision := rest.head? = some '.'
  let (precision, rest, state) ←
    if hasPrecision then do
      let (precision, rest, state) ← state.directiveNumber (rest.drop 1)
      pure (some (precision.getD 0), rest, state)
    else pure (none, rest, state)
  let rest := rest.dropWhile (ascii "lLhjtz").contains
  let source := '%' :: text.take (text.length - rest.length + 1)
  match rest with
  | c :: after =>
    if (allowed flags hasPrecision).contains c then
      let flags := (if width.any (· < 0) then ['-'] else []) ++ flags.filter (ascii "-+ #0").contains
      let state ← state.convert
        { flags := flags, width := (width.getD 0).natAbs, conversion := c
          precision := precision.bind fun digits => if digits < 0 then none else some digits.toNat }
      return (after, state)
    else return ([], ← state.abort (source ++ ascii ": invalid conversion specification"))
  | [] => return ([], ← state.abort (source ++ ascii ": invalid conversion specification"))

/-- Goes through a format once.  Each step takes a character of it. -/
def formatFrom : Nat → PrintState → ByteText → Program PrintState
  | 0, state, _ => return state
  | _ + 1, state, [] => return state
  | fuel + 1, state, c :: rest => do
    if state.isOver then return state
    else
      match c, rest with
      | '%', '%' :: rest => formatFrom fuel (state.add ['%']) rest
      | '%', 'b' :: rest =>
        let (argument, state) := state.next
        formatFrom fuel (← escaped (argument.length + 1) state argument) rest
      | '%', 'q' :: rest =>
        let isThere := !state.arguments.isEmpty
        let (argument, state) := state.next
        formatFrom fuel (if isThere then state.add (Quoting.whereNeeded argument) else state) rest
      | '%', _ =>
        let (rest, state) ← state.directive rest
        formatFrom fuel state rest
      | '\\', _ =>
        let (rest, state) ← state.escape false rest
        formatFrom fuel state rest
      | _, _ => formatFrom fuel (state.add [c]) rest

/-- Goes through a format as long as it takes arguments.  Each step goes through it once. -/
def repeated (format : ByteText) : Nat → PrintState → Program PrintState
  | 0, state => return state
  | fuel + 1, state => do
    let before := state.arguments.length
    let state ← formatFrom (format.length + 1) state format
    if state.isOver || state.arguments.isEmpty || state.arguments.length = before then return state
    else repeated format fuel state

end PrintState

/-- Writes arguments under a format. -/
def printf : Tool := do
  let arguments :=
    match (← read).arguments with
    | ['-', '-'] :: rest => rest
    | rest => rest
  match arguments with
  | [] => Program.missingOperand
  | format :: rest =>
    let state ← PrintState.repeated format (rest.length + 1) { arguments := rest }
    Program.out state.written.reverse.flatten
    match state.isOver, state.arguments with
    | false, extra :: _ =>
      Program.complain (ascii "warning: ignoring excess arguments, starting with "
        ++ Program.quoted extra)
    | _, _ => pure ()
    return state.code

end Tool

end SchemaDocs.Shell
