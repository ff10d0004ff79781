import SchemaDocs.Shell.Calendar
import SchemaDocs.Shell.NumberText
import SchemaDocs.Shell.Session.Builtin.Basic
import SchemaDocs.Shell.Session.Field
/-!
# Commands of the shell that read and write text

Writing arguments as they are or under a format, and reading lines into variables.
-/

namespace SchemaDocs.Shell

namespace Builtin

/-! ## Echo -/

/-- The arguments with blanks between them and a line feed, in which backslashes name characters. -/
def echo (arguments : List ByteText) : Action Nat := do
  let (endsLine, words) :=
    match arguments with
    | ['-', 'n'] :: rest => (false, rest)
    | rest => (true, rest)
  let (text, isCut) := Escape.interpret (words.intersperse [' ']).flatten
  out (if endsLine && !isCut then text ++ ['\n'] else text)
  return 0

/-! ## Formats -/

/-- The state of writing arguments under a format. -/
structure Printing where
  dialect : Dialect
  arguments : List ByteText
  /-- The text so far, the last piece first. -/
  written : List ByteText := []
  status : Nat := 0
  isCut : Bool := false

namespace Printing

/-- Adds text. -/
def add (state : Printing) (text : ByteText) : Printing :=
  { state with written := text :: state.written }

/-- Takes the next argument, if there is one. -/
def next (state : Printing) : Option ByteText × Printing :=
  match state.arguments with
  | [] => (none, state)
  | first :: rest => (some first, { state with arguments := rest })

/-- Tells that an argument is no number as a whole, or none at all. -/
def complain (text : ByteText) (reason : String) (state : Printing) : Action Printing := do
  Action.warn (text ++ ascii ": " ++ ascii reason)
  return { state with status := 1 }

/-- What kind of number a text is not. -/
def invalidity (text : ByteText) : String :=
  match text with
  | '0' :: 'x' :: _ => "invalid hex number"
  | '0' :: c :: _ => if c.isDigit then "invalid octal number" else "invalid number"
  | _ => "invalid number"

/-- Notes what is wrong with an argument behind a number. -/
def check (text rest : ByteText) (state : Printing) : Action Printing := do
  if rest.isEmpty then return state
  else if state.dialect = .bash then complain text (invalidity text) state
  else if rest = text then complain text "expected numeric value" state
  else complain text "not completely converted" state

/-- The whole number of an argument.  A number is cut off where 64 bits end, with or without a
sign. -/
def integer (isSigned : Bool) (text : ByteText) (state : Printing) : Action (Int × Printing) := do
  match text with
  | [] => return (0, state)
  | c :: rest =>
    if c = '\'' || c = '"' then return (((rest.head?.map Char.toNat).getD 0 : Nat), state)
    else
      let body := text.dropWhile isSpaceChar
      let (isNegative, digits) :=
        match body with
        | '-' :: digits => (true, digits)
        | '+' :: digits => (false, digits)
        | digits => (false, digits)
      if !(digits.head?.any Char.isDigit) then
        return (0, ← check text text state)
      else
        let (value, rest) := Arithmetic.leadingNumber digits
        let bound :=
          if isSigned then (if isNegative then Arithmetic.greatest + 1 else Arithmetic.greatest)
          else 2 * Arithmetic.greatest + 1
        let kept : Int := (min value bound : Nat)
        let number : Int := if isNegative && (isSigned || value ≤ bound) then -kept else kept
        if !rest.isEmpty then return (number, ← check text rest state)
        else if bound < value then
          if state.dialect = .bash then
            Action.warn (ascii "warning: " ++ text ++ ascii ": Numerical result out of range")
            return (number, state)
          else return (number, ← complain text "Numerical result out of range" state)
        else return (number, state)

/-- A whole number as one of 64 bits without a sign. -/
def unsigned (n : Int) : Nat := (n % 18446744073709551616).toNat

/-- The number with a fraction of an argument. -/
def fraction (text : ByteText) (state : Printing) : Action (Fractional × Printing) := do
  match text with
  | [] => return (⟨false, .finite 0 0⟩, state)
  | c :: rest =>
    if c = '\'' || c = '"' then
      return (⟨false, .finite ((rest.head?.map Char.toNat).getD 0) 0⟩, state)
    else
      match Fractional.read? (if state.dialect = .bash then 64 else 53) text with
      | none => return (⟨false, .finite 0 0⟩, ← check text text state)
      | some (number, rest) => return (number, ← check text rest state)

/-- A number in a directive, which may be an argument, and what follows it. -/
def directiveNumber (text : ByteText) (state : Printing) :
    Action (Option Int × ByteText × Printing) := do
  match text with
  | '*' :: rest =>
    let (argument, state) := state.next
    let (value, state) ← integer true (argument.getD []) state
    return (some value, rest, state)
  | _ =>
    let digits := text.takeWhile Char.isDigit
    return (ByteText.toNat? digits |>.map Int.ofNat, text.drop digits.length, state)

/-- Writes an argument under a directive. -/
def convert (source : ByteText) (directive : Directive) (state : Printing) : Action Printing := do
  let (argument, state) := state.next
  let text := argument.getD []
  match directive.conversion with
  | 's' => return state.add (directive.writeText text)
  | 'b' =>
    let (text, isCut) :=
      if state.dialect = .bash then Escape.interpretMore true text else Escape.interpret text
    return { state.add (directive.writeText text) with isCut := isCut }
  | 'c' => return state.add (directive.pad [text.head?.getD '\x00'])
  | 'd' =>
    let (value, state) ← integer true text state
    return state.add (directive.writeSigned value)
  | 'i' =>
    let (value, state) ← integer true text state
    return state.add (directive.writeSigned value)
  | c =>
    if c = 'o' || c = 'u' || c = 'x' || c = 'X' then
      let (value, state) ← integer false text state
      return state.add (directive.writeUnsigned (unsigned value))
    else if c = 'e' || c = 'E' || c = 'f' || c = 'F' || c = 'g' || c = 'G' then
      let (value, state) ← fraction text state
      return state.add (Fractional.write directive value)
    else if state.dialect = .sh then Action.fail (['%'] ++ source ++ ascii ": invalid directive")
    else if c = 'q' || c = 'Q' then
      return state.add ({ directive with precision := none }.writeText
        (Quoted.escaped (if c = 'Q' then text.take (directive.precision.getD text.length) else text)))
    else
      Action.warn (['\x60', c] ++ ascii "': invalid format character")
      return { state with status := 1, isCut := true }

/-- Reads a directive and writes an argument under it, and gives what follows it. -/
def directive (text : ByteText) (state : Printing) : Action (ByteText × Printing) := do
  let flags := text.takeWhile fun c => c = '#' || c = '-' || c = '+' || c = ' ' || c = '0'
  let (width, rest, state) ← directiveNumber (text.drop flags.length) state
  let flags := if width.any (· < 0) then '-' :: flags else flags
  let (precision, rest, state) ←
    match rest with
    | '.' :: rest =>
      let (precision, rest, state) ← directiveNumber rest state
      pure (some (precision.getD 0), rest, state)
    | rest => pure (none, rest, state)
  let rest := if state.dialect = .bash then rest.dropWhile (ascii "hjlLtz").contains else rest
  match rest with
  | [] =>
    if state.dialect = .sh then Action.fail (ascii "missing format character")
    else
      Action.warn (ascii "\x60" ++ ['%'] ++ text ++ ascii "': missing format character")
      return ([], { state with status := 1, isCut := true })
  | '(' :: rest =>
    if state.dialect = .sh then Action.fail (ascii "%(: invalid directive")
    else
      let format := rest.takeWhile (· != ')')
      let after := rest.drop (format.length + 2)
      let (argument, state) := state.next
      let (seconds, state) ← match argument with
        | some argument => integer true argument state
        | none => pure (-1, state)
      let seconds := if seconds < 0 then 0 else seconds
      let text := Calendar.write format seconds
      return (after, state.add (({ flags := flags, width := (width.getD 0).natAbs, conversion := 's'
                                   precision := none } : Directive).writeText text))
  | c :: rest =>
    let source := text.take (text.length - rest.length)
    let state ← convert source
      { flags := flags, width := (width.getD 0).natAbs, conversion := c
        precision := precision.bind fun digits => if digits < 0 then none else some digits.toNat }
      state
    return (rest, state)

/-- Goes through a format once.  Each step takes a character of it. -/
def formatFrom : Nat → ByteText → Printing → Action Printing
  | 0, _, state => return state
  | _ + 1, [], state => return state
  | fuel + 1, c :: rest, state => do
    match c, rest with
    | '\\', 'c' :: _ => formatFrom fuel rest (state.add ['\\'])
    | '\\', '0' :: _ =>
      let (number, rest) := Escape.digits 8 3 rest
      formatFrom fuel rest (state.add [Escape.byte (ByteText.valueIn 8 number)])
    | '\\', _ =>
      let (digits, after) := Escape.digits 8 3 rest
      if digits.isEmpty then
        match if state.dialect = .bash then Escape.extended? rest
          else (rest.head?.bind Escape.letter?).map fun named => ([named], rest.drop 1) with
        | some (named, after) => formatFrom fuel after (state.add named)
        | none =>
          if rest.head? = some '"' then formatFrom fuel (rest.drop 1) (state.add ['"'])
          else formatFrom fuel rest (state.add ['\\'])
      else formatFrom fuel after (state.add [Escape.byte (ByteText.valueIn 8 digits)])
    | '%', '%' :: rest => formatFrom fuel rest (state.add ['%'])
    | '%', _ =>
      let (rest, state) ← directive rest state
      if state.isCut then return state else formatFrom fuel rest state
    | _, _ => formatFrom fuel rest (state.add [c])

/-- Goes through a format as long as arguments are left.  Each step takes an argument. -/
def repeatFormat (format : ByteText) : Nat → Printing → Action Printing
  | 0, state => return state
  | fuel + 1, state => do
    let before := state.arguments.length
    let state ← formatFrom (format.length + 1) format state
    if state.isCut || state.arguments.isEmpty || state.arguments.length = before then return state
    else repeatFormat format fuel state

end Printing

/-- Writes arguments under a format. -/
def printf (arguments : List ByteText) : Action Nat := do
  let (_, operands) ← options "" arguments
  match operands with
  | [] => Action.fail (ascii "usage: printf format [arg ...]")
  | format :: rest =>
    let state ← Printing.repeatFormat format (rest.length + 1)
      { dialect := .sh, arguments := rest }
    out state.written.reverse.flatten
    return state.status

/-! ## Reading -/

/-- Reads a line from the input, with what stood behind a backslash marked, and whether a line feed
ended it.  Each step reads a line of the input. -/
def readMarked (isRaw : Bool) (channel : Nat) : Nat → Action (MarkedText × Bool)
  | 0 => return ([], false)
  | fuel + 1 => do
    let line ← Action.system (System.readLine channel)
    Action.settle
    let isEnded := line.getLast? = some '\n'
    let text := (if isEnded then line.dropLast else line).filter (· != '\x00')
    if isRaw then return (marked text false, isEnded)
    else
      let (taken, isOpen) := text.foldl
        (fun ((taken, isOpen) : MarkedText × Bool) c =>
          if isOpen then ((c, true) :: taken, false)
          else if c = '\\' then (taken, true)
          else ((c, false) :: taken, false))
        ([], false)
      if isOpen && isEnded then
        let (more, isEnded) ← readMarked isRaw channel fuel
        return (taken.reverse ++ more, isEnded)
      else return (taken.reverse, isEnded)

/-- Whether a marked character is a separator that is blank. -/
def isBlankSeparator (separators : ByteText) (c : Char × Bool) : Bool :=
  !c.2 && separators.contains c.1 && (c.1 = ' ' || c.1 = '\t' || c.1 = '\n')

/-- Whether a marked character is a separator. -/
def isSeparator (separators : ByteText) (c : Char × Bool) : Bool := !c.2 && separators.contains c.1

/-- The texts of a line for some variables.  The last one gets all that is left. -/
def share (separators : ByteText) : Nat → MarkedText → List MarkedText
  | 0, _ => []
  | 1, text =>
    let pieces := text.map fun (c, isQuoted) =>
      if isQuoted then Piece.fixed [(c, true)] else Piece.loose [c]
    match Piece.fields separators pieces with
    | [] => [[]]
    | [field] => [field]
    | _ => [(text.reverse.dropWhile (isBlankSeparator separators)).reverse]
  | count + 2, text =>
    let field := text.takeWhile fun c => !isSeparator separators c
    let rest := (text.drop field.length).dropWhile (isBlankSeparator separators)
    let rest :=
      match rest with
      | c :: more =>
        if isSeparator separators c then more.dropWhile (isBlankSeparator separators) else rest
      | [] => []
    field :: share separators (count + 1) rest

/-- Reads a line into variables. -/
def readLine (arguments : List ByteText) : Action Nat := do
  let (options, names) ← options "p:r" arguments
  let isRaw := options.any fun option => option.1 = 'r'
  if names.isEmpty then Action.fail (ascii "arg count")
  else
    match ← Action.channelOf? 0 with
    | none => return 1
    | some channel =>
      if ← Action.program (Program.isDirectory channel) then return 1
      else
        let (pending, _) ← Action.system (System.pending channel)
        let (line, isEnded) ← readMarked isRaw channel (pending.length + 1)
        let separators ← Action.separators
        let line := line.dropWhile (isBlankSeparator separators)
        let texts := share separators names.length line
        (names.zip texts).forM fun (name, text) => do
          requireName name name
          Action.assign name (unmarked text)
        return if isEnded then 0 else 1

/-- The commands that read and write text. -/
def textBuiltins : List Builtin :=
  [{ name := "echo", run := fun _ => echo },
   { name := "printf", run := fun _ => printf },
   { name := "read", run := fun _ => readLine }]

end Builtin

end SchemaDocs.Shell
