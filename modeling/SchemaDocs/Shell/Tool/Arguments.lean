import SchemaDocs.Shell.Escape
import SchemaDocs.Shell.NumberText
import SchemaDocs.Shell.Tool.Basic
/-!
# Programs on arguments

Programs that look at their arguments only: they write them, take paths apart, wait, or
do nothing at all.
-/

namespace SchemaDocs.Shell

namespace Tool

/-! ## Writing arguments -/

/-- Writes arguments without end. -/
def yes : Tool := do
  let words := (← read).arguments
  let words :=
    match words with
    | ['-', '-'] :: rest => rest
    | words => words
  match words.find? fun word => 1 < word.length && word.head? = some '-' with
  | some _ =>
    Program.withArguments { forms := [.word "help", .word "version"] } ()
      (fun _ _ _ => return .ok ()) fun _ operands => do
        Program.outForever ((operands.intersperse [' ']).flatten ++ ['\n'])
        return 0
  | none =>
    let line := if words.isEmpty then ['y'] else (words.intersperse [' ']).flatten
    Program.outForever (line ++ ['\n'])
    return 0

/-- Whether a word is made of letters of options for writing arguments. -/
def isEchoOption (word : ByteText) : Bool :=
  match word with
  | '-' :: c :: cs => (c :: cs).all fun c => c = 'n' || c = 'e' || c = 'E'
  | _ => false

/-- A text with what is behind backslashes replaced, up to a mark that ends all output, and whether
there is one.  Octal numbers begin with a zero, and hexadecimal ones with an x.  Each step takes a
character. -/
def echoEscapes : Nat → ByteText → ByteText → ByteText × Bool
  | 0, taken, _ => (taken.reverse, false)
  | _ + 1, taken, [] => (taken.reverse, false)
  | fuel + 1, taken, '\\' :: rest =>
    match rest with
    | [] => (('\\' :: taken).reverse, false)
    | 'c' :: _ => (taken.reverse, true)
    | '0' :: rest =>
      let (number, rest) := Escape.digits 8 3 rest
      echoEscapes fuel (Escape.byte (ByteText.valueIn 8 number) :: taken) rest
    | 'x' :: more =>
      let (number, after) := Escape.digits 16 2 more
      if number.isEmpty then echoEscapes fuel ('\\' :: taken) rest
      else echoEscapes fuel (Escape.byte (ByteText.valueIn 16 number) :: taken) after
    | c :: after =>
      if ByteText.isDigitIn 8 c then
        let (number, rest) := Escape.digits 8 3 rest
        echoEscapes fuel (Escape.byte (ByteText.valueIn 8 number) :: taken) rest
      else
        match Escape.letter? c with
        | some named => echoEscapes fuel (named :: taken) after
        | none => echoEscapes fuel ('\\' :: taken) rest
  | fuel + 1, taken, c :: rest => echoEscapes fuel (c :: taken) rest

/-- The text that arguments stand for under their options. -/
def echoText (arguments : List ByteText) : ByteText :=
  let options := arguments.takeWhile isEchoOption
  let words := arguments.drop options.length
  let letters := (options.map fun word => word.drop 1).flatten
  let isLast (c : Char) : Bool :=
    ((letters.filter fun other => other = 'e' || other = 'E').getLast?) = some c
  let text := (words.intersperse [' ']).flatten
  let (text, isCut) := if isLast 'e' then echoEscapes (text.length + 1) [] text else (text, false)
  if letters.contains 'n' || isCut then text else text ++ ['\n']

/-- Writes arguments. -/
def echo : Tool := do
  Program.out (echoText (← read).arguments)
  return 0

/-- Ends with a code, whatever the arguments are. -/
def ending (code : Nat) : Tool := return code

/-! ## Numbers in a row -/

/-- How numbers in a row are written. -/
structure SeqSettings where
  separator : ByteText := ['\n']
  isWide : Bool := false
  format : Option ByteText := none

/-- The options of the program that counts. -/
def seqRules : OptionRules :=
  { forms :=
    [.both 'f' "format" .required, .both 's' "separator" .required, .both 'w' "equal-width",
     .word "help", .word "version"]
    stopsAtOperand := true }

/-- Settings after an option of the program that counts. -/
def seqOption (settings : SeqSettings) (key : String) (argument : ByteText) :
    Program (Except Nat SeqSettings) :=
  return .ok (match key with
    | "f" => { settings with format := some argument }
    | "s" => { settings with separator := argument }
    | "w" => { settings with isWide := true }
    | _ => settings)

/-- A decimal number with so many places, as a whole number of units of the last one. -/
structure Scaled where
  value : Int
  places : Nat

/-- A decimal number. -/
def scaled? (text : ByteText) : Option Scaled :=
  let (isNegative, digits) :=
    match text with
    | '-' :: rest => (true, rest)
    | '+' :: rest => (false, rest)
    | rest => (false, rest)
  let whole := digits.takeWhile Char.isDigit
  let rest := digits.drop whole.length
  let (fraction, rest) :=
    match rest with
    | '.' :: more =>
      let fraction := more.takeWhile Char.isDigit
      (fraction, more.drop fraction.length)
    | rest => ([], rest)
  if (whole.isEmpty && fraction.isEmpty) then none
  else
    let (exponent, rest) := Fractional.readExponent rest
    if !rest.isEmpty then none
    else
      let value : Int := ByteText.valueIn 10 (whole ++ fraction)
      let value := if isNegative then -value else value
      let places : Int := (fraction.length : Int) - exponent
      if 0 ≤ places then some ⟨value, places.toNat⟩
      else some ⟨value * (Nat.pow 10 (-places).toNat : Nat), 0⟩

/-- A decimal number in units of the last of so many places. -/
def Scaled.rescale (n : Scaled) (places : Nat) : Int := n.value * (Nat.pow 10 (places - n.places) : Nat)

/-- A number of units of the last place. -/
def decimalText (places : Nat) (value : Int) : ByteText :=
  (if value < 0 then ['-'] else []) ++ Fractional.pointed places false value.natAbs

/-- The number of values from one to another one. -/
def stepCount (first step last : Int) : Nat :=
  if step = 0 then 0
  else if 0 < step then (if last < first then 0 else ((last - first) / step).toNat + 1)
  else if first < last then 0
  else ((first - last) / (-step)).toNat + 1

/-- Digits with zeros after the sign up to a width. -/
def widened (width : Nat) (text : ByteText) : ByteText :=
  match text with
  | '-' :: digits => '-' :: (List.replicate (width - text.length) '0' ++ digits)
  | digits => List.replicate (width - text.length) '0' ++ digits

/-- A format cut at its directive: the text before it, the directive and the text after it. -/
def readFormat? (format : ByteText) : Option (ByteText × Directive × ByteText) :=
  let before := format.takeWhile (· != '%')
  match format.drop before.length with
  | '%' :: rest =>
    let flags := rest.takeWhile fun c => c = '-' || c = '+' || c = '#' || c = '0' || c = ' '
      || c = '\''
    let rest := rest.drop flags.length
    let width := rest.takeWhile Char.isDigit
    let rest := rest.drop width.length
    let (precision, rest) :=
      match rest with
      | '.' :: more =>
        let digits := more.takeWhile Char.isDigit
        (some (ByteText.valueIn 10 digits), more.drop digits.length)
      | rest => (none, rest)
    match rest with
    | c :: after =>
      if (ascii "efgEFG").contains c then
        some (before,
          { flags := flags, width := ByteText.valueIn 10 width, precision := precision
            conversion := c }, after)
      else none
    | [] => none
  | _ => none

/-- Writes numbers in a row. -/
def seq : Tool := do
  let process ← read
  /- A number below zero is no option. -/
  let isNumber (word : ByteText) : Bool :=
    match word with
    | '-' :: c :: _ => c.isDigit || c = '.'
    | _ => false
  let options := process.arguments.takeWhile fun word => !isNumber word
  let numbers := process.arguments.drop options.length
  let arguments :=
    if numbers.isEmpty || options.contains ['-', '-'] then process.arguments
    else options ++ [['-', '-']] ++ numbers
  let arguments :=
    if options.any fun word => word.head? != some '-' then process.arguments else arguments
  withReader (fun process => { process with arguments := arguments })
    (Program.withArguments seqRules {} seqOption fun settings operands => do
      match operands with
      | [] => Program.missingOperand
      | _ :: _ :: _ :: fourth :: _ => Program.extraOperand fourth
      | operands =>
        match operands.find? fun word => (scaled? word).isNone with
        | some word =>
          Program.misuse 1 (ascii "invalid floating point argument: " ++ Program.quoted word)
        | none =>
          let numbers := operands.filterMap scaled?
          let (first, step, last) : Scaled × Scaled × Scaled :=
            match numbers with
            | [last] => (⟨1, 0⟩, ⟨1, 0⟩, last)
            | [first, last] => (first, ⟨1, 0⟩, last)
            | [first, step, last] => (first, step, last)
            | _ => (⟨1, 0⟩, ⟨1, 0⟩, ⟨0, 0⟩)
          if step.value = 0 then
            Program.misuse 1 (ascii "invalid Zero increment value: "
              ++ Program.quoted ((operands[1]?).getD []))
          else
            let shown := max first.places step.places
            let places := max shown last.places
            let start := first.rescale places
            let width := step.rescale places
            let count := stepCount start width (last.rescale places)
            let values := (List.range count).map fun (index : Nat) => start + width * (index : Int)
            let plain := values.map fun value =>
              decimalText shown (value / (Nat.pow 10 (places - shown) : Nat))
            let texts ←
              match settings.format with
              | some format =>
                match readFormat? format with
                | some (before, directive, after) =>
                  pure (values.map fun value =>
                    before ++ Fractional.write directive
                      (Fractional.ofRatio 64 (value < 0) value.natAbs (Nat.pow 10 places)) ++ after)
                | none => pure plain
              | none =>
                if settings.isWide then
                  let longest :=
                    (plain.map List.length).foldl max
                      (decimalText shown (last.rescale places / (Nat.pow 10 (places - shown) : Nat))).length
                  pure (plain.map (widened longest))
                else pure plain
            if texts.isEmpty then return 0
            else
              Program.out ((texts.intersperse settings.separator).flatten ++ ['\n'])
              return 0)

/-! ## Paths -/

/-- A text without slashes at its end, unless it is one itself. -/
def withoutSlashes (path : ByteText) : ByteText :=
  let kept := (path.reverse.dropWhile (· = '/')).reverse
  if kept.isEmpty && !path.isEmpty then ['/'] else kept

/-- The last name of a path. -/
def lastNameOf (path : ByteText) : ByteText :=
  let path := withoutSlashes path
  if path = ['/'] then path else (path.reverse.takeWhile (· != '/')).reverse

/-- A path without its last name. -/
def parentOf (path : ByteText) : ByteText :=
  let path := withoutSlashes path
  if !path.contains '/' then ['.']
  else withoutSlashes ((path.reverse.dropWhile (· != '/')).reverse)

/-- Settings of the program that shows last names. -/
structure BasenameSettings where
  takesAll : Bool := false
  suffix : ByteText := []
  terminator : Char := '\n'

/-- A name without an ending, unless it is nothing else. -/
def withoutSuffix (suffix name : ByteText) : ByteText :=
  if suffix.reverse.isPrefixOf name.reverse && suffix.length < name.length then
    name.take (name.length - suffix.length)
  else name

/-- Shows the last names of paths. -/
def basename : Tool :=
  Program.withArguments
    { forms :=
      [.both 'a' "multiple", .both 's' "suffix" .required, .both 'z' "zero", .word "help",
       .word "version"]
      stopsAtOperand := true }
    ({} : BasenameSettings)
    (fun settings key argument => return .ok (match key with
      | "a" => { settings with takesAll := true }
      | "s" => { settings with takesAll := true, suffix := argument }
      | "z" => { settings with terminator := '\x00' }
      | _ => settings))
    fun settings operands => do
      match operands with
      | [] => Program.missingOperand
      | operands =>
        if settings.takesAll then
          operands.forM fun path =>
            Program.out (withoutSuffix settings.suffix (lastNameOf path) ++ [settings.terminator])
          return 0
        else
          match operands with
          | _ :: _ :: third :: _ => Program.extraOperand third
          | path :: rest =>
            Program.out (withoutSuffix (rest.head?.getD []) (lastNameOf path)
              ++ [settings.terminator])
            return 0
          | [] => return 0

/-- Shows paths without their last names. -/
def dirname : Tool :=
  Program.withArguments { forms := [.both 'z' "zero", .word "help", .word "version"] } '\n'
    (fun terminator key _ => return .ok (if key = "z" then '\x00' else terminator))
    fun terminator operands => do
      match operands with
      | [] => Program.missingOperand
      | operands =>
        operands.forM fun path => Program.out (parentOf path ++ [terminator])
        return 0

/-! ## Time -/

/-- The milliseconds of a time with a unit, if it comes to an end. -/
def milliseconds? (text : ByteText) : Option (Option Nat) :=
  match Fractional.read? 53 text with
  | none => none
  | some (number, rest) =>
    let factor? : Option Nat :=
      match rest with
      | [] => some 1000
      | ['s'] => some 1000
      | ['m'] => some 60000
      | ['h'] => some 3600000
      | ['d'] => some 86400000
      | _ => none
    match factor?, number.magnitude with
    | none, _ => none
    | some _, .infinite => if number.isNegative then none else some none
    | some _, .nothing => none
    | some factor, .finite whole exponent =>
      if number.isNegative && whole != 0 then none
      else
        let (numerator, denominator) := Fractional.ratio whole exponent
        some (some (numerator * factor / denominator))

/-- Waits. -/
def sleep : Tool :=
  Program.withArguments { forms := [.word "help", .word "version"] } ()
    (fun _ _ _ => return .ok ()) fun _ operands => do
      match operands with
      | [] => Program.missingOperand
      | operands =>
        let bad := operands.filter fun word => (milliseconds? word).isNone
        if !bad.isEmpty then
          bad.forM fun word =>
            Program.complain (ascii "invalid time interval " ++ Program.quoted word)
          Program.suggestHelp
          return 1
        else
          let times := operands.filterMap milliseconds?
          if times.contains none then System.stall .asleep
          else System.wait (ByteText.total (times.filterMap id))
          return 0

/-! ## Surroundings -/

/-- Shows the directory. -/
def pwd : Tool :=
  Program.withArguments
    { forms := [.both 'L' "logical", .both 'P' "physical", .word "help", .word "version"] } ()
    (fun _ _ _ => return .ok ()) fun _ operands => do
      if !operands.isEmpty then Program.complain (ascii "ignoring non-option arguments")
      let steps := (← read).directory
      let path : ByteText :=
        if steps.isEmpty then ['/'] else (steps.map fun name => '/' :: ByteText.ofString name).flatten
      Program.outLine path
      return 0

/-- Shows variables. -/
def printenv : Tool :=
  Program.withArguments
    { forms := [.both '0' "null", .word "help", .word "version"], stopsAtOperand := true } '\n'
    (fun terminator key _ => return .ok (if key = "0" then '\x00' else terminator))
    (fun terminator operands => do
      let environment := (← read).environment
      if operands.isEmpty then
        environment.forM fun (name, value) => Program.out (name ++ ['='] ++ value ++ [terminator])
        return 0
      else
        operands.foldlM (fun code name => do
          match environment.find? fun entry => entry.1 = name with
          | some (_, value) =>
            Program.out (value ++ [terminator])
            return code
          | none => return 1) 0) 2

/-- Shows a line, whatever the arguments are. -/
def tell (text : String) : Tool := do
  Program.outLine (ascii text)
  return 0

end Tool

end SchemaDocs.Shell
