import SchemaDocs.Shell.NumberText
import SchemaDocs.Shell.Tool.Basic
import SchemaDocs.Shell.Tool.Columns
/-!
# Programs for numbers

Factors of numbers, and numbers with units.

## Prime factors

Whole numbers as products of primes.  Small divisors are tried one by one; a larger number is
tested for being prime, and otherwise taken apart at a divisor that a walk of remainders runs into.
-/

namespace SchemaDocs.Shell

namespace Prime

/-- A power of a number up to multiples of another one.  Each step takes a binary digit. -/
def powerFrom (modulus : Nat) : Nat → Nat → Nat → Nat → Nat
  | 0, _, _, product => product
  | fuel + 1, base, exponent, product =>
    if exponent = 0 then product
    else
      powerFrom modulus fuel (base * base % modulus) (exponent / 2)
        (if exponent % 2 = 1 then product * base % modulus else product)

/-- A power of a number up to multiples of another one. -/
def power (modulus base exponent : Nat) : Nat :=
  powerFrom modulus (exponent.log2 + 2) (base % modulus) exponent (1 % modulus)

/-- Whether one of so many squares of a remainder is the one before zero. -/
def reachesLast (modulus : Nat) : Nat → Nat → Bool
  | 0, _ => false
  | steps + 1, remainder =>
    remainder = modulus - 1 || reachesLast modulus steps (remainder * remainder % modulus)

/-- The number of times that two divides a number.  Each step divides once. -/
def twosIn : Nat → Nat → Nat
  | 0, _ => 0
  | fuel + 1, n => if n = 0 || n % 2 = 1 then 0 else twosIn fuel (n / 2) + 1

/-- The bases of the test for primes. -/
def bases : List Nat := [2, 3, 5, 7, 11, 13, 17, 19, 23, 29, 31, 37]

/-- Whether an odd number that is greater than all bases is prime. -/
def passesTest (n : Nat) : Bool :=
  let twos := twosIn (n.log2 + 1) (n - 1)
  let odd := (n - 1) / Nat.pow 2 twos
  bases.all fun base =>
    let remainder := power n base odd
    remainder = 1 || reachesLast n twos remainder

/-- Goes on with a walk of remainders, once slowly and once twice as fast, until both differ by
something that shares a divisor with the number. -/
def walkFrom (n shift : Nat) : Nat → Nat → Nat → Option Nat
  | 0, _, _ => none
  | fuel + 1, slow, fast =>
    let step (x : Nat) : Nat := (x * x + shift) % n
    let slow := step slow
    let fast := step (step fast)
    let shared := Nat.gcd (if slow < fast then fast - slow else slow - fast) n
    if shared = n then none
    else if 1 < shared then some shared
    else walkFrom n shift fuel slow fast

/-- The longest walk of remainders. -/
def longestWalk : Nat := 400000

/-- A divisor of a number that is not prime, from walks with several shifts. -/
def divisor? (n : Nat) : Option Nat :=
  [1, 3, 5, 7, 11].findSome? fun shift => walkFrom n shift longestWalk 2 2

/-- The prime factors of a number without small divisors.  Each step finds a divisor. -/
def largeFactors : Nat → Nat → List Nat
  | 0, n => [n]
  | fuel + 1, n =>
    if n < 2 then []
    else if n < 1000000 || passesTest n then [n]
    else
      match divisor? n with
      | some found => largeFactors fuel found ++ largeFactors fuel (n / found)
      | none => [n]

/-- The prime factors of a number from a possible divisor on.  Each step tries a divisor, or takes one
out of the number. -/
def factorsFrom : Nat → Nat → Nat → List Nat
  | 0, _, n => largeFactors (n.log2 + 1) n
  | fuel + 1, candidate, n =>
    if n < 2 then []
    else if n < candidate * candidate then [n]
    else if n % candidate = 0 then candidate :: factorsFrom fuel candidate (n / candidate)
    else factorsFrom fuel (if candidate = 2 then 3 else candidate + 2) n

/-- The prime factors of a number, the least first. -/
def factors (n : Nat) : List Nat :=
  (factorsFrom (600 + n.log2) 2 n).mergeSort fun a b => decide (a ≤ b)

end Prime

namespace Tool

/-- Factors with how often they occur next to each other. -/
def counted : List Nat → List (Nat × Nat)
  | [] => []
  | n :: rest =>
    match counted rest with
    | (m, count) :: others =>
      if n = m then (m, count + 1) :: others else (n, 1) :: (m, count) :: others
    | [] => [(n, 1)]

/-- The line of a number with its factors. -/
def factorLine (asPowers : Bool) (n : Nat) : ByteText :=
  let factors := Prime.factors n
  let shown :=
    if asPowers then
      (counted factors).map fun (factor, count) =>
        ByteText.ofNat factor ++ (if count = 1 then [] else '^' :: ByteText.ofNat count)
    else factors.map ByteText.ofNat
  ByteText.ofNat n ++ [':'] ++ (shown.map fun factor => ' ' :: factor).flatten ++ ['\n']

/-- The number that is written down, if it is one. -/
def readWhole? (text : ByteText) : Option Nat :=
  let digits := text.dropWhile (· = ' ')
  ByteText.toNat? (if digits.head? = some '+' then digits.drop 1 else digits)

/-- Shows the prime factors of numbers. -/
def factor : Tool :=
  Program.withArguments
    { forms := [.both 'h' "exponents", .word "help", .word "version"] } false
    (fun asPowers key _ => return .ok (asPowers || key = "h")) fun asPowers operands => do
      let numbers ←
        if operands.isEmpty then
          match ← Program.readInput with
          | .ok text => pure (ByteText.words text)
          | .error _ => pure []
        else pure operands
      let read := numbers.map fun number => (number, readWhole? number)
      let bad := read.filter fun (_, n) => n.isNone
      Program.each bad fun (number, _) =>
        Program.complain (Program.quoted number ++ ascii " is not a valid positive integer")
      Program.each (read.filterMap Prod.snd) fun n => Program.out (factorLine asPowers n)
      return if bad.isEmpty then 0 else 1

end Tool

end SchemaDocs.Shell

/-!
## Numbers for people

Numbers with letters for a thousand, a million and so on, in both directions.
-/

namespace SchemaDocs.Shell

namespace Tool

/-- Which letters numbers have, and what they stand for. -/
inductive UnitScale where
  | nothing
  /-- Powers of a thousand. -/
  | decimal
  /-- Powers of a thousand and twenty-four. -/
  | binary
  /-- Powers of a thousand and twenty-four with one more letter. -/
  | marked
  /-- Powers of a thousand, or with one more letter of a thousand and twenty-four. -/
  | either
deriving DecidableEq

/-- The base of the powers of a scale. -/
def UnitScale.base : UnitScale → Nat
  | .binary => 1024
  | .marked => 1024
  | _ => 1000

/-- The way to a whole number. -/
inductive Rounding where
  | up | down | fromZero | towardsZero | nearest
deriving DecidableEq

/-- What is done about a number that cannot be read. -/
inductive FaultHandling where
  | abort | fail | warn | ignore
deriving DecidableEq

/-- How numbers are rewritten. -/
structure HumanSettings where
  source : UnitScale := .nothing
  target : UnitScale := .nothing
  sourceUnit : Nat := 1
  targetUnit : Nat := 1
  rounding : Rounding := .fromZero
  ending : ByteText := []
  padding : Option Int := none
  isFilled : Bool := false
  precision : Option Nat := none
  opening : ByteText := []
  closing : ByteText := []
  fields : Option Places := none
  delimiter : Option Char := none
  heading : Nat := 0
  onFault : FaultHandling := .abort
  isGrouped : Bool := false
  hasFormat : Bool := false
  isTracing : Bool := false
  terminator : Char := '\n'

/-- The options of the program that rewrites numbers. -/
def numfmtRules : OptionRules :=
  { forms :=
    [.word "debug", .both 'd' "delimiter" .required, .word "field" .required,
     .word "format" .required, .word "from" .required, .word "from-unit" .required,
     .word "grouping", .word "header" .optional, .word "invalid" .required,
     .word "padding" .required, .word "round" .required, .word "suffix" .required,
     .word "to" .required, .word "to-unit" .required, .both 'z' "zero-terminated",
     .word "help", .word "version"] }

/-- The letters for powers. -/
def powerLetters : ByteText := ascii "KMGTPEZYRQ"

/-- The number of bytes of a unit. -/
def unitSize? (text : ByteText) : Option Nat :=
  let digits := text.takeWhile Char.isDigit
  let count := if digits.isEmpty then 1 else ByteText.valueIn 10 digits
  let size :=
    match text.drop digits.length with
    | [] => if digits.isEmpty then none else some 1
    | [c] => (powerLetters.idxOf? c).map fun place => Nat.pow 1000 (place + 1)
    | [c, 'i'] => (powerLetters.idxOf? c).map fun place => Nat.pow 1024 (place + 1)
    | _ => none
  (size.map fun size => count * size).filter (0 < ·)

/-- A part of a format, which says how numbers are written: the text before the directive, its flags,
its width, its precision and the text after it. -/
def withFormat (settings : HumanSettings) (format : ByteText) : Except ByteText HumanSettings :=
  let rec before : ByteText → ByteText × ByteText
    | '%' :: '%' :: rest =>
      let (text, rest) := before rest
      ('%' :: '%' :: text, rest)
    | '%' :: rest => ([], '%' :: rest)
    | c :: rest =>
      let (text, rest) := before rest
      (c :: text, rest)
    | [] => ([], [])
  let (opening, rest) := before format
  match rest with
  | [] => .error (ascii "format " ++ Quoting.inQuotes format ++ ascii " has no % directive")
  | _ :: rest =>
    let marks := rest.takeWhile fun c => c = ' ' || c = '\'' || c = '0'
    let rest := rest.drop marks.length
    let (isLeft, rest) :=
      match rest with
      | '-' :: rest => (true, rest)
      | rest => (false, rest)
    let width := rest.takeWhile Char.isDigit
    let rest := rest.drop width.length
    let (precision, rest) :=
      match rest with
      | '.' :: rest =>
        let digits := rest.takeWhile Char.isDigit
        (some (ByteText.valueIn 10 digits), rest.drop digits.length)
      | rest => (none, rest)
    match rest with
    | [] => .error (ascii "format " ++ Quoting.inQuotes format ++ ascii " ends in %")
    | 'f' :: rest =>
      let (closing, more) := before rest
      if !more.isEmpty then
        .error (ascii "format " ++ Quoting.inQuotes format ++ ascii " has too many % directives")
      else
        let width := ByteText.valueIn 10 width
        .ok { settings with
          hasFormat := true, opening := opening, closing := closing, precision := precision
          isGrouped := settings.isGrouped || marks.contains '\''
          isFilled := marks.contains '0'
          padding := if width = 0 then settings.padding
            else some (if isLeft then -(width : Int) else width) }
    | _ =>
      .error (ascii "invalid format " ++ Quoting.inQuotes format
        ++ ascii ", directive must be %[0]['][-][N][.][N]f")

/-- Settings after an option of the program that rewrites numbers. -/
def numfmtOption (settings : HumanSettings) (key : String) (argument : ByteText) :
    Program (Except Nat HumanSettings) := do
  let put (settings : HumanSettings) : Program (Except Nat HumanSettings) := return .ok settings
  let fail (text : String) : Program (Except Nat HumanSettings) := do
    return .error (← Program.die 1 (ascii text ++ Program.quoted argument))
  let choose (option : String) (groups : List String) (step : Nat → HumanSettings) :
      Program (Except Nat HumanSettings) := do
    match ← Program.choose 1 option (groups.map fun word => [word]) argument with
    | .ok place => return .ok (step place)
    | .error code => return .error code
  match key with
  | "debug" => put { settings with isTracing := true }
  | "d" =>
    match argument with
    | [] => put { settings with delimiter := some '\x00' }
    | [c] => put { settings with delimiter := some c }
    | _ => return .error (← Program.die 1 (ascii "the delimiter must be a single character"))
  | "field" =>
    if argument = ['-'] then put { settings with fields := some [(1, none)] }
    else
      match readPlaces .fields argument with
      | .ok places => put { settings with fields := some places }
      | .error text => return .error (← Program.misuse 1 text)
  | "format" =>
    match withFormat settings argument with
    | .ok settings => put settings
    | .error text => return .error (← Program.die 1 text)
  | "from" =>
    choose "--from" ["none", "auto", "si", "iec", "iec-i"] fun place =>
      { settings with source := [.nothing, .either, .decimal, .binary, .marked].getD place .nothing }
  | "to" =>
    choose "--to" ["none", "si", "iec", "iec-i"] fun place =>
      { settings with target := [.nothing, .decimal, .binary, .marked].getD place .nothing }
  | "from-unit" =>
    match unitSize? argument with
    | some size => put { settings with sourceUnit := size }
    | none => fail "invalid unit size: "
  | "to-unit" =>
    match unitSize? argument with
    | some size => put { settings with targetUnit := size }
    | none => fail "invalid unit size: "
  | "grouping" => put { settings with isGrouped := true }
  | "header" =>
    if argument.isEmpty then put { settings with heading := 1 }
    else
      match ByteText.toNat? argument with
      | some (n + 1) => put { settings with heading := n + 1 }
      | _ => fail "invalid header value "
  | "invalid" =>
    choose "--invalid" ["abort", "fail", "warn", "ignore"] fun place =>
      { settings with onFault := [.abort, .fail, .warn, .ignore].getD place .abort }
  | "padding" =>
    let digits := if argument.head? = some '-' then argument.drop 1 else argument
    match ByteText.toNat? digits with
    | some (n + 1) =>
      put { settings with
        padding := some (if argument.head? = some '-' then -((n + 1 : Nat) : Int) else (n + 1 : Nat)) }
    | _ => fail "invalid padding value "
  | "round" =>
    choose "--round" ["up", "down", "from-zero", "towards-zero", "nearest"] fun place =>
      { settings with
        rounding := [.up, .down, .fromZero, .towardsZero, .nearest].getD place .fromZero }
  | "suffix" => put { settings with ending := argument }
  | "z" => put { settings with terminator := '\x00' }
  | _ => put settings

/-! ### Reading numbers -/

/-- A quotient of two whole numbers, the second of which is not zero. -/
structure Quotient where
  top : Int
  bottom : Nat

/-- What is wrong with a number. -/
inductive NumberFault where
  | noNumber | tooLarge | badEnding | barredEnding | missingMark
  | rest (text : ByteText)

/-- The text of a fault in a number. -/
def NumberFault.message (input : ByteText) : NumberFault → ByteText
  | .noNumber => ascii "invalid number: " ++ Quoting.inQuotes input
  | .tooLarge => ascii "value too large to be converted: " ++ Quoting.inQuotes input
  | .badEnding => ascii "invalid suffix in input: " ++ Quoting.inQuotes input
  | .barredEnding =>
    ascii "rejecting suffix in input: " ++ Quoting.inQuotes input
      ++ ascii " (consider using --from)"
  | .missingMark =>
    ascii "missing 'i' suffix in input: " ++ Quoting.inQuotes input ++ ascii " (e.g Ki/Mi/Gi)"
  | .rest ending =>
    ascii "invalid suffix in input " ++ Quoting.inQuotes input ++ ascii ": "
      ++ Quoting.inQuotes ending

/-- The greatest number of digits of a number. -/
def mostDigits : Nat := 33

/-- A number with the letters of a scale, and how many digits it has behind the point. -/
def readHuman (scale : UnitScale) (text : ByteText) : Except NumberFault (Quotient × Nat) :=
  let (sign, digits) : Int × ByteText :=
    match text with
    | '-' :: rest => (-1, rest)
    | rest => (1, rest)
  let whole := digits.takeWhile Char.isDigit
  let rest := digits.drop whole.length
  let (fraction, rest, hasPoint) : ByteText × ByteText × Bool :=
    match rest with
    | '.' :: more =>
      let fraction := more.takeWhile Char.isDigit
      (fraction, more.drop fraction.length, true)
    | rest => ([], rest, false)
  if (whole.isEmpty && !hasPoint) || (hasPoint && fraction.isEmpty) then .error .noNumber
  else if mostDigits < (whole.dropWhile (· = '0')).length then .error .tooLarge
  else
    let value : Quotient :=
      ⟨sign * (ByteText.valueIn 10 (whole ++ fraction) : Nat), Nat.pow 10 fraction.length⟩
    match rest.dropWhile fun c => c = ' ' || c = '\t' with
    | [] => if scale = .marked && !rest.isEmpty then .error .missingMark
        else .ok (value, fraction.length)
    | c :: ending =>
      match powerLetters.idxOf? c with
      | none => .error .badEnding
      | some place =>
        let (base, isMarked, ending) :=
          match scale, ending with
          | .either, 'i' :: ending => (1024, true, ending)
          | .marked, 'i' :: ending => (1024, true, ending)
          | scale, ending => (scale.base, false, ending)
        if scale = .nothing then .error .barredEnding
        else if scale = .marked && !isMarked then .error .missingMark
        else if !ending.isEmpty then .error (.rest ending)
        else .ok (⟨value.top * (Nat.pow base (place + 1) : Nat), value.bottom⟩, 0)

/-! ### Writing numbers -/

/-- The whole number that a quotient is rounded to. -/
def Quotient.rounded (rounding : Rounding) (value : Quotient) : Int :=
  let floor := Int.fdiv value.top value.bottom
  let ceiling := -(Int.fdiv (-value.top) value.bottom)
  match rounding with
  | .up => ceiling
  | .down => floor
  | .fromZero => if 0 ≤ value.top then ceiling else floor
  | .towardsZero => if 0 ≤ value.top then floor else ceiling
  | .nearest =>
    let half := Int.fdiv (2 * (value.top.natAbs : Int) + value.bottom) (2 * (value.bottom : Int))
    if 0 ≤ value.top then half else -half

/-- A quotient rounded to so many places. -/
def Quotient.roundedTo (rounding : Rounding) (places : Nat) (value : Quotient) : Quotient :=
  ⟨Quotient.rounded rounding ⟨value.top * (Nat.pow 10 places : Nat), value.bottom⟩,
    Nat.pow 10 places⟩

/-- Whether a quotient is nearer to zero than a whole number. -/
def Quotient.isWithin (value : Quotient) (n : Nat) : Bool := value.top.natAbs < n * value.bottom

/-- A quotient in digits. -/
def Quotient.written (places : Nat) (value : Quotient) : ByteText :=
  let digits := Fractional.roundDiv (value.top.natAbs * Nat.pow 10 places) value.bottom
  (if value.top < 0 then ['-'] else []) ++ Fractional.pointed places false digits

/-- A quotient divided by a base until it is less, and how often that was.  Each step divides once. -/
def reduce (base : Nat) : Nat → Quotient → Quotient × Nat
  | 0, value => (value, 0)
  | fuel + 1, value =>
    if value.isWithin base then (value, 0)
    else
      let (value, power) := reduce base fuel ⟨value.top, value.bottom * base⟩
      (value, power + 1)

/-- A number in the letters of a scale. -/
def writeHuman (settings : HumanSettings) (precision : Nat) (value : Quotient) : ByteText :=
  if settings.target = .nothing then
    (value.roundedTo settings.rounding precision).written precision
  else
    let base := settings.target.base
    let (value, power) := reduce base 40 value
    let places :=
      match settings.precision with
      | some places => min (power * 3) places
      | none => if value.isWithin 10 then 1 else 0
    let value := value.roundedTo settings.rounding places
    let (value, power) : Quotient × Nat :=
      if value.isWithin base then (value, power) else (⟨value.top, value.bottom * base⟩, power + 1)
    let showsPoint := value.top != 0 && value.isWithin 10 && 0 < power
    let shown := value.written (settings.precision.getD (if showsPoint then 1 else 0))
    shown ++ (if power = 0 then [] else (powerLetters.drop (power - 1)).take 1)
      ++ (if settings.target = .marked && 0 < power then ['i'] else [])

/-- A large number as it stands in a message. -/
def roughly (value : Quotient) : ByteText :=
  match Fractional.read? 64 (value.written 0) with
  | some (number, _) => Fractional.write { flags := [], conversion := 'g' } number
  | none => []

/-! ### Fields -/

/-- A field with its number rewritten, or what is wrong with it. -/
def rewritten (settings : HumanSettings) (field : Nat) (text : ByteText) :
    Except ByteText ByteText :=
  let ending := settings.ending
  let cut :=
    if !ending.isEmpty && ending.length < text.length
        && text.drop (text.length - ending.length) = ending then
      text.take (text.length - ending.length)
    else text
  let digits := cut.dropWhile fun c => c = ' ' || c = '\t'
  let isMoved := digits.length < cut.length || 1 < field
  match readHuman settings.source digits with
  | .error fault => .error (fault.message digits)
  | .ok (value, places) =>
    let value : Quotient :=
      ⟨value.top * settings.sourceUnit, value.bottom * settings.targetUnit⟩
    let precision := settings.precision.getD places
    let size := ((value.written 0).filter Char.isDigit).length
    if settings.target = .nothing && 19 < size + precision then
      let start := ascii (if precision = 0 then "value too large to be printed: '"
        else "value/precision too large to be printed: '")
      .error (start ++ roughly value
        ++ (if precision = 0 then [] else '/' :: ByteText.ofNat precision)
        ++ ascii "' (consider using --to)")
    else if mostDigits < size then
      .error (ascii "value too large to be printed: '" ++ roughly value
        ++ ascii "' (cannot handle values > 999Q)")
    else
      let shown := writeHuman settings precision value ++ ending
      let padded :=
        match settings.padding with
        | some width =>
          if width < 0 then ByteText.padRight width.natAbs shown
          else if settings.isFilled then
            let (sign, digits) :=
              if shown.head? = some '-' then (['-'], shown.drop 1) else ([], shown)
            sign ++ List.replicate (width.natAbs - shown.length) '0' ++ digits
          else ByteText.padLeft width.natAbs shown
        | none => if isMoved then ByteText.padLeft cut.length shown else shown
      .ok (settings.opening ++ padded ++ settings.closing)

/-- A line cut into fields, with what stands between them.  Each step takes a field. -/
def humanFields (delimiter : Option Char) : Nat → ByteText → List ByteText
  | 0, _ => []
  | fuel + 1, line =>
    let isBlank (c : Char) : Bool := c = ' ' || c = '\t' || c = '\n'
    let field :=
      match delimiter with
      | some c => line.takeWhile (· != c)
      | none =>
        let blanks := line.takeWhile isBlank
        blanks ++ (line.drop blanks.length).takeWhile fun c => !isBlank c
    match line.drop field.length with
    | [] => [field]
    | _ :: rest => field :: humanFields delimiter fuel rest

/-- Rewrites the numbers of a line.  The result is whether all could be read, and whether to go on. -/
def rewriteLine (settings : HumanSettings) (line : ByteText) : Program (Bool × Bool) := do
  let between : ByteText := [settings.delimiter.getD ' ']
  let fields := humanFields settings.delimiter (line.length + 1) line
  fields.zipIdx.foldlM (fun ((isFine, goesOn) : Bool × Bool) (text, index) => do
    if !goesOn then return (isFine, false)
    else
      if 0 < index then Program.out between
      if !(inPlaces (settings.fields.getD [(1, some 1)]) (index + 1)) then
        Program.out text
        return (isFine, true)
      else
        match rewritten settings (index + 1) text with
        | .ok shown =>
          Program.out shown
          return (isFine, true)
        | .error fault =>
          if settings.onFault != .ignore then Program.complain fault
          if settings.onFault = .abort then return (false, false)
          else
            Program.out text
            return (false, true)) (true, true)

/-- Rewrites numbers. -/
def numfmt : Tool :=
  Program.withArguments numfmtRules {} numfmtOption fun settings operands => do
    if settings.isGrouped && settings.target != .nothing then
      Program.die 1 (ascii "grouping cannot be combined with --to")
    else
      if settings.isTracing && settings.source = .nothing && settings.target = .nothing
          && !settings.isGrouped && settings.padding.isNone then
        Program.complain (ascii "no conversion option specified")
      let lines ←
        if operands.isEmpty then
          match ← Program.readInput with
          | .ok text => pure (ByteText.linesEndedBy settings.terminator text)
          | .error cause =>
            Program.complain (ascii ("error reading input: " ++ cause.reason))
            pure []
        else pure (operands.map fun operand => ⟨operand, true⟩)
      let heading := if operands.isEmpty then settings.heading else 0
      let (isFine, _) ← lines.zipIdx.foldlM (fun ((isFine, goesOn) : Bool × Bool) (line, index) => do
        if !goesOn then return (isFine, false)
        else
          let ending : ByteText := if line.isEnded then [settings.terminator] else []
          if index < heading then
            Program.out (line.text ++ ending)
            return (isFine, true)
          else
            let (isLineFine, goesOn) ← rewriteLine settings line.text
            if goesOn then Program.out ending
            return (isFine && isLineFine, goesOn)) (true, true)
      let isFailing := settings.onFault = .abort || settings.onFault = .fail
      return if isFine || !isFailing then 0 else 2

end Tool

end SchemaDocs.Shell
