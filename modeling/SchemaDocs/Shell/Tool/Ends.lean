import SchemaDocs.Shell.Tool.Basic
/-!
# The ends of files

The first or last lines or characters of files.
-/

namespace SchemaDocs.Shell

namespace Tool

/-- How much of a file is shown. -/
structure EndSettings where
  count : Nat := 10
  countsLines : Bool := true
  /-- Whether the count is of what is left out: at the other end, or before the first that is
  shown. -/
  isTurned : Bool := false
  /-- Whether names are shown, if that was said. -/
  showsNames : Option Bool := none
  terminator : Char := '\n'
  follows : Bool := false

/-- The lengths of the lines of a text, with their terminators. -/
def lineLengths (terminator : Char) (text : ByteText) : List Nat :=
  (ByteText.linesEndedBy terminator text).map fun line =>
    line.text.length + (if line.isEnded then 1 else 0)

/-- The number of characters that a part at the start of a text has. -/
def headLength (settings : EndSettings) (text : ByteText) : Nat :=
  if settings.countsLines then
    let lengths := lineLengths settings.terminator text
    let count :=
      if settings.isTurned then lengths.length - settings.count else settings.count
    ByteText.total (lengths.take count)
  else if settings.isTurned then text.length - settings.count
  else min settings.count text.length

/-- The part at the end of a text. -/
def tailPart (settings : EndSettings) (text : ByteText) : ByteText :=
  if settings.countsLines then
    let lengths := lineLengths settings.terminator text
    let dropped :=
      if settings.isTurned then settings.count - 1 else lengths.length - settings.count
    text.drop (ByteText.total (lengths.take dropped))
  else text.drop (if settings.isTurned then settings.count - 1 else text.length - settings.count)

/-- The number of characters that are read at once. -/
def blockLength : Nat := 8192

/-- The number of characters in the blocks that a part lies in. -/
def blocksLength (length : Nat) : Nat := (length + blockLength - 1) / blockLength * blockLength

/-- Shows the part at the start of an open file, of which only as much is taken as has to be. -/
def headOf (settings : EndSettings) (channel : Nat) : Program Unit := do
  if settings.count = 0 && !settings.isTurned then return ()
  if settings.isTurned then
    let text ← System.readAll channel
    let length := headLength settings text
    Program.out (text.take length)
    System.giveBack channel (text.length - length)
  else if settings.countsLines then
    let (text, tail) ← System.pending channel
    let text :=
      match tail with
      | .endless piece =>
        if piece.contains settings.terminator then
          text ++ (List.replicate settings.count piece).flatten
        else text
      | _ => text
    let length := headLength settings text
    Program.out (text.take length)
    if (lineLengths settings.terminator text).length < settings.count then
      let _ ← System.readAll channel
    else
      match ← System.channel? channel with
      | some (.file ..) => System.advance channel length
      | _ => System.advance channel (blocksLength length)
  else
    Program.out (← System.readExactly channel settings.count)

/-- The name of a file above its part. -/
def banner (isFirst : Bool) (name : ByteText) : ByteText :=
  (if isFirst then [] else ['\n']) ++ ascii "==> " ++ name ++ ascii " <==\n"

/-- What a file is called above its part. -/
def bannerName (file : ByteText) : ByteText :=
  if file = ['-'] then ascii "standard input" else file

/-- Whether names are shown above the parts of some files. -/
def showsNames (settings : EndSettings) (files : List ByteText) : Bool :=
  settings.showsNames.getD (1 < files.length)

/-- Shows a part of each file. -/
def endsOf (settings : EndSettings) (verb : String)
    (display : Nat → Program Unit) (operands : List ByteText) : Program Nat := do
  let files := Program.inputsOr operands
  let (_, code) ← files.foldlM (fun ((isFirst, code) : Bool × Nat) file => do
    let opened ←
      if file = ['-'] then do
        match ← Program.descriptor? 0 with
        | some channel => pure (.ok channel)
        | none => pure (.error FileError.badDescriptor)
      else Program.openInput file
    match opened with
    | .error cause =>
      Program.complain (ascii "cannot open " ++ Program.quoted file ++ ascii " for reading: "
        ++ ascii cause.reason)
      return (isFirst, 1)
    | .ok channel =>
      if showsNames settings files then Program.out (banner isFirst (bannerName file))
      if ← Program.isDirectory channel then
        Program.complain (ascii verb ++ Program.quoted file ++ ascii ": Is a directory")
        return (false, 1)
      else
        display channel
        return (false, code)) (true, 0)
  return code

/-! ## The start -/

/-- The options of the program that shows the start of files. -/
def headRules : OptionRules :=
  { forms :=
    [.both 'c' "bytes" .required, .both 'n' "lines" .required, .both 'q' "quiet",
     .word "silent", .both 'v' "verbose", .both 'z' "zero-terminated",
     .word "presume-input-pipe", .word "help", .word "version",
     .letter '0', .letter '1', .letter '2', .letter '3', .letter '4', .letter '5', .letter '6',
     .letter '7', .letter '8', .letter '9'] }

/-- Settings with a count. -/
def withCount (settings : EndSettings) (countsLines : Bool) (sign : Char) (text : ByteText) :
    Program (Except Nat EndSettings) := do
  let (isTurned, digits) :=
    match text with
    | c :: digits => if c = sign then (true, digits) else (false, text)
    | [] => (false, [])
  match Units.number? digits with
  | some count =>
    return .ok { settings with count := count, countsLines := countsLines, isTurned := isTurned }
  | none =>
    Program.complain (ascii "invalid number of " ++ ascii (if countsLines then "lines" else "bytes")
      ++ ascii ": " ++ Program.quoted digits)
    return .error 1

/-- Settings after an option of the program that shows the start of files. -/
def headOption (settings : EndSettings) (key : String) (argument : ByteText) :
    Program (Except Nat EndSettings) := do
  match key with
  | "c" => withCount settings false '-' argument
  | "n" => withCount settings true '-' argument
  | "q" => return .ok { settings with showsNames := some false }
  | "silent" => return .ok { settings with showsNames := some false }
  | "v" => return .ok { settings with showsNames := some true }
  | "z" => return .ok { settings with terminator := '\x00' }
  | "presume-input-pipe" => return .ok settings
  | key =>
    Program.complain (ascii "invalid trailing option -- " ++ ascii key)
    Program.suggestHelp
    return .error 1

/-- The settings of a number behind a dash, with letters behind it. -/
def shortCount (digits letters : ByteText) : Except Char EndSettings :=
  let count := ByteText.valueIn 10 digits
  letters.foldlM (fun settings c =>
    match c with
    | 'c' => .ok { settings with countsLines := false }
    | 'l' => .ok { settings with countsLines := true }
    | 'b' => .ok { settings with countsLines := false, count := count * 512 }
    | 'k' => .ok { settings with countsLines := false, count := count * 1024 }
    | 'm' => .ok { settings with countsLines := false, count := count * 1048576 }
    | 'q' => .ok { settings with showsNames := some false }
    | 'v' => .ok { settings with showsNames := some true }
    | 'z' => .ok { settings with terminator := '\x00' }
    | c => .error c) ({ count := count } : EndSettings)

/-- Runs the program that shows the start of files. -/
def headWith (settings : EndSettings) : Tool :=
  Program.withArguments headRules settings headOption fun settings operands =>
    endsOf settings "error reading " (headOf settings) operands

/-- Shows the start of files. -/
def head : Tool := do
  let process ← read
  match process.arguments with
  | ('-' :: c :: cs) :: rest =>
    if c.isDigit then
      let text := c :: cs
      let digits := text.takeWhile Char.isDigit
      match shortCount digits (text.drop digits.length) with
      | .ok settings => withReader (fun process => { process with arguments := rest }) (headWith settings)
      | .error c => Program.misuse 1 (ascii "invalid trailing option -- " ++ [c])
    else headWith {}
  | _ => headWith {}

/-! ## The end -/

/-- The options of the program that shows the end of files. -/
def tailRules : OptionRules :=
  { forms :=
    [.both 'c' "bytes" .required, .both 'n' "lines" .required, .both 'q' "quiet",
     .word "silent", .both 'v' "verbose", .both 'z' "zero-terminated",
     .both 'f' "follow" .optional, .letter 'F', .word "retry", .word "pid" .required,
     .both 's' "sleep-interval" .required, .word "max-unchanged-stats" .required,
     .word "help", .word "version",
     .letter '0', .letter '1', .letter '2', .letter '3', .letter '4', .letter '5', .letter '6',
     .letter '7', .letter '8', .letter '9'] }

/-- Settings after an option of the program that shows the end of files. -/
def tailOption (settings : EndSettings) (key : String) (argument : ByteText) :
    Program (Except Nat EndSettings) := do
  match key with
  | "c" => withTailCount false
  | "n" => withTailCount true
  | "q" => return .ok { settings with showsNames := some false }
  | "silent" => return .ok { settings with showsNames := some false }
  | "v" => return .ok { settings with showsNames := some true }
  | "z" => return .ok { settings with terminator := '\x00' }
  | "f" => return .ok { settings with follows := true }
  | "F" => return .ok { settings with follows := true }
  | key =>
    if key.toList.all Char.isDigit then
      Program.complain (ascii "option used in invalid context -- " ++ ascii key)
      return .error 1
    else return .ok settings
where
  /-- Settings with a count, before which a dash means nothing. -/
  withTailCount (countsLines : Bool) : Program (Except Nat EndSettings) :=
    withCount settings countsLines '+'
      (match argument with
        | '-' :: digits => digits
        | text => text)

/-- Shows the end of an open file. -/
def tailOf (settings : EndSettings) (channel : Nat) : Program Unit := do
  if settings.count = 0 && !settings.isTurned && !settings.follows then return ()
  let text ← System.readAll channel
  Program.out (tailPart settings text)
  if settings.follows then
    match ← System.channel? channel with
    | some (.file ..) => System.stall .asleep
    | _ => return ()

/-- Runs the program that shows the end of files. -/
def tailWith (settings : EndSettings) : Tool :=
  Program.withArguments tailRules settings tailOption fun settings operands =>
    endsOf settings "error reading " (tailOf settings) operands

/-- The settings of an old-fashioned count: a number behind a sign, a letter for its unit and perhaps
another one. -/
def oldCount? (text : ByteText) : Option EndSettings :=
  match text with
  | sign :: rest =>
    if sign = '+' || sign = '-' then
      let digits := rest.takeWhile Char.isDigit
      let count := if digits.isEmpty then 10 else ByteText.valueIn 10 digits
      let base : EndSettings := { count := count, isTurned := sign = '+' }
      if digits.isEmpty && sign = '-' then none
      else
        match rest.drop digits.length with
        | [] => if digits.isEmpty then none else some base
        | ['l'] => some base
        | ['c'] => some { base with countsLines := false }
        | ['b'] => some { base with countsLines := false, count := count * 512 }
        | ['f'] => some { base with follows := true }
        | _ => none
    else none
  | [] => none

/-- Shows the end of files. -/
def tail : Tool := do
  let process ← read
  match process.arguments with
  | first :: rest =>
    match (if rest.length ≤ 1 then oldCount? first else none) with
    | some settings =>
      withReader (fun process => { process with arguments := rest }) (tailWith settings)
    | none => tailWith {}
  | [] => tailWith {}

end Tool

end SchemaDocs.Shell
