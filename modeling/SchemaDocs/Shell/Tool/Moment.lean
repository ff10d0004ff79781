import SchemaDocs.Shell.DateText
import SchemaDocs.Shell.Tool.Filing.Make
/-!
# Telling the time

A moment is now, or is read from a text or taken from a file, and is written under a
format, in which each directive may have flags and a width.
-/

namespace SchemaDocs.Shell

namespace Tool

/-- A moment in a zone. -/
structure Moment where
  seconds : Int
  nanoseconds : Nat
  zone : Zone

namespace Moment

/-- The date of a moment where it is told. -/
def date (moment : Moment) : Calendar :=
  Calendar.ofSeconds (moment.seconds + (moment.zone.offsetAt moment.seconds).1)

/-- The seconds that the zone of a moment is ahead. -/
def offset (moment : Moment) : Int := (moment.zone.offsetAt moment.seconds).1

/-- How a directive is written. -/
structure MomentStyle where
  /-- What stands before a number, or a minus sign for nothing. -/
  padding : Option Char := none
  width : Option Nat := none
  isUpper : Bool := false
  isChanged : Bool := false

namespace MomentStyle

/-- A text with something before it up to a width. -/
def pad (style : MomentStyle) (text : ByteText) : ByteText :=
  let width := if style.padding = some '-' then 0 else style.width.getD 0
  let filler := if style.padding = some '0' || style.padding = some '+' then '0' else ' '
  List.replicate (width - text.length) filler ++ text

/-- A text in capital letters if they are asked for, up to a width. -/
def words (style : MomentStyle) (text : ByteText) : ByteText :=
  style.pad (if style.isUpper then text.map Char.toUpper else text)

/-- Digits behind a sign, with zeros or blanks before them up to a width. -/
def digits (style : MomentStyle) (least : Nat) (sign : Option Char) (digits : ByteText) : ByteText :=
  let width := style.width.getD least
  let sign := sign.toList
  let shortage := width - sign.length - digits.length
  match style.padding.getD '0' with
  | '-' => sign ++ digits
  | '_' => List.replicate shortage ' ' ++ sign ++ digits
  | _ => sign ++ List.replicate shortage '0' ++ digits

/-- A number with some digits at least. -/
def number (style : MomentStyle) (least : Nat) (n : Int) : ByteText :=
  let bound := if least = 2 then 99 else 9999
  let isSigned := style.padding = some '+' && (bound < n.natAbs || least < style.width.getD 0)
  style.digits least (if n < 0 then some '-' else if isSigned then some '+' else none)
    (ByteText.ofNat n.natAbs)

/-- A number with blanks before it. -/
def spaced (style : MomentStyle) (n : Nat) : ByteText :=
  ({ style with padding := some (style.padding.getD '_') } : MomentStyle).number 2 n

end MomentStyle

/-- The distance of a zone with so many colons in it. -/
def zoneText (style : MomentStyle) (colons : Nat) (offset : Int) : ByteText :=
  let size := offset.natAbs
  let (hours, minutes, seconds) := (size / 3600, size / 60 % 60, size % 60)
  let two (n : Nat) : ByteText := Calendar.zeros 2 n
  let sign := some (if offset < 0 then '-' else '+')
  let short : ByteText := ByteText.ofNat hours ++ [':'] ++ two minutes
  let long : ByteText := short ++ [':'] ++ two seconds
  let colons :=
    if colons < 3 then colons else if seconds != 0 then 2 else if minutes != 0 then 1 else 3
  match colons with
  | 0 => style.digits 5 sign (ByteText.ofNat (hours * 100 + minutes))
  | 1 => style.digits 6 sign short
  | 2 => style.digits 9 sign long
  | _ => style.digits 3 sign (ByteText.ofNat hours)

/-- The billionths of a second, or the first digits of them. -/
def fractionText (style : MomentStyle) (nanoseconds : Nat) : ByteText :=
  let all := Calendar.zeros 9 nanoseconds
  let width := (style.width.filter (0 < ·)).getD 9
  let kept := all.take (min width 9)
  let short := (kept.reverse.dropWhile (· = '0')).reverse
  let short := if short.isEmpty then kept.take 1 else short
  match style.padding.getD '0' with
  | '_' => short ++ List.replicate (width - short.length) ' '
  | _ => kept ++ List.replicate (width - kept.length) '0'

/-- What a letter stands for that is made of other directives. -/
def composed? (c : Char) : Option String :=
  match c with
  | 'c' => some "%a %b %e %H:%M:%S %Y"
  | '+' => some "%a %b %e %H:%M:%S %Z %Y"
  | 'D' => some "%m/%d/%y"
  | 'x' => some "%m/%d/%y"
  | 'T' => some "%H:%M:%S"
  | 'X' => some "%H:%M:%S"
  | 'R' => some "%H:%M"
  | 'r' => some "%I:%M:%S %p"
  | _ => none

/-- What a letter stands for by itself. -/
def simple? (moment : Moment) (style : MomentStyle) (colons : Nat) (c : Char) : Option ByteText :=
  let date := moment.date
  let hour := if date.hour % 12 = 0 then 12 else date.hour % 12
  let dayName := ascii (Calendar.dayNames[date.weekDay]?.getD "")
  let monthName := ascii (Calendar.monthNames[date.month - 1]?.getD "")
  let half := ascii (if date.hour < 12 then "AM" else "PM")
  let named := { style with isUpper := style.isUpper || style.isChanged }
  let number (least : Nat) (n : Int) : Option ByteText := some (style.number least n)
  match c with
  | 'z' => some (zoneText style colons moment.offset)
  | 'Y' => number 4 date.year
  | 'C' => number 2 (date.year / 100)
  | 'y' => number 2 (date.year % 100)
  | 'm' => number 2 date.month
  | 'd' => number 2 date.day
  | 'e' => some (style.spaced date.day)
  | 'H' => number 2 date.hour
  | 'k' => some (style.spaced date.hour)
  | 'I' => number 2 hour
  | 'l' => some (style.spaced hour)
  | 'M' => number 2 date.minute
  | 'S' => number 2 date.second
  | 'N' => some (fractionText style moment.nanoseconds)
  | 'j' => number 3 (date.yearDay + 1 : Nat)
  | 'a' => some (named.words (dayName.take 3))
  | 'A' => some (named.words dayName)
  | 'b' => some (named.words (monthName.take 3))
  | 'h' => some (named.words (monthName.take 3))
  | 'B' => some (named.words monthName)
  | 'p' => some (if style.isChanged then style.pad (half.map Char.toLower) else style.words half)
  | 'P' => some (style.pad (half.map Char.toLower))
  | 's' => number 1 moment.seconds
  | 'u' => number 1 (if date.weekDay = 0 then 7 else date.weekDay : Nat)
  | 'w' => number 1 date.weekDay
  | 'U' => number 2 (date.weekOf 0)
  | 'W' => number 2 (date.weekOf 1)
  | 'V' => number 2 date.weekByThursday.2
  | 'G' => number 4 date.weekByThursday.1
  | 'g' => number 2 (date.weekByThursday.1 % 100)
  | 'q' => number 1 ((date.month + 2) / 3 : Nat)
  | 'Z' =>
    let name := (moment.zone.offsetAt moment.seconds).2
    some (if style.isChanged then style.pad (name.map Char.toLower) else style.words name)
  | 'n' => some (style.pad ['\n'])
  | 't' => some (style.pad ['\t'])
  | '%' => some (style.pad ['%'])
  | _ => none

/-- The style that flags ask for. -/
def styleOf (isUpper : Bool) (flags : ByteText) (width : Option Nat) : MomentStyle :=
  let style : MomentStyle := { width := width, isUpper := isUpper }
  flags.foldl (fun style flag =>
    if flag = '^' then { style with isUpper := true }
    else if flag = '#' then { style with isChanged := true }
    else { style with padding := some flag }) style

/-- Writes a moment under a format, in capital letters or not.  Each step takes a character. -/
def writeFrom (moment : Moment) (isUpper : Bool) : Nat → ByteText → ByteText
  | 0, _ => []
  | _ + 1, [] => []
  | fuel + 1, '%' :: rest =>
    let flags := rest.takeWhile (ascii "-_0^#+").contains
    let after := rest.drop flags.length
    let digits := after.takeWhile Char.isDigit
    let after := after.drop digits.length
    let style := styleOf isUpper flags (ByteText.toNat? digits)
    let modifier := after.takeWhile fun c => c = 'E' || c = 'O'
    let letters := after.drop (min 1 modifier.length)
    let colons := (letters.takeWhile (· = ':')).length
    let (piece, rest) : ByteText × ByteText :=
      match letters.drop colons with
      | [] => (style.pad ('%' :: rest), [])
      | c :: more =>
        let unknown : ByteText :=
          style.pad ('%' :: rest.take (rest.length - more.length))
        if colons != 0 && (c != 'z' || 3 < colons) then (unknown, more)
        else if c = 'F' then
          let (padding, width) :=
            if style.padding.isNone && style.width.isNone then (some '+', some 4)
            else (style.padding, some ((style.width.getD 0) - 6))
          let year := { style with padding := padding, width := width }
          (style.pad (year.number 4 moment.date.year ++ writeFrom moment isUpper fuel (ascii "-%m-%d")),
            more)
        else
          match composed? c with
          | some format => (style.pad (writeFrom moment style.isUpper fuel (ascii format)), more)
          | none => ((moment.simple? style colons c).getD unknown, more)
    piece ++ writeFrom moment isUpper fuel rest
  | fuel + 1, c :: rest => c :: writeFrom moment isUpper fuel rest

/-- Writes a moment under a format. -/
def write (moment : Moment) (format : ByteText) : ByteText :=
  writeFrom moment false (format.length + 30) format

end Moment

/-! ## The program -/

/-- Where the moment comes from that is told. -/
inductive MomentSource where
  | now
  | text (text : ByteText)
  /-- The lines of a file. -/
  | lines (path : ByteText)
  /-- The time of a file. -/
  | file (path : ByteText)
  | resolution

/-- How a moment is told. -/
structure MomentSettings where
  source : MomentSource := .now
  sources : Nat := 0
  format : Option String := none
  isUniversal : Bool := false
  /-- The text of the time that the clock is to be set to. -/
  wanted : Option ByteText := none

/-- The options of the program that tells the time. -/
def dateRules : OptionRules :=
  { forms :=
    [.both 'd' "date" .required, .word "debug", .both 'f' "file" .required,
     .both 'I' "iso-8601" .optional, .both 'r' "reference" .required, .both 'R' "rfc-email",
     .word "rfc-822", .word "rfc-2822", .word "rfc-3339" .required, .word "resolution",
     .both 's' "set" .required, .both 'u' "utc", .word "uct", .word "universal", .word "help",
     .word "version"] }

/-- Settings with a format, of which there is one at most. -/
def formatOnce (settings : MomentSettings) (format : String) : Program (Except Nat MomentSettings) := do
  if settings.format.isSome then
    return .error (← Program.die 1 (ascii "multiple output formats specified"))
  else return .ok { settings with format := some format }

/-- The formats of dates that end with some part of the time. -/
def dateFormats (separator mark : String) : List (String × String) :=
  [("date", "%Y-%m-%d"), ("hours", "%Y-%m-%d" ++ separator ++ "%H%:z"),
   ("minutes", "%Y-%m-%d" ++ separator ++ "%H:%M%:z"),
   ("seconds", "%Y-%m-%d" ++ separator ++ "%H:%M:%S%:z"),
   ("ns", "%Y-%m-%d" ++ separator ++ "%H:%M:%S" ++ mark ++ "%N%:z")]

/-- Settings after an option of the program that tells the time. -/
def dateOption (settings : MomentSettings) (key : String) (argument : ByteText) :
    Program (Except Nat MomentSettings) := do
  let from_ (source : MomentSource) : Program (Except Nat MomentSettings) :=
    return .ok { settings with source := source, sources := settings.sources + 1 }
  let chosen (option separator mark : String) (words : List String) :
      Program (Except Nat MomentSettings) := do
    match ← Program.choose 1 option (words.map fun word => [word]) argument with
    | .error code => return .error code
    | .ok index =>
      let word := words.getD index "date"
      let format := ((dateFormats separator mark).find? fun entry => entry.1 = word).map Prod.snd
      formatOnce settings (format.getD "%F")
  match key with
  | "d" => from_ (.text argument)
  | "f" => from_ (.lines argument)
  | "r" => from_ (.file argument)
  | "resolution" => from_ .resolution
  | "s" => return .ok { settings with wanted := some argument }
  | "u" => return .ok { settings with isUniversal := true }
  | "uct" => return .ok { settings with isUniversal := true }
  | "universal" => return .ok { settings with isUniversal := true }
  | "I" =>
    if argument.isEmpty then formatOnce settings "%F"
    else chosen "--iso-8601" "T" "," ["hours", "minutes", "date", "seconds", "ns"]
  | "rfc-3339" => chosen "--rfc-3339" " " "." ["date", "seconds", "ns"]
  | "R" => formatOnce settings "%a, %d %b %Y %H:%M:%S %z"
  | "rfc-822" => formatOnce settings "%a, %d %b %Y %H:%M:%S %z"
  | "rfc-2822" => formatOnce settings "%a, %d %b %Y %H:%M:%S %z"
  | _ => return .ok settings

/-- The zone that moments are told in. -/
def momentZone (settings : MomentSettings) : Program Zone := do
  if settings.isUniversal then return Zone.universal
  else
    match ← Program.lookup? (ascii "TZ") with
    | some text => return Zone.ofText text
    | none => return Zone.universal

/-- Tells a moment whose text is given. -/
def tellText (zone : Zone) (now : Int) (format : ByteText) (text : ByteText) : Program Bool := do
  match DateText.read? now text zone with
  | some (seconds, nanoseconds) =>
    Program.outLine (Moment.write ⟨seconds, nanoseconds, zone⟩ format)
    return true
  | none =>
    Program.complain (ascii "invalid date " ++ Program.quoted text)
    return false

/-- The date of an operand of digits: month, day, hour and minute, and perhaps the year and seconds. -/
def isSettingDate (text : ByteText) : Bool :=
  let digits := text.takeWhile Char.isDigit
  let rest := text.drop digits.length
  let number (start : Nat) : Nat := ByteText.valueIn 10 ((digits.drop start).take 2)
  let hasSeconds :=
    match rest with
    | '.' :: seconds => seconds.length = 2 && seconds.all Char.isDigit && ByteText.valueIn 10 seconds ≤ 60
    | rest => rest.isEmpty
  [8, 10, 12].contains digits.length && hasSeconds && 1 ≤ number 0 && number 0 ≤ 12
    && 1 ≤ number 2 && number 2 ≤ 31 && number 4 ≤ 23 && number 6 ≤ 59

/-- Refuses to set the clock, and tells the time that it was to be set to. -/
def refuseSetting (zone : Zone) (now : Int) (format text : ByteText) (isOperand : Bool) :
    Program Nat := do
  let isGood := if isOperand then isSettingDate text else (DateText.read? now text zone).isSome
  if !isGood then Program.die 1 (ascii "invalid date " ++ Program.quoted text)
  else
    Program.complain (ascii ("cannot set date: " ++ FileError.notPermitted.reason))
    if isOperand then return 1
    else
      let _ ← tellText zone now format text
      return 1

/-- Tells the moment that settings ask for. -/
def tellMoment (settings : MomentSettings) (format : ByteText) : Program Nat := do
  let zone ← momentZone settings
  let nanoNow := (← Filing.tree).now + ((← get).milliseconds : Int) * 1000000
  let now := nanoNow / 1000000000
  let codeOf (isFine : Bool) : Nat := if isFine then 0 else 1
  match settings.wanted, settings.source with
  | some text, _ => refuseSetting zone now format text false
  | none, .now =>
    Program.outLine (Moment.write ⟨now, (nanoNow % 1000000000).toNat, zone⟩ format)
    return 0
  | none, .text text => return codeOf (← tellText zone now format text)
  | none, .resolution =>
    Program.outLine (Moment.write ⟨0, 1, zone⟩ (if settings.format.isSome then format else ascii "%s.%N"))
    return 0
  | none, .file path =>
    match ← Filing.placeOf path with
    | .error cause =>
      Program.complainOf path cause
      return 1
    | .ok place =>
      let changed := ((← Filing.tree).marks place.steps).changed
      Program.outLine (Moment.write ⟨changed / 1000000000, (changed % 1000000000).toNat, zone⟩ format)
      return 0
  | none, .lines path =>
    match ← Program.readOperand path with
    | .error cause =>
      Program.complainOf path cause
      return 1
    | .ok text =>
      (ByteText.lines text).foldlM (fun code line => do
        return if ← tellText zone now format line.text then code else 1) 0

/-- Tells the time. -/
def date : Tool :=
  Program.withArguments dateRules {} dateOption fun settings operands => do
    let usual := ascii "%a %b %e %H:%M:%S %Z %Y"
    let format := (settings.format.map ascii).getD usual
    if 1 < settings.sources then
      Program.misuse 1 (ascii "the options to specify dates for printing are mutually exclusive")
    else if settings.wanted.isSome && settings.sources != 0 then
      Program.misuse 1 (ascii "the options to print and set the time may not be used together")
    else
      match operands with
      | [] => tellMoment settings format
      | [operand] =>
        match operand with
        | '+' :: given =>
          if settings.format.isSome then Program.die 1 (ascii "multiple output formats specified")
          else tellMoment { settings with format := some (String.ofList given) } given
        | operand =>
          if settings.wanted.isSome || settings.sources != 0 then
            Program.misuse 1 (ascii "the argument " ++ Program.quoted operand
              ++ ascii (" lacks a leading '+';\nwhen using an option to specify date(s), any "
                ++ "non-option\nargument must be a format string beginning with '+'"))
          else
            let now := (← secondsNow)
            refuseSetting (← momentZone settings) now format operand true
      | _ :: extra :: _ => Program.extraOperand extra

end Tool

end SchemaDocs.Shell
