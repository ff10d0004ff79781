import SchemaDocs.Shell.ByteText
/-!
# Dates

The date and the time of day of a number of seconds since the start of 1970, in the zone
without an offset, and how they are written under a format.
-/

namespace SchemaDocs.Shell

/-- A date with a time of day. -/
structure Calendar where
  year : Int
  /-- The month from one on. -/
  month : Nat
  /-- The day of the month from one on. -/
  day : Nat
  hour : Nat
  minute : Nat
  second : Nat
  /-- The day of the week, where Sunday is zero. -/
  weekDay : Nat
  /-- The day of the year from zero on. -/
  yearDay : Nat

namespace Calendar

/-- Whether a year has one more day. -/
def isLeap (year : Int) : Bool := (year % 4 = 0 && year % 100 ≠ 0) || year % 400 = 0

/-- The number of days of a month. -/
def daysIn (year : Int) (month : Nat) : Nat :=
  if month = 2 then (if isLeap year then 29 else 28)
  else if month = 4 || month = 6 || month = 9 || month = 11 then 30
  else 31

/-- The days of a year before a month. -/
def daysBefore (year : Int) (month : Nat) : Nat :=
  ByteText.total ((List.range (month - 1)).map fun n => daysIn year (n + 1))

/-- The days from the start of 1970 to a date.  Years are counted from March on, so that the day that
some years have more is the last one. -/
def dayNumber (year : Int) (month day : Nat) : Int :=
  let shifted := if month ≤ 2 then year - 1 else year
  let era := shifted / 400
  let yearOfEra := shifted - era * 400
  let monthFromMarch : Int := if month ≤ 2 then (month : Int) + 9 else (month : Int) - 3
  let dayOfYear := (153 * monthFromMarch + 2) / 5 + (day : Int) - 1
  let dayOfEra := yearOfEra * 365 + yearOfEra / 4 - yearOfEra / 100 + dayOfYear
  era * 146097 + dayOfEra - 719468

/-- The seconds from the start of 1970 to a date with a time of day. -/
def secondsOf (year : Int) (month day hour minute second : Nat) : Int :=
  dayNumber year month day * 86400 + (hour * 3600 + minute * 60 + second : Nat)

/-- The date and the time of day of a number of seconds. -/
def ofSeconds (seconds : Int) : Calendar :=
  let days := seconds / 86400
  let rest := (seconds % 86400).toNat
  let shifted := days + 719468
  let era := shifted / 146097
  let dayOfEra := shifted - era * 146097
  let yearOfEra :=
    (dayOfEra - dayOfEra / 1460 + dayOfEra / 36524 - dayOfEra / 146096) / 365
  let dayOfYear := dayOfEra - (365 * yearOfEra + yearOfEra / 4 - yearOfEra / 100)
  let monthFromMarch := (5 * dayOfYear + 2) / 153
  let day := dayOfYear - (153 * monthFromMarch + 2) / 5 + 1
  let month := if monthFromMarch < 10 then monthFromMarch + 3 else monthFromMarch - 9
  let year := yearOfEra + era * 400 + if month ≤ 2 then 1 else 0
  { year := year, month := month.toNat, day := day.toNat
    hour := rest / 3600, minute := rest / 60 % 60, second := rest % 60
    weekDay := ((days + 4) % 7).toNat
    yearDay := daysBefore year month.toNat + day.toNat - 1 }

/-- The names of the days of the week. -/
def dayNames : List String :=
  ["Sunday", "Monday", "Tuesday", "Wednesday", "Thursday", "Friday", "Saturday"]

/-- The names of the months. -/
def monthNames : List String :=
  ["January", "February", "March", "April", "May", "June", "July", "August", "September",
   "October", "November", "December"]

/-- A number with zeros before it. -/
def zeros (width n : Nat) : ByteText :=
  let digits := ByteText.ofNat n
  List.replicate (width - digits.length) '0' ++ digits

/-- A number with blanks before it. -/
def blanks (width n : Nat) : ByteText := ByteText.padLeft width (ByteText.ofNat n)

/-- A year in four digits at least. -/
def yearText (year : Int) : ByteText :=
  if year < 0 then '-' :: zeros 4 year.natAbs else zeros 4 year.toNat

/-- The week of the year whose weeks begin on a day. -/
def weekOf (date : Calendar) (first : Nat) : Nat :=
  (date.yearDay + 7 - (date.weekDay + 7 - first) % 7) / 7

/-- The year and the week, where weeks begin on Monday and belong to the year of their Thursday. -/
def weekByThursday (date : Calendar) : Int × Nat :=
  let fromMonday := (date.weekDay + 6) % 7
  let thursday : Int := (date.yearDay : Int) - fromMonday + 3
  if thursday < 0 then
    let days : Int := if isLeap (date.year - 1) then 366 else 365
    (date.year - 1, ((thursday + days) / 7).toNat + 1)
  else
    let days : Int := if isLeap date.year then 366 else 365
    if days ≤ thursday then (date.year + 1, 1)
    else (date.year, (thursday / 7).toNat + 1)

/-- What a letter in a format stands for that is made of other letters. -/
def composed? (c : Char) : Option String :=
  match c with
  | 'c' => some "%a %b %e %H:%M:%S %Y"
  | 'D' => some "%m/%d/%y"
  | 'x' => some "%m/%d/%y"
  | 'F' => some "%Y-%m-%d"
  | 'T' => some "%H:%M:%S"
  | 'X' => some "%H:%M:%S"
  | 'R' => some "%H:%M"
  | 'r' => some "%I:%M:%S %p"
  | _ => none

/-- What a letter in a format stands for by itself. -/
def simple? (date : Calendar) (seconds : Int) (c : Char) : Option ByteText :=
  let hour := if date.hour % 12 = 0 then 12 else date.hour % 12
  let dayName := ascii (dayNames[date.weekDay]?.getD "")
  let monthName := ascii (monthNames[date.month - 1]?.getD "")
  match c with
  | 'Y' => some (yearText date.year)
  | 'C' => some (zeros 2 (date.year / 100).toNat)
  | 'y' => some (zeros 2 (date.year % 100).toNat)
  | 'm' => some (zeros 2 date.month)
  | 'd' => some (zeros 2 date.day)
  | 'e' => some (blanks 2 date.day)
  | 'H' => some (zeros 2 date.hour)
  | 'k' => some (blanks 2 date.hour)
  | 'I' => some (zeros 2 hour)
  | 'l' => some (blanks 2 hour)
  | 'M' => some (zeros 2 date.minute)
  | 'S' => some (zeros 2 date.second)
  | 'N' => some (zeros 9 0)
  | 'j' => some (zeros 3 (date.yearDay + 1))
  | 'a' => some (dayName.take 3)
  | 'A' => some dayName
  | 'b' => some (monthName.take 3)
  | 'h' => some (monthName.take 3)
  | 'B' => some monthName
  | 'p' => some (ascii (if date.hour < 12 then "AM" else "PM"))
  | 'P' => some (ascii (if date.hour < 12 then "am" else "pm"))
  | 's' => some (ByteText.ofInt seconds)
  | 'u' => some (ByteText.ofNat (if date.weekDay = 0 then 7 else date.weekDay))
  | 'w' => some (ByteText.ofNat date.weekDay)
  | 'U' => some (zeros 2 (date.weekOf 0))
  | 'W' => some (zeros 2 (date.weekOf 1))
  | 'V' => some (zeros 2 date.weekByThursday.2)
  | 'G' => some (yearText date.weekByThursday.1)
  | 'g' => some (zeros 2 (date.weekByThursday.1 % 100).toNat)
  | 'q' => some (ByteText.ofNat ((date.month + 2) / 3))
  | 'z' => some (ascii "+0000")
  | 'Z' => some (ascii "UTC")
  | 'n' => some ['\n']
  | 't' => some ['\t']
  | '%' => some ['%']
  | _ => none

/-- A number without what stands before it to make it wide, or with something else there. -/
def refilled (flag : Char) (text : ByteText) : ByteText :=
  let digits := text.dropWhile fun c => c = '0' || c = ' '
  let digits := if digits.isEmpty then text.drop (text.length - 1) else digits
  match flag with
  | '-' => if text.all fun c => c.isDigit || c = ' ' then digits else text
  | '_' =>
    if text.all fun c => c.isDigit || c = ' ' then ByteText.padLeft text.length digits else text
  | '0' =>
    if text.all fun c => c.isDigit || c = ' ' then
      List.replicate (text.length - digits.length) '0' ++ digits
    else text
  | '^' => text.map Char.toUpper
  | '#' => text.map swapCase
  | _ => text
where
  /-- The other case of a letter. -/
  swapCase (c : Char) : Char := if c.isUpper then c.toLower else c.toUpper

/-- Writes a date under a format whose letters may be made of others.  Each step takes a character. -/
def writeFrom (date : Calendar) (seconds : Int) : Nat → ByteText → ByteText
  | 0, _ => []
  | _ + 1, [] => []
  | fuel + 1, '%' :: rest =>
    let flags := rest.takeWhile (ascii "-_0^#+").contains
    let after := rest.drop flags.length
    match after with
    | [] => '%' :: rest
    | c :: more =>
      let piece :=
        match composed? c with
        | some format => writeFrom date seconds fuel (ascii format)
        | none => (simple? date seconds c).getD ('%' :: flags ++ [c])
      flags.foldl (fun text flag => refilled flag text) piece
        ++ writeFrom date seconds fuel more
  | fuel + 1, c :: rest => c :: writeFrom date seconds fuel rest

/-- Writes the date of a number of seconds under a format. -/
def write (format : ByteText) (seconds : Int) : ByteText :=
  writeFrom (ofSeconds seconds) seconds (format.length + 24) format

end Calendar

end SchemaDocs.Shell

/-!
## Time zones

The local time of a zone: its distance from the time without an offset, its name, and the
days on which summer time begins and ends.
-/

namespace SchemaDocs.Shell

/-- A time of the year. -/
inductive YearDay where
  /-- A day of the week in some week of a month, where the fifth is the last one. -/
  | weekly (month week weekDay : Nat)
  /-- A day of the year from one on, without the last day of February in longer years. -/
  | fixed (day : Nat)
  /-- A day of the year from zero on. -/
  | counted (day : Nat)
deriving DecidableEq

/-- The summer time of a zone. -/
structure SummerTime where
  name : ByteText
  /-- The seconds that it is ahead. -/
  offset : Int
  start : YearDay
  /-- The second of the day, in the time that ends, on which summer time begins. -/
  startSecond : Int
  stop : YearDay
  stopSecond : Int

/-- A time zone. -/
structure Zone where
  name : ByteText
  /-- The seconds that it is ahead. -/
  offset : Int := 0
  summer : Option SummerTime := none

namespace Zone

/-- The zone without an offset. -/
def universal : Zone := { name := ascii "UTC" }

/-! ### Reading -/

/-- The name of a zone at the start of a text, between angle brackets or in letters, and what follows it. -/
def nameAt? (text : ByteText) : Option (ByteText × ByteText) :=
  match text with
  | '<' :: rest =>
    let name := rest.takeWhile (· != '>')
    match rest.drop name.length with
    | _ :: after => if name.length < 3 then none else some (name, after)
    | [] => none
  | text =>
    let name := text.takeWhile Char.isAlpha
    if name.length < 3 then none else some (name, text.drop name.length)

/-- A time of up to three numbers between colons, in seconds, and what follows it.  Each step takes a
number. -/
def clockFrom : Nat → Int → ByteText → Int × ByteText
  | 0, _, text => (0, text)
  | fuel + 1, unit, text =>
    let digits := text.takeWhile Char.isDigit
    let value : Int := (ByteText.valueIn 10 digits : Nat) * unit
    match text.drop digits.length with
    | ':' :: rest =>
      let (more, rest) := clockFrom fuel (unit / 60) rest
      (value + more, rest)
    | rest => (value, rest)

/-- A time with or without a sign, in seconds, and what follows it. -/
def clock? (text : ByteText) : Option (Int × ByteText) :=
  let read (sign : Int) (text : ByteText) : Option (Int × ByteText) :=
    if (text.head?.map Char.isDigit).getD false then
      let (value, rest) := clockFrom 3 3600 text
      some (sign * value, rest)
    else none
  match text with
  | '-' :: rest => read (-1) rest
  | '+' :: rest => read 1 rest
  | rest => read 1 rest

/-- A day of the year and the time of it, with a comma before both, and what follows them. -/
def turn? (text : ByteText) : Option (YearDay × Int × ByteText) := do
  let rest ← match text with
    | ',' :: rest => some rest
    | _ => none
  let number (text : ByteText) : Nat × ByteText :=
    let digits := text.takeWhile Char.isDigit
    (ByteText.valueIn 10 digits, text.drop digits.length)
  let (day, rest) :=
    match rest with
    | 'M' :: rest =>
      let (month, rest) := number rest
      let (week, rest) := number (rest.drop 1)
      let (weekDay, rest) := number (rest.drop 1)
      (YearDay.weekly month week weekDay, rest)
    | 'J' :: rest =>
      let (day, rest) := number rest
      (YearDay.fixed day, rest)
    | rest =>
      let (day, rest) := number rest
      (YearDay.counted day, rest)
  match rest with
  | '/' :: rest => do
    let (second, rest) ← clock? rest
    return (day, second, rest)
  | rest => return (day, 7200, rest)

/-- The zone that a text describes. -/
def described? (text : ByteText) : Option Zone := do
  let (name, rest) ← nameAt? text
  match clock? rest with
  | none => if rest.isEmpty then some { name := name } else none
  | some (west, rest) =>
    let zone : Zone := { name := name, offset := -west }
    match nameAt? rest with
    | none => some zone
    | some (name, rest) =>
      let (offset, rest) :=
        match clock? rest with
        | some (west, rest) => (-west, rest)
        | none => (zone.offset + 3600, rest)
      let summer : SummerTime :=
        match turn? rest with
        | none => ⟨name, offset, .weekly 3 2 0, 7200, .weekly 11 1 0, 7200⟩
        | some (start, startSecond, rest) =>
          match turn? rest with
          | none => ⟨name, offset, start, startSecond, .weekly 11 1 0, 7200⟩
          | some (stop, stopSecond, _) => ⟨name, offset, start, startSecond, stop, stopSecond⟩
      some { zone with summer := some summer }

/-- The descriptions of zones that are known by places. -/
def places : List (List String × String) :=
  [(["America/New_York", "America/Toronto", "America/Detroit", "EST5EDT"],
    "EST5EDT,M3.2.0,M11.1.0"),
   (["America/Chicago", "CST6CDT"], "CST6CDT,M3.2.0,M11.1.0"),
   (["America/Denver", "MST7MDT"], "MST7MDT,M3.2.0,M11.1.0"),
   (["America/Los_Angeles", "America/Vancouver", "PST8PDT"], "PST8PDT,M3.2.0,M11.1.0"),
   (["America/Anchorage"], "AKST9AKDT,M3.2.0,M11.1.0"),
   (["America/Halifax"], "AST4ADT,M3.2.0,M11.1.0"), (["America/Phoenix", "MST"], "MST7"),
   (["America/Mexico_City"], "CST6"), (["America/Bogota", "America/Lima"], "<-05>5"),
   (["America/Sao_Paulo", "America/Argentina/Buenos_Aires"], "<-03>3"),
   (["Europe/London"], "GMT0BST,M3.5.0/1,M10.5.0"), (["Europe/Dublin"], "GMT0IST,M3.5.0/1,M10.5.0"),
   (["Europe/Lisbon", "WET"], "WET0WEST,M3.5.0/1,M10.5.0"),
   (["Europe/Paris", "Europe/Berlin", "Europe/Madrid", "Europe/Rome", "Europe/Vienna",
     "Europe/Zurich", "Europe/Amsterdam", "Europe/Brussels", "Europe/Stockholm", "Europe/Oslo",
     "Europe/Copenhagen", "Europe/Warsaw", "Europe/Prague", "Europe/Budapest", "CET"],
    "CET-1CEST,M3.5.0,M10.5.0/3"),
   (["MET"], "MET-1MEST,M3.5.0,M10.5.0/3"),
   (["Europe/Helsinki", "Europe/Athens", "Europe/Kyiv", "EET"], "EET-2EEST,M3.5.0/3,M10.5.0/4"),
   (["Europe/Moscow"], "MSK-3"), (["Europe/Istanbul"], "<+03>-3"), (["Asia/Tokyo"], "JST-9"),
   (["Asia/Seoul"], "KST-9"), (["Asia/Shanghai"], "CST-8"), (["Asia/Hong_Kong"], "HKT-8"),
   (["Asia/Singapore"], "<+08>-8"), (["Asia/Manila"], "PST-8"), (["Asia/Kolkata"], "IST-5:30"),
   (["Asia/Dubai"], "<+04>-4"), (["Asia/Tehran"], "<+0330>-3:30"), (["Asia/Karachi"], "PKT-5"),
   (["Asia/Dhaka"], "<+06>-6"), (["Asia/Bangkok"], "<+07>-7"), (["Asia/Jakarta"], "WIB-7"),
   (["Asia/Kathmandu"], "<+0545>-5:45"),
   (["Australia/Sydney", "Australia/Melbourne"], "AEST-10AEDT,M10.1.0,M4.1.0/3"),
   (["Australia/Brisbane"], "AEST-10"), (["Australia/Adelaide"], "ACST-9:30ACDT,M10.1.0,M4.1.0/3"),
   (["Australia/Perth"], "AWST-8"), (["Pacific/Auckland"], "NZST-12NZDT,M9.5.0,M4.1.0/3"),
   (["Pacific/Honolulu", "HST"], "HST10"), (["Africa/Johannesburg"], "SAST-2"),
   (["Africa/Lagos"], "WAT-1"), (["Africa/Nairobi"], "EAT-3"), (["EST"], "EST5"),
   (["Etc/UTC", "UTC", "Etc/UCT"], "UTC0"), (["Etc/GMT", "GMT"], "GMT0")]

/-- The zone of a name, of a place or a description.  Others have no offset. -/
def ofText (text : ByteText) : Zone :=
  let text :=
    match text with
    | ':' :: rest => rest
    | text => text
  match places.find? fun (names, _) => names.any fun name => ascii name = text with
  | some (_, description) => (described? (ascii description)).getD universal
  | none =>
    if text.isEmpty then { name := ascii "Universal" }
    else
      match described? text with
      | some zone => zone
      | none => { name := if text.contains '/' then text.takeWhile Char.isAlpha else [] }

/-! ### Local time -/

/-- The number of a day of a year, from 1970. -/
def dayIn (year : Int) (day : YearDay) : Int :=
  match day with
  | .weekly month week weekDay =>
    let first := Calendar.dayNumber year month 1
    let shift := (((weekDay : Int) - (first + 4)) % 7 + 7) % 7
    let found := first + shift + 7 * ((week : Int) - 1)
    if found < first + Calendar.daysIn year month then found else found - 7
  | .fixed day =>
    let isBehind := Calendar.isLeap year && 60 ≤ day
    Calendar.dayNumber year 1 1 + (day : Int) - 1 + (if isBehind then 1 else 0)
  | .counted day => Calendar.dayNumber year 1 1 + day

/-- Whether it is summer at a time, and the time is given without an offset. -/
def isSummer (zone : Zone) (summer : SummerTime) (seconds : Int) : Bool :=
  let year := (Calendar.ofSeconds (seconds + zone.offset)).year
  let start := dayIn year summer.start * 86400 + summer.startSecond - zone.offset
  let stop := dayIn year summer.stop * 86400 + summer.stopSecond - summer.offset
  if start < stop then start ≤ seconds && seconds < stop else start ≤ seconds || seconds < stop

/-- The seconds that a zone is ahead at a time, and its name then. -/
def offsetAt (zone : Zone) (seconds : Int) : Int × ByteText :=
  match zone.summer with
  | none => (zone.offset, zone.name)
  | some summer =>
    if zone.isSummer summer seconds then (summer.offset, summer.name) else (zone.offset, zone.name)

/-- The time of a local time, if the clock shows it.  Of two it is the earlier one. -/
def ofLocal? (zone : Zone) (localSeconds : Int) : Option Int :=
  match zone.summer with
  | none => some (localSeconds - zone.offset)
  | some summer =>
    let (early, late) := (localSeconds - summer.offset, localSeconds - zone.offset)
    if zone.isSummer summer early then some early
    else if zone.isSummer summer late then none
    else some late

end Zone

end SchemaDocs.Shell
