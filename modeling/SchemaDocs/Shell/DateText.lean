import SchemaDocs.Shell.Calendar
/-!
# Dates in words

A date may be written in many ways: as numbers between dashes or slashes, with the name of
a month, as a time of day, or as a distance from now.  The parts may come in any order.
-/

namespace SchemaDocs.Shell

namespace DateText

/-! ## Tokens -/

/-- A distance in time. -/
structure Distance where
  years : Int := 0
  months : Int := 0
  days : Int := 0
  hours : Int := 0
  minutes : Int := 0
  seconds : Int := 0
  nanoseconds : Int := 0
deriving DecidableEq

/-- The sum of two distances. -/
def Distance.plus (a b : Distance) : Distance :=
  ⟨a.years + b.years, a.months + b.months, a.days + b.days, a.hours + b.hours,
    a.minutes + b.minutes, a.seconds + b.seconds, a.nanoseconds + b.nanoseconds⟩

/-- A distance so many times. -/
def Distance.times (count : Int) (a : Distance) : Distance :=
  ⟨count * a.years, count * a.months, count * a.days, count * a.hours, count * a.minutes,
    count * a.seconds, count * a.nanoseconds⟩

/-- A number as it is written: its value, the count of its digits, and whether a sign stands before it. -/
structure Figure where
  value : Int
  digits : Nat
  isSigned : Bool := false
deriving DecidableEq

/-- A piece of the text of a date. -/
inductive Token where
  | figure (figure : Figure)
  /-- A number with a part behind the point, in whole seconds and billionths. -/
  | decimal (seconds nanoseconds : Int) ( isSigned : Bool)
  /-- A half of the day. -/
  | half ( isLate : Bool)
  | month (month : Nat)
  | weekDay (day : Nat)
  | unit (distance : Distance)
  | ordinal (count : Int)
  /-- A word for a day near today. -/
  | dayShift (days : Int)
  /-- A word that turns a distance to the past or to the future. -/
  | direction (sign : Int)
  /-- A zone by its seconds to the east. -/
  | zone (offset : Int)
  /-- A zone in summer time, by its seconds to the east. -/
  | summerZone (offset : Int)
  /-- The word for summer time. -/
  | summer
  /-- The letter between a date and a time. -/
  | between
  | mark (c : Char)
deriving DecidableEq

/-! ## Words -/

/-- The place of a name among names, of which the first three letters are enough. -/
def placeIn (names : List String) (word : ByteText) : Option Nat :=
  let isShort := word.length = 3 || (word.length = 4 && word.getLast? = some '.')
  names.findIdx? fun name =>
    let name := (ascii name).map Char.toUpper
    if isShort then name.take 3 = word.take 3 else name = word

/-- The month of a name. -/
def month? (word : ByteText) : Option Nat :=
  if word = ascii "SEPT" then some 9 else (placeIn Calendar.monthNames word).map (· + 1)

/-- The day of the week of a name. -/
def weekDay? (word : ByteText) : Option Nat :=
  if word = ascii "TUES" then some 2
  else if word = ascii "WEDNES" then some 3
  else if word = ascii "THUR" || word = ascii "THURS" then some 4
  else placeIn Calendar.dayNames word

/-- The distance of a unit. -/
def unit? (word : ByteText) : Option Distance :=
  let word := if word.getLast? = some 'S' then word.dropLast else word
  match String.ofList word with
  | "YEAR" => some { years := 1 }
  | "MONTH" => some { months := 1 }
  | "FORTNIGHT" => some { days := 14 }
  | "WEEK" => some { days := 7 }
  | "DAY" => some { days := 1 }
  | "HOUR" => some { hours := 1 }
  | "MINUTE" => some { minutes := 1 }
  | "MIN" => some { minutes := 1 }
  | "SECOND" => some { seconds := 1 }
  | "SEC" => some { seconds := 1 }
  | _ => none

/-- The meaning of a word that places a distance. -/
def relative? (word : ByteText) : Option Token :=
  match String.ofList word with
  | "NOW" => some (.dayShift 0)
  | "TODAY" => some (.dayShift 0)
  | "TOMORROW" => some (.dayShift 1)
  | "YESTERDAY" => some (.dayShift (-1))
  | "LAST" => some (.ordinal (-1))
  | "THIS" => some (.ordinal 0)
  | "NEXT" => some (.ordinal 1)
  | "FIRST" => some (.ordinal 1)
  | "THIRD" => some (.ordinal 3)
  | "FOURTH" => some (.ordinal 4)
  | "FIFTH" => some (.ordinal 5)
  | "SIXTH" => some (.ordinal 6)
  | "SEVENTH" => some (.ordinal 7)
  | "EIGHTH" => some (.ordinal 8)
  | "NINTH" => some (.ordinal 9)
  | "TENTH" => some (.ordinal 10)
  | "ELEVENTH" => some (.ordinal 11)
  | "TWELFTH" => some (.ordinal 12)
  | "AGO" => some (.direction (-1))
  | "HENCE" => some (.direction 1)
  | _ => none

/-- The names of zones, by minutes to the east. -/
def zones : List (String × Int) :=
  [("GMT", 0), ("UT", 0), ("UTC", 0), ("WET", 0), ("ART", -180), ("BRT", -180), ("NST", -210),
   ("AST", -240), ("CLT", -240), ("EST", -300), ("CST", -360), ("MST", -420), ("PST", -480),
   ("AKST", -540), ("HST", -600), ("HAST", -600), ("SST", -720), ("WAT", 60), ("CET", 60),
   ("MET", 60), ("MEZ", 60), ("EET", 120), ("CAT", 120), ("SAST", 120), ("EAT", 180),
   ("MSK", 180), ("IST", 330), ("SGT", 480), ("KST", 540), ("JST", 540), ("GST", 600),
   ("NZST", 720)]

/-- The names of zones in summer time, by minutes to the east without it. -/
def summerZones : List (String × Int) :=
  [("WEST", 0), ("BST", 0), ("BRST", -180), ("NDT", -210), ("ADT", -240), ("CLST", -240),
   ("EDT", -300), ("CDT", -360), ("MDT", -420), ("PDT", -480), ("AKDT", -540), ("HADT", -600),
   ("CEST", 60), ("MEST", 60), ("MESZ", 60), ("EEST", 120), ("MSD", 180), ("NZDT", 720)]

/-- The meaning of the name of a zone, where the names of a zone at hand come first. -/
def zone? (zone : Zone) (word : ByteText) : Option Token :=
  let upper (name : ByteText) : ByteText := name.map Char.toUpper
  let known (table : List (String × Int)) : Option Int :=
    (table.find? fun (name, _) => ascii name = word).map fun (_, minutes) => minutes * 60
  if word = ascii "GMT" || word = ascii "UT" || word = ascii "UTC" then some (.zone 0)
  else if upper zone.name = word then some (.zone zone.offset)
  else
    match zone.summer with
    | some summer =>
      if upper summer.name = word then some (.zone summer.offset)
      else ((known zones).map .zone).or ((known summerZones).map fun n => .summerZone (n + 3600))
    | none => ((known zones).map .zone).or ((known summerZones).map fun n => .summerZone (n + 3600))

/-- The hours to the east of the zone of a letter. -/
def letterZone? (c : Char) : Option Int :=
  if 'A' ≤ c && c ≤ 'I' then some (c.toNat - 64 : Nat)
  else if 'K' ≤ c && c ≤ 'M' then some (c.toNat - 65 : Nat)
  else if 'N' ≤ c && c ≤ 'Y' then some (-((c.toNat - 77 : Nat) : Int))
  else if c = 'Z' then some 0
  else none

/-- The token of a word in capitals. -/
def wordToken? (zone : Zone) (word : ByteText) : Option Token :=
  let isHalf (text : String) : Bool := word = ascii text
  if isHalf "AM" || isHalf "A.M." then some (.half false)
  else if isHalf "PM" || isHalf "P.M." then some (.half true)
  else
    match month? word, weekDay? word with
    | some month, _ => some (.month month)
    | none, some day => some (.weekDay day)
    | none, none =>
      let letter : Option Token :=
        match word with
        | ['T'] => some .between
        | ['J'] => some (.zone zone.offset)
        | [c] => (letterZone? c).map fun hours => .zone (hours * 3600)
        | _ => none
      let summer : Option Token := if word = ascii "DST" then some .summer else none
      (zone? zone word).or <| summer.or <| ((unit? word).map .unit).or <| (relative? word).or <|
        letter.or (if word.contains '.' then zone? zone (word.filter (· != '.')) else none)

/-! ## Reading tokens -/

/-- Nine digits of the part of a second. -/
def nanoseconds (fraction : ByteText) : Nat :=
  ByteText.valueIn 10 ((fraction ++ List.replicate 9 '0').take 9)

/-- What follows a remark between parentheses, which may hold others. -/
def afterRemark : Nat → ByteText → ByteText
  | _, [] => []
  | 0, text => text
  | depth + 1, '(' :: rest => afterRemark (depth + 2) rest
  | depth + 1, ')' :: rest => afterRemark depth rest
  | depth + 1, _ :: rest => afterRemark (depth + 1) rest

/-- Cuts a text into tokens, none where a word is not known.  Each step takes a character at least. -/
def tokensFrom (zone : Zone) : Nat → ByteText → Option (List Token)
  | 0, _ => some []
  | _ + 1, [] => some []
  | fuel + 1, c :: rest =>
    if isSpaceChar c then tokensFrom zone fuel rest
    else if c = '(' then tokensFrom zone fuel (afterRemark 1 rest)
    else
      let isSigned := c = '+' || c = '-'
      let body := if isSigned then rest.dropWhile isSpaceChar else c :: rest
      let digits := body.takeWhile Char.isDigit
      if !digits.isEmpty then
        let after := body.drop digits.length
        let fraction : ByteText :=
          match after with
          | mark :: more => if mark = '.' || mark = ',' then more.takeWhile Char.isDigit else []
          | [] => []
        let value : Int := (ByteText.valueIn 10 digits : Nat)
        let value := if c = '-' then -value else value
        if fraction.isEmpty then
          (tokensFrom zone fuel after).map (.figure ⟨value, digits.length, isSigned⟩ :: ·)
        else
          let nanos : Int := (nanoseconds fraction : Nat)
          let hasMore := (fraction.drop 9).any (· != '0')
          let token : Token :=
            if c = '-' then
              let nanos := if hasMore then nanos + 1 else nanos
              if nanos = 0 then .decimal value 0 isSigned
              else .decimal (value - 1) (1000000000 - nanos) isSigned
            else .decimal value nanos isSigned
          (tokensFrom zone fuel (after.drop (fraction.length + 1))).map (token :: ·)
      else if isSigned then tokensFrom zone fuel body
      else if c.isAlpha then
        let word := (c :: rest).takeWhile fun c => c.isAlpha || c = '.'
        match wordToken? zone (word.map Char.toUpper) with
        | some token => (tokensFrom zone fuel ((c :: rest).drop word.length)).map (token :: ·)
        | none => none
      else (tokensFrom zone fuel rest).map (.mark c :: ·)

/-- The tokens of a text, in a zone whose names may stand in it. -/
def tokens? (zone : Zone) (text : ByteText) : Option (List Token) :=
  tokensFrom zone (text.length + 1) text

/-! ## Parts -/

/-- What was read so far. -/
structure Reading where
  year : Option Int := none
  month : Int := 0
  day : Int := 0
  hasDate : Bool := false
  hour : Int := 0
  minute : Int := 0
  second : Int := 0
  nanosecond : Int := 0
  hasTime : Bool := false
  weekDay : Option (Int × Nat) := none
  distance : Distance := {}
  hasDistance : Bool := false
  zone : Option Int := none

/-- A year of which two digits may stand for one near now. -/
def wholeYear (value : Int) (digits : Nat) : Int :=
  if digits = 2 then (if value < 69 then value + 2000 else value + 1900) else value

/-- The reading with a date, unless it has one. -/
def Reading.withDate? (reading : Reading) (year : Option Int) (month day : Int) : Option Reading :=
  if reading.hasDate then none
  else some { reading with year := year, month := month, day := day, hasDate := true }

/-- The reading with a time of day, unless it has one. -/
def Reading.withTime? (reading : Reading) (hour minute second nanosecond : Int) : Option Reading :=
  if reading.hasTime || hour < 0 || 23 < hour || 59 < minute || 59 < second then none
  else
    let reading := { reading with hour := hour, minute := minute, second := second }
    some { reading with nanosecond := nanosecond, hasTime := true }

/-- The reading with a zone, unless it has one. -/
def Reading.withZone? (reading : Reading) (zone : Int) : Option Reading :=
  if reading.zone.isSome then none else some { reading with zone := some zone }

/-- The reading with a day of the week, unless it has one. -/
def Reading.withWeekDay? (reading : Reading) (count : Int) (day : Nat) : Option Reading :=
  if reading.weekDay.isSome then none else some { reading with weekDay := some (count, day) }

/-- The reading with a distance more. -/
def Reading.withDistance (reading : Reading) (distance : Distance) : Reading :=
  { reading with distance := reading.distance.plus distance, hasDistance := true }

/-- The hour of a day that has two halves of twelve hours. -/
def hourOf? (hour : Int) ( isLate : Bool) : Option Int :=
  if hour ≤ 0 || 12 < hour then none
  else some (hour % 12 + if isLate then 12 else 0)

/-- The seconds of an offset of up to a day: two digits for hours, or four with minutes. -/
def offset? (figure : Figure) ( isMinus : Bool) (minutes : Option Int) : Option Int :=
  let count :=
    match minutes with
    | some minutes => figure.value * 60 + (if isMinus then -minutes else minutes)
    | none =>
      let value := if figure.digits ≤ 2 then figure.value * 100 else figure.value
      Int.tdiv value 100 * 60 + Int.tmod value 100
  if count < -1440 || 1440 < count then none else some (count * 60)

/-- What parts are left of after one was read. -/
abbrev Step := Option (Reading × List Token)

/-- Reads the distance of a zone, which may have minutes behind a colon. -/
def readOffset (base : Int) (reading : Reading) (figure : Figure) (rest : List Token) : Step := do
  let isMinus := figure.value < 0
  match rest with
  | .mark ':' :: .figure ⟨minutes, _, false⟩ :: rest =>
    let offset ← offset? figure isMinus (some minutes)
    let reading ← reading.withZone? (base + offset)
    some (reading, rest)
  | .mark ':' :: _ => none
  | rest =>
    let offset ← offset? figure isMinus none
    let reading ← reading.withZone? (base + offset)
    some (reading, rest)

/-- Reads what may follow a time of day: a half of the day or an offset. -/
def timeTail (reading : Reading) (hour minute second nanosecond : Int) (allowsHalf : Bool)
    (rest : List Token) : Step := do
  match rest with
  | .half isLate :: rest =>
    if !allowsHalf then none
    else
      let hour ← hourOf? hour isLate
      let reading ← reading.withTime? hour minute second nanosecond
      some (reading, rest)
  | .figure ⟨value, digits, true⟩ :: rest =>
    let reading ← reading.withTime? hour minute second nanosecond
    readOffset 0 reading ⟨value, digits, true⟩ rest
  | rest =>
    let reading ← reading.withTime? hour minute second nanosecond
    some (reading, rest)

/-- Reads the rest of a time of day whose hour was read, from its colon on. -/
def clockTail (reading : Reading) (hour : Int) (allowsHalf : Bool) (rest : List Token) : Step :=
  match rest with
  | .figure ⟨minute, _, false⟩ :: .mark ':' :: .figure ⟨second, _, false⟩ :: rest =>
    timeTail reading hour minute second 0 allowsHalf rest
  | .figure ⟨minute, _, false⟩ :: .mark ':' :: .decimal second nanos false :: rest =>
    timeTail reading hour minute second nanos allowsHalf rest
  | .figure ⟨_, _, false⟩ :: .mark ':' :: _ => none
  | .figure ⟨minute, _, false⟩ :: rest => timeTail reading hour minute 0 0 allowsHalf rest
  | _ => none

/-- Reads the word for past or future behind a distance. -/
def distanceTail (reading : Reading) (distance : Distance) (rest : List Token) : Step :=
  match rest with
  | .direction sign :: rest => some (reading.withDistance (distance.times sign), rest)
  | rest => some (reading.withDistance distance, rest)

/-- Reads a number that stands alone: a year, a date or a time. -/
def loneNumber (reading : Reading) (value : Int) (digits : Nat) : Option Reading :=
  if reading.hasDate && reading.year.isNone && !reading.hasDistance
      && (reading.hasTime || 2 < digits) then
    some { reading with year := some (wholeYear value digits) }
  else if 4 < digits then
    reading.withDate? (some (wholeYear (value / 10000) (digits - 4))) (value / 100 % 100)
      (value % 100)
  else if digits ≤ 2 then reading.withTime? value 0 0 0
  else reading.withTime? (value / 100) (value % 100) 0 0

/-- Reads what follows a year, a month and a day: a time behind a letter. -/
def dateTail (reading : Reading) (rest : List Token) : Step :=
  match rest with
  | .between :: .figure ⟨hour, _, false⟩ :: .mark ':' :: rest => clockTail reading hour false rest
  | .between :: .figure ⟨hour, _, false⟩ :: .figure ⟨value, digits, true⟩ :: rest =>
    timeTail reading hour 0 0 0 false (.figure ⟨value, digits, true⟩ :: rest)
  | .between :: _ => none
  | rest => some (reading, rest)

/-- Reads what begins with a number without a sign. -/
def readNumber (reading : Reading) (value : Int) (digits : Nat) (rest : List Token) : Step := do
  match rest with
  | .half isLate :: rest =>
    let hour ← hourOf? value isLate
    let reading ← reading.withTime? hour 0 0 0
    some (reading, rest)
  | .mark ':' :: rest => clockTail reading value true rest
  | .figure ⟨second, length, true⟩ :: rest =>
    match rest with
    | .figure ⟨third, _, true⟩ :: rest =>
      let reading ← reading.withDate? (some (wholeYear value digits)) (-second) (-third)
      dateTail reading rest
    | .unit distance :: rest =>
      let reading ← loneNumber reading value digits
      some (reading.withDistance (distance.times second), rest)
    | rest =>
      let reading ← reading.withTime? value 0 0 0
      readOffset 0 reading ⟨second, length, true⟩ rest
  | .mark '/' :: .figure ⟨second, _, false⟩ :: .mark '/' :: .figure ⟨third, length, false⟩ :: rest =>
    let reading ←
      if 4 ≤ digits then reading.withDate? (some (wholeYear value digits)) second third
      else reading.withDate? (some (wholeYear third length)) value second
    some (reading, rest)
  | .mark '/' :: .figure ⟨second, _, false⟩ :: rest =>
    let reading ← reading.withDate? none value second
    some (reading, rest)
  | .month month :: .figure ⟨year, length, isSigned⟩ :: rest =>
    let year := if isSigned then -year else year
    let reading ← reading.withDate? (some (wholeYear year length)) month value
    some (reading, rest)
  | .month month :: rest =>
    let reading ← reading.withDate? none month value
    some (reading, rest)
  | .weekDay day :: rest =>
    let reading ← reading.withWeekDay? value day
    some (reading, rest)
  | .unit distance :: rest => distanceTail reading (distance.times value) rest
  | rest =>
    let reading ← loneNumber reading value digits
    some (reading, rest)

/-- Reads what begins with the name of a zone. -/
def readZone (reading : Reading) (zone : Int) (rest : List Token) : Step := do
  match rest with
  | .figure ⟨value, _, true⟩ :: .unit distance :: rest =>
    let reading ← reading.withZone? zone
    some (reading.withDistance (distance.times value), rest)
  | .figure ⟨value, digits, true⟩ :: rest => readOffset zone reading ⟨value, digits, true⟩ rest
  | .summer :: rest =>
    let reading ← reading.withZone? (zone + 3600)
    some (reading, rest)
  | rest =>
    let reading ← reading.withZone? zone
    some (reading, rest)

/-- Reads one part. -/
def readPart (reading : Reading) (token : Token) (rest : List Token) : Step := do
  match token with
  | .figure ⟨value, digits, false⟩ => readNumber reading value digits rest
  | .figure ⟨value, _, true⟩ =>
    match rest with
    | .unit distance :: rest => distanceTail reading (distance.times value) rest
    | _ => none
  | .decimal seconds nanos _ =>
    match rest with
    | .unit distance :: rest =>
      if distance.seconds = 0 then none
      else distanceTail reading { seconds := seconds, nanoseconds := nanos } rest
    | _ => none
  | .month month =>
    match rest with
    | .figure ⟨day, _, false⟩ :: .mark ',' :: .figure ⟨year, length, false⟩ :: rest =>
      let reading ← reading.withDate? (some (wholeYear year length)) month day
      some (reading, rest)
    | .figure ⟨_, _, false⟩ :: .mark ',' :: _ => none
    | .figure ⟨day, _, false⟩ :: rest =>
      let reading ← reading.withDate? none month day
      some (reading, rest)
    | .figure ⟨day, _, true⟩ :: .figure ⟨year, length, true⟩ :: rest =>
      let reading ← reading.withDate? (some (wholeYear (-year) length)) month (-day)
      some (reading, rest)
    | _ => none
  | .weekDay day =>
    let rest := if rest.head? = some (.mark ',') then rest.drop 1 else rest
    let reading ← reading.withWeekDay? 0 day
    some (reading, rest)
  | .ordinal count =>
    match rest with
    | .weekDay day :: rest =>
      let reading ← reading.withWeekDay? count day
      some (reading, rest)
    | .unit distance :: rest => distanceTail reading (distance.times count) rest
    | _ => none
  | .unit distance => distanceTail reading distance rest
  | .dayShift days => some (reading.withDistance { days := days }, rest)
  | .zone zone => readZone reading zone rest
  | .summerZone zone =>
    let reading ← reading.withZone? zone
    some (reading, rest)
  | .between =>
    match rest with
    | .figure ⟨value, _, true⟩ :: .unit distance :: rest =>
      let reading ← reading.withZone? (-25200)
      some (reading.withDistance (distance.times value), rest)
    | rest =>
      let reading ← reading.withZone? (-25200)
      some (reading, rest)
  | _ => none

/-- Reads all parts of a date.  Each step takes a token at least. -/
def readFrom : Nat → Reading → List Token → Option Reading
  | 0, _, _ => none
  | _ + 1, reading, [] => some reading
  | fuel + 1, reading, token :: rest => do
    let (reading, rest) ← readPart reading token rest
    readFrom fuel reading rest

/-! ## Dates -/

/-- The seconds and billionths of a second of a reading, seen from some time in a zone. -/
def Reading.seconds? (reading : Reading) (zone : Zone) (now : Int) : Option (Int × Nat) :=
  let today := Calendar.ofSeconds (now + (zone.offsetAt now).1)
  let year := if reading.hasDate then reading.year.getD today.year else today.year
  let month : Int := if reading.hasDate then reading.month else (today.month : Nat)
  let day : Int := if reading.hasDate then reading.day else (today.day : Nat)
  let keepsTime := reading.hasDistance && !reading.hasDate && reading.weekDay.isNone
  let (hour, minute, second) :=
    if reading.hasTime then (reading.hour, reading.minute, reading.second)
    else if keepsTime then
      (((today.hour : Nat) : Int), ((today.minute : Nat) : Int), ((today.second : Nat) : Int))
    else (0, 0, 0)
  if month < 1 || 12 < month || day < 1 || (Calendar.daysIn year month.toNat : Int) < day then none
  else
    let start := Calendar.dayNumber year month.toNat 1 + day - 1
    let shift : Int :=
      match reading.weekDay with
      | some (count, weekDay) =>
        if reading.hasDate then 0
        else
          let now := (start + 4) % 7
          let weeks : Int := if 0 < count && now ≠ (weekDay : Int) then count - 1 else count
          ((weekDay : Int) - now + 7) % 7 + 7 * weeks
      | none => 0
    let distance := reading.distance
    let months := year * 12 + (month - 1) + distance.years * 12 + distance.months
    let date :=
      Calendar.dayNumber (months / 12) (months % 12 + 1).toNat 1 + (day - 1) + shift + distance.days
    let time : Int := hour * 3600 + minute * 60 + second
    let start : Option Int :=
      match reading.zone with
      | some offset => some (date * 86400 + time - offset)
      | none => zone.ofLocal? (date * 86400 + time)
    start.map fun start =>
      let total := start + distance.hours * 3600 + distance.minutes * 60 + distance.seconds
      let nanos := (if reading.hasTime then reading.nanosecond else 0) + distance.nanoseconds
      (total + nanos / 1000000000, (nanos % 1000000000).toNat)

/-- The zone that is named before the text of a date, between quotes, and what follows it. -/
def zoneBefore (zone : Zone) (text : ByteText) : Zone × ByteText :=
  let body := text.dropWhile isSpaceChar
  if (ascii "TZ=\"").isPrefixOf body then
    let name := (body.drop 4).takeWhile (· != '"')
    (Zone.ofText name, body.drop (name.length + 5))
  else (zone, text)

/-- The seconds and billionths of a second of the text of a date, seen from some time in a zone. -/
def read? (now : Int) (text : ByteText) (zone : Zone := Zone.universal) : Option (Int × Nat) := do
  let (zone, text) := zoneBefore zone text
  match ← tokens? zone text with
  | [.mark '@', .figure figure] => some (figure.value, 0)
  | [.mark '@', .decimal seconds nanos _] => some (seconds, nanos.toNat)
  | tokens =>
    let reading ← readFrom (tokens.length + 1) {} tokens
    reading.seconds? zone now

end DateText

end SchemaDocs.Shell
