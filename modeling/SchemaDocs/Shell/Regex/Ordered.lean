import SchemaDocs.Shell.Regex.Basic
import SchemaDocs.Text.Letter
/-!
# Regular expressions with an order of ways

In these the ways through a pattern are tried one after the other, and the first one that leads
to the end of the pattern counts.  A repetition may prefer to be long or short, and parts may look
ahead or behind.
-/

namespace SchemaDocs.Shell.Ordered

/-- A kind of characters. -/
inductive Kind where
  | word | digit | space | blank | vertical | alpha | alnum | upper | lower | punct | print | graph
  | control | hexDigit | ascii | notFeed
deriving DecidableEq

/-- Whether a character is of a kind, in ASCII or beyond. -/
def Kind.holds (isWide : Bool) (kind : Kind) (c : Char) : Bool :=
  if c.toNat < 128 then
    match kind with
    | .word => CharSet.word.contains c
    | .digit => c.isDigit
    | .space => isSpaceChar c || (isWide && '\x1c' ≤ c && c ≤ '\x1f')
    | .blank => c = ' ' || c = '\t'
    | .vertical => '\n' ≤ c && c ≤ '\r'
    | .alpha => c.isAlpha
    | .alnum => c.isAlphanum
    | .upper => c.isUpper
    | .lower => c.isLower
    | .punct => isPunctuation c
    | .print => isShown c
    | .graph => isShown c && c != ' '
    | .control => c.toNat < 32 || c.toNat = 127
    | .hexDigit => ByteText.isDigitIn 16 c
    | .ascii => true
    | .notFeed => c != '\n'
  else
    match kind with
    | .ascii => false
    | .notFeed => true
    | _ =>
      isWide && (match kind with
        | .word => Text.isWordLetter c
        | .digit => (Text.decimalValue? c).isSome
        | .space => Text.isBlank c
        | .blank => Text.isBlank c
        | .vertical => c.toNat = 0x85 || c.toNat = 0x2028 || c.toNat = 0x2029
        | .alpha => Text.isLetter c
        | .alnum => Text.isLetter c || Text.isNumeral c
        | .upper => Text.isUpperLetter c
        | .lower => Text.isLowerLetter c
        | .punct => !Text.isWordLetter c && !Text.isBlank c
        | .control => c.toNat < 160
        | .hexDigit => false
        | _ => !Text.isBlank c)

/-- A part of a set of characters. -/
inductive Part where
  | range (first last : Char)
  | kind (kind : Kind) (isNegated : Bool)
deriving DecidableEq

/-- A set of characters. -/
structure ClassSet where
  parts : List Part
  isNegated : Bool := false
  ignoresCase : Bool := false
  /-- Whether letters beyond ASCII count as such. -/
  isWide : Bool := false
deriving DecidableEq

namespace ClassSet

/-- Whether one of the parts holds a character. -/
def covers (set : ClassSet) (c : Char) : Bool :=
  set.parts.any fun
    | .range first last => first ≤ c && c ≤ last
    | .kind kind isNegated => kind.holds set.isWide c != isNegated

/-- The forms of a letter in both cases. -/
def forms (isWide : Bool) (c : Char) : List Char :=
  if c.toNat < 128 || !isWide then [c, CharSet.otherCase c]
  else
    [c, Text.folded c] ++ (match Text.upperOf c with
      | [upper] => [upper]
      | _ => [])

/-- Whether a set holds a character. -/
def contains (set : ClassSet) (c : Char) : Bool :=
  (if set.ignoresCase then (forms set.isWide c).any set.covers else set.covers c) != set.isNegated

end ClassSet

/-- How a repetition goes on. -/
inductive Greed where
  | long | short
  /-- As long as it can be, with no way back. -/
  | fixed
deriving DecidableEq

/-- A place that a pattern asks for. -/
inductive Spot where
  | textStart | textEnd | lineStart | lineEnd
  /-- The end, or a line feed that ends the text. -/
  | lastEnd
  | searchStart
  | wordEdge (isWide : Bool) | noWordEdge (isWide : Bool)
deriving DecidableEq

/-- A pattern. -/
inductive Node where
  | empty
  | one (set : ClassSet)
  | spot (spot : Spot)
  | group (number : Nat) (inner : Node)
  | again (ignoresCase : Bool) (number : Nat)
  | sequence (first second : Node)
  | choice (first second : Node)
  | times (inner : Node) (least : Nat) (most : Option Nat) (greed : Greed)
  /-- Whether the inner pattern matches ahead of the place or behind it. -/
  | look (isAhead isNegated : Bool) (inner : Node)
  | atomic (inner : Node)
  /-- One of two patterns, by whether a group was matched. -/
  | given (number : Nat) (first second : Node)
  /-- What was matched up to the place does not count. -/
  | keep
  | never
deriving Inhabited

/-- A pattern that was read, with the number of its groups and their names. -/
structure Pattern where
  node : Node
  groups : Nat
  names : List (List Char × Nat)
deriving Inhabited

/-! ## Matching -/

/-- How far a match has come. -/
structure Progress where
  place : Nat
  captures : List Capture
  /-- Where the match begins, if this was changed. -/
  start : Option Nat := none

/-- A way to go on from some progress, if there is one. -/
abbrev Way := Progress → Option Progress

/-- What is searched, and where the search began. -/
structure Field where
  chars : Array Char
  origin : Nat := 0

namespace Field

/-- Whether the character at a place belongs to a word. -/
def isWordAt (field : Field) (isWide : Bool) (place : Nat) : Bool :=
  (field.chars[place]?).any (Kind.word.holds isWide)

/-- Whether a place is between a word and something else. -/
def isEdge (field : Field) (isWide : Bool) (place : Nat) : Bool :=
  (place != 0 && field.isWordAt isWide (place - 1)) != field.isWordAt isWide place

/-- Whether a place is of a kind. -/
def isAt (field : Field) (place : Nat) : Spot → Bool
  | .textStart => place = 0
  | .textEnd => place = field.chars.size
  | .lineStart => place = 0 || field.chars[place - 1]? = some '\n'
  | .lineEnd => place = field.chars.size || field.chars[place]? = some '\n'
  | .lastEnd =>
    place = field.chars.size || (place + 1 = field.chars.size && field.chars[place]? = some '\n')
  | .searchStart => place = field.origin
  | .wordEdge isWide => field.isEdge isWide place
  | .noWordEdge isWide => !field.isEdge isWide place

/-- The number of characters of a set from a place on, up to a bound. -/
def runLength (field : Field) (set : ClassSet) : Nat → Nat → Nat → Nat
  | 0, _, count => count
  | fuel + 1, place, count =>
    match field.chars[place]? with
    | some c => if set.contains c then runLength field set fuel (place + 1) (count + 1) else count
    | none => count

/-- Whether the same characters follow two places. -/
def agrees (field : Field) (ignoresCase : Bool) (a b count : Nat) : Bool :=
  b + count ≤ field.chars.size && (List.range count).all fun offset =>
    match field.chars[a + offset]?, field.chars[b + offset]? with
    | some c, some d => c = d || (ignoresCase && Text.folded c = Text.folded d)
    | _, _ => false

end Field

/-- The last capture of a group. -/
def Progress.capture? (progress : Progress) (number : Nat) : Option Capture :=
  progress.captures.find? fun capture => capture.number = number

/-- Goes on after each of some numbers of characters, from the greatest down. -/
def tryDown (next : Way) (progress : Progress) (least : Nat) : Nat → Option Progress
  | 0 => if least = 0 then next progress else none
  | count + 1 =>
    if count + 1 < least then none
    else
      match next { progress with place := progress.place + (count + 1) } with
      | some found => some found
      | none => tryDown next progress least count

/-- Goes on after each of some numbers of characters, from the smallest up. -/
def tryUp (next : Way) (progress : Progress) (count : Nat) : Nat → Option Progress
  | 0 => next { progress with place := progress.place + count }
  | more + 1 =>
    match next { progress with place := progress.place + count } with
    | some found => some found
    | none => tryUp next progress (count + 1) more

/-- Repeats a step that was taken some times already.  A time that leads nowhere is the last one. -/
def iterate (step : Way → Way) (least : Nat) (most : Option Nat) (isShort : Bool) (next : Way) :
    Nat → Nat → Way
  | 0, _ => next
  | fuel + 1, count => fun progress =>
    let again (_ : Unit) : Option Progress :=
      if most.any fun most => most ≤ count then none
      else
        step (fun later =>
          if later.place = progress.place then next later
          else iterate step least most isShort next fuel (count + 1) later) progress
    if count < least then again ()
    else if isShort then
      match next progress with
      | some found => some found
      | none => again ()
    else
      match again () with
      | some found => some found
      | none => next progress

/-- Looks for a start before a place from which a step leads to it. -/
def tryBack (step : Way → Way) (progress : Progress) : Nat → Option Progress
  | 0 => step (fun later => if later.place = progress.place then some later else none)
      { progress with place := 0 }
  | start + 1 =>
    match step (fun later => if later.place = progress.place then some later else none)
        { progress with place := start + 1 } with
    | some found => some found
    | none => tryBack step progress start

/-- Goes through a pattern and on from there. -/
def Node.run (field : Field) : Node → Way → Way
  | .empty, next => next
  | .never, _ => fun _ => none
  | .one set, next => fun progress =>
    match field.chars[progress.place]? with
    | some c => if set.contains c then next { progress with place := progress.place + 1 } else none
    | none => none
  | .spot kind, next => fun progress =>
    if field.isAt progress.place kind then next progress else none
  | .group number inner, next => fun progress =>
    inner.run field (fun later =>
      next { later with captures := ⟨number, progress.place, later.place⟩ :: later.captures })
      progress
  | .again ignoresCase number, next => fun progress =>
    match progress.capture? number with
    | some capture =>
      let count := capture.stop - capture.start
      if field.agrees ignoresCase capture.start progress.place count then
        next { progress with place := progress.place + count }
      else none
    | none => none
  | .sequence first second, next => first.run field (second.run field next)
  | .choice first second, next => fun progress =>
    match first.run field next progress with
    | some found => some found
    | none => second.run field next progress
  | .times (.one set) least most greed, next => fun progress =>
    let room := field.chars.size - progress.place
    let count := field.runLength set (min room (most.getD room)) progress.place 0
    if count < least then none
    else
      match greed with
      | .long => tryDown next progress least count
      | .short => tryUp next progress least (count - least)
      | .fixed => next { progress with place := progress.place + count }
  | .times inner least most greed, next => fun progress =>
    let fuel := field.chars.size - progress.place + least + 1
    match greed with
    | .fixed =>
      match iterate (inner.run field) least most false some fuel 0 progress with
      | some found => next found
      | none => none
    | greed => iterate (inner.run field) least most (greed = .short) next fuel 0 progress
  | .look isAhead isNegated inner, next => fun progress =>
    let found :=
      if isAhead then inner.run field some progress
      else tryBack (inner.run field) progress progress.place
    match found, isNegated with
    | some found, false => next { found with place := progress.place }
    | none, true => next progress
    | _, _ => none
  | .atomic inner, next => fun progress =>
    match inner.run field some progress with
    | some found => next found
    | none => none
  | .given number first second, next => fun progress =>
    if (progress.capture? number).isSome then first.run field next progress
    else second.run field next progress
  | .keep, next => fun progress => next { progress with start := some progress.place }

/-- A match: where it begins and ends, and the same of the groups that were matched. -/
structure Found where
  start : Nat
  stop : Nat
  groups : Array (Option (Nat × Nat))
  /-- The group that was matched last. -/
  last : Option Nat
deriving Inhabited

namespace Pattern

/-- The match for the progress at its end. -/
def foundOf (pattern : Pattern) (place : Nat) (progress : Progress) : Found :=
  let numbers := (List.range pattern.groups).map (· + 1)
  { start := progress.start.getD place, stop := progress.place
    groups := (numbers.map fun number =>
      (progress.capture? number).map fun capture => (capture.start, capture.stop)).toArray
    last := (progress.captures.head?).map Capture.number }

/-- The match that begins at a place, if it ends where it may. -/
def matchWhere (pattern : Pattern) (field : Field) (place : Nat) (mayEnd : Nat → Bool) :
    Option Found :=
  let finish : Way := fun progress => if mayEnd progress.place then some progress else none
  (pattern.node.run field finish { place := place, captures := [] }).map (pattern.foundOf place)

/-- The first match from a place on.  Each step goes a place on. -/
def searchIn (pattern : Pattern) (field : Field) : Nat → Nat → Option Found
  | 0, place => pattern.matchWhere field place fun _ => true
  | fuel + 1, place =>
    match pattern.matchWhere field place fun _ => true with
    | some found => some found
    | none => searchIn pattern field fuel (place + 1)

/-- The first match from a place on, which may have to be longer than nothing if it stands right
there. -/
def search (pattern : Pattern) (chars : Array Char) (place : Nat) (mustAdvance : Bool := false) :
    Option Found :=
  let field : Field := { chars := chars, origin := place }
  if chars.size < place then none
  else if mustAdvance then
    match pattern.matchWhere field place fun stop => stop != place with
    | some found => some found
    | none =>
      if place = chars.size then none
      else pattern.searchIn field (chars.size - (place + 1)) (place + 1)
  else pattern.searchIn field (chars.size - place) place

/-- The matches from a place on.  After an empty one the next one is not empty at the same place.
Each step finds a match. -/
def allFrom (pattern : Pattern) (chars : Array Char) : Nat → Nat → Bool → List Found
  | 0, _, _ => []
  | fuel + 1, place, mustAdvance =>
    match pattern.search chars place mustAdvance with
    | none => []
    | some found =>
      found :: allFrom pattern chars fuel found.stop (found.stop = found.start)

/-- All matches. -/
def all (pattern : Pattern) (chars : Array Char) : List Found :=
  pattern.allFrom chars (2 * chars.size + 2) 0 false

end Pattern

end SchemaDocs.Shell.Ordered
