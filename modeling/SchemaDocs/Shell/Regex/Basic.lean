import SchemaDocs.Shell.ByteText
import Std.Data.HashSet
/-!
# Regular expressions

What a regular expression consists of.  Parts between parentheses are numbered from one,
in the order in which they are opened.
-/

namespace SchemaDocs.Shell

/-- A set of characters: some ranges, or all characters outside them. -/
structure CharSet where
  ranges : List (Char × Char)
  isNegated : Bool := false
deriving DecidableEq

namespace CharSet

/-- Whether a character is within one of some ranges. -/
def covers (ranges : List (Char × Char)) (c : Char) : Bool :=
  ranges.any fun range => range.1 ≤ c && c ≤ range.2

/-- Whether a character is in a set. -/
def contains (set : CharSet) (c : Char) : Bool := covers set.ranges c != set.isNegated

/-- The other case of a letter. -/
def otherCase (c : Char) : Char := if c.isUpper then c.toLower else c.toUpper

/-- Whether a character is in a set in one of its cases. -/
def containsAnyCase (set : CharSet) (c : Char) : Bool :=
  (covers set.ranges c || covers set.ranges (otherCase c)) != set.isNegated

/-- All characters. -/
def all : CharSet := ⟨[], true⟩

/-- The characters of words. -/
def word : CharSet := ⟨[('a', 'z'), ('A', 'Z'), ('0', '9'), ('_', '_')], false⟩

/-- Blanks of all kinds. -/
def space : CharSet := ⟨[(' ', ' '), ('\t', '\r')], false⟩

/-- A set turned around. -/
def negate (set : CharSet) : CharSet := { set with isNegated := !set.isNegated }

/-- The ranges of a named class. -/
def rangesOfClass? (name : ByteText) : Option (List (Char × Char)) :=
  match String.ofList name with
  | "alpha" => some [('a', 'z'), ('A', 'Z')]
  | "digit" => some [('0', '9')]
  | "alnum" => some [('a', 'z'), ('A', 'Z'), ('0', '9')]
  | "upper" => some [('A', 'Z')]
  | "lower" => some [('a', 'z')]
  | "space" => some [(' ', ' '), ('\t', '\r')]
  | "blank" => some [(' ', ' '), ('\t', '\t')]
  | "punct" => some [('!', '/'), (':', '@'), ('[', '\x60'), ('\x7b', '~')]
  | "print" => some [(' ', '~')]
  | "graph" => some [('!', '~')]
  | "cntrl" => some [('\x00', '\x1f'), ('\x7f', '\x7f')]
  | "xdigit" => some [('0', '9'), ('a', 'f'), ('A', 'F')]
  | _ => none

end CharSet

/-- A place that a regular expression asks for. -/
inductive Anchor where
  | lineStart | lineEnd | wordStart | wordEnd | wordEdge | noWordEdge | textStart | textEnd
  /-- No character of a word stands before or behind the place. -/
  | clearBefore | clearAfter
deriving DecidableEq

/-- A regular expression. -/
inductive Regex where
  | empty
  | one (set : CharSet)
  | anchor (kind : Anchor)
  | group (number : Nat) (inner : Regex)
  /-- The text that a group matched. -/
  | again (number : Nat)
  | sequence (first second : Regex)
  | choice (first second : Regex)
  /-- So many times at least, and at most if there is a bound. -/
  | times (inner : Regex) (least : Nat) (most : Option Nat)
deriving DecidableEq

namespace Regex

/-- A character. -/
def char (c : Char) : Regex := .one ⟨[(c, c)], false⟩

/-- Whether a regular expression refers to what a group matched. -/
def refersBack : Regex → Bool
  | .again _ => true
  | .group _ inner => inner.refersBack
  | .sequence first second => first.refersBack || second.refersBack
  | .choice first second => first.refersBack || second.refersBack
  | .times inner _ _ => inner.refersBack
  | _ => false

/-- Whether a regular expression may match the empty text, for all one can see. -/
def mayBeEmpty : Regex → Bool
  | .empty => true
  | .one _ => false
  | .anchor _ => true
  | .group _ inner => inner.mayBeEmpty
  | .again _ => true
  | .sequence first second => first.mayBeEmpty && second.mayBeEmpty
  | .choice first second => first.mayBeEmpty || second.mayBeEmpty
  | .times inner least _ => least = 0 || inner.mayBeEmpty

/-- The sets of which one holds the first character of every match. -/
def firstSets : Regex → List CharSet
  | .one set => [set]
  | .group _ inner => inner.firstSets
  | .sequence first second =>
    if first.mayBeEmpty then first.firstSets ++ second.firstSets else first.firstSets
  | .choice first second => first.firstSets ++ second.firstSets
  | .times inner _ _ => inner.firstSets
  | .again _ => [CharSet.all]
  | _ => []

end Regex

end SchemaDocs.Shell

/-!
## Matching regular expressions

A regular expression is matched at a place by following all ways through it at once.  Of
several ways to the same place the first one is kept, where a repetition goes on as long
as it can and an alternative stands before the later ones.  The match is the one that
reaches farthest.
-/

namespace SchemaDocs.Shell

/-- A text in which matches are looked for. -/
structure Subject where
  chars : Array Char
  /-- Whether upper and lower case are the same. -/
  ignoresCase : Bool := false
  /-- Whether lines within the text begin and end like the text itself.  A set that is turned around
  does not hold the line feeds between them. -/
  hasLines : Bool := false
  /-- Whether the text does not begin a line. -/
  isContinued : Bool := false

/-- Where a group was matched: its number, its start and its end. -/
structure Capture where
  number : Nat
  start : Nat
  stop : Nat
deriving DecidableEq

/-- A way through a part of a regular expression: the place that it leads to, and the groups that
were matched on it, the last one first. -/
structure Thread where
  place : Nat
  captures : List Capture
deriving DecidableEq

namespace Subject

/-- Whether a set holds the character at a place. -/
def holds (subject : Subject) (set : CharSet) (place : Nat) : Bool :=
  match subject.chars[place]? with
  | some c =>
    if subject.hasLines && set.isNegated && c = '\n' then false
    else if subject.ignoresCase then set.containsAnyCase c
    else set.contains c
  | none => false

/-- Whether the character at a place belongs to a word. -/
def isWordAt (subject : Subject) (place : Nat) : Bool :=
  match subject.chars[place]? with
  | some c => CharSet.word.contains c
  | none => false

/-- Whether the character before a place belongs to a word. -/
def isWordBefore (subject : Subject) : Nat → Bool
  | 0 => false
  | place + 1 => subject.isWordAt place

/-- Whether a place is of a kind. -/
def isAt (subject : Subject) (place : Nat) : Anchor → Bool
  | .lineStart =>
    (place = 0 && !subject.isContinued)
      || (subject.hasLines && place != 0 && subject.chars[place - 1]? = some '\n')
  | .lineEnd =>
    place = subject.chars.size || (subject.hasLines && subject.chars[place]? = some '\n')
  | .wordStart => !subject.isWordBefore place && subject.isWordAt place
  | .wordEnd => subject.isWordBefore place && !subject.isWordAt place
  | .wordEdge => subject.isWordBefore place != subject.isWordAt place
  | .noWordEdge => subject.isWordBefore place == subject.isWordAt place
  | .textStart => place = 0 && !subject.isContinued
  | .textEnd => place = subject.chars.size
  | .clearBefore => !subject.isWordBefore place
  | .clearAfter => !subject.isWordAt place

/-- The text between two places. -/
def between (subject : Subject) (start stop : Nat) : ByteText :=
  (subject.chars.extract start stop).toList

end Subject

namespace Thread

/-- The last match of a group on a way. -/
def capture? (thread : Thread) (number : Nat) : Option Capture :=
  thread.captures.find? fun capture => capture.number = number

/-- Keeps the first way to every place. -/
def keepFirst (threads : List Thread) : List Thread :=
  match threads with
  | [] => []
  | [thread] => [thread]
  | _ =>
    (threads.foldl
      (fun (kept, seen) thread =>
        if Std.HashSet.contains seen thread.place then (kept, seen)
        else (thread :: kept, seen.insert thread.place))
      (([] : List Thread), (∅ : Std.HashSet Nat))).1.reverse

/-- Keeps the first of ways that cannot be told apart any more. -/
def prune (distinguishesCaptures : Bool) (threads : List Thread) : List Thread :=
  if distinguishesCaptures then threads.eraseDups else keepFirst threads

end Thread

namespace Regex

/-- The place after the characters of a set that follow a place. -/
def runEnd (subject : Subject) (set : CharSet) : Nat → Nat → Nat
  | 0, place => place
  | fuel + 1, place =>
    if subject.holds set place then runEnd subject set fuel (place + 1) else place

/-- The ways on from a place through any number of characters of a set, the longest first. -/
def runThreads (thread : Thread) (stop : Nat) : Nat → Nat → List Thread → List Thread
  | 0, _, threads => threads
  | fuel + 1, place, threads =>
    if stop < place then threads
    else runThreads thread stop fuel (place + 1) ({ thread with place := place } :: threads)

/-- The ways on through repetitions of a part, longer ones before shorter ones.  Each repetition
has to reach a place that no other one reached. -/
def repeatFrom (step : Thread → List Thread) :
    Nat → Std.HashSet Nat → Thread → List Thread × Std.HashSet Nat
  | 0, seen, thread => ([thread], seen)
  | fuel + 1, seen, thread =>
    let (later, seen) := (step thread).foldl
      (fun (later, seen) next =>
        if Std.HashSet.contains seen next.place then (later, seen)
        else
          let (threads, seen) := repeatFrom step fuel (seen.insert next.place) next
          (later ++ threads, seen))
      (([] : List Thread), seen)
    (later ++ [thread], seen)

/-- The ways through exactly so many repetitions. -/
def repeatExactly (step : List Thread → List Thread) : Nat → List Thread → List Thread
  | 0, threads => threads
  | count + 1, threads => repeatExactly step count (step threads)

/-- The ways through up to so many repetitions, longer ones before shorter ones. -/
def repeatUpTo (step : List Thread → List Thread) : Nat → List Thread → List Thread
  | 0, threads => threads
  | count + 1, threads =>
    match threads with
    | [] => []
    | threads => repeatUpTo step count (step threads) ++ threads

/-- The set of a part that is one character. -/
def singleSet? : Regex → Option CharSet
  | .one set => some set
  | _ => none

/-- The ways on through a regular expression. -/
def follow (subject : Subject) (distinguishes : Bool) : Regex → List Thread → List Thread
  | .empty, threads => threads
  | .one set, threads =>
    threads.filterMap fun thread =>
      if subject.holds set thread.place then some { thread with place := thread.place + 1 }
      else none
  | .anchor kind, threads => threads.filter fun thread => subject.isAt thread.place kind
  | .group number inner, threads =>
    Thread.prune distinguishes (threads.flatMap fun thread =>
      (follow subject distinguishes inner [thread]).map fun next =>
        { next with captures := ⟨number, thread.place, next.place⟩ :: next.captures })
  | .again number, threads =>
    threads.filterMap fun thread =>
      match thread.capture? number with
      | none => none
      | some capture =>
        let text := subject.between capture.start capture.stop
        let here := subject.between thread.place (thread.place + text.length)
        let same := here = text
          || (subject.ignoresCase && ByteText.toLower here = ByteText.toLower text)
        if same then some { thread with place := thread.place + text.length } else none
  | .sequence first second, threads =>
    match threads with
    | [] => []
    | threads => follow subject distinguishes second (follow subject distinguishes first threads)
  | .choice first second, threads =>
    Thread.prune distinguishes (threads.flatMap fun thread =>
      follow subject distinguishes first [thread] ++ follow subject distinguishes second [thread])
  | .times inner least most, threads =>
    let step := follow subject distinguishes inner
    let begun := repeatExactly step least threads
    match most with
    | some most => Thread.prune distinguishes (repeatUpTo step (most - least) begun)
    | none =>
      match singleSet? inner with
      | some set =>
        Thread.prune distinguishes (begun.flatMap fun thread =>
          let stop := runEnd subject set (subject.chars.size - thread.place) thread.place
          runThreads thread stop (stop - thread.place + 1) thread.place [])
      | none =>
        Thread.prune distinguishes (begun.flatMap fun thread =>
          (repeatFrom (fun thread => step [thread]) (subject.chars.size + 1)
            ((∅ : Std.HashSet Nat).insert thread.place) thread).1)

/-- The way that reaches farthest, the first of several. -/
def farthest : List Thread → Option Thread
  | [] => none
  | thread :: threads =>
    some (threads.foldl (fun best next => if best.place < next.place then next else best) thread)

end Regex

/-- A regular expression that was read, with what is known of all its matches. -/
structure Pattern where
  regex : Regex
  /-- The number of groups. -/
  groups : Nat
  refersBack : Bool
  mayBeEmpty : Bool
  firstSets : List CharSet

/-- A match: where it begins and ends, and what its groups matched. -/
structure Match where
  start : Nat
  stop : Nat
  captures : List Capture

namespace Pattern

/-- A pattern of a regular expression with some groups. -/
def ofRegex (regex : Regex) (groups : Nat) : Pattern :=
  ⟨regex, groups, regex.refersBack, regex.mayBeEmpty, regex.firstSets⟩

/-- Whether a match may begin at a place. -/
def mayBeginAt (pattern : Pattern) (subject : Subject) (place : Nat) : Bool :=
  pattern.mayBeEmpty || pattern.firstSets.any fun set => subject.holds set place

/-- The longest match that begins at a place. -/
def matchAt? (pattern : Pattern) (subject : Subject) (place : Nat) : Option Match :=
  if pattern.mayBeginAt subject place then
    (Regex.farthest (pattern.regex.follow subject pattern.refersBack [⟨place, []⟩])).map
      fun thread => ⟨place, thread.place, thread.captures⟩
  else none

/-- The first match from a place on, among so many places. -/
def searchFrom (pattern : Pattern) (subject : Subject) : Nat → Nat → Option Match
  | 0, _ => none
  | fuel + 1, place =>
    match pattern.matchAt? subject place with
    | some found => some found
    | none => searchFrom pattern subject fuel (place + 1)

/-- The first match from a place on. -/
def search (pattern : Pattern) (subject : Subject) (place : Nat) : Option Match :=
  pattern.searchFrom subject (subject.chars.size + 1 - place) place

/-- Whether there is a match. -/
def occursIn (pattern : Pattern) (subject : Subject) : Bool := (pattern.search subject 0).isSome

end Pattern

namespace Match

/-- The text of a group, or of the whole match for zero, empty if the group was not matched. -/
def group (found : Match) (subject : Subject) (number : Nat) : ByteText :=
  if number = 0 then subject.between found.start found.stop
  else
    match found.captures.find? fun capture => capture.number = number with
    | some capture => subject.between capture.start capture.stop
    | none => []

end Match

end SchemaDocs.Shell
