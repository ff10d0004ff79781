import SchemaDocs.Shell.Regex.Read
/-!
# Editing scripts

What a script for editing lines consists of: commands, each of which may be bound to some
lines.  Commands stand in a row, and a jump names the place of a command.
-/

namespace SchemaDocs.Shell.Edit

/-- A pattern that a script looks for.  Without one of its own it looks for the last one again. -/
structure Sought where
  pattern : Option Pattern
  ignoresCase : Bool := false
  hasLines : Bool := false

/-- A line or several lines. -/
inductive Address where
  | line (number : Nat)
  /-- The first line and each so many lines after it. -/
  | step (first width : Nat)
  | last
  | text (sought : Sought)

/-- Where a range of lines ends. -/
inductive RangeEnd where
  | address (address : Address)
  /-- So many lines after the start. -/
  | after (count : Nat)
  /-- At a line whose number is a multiple. -/
  | multiple (factor : Nat)

/-- The lines that a command is for. -/
structure Selector where
  start : Option Address := none
  stop : Option RangeEnd := none
  isNegated : Bool := false

/-- What happens to the case of letters in a replacement from some place on. -/
inductive CaseChange where
  | upper | lower | asIs
  /-- Only the next letter is changed. -/
  | nextUpper | nextLower
deriving DecidableEq

/-- A part of a replacement. -/
inductive ReplacementPart where
  | text (text : ByteText)
  | group (number : Nat)
  | change (change : CaseChange)

/-- Where lines are written to. -/
inductive Target where
  /-- The output, or the file that is edited in place. -/
  | output
  /-- The output in any case. -/
  | stream
  | messages
  /-- One of the files of the script. -/
  | file (index : Nat)
deriving DecidableEq

/-- What is replaced, by what, and how often. -/
structure Substitution where
  sought : Sought
  replacement : List ReplacementPart
  isGlobal : Bool := false
  /-- The match that is replaced first. -/
  count : Nat := 1
  prints : Bool := false
  /-- Whether the line is run as a command then. -/
  runs : Bool := false
  target : Option Target := none

/-- When a jump takes place. -/
inductive JumpCondition where
  | always | replaced | notReplaced
deriving DecidableEq

/-- A command of a script. -/
inductive Command where
  | openBlock
  | closeBlock
  | mark (name : ByteText)
  | jump (condition : JumpCondition) (name : ByteText)
  | append (text : ByteText)
  | insert (text : ByteText)
  | change (text : ByteText)
  | delete
  | deleteFirst
  | showNumber
  | showFile
  | hold
  | holdMore
  | fetch
  | fetchMore
  | swap
  | list (width : Option Nat)
  | next
  | nextMore
  | print
  | printFirst
  | quit (code : Nat)
  | quitSilently (code : Nat)
  | readFile (name : ByteText)
  | readLine (name : ByteText)
  | write (target : Target)
  | writeFirst (target : Target)
  | substitute (substitution : Substitution)
  | exchange (pairs : List (Char × Char))
  | clear
  /-- Runs a command, the line itself if it is empty. -/
  | execute (command : ByteText)

/-- A command with the lines that it is for, and the place of the command that it jumps to. -/
structure Entry where
  selector : Selector
  command : Command
  target : Nat := 0

/-- A script. -/
structure Script where
  entries : Array Entry
  /-- The files that it writes. -/
  files : List ByteText
  /-- Whether lines are only shown by commands. -/
  isQuiet : Bool

end SchemaDocs.Shell.Edit

/-!
## Replacing text in a line

The parts of a line that match are replaced one after the other, from left to right.  An
empty match right behind another one does not count.
-/

namespace SchemaDocs.Shell.Edit

/-- How the case of letters is changed at some place of a replacement. -/
structure CaseState where
  /-- The change of all letters, if there is one. -/
  all : Option CaseChange := none
  /-- The change of the next letter, if there is one. -/
  next : Option CaseChange := none

namespace CaseState

/-- A character in the case that a change asks for. -/
def changed (change : Option CaseChange) (c : Char) : Char :=
  match change with
  | some .upper => c.toUpper
  | some .nextUpper => c.toUpper
  | some .lower => c.toLower
  | some .nextLower => c.toLower
  | _ => c

/-- A text with its case changed, and the state after it. -/
def apply (state : CaseState) (text : ByteText) : ByteText × CaseState :=
  match text with
  | [] => ([], state)
  | c :: rest =>
    let first := if state.next.isSome then changed state.next c else changed state.all c
    (first :: rest.map (changed state.all), { state with next := none })

/-- The state after a change begins. -/
def turn (state : CaseState) (change : CaseChange) : CaseState :=
  match change with
  | .upper => { all := some .upper }
  | .lower => { all := some .lower }
  | .asIs => {}
  | change => { state with next := some change }

end CaseState

/-- The text of a replacement for a match, piece by piece, the last piece first. -/
def expandParts (subject : Subject) (found : Match) :
    CaseState → List ByteText → List ReplacementPart → List ByteText
  | _, pieces, [] => pieces
  | state, pieces, part :: parts =>
    match part with
    | .change change => expandParts subject found (state.turn change) pieces parts
    | .text text =>
      let (text, state) := state.apply text
      expandParts subject found state (text :: pieces) parts
    | .group number =>
      let (text, state) := state.apply (found.group subject number)
      expandParts subject found state (text :: pieces) parts

/-- What replacing has come to. -/
structure Replacing where
  /-- The pieces of the result, the last one first. -/
  pieces : List ByteText
  /-- The place up to which the line was taken over. -/
  place : Nat
  isReplaced : Bool

/-- Replaces matches from a place on.  A match counts if it is not empty or does not begin where
the last one ended.  Each step finds a match. -/
def replaceFrom (substitution : Substitution) (pattern : Pattern) (subject : Subject) :
    Nat → Nat → Option Nat → Replacing → Replacing
  | 0, _, _, state => state
  | fuel + 1, count, lastStop, state =>
    if subject.chars.size < state.place then state
    else
      match pattern.search subject state.place with
      | none => state
      | some found =>
        let before := subject.between state.place found.start
        if found.start = found.stop && lastStop = some found.start then
          let skipped := subject.between found.start (found.start + 1)
          replaceFrom substitution pattern subject fuel count none
            { state with pieces := skipped :: before :: state.pieces, place := found.start + 1 }
        else
          let isReplaced := substitution.count ≤ count
          let pieces :=
            if isReplaced then
              expandParts subject found {} (before :: state.pieces) substitution.replacement
            else subject.between found.start found.stop :: before :: state.pieces
          let state := { state with
            pieces := pieces, place := found.stop, isReplaced := state.isReplaced || isReplaced }
          if isReplaced && !substitution.isGlobal then state
          else if found.start = found.stop then
            let skipped := subject.between found.stop (found.stop + 1)
            replaceFrom substitution pattern subject fuel (count + 1) none
              { state with pieces := skipped :: state.pieces, place := found.stop + 1 }
          else
            replaceFrom substitution pattern subject fuel (count + 1) (some found.stop) state

/-- A line with matches replaced, unless there is none to replace. -/
def replace? (substitution : Substitution) (pattern : Pattern) (sought : Sought)
    (line : ByteText) : Option ByteText :=
  let subject : Subject :=
    { chars := line.toArray, ignoresCase := sought.ignoresCase, hasLines := sought.hasLines }
  let state := replaceFrom substitution pattern subject (2 * line.length + 2) 1 none ⟨[], 0, false⟩
  if state.isReplaced then
    let rest := subject.between state.place subject.chars.size
    some ((rest :: state.pieces).reverse.flatten)
  else none

/-- A line with characters exchanged. -/
def exchange (pairs : List (Char × Char)) (line : ByteText) : ByteText :=
  line.map fun c =>
    match pairs.find? fun pair => pair.1 = c with
    | some (_, other) => other
    | none => c

/-- A character as it is shown without doubt. -/
def shownCharacter (c : Char) : ByteText :=
  match c with
  | '\\' => ascii "\\\\"
  | '\x07' => ascii "\\a"
  | '\x08' => ascii "\\b"
  | '\x0c' => ascii "\\f"
  | '\n' => ascii "\\n"
  | '\r' => ascii "\\r"
  | '\t' => ascii "\\t"
  | '\x0b' => ascii "\\v"
  | c =>
    if isShown c then [c]
    else
      let digits := ByteText.digitsIn 8 c.toNat
      '\\' :: (List.replicate (3 - digits.length) '0' ++ digits)

/-- A line as it is shown without doubt, cut at a width unless that is zero. -/
def shownLine (width : Nat) (line : ByteText) : ByteText :=
  let (pieces, _) := line.foldl
    (fun ((pieces, column) : List ByteText × Nat) c =>
      let shown := shownCharacter c
      if width != 0 && width - 1 < column + shown.length then
        (shown :: ascii "\\\n" :: pieces, shown.length)
      else (shown :: pieces, column + shown.length))
    (([] : List ByteText), 0)
  (ascii "$\n" :: pieces).reverse.flatten

end SchemaDocs.Shell.Edit
