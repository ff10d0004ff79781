import SchemaDocs.Shell.Regex.Basic
/-!
# Patterns of names

A pattern stands for many texts: a star for any text, a question mark for any character
and brackets for one of several characters.  A character that was quoted stands for
itself.
-/

namespace SchemaDocs.Shell

/-- A text whose characters are marked as quoted or not. -/
abbrev MarkedText := List (Char × Bool)

/-- A text with all characters marked alike. -/
def marked (text : ByteText) (isQuoted : Bool) : MarkedText := text.map fun c => (c, isQuoted)

/-- The characters of a text without their marks. -/
def unmarked (text : MarkedText) : ByteText := text.map Prod.fst

/-- How often one of the patterns of a group is found. -/
inductive GroupKind where
  | once | atMostOnce | anyTimes | atLeastOnce
  /-- Text that none of them matches. -/
  | never
deriving DecidableEq

/-- The kind of a group that a character opens. -/
def GroupKind.ofChar? (c : Char) : Option GroupKind :=
  match c with
  | '@' => some .once
  | '?' => some .atMostOnce
  | '*' => some .anyTimes
  | '+' => some .atLeastOnce
  | '!' => some .never
  | _ => none

/-- A part of a pattern. -/
inductive GlobItem where
  | char (c : Char)
  | any
  | star
  | set (set : CharSet)
  | group (kind : GroupKind) (alternatives : List (List GlobItem))

/-- How patterns are written. -/
structure GlobRules where
  /-- Whether parentheses group patterns. -/
  hasGroups : Bool := false
  /-- Whether a caret turns a set around, as an exclamation mark does. -/
  hasCaret : Bool := false

/-- A pattern. -/
abbrev Glob := List GlobItem

namespace Glob

/-- The name of a class between colons, with the text after it. -/
def className? (text : MarkedText) : Option (ByteText × MarkedText) :=
  let name := unmarked (text.takeWhile fun c => c.1.isAlpha)
  match text.drop name.length with
  | (':', _) :: (']', _) :: rest => some (name, rest)
  | _ => none

/-- Reads what stands between brackets.  The first character closes nothing.  Each step takes a
character. -/
def readSet : Nat → Bool → List (Char × Char) → MarkedText →
    Option (List (Char × Char) × MarkedText)
  | 0, _, _, _ => none
  | _ + 1, _, _, [] => none
  | fuel + 1, isFirst, ranges, (c, isQuoted) :: rest =>
    if c = ']' && !isQuoted && !isFirst then some (ranges, rest)
    else
      let single (c : Char) (rest : MarkedText) :=
        match rest with
        | ('-', false) :: (stop, isQuoted) :: after =>
          if stop = ']' && !isQuoted then readSet fuel false ((c, c) :: ranges) rest
          else readSet fuel false ((c, stop) :: ranges) after
        | _ => readSet fuel false ((c, c) :: ranges) rest
      if c = '[' && !isQuoted then
        match rest with
        | (':', false) :: after =>
          match className? after with
          | some (name, after) =>
            match CharSet.rangesOfClass? name with
            | some more => readSet fuel false (more ++ ranges) after
            | none => single c rest
          | none => single c rest
        | _ => single c rest
      else
        match c, isQuoted, rest with
        | '\\', false, (next, _) :: after => single next after
        | _, _, _ => single c rest

/-- The pieces of a text between bars, up to a closing parenthesis, and what follows it.  The piece at
hand has its last character first.  Each step takes a character. -/
def alternatives? : Nat → MarkedText → List MarkedText → MarkedText →
    Option (List MarkedText × MarkedText)
  | _, _, _, [] => none
  | depth, piece, pieces, c :: rest =>
    if c = (')', false) then
      match depth with
      | 0 => some ((piece.reverse :: pieces).reverse, rest)
      | depth + 1 => alternatives? depth (c :: piece) pieces rest
    else if c = ('(', false) then alternatives? (depth + 1) (c :: piece) pieces rest
    else if c = ('|', false) && depth = 0 then alternatives? 0 [] (piece.reverse :: pieces) rest
    else alternatives? depth (c :: piece) pieces rest

/-- The group at the start of a text: its kind, its patterns, and what follows it. -/
def group? (c : Char) (rest : MarkedText) : Option (GroupKind × List MarkedText × MarkedText) :=
  match GroupKind.ofChar? c, rest with
  | some kind, ('(', false) :: inner =>
    (alternatives? 0 [] [] inner).map fun (pieces, rest) => (kind, pieces, rest)
  | _, _ => none

/-- Reads a pattern, perhaps with groups.  Each step takes a character. -/
def readFrom (rules : GlobRules) : Nat → MarkedText → Glob
  | 0, _ => []
  | _ + 1, [] => []
  | fuel + 1, (c, true) :: rest => .char c :: readFrom rules fuel rest
  | fuel + 1, (c, false) :: rest =>
    match if rules.hasGroups then group? c rest else none with
    | some (kind, pieces, rest) =>
      .group kind (pieces.map fun piece => readFrom rules fuel piece)
        :: readFrom rules fuel rest
    | none =>
      match c with
      | '*' => .star :: readFrom rules fuel rest
      | '?' => .any :: readFrom rules fuel rest
      | '\\' =>
        match rest with
        | (next, _) :: rest => .char next :: readFrom rules fuel rest
        | [] => [.char '\\']
      | '[' =>
        let (isNegated, inner) :=
          match rest with
          | ('!', false) :: inner => (true, inner)
          | ('^', false) :: inner => if rules.hasCaret then (true, inner) else (false, rest)
          | _ => (false, rest)
        match readSet (inner.length + 1) true [] inner with
        | some (ranges, rest) => .set ⟨ranges, isNegated⟩ :: readFrom rules fuel rest
        | none => .char '[' :: readFrom rules fuel rest
      | _ => .char c :: readFrom rules fuel rest

/-- The pattern of a marked text. -/
def ofMarked (rules : GlobRules) (text : MarkedText) : Glob := readFrom rules (text.length + 1) text

/-- Whether a pattern stands for one text only. -/
def isPlain (glob : Glob) : Bool :=
  glob.all fun item =>
    match item with
    | .char _ => true
    | _ => false

/-- All ends of a text, the longest first. -/
def ends : ByteText → List ByteText
  | [] => [[]]
  | c :: rest => (c :: rest) :: ends rest

/-- What is left of a text after a character of a set. -/
def after? (accepts : Char → Bool) : ByteText → Option ByteText
  | [] => none
  | c :: rest => if accepts c then some rest else none

/-- Ends of a text, the longest first and each once. -/
def inOrder (texts : List ByteText) : List ByteText :=
  let sorted := texts.mergeSort fun a b => Nat.ble b.length a.length
  (sorted.foldl
    (fun (kept : List ByteText) text =>
      if kept.head?.any (fun (last : ByteText) => last.length = text.length) then kept
      else text :: kept) []).reverse

/-- What a step may leave of some texts if it is done any number of times.  Each turn does it once
more. -/
def closure (step : List ByteText → List ByteText) : Nat → List ByteText → List ByteText
  | 0, texts => texts
  | fuel + 1, texts =>
    let more := inOrder (texts ++ step texts)
    if more.length = texts.length then texts else closure step fuel more

/-- What a group of some kind may leave of some texts, where a step does one of its patterns once. -/
def repeated (kind : GroupKind) (once : List ByteText → List ByteText) (texts : List ByteText) :
    List ByteText :=
  let most := (texts.head?.map List.length).getD 0 + 1
  match kind with
  | .once => once texts
  | .atMostOnce => inOrder (texts ++ once texts)
  | .anyTimes => closure once most texts
  | .atLeastOnce => closure once most (once texts)
  | .never =>
    inOrder (texts.map fun text =>
      let taken := (once [text]).map List.length
      (ends text).filter fun rest => !taken.contains rest.length).flatten

mutual

/-- What may be left of texts after a part of a pattern.  The texts are ends of one text, the
longest first. -/
def step : GlobItem → List ByteText → List ByteText
  | .char c, texts => texts.filterMap (after? (· = c))
  | .any, texts => texts.filterMap (after? fun _ => true)
  | .set set, texts => texts.filterMap (after? set.contains)
  | .star, texts => (texts.head?.map ends).getD []
  | .group kind alternatives, texts => repeated kind (fun texts => stepAny alternatives texts) texts

/-- What may be left of texts after a pattern. -/
def steps : List GlobItem → List ByteText → List ByteText
  | [], texts => texts
  | item :: rest, texts => steps rest (step item texts)

/-- What may be left of texts after one of some patterns. -/
def stepAny : List (List GlobItem) → List ByteText → List ByteText
  | [], _ => []
  | first :: rest, texts => inOrder (steps first texts ++ stepAny rest texts)

end

/-- What may be left of a text whose beginning a pattern matches, the longest first. -/
def rests (glob : Glob) (text : ByteText) : List ByteText := steps glob [text]

mutual

/-- A part of a pattern for texts written backwards. -/
def backwardItem : GlobItem → GlobItem
  | .group kind alternatives => .group kind (backwardAll alternatives)
  | item => item

/-- A pattern for texts written backwards. -/
def backward : List GlobItem → List GlobItem
  | [] => []
  | item :: rest => backward rest ++ [backwardItem item]

/-- Patterns for texts written backwards. -/
def backwardAll : List (List GlobItem) → List (List GlobItem)
  | [] => []
  | first :: rest => backward first :: backwardAll rest

end

/-- Whether a pattern matches a whole text. -/
def matchesAll (glob : Glob) (text : ByteText) : Bool := (glob.rests text).contains []

/-- A text without the shortest or longest beginning that a pattern matches. -/
def trimStart (glob : Glob) (isLongest : Bool) (text : ByteText) : ByteText :=
  let rests := glob.rests text
  ((if isLongest then rests.getLast? else rests.head?).getD text)

/-- A text without the shortest or longest end that a pattern matches. -/
def trimEnd (glob : Glob) (isLongest : Bool) (text : ByteText) : ByteText :=
  (trimStart (backward glob) isLongest text.reverse).reverse

/-- Whether a name is left out where all names are listed. -/
def isHidden (name : ByteText) : Bool := name.head? = some '.'

/-- Whether a pattern begins with a dot. -/
def beginsWithDot : Glob → Bool
  | .char '.' :: _ => true
  | _ => false

/-- Whether a pattern matches a name in a directory.  A dot at its start has to be written out. -/
def matchesName (glob : Glob) (name : ByteText) : Bool :=
  glob.matchesAll name && (!isHidden name || beginsWithDot glob)

/-- The first beginning of a text that is not empty, or none, that a pattern matches as far as it can:
how long it is. -/
def longestMatch? (glob : Glob) (text : ByteText) : Option Nat :=
  (glob.rests text).getLast?.map fun rest => text.length - rest.length

end Glob

end SchemaDocs.Shell
