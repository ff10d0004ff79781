import SchemaDocs.Shell.Tool.Sigil.Library
import SchemaDocs.Shell.Tool.Sigil.Read
/-!
# Places of signed names

Where the values are that expressions stand for, how values are put there, and how patterns are
searched for in them.
-/

namespace SchemaDocs.Shell.Sigil

namespace Running

/-- How the parts of a program are done that other parts hold. -/
structure Ways where
  /-- The values of an expression: one of them, or a list if this is wished for. -/
  eval : Bool → Expr → Running (List Value)
  /-- The values of the last one of some statements. -/
  run : Option Bool → List Statement → Running (List Value)
  /-- The place that an expression for one value stands for. -/
  place : Expr → Running Nat
  /-- The places that an expression stands for. -/
  places : Expr → Running (List Nat)
  /-- The row or table that an expression stands for, which is made if it is missing. -/
  holder : Sign → Bool → Expr → Running Nat
  caller : Caller

/-- The value of an expression. -/
def Ways.one (w : Ways) (value : Expr) : Running Value := do
  return ((← w.eval false value).getLast?).getD .nothing

/-- The text of the value of an expression. -/
def Ways.text (w : Ways) (value : Expr) : Running (List Char) := do textOf (← w.one value)

/-! ## Scopes -/

/-- Puts something back that was changed for a while. -/
def putBack (undo : Undo) : Running Unit :=
  match undo with
  | .global key number =>
    change fun machine =>
      { machine with globals := match number with
          | some number => machine.globals.insert key number
          | none => machine.globals.erase key }
  | .entry table key number =>
    changeTable table fun entries =>
      match number with
      | some number => entries.insert key number
      | none => entries.erase key
  | .element row place number => changeRow row fun cells => cells.setIfInBounds place number
  | .special _ value =>
    change fun machine =>
      { machine with streams := match machine.streams[machine.selected]? with
          | some stream => machine.streams.insert machine.selected { stream with isUnbuffered := isTrue value }
          | none => machine.streams }

/-- Puts back all that was changed beyond some changes. -/
def putBackTo : Nat → Nat → Running Unit
  | 0, _ => return ()
  | fuel + 1, size => do
    match (← look (·.undo)) with
    | undo :: rest =>
      if rest.length < size then return ()
      else
        change fun machine => { machine with undo := rest }
        putBack undo
        putBackTo fuel size
    | [] => return ()

/-- Does something in a scope: what is changed for a while, and what was matched, is put back. -/
def inScope {α : Type} (step : Running α) : Running α := do
  let size := (← look (·.undo)).length
  let matched := (← look (·.matched))
  let result ← attempt step
  change fun machine => { machine with matched := matched }
  let grown := (← look (·.undo)).length - size
  if grown != 0 then putBackTo grown size
  match result with
  | .ok value => return value
  | .error leaving => throw leaving

/-- Lets a global name stand for another place for a while. -/
def withGlobal {α : Type} (key : String) (number : Nat) (step : Running α) : Running α := do
  let before := (← look fun machine => machine.globals[key]?)
  change fun machine => { machine with globals := machine.globals.insert key number }
  let result ← attempt step
  putBack (.global key before)
  match result with
  | .ok value => return value
  | .error leaving => throw leaving

/-! ## References -/

/-- What a sign's reference is called. -/
def signWord : Sign → String
  | .one => "a SCALAR"
  | .row => "an ARRAY"
  | .table => "a HASH"
  | .code => "a subroutine"
  | .handle => "a symbol"

/-- A name with its package, for a name that is a value. -/
def qualified (name : List Char) : Running String := do
  let name := match name with
    | '*' :: name => name
    | name => name
  let plain := Reading.plainName name
  if plain.toList.contains ':' then return plain
  else if Reading.isSharedName plain then return "main::" ++ plain
  else return (← look (·.package)) ++ "::" ++ plain

/-- Whether what stands under a number is of a sign. -/
def isOf (sign : Sign) : Object → Bool
  | .cell _ => sign = .one
  | .row _ => sign = .row
  | .table _ => sign = .table
  | .function _ => sign = .code
  | .library _ => sign = .code
  | .handle _ => sign = .handle
  | .pattern _ _ => sign = .one

/-- What a value leads to. -/
def leadTo (sign : Sign) (value : Value) : Running Nat := do
  match value with
  | .reference number =>
    if isOf sign (← objectAt number) then return number
    else
      let word := match sign with
        | .one => "a SCALAR"
        | .row => "an ARRAY"
        | .table => "a HASH"
        | .code => "a CODE"
        | .handle => "a GLOB"
      failText ("Not " ++ word ++ " reference")
  | .handle name => global sign name
  | .nothing =>
    if (← look (·.isStrict)) then
      failText ("Can't use an undefined value as " ++ signWord sign ++ " reference")
    else fresh sign
  | value =>
    let text ← textOf value
    if (← look (·.isStrict)) then
      let shown := if 32 < text.length then text.take 32 ++ ascii "\"..." else text ++ ['"']
      fail (ascii "Can't use string (\"" ++ shown ++ ascii (") as " ++ signWord sign
        ++ " ref while \"strict refs\" in use"))
    else global sign (← qualified text)

/-- Whether an expression stands for a place that may be filled. -/
def isPlace : Expr → Bool
  | .named .one _ => true
  | .element _ _ => true
  | .entry _ _ => true
  | .follow .one _ => true
  | .declare _ _ false => true
  | _ => false

/-- What an expression leads to; where nothing is yet, something is made if it may be. -/
def follow (w : Ways) (sign : Sign) (creates : Bool) (inner : Expr) : Running Nat := do
  if creates && isPlace inner then
    let place ← w.place inner
    match ← valueAt place with
    | .nothing =>
      let number ← fresh sign
      putValue place (.reference number)
      return number
    | value => leadTo sign value
  else leadTo sign (← w.one inner)

/-- The spans of all groups of a match, from the match as a whole on. -/
def spansOf (matched : Matched) : List (Option (Nat × Nat)) :=
  some (matched.found.start, matched.found.stop) :: matched.found.groups.toList

/-- Declares variables: every time they get other places, unless they are kept. -/
def declare (isKept : Bool) (targets : List (Sign × Nat)) : Running (List Nat) :=
  targets.mapM fun (sign, number) => do
    if number = 0 then fresh .one
    else if isKept then slot sign number
    else
      let place ← fresh sign
      putSlot number place
      return place

/-- The row or table that an expression stands for. -/
def holderOf (w : Ways) (sign : Sign) (creates : Bool) (value : Expr) : Running Nat := do
  match value with
  | .named kind home => numberOf kind home
  | .follow kind inner => follow w kind creates inner
  | .declare isKept targets _ =>
    match ← declare isKept targets with
    | place :: _ => return place
    | [] => fresh sign
  | .localize _ =>
    match ← w.places value with
    | _ => pure ()
    match value with
    | .localize inner => w.holder sign creates inner
    | _ => fresh sign
  | .special "@-" =>
    match (← look (·.matched)) with
    | some matched => row ((spansOf matched).map fun span => ((span.map fun (start, _) => natural start)).getD .nothing)
    | none => row []
  | .special "@+" =>
    match (← look (·.matched)) with
    | some matched => row ((spansOf matched).map fun span => ((span.map fun (_, stop) => natural stop)).getD .nothing)
    | none => row []
  | .special "%+" =>
    let table ← make (.table {})
    match (← look (·.matched)) with
    | some matched =>
      for (name, number) in matched.names do
        match groupText matched number, (← tableAt table).find? name with
        | .nothing, _ => pure ()
        | value, none => putEntry table name value
        | _, some _ => pure ()
      return table
    | none => return table
  | value =>
    match sign, ← w.eval true value with
    | .row, values =>
      match values with
      | [.reference number] => if isOf .row (← objectAt number) then return number else row values
      | values => row values
    | sign, values =>
      match values with
      | [.reference number] => if isOf sign (← objectAt number) then return number else fresh sign
      | _ => fresh sign

/-! ## Places -/

/-- The place in a row that a number stands for, from its end on if it is negative. -/
def placeIn (size : Nat) (index : Int) : Option Nat :=
  if 0 ≤ index then some index.toNat
  else if (size : Int) + index < 0 then none
  else some ((size : Int) + index).toNat

/-- The size of a row. -/
def rowSize (number : Nat) : Running Nat := do return (← cellsAt number).size

/-- The place of an element of a row, which is made if it is missing. -/
def elementPlace (number : Nat) (index : Int) : Running Nat := do
  let size ← rowSize number
  match placeIn size index with
  | none =>
    failText ("Modification of non-creatable array value attempted, subscript " ++ toString index)
  | some place =>
    let known := ((← cellsAt number)[place]?).getD 0
    if known != 0 then return known
    else
      let made ← cell .nothing
      if place < size then changeRow number fun cells => cells.setIfInBounds place made
      else if 50000000 < place then failText "Out of memory in perl:extend"
      else changeRow number fun cells => (cells ++ Array.replicate (place - size) 0).push made
      return made

/-- The place of an element of a row, if it is there. -/
def elementPlace? (number : Nat) (index : Int) : Running (Option Nat) := do
  let cells ← cellsAt number
  match placeIn cells.size index with
  | none => return none
  | some place =>
    match cells[place]? with
    | some 0 => return none
    | found => return found

/-- The place of the value under a key, which is made if it is missing. -/
def entryPlace (number : Nat) (key : List Char) : Running Nat := do
  match (← tableAt number).find? key with
  | some place => return place
  | none =>
    let place ← cell .nothing
    changeTable number fun table => table.insert key place
    return place

/-- The key that values stand for: several ones as one text with marks between them. -/
def keyOf (w : Ways) (key : Expr) : Running (List Char) := do
  match key with
  | .list items =>
    let separator ← textOf (← globalValue "main::;")
    let texts ← (← items.mapM (w.eval true)).flatten.mapM textOf
    return (texts.intersperse separator).flatten
  | key => w.text key

/-- Lets something be another thing until the end of the scope, and gives its places. -/
def localized (w : Ways) (target : Expr) : Running (List Nat) := do
  let note (undo : Undo) : Running Unit :=
    change fun machine => { machine with undo := undo :: machine.undo }
  let one (target : Expr) : Running (List Nat) := do
    match target with
    | .named sign (.package name) =>
      let key := String.ofList (sign.char :: name.toList)
      let before := (← look fun machine => machine.globals[key]?)
      note (.global key before)
      let number ← fresh sign
      change fun machine => { machine with globals := machine.globals.insert key number }
      return [number]
    | .entry table key =>
      let number ← w.holder .table true table
      let key ← keyOf w key
      note (.entry number key ((← tableAt number).find? key))
      let place ← cell .nothing
      changeTable number fun table => table.insert key place
      return [place]
    | .element row index =>
      let number ← w.holder .row true row
      let index := intOf (← w.one index)
      let before ← elementPlace number index
      let place ← cell .nothing
      match placeIn (← rowSize number) index with
      | some index =>
        note (.element number index before)
        changeRow number fun cells => cells.setIfInBounds index place
        return [place]
      | none => return [place]
    | .special "$|" =>
      let state ← machine
      let isUnbuffered := ((state.streams[state.selected]?).map Stream.isUnbuffered).getD false
      note (.special "$|" (truth isUnbuffered))
      return []
    | _ => return []
  match target with
  | .list items => return (← items.mapM one).flatten
  | target => one target

/-- The place that an expression for one value stands for. -/
def placeOf (w : Ways) (value : Expr) : Running Nat := do
  match value with
  | .named .one home => numberOf .one home
  | .element row index =>
    let number ← w.holder .row true row
    elementPlace number (intOf (← w.one index))
  | .entry table key =>
    let number ← w.holder .table true table
    entryPlace number (← keyOf w key)
  | .follow .one inner => follow w .one true inner
  | .declare isKept targets _ =>
    match ← declare isKept targets with
    | place :: _ => return place
    | [] => cell .nothing
  | .localize target =>
    match ← localized w target with
    | place :: _ => return place
    | [] => w.place target
  | .list [only] => w.place only
  | .choose condition first second =>
    if isTrue (← w.one condition) then w.place first else w.place second
  | .assign "=" target inner =>
    let result ← w.one inner
    let place ← w.place target
    putValue place result
    return place
  | .assign operator target inner =>
    let _ ← w.eval false (.assign operator target inner)
    w.place target
  | .step true _ target =>
    let _ ← w.eval false value
    w.place target
  | .block _ =>
    match ← w.eval false value with
    | [value] => cell value
    | _ => cell .nothing
  | value => cell (← w.one value)

/-- The places of all elements of a row, which are made if they are missing. -/
def rowPlaces (number : Nat) : Running (List Nat) := do
  let cells ← cellsAt number
  if cells.any (· = 0) then
    for index in List.range cells.size do
      let _ ← elementPlace number index
    return (← cellsAt number).toList
  else return cells.toList

/-- The places that an expression stands for. -/
def placesOf (w : Ways) (value : Expr) : Running (List Nat) := do
  match value with
  | .list items => return (← items.mapM w.places).flatten
  | .named .one _ => return [← w.place value]
  | .named .row home => rowPlaces (← numberOf .row home)
  | .follow .row inner => rowPlaces (← follow w .row true inner)
  | .follow .one _ => return [← w.place value]
  | .named .table home => tablePlaces (← numberOf .table home)
  | .follow .table inner => tablePlaces (← follow w .table true inner)
  | .element row index =>
    let number ← w.holder .row true row
    match ← elementPlace? number (intOf (← w.one index)) with
    | some place => return [place]
    | none => return [← cell .nothing]
  | .entry table key =>
    let number ← w.holder .table true table
    match (← tableAt number).find? (← keyOf w key) with
    | some place => return [place]
    | none => return [← cell .nothing]
  | .elements row places false =>
    let number ← w.holder .row true row
    (← w.eval true places).mapM fun place => elementPlace number (intOf place)
  | .entries table keys false =>
    let number ← w.holder .table true table
    (← w.eval true keys).mapM fun key => do entryPlace number (← textOf key)
  | .declare isKept targets _ => declare isKept targets
  | .localize target => localized w target
  | .choose condition first second =>
    if isTrue (← w.one condition) then w.places first else w.places second
  | .builtIn "values" [inner] =>
    match inner with
    | .named .table _ => entriesOf (← w.holder .table true inner)
    | .follow .table _ => entriesOf (← w.holder .table true inner)
    | _ => return ← (← w.eval true value).mapM cell
  | value => (← w.eval true value).mapM cell
where
  /-- The places of keys and values of a table. -/
  tablePlaces (number : Nat) : Running (List Nat) := do
    let entries := (← tableAt number).entries
    return (← entries.mapM fun (key, place) => do return [← cell (.text key), place]).flatten
  /-- The places of values of a table. -/
  entriesOf (number : Nat) : Running (List Nat) := do return (← tableAt number).entries.map Prod.snd

/-! ## Assignments -/

/-- Whether a list is assigned to an expression. -/
def isListTarget : Expr → Bool
  | .list _ => true
  | .named sign _ => sign = .row || sign = .table
  | .follow sign _ => sign = .row || sign = .table
  | .elements _ _ _ => true
  | .entries _ _ _ => true
  | .declare _ _ isList => isList
  | .localize (.named sign _) => sign = .row || sign = .table
  | .localize (.follow sign _) => sign = .row || sign = .table
  | .localize (.list _) => true
  | .localize (.entries _ _ _) => true
  | _ => false

/-- Fills a table with keys and values. -/
def fillTable (number : Nat) (values : List Value) : Running Unit := do
  putObject number (.table {})
  let rec put : List Value → Running Unit
    | key :: value :: rest => do
      putEntry number (← textOf key) value
      put rest
    | [key] => do putEntry number (← textOf key) .nothing
    | [] => return ()
  put values

/-- Puts values into what stands under a number, and gives those that are left. -/
def fillNumber (sign : Sign) (number : Nat) (values : List Value) : Running (List Value) := do
  match sign with
  | .row =>
    putRow number values
    return []
  | .table =>
    fillTable number values
    return []
  | _ =>
    putValue number ((values.head?).getD .nothing)
    return values.drop 1

/-- Puts values into the targets of a list.  Each step takes a target. -/
def assignList (w : Ways) : Nat → List Expr → List Value → Running Unit
  | 0, _, _ => return ()
  | _ + 1, [], _ => return ()
  | fuel + 1, target :: rest, values => do
    match target with
    | .list items => assignList w fuel (items ++ rest) values
    | .constant _ => assignList w fuel rest (values.drop 1)
    | .builtIn "undef" [] => assignList w fuel rest (values.drop 1)
    | .named sign home =>
      let number ← numberOf sign home
      assignList w fuel rest (← fillNumber sign number values)
    | .follow sign inner =>
      let number ← follow w sign true inner
      assignList w fuel rest (← fillNumber sign number values)
    | .declare isKept targets _ =>
      let numbers ← declare isKept targets
      let mut left := values
      for ((sign, _), number) in targets.zip numbers do
        left ← fillNumber sign number left
      assignList w fuel rest left
    | .elements _ _ _ =>
      let places ← w.places target
      assignList w fuel rest (← fillPlaces places values)
    | .entries _ _ _ =>
      let places ← w.places target
      assignList w fuel rest (← fillPlaces places values)
    | .localize (.named sign home) =>
      let numbers ← localized w (.named sign home)
      match numbers with
      | number :: _ => assignList w fuel rest (← fillNumber sign number values)
      | [] => assignList w fuel rest values
    | .localize (.list items) => assignList w fuel (items.map Expr.localize ++ rest) values
    | target =>
      let place ← w.place target
      putValue place ((values.head?).getD .nothing)
      assignList w fuel rest (values.drop 1)
where
  /-- Puts values into places, and gives those that are left. -/
  fillPlaces : List Nat → List Value → Running (List Value)
    | [], values => return values
    | place :: rest, values => do
      putValue place ((values.head?).getD .nothing)
      fillPlaces rest (values.drop 1)

/-- Sets what a special variable shows. -/
def putSpecial (name : String) (value : Value) : Running Unit := do
  match name with
  | "$!" => change fun machine => { machine with fault := natOf value }
  | "$|" =>
    let selected := (← look (·.selected))
    match ← stream? selected with
    | some stream =>
      putStream selected { stream with isUnbuffered := isTrue value }
      if isTrue value then flush selected
    | none => return ()
  | "$." =>
    match (← look (·.lastRead)) with
    | some name =>
      match ← stream? name with
      | some stream => putStream name { stream with lines := natOf value }
      | none => return ()
    | none => return ()
  | _ => failText "Modification of a read-only value attempted"

/-- Gives a name another meaning: that of a function, a variable or an open file. -/
def putGlob (name : String) (value : Value) : Running Unit := do
  let put (sign : Sign) (number : Nat) : Running Unit :=
    change fun machine =>
      { machine with globals := machine.globals.insert (String.ofList (sign.char :: name.toList)) number }
  match value with
  | .reference number =>
    match ← objectAt number with
    | .cell _ => put .one number
    | .row _ => put .row number
    | .table _ => put .table number
    | .function _ => put .code number
    | .library _ => put .code number
    | .handle other =>
      match ← stream? other with
      | some stream => putStream name stream
      | none => return ()
    | .pattern _ _ => put .one number
  | .handle other =>
    for sign in [Sign.one, Sign.row, Sign.table, Sign.code] do
      match ← global? sign other with
      | some number => put sign number
      | none => pure ()
    match ← stream? other with
    | some stream => putStream name stream
    | none => return ()
  | _ => return ()

/-- Replaces a part of the text of a place, and gives the part. -/
def replacePart (place : Nat) (offset : Int) (length : Option Int) (value : Value) : Running Value := do
  let whole ← valueAt place
  let chars ← textOf whole
  match partSpan chars.length offset length with
  | none => failText "substr outside of string"
  | some (start, stop) =>
    let instead ← textOf value
    putValue place (textual (isWide whole || isWide value) (chars.take start ++ instead ++ chars.drop stop))
    return textual (isWide whole) ((chars.drop start).take (stop - start))

/-- Gives a place for one value its value. -/
def assignOne (w : Ways) (target : Expr) (value : Value) : Running Unit := do
  match target with
  | .special name => putSpecial name value
  | .lastPlace row =>
    let number ← w.holder .row true row
    let size := (intOf value + 1).toNat
    changeRow number fun cells =>
      if cells.size < size then cells ++ Array.replicate (size - cells.size) 0 else cells.take size
  | .builtIn "substr" (target :: others) =>
    let place ← w.place target
    let others ← others.mapM w.one
    let length := (others[1]?).map intOf
    let _ ← replacePart place (intOf ((others.head?).getD .nothing)) length value
  | .builtIn "pos" arguments =>
    let place ← w.place ((arguments.head?).getD Reading.topic)
    change fun machine =>
      { machine with positions :=
          if isDefined value then machine.positions.insert place (natOf value, false)
          else machine.positions.erase place }
  | .constant (.handle name) => putGlob name value
  | .follow .handle inner =>
    match ← w.one inner with
    | .handle name => putGlob name value
    | other => putGlob (← qualified (← textOf other)) value
  | .localize (.special name) =>
    let _ ← localized w (.special name)
    putSpecial name value
  | .localize (.constant (.handle name)) => putGlob name value
  | target => putValue (← w.place target) value

/-- What an operator that assigns makes of a place. -/
def assignBy (w : Ways) (operator : String) (target value : Expr) : Running Value := do
  match target with
  | .named .row _ => forRow
  | .follow .row _ => forRow
  | _ =>
    let isSimple := match target with
      | .special _ => true
      | .lastPlace _ => true
      | .builtIn _ _ => true
      | _ => false
    if isSimple then
      let result ← operate operator (← w.one target) (← w.one value)
      assignOne w target result
      return result
    else
      let place ← w.place target
      let before ← valueAt place
      match operator with
      | "||" => if isTrue before then return before else put place (← w.one value)
      | "&&" => if isTrue before then put place (← w.one value) else return before
      | "//" => if isDefined before then return before else put place (← w.one value)
      | operator =>
        let second ← w.one value
        put place (← operate operator (← valueAt place) second)
where
  /-- Gives a place a value, and gives it back. -/
  put (place : Nat) (value : Value) : Running Value := do
    putValue place value
    return value
  /-- Changes a row as a whole. -/
  forRow : Running Value := do
    let number ← w.holder .row true target
    if operator = "x" then
      let values ← rowValues number
      putRow number (List.replicate (natOf (← w.one value)) values).flatten
    else if operator = "||" then
      if (← rowSize number) = 0 then putRow number (← w.eval true value)
    else putRow number (← w.eval true value)
    return natural (← rowSize number)

/-! ## Searching -/

/-- The pattern that an expression stands for. -/
def patternOf (w : Ways) (pattern : Expr) (flags : List Char) (isWide : Bool) : Running Ordered.Pattern := do
  let value ← match pattern with
    | .constant value => pure value
    | pattern => w.one pattern
  let (text, flags) ← do
    match value with
    | .reference number =>
      match ← objectAt number with
      | .pattern text own => if flags.isEmpty then pure (text, own) else pure (← textOf value, flags)
      | _ => pure (← textOf value, flags)
    | value => pure (← textOf value, flags)
  compiled text flags (isWide || Running.isWide value)

/-- Where the search in a place goes on. -/
def positionOf (place : Nat) : Running (Nat × Bool) := do
  return ((← look fun machine => machine.positions[place]?)).getD (0, false)

/-- Searches for a pattern. -/
def seek (w : Ways) (wantsList : Bool) (target : Option Expr) (isNegated : Bool) (pattern : Expr)
    (flags : List Char) : Running (List Value) := do
  let target := target.getD Reading.topic
  let isAll := flags.contains 'g'
  let place ← if isAll then (do pure (some (← w.place target))) else pure none
  let subject ← match place with
    | some place => valueAt place
    | none => w.one target
  let wide := isWide subject
  let found ← patternOf w pattern flags wide
  let chars := (← textOf subject).toArray
  let keep (match_ : Ordered.Found) : Running Matched := do
    let matched : Matched := { chars := chars, isWide := wide, found := match_, names := found.names }
    change fun machine => { machine with matched := some matched }
    return matched
  match place with
  | none =>
    match found.search chars 0 with
    | none => if wantsList && !isNegated then return [] else return [truth isNegated]
    | some match_ =>
      let matched ← keep match_
      if wantsList && !isNegated then
        if match_.groups.isEmpty then return [.int 1] else return groupValues matched
      else return [truth (!isNegated)]
  | some place =>
    let (start, mustAdvance) ← positionOf place
    let forget : Running Unit :=
      if flags.contains 'c' then return ()
      else change fun machine => { machine with positions := machine.positions.erase place }
    if wantsList && !isNegated then
      let all := found.allFrom chars (2 * chars.size + 2) start mustAdvance
      match all.getLast? with
      | none =>
        forget
        return []
      | some last =>
        let _ ← keep last
        if flags.contains 'c' then
          change fun machine =>
            { machine with positions := machine.positions.insert place (last.stop, last.start = last.stop) }
        else forget
        return all.flatMap fun match_ =>
          let matched : Matched := { chars := chars, isWide := wide, found := match_, names := found.names }
          if match_.groups.isEmpty then [groupText matched 0] else groupValues matched
    else
      match if chars.size < start then none else found.search chars start mustAdvance with
      | none =>
        forget
        return [truth isNegated]
      | some match_ =>
        let _ ← keep match_
        change fun machine =>
          { machine with positions := machine.positions.insert place (match_.stop, match_.start = match_.stop) }
        return [truth (!isNegated)]

/-- Exchanges matches one after the other, and gives the pieces of the new text, the last one first, and
their number.  Each step finds a match. -/
def exchangeFrom (w : Ways) (pattern : Ordered.Pattern) (chars : Array Char) (isWide isAll : Bool)
    (instead : Expr) : Nat → Nat → Bool → Nat → List (List Char) → Nat → Bool →
    Running (List (List Char) × Nat × Bool)
  | 0, _, _, copied, pieces, count, wide => return ((chars.extract copied chars.size).toList :: pieces, count, wide)
  | fuel + 1, place, mustAdvance, copied, pieces, count, wide => do
    match if !isAll && 0 < count then none else pattern.search chars place mustAdvance with
    | none => return ((chars.extract copied chars.size).toList :: pieces, count, wide)
    | some found =>
      let matched : Matched := { chars := chars, isWide := isWide, found := found, names := pattern.names }
      change fun machine => { machine with matched := some matched }
      let value ← w.one instead
      let before := (chars.extract copied found.start).toList
      exchangeFrom w pattern chars isWide isAll instead fuel found.stop (found.stop = found.start) found.stop
        ((← textOf value) :: before :: pieces) (count + 1) (wide || Running.isWide value)

/-- Exchanges what a pattern matches for something else. -/
def exchange (w : Ways) (target : Option Expr) (isNegated : Bool) (pattern instead : Expr) (flags : List Char) :
    Running Value := do
  let target := target.getD Reading.topic
  let isCopy := flags.contains 'r'
  let place ← if isCopy then pure none else (do pure (some (← w.place target)))
  let subject ← match place with
    | some place => valueAt place
    | none => w.one target
  let wide := isWide subject
  let found ← patternOf w pattern flags wide
  let chars := (← textOf subject).toArray
  let (pieces, count, isNowWide) ←
    exchangeFrom w found chars wide (flags.contains 'g') instead (2 * chars.size + 3) 0 false 0 [] 0 wide
  let result := textual isNowWide pieces.reverse.flatten
  match place with
  | none => return (if count = 0 then subject else result)
  | some place =>
    if 0 < count then putValue place result
    if isNegated then return truth (count = 0)
    else return (if count = 0 then truth false else natural count)

/-- Exchanges characters. -/
def translate (w : Ways) (target : Option Expr) (from_ into flags : List Char) : Running Value := do
  let target := target.getD Reading.topic
  if flags.contains 'r' then
    let value ← w.one target
    let (chars, _) := translated from_ into flags (← textOf value)
    return textual (isWide value || !isNarrow chars) chars
  else
    let place ← w.place target
    let value ← valueAt place
    let before ← textOf value
    let (chars, count) := translated from_ into flags before
    if chars != before then putValue place (textual (isWide value || !isNarrow chars) chars)
    return natural count

/-- Splits a text at a pattern. -/
def splitBy (w : Ways) (arguments : List Expr) : Running (List Value) := do
  let value ← match arguments[1]? with
    | some value => w.one value
    | none => w.one Reading.topic
  let limit ← match arguments[2]? with
    | some limit => do pure (intOf (← w.one limit))
    | none => pure 0
  let wide := isWide value
  let pattern ← do
    match arguments.head? with
    | none => pure none
    | some (.seek none _ pattern flags) =>
      match pattern, flags with
      | .constant (.text [' ']), _ => pure (some (← compiled [' '] flags wide))
      | .constant (.text ['^']), flags => pure (some (← compiled ['^'] ('m' :: flags) wide))
      | pattern, flags => pure (some (← patternOf w pattern flags wide))
    | some pattern =>
      match ← w.one pattern with
      | .text [' '] => pure none
      | value => pure (some (← patternOf w (.constant value) [] wide))
  split pattern value limit

end Running

end SchemaDocs.Shell.Sigil
