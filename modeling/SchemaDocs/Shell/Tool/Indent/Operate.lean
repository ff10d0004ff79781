import SchemaDocs.Shell.Tool.Indent.Show
/-!
# Operations on values

Comparing, counting, going through and calculating.  Types that a program defines take part
through functions with special names.
-/

namespace SchemaDocs.Shell.Indent

namespace Running

/-- How far values are compared that stand in each other. -/
def deepestCompared : Nat := 400

/-! ## Keys -/

/-- What a value is found by in a table.  Each step goes a level down. -/
def keyIn : Nat → Value → Running Key
  | 0, _ => return .nothing
  | fuel + 1, value => do
    match value with
    | .nothing => return .nothing
    | .ellipsis => return .ellipsis
    | .notImplemented => return .named "NotImplemented"
    | .bool b => return .int (if b then 1 else 0)
    | .int n => return .int n
    | .float n =>
      match Record.Number.whole? n with
      | some whole => return if Float.ofInt whole == n then .int whole else .float n.toBits
      | none => return .float n.toBits
    | .text text => return .text text
    | .bytes bytes => return .bytes bytes
    | .tuple items => return .tuple (← items.mapM (keyIn fuel))
    | .range start stop step => return .tuple [.named "range", .int start, .int stop, .int step]
    | .slice _ _ _ => failType (ascii "unhashable type: 'slice'")
    | .builtIn name => return .named name
    | .method _ name => return .named ("method " ++ name)
    | .bound _ function => keyIn fuel function
    | .library name => return .named ("library " ++ name)
    | .object number =>
      match ← objectAt number with
      | .list _ => failType (ascii "unhashable type: 'list'")
      | .table kind _ =>
        match kind with
        | .plain => failType (ascii "unhashable type: 'dict'")
        | .counter => failType (ascii "unhashable type: 'Counter'")
        | .withDefault _ => failType (ascii "unhashable type: 'collections.defaultdict'")
      | .set false _ => failType (ascii "unhashable type: 'set'")
      | .set true table => return .tuple (.named "set" :: (← table.keys.mapM (keyIn fuel)))
      | _ => return .object number

/-- What a value is found by in a table. -/
def keyOf (value : Value) : Running Key := keyIn deepestCompared value

/-! ## Numbers -/

/-- A value as a whole number, if it is one. -/
def int? : Value → Option Int
  | .int n => some n
  | .bool b => some (if b then 1 else 0)
  | _ => none

/-- A value as a number with a fraction, if it is a number. -/
def float? : Value → Option Float
  | .float n => some n
  | value => (int? value).map Float.ofInt

/-- The order of two numbers, if they have one. -/
def orderOf (a b : Value) : Option Ordering :=
  match int? a, int? b with
  | some x, some y => some (compare x y)
  | _, _ =>
    match float? a, float? b with
    | some x, some y =>
      if x < y then some .lt else if x == y then some .eq else if y < x then some .gt else none
    | _, _ => none

/-- Whether a value is a number. -/
def isNumber (value : Value) : Bool := (float? value).isSome

/-! ## Equality and truth -/

mutual

/-- Whether two values are equal.  Each step goes a level down. -/
def equalIn (caller : Caller) : Nat → Value → Value → Running Bool
  | 0, _, _ => return false
  | fuel + 1, a, b => do
    match a, b with
    | .nothing, .nothing => return true
    | .ellipsis, .ellipsis => return true
    | .notImplemented, .notImplemented => return true
    | .text x, .text y => return x = y
    | .bytes x, .bytes y => return x = y
    | .tuple xs, .tuple ys => allEqual caller fuel xs ys
    | .range s t u, .range x y z =>
      let count (start stop step : Int) : Nat :=
        if 0 < step then ((stop - start + step - 1) / step).toNat
        else ((start - stop - step - 1) / (-step)).toNat
      let n := count s t u
      return n = count x y z && (n = 0 || (s = x && (n = 1 || u = z)))
    | .builtIn x, .builtIn y => return x = y
    | .library x, .library y => return x = y
    | .bound x f, .bound y g => return (← equalIn caller fuel x y) && (← equalIn caller fuel f g)
    | .method x f, .method y g => return f = g && (← equalIn caller fuel x y)
    | .object m, .object n =>
      if m = n then
        match ← special? a "__eq__" with
        | some function => truthOf caller fuel (← caller.call (.bound a function) [b] [])
        | none => return true
      else
        match ← objectAt m, ← objectAt n with
        | .list xs, .list ys => allEqual caller fuel xs.toList ys.toList
        | .queue xs _, .queue ys _ => allEqual caller fuel xs.toList ys.toList
        | .table _ x, .table _ y =>
          if x.size != y.size then return false
          else
            x.entries.foldlM (fun (sofar : Bool) (key, value) => do
              if !sofar then return false
              match y.find? (← keyOf key) with
              | some other => equalIn caller fuel value other
              | none => return false) true
        | .set _ x, .set _ y => sameKeys x y
        | .view "dict_keys" x, .set _ y => sameItems x y
        | .set _ x, .view "dict_keys" y => sameItems y x
        | .view kind x, .view other y =>
          let xs ← viewItems kind x
          let ys ← viewItems other y
          if kind = "dict_values" || xs.length != ys.length then return false
          else
            xs.foldlM (fun (sofar : Bool) item => do
              if !sofar then return false
              ys.foldlM (fun (found : Bool) other => do
                if found then return true else equalIn caller fuel item other) false) true
        | .record _ _, _ => custom fuel a b
        | _, .record _ _ => custom fuel b a
        | _, _ => return false
    | .object _, _ => custom fuel a b
    | _, .object _ => custom fuel b a
    | _, _ => return orderOf a b = some .eq
where
  /-- Whether two sets hold the same keys. -/
  sameKeys (x y : Table) : Running Bool := do
    if x.size != y.size then return false
    else
      x.keys.foldlM (fun (sofar : Bool) key => do
        if sofar then return y.contains (← keyOf key) else return false) true
  /-- Whether the keys of a table are those of a set. -/
  sameItems (x : Value) (y : Table) : Running Bool := do
    match ← object? x with
    | some (.table _ x) => sameKeys x y
    | _ => return false
  /-- Whether the type of a value says that it equals another one. -/
  custom (fuel : Nat) (a b : Value) : Running Bool := do
    match ← special? a "__eq__" with
    | some function =>
      match ← caller.call (.bound a function) [b] [] with
      | .notImplemented => return false
      | result => truthOf caller fuel result
    | none => return false

/-- Whether values are equal one by one. -/
def allEqual (caller : Caller) : Nat → List Value → List Value → Running Bool
  | 0, _, _ => return false
  | fuel + 1, xs, ys => do
    if xs.length != ys.length then return false
    else
      (xs.zip ys).foldlM (fun (sofar : Bool) (x, y) => do
        if sofar then equalIn caller fuel x y else return false) true

/-- Whether a value counts as true. -/
def truthOf (caller : Caller) : Nat → Value → Running Bool
  | 0, _ => return false
  | fuel + 1, value => do
    match value with
    | .nothing => return false
    | .bool b => return b
    | .int n => return n != 0
    | .float n => return n != 0
    | .text text => return !text.isEmpty
    | .bytes bytes => return !bytes.isEmpty
    | .tuple items => return !items.isEmpty
    | .range start stop step => return if 0 < step then start < stop else stop < start
    | .object number =>
      match ← objectAt number with
      | .list items => return !items.isEmpty
      | .queue items _ => return !items.isEmpty
      | .table _ table => return table.size != 0
      | .set _ table => return table.size != 0
      | .view _ table =>
        match ← object? table with
        | some (.table _ table) => return table.size != 0
        | _ => return false
      | .record type _ =>
        match ← typeField? type "__bool__" with
        | some function => truthOf caller fuel (← caller.call (.bound value function) [] [])
        | none =>
          match ← typeField? type "__len__" with
          | some function => truthOf caller fuel (← caller.call (.bound value function) [] [])
          | none => return true
      | _ => return true
    | _ => return true

end

/-- Whether two values are equal. -/
def equal (caller : Caller) (a b : Value) : Running Bool := equalIn caller deepestCompared a b

/-- Whether a value counts as true. -/
def truth (caller : Caller) (value : Value) : Running Bool := truthOf caller deepestCompared value

/-- Whether two values are the same thing. -/
def same (a b : Value) : Bool :=
  match a, b with
  | .nothing, .nothing => true
  | .ellipsis, .ellipsis => true
  | .notImplemented, .notImplemented => true
  | .bool x, .bool y => x = y
  | .int x, .int y => x = y && -6 < x && x < 257
  | .text x, .text y => x = y && x.length ≤ 20
  | .tuple [], .tuple [] => true
  | .builtIn x, .builtIn y => x = y
  | .library x, .library y => x = y
  | .object x, .object y => x = y
  | _, _ => false

/-! ## Order -/

/-- Fails because two values have no order. -/
def failOrder {α : Type} (sign : String) (a b : Value) : Running α := do
  failType (ascii ("'" ++ sign ++ "' not supported between instances of '" ++ (← typeName a)
    ++ "' and '" ++ (← typeName b) ++ "'"))

/-- The order of two texts. -/
def textOrder (x y : List Char) : Ordering :=
  if x = y then .eq else if decide (x < y) then .lt else .gt

mutual

/-- The order of two values, nothing if they are numbers without one.  Each step goes a level down. -/
def orderIn (caller : Caller) (sign : String) : Nat → Value → Value → Running (Option Ordering)
  | 0, _, _ => return none
  | fuel + 1, a, b => do
    match a, b with
    | .text x, .text y => return some (textOrder x y)
    | .bytes x, .bytes y => return some (textOrder x y)
    | .tuple xs, .tuple ys => listOrder caller sign fuel xs ys
    | .object m, .object n =>
      match ← objectAt m, ← objectAt n with
      | .list xs, .list ys => listOrder caller sign fuel xs.toList ys.toList
      | .record _ _, _ => customOrder caller sign fuel a b
      | _, _ => failOrder sign a b
    | .object _, _ => customOrder caller sign fuel a b
    | _, _ =>
      if isNumber a && isNumber b then return orderOf a b else failOrder sign a b

/-- The order of two values that their type tells. -/
def customOrder (caller : Caller) (sign : String) : Nat → Value → Value → Running (Option Ordering)
  | 0, _, _ => return none
  | fuel + 1, a, b => do
    match ← special? a "__lt__" with
    | some function =>
      if ← truthOf caller fuel (← caller.call (.bound a function) [b] []) then return some .lt
      else
        match ← special? b "__lt__" with
        | some other =>
          if ← truthOf caller fuel (← caller.call (.bound b other) [a] []) then return some .gt
          else return some .eq
        | none => return some .gt
    | none =>
      match ← special? b "__gt__" with
      | some function =>
        if ← truthOf caller fuel (← caller.call (.bound b function) [a] []) then return some .lt
        else return some .gt
      | none => failOrder sign a b

/-- The order of two rows of values: that of the first two that differ. -/
def listOrder (caller : Caller) (sign : String) : Nat → List Value → List Value →
    Running (Option Ordering)
  | 0, _, _ => return none
  | fuel + 1, xs, ys => do
    match xs, ys with
    | [], [] => return some .eq
    | [], _ => return some .lt
    | _, [] => return some .gt
    | x :: xs, y :: ys =>
      if ← equalIn caller fuel x y then listOrder caller sign fuel xs ys
      else orderIn caller sign fuel x y

end

/-- Whether the keys of one table are all in another one. -/
def isWithin (x y : Table) : Running Bool :=
  x.keys.foldlM (fun (sofar : Bool) key => do
    if sofar then return y.contains (← keyOf key) else return false) true

/-- Whether a comparison by order holds of two values. -/
def ordered (caller : Caller) (comparison : Comparison) (a b : Value) : Running Bool := do
  let (sign, special, mirrored) : String × String × String :=
    match comparison with
    | .less => ("<", "__lt__", "__gt__")
    | .lessEqual => ("<=", "__le__", "__ge__")
    | .greater => (">", "__gt__", "__lt__")
    | _ => (">=", "__ge__", "__le__")
  match ← object? a, ← object? b with
  | some (.set _ x), some (.set _ y) =>
    match comparison with
    | .less => return x.size < y.size && (← isWithin x y)
    | .lessEqual => isWithin x y
    | .greater => return y.size < x.size && (← isWithin y x)
    | _ => isWithin y x
  | _, _ =>
    match ← special? a special with
    | some function => truth caller (← caller.call (.bound a function) [b] [])
    | none =>
      match ← special? b mirrored with
      | some function => truth caller (← caller.call (.bound b function) [a] [])
      | none =>
        match ← orderIn caller sign (deepestCompared * 100) a b with
        | none => return false
        | some order =>
          return (match comparison with
            | .less => order = .lt
            | .lessEqual => order ≠ .gt
            | .greater => order = .gt
            | _ => order ≠ .lt)

/-! ## Going through values -/

/-- The number of values of a range. -/
def rangeLength (start stop step : Int) : Nat :=
  if 0 < step then ((stop - start + step - 1) / step).toNat
  else if step < 0 then ((start - stop - step - 1) / (-step)).toNat
  else 0

/-- The values of a range. -/
def rangeItems (start stop step : Int) : List Value :=
  (List.range (rangeLength start stop step)).map fun (place : Nat) =>
    .int (start + step * (place : Int))

/-- Fails because a value is none that can be gone through. -/
def failIteration {α : Type} (value : Value) : Running α := do
  failType (ascii ("'" ++ (← typeName value) ++ "' object is not iterable"))

/-- Reads a line of an open file. -/
def readLine (file : File) : Running Value := do
  let line ← system (System.readLine file.channel)
  if file.isBinary then return .bytes line else return .text (decoded line)

/-- The lines that an open file still has.  Each step reads one. -/
def fileLines (file : File) : Nat → List Value → Running (List Value)
  | 0, lines => return lines.reverse
  | fuel + 1, lines => do
    let line ← readLine file
    let isDone : Bool := match line with
      | .bytes [] => true
      | .text [] => true
      | _ => false
    if isDone then return lines.reverse else fileLines file fuel (line :: lines)

/-- How many values are gone through at most. -/
def mostItems : Nat := 2000000

/-- The values that an object of the program gives one after the other.  Each step takes one. -/
def customItems (caller : Caller) (source : Value) : Nat → List Value → Running (List Value)
  | 0, items => return items.reverse
  | fuel + 1, items => do
    tick
    match ← special? source "__next__" with
    | none => failIteration source
    | some function =>
      match ← attempt (caller.call (.bound source function) [] []) with
      | .ok item => customItems caller source fuel (item :: items)
      | .error (.raised exception) =>
        if ← isException exception "StopIteration" then return items.reverse
        else throw (.raised exception)
      | .error other => throw other

/-- The values that something holds or gives, which it has given then. -/
def items (caller : Caller) (value : Value) : Running (List Value) := do
  match value with
  | .text text => return text.map fun c => .text [c]
  | .bytes bytes => return bytes.map fun c => .int c.toNat
  | .tuple items => return items
  | .range start stop step => return rangeItems start stop step
  | .object number =>
    match ← objectAt number with
    | .list items => return items.toList
    | .queue items _ => return items.toList
    | .table _ table => return table.keys
    | .set _ table => return table.keys
    | .view kind table => viewItems kind table
    | .iterator kind items place =>
      putObject number (.iterator kind items items.size)
      return (items.extract place items.size).toList
    | .file file => fileLines file mostItems []
    | .buffer pieces isBinary =>
      putObject number (.buffer [] isBinary)
      return (ByteText.lines pieces.reverse.flatten).map fun line =>
        if isBinary then .bytes line.written else .text (decoded line.written)
    | .record type _ =>
      match ← typeField? type "__iter__" with
      | some function =>
        let source ← caller.call (.bound value function) [] []
        match ← object? source with
        | some (.record _ _) => customItems caller source mostItems []
        | some (.iterator kind items place) =>
          match source with
          | .object number => putObject number (.iterator kind items items.size)
          | _ => pure ()
          return (items.extract place items.size).toList
        | some (.list items) => return items.toList
        | _ => failIteration value
      | none =>
        match ← typeField? type "__getitem__" with
        | some function => byIndex function value 0 mostItems []
        | none => failIteration value
    | _ => failIteration value
  | _ => failIteration value
where
  /-- The values under the numbers from one on, up to the first that is missing. -/
  byIndex (function value : Value) (place : Int) : Nat → List Value → Running (List Value)
    | 0, items => return items.reverse
    | fuel + 1, items => do
      tick
      match ← attempt (caller.call (.bound value function) [.int place] []) with
      | .ok item => byIndex function value (place + 1) fuel (item :: items)
      | .error (.raised exception) =>
        if ← isException exception "IndexError" then return items.reverse
        else throw (.raised exception)
      | .error other => throw other

/-- The length of a value. -/
def lengthOf (caller : Caller) (value : Value) : Running Int := do
  let unknown : Running Int := do
    failType (ascii ("object of type '" ++ (← typeName value) ++ "' has no len()"))
  match value with
  | .text text => return text.length
  | .bytes bytes => return bytes.length
  | .tuple items => return items.length
  | .range start stop step => return rangeLength start stop step
  | .object number =>
    match ← objectAt number with
    | .list items => return items.size
    | .queue items _ => return items.size
    | .table _ table => return table.size
    | .set _ table => return table.size
    | .view _ table =>
      match ← object? table with
      | some (.table _ table) => return table.size
      | _ => return 0
    | .record type _ =>
      match ← typeField? type "__len__" with
      | some function =>
        match ← caller.call (.bound value function) [] [] with
        | .int n => return n
        | _ => failType (ascii "'__len__' should return an integer")
      | none => unknown
    | _ => unknown
  | _ => unknown

/-- Whether a value holds another one. -/
def holds (caller : Caller) (container item : Value) : Running Bool := do
  let among (items : List Value) : Running Bool :=
    items.foldlM (fun (found : Bool) other => do
      if found then return true
      else if same other item then return true
      else equal caller other item) false
  match container with
  | .text text =>
    match item with
    | .text part => return ByteText.occursIn part text
    | other =>
      failType (ascii ("'in <string>' requires string as left operand, not " ++ (← typeName other)))
  | .bytes bytes =>
    match item with
    | .bytes part => return ByteText.occursIn part bytes
    | .int n => return bytes.contains (Char.ofNat n.toNat)
    | other =>
      failType (ascii ("a bytes-like object is required, not '" ++ (← typeName other) ++ "'"))
  | .tuple items => among items
  | .range start stop step =>
    match int? item with
    | some n =>
      return (if 0 < step then start ≤ n && n < stop else stop < n && n ≤ start)
        && (n - start) % step = 0
    | none => return false
  | .object number =>
    match ← objectAt number with
    | .table _ table => return table.contains (← keyOf item)
    | .set _ table => return table.contains (← keyOf item)
    | .view "dict_keys" table =>
      match ← object? table with
      | some (.table _ table) => return table.contains (← keyOf item)
      | _ => return false
    | .record type _ =>
      match ← typeField? type "__contains__" with
      | some function => truth caller (← caller.call (.bound container function) [item] [])
      | none => among (← items caller container)
    | .function _ => unknown
    | .type _ _ _ => unknown
    | _ => among (← items caller container)
  | _ => unknown
where
  /-- Fails because nothing can be held. -/
  unknown : Running Bool := do
    failType (ascii ("argument of type '" ++ (← typeName container) ++ "' is not iterable"))

/-- Whether a comparison holds of two values. -/
def compared (caller : Caller) (comparison : Comparison) (a b : Value) : Running Value := do
  match comparison with
  | .equal =>
    match ← special? a "__eq__" with
    | some function =>
      match ← caller.call (.bound a function) [b] [] with
      | .notImplemented => return .bool (same a b)
      | result => return result
    | none => return .bool (← equal caller a b)
  | .notEqual =>
    match ← special? a "__ne__" with
    | some function => caller.call (.bound a function) [b] []
    | none => return .bool !(← equal caller a b)
  | .same => return .bool (same a b)
  | .notSame => return .bool !(same a b)
  | .isIn => return .bool (← holds caller b a)
  | .notIn => return .bool !(← holds caller b a)
  | comparison => return .bool (← ordered caller comparison a b)

/-! ## Places -/

/-- A value as a number of a place, if it is one. -/
def placeOf? (caller : Caller) (value : Value) : Running (Option Int) := do
  match int? value with
  | some n => return some n
  | none =>
    match ← special? value "__index__" with
    | some function => return int? (← caller.call (.bound value function) [] [])
    | none => return none

/-- The places that a slice takes of so many values. -/
def slicePlaces (caller : Caller) (start stop step : Value) (count : Nat) : Running (List Nat) := do
  let bound (value : Value) (other : Int) (least most : Int) : Running Int := do
    match value with
    | .nothing => return other
    | value =>
      match ← placeOf? caller value with
      | some n =>
        let n := if n < 0 then n + count else n
        return max least (min most n)
      | none =>
        failType (ascii "slice indices must be integers or None or have an __index__ method")
  let step ←
    match step with
    | .nothing => pure 1
    | step => do pure ((← placeOf? caller step).getD 1)
  if step = 0 then fail "ValueError" (ascii "slice step cannot be zero")
  else if 0 < step then
    let first ← bound start 0 0 count
    let last ← bound stop count 0 count
    return (List.range (rangeLength first last step)).map fun (place : Nat) =>
      (first + step * (place : Int)).toNat
  else
    let first ← bound start ((count : Int) - 1) (-1) ((count : Int) - 1)
    let last ← bound stop (-1) (-1) ((count : Int) - 1)
    return (List.range (rangeLength first last step)).map fun (place : Nat) =>
      (first + step * (place : Int)).toNat

/-- What stands at some places. -/
def atPlaces {α : Type} (items : Array α) (places : List Nat) : List α :=
  places.filterMap fun place => items[place]?

/-- The place in a row of so many values that a number stands for. -/
def placeIn (count : Nat) (n : Int) : Option Nat :=
  let n := if n < 0 then n + count else n
  if 0 ≤ n && n < count then some n.toNat else none

/-- What stands under an index in a row. -/
def inRow {α : Type} (caller : Caller) (kind : String) (items : Array α) (index : Value)
    (ofList : List α → Running Value) (ofItem : α → Value) : Running Value := do
  match index with
  | .slice start stop step =>
    ofList (atPlaces items (← slicePlaces caller start stop step items.size))
  | index =>
    match ← placeOf? caller index with
    | some n =>
      match (placeIn items.size n).bind fun place => items[place]? with
      | some item => return ofItem item
      | none =>
        fail "IndexError" (ascii ((if kind = "str" then "string" else if kind = "bytes" then "index"
          else kind) ++ (if kind = "bytes" then " out of range" else " index out of range")))
    | none =>
      if kind = "str" then
        failType (ascii ("string indices must be integers, not '" ++ (← typeName index) ++ "'"))
      else if kind = "bytes" then
        failType (ascii ("byte indices must be integers or slices, not " ++ (← typeName index)))
      else
        failType (ascii (kind ++ " indices must be integers or slices, not " ++ (← typeName index)))

/-- What stands under an index. -/
def itemOf (caller : Caller) (value index : Value) : Running Value := do
  match value with
  | .text text =>
    inRow caller "str" text.toArray index (fun cs => return .text cs) fun c => .text [c]
  | .bytes bytes =>
    inRow caller "bytes" bytes.toArray index (fun cs => return .bytes cs) fun c => .int c.toNat
  | .tuple items => inRow caller "tuple" items.toArray index (fun xs => return .tuple xs) id
  | .range start stop step =>
    inRow caller "range" (rangeItems start stop step).toArray index (fun xs => return .tuple xs) id
  | .builtIn _ => return value
  | .object number =>
    match ← objectAt number with
    | .list items => inRow caller "list" items index list id
    | .queue items _ => inRow caller "deque" items index list id
    | .table kind table =>
      match table.find? (← keyOf index) with
      | some found => return found
      | none =>
        match kind with
        | .plain => raise (← makeException "KeyError" [index])
        | .counter => return .int 0
        | .withDefault .nothing => raise (← makeException "KeyError" [index])
        | .withDefault make =>
          let fresh ← caller.call make [] []
          let key ← keyOf index
          changeTable number fun table => table.insert key index fresh
          return fresh
    | .matched matched => groupOf matched index
    | .type _ _ _ => return value
    | .record type _ =>
      match ← typeField? type "__getitem__" with
      | some function => caller.call (.bound value function) [index] []
      | none => unknown
    | _ => unknown
  | _ => unknown
where
  /-- Fails because nothing stands under indices. -/
  unknown : Running Value := do
    failType (ascii ("'" ++ (← typeName value) ++ "' object is not subscriptable"))
  /-- The text of a group of a match. -/
  groupOf (matched : Matched) (index : Value) : Running Value := do
    let number? : Option Nat ←
      match index with
      | .int n => pure (some n.toNat)
      | .text name =>
        match ← object? matched.pattern with
        | some (.pattern _ _ pattern) =>
          pure ((pattern.names.find? fun entry => entry.1 = name).map Prod.snd)
        | _ => pure none
      | _ => pure none
    let wrap (start stop : Nat) : Value :=
      let text := (matched.chars.extract start stop).toList
      match matched.subject with
      | .bytes _ => .bytes text
      | _ => .text text
    match number? with
    | some 0 => return wrap matched.found.start matched.found.stop
    | some (number + 1) =>
      match matched.found.groups[number]? with
      | some (some (start, stop)) => return wrap start stop
      | some none => return .nothing
      | none => fail "IndexError" (ascii "no such group")
    | none => fail "IndexError" (ascii "no such group")

/-- A list with some places replaced by values. -/
def replaced (items : Array Value) (places : List Nat) (values : List Value) : Array Value :=
  (places.zip values).foldl (fun items (place, value) => items.setIfInBounds place value) items

/-- Puts a value under an index. -/
def putItem (caller : Caller) (value index item : Value) : Running Unit := do
  let unknown : Running Unit := do
    failType (ascii ("'" ++ (← typeName value) ++ "' object does not support item assignment"))
  match value with
  | .library "os.environ" => return ()
  | .object number =>
    match ← objectAt number with
    | .list row =>
      match index with
      | .slice start stop step =>
        let values ← items caller item
        let places ← slicePlaces caller start stop step row.size
        let isPlain : Bool := match step with
          | .nothing => true
          | .int 1 => true
          | _ => false
        if isPlain then
          let all ← slicePlaces caller start .nothing .nothing row.size
          let first := row.size - all.length
          let after := row.extract (first + places.length) row.size
          putObject number (.list (row.extract 0 first ++ values.toArray ++ after))
        else if places.length != values.length then
          fail "ValueError" (ascii "attempt to assign sequence of size " ++ ByteText.ofNat values.length
            ++ ascii " to extended slice of size " ++ ByteText.ofNat places.length)
        else putObject number (.list (replaced row places values))
      | index =>
        match ← placeOf? caller index with
        | some n =>
          match placeIn row.size n with
          | some place => changeList number fun row => row.setIfInBounds place item
          | none => fail "IndexError" (ascii "list assignment index out of range")
        | none =>
          failType (ascii ("list indices must be integers or slices, not " ++ (← typeName index)))
    | .queue row most =>
      match int? index with
      | some n =>
        match placeIn row.size n with
        | some place => putObject number (.queue (row.setIfInBounds place item) most)
        | none => fail "IndexError" (ascii "deque index out of range")
      | none => unknown
    | .table _ _ =>
      let key ← keyOf index
      changeTable number fun table => table.insert key index item
    | .record type _ =>
      match ← typeField? type "__setitem__" with
      | some function =>
        let _ ← caller.call (.bound value function) [index, item] []
      | none => unknown
    | _ => unknown
  | _ => unknown

/-- Takes away what stands under an index. -/
def deleteItem (caller : Caller) (value index : Value) : Running Unit := do
  let unknown : Running Unit := do
    failType (ascii ("'" ++ (← typeName value) ++ "' object doesn't support item deletion"))
  match value with
  | .object number =>
    match ← objectAt number with
    | .list row =>
      match index with
      | .slice start stop step =>
        let places ← slicePlaces caller start stop step row.size
        let kept := row.toList.zipIdx.filter fun (_, place) => !places.contains place
        putObject number (.list (kept.map Prod.fst).toArray)
      | index =>
        match (int? index).bind (placeIn row.size) with
        | some place =>
          putObject number (.list (row.extract 0 place ++ row.extract (place + 1) row.size))
        | none => fail "IndexError" (ascii "list assignment index out of range")
    | .table kind table =>
      let key ← keyOf index
      if table.contains key then putObject number (.table kind (table.erase key))
      else raise (← makeException "KeyError" [index])
    | .record type _ =>
      match ← typeField? type "__delitem__" with
      | some function =>
        let _ ← caller.call (.bound value function) [index] []
      | none => unknown
    | _ => unknown
  | _ => unknown

/-! ## Calculating -/

/-- Fails because an operation does not go with two values. -/
def failOperation {α : Type} (sign : String) (a b : Value) : Running α := do
  failType (ascii ("unsupported operand type(s) for " ++ sign ++ ": '" ++ (← typeName a) ++ "' and '"
    ++ (← typeName b) ++ "'"))

/-- The remainder of numbers with fractions, with the sign of the second one. -/
def floatRemainder (a b : Float) : Float :=
  let rest := Record.Number.remainder a b
  if rest != 0 && ((rest < 0) != (b < 0)) then rest + b
  else if rest == 0 then (if b < 0 then -0.0 else 0.0)
  else rest

/-- The greatest whole number that is not above a number. -/
def floatFloor (n : Float) : Float := n.floor

/-- A power of whole numbers. -/
def intPower (base : Int) (exponent : Nat) : Int :=
  let size : Int := (Nat.pow base.natAbs exponent : Nat)
  if base < 0 && exponent % 2 = 1 then -size else size

/-- Bits of two whole numbers put together, which may be below zero. -/
def bitwise (operation : Operator) (a b : Int) : Int :=
  let onNat (x y : Nat) : Nat :=
    match operation with
    | .and => x &&& y
    | .or => x ||| y
    | _ => x ^^^ y
  if 0 ≤ a && 0 ≤ b then onNat a.toNat b.toNat
  else
    let width := max (Nat.log2 (a.natAbs + 1)) (Nat.log2 (b.natAbs + 1)) + 2
    let size : Nat := Nat.pow 2 width
    let wrap (n : Int) : Nat := (n % (size : Int)).toNat
    let result := onNat (wrap a) (wrap b)
    if result < size / 2 then result else (result : Int) - size

/-- An operation on whole numbers. -/
def onInts (operator : Operator) (a b : Int) : Running Value := do
  match operator with
  | .add => return .int (a + b)
  | .subtract => return .int (a - b)
  | .multiply => return .int (a * b)
  | .divide =>
    if b = 0 then fail "ZeroDivisionError" (ascii "division by zero")
    else
      let number := Fractional.ofRatio 53 ((a < 0) != (b < 0)) a.natAbs b.natAbs
      return .float (Record.Number.ofParts number)
  | .floorDivide =>
    if b = 0 then fail "ZeroDivisionError" (ascii "integer division or modulo by zero")
    else return .int (Int.fdiv a b)
  | .remainder =>
    if b = 0 then fail "ZeroDivisionError" (ascii "integer modulo by zero")
    else return .int (Int.fmod a b)
  | .power =>
    if b < 0 then
      if a = 0 then
        fail "ZeroDivisionError" (ascii "0.0 cannot be raised to a negative power")
      else return .float (Float.pow (Float.ofInt a) (Float.ofInt b))
    else if 100000 < b.toNat * (Nat.log2 (a.natAbs + 1)) then
      fail "OverflowError" (ascii "Result too large")
    else return .int (intPower a b.toNat)
  | .shiftLeft =>
    if b < 0 then fail "ValueError" (ascii "negative shift count")
    else if 1000000 < b then fail "OverflowError" (ascii "too many digits in integer")
    else return .int (a * (Nat.pow 2 b.toNat : Nat))
  | .shiftRight =>
    if b < 0 then fail "ValueError" (ascii "negative shift count")
    else if 1000000 < b then return .int (if a < 0 then -1 else 0)
    else return .int (Int.fdiv a (Nat.pow 2 b.toNat : Nat))
  | .matrix => failOperation "@" (.int a) (.int b)
  | operator => return .int (bitwise operator a b)

/-- An operation on numbers with fractions. -/
def onFloats (operator : Operator) (a b : Float) : Running Value := do
  match operator with
  | .add => return .float (a + b)
  | .subtract => return .float (a - b)
  | .multiply => return .float (a * b)
  | .divide =>
    if b == 0 then fail "ZeroDivisionError" (ascii "float division by zero") else return .float (a / b)
  | .floorDivide =>
    if b == 0 then fail "ZeroDivisionError" (ascii "float floor division by zero")
    else return .float (floatFloor ((a - floatRemainder a b) / b))
  | .remainder =>
    if b == 0 then fail "ZeroDivisionError" (ascii "float modulo")
    else return .float (floatRemainder a b)
  | .power =>
    if a == 0 && b < 0 then
      fail "ZeroDivisionError" (ascii "0.0 cannot be raised to a negative power")
    else return .float (Float.pow a b)
  | operator => failOperation operator.sign (.float a) (.float b)

/-- A row so many times. -/
def timesRow {α : Type} (row : List α) (count : Int) : Running (List α) := do
  if 5000000 < row.length * count.toNat then fail "MemoryError" []
  else return (List.replicate count.toNat row).flatten

/-- The name of the function of a type that an operation calls, without what is around it. -/
def operatorWord : Operator → String
  | .add => "add"
  | .subtract => "sub"
  | .multiply => "mul"
  | .divide => "truediv"
  | .floorDivide => "floordiv"
  | .remainder => "mod"
  | .power => "pow"
  | .shiftLeft => "lshift"
  | .shiftRight => "rshift"
  | .and => "and"
  | .or => "or"
  | .xor => "xor"
  | .matrix => "matmul"

/-- A set operation on the keys of tables. -/
def onKeys (operator : Operator) (x y : Table) : Running (Option Table) := do
  let kept (table other : Table) (wanted : Bool) : Running (List (Value × Value)) :=
    table.entries.filterM fun (key, _) => do return other.contains (← keyOf key) = wanted
  let build (entries : List (Value × Value)) : Running Table :=
    entries.foldlM (fun (table : Table) (key, value) => do
      return table.insert (← keyOf key) key value) {}
  match operator with
  | .and => return some (← build (← kept x y true))
  | .or => return some (← build (x.entries ++ y.entries))
  | .subtract => return some (← build (← kept x y false))
  | .xor => return some (← build ((← kept x y false) ++ (← kept y x false)))
  | _ => return none

/-- The table of the keys of a view. -/
def keysOf (value : Value) : Running (Option Table) := do
  match ← object? value with
  | some (.set _ table) => return some table
  | some (.view "dict_keys" table) =>
    match ← object? table with
    | some (.table _ table) => return some table
    | _ => return none
  | _ => return none

/-- Counts of keys put together by an operation. -/
def onCounts (operator : Operator) (x y : Table) : Running (Option Table) := do
  let count (table : Table) (key : Key) : Int :=
    match table.find? key with
    | some (.int n) => n
    | _ => 0
  let combine : Option (Int → Int → Int) :=
    match operator with
    | .add => some (· + ·)
    | .subtract => some (· - ·)
    | .and => some min
    | .or => some max
    | _ => none
  match combine with
  | none => return none
  | some combine =>
    let table ← (x.keys ++ y.keys).foldlM (fun (table : Table) name => do
      let key ← keyOf name
      let n := combine (count x key) (count y key)
      if 0 < n then return table.insert key name (.int n) else return table) {}
    return some table

/-- An operation on two values. -/
def operate (caller : Caller) (operator : Operator) (a b : Value) : Running Value := do
  match int? a, int? b with
  | some x, some y =>
    match a, b, operator with
    | .bool p, .bool q, .and => return .bool (p && q)
    | .bool p, .bool q, .or => return .bool (p || q)
    | .bool p, .bool q, .xor => return .bool (p != q)
    | _, _, _ => onInts operator x y
  | _, _ =>
    match float? a, float? b with
    | some x, some y => onFloats operator x y
    | _, _ => onOthers
where
  /-- An operation on values that are not both numbers. -/
  onOthers : Running Value := do
    match operator, a, b with
    | .add, .text x, .text y => return .text (x ++ y)
    | .add, .text _, other =>
      match ← special? other "__radd__" with
      | some function => caller.call (.bound other function) [a] []
      | none =>
        failType (ascii ("can only concatenate str (not \"" ++ (← typeName other) ++ "\") to str"))
    | .add, .bytes x, .bytes y => return .bytes (x ++ y)
    | .add, .bytes _, other =>
      failType (ascii ("can't concat " ++ (← typeName other) ++ " to bytes"))
    | .add, .tuple x, .tuple y => return .tuple (x ++ y)
    | .add, .tuple _, other =>
      failType (ascii ("can only concatenate tuple (not \"" ++ (← typeName other) ++ "\") to tuple"))
    | .remainder, .text text, values => directives text values false
    | .remainder, .bytes text, values => directives text values true
    | .multiply, a, b =>
      match ← repeated a b with
      | some value => return value
      | none =>
        match ← repeated b a with
        | some value => return value
        | none => onObjects
    | _, _, _ => onObjects
  /-- A row so many times, if one value is a row and the other one a number. -/
  repeated (row count : Value) : Running (Option Value) := do
    match int? count with
    | none =>
      let isRow : Bool ← match row with
        | .text _ => pure true
        | .tuple _ => pure true
        | .bytes _ => pure true
        | row => do
          match ← object? row with
          | some (.list _) => pure true
          | _ => pure false
      let isCustom := (← special? count "__rmul__").isSome
      if isRow && !isCustom then
        failType (ascii ("can't multiply sequence by non-int of type '" ++ (← typeName count) ++ "'"))
      else return none
    | some n =>
      match row with
      | .text text => return some (.text (← timesRow text n))
      | .bytes text => return some (.bytes (← timesRow text n))
      | .tuple items => return some (.tuple (← timesRow items n))
      | row =>
        match ← object? row with
        | some (.list items) => return some (← list (← timesRow items.toList n))
        | _ => return none
  /-- A text with values put in for its directives. -/
  directives (text : List Char) (values : Value) (isBytes : Bool) : Running Value := do
    let isTable : Bool ← match ← object? values with
      | some (.table _ _) => pure true
      | some (.record _ _) => pure true
      | _ => pure false
    let look (key : List Char) : Running Value := do
      if isTable then itemOf caller values (.text key) else failType (ascii "format requires a mapping")
    let (row, isRow) : List Value × Bool :=
      match values with
      | .tuple items => (items, true)
      | other => ([other], false)
    let (result, rest) ← withDirectives caller isBytes look (text.length + 1) text row
    let isKeyed := isTable && !isRow
    if !rest.isEmpty && !isKeyed then
      failType (ascii "not all arguments converted during string formatting")
    else if isBytes then return .bytes result
    else return .text result
  /-- An operation on objects. -/
  onObjects : Running Value := do
    let word := operatorWord operator
    match ← special? a ("__" ++ word ++ "__") with
    | some function =>
      match ← caller.call (.bound a function) [b] [] with
      | .notImplemented => mirrored word
      | value => return value
    | none =>
      match operator, ← object? a, ← object? b with
      | .add, some (.list x), some (.list y) => make (.list (x ++ y))
      | .add, some (.list _), _ =>
        match ← special? b "__radd__" with
        | some function => caller.call (.bound b function) [a] []
        | none =>
          failType (ascii ("can only concatenate list (not \"" ++ (← typeName b) ++ "\") to list"))
      | operator, some (.table .counter x), some (.table .counter y) =>
        match ← onCounts operator x y with
        | some table => make (.table .counter table)
        | none => mirrored word
      | .or, some (.table kind x), some (.table _ y) =>
        let table ← y.entries.foldlM (fun (table : Table) (key, value) => do
          return table.insert (← keyOf key) key value) x
        make (.table kind table)
      | operator, _, _ =>
        match ← keysOf a, ← keysOf b with
        | some x, some y =>
          match ← onKeys operator x y with
          | some table =>
            match ← object? a with
            | some (.set isFrozen _) => make (.set isFrozen table)
            | _ => make (.set false table)
          | none => mirrored word
        | _, _ =>
          match operator, a, b with
          | .or, .builtIn _, _ => return .tuple [a, b]
          | _, _, _ => mirrored word
  /-- An operation that the second value knows. -/
  mirrored (word : String) : Running Value := do
    match ← special? b ("__r" ++ word ++ "__") with
    | some function => caller.call (.bound b function) [a] []
    | none => failOperation operator.sign a b

/-- An operation on one value. -/
def prefixedValue (caller : Caller) (operator : Prefixed) (value : Value) : Running Value := do
  let custom (special sign : String) : Running Value := do
    match ← special? value special with
    | some function => caller.call (.bound value function) [] []
    | none =>
      match operator, ← object? value with
      | _, _ =>
        failType (ascii ("bad operand type for unary " ++ sign ++ ": '" ++ (← typeName value) ++ "'"))
  match operator, value with
  | .not, value => return .bool !(← truth caller value)
  | .minus, .float n => return .float (-n)
  | .plus, .float n => return .float n
  | .minus, value =>
    match int? value with
    | some n => return .int (-n)
    | none => custom "__neg__" "-"
  | .plus, value =>
    match int? value with
    | some n => return .int n
    | none => custom "__pos__" "+"
  | .invert, value =>
    match int? value with
    | some n => return .int (-n - 1)
    | none => custom "__invert__" "~"

/-- Values in their order.  Of equal ones the first stays first. -/
def sortedBy (caller : Caller) (isReversed : Bool) (keyed : List (Value × Value)) :
    Running (List Value) := do
  let merge := fun (a b : List (Value × Value)) => mergeRuns (a.length + b.length + 1) a b []
  let sorted ← mergeAll merge (keyed.length + 1) (keyed.map fun entry => [entry])
  return sorted.map Prod.snd
where
  /-- Puts two sorted rows together.  Each step takes a value. -/
  mergeRuns : Nat → List (Value × Value) → List (Value × Value) → List (Value × Value) →
      Running (List (Value × Value))
    | 0, _, _, taken => return taken.reverse
    | _ + 1, [], ys, taken => return taken.reverse ++ ys
    | _ + 1, xs, [], taken => return taken.reverse ++ xs
    | fuel + 1, x :: xs, y :: ys, taken => do
      tick
      let swaps ←
        if isReversed then ordered caller .less x.1 y.1 else ordered caller .less y.1 x.1
      if swaps then mergeRuns fuel (x :: xs) ys (y :: taken)
      else mergeRuns fuel xs (y :: ys) (x :: taken)
  /-- Puts rows together pair by pair. -/
  pairs (merge : List (Value × Value) → List (Value × Value) → Running (List (Value × Value))) :
      List (List (Value × Value)) → Running (List (List (Value × Value)))
    | a :: b :: rest => do return (← merge a b) :: (← pairs merge rest)
    | rest => return rest
  /-- Puts all rows together. -/
  mergeAll (merge : List (Value × Value) → List (Value × Value) → Running (List (Value × Value))) :
      Nat → List (List (Value × Value)) → Running (List (Value × Value))
    | _, [] => return []
    | _, [row] => return row
    | 0, rows => return rows.flatten
    | fuel + 1, rows => do mergeAll merge fuel (← pairs merge rows)

end Running

end SchemaDocs.Shell.Indent
