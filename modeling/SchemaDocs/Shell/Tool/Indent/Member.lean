import SchemaDocs.Shell.Tool.Indent.Chars
/-!
# What objects can do

The functions that lists, tables, sets, files, patterns and matches have.
-/

namespace SchemaDocs.Shell.Indent

namespace Running

/-- Fails because a value has nothing under a name. -/
def failMember {α : Type} (value : Value) (name : String) : Running α := do
  match value with
  | .library library =>
    fail "AttributeError" (ascii ("module '" ++ library ++ "' has no attribute '" ++ name ++ "'"))
  | value =>
    match ← object? value with
    | some (.type type _ _) =>
      fail "AttributeError" (ascii ("type object '" ++ type ++ "' has no attribute '" ++ name ++ "'"))
    | _ =>
      fail "AttributeError" (ascii ("'" ++ (← typeName value) ++ "' object has no attribute '" ++ name
        ++ "'"))

/-! ## One value after the other -/

/-- Makes something that gives values one after the other.  What does so already stays itself. -/
def iteratorOf (caller : Caller) (value : Value) : Running Value := do
  match ← object? value with
  | some (.iterator _ _ _) => return value
  | some (.file _) => return value
  | some (.record type _) =>
    if (← typeField? type "__next__").isSome then return value
    else
      match ← typeField? type "__iter__" with
      | some function =>
        let source ← caller.call (.bound value function) [] []
        match ← object? source with
        | some (.record _ _) => return source
        | some (.iterator _ _ _) => return source
        | _ => make (.iterator "iterator" (← items caller source).toArray 0)
      | none => make (.iterator "iterator" (← items caller value).toArray 0)
  | some (.list items) => make (.iterator "list_iterator" items 0)
  | _ =>
    let kind ← typeName value
    make (.iterator (kind ++ "_iterator") (← items caller value).toArray 0)

/-- The lines of a text up to the first end of a line, in any form, and the length of what was read. -/
def firstLine (text : ByteText) : ByteText × Nat :=
  let line := text.takeWhile fun c => c != '\n' && c != '\x0d'
  match text.drop line.length with
  | '\x0d' :: '\n' :: _ => (line ++ ['\n'], line.length + 2)
  | _ :: _ => (line ++ ['\n'], line.length + 1)
  | [] => (line, line.length)

/-- A text whose lines all end in the same way. -/
def withPlainLines : List Char → List Char
  | '\x0d' :: '\n' :: rest => '\n' :: withPlainLines rest
  | '\x0d' :: rest => '\n' :: withPlainLines rest
  | c :: rest => c :: withPlainLines rest
  | [] => []

/-- Reads a line of an open file. -/
def lineOf (file : File) : Running Value := do
  if file.isBinary then
    return .bytes (← system (System.readLine file.channel))
  else
    let (pending, _) ← system (System.pending file.channel)
    if pending.any fun c => c = '\x0d' then
      let (line, length) := firstLine pending
      system (System.advance file.channel length)
      return .text (← decodeUsual (ascii "surrogateescape") line)
    else return .text (← decodeUsual (ascii "surrogateescape") (← system (System.readLine file.channel)))

/-- Whether a value is an empty text. -/
def isEmptyText : Value → Bool
  | .text [] => true
  | .bytes [] => true
  | _ => false

/-- The next value of something that gives values one after the other. -/
def nextValue (caller : Caller) (source : Value) : Running (Option Value) := do
  match source with
  | .object number =>
    match ← objectAt number with
    | .iterator kind row place =>
      match row[place]? with
      | some item =>
        putObject number (.iterator kind row (place + 1))
        return some item
      | none => return none
    | .file file =>
      let line ← lineOf file
      return if isEmptyText line then none else some line
    | .record type _ =>
      match ← typeField? type "__next__" with
      | none => failType (ascii ("'" ++ (← typeName source) ++ "' object is not an iterator"))
      | some function =>
        match ← attempt (caller.call (.bound source function) [] []) with
        | .ok item => return some item
        | .error (.raised exception) =>
          if ← isException exception "StopIteration" then return none
          else throw (.raised exception)
        | .error other => throw other
    | _ => failType (ascii ("'" ++ (← typeName source) ++ "' object is not an iterator"))
  | _ => failType (ascii ("'" ++ (← typeName source) ++ "' object is not an iterator"))

/-! ## Lists -/

/-- The names of the functions that lists have. -/
def listFunctions : List String :=
  ["append", "clear", "copy", "count", "extend", "index", "insert", "pop", "remove", "reverse",
   "sort"]

/-- The place of a value among some. -/
def indexAmong (caller : Caller) (item : Value) : Nat → List Value → Running (Option Nat)
  | _, [] => return none
  | place, other :: rest => do
    if same other item || (← equal caller other item) then return some place
    else indexAmong caller item (place + 1) rest

/-- Values sorted by a key, if one is given. -/
def sortedWith (caller : Caller) (values : List Value) (named : List (String × Value)) :
    Running (List Value) := do
  let option (name : String) : Value :=
    ((named.find? fun entry => entry.1 = name).map Prod.snd).getD .nothing
  let isReversed ← truth caller (option "reverse")
  let keyed ← match option "key" with
    | .nothing => pure (values.map fun value => (value, value))
    | key => values.mapM fun value => do return (← caller.call key [value] [], value)
  sortedBy caller isReversed keyed

/-- Calls a function of a list. -/
def callList (caller : Caller) (number : Nat) (row : Array Value) (name : String)
    (arguments : List Value) (named : List (String × Value)) : Running Value := do
  let put (row : Array Value) : Running Value := do
    putObject number (.list row)
    return .nothing
  match name, arguments with
  | "append", [item] =>
    changeList number fun row => row.push item
    return .nothing
  | "append", _ =>
    failType (ascii ("list.append() takes exactly one argument (" ++ toString arguments.length ++ " given)"))
  | "extend", [values] =>
    let more ← items caller values
    changeList number fun row => row ++ more.toArray
    return .nothing
  | "insert", [place, item] =>
    let n := (int? place).getD 0
    let n := if n < 0 then max 0 (n + row.size) else min n row.size
    put (row.extract 0 n.toNat ++ #[item] ++ row.extract n.toNat row.size)
  | "pop", _ =>
    if row.isEmpty then fail "IndexError" (ascii "pop from empty list")
    else
      let n := ((arguments.head?).bind int?).getD (-1)
      match placeIn row.size n with
      | some place =>
        let item := (row[place]?).getD .nothing
        changeList number fun row =>
          if place + 1 = row.size then row.pop
          else row.extract 0 place ++ row.extract (place + 1) row.size
        return item
      | none => fail "IndexError" (ascii "pop index out of range")
  | "remove", [item] =>
    match ← indexAmong caller item 0 row.toList with
    | some place => put (row.extract 0 place ++ row.extract (place + 1) row.size)
    | none => fail "ValueError" (ascii "list.remove(x): x not in list")
  | "clear", _ => put #[]
  | "copy", _ => make (.list row)
  | "reverse", _ => put row.reverse
  | "index", item :: rest =>
    let start := ((rest.head?).bind int?).getD 0
    let start := if start < 0 then max 0 (start + row.size) else start
    match ← indexAmong caller item start.toNat (row.toList.drop start.toNat) with
    | some place => return .int place
    | none => fail "ValueError" ((← shown caller item) ++ ascii " is not in list")
  | "count", [item] =>
    let same ← row.toList.filterM fun other => do
      return same other item || (← equal caller other item)
    return .int same.length
  | "sort", _ =>
    if !arguments.isEmpty then
      failType (ascii "sort() takes no positional arguments")
    else
      let sorted ← sortedWith caller row.toList named
      put sorted.toArray
  | name, _ =>
    failType (ascii ("list." ++ name ++ "() takes exactly one argument (" ++ toString arguments.length
      ++ " given)"))

/-- The names of the functions that rows with two ends have. -/
def queueFunctions : List String :=
  ["append", "appendleft", "clear", "copy", "count", "extend", "extendleft", "index", "insert",
   "pop", "popleft", "remove", "reverse", "rotate"]

/-- Calls a function of a row with two ends. -/
def callQueue (caller : Caller) (number : Nat) (row : Array Value) (most : Option Nat)
    (name : String) (arguments : List Value) : Running Value := do
  let put (fromLeft : Bool) (row : Array Value) : Running Value := do
    let kept := match most with
      | some most =>
        if fromLeft then row.extract 0 most else row.extract (row.size - most) row.size
      | none => row
    putObject number (.queue kept most)
    return .nothing
  match name, arguments with
  | "append", [item] => put false (row.push item)
  | "appendleft", [item] => put true (#[item] ++ row)
  | "extend", [values] => put false (row ++ (← items caller values).toArray)
  | "extendleft", [values] => put true ((← items caller values).reverse.toArray ++ row)
  | "pop", _ =>
    match row.back? with
    | some item =>
      putObject number (.queue row.pop most)
      return item
    | none => fail "IndexError" (ascii "pop from an empty deque")
  | "popleft", _ =>
    match row[0]? with
    | some item =>
      putObject number (.queue (row.extract 1 row.size) most)
      return item
    | none => fail "IndexError" (ascii "pop from an empty deque")
  | "rotate", _ =>
    let n := ((arguments.head?).bind int?).getD 1
    if row.isEmpty then return .nothing
    else
      let shift := (Int.fmod (-n) row.size).toNat
      put false (row.extract shift row.size ++ row.extract 0 shift)
  | "copy", _ => make (.queue row most)
  | "clear", _ => put false #[]
  | "reverse", _ => put false row.reverse
  | "count", [item] =>
    let same ← row.toList.filterM fun other => equal caller other item
    return .int same.length
  | "index", item :: _ =>
    match ← indexAmong caller item 0 row.toList with
    | some place => return .int place
    | none => fail "ValueError" ((← shown caller item) ++ ascii " is not in deque")
  | "remove", [item] =>
    match ← indexAmong caller item 0 row.toList with
    | some place => put false (row.extract 0 place ++ row.extract (place + 1) row.size)
    | none => fail "ValueError" (ascii "deque.remove(x): x not in deque")
  | name, _ => failType (ascii ("deque." ++ name ++ "() takes another number of arguments"))

/-! ## Tables -/

/-- The names of the functions that tables have. -/
def tableFunctions : List String :=
  ["clear", "copy", "fromkeys", "get", "items", "keys", "pop", "popitem", "setdefault", "update",
   "values", "move_to_end"]

/-- The names of the functions that counters have besides. -/
def counterFunctions : List String := ["most_common", "elements", "subtract", "total"]

/-- Pairs of keys and values of something. -/
def pairsOf (caller : Caller) (value : Value) : Running (List (Value × Value)) := do
  match ← object? value with
  | some (.table _ table) => return table.entries
  | _ =>
    (← items caller value).zipIdx.mapM fun (item, place) => do
      match ← items caller item with
      | [key, value] => return (key, value)
      | other =>
        fail "ValueError" (ascii "dictionary update sequence element #" ++ ByteText.ofNat place
          ++ ascii " has length " ++ ByteText.ofNat other.length ++ ascii "; 2 is required")

/-- A table with pairs put in. -/
def withPairs (table : Table) (pairs : List (Value × Value)) : Running Table :=
  pairs.foldlM (fun (table : Table) (key, value) => do
    return table.insert (← keyOf key) key value) table

/-- A table with counts added, each so many times. -/
def withCounts (caller : Caller) (table : Table) (value : Value) (sign : Int) : Running Table := do
  let pairs ← match ← object? value with
    | some (.table _ counts) => pure counts.entries
    | _ => do pure ((← items caller value).map fun item => (item, Value.int 1))
  pairs.foldlM (fun (table : Table) (item, count) => do
    let key ← keyOf item
    let before := ((table.find? key).bind int?).getD 0
    return table.insert key item (.int (before + sign * (int? count).getD 0))) table

/-- Named arguments as pairs. -/
def namedPairs (named : List (String × Value)) : List (Value × Value) :=
  named.map fun (name, value) => (.text name.toList, value)

/-- Calls a function of a table. -/
def callTable (caller : Caller) (number : Nat) (kind : TableKind) (table : Table) (name : String)
    (arguments : List Value) (named : List (String × Value)) : Running Value := do
  let put (table : Table) : Running Value := do
    putObject number (.table kind table)
    return .nothing
  let count (value : Value) : Int := (int? value).getD 0
  match name, arguments with
  | "get", key :: rest =>
    return (table.find? (← keyOf key)).getD (rest.head?.getD .nothing)
  | "keys", _ => make (.view "dict_keys" (.object number))
  | "values", _ => make (.view "dict_values" (.object number))
  | "items", _ => make (.view "dict_items" (.object number))
  | "pop", key :: rest =>
    let place ← keyOf key
    match table.find? place, rest with
    | some value, _ =>
      putObject number (.table kind (table.erase place))
      return value
    | none, other :: _ => return other
    | none, [] => raise (← makeException "KeyError" [key])
  | "popitem", _ =>
    match table.entries.getLast? with
    | some (key, value) =>
      putObject number (.table kind (table.erase (← keyOf key)))
      return .tuple [key, value]
    | none =>
      raise (← makeException "KeyError" [.text (ascii "popitem(): dictionary is empty")])
  | "setdefault", key :: rest =>
    let place ← keyOf key
    match table.find? place with
    | some value => return value
    | none =>
      let value := rest.head?.getD .nothing
      changeTable number fun table => table.insert place key value
      return value
  | "update", _ =>
    match kind with
    | .counter =>
      let table ← arguments.foldlM (fun table value => withCounts caller table value 1) table
      put table
    | _ =>
      let table ← arguments.foldlM (fun table value => do
        withPairs table (← pairsOf caller value)) table
      put (← withPairs table (namedPairs named))
  | "clear", _ => put {}
  | "copy", _ => make (.table kind table)
  | "move_to_end", key :: rest =>
    let place ← keyOf key
    match table.find? place with
    | some value =>
      let isLast ← truth caller ((rest.head?).getD
        (((named.find? fun entry => entry.1 = "last").map Prod.snd).getD (.bool true)))
      let others := (table.erase place).entries
      put (← withPairs {} (if isLast then others ++ [(key, value)] else (key, value) :: others))
    | none => raise (← makeException "KeyError" [key])
  | "most_common", _ =>
    let sorted := table.entries.mergeSort fun a b => count b.2 ≤ count a.2
    let taken := match (arguments.head?).bind int? with
      | some n => sorted.take n.toNat
      | none => sorted
    list (taken.map fun (key, value) => .tuple [key, value])
  | "elements", _ =>
    let all := table.entries.flatMap fun (key, value) => List.replicate (count value).toNat key
    make (.iterator "itertools.chain" all.toArray 0)
  | "subtract", value :: _ => put (← withCounts caller table value (-1))
  | "total", _ => return .int ((table.entries.map fun entry => count entry.2).foldl (· + ·) 0)
  | name, _ => failType (ascii (name ++ " expected at least 1 argument, got 0"))

/-! ## Sets -/

/-- The names of the functions that sets have. -/
def setFunctions : List String :=
  ["add", "clear", "copy", "difference", "difference_update", "discard", "intersection",
   "intersection_update", "isdisjoint", "issubset", "issuperset", "pop", "remove",
   "symmetric_difference", "symmetric_difference_update", "union", "update"]

/-- A table whose keys are some values. -/
def setOf (values : List Value) : Running Table := withPairs {} (values.map fun item => (item, item))

/-- Calls a function of a set. -/
def callSet (caller : Caller) (number : Nat) (isFrozen : Bool) (table : Table) (name : String)
    (arguments : List Value) : Running Value := do
  let put (table : Table) : Running Value := do
    putObject number (.set isFrozen table)
    return .nothing
  let others : Running (List Table) := arguments.mapM fun value => do setOf (← items caller value)
  let combined (operator : Operator) : Running Table := do
    (← others).foldlM (fun table other => do
      return (← onKeys operator table other).getD table) table
  match name, arguments with
  | "add", [item] =>
    let key ← keyOf item
    changeTable number fun table => table.insert key item item
    return .nothing
  | "discard", [item] =>
    let key ← keyOf item
    changeTable number fun table => table.erase key
    return .nothing
  | "remove", [item] =>
    let key ← keyOf item
    if table.contains key then put (table.erase key) else raise (← makeException "KeyError" [item])
  | "pop", _ =>
    match table.keys with
    | item :: _ =>
      putObject number (.set isFrozen (table.erase (← keyOf item)))
      return item
    | [] => raise (← makeException "KeyError" [.text (ascii "pop from an empty set")])
  | "clear", _ => put {}
  | "copy", _ => make (.set isFrozen table)
  | "union", _ => make (.set isFrozen (← combined .or))
  | "intersection", _ => make (.set isFrozen (← combined .and))
  | "difference", _ => make (.set isFrozen (← combined .subtract))
  | "symmetric_difference", _ => make (.set isFrozen (← combined .xor))
  | "update", _ => put (← combined .or)
  | "intersection_update", _ => put (← combined .and)
  | "difference_update", _ => put (← combined .subtract)
  | "symmetric_difference_update", _ => put (← combined .xor)
  | "issubset", _ => return .bool (← (← others).allM fun other => isWithin table other)
  | "issuperset", _ => return .bool (← (← others).allM fun other => isWithin other table)
  | "isdisjoint", _ =>
    let shared ← (← others).anyM fun other => do
      return ((← onKeys .and table other).map Table.size).getD 0 != 0
    return .bool !shared
  | name, _ =>
    failType (ascii ("set." ++ name ++ "() takes exactly one argument (" ++ toString arguments.length
      ++ " given)"))

/-! ## Files -/

/-- The names of the functions that files have. -/
def fileFunctions : List String :=
  ["read", "readline", "readlines", "write", "writelines", "close", "flush", "isatty", "fileno",
   "readable", "writable", "seekable", "seek", "tell", "reconfigure", "detach", "truncate", "read1"]

/-- Writes to an open file. -/
def writeFile (file : File) (value : Value) : Running Value := do
  let bytes ← match file.isBinary, value with
    | false, .text text => pure (encoded text)
    | true, .bytes bytes => pure bytes
    | false, other =>
      failType (ascii ("write() argument must be str, not " ++ (← typeName other)))
    | true, other =>
      failType (ascii ("a bytes-like object is required, not '" ++ (← typeName other) ++ "'"))
  let length : Nat := match value with
    | .text text => text.length
    | _ => bytes.length
  match file.descriptor with
  | some 1 => if file.isBinary then writeBytes bytes else
      match value with
      | .text text => writeText text
      | _ => pure ()
  | some 2 => program (Program.err bytes)
  | _ =>
    match ← system (System.write file.channel bytes) with
    | some _ => fail "io.UnsupportedOperation" (ascii "not writable")
    | none => pure ()
  return .int length

/-- Reads so many characters of an open file, or all. -/
def readFile (file : File) (count : Option Nat) : Running Value := do
  match count with
  | none =>
    let bytes ← system (System.readAll file.channel)
    if file.isBinary then return .bytes bytes
    else return .text (withPlainLines (← decodeUsual (ascii (if file.descriptor.isSome then "surrogateescape" else "strict")) bytes))
  | some count =>
    if file.isBinary then return .bytes (← system (System.readExactly file.channel count))
    else
      let (pending, _) ← system (System.pending file.channel)
      let text := (decoded pending).take count
      system (System.advance file.channel (encoded text).length)
      return .text (withPlainLines text)

/-- Calls a function of an open file. -/
def callFile (caller : Caller) (number : Nat) (file : File) (name : String)
    (arguments : List Value) : Running Value := do
  if file.isClosed && name != "close" then
    fail "ValueError" (ascii "I/O operation on closed file.")
  let count := ((arguments.head?).bind int?).bind fun n => if n < 0 then none else some n.toNat
  match name, arguments with
  | "read", _ => readFile file count
  | "read1", _ => readFile file count
  | "readline", _ => lineOf file
  | "readlines", _ =>
    let rec lines : Nat → List Value → Running (List Value)
      | 0, taken => return taken.reverse
      | fuel + 1, taken => do
        let line ← lineOf file
        if isEmptyText line then return taken.reverse else lines fuel (line :: taken)
    list (← lines mostItems [])
  | "write", [value] => writeFile file value
  | "writelines", [values] =>
    for value in ← items caller values do
      let _ ← writeFile file value
    return .nothing
  | "close", _ =>
    if file.descriptor = some 1 then flush
    putObject number (.file { file with isClosed := true })
    return .nothing
  | "flush", _ =>
    if file.descriptor = some 1 then flush
    return .nothing
  | "isatty", _ => return .bool false
  | "fileno", _ => return .int (file.descriptor.getD 3)
  | "readable", _ => return .bool (file.mode.contains 'r' || file.mode.contains '+')
  | "writable", _ => return .bool !(file.mode.contains 'r')
  | "seekable", _ => return .bool file.descriptor.isNone
  | "seek", [place] =>
    match ← system (System.channel? file.channel) with
    | some (.file steps _ mode) =>
      system (System.put file.channel (.file steps ((int? place).getD 0).toNat mode))
      return place
    | _ => fail "io.UnsupportedOperation" (ascii "underlying stream is not seekable")
  | "tell", _ =>
    match ← system (System.channel? file.channel) with
    | some (.file _ offset _) => return .int offset
    | _ => fail "OSError" (ascii "[Errno 29] Illegal seek")
  | "reconfigure", _ => return .nothing
  | "detach", _ => make (.file { file with isBinary := true })
  | "truncate", _ => return .int 0
  | name, _ => failMember (.object number) name

/-- Calls a function of a text that is written like a file. -/
def callBuffer (caller : Caller) (number : Nat) (pieces : List ByteText) (isBinary : Bool)
    (name : String) (arguments : List Value) : Running Value := do
  let wrap (bytes : ByteText) : Value := if isBinary then .bytes bytes else .text (decoded bytes)
  let whole := pieces.reverse.flatten
  match name, arguments with
  | "write", [value] =>
    let bytes ← match isBinary, value with
      | false, .text text => pure (encoded text)
      | true, .bytes bytes => pure bytes
      | false, other => failType (ascii ("string argument expected, got '" ++ (← typeName other) ++ "'"))
      | true, other =>
        failType (ascii ("a bytes-like object is required, not '" ++ (← typeName other) ++ "'"))
    putObject number (.buffer (bytes :: pieces) isBinary)
    return .int (match value with
      | .text text => text.length
      | _ => bytes.length)
  | "getvalue", _ => return wrap whole
  | "read", _ =>
    match ((arguments.head?).bind int?) with
    | some n =>
      if n < 0 then
        putObject number (.buffer [] isBinary)
        return wrap whole
      else
        let taken := if isBinary then whole.take n.toNat else encoded ((decoded whole).take n.toNat)
        putObject number (.buffer [whole.drop taken.length] isBinary)
        return wrap taken
    | none =>
      putObject number (.buffer [] isBinary)
      return wrap whole
  | "readline", _ =>
    match ByteText.lines whole with
    | line :: _ =>
      putObject number (.buffer [whole.drop line.written.length] isBinary)
      return wrap line.written
    | [] => return wrap []
  | "readlines", _ => list (← items caller (.object number))
  | "seek", _ => return .int 0
  | "close", _ => return .nothing
  | "flush", _ => return .nothing
  | name, _ => failMember (.object number) name

/-! ## Patterns -/

/-- The names of the functions that patterns have. -/
def patternFunctions : List String :=
  ["sub", "subn", "match", "search", "fullmatch", "findall", "finditer", "split"]

/-- The names of the functions that matches have. -/
def matchedFunctions : List String := ["group", "groups", "groupdict", "start", "end", "span", "expand"]

/-- Makes a pattern of a text under some flags. -/
def patternOf (value : Value) (flags : Nat) : Running Value := do
  let read (text : List Char) (isWide : Bool) : Running Value := do
    let has (bit : Nat) : Bool := flags / bit % 2 = 1
    let letters : Ordered.Flags :=
      { ignoresCase := has 2, hasLines := has 8, dotHoldsAll := has 16, isSpaced := has 64
        isWide := isWide && !has 256 }
    match Ordered.Pattern.read true letters text with
    | .ok pattern => make (.pattern value flags pattern)
    | .error fault => fail "re.error" fault.text
  match value with
  | .text text => read text true
  | .bytes bytes => read bytes false
  | other =>
    match ← object? other with
    | some (.pattern _ _ _) => return other
    | _ => failType (ascii "first argument must be string or compiled pattern")

/-- The piece of a template that a match fills in. -/
inductive TemplatePiece where
  | text (text : List Char)
  | group (number : Nat)

/-- The pieces of a template behind a match.  Each step takes a character. -/
def templatePieces (pattern : Ordered.Pattern) : Nat → List Char → Running (List TemplatePiece)
  | 0, _ => return []
  | _ + 1, [] => return []
  | fuel + 1, '\\' :: c :: rest => do
    let letter (c : Char) : Running (List TemplatePiece) := do
      return .text [c] :: (← templatePieces pattern fuel rest)
    let group (number : Nat) (rest : List Char) : Running (List TemplatePiece) := do
      if pattern.groups < number then
        fail "re.error" (ascii "invalid group reference " ++ ByteText.ofNat number)
      else return .group number :: (← templatePieces pattern fuel rest)
    match c with
    | 'n' => letter '\n'
    | 't' => letter '\t'
    | 'r' => letter '\x0d'
    | 'a' => letter '\x07'
    | 'b' => letter '\x08'
    | 'f' => letter '\x0c'
    | 'v' => letter '\x0b'
    | '\\' => letter '\\'
    | 'g' =>
      let name := (rest.drop 1).takeWhile (· != '>')
      let after := rest.drop (name.length + 2)
      if name.all Char.isDigit && !name.isEmpty then group (ByteText.valueIn 10 name) after
      else
        match pattern.names.find? fun entry => entry.1 = name with
        | some (_, number) => group number after
        | none => fail "IndexError" (ascii "unknown group name '" ++ name ++ ['\''])
    | c =>
      if c = '0' then
        let digits := (rest.take 2).takeWhile (ByteText.isDigitIn 8)
        return .text [Char.ofNat (ByteText.valueIn 8 digits)]
          :: (← templatePieces pattern fuel (rest.drop digits.length))
      else if c.isDigit then
        let digits := c :: (rest.take 1).takeWhile Char.isDigit
        group (ByteText.valueIn 10 digits) (rest.drop (digits.length - 1))
      else if c.isAlpha then fail "re.error" (ascii "bad escape \\" ++ [c] ++ ascii " at position 0")
      else return .text ['\\', c] :: (← templatePieces pattern fuel rest)
  | fuel + 1, c :: rest => do
    let plain := (c :: rest).takeWhile (· != '\\')
    if plain.isEmpty then return [.text (c :: rest)]
    else return .text plain :: (← templatePieces pattern fuel ((c :: rest).drop plain.length))

/-- The text of a template for a match. -/
def expanded (chars : Array Char) (found : Ordered.Found) (pieces : List TemplatePiece) : List Char :=
  (pieces.map fun
    | .text text => text
    | .group 0 => (chars.extract found.start found.stop).toList
    | .group (number + 1) =>
      match (found.groups[number]?).join with
      | some (start, stop) => (chars.extract start stop).toList
      | none => []).flatten

/-- The characters of what a pattern is matched against. -/
def subjectOf (pattern subject : Value) : Running (Array Char × Bool) := do
  let isBytes : Bool := match pattern with
    | .bytes _ => true
    | _ => false
  match subject, isBytes with
  | .text text, false => return (text.toArray, false)
  | .bytes bytes, true => return (bytes.toArray, true)
  | .text _, true => failType (ascii "cannot use a bytes pattern on a string-like object")
  | .bytes _, false => failType (ascii "cannot use a string pattern on a bytes-like object")
  | other, _ =>
    failType (ascii ("expected string or bytes-like object, got '" ++ (← typeName other) ++ "'"))

/-- Calls a function of a pattern. -/
def callPattern (caller : Caller) (self source : Value) (pattern : Ordered.Pattern) (name : String)
    (arguments : List Value) (named : List (String × Value)) : Running Value := do
  let names :=
    if name = "sub" || name = "subn" then ["repl", "string", "count"]
    else if name = "split" then ["string", "maxsplit"]
    else ["string", "pos", "endpos"]
  let slots ← slotsFor name names arguments named
  let subject := if name = "sub" || name = "subn" then slot slots 1 else slot slots 0
  let (chars, isBytes) ← subjectOf source subject
  let wrap (start stop : Nat) : Value := alike isBytes (chars.extract start stop).toList
  let matched (found : Ordered.Found) : Running Value :=
    make (.matched { pattern := self, subject := subject, chars := chars, found := found })
  let optional (found : Option Ordered.Found) : Running Value :=
    match found with
    | some found => matched found
    | none => return .nothing
  let hasStart := name != "sub" && name != "subn" && name != "split"
  let start ← if hasStart then intSlot slots 1 0 else pure 0
  let start := min start.toNat chars.size
  let groupText (found : Ordered.Found) (number : Nat) (other : Value) : Value :=
    match (found.groups[number]?).join with
    | some (start, stop) => wrap start stop
    | none => other
  match name with
  | "search" => optional (pattern.search chars start)
  | "match" => optional (pattern.matchWhere { chars := chars, origin := start } start fun _ => true)
  | "fullmatch" =>
    optional (pattern.matchWhere { chars := chars, origin := start } start (· = chars.size))
  | "finditer" =>
    let found ← (pattern.all chars).mapM matched
    make (.iterator "callable_iterator" found.toArray 0)
  | "findall" =>
    list ((pattern.all chars).map fun found =>
      if pattern.groups = 0 then wrap found.start found.stop
      else if pattern.groups = 1 then groupText found 0 (alike isBytes [])
      else .tuple ((List.range pattern.groups).map fun number =>
        groupText found number (alike isBytes [])))
  | "split" =>
    let most ← intSlot slots 1 0
    let found := pattern.all chars
    let found := if 0 < most then found.take most.toNat else found
    let (pieces, last) := found.foldl (fun ((pieces, last) : List Value × Nat) found =>
      let groups := (List.range pattern.groups).map fun number => groupText found number .nothing
      (pieces ++ [wrap last found.start] ++ groups, found.stop)) ([], 0)
    list (pieces ++ [wrap last chars.size])
  | _ =>
    let most ← intSlot slots 2 0
    let found := pattern.all chars
    let found := if 0 < most then found.take most.toNat else found
    let template ← match slot slots 0 with
      | .text text => do pure (some (← templatePieces pattern (text.length + 1) text))
      | .bytes text => do pure (some (← templatePieces pattern (text.length + 1) text))
      | _ => pure none
    let (pieces, last) ← found.foldlM (fun ((pieces, last) : List (List Char) × Nat) found => do
      let before := (chars.extract last found.start).toList
      let new ← match template with
        | some template => pure (expanded chars found template)
        | none => do
          match ← caller.call (slot slots 0) [← matched found] [] with
          | .text text => pure text
          | .bytes text => pure text
          | .nothing => pure []
          | other =>
            failType (ascii ("expected str instance, " ++ (← typeName other) ++ " found"))
      return (new :: before :: pieces, found.stop)) (([] : List (List Char)), 0)
    let result := ((chars.extract last chars.size).toList :: pieces).reverse.flatten
    if name = "subn" then return .tuple [alike isBytes result, .int found.length]
    else return alike isBytes result

/-- Calls a function of a match. -/
def callMatched (caller : Caller) (self : Value) (matched : Matched) (name : String)
    (arguments : List Value) (named : List (String × Value)) : Running Value := do
  let pattern ← match ← object? matched.pattern with
    | some (.pattern _ _ pattern) => pure pattern
    | _ => pure default
  let other := (arguments.head?).getD
    (((named.find? fun entry => entry.1 = "default").map Prod.snd).getD .nothing)
  let isBytes : Bool := match matched.subject with
    | .bytes _ => true
    | _ => false
  let all := (List.range pattern.groups).map fun number =>
    match (matched.found.groups[number]?).join with
    | some (start, stop) => alike isBytes (matched.chars.extract start stop).toList
    | none => other
  let bounds : Running (Option (Nat × Nat)) := do
    match arguments with
    | [] => return some (matched.found.start, matched.found.stop)
    | [.int 0] => return some (matched.found.start, matched.found.stop)
    | index :: _ =>
      let number ← match index with
        | .int n => pure n.toNat
        | .text name =>
          match pattern.names.find? fun entry => entry.1 = name with
          | some (_, number) => pure number
          | none => fail "IndexError" (ascii "no such group")
        | _ => fail "IndexError" (ascii "no such group")
      match matched.found.groups[number - 1]? with
      | some found => return found
      | none => fail "IndexError" (ascii "no such group")
  match name with
  | "group" =>
    match arguments with
    | [] => itemOf caller self (.int 0)
    | [index] => itemOf caller self index
    | several => return .tuple (← several.mapM (itemOf caller self))
  | "groups" => return .tuple all
  | "groupdict" =>
    let pairs := pattern.names.map fun (name, number) =>
      (Value.text name, (all[number - 1]?).getD .nothing)
    make (.table .plain (← withPairs {} pairs))
  | "start" => return (match ← bounds with
      | some (start, _) => .int start
      | none => .int (-1))
  | "end" => return (match ← bounds with
      | some (_, stop) => .int stop
      | none => .int (-1))
  | "span" => return (match ← bounds with
      | some (start, stop) => .tuple [.int start, .int stop]
      | none => .tuple [.int (-1), .int (-1)])
  | _ =>
    match arguments with
    | .text template :: _ =>
      return .text (expanded matched.chars matched.found
        (← templatePieces pattern (template.length + 1) template))
    | _ => failType (ascii "expand() takes a template")

end Running

end SchemaDocs.Shell.Indent
