import SchemaDocs.Shell.ByteText
/-!
# Prefix codes

Symbols that occur often get short codes and others long ones, so that no code is the
beginning of another one.  A code is known by the lengths of the codes of its symbols.
-/

namespace SchemaDocs.Shell

namespace Packing

/-! ## Lengths from frequencies -/

/-- The growth of a tree from its leaves, where the two lightest nodes are joined until one is left. -/
structure Growth where
  /-- How often each node occurs. -/
  weights : Array Nat
  depths : Array Nat
  /-- The node above each node. -/
  parents : Array Nat
  /-- The nodes that are left, each no heavier than those at twice its place and behind it, from place one
  on. -/
  heap : Array Nat
  size : Nat
  /-- The nodes that were joined, the last ones first. -/
  joined : List Nat := []

namespace Growth

/-- Whether a node is to be joined before another one: it is lighter, or as light and no deeper. -/
def isBefore (growth : Growth) (a b : Nat) : Bool :=
  let (x, y) := (growth.weights.getD a 0, growth.weights.getD b 0)
  x < y || (x = y && growth.depths.getD a 0 ≤ growth.depths.getD b 0)

/-- Moves a node down from a place of the heap to where it belongs.  Each step goes a level down. -/
def sink (node : Nat) : Nat → Nat → Growth → Growth
  | 0, _, growth => growth
  | fuel + 1, place, growth =>
    let left := 2 * place
    if growth.size < left then { growth with heap := growth.heap.setIfInBounds place node }
    else
      let nodeAt (place : Nat) := growth.heap.getD place 0
      let lower :=
        if left < growth.size && growth.isBefore (nodeAt (left + 1)) (nodeAt left) then left + 1
        else left
      let other := nodeAt lower
      if growth.isBefore node other then
        { growth with heap := growth.heap.setIfInBounds place node }
      else sink node fuel lower { growth with heap := growth.heap.setIfInBounds place other }

/-- Moves the node at a place of the heap down to where it belongs. -/
def sinkAt (growth : Growth) (place : Nat) : Growth :=
  sink (growth.heap.getD place 0) (growth.size + 1) place growth

/-- Joins the two lightest nodes. -/
def join (growth : Growth) : Growth :=
  let first := growth.heap.getD 1 0
  let last := growth.heap.getD growth.size 0
  let growth := { growth with heap := growth.heap.setIfInBounds 1 last, size := growth.size - 1 }
  let growth := growth.sinkAt 1
  let second := growth.heap.getD 1 0
  let node := growth.weights.size
  let weight := growth.weights.getD first 0 + growth.weights.getD second 0
  let depth := max (growth.depths.getD first 0) (growth.depths.getD second 0) + 1
  let growth := { growth with
    weights := growth.weights.push weight
    depths := growth.depths.push depth
    parents := ((growth.parents.setIfInBounds first node).setIfInBounds second node).push 0
    heap := growth.heap.setIfInBounds 1 node
    joined := second :: first :: growth.joined }
  growth.sinkAt 1

/-- A tree over symbols that occur so often, of which at least two do. -/
def ofWeights (weights : Array Nat) : Growth :=
  let symbols := (List.range weights.size).filter fun symbol => weights.getD symbol 0 != 0
  let count := symbols.length
  let growth : Growth :=
    { weights := weights, depths := weights.map fun _ => 0, parents := weights.map fun _ => 0
      heap := (0 :: symbols).toArray, size := count }
  let growth := (List.range (count / 2)).reverse.foldl (fun growth k => growth.sinkAt (k + 1)) growth
  let growth := (List.range (count - 1)).foldl (fun growth _ => growth.join) growth
  { growth with joined := growth.heap.getD 1 0 :: growth.joined }

end Growth

/-- Frequencies where at least two symbols occur. -/
def atLeastTwo (weights : Array Nat) : Array Nat :=
  let symbols := (List.range weights.size).filter fun symbol => weights.getD symbol 0 != 0
  match symbols with
  | [] => (weights.setIfInBounds 0 1).setIfInBounds 1 1
  | [0] => weights.setIfInBounds 1 1
  | [1] => weights.setIfInBounds 2 1
  | [_] => weights.setIfInBounds 0 1
  | _ => weights

/-- Takes leaves that are too deep up until all have room, where the number of leaves of each length is
known.  Each step makes room for two. -/
def makeRoom (longest : Nat) : Nat → Nat → Array Nat → Array Nat
  | 0, _, counts => counts
  | fuel + 1, excess, counts =>
    if excess = 0 then counts
    else
      let place := ((List.range longest).reverse.find? fun length =>
        counts.getD length 0 != 0).getD 0
      let change (place : Nat) (step : Nat → Nat) (counts : Array Nat) :=
        counts.setIfInBounds place (step (counts.getD place 0))
      let counts := change (place + 1) (· + 2) (change place (· - 1) counts)
      makeRoom longest fuel (excess - 2) (change longest (· - 1) counts)

/-- The lengths of leaves anew, from the lightest on, where so many get each length. -/
def shared (counts : Array Nat) : Nat → List Nat → Array Nat → Array Nat
  | 0, _, lengths => lengths
  | length + 1, leaves, lengths =>
    let count := counts.getD (length + 1) 0
    let lengths := (leaves.take count).foldl
      (fun lengths leaf => lengths.setIfInBounds leaf (length + 1)) lengths
    shared counts length (leaves.drop count) lengths

/-- The lengths of the codes of symbols that occur so often, none longer than a longest one. -/
def lengthsOf (longest : Nat) (weights : Array Nat) : Array Nat :=
  let growth := Growth.ofWeights weights
  let symbols := weights.size
  let (lengths, excess) := growth.joined.tail.foldl (fun (lengths, excess) node =>
      let length := lengths.getD (growth.parents.getD node 0) 0 + 1
      if longest < length then (lengths.setIfInBounds node longest, excess + 1)
      else (lengths.setIfInBounds node length, excess))
    (Array.replicate growth.weights.size 0, 0)
  let leaves := growth.joined.filter fun node => node < symbols
  let kept := lengths.extract 0 symbols
  if excess = 0 then kept
  else
    let counts := leaves.foldl (fun counts leaf =>
        let length := kept.getD leaf 0
        counts.setIfInBounds length (counts.getD length 0 + 1))
      (Array.replicate (longest + 1) 0)
    shared (makeRoom longest (excess + 1) excess counts) longest leaves.reverse kept

/-! ## Codes from lengths -/

/-- A number with its last bits in reverse order. -/
def turned : Nat → Nat → Nat
  | 0, _ => 0
  | count + 1, bits => (bits % 2) * Nat.pow 2 count + turned count (bits / 2)

/-- The first code of each length, where so many symbols have a length. -/
def firstCodes (lengths : Array Nat) (longest : Nat) : Array Nat :=
  let counts := lengths.foldl (fun counts length =>
      counts.setIfInBounds length (counts.getD length 0 + 1)) (Array.replicate (longest + 1) 0)
  ((List.range longest).foldl (fun (codes, code) length =>
      let count := if length = 0 then 0 else counts.getD length 0
      let code := (code + count) * 2
      (codes.push code, code)) (#[0], 0)).1

/-- The codes of symbols with their lengths, as they are written from the last bit on. -/
def codesOf (lengths : Array Nat) : Array (Nat × Nat) :=
  let next := firstCodes lengths 15
  (lengths.foldl (fun (codes, next) length =>
      if length = 0 then (codes.push (0, 0), next)
      else
        let code := next.getD length 0
        (codes.push (turned length code, length), next.setIfInBounds length (code + 1)))
    ((#[] : Array (Nat × Nat)), next)).1

/-! ## Lengths and distances of copies -/

/-- The shortest length of each code for lengths, and the number of bits behind it. -/
def lengthCodes : List (Nat × Nat) :=
  [(3, 0), (4, 0), (5, 0), (6, 0), (7, 0), (8, 0), (9, 0), (10, 0), (11, 1), (13, 1), (15, 1),
   (17, 1), (19, 2), (23, 2), (27, 2), (31, 2), (35, 3), (43, 3), (51, 3), (59, 3), (67, 4),
   (83, 4), (99, 4), (115, 4), (131, 5), (163, 5), (195, 5), (227, 5), (258, 0)]

/-- The least distance of each code for distances, and the number of bits behind it. -/
def distanceCodes : List (Nat × Nat) :=
  [(1, 0), (2, 0), (3, 0), (4, 0), (5, 1), (7, 1), (9, 2), (13, 2), (17, 3), (25, 3), (33, 4),
   (49, 4), (65, 5), (97, 5), (129, 6), (193, 6), (257, 7), (385, 7), (513, 8), (769, 8),
   (1025, 9), (1537, 9), (2049, 10), (3073, 10), (4097, 11), (6145, 11), (8193, 12),
   (12289, 12), (16385, 13), (24577, 13)]

/-- The code of a number, the number of bits behind it, and what they say. -/
def codeIn (codes : List (Nat × Nat)) (n : Nat) : Nat × Nat × Nat :=
  let place := (codes.takeWhile fun (least, _) => least ≤ n).length - 1
  let (least, extra) := codes.getD place (0, 0)
  (place, extra, n - least)

/-- The symbol that ends a block. -/
def endSymbol : Nat := 256

/-- The number of symbols for bytes, the end and lengths. -/
def symbolCount : Nat := 286

/-- The lengths of the codes of symbols in a block without codes of its own. -/
def fixedLengths : Array Nat :=
  Array.replicate 144 8 ++ Array.replicate 112 9 ++ Array.replicate 24 7 ++ Array.replicate 8 8

/-- The lengths of the codes of distances in a block without codes of its own. -/
def fixedDistances : Array Nat := Array.replicate 30 5

/-- The order in which the lengths of the codes for lengths of codes are written. -/
def lengthOrder : List Nat :=
  [16, 17, 18, 0, 8, 7, 9, 6, 10, 5, 11, 4, 12, 3, 13, 2, 14, 1, 15]

end Packing

end SchemaDocs.Shell

/-!
## Unpacking

Blocks are read bit by bit, and their bytes put together again.
-/

namespace SchemaDocs.Shell

namespace Packing

/-- Why bytes cannot be unpacked. -/
inductive UnpackFault where
  /-- They end too early. -/
  | cut
  /-- They are not what packing gives. -/
  | violated
deriving DecidableEq

/-- Bytes that are read bit by bit, and what was unpacked so far. -/
structure Unpacking where
  bytes : ByteArray
  place : Nat
  /-- The bits that were read and not used yet. -/
  rest : Nat := 0
  count : Nat := 0
  output : ByteArray := ByteArray.empty

/-- A step of unpacking. -/
abbrev Unpack (α : Type) := Unpacking → Except UnpackFault α × Unpacking

namespace Unpack

/-- Two steps, one after the other. -/
def thenDo {α β : Type} (first : Unpack α) (next : α → Unpack β) : Unpack β := fun state =>
  match first state with
  | (.ok value, state) => next value state
  | (.error fault, state) => (.error fault, state)

instance : Monad Unpack where
  pure value := fun state => (.ok value, state)
  bind := thenDo

/-- Ends with a fault. -/
def fail {α : Type} (fault : UnpackFault) : Unpack α := fun state => (.error fault, state)

/-- Reads bytes until there are so many bits.  Each step reads a byte. -/
def need (wanted : Nat) : Nat → Unpack Unit
  | 0 => fun state => (.ok (), state)
  | fuel + 1 => fun state =>
    if wanted ≤ state.count then (.ok (), state)
    else if h : state.place < state.bytes.size then
      let byte := (state.bytes[state.place]).toNat
      need wanted fuel
        { state with
          place := state.place + 1
          rest := state.rest + byte * Nat.pow 2 state.count
          count := state.count + 8 }
    else (.error .cut, state)

/-- Reads so many bits as a number, the first of which weighs least. -/
def bits (count : Nat) : Unpack Nat := do
  need count 4
  fun state =>
    let size := Nat.pow 2 count
    (.ok (state.rest % size), { state with rest := state.rest / size, count := state.count - count })

/-- Leaves out the bits up to the next byte. -/
def alignToByte : Unpack Unit := fun state =>
  let spare := state.count % 8
  (.ok (), { state with rest := state.rest / Nat.pow 2 spare, count := state.count - spare })

/-- Gives back the bytes that were read and not used. -/
def giveBack : Unpack Unit := fun state =>
  (.ok (), { state with place := state.place - state.count / 8, rest := 0, count := 0 })

/-- Puts out a byte. -/
def emit (byte : Nat) : Unpack Unit := fun state =>
  (.ok (), { state with output := state.output.push (UInt8.ofNat byte) })

/-- A byte that was put out some time before, or zero. -/
def past (output : ByteArray) (distance : Nat) : UInt8 :=
  let place := output.size - distance
  if distance ≤ output.size then
    if h : place < output.size then output[place] else 0
  else 0

/-- Bytes with so many more that stood there some bytes before. -/
def copied (distance : Nat) : Nat → ByteArray → ByteArray
  | 0, output => output
  | count + 1, output => copied distance count (output.push (past output distance))

/-- Puts out again what was put out before. -/
def copy (length distance : Nat) : Unpack Unit := fun state =>
  (.ok (), { state with output := copied distance length state.output })

end Unpack

/-! ### Codes -/

/-- A code to read symbols with. -/
structure ReadingCode where
  /-- How many symbols have each length. -/
  counts : Array Nat
  /-- The symbols, the shorter ones first. -/
  symbols : Array Nat
  /-- The number of bits that are asked for at once. -/
  glance : Nat

/-- A code from the lengths of its symbols.  It has to use up all sequences of bits, unless it has one
symbol with one bit, or none. -/
def readingCode? (most : Nat) (lengths : List Nat) : Option ReadingCode :=
  let counts := lengths.foldl (fun counts length =>
      counts.setIfInBounds length (counts.getD length 0 + 1)) (Array.replicate 16 0)
  let counts := counts.setIfInBounds 0 0
  let left := (List.range 15).foldl (fun left length =>
      left.bind fun left =>
        let count := counts.getD (length + 1) 0
        if 2 * left < count then none else some (2 * left - count))
    (some 1)
  let used := (List.range 16).filter fun length => counts.getD length 0 != 0
  let (shortest, longest) := (used.head?.getD 0, used.getLast?.getD 0)
  match left with
  | none => none
  | some left =>
    if left != 0 && longest != 1 && longest != 0 then none
    else
      let symbols := used.map fun length =>
        (lengths.zipIdx.filter fun entry => entry.1 = length).map Prod.snd
      some ⟨counts, symbols.flatten.toArray, min longest (max shortest most)⟩

/-- Reads a symbol bit by bit, where the codes of each length begin at some number and their symbols at
some place. -/
def symbolFrom (code : ReadingCode) : Nat → Nat → Nat → Nat → Nat → Unpack Nat
  | 0, _, _, _, _ => Unpack.fail .violated
  | fuel + 1, length, value, first, index => do
    let bit ← Unpack.bits 1
    let value := 2 * value + bit
    let count := code.counts.getD length 0
    if value < first + count then
      match code.symbols[index + (value - first)]? with
      | some symbol => return symbol
      | none => Unpack.fail .violated
    else symbolFrom code fuel (length + 1) value (2 * (first + count)) (index + count)

/-- Reads a symbol. -/
def symbol (code : ReadingCode) : Unpack Nat := do
  Unpack.need code.glance 4
  symbolFrom code 15 1 0 0 0

/-! ### Blocks -/

/-- Reads the bytes of a block that is written as it is. -/
def storedBytes : Nat → Unpack Unit
  | 0 => return ()
  | count + 1 => do
    let byte ← Unpack.bits 8
    Unpack.emit byte
    storedBytes count

/-- Reads a block that is written as it is. -/
def storedBlock : Unpack Unit := do
  Unpack.alignToByte
  let count ← Unpack.bits 16
  let check ← Unpack.bits 16
  if count + check != 65535 then Unpack.fail .violated
  else storedBytes count

/-- Reads the symbols of a block up to its end.  Each step reads a symbol. -/
def codedSymbols (symbols distances : ReadingCode) : Nat → Unpack Unit
  | 0 => Unpack.fail .violated
  | fuel + 1 => do
    let read ← symbol symbols
    if read < endSymbol then
      Unpack.emit read
      codedSymbols symbols distances fuel
    else if read = endSymbol then return ()
    else
      match lengthCodes[read - 257]? with
      | none => Unpack.fail .violated
      | some (least, extra) =>
        let more ← Unpack.bits extra
        let length := if read = 285 then 258 else least + more
        let read ← symbol distances
        match distanceCodes[read]? with
        | none => Unpack.fail .violated
        | some (nearest, extra) =>
          let more ← Unpack.bits extra
          Unpack.copy length (nearest + more)
          codedSymbols symbols distances fuel

/-- Reads so many lengths of codes, the last of which comes first among those that were read.  Each step
reads a symbol. -/
def codeLengths (code : ReadingCode) (total : Nat) : Nat → List Nat → Unpack (List Nat)
  | 0, lengths => return lengths
  | fuel + 1, lengths =>
    if total ≤ lengths.length then
      if total < lengths.length then Unpack.fail .violated else return lengths
    else do
      let read ← symbol code
      if read < 16 then codeLengths code total fuel (read :: lengths)
      else if read = 16 then
        let more ← Unpack.bits 2
        codeLengths code total fuel
          (List.replicate (more + 3) (lengths.head?.getD 0) ++ lengths)
      else if read = 17 then
        let more ← Unpack.bits 3
        codeLengths code total fuel (List.replicate (more + 3) 0 ++ lengths)
      else
        let more ← Unpack.bits 7
        codeLengths code total fuel (List.replicate (more + 11) 0 ++ lengths)

/-- Reads so many lengths of three bits. -/
def shortLengths : Nat → Unpack (List Nat)
  | 0 => return []
  | count + 1 => do
    let length ← Unpack.bits 3
    return length :: (← shortLengths count)

/-- A code, or a fault. -/
def codeOr (code : Option ReadingCode) : Unpack ReadingCode :=
  match code with
  | some code => return code
  | none => Unpack.fail .violated

/-- Reads a block with codes of its own. -/
def ownBlock (fuel : Nat) : Unpack Unit := do
  let symbolTotal := (← Unpack.bits 5) + 257
  let distanceTotal := (← Unpack.bits 5) + 1
  let orderedTotal := (← Unpack.bits 4) + 4
  if symbolCount < symbolTotal || 30 < distanceTotal then Unpack.fail .violated
  else
    let ordered ← shortLengths orderedTotal
    let lengths := (List.range 19).map fun symbol =>
      (((lengthOrder.zip ordered).find? fun entry => entry.1 = symbol).map Prod.snd).getD 0
    let code ← codeOr (readingCode? 7 lengths)
    let lengths ← codeLengths code (symbolTotal + distanceTotal) 320 []
    let lengths := lengths.reverse
    let symbols ← codeOr (readingCode? 9 (lengths.take symbolTotal))
    let distances ← codeOr (readingCode? 6 (lengths.drop symbolTotal))
    codedSymbols symbols distances fuel

/-- Reads a block with the codes that are known. -/
def fixedBlock (fuel : Nat) : Unpack Unit := do
  let symbols ← codeOr (readingCode? 7 fixedLengths.toList)
  let distances : ReadingCode :=
    { counts := (Array.replicate 16 0).setIfInBounds 5 30
      symbols := (List.range 30).toArray, glance := 5 }
  codedSymbols symbols distances fuel

/-- Reads blocks up to the last one.  Each step reads a block. -/
def blocks (fuel : Nat) : Nat → Unpack Unit
  | 0 => Unpack.fail .violated
  | count + 1 => do
    let isLast ← Unpack.bits 1
    let kind ← Unpack.bits 2
    match kind with
    | 0 => storedBlock
    | 1 => fixedBlock fuel
    | 2 => ownBlock fuel
    | _ => Unpack.fail .violated
    if isLast = 1 then Unpack.giveBack else blocks fuel count

/-- Unpacks the bytes from a place on.  It gives what was unpacked, the place behind what was read, and what
went wrong. -/
def unpack (bytes : ByteArray) (place : Nat) : ByteArray × Nat × Option UnpackFault :=
  let bits := 8 * bytes.size + 1
  match blocks bits bits { bytes := bytes, place := place } with
  | (.ok (), state) => (state.output, state.place, none)
  | (.error fault, state) => (state.output, state.place, some fault)

end Packing

end SchemaDocs.Shell
