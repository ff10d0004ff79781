import SchemaDocs.Shell.ByteText
import SchemaDocs.Shell.Packing.Code
/-!
# Packing into blocks

Repetitions are found first, and what is then left is written in blocks.

## Repetitions

A text is cut into bytes that stand for themselves and copies of what stood there before.
Earlier places are found through a table of the three bytes that begin there, where each
place knows the one before it with the same entry.  The window that can be looked back
into moves on by half of its size.
-/

namespace SchemaDocs.Shell

namespace Packing

/-- A part of a text. -/
inductive Token where
  | literal (byte : Nat)
  /-- As many bytes as stood there so far before. -/
  | copy (length distance : Nat)
deriving DecidableEq

/-- Tokens that are written together. -/
structure Stretch where
  tokens : List Token
  /-- The place where the bytes of the tokens begin. -/
  start : Nat
  /-- The place behind them. -/
  stop : Nat
  /-- Whether the bytes are all at hand. -/
  isAtHand : Bool

/-- How hard repetitions are looked for. -/
structure Effort where
  level : Nat
  /-- The length of a match from which on fewer places are looked at. -/
  good : Nat
  /-- The length from which on no better match is looked for at the next place. -/
  lazyLimit : Nat
  /-- The length that is good enough. -/
  nice : Nat
  /-- The number of places that are looked at. -/
  chain : Nat

namespace Effort

/-- The effort of a level from one to nine. -/
def ofLevel (level : Nat) : Effort :=
  match level with
  | 1 => ⟨1, 4, 4, 8, 4⟩
  | 2 => ⟨2, 4, 5, 16, 8⟩
  | 3 => ⟨3, 4, 6, 32, 32⟩
  | 4 => ⟨4, 4, 4, 16, 16⟩
  | 5 => ⟨5, 8, 16, 32, 32⟩
  | 7 => ⟨7, 8, 32, 128, 256⟩
  | 8 => ⟨8, 32, 128, 258, 1024⟩
  | 9 => ⟨9, 32, 258, 258, 4096⟩
  | _ => ⟨6, 8, 16, 128, 128⟩

end Effort

/-- The size of half of a window. -/
def half : Nat := 32768

/-- The number of bytes that a search needs ahead of it. -/
def ahead : Nat := 262

/-- The distance of the farthest copy. -/
def farthest : Nat := half - ahead

/-- The distance from which on a copy of three bytes is not worth it. -/
def tooFar : Nat := 4096

/-- The number of tokens that a stretch has room for. -/
def room : Nat := 32768

/-- A search through a text. -/
structure Finder where
  bytes : ByteArray
  /-- The place where the window begins.  Nothing before it is found, and it is not found itself. -/
  base : Nat := 0
  /-- The place up to which the text was read. -/
  filled : Nat
  isAtEnd : Bool
  /-- The last place for each entry. -/
  heads : Array Nat
  /-- The place before each place of the window. -/
  before : Array Nat
  /-- The entry of the last bytes. -/
  hash : Nat := 0

namespace Finder

/-- The byte at a place.  Behind the text stands what stood half of a window before, behind two zeros, or
nothing. -/
def byte (finder : Finder) (place : Nat) : Nat :=
  if h : place < finder.bytes.size then (finder.bytes[place]).toNat
  else if finder.base = 0 || place < finder.bytes.size + 2 then 0
  else
    let place := place - half
    if h : place < finder.bytes.size then (finder.bytes[place]).toNat else 0

/-- An entry with a byte more. -/
def mixed (hash byte : Nat) : Nat := ((hash * 32) ^^^ byte) % half

/-- Reads on until there is enough ahead of a place.  The window moves on first if the place is far enough
in it.  Each step reads once. -/
def filledFor (place : Nat) : Nat → Finder → Finder
  | 0, finder => finder
  | fuel + 1, finder =>
    if finder.isAtEnd || ahead ≤ finder.filled - place then finder
    else
      let base := if half + farthest ≤ place - finder.base then finder.base + half else finder.base
      let filled := min finder.bytes.size (base + 2 * half)
      filledFor place fuel
        { finder with base := base, filled := filled, isAtEnd := filled = finder.filled }

/-- A search at the beginning of a text. -/
def ofBytes (bytes : ByteArray) : Finder :=
  let finder : Finder :=
    { bytes := bytes, filled := min bytes.size (2 * half), isAtEnd := bytes.size = 0
      heads := Array.replicate half 0, before := Array.replicate half 0 }
  let finder := filledFor 0 4 finder
  { finder with hash := mixed (mixed 0 (finder.byte 0)) (finder.byte 1) }

/-- Enters a place, and gives the last one before it with the same entry. -/
def insert (finder : Finder) (place : Nat) : Nat × Finder :=
  let hash := mixed finder.hash (finder.byte (place + 2))
  let last := finder.heads.getD hash 0
  (last, { finder with
    hash := hash
    heads := finder.heads.setIfInBounds hash place
    before := finder.before.setIfInBounds (place % half) last })

/-- Begins anew with the two bytes at a place. -/
def restart (finder : Finder) (place : Nat) : Finder :=
  let hash := mixed (finder.byte place) (finder.byte (place + 1))
  { finder with hash := hash }

/-- Enters some places that follow each other. -/
def insertMany (finder : Finder) (place : Nat) : Nat → Finder
  | 0 => finder
  | count + 1 => insertMany (finder.insert place).2 (place + 1) count

/-- Whether a place that was found is near enough to one. -/
def isNear (finder : Finder) (found place : Nat) : Bool :=
  finder.base < found && place - found ≤ farthest
    && place - finder.base ≤ 2 * half - ahead

/-- The number of bytes from two places on that are alike, up to the length of the longest copy. -/
def commonLength (finder : Finder) (first second : Nat) : Nat → Nat → Nat
  | 0, count => count
  | fuel + 1, count =>
    if finder.byte (first + count) = finder.byte (second + count) then
      commonLength finder first second fuel (count + 1)
    else count

/-- The length of the longest match at a place and where it stands, from a place found on and better than
one that is known.  Each step looks at a place. -/
def longestFrom (finder : Finder) (nice place : Nat) : Nat → Nat → Nat → Nat → Nat × Nat
  | 0, _, best, start => (best, start)
  | chain + 1, found, best, start =>
    let isCandidate :=
      finder.byte (found + best) = finder.byte (place + best)
        && finder.byte (found + best - 1) = finder.byte (place + best - 1)
    let length := if isCandidate then finder.commonLength found place 258 0 else 0
    let isBetter := best < length
    let (best, start) := if isBetter then (length, found) else (best, start)
    if isBetter && nice ≤ length then (best, start)
    else
      let next := finder.before.getD (found % half) 0
      let limit := max finder.base (place - farthest)
      if limit < next then longestFrom finder nice place chain next best start
      else (best, start)

/-- The length of the longest match at a place and where it stands. -/
def longest (finder : Finder) (effort : Effort) (place found best start : Nat) : Nat × Nat :=
  let chain := if effort.good ≤ best then effort.chain / 4 else effort.chain
  finder.longestFrom effort.nice place chain found best start

end Finder

/-- What was cut so far of the stretch that is being cut. -/
structure Cutting where
  tokens : List Token := []
  count : Nat := 0
  copies : Nat := 0
  /-- The bits that the distances of copies take at most. -/
  distanceBits : Nat := 0
  start : Nat := 0

/-- The number of bits behind the code of a distance. -/
def distanceExtra (distance : Nat) : Nat :=
  if distance ≤ 4 then 0 else Nat.log2 (distance - 1) - 1

namespace Cutting

/-- Whether a stretch should end here. -/
def isFull (cutting : Cutting) (effort : Effort) (place : Nat) : Bool :=
  let isWorthIt :=
    2 < effort.level && cutting.count % 4096 = 0
      && cutting.copies < cutting.count / 2
      && (cutting.count * 8 + cutting.distanceBits) / 8 < (place - cutting.start) / 2
  isWorthIt || cutting.count = room - 1 || cutting.copies = room

/-- A stretch with a token more, and whether it should end behind it. -/
def add (cutting : Cutting) (effort : Effort) (place : Nat) (token : Token) : Bool × Cutting :=
  let cutting :=
    match token with
    | .literal _ => { cutting with tokens := token :: cutting.tokens, count := cutting.count + 1 }
    | .copy _ distance =>
      { cutting with
        tokens := token :: cutting.tokens
        count := cutting.count + 1
        copies := cutting.copies + 1
        distanceBits := cutting.distanceBits + 5 + distanceExtra distance }
  (cutting.isFull effort place, cutting)

/-- The stretch up to a place. -/
def close (cutting : Cutting) (base place : Nat) : Stretch :=
  ⟨cutting.tokens.reverse, cutting.start, place, base ≤ cutting.start⟩

end Cutting

/-- Ends a stretch at a place if it should end there. -/
def cutAt (isDue : Bool) (base place : Nat) (cutting : Cutting) (stretches : List Stretch) :
    Cutting × List Stretch :=
  if isDue then ({ start := place }, cutting.close base place :: stretches) else (cutting, stretches)

/-- Cuts a text where each match is taken as soon as it is found.  Each step takes a token. -/
def cutGreedily (effort : Effort) :
    Nat → Finder → Nat → Nat → Cutting → List Stretch → List Stretch
  | 0, _, _, _, _, stretches => stretches.reverse
  | fuel + 1, finder, place, start, cutting, stretches =>
    if finder.filled ≤ place then (cutting.close finder.base place :: stretches).reverse
    else
      let (found, finder) := finder.insert place
      let (length, start) :=
        if finder.isNear found place then finder.longest effort place found 2 start else (0, start)
      let length := min length (finder.filled - place)
      if 3 ≤ length then
        let (isDue, cutting) := cutting.add effort place (.copy length (place - start))
        let finder :=
          if length ≤ effort.lazyLimit then finder.insertMany (place + 1) (length - 1)
          else finder.restart (place + length)
        let place := place + length
        let (cutting, stretches) := cutAt isDue finder.base place cutting stretches
        cutGreedily effort fuel (finder.filledFor place 4) place start cutting stretches
      else
        let (isDue, cutting) := cutting.add effort place (.literal (finder.byte place))
        let (cutting, stretches) := cutAt isDue finder.base (place + 1) cutting stretches
        cutGreedily effort fuel (finder.filledFor (place + 1) 4) (place + 1) start cutting stretches

/-- Cuts a text where a match is taken only if there is no better one at the next place.  Each step looks at
a place. -/
def cutLazily (effort : Effort) :
    Nat → Finder → Nat → Nat → Nat → Bool → Cutting → List Stretch → List Stretch
  | 0, _, _, _, _, _, _, stretches => stretches.reverse
  | fuel + 1, finder, place, length, start, isWaiting, cutting, stretches =>
    if finder.filled ≤ place then
      let cutting :=
        if isWaiting then (cutting.add effort place (.literal (finder.byte (place - 1)))).2
        else cutting
      (cutting.close finder.base place :: stretches).reverse
    else
      let (found, finder) := finder.insert place
      let (oldLength, oldStart) := (length, start)
      let (length, start) :=
        if oldLength < effort.lazyLimit && finder.isNear found place then
          let (length, start) := finder.longest effort place found oldLength oldStart
          let length := min length (finder.filled - place)
          (if length = 3 && tooFar < place - start then 2 else length, start)
        else (2, start)
      if 3 ≤ oldLength && length ≤ oldLength then
        let (isDue, cutting) := cutting.add effort place (.copy oldLength (place - 1 - oldStart))
        let finder := finder.insertMany (place + 1) (oldLength - 2)
        let place := place + oldLength - 1
        let (cutting, stretches) := cutAt isDue finder.base place cutting stretches
        cutLazily effort fuel (finder.filledFor place 4) place 2 start false cutting stretches
      else
        let (isDue, cutting) :=
          if isWaiting then cutting.add effort place (.literal (finder.byte (place - 1)))
          else (false, cutting)
        let (cutting, stretches) := cutAt isDue finder.base place cutting stretches
        cutLazily effort fuel (finder.filledFor (place + 1) 4) (place + 1) length start true cutting
          stretches

/-- The stretches of a text, at least one. -/
def stretches (level : Nat) (bytes : ByteArray) : List Stretch :=
  let effort := Effort.ofLevel level
  let finder := Finder.ofBytes bytes
  if level ≤ 3 then cutGreedily effort (bytes.size + 1) finder 0 0 {} []
  else cutLazily effort (bytes.size + 1) finder 0 2 0 false {} []

end Packing

end SchemaDocs.Shell

/-!
## Blocks

The tokens of a stretch are written as a block: as the bytes that they stand for, with
codes that are known, or with codes of its own, whichever takes least room.
-/

namespace SchemaDocs.Shell

namespace Packing

/-! ### Bits -/

/-- Bytes that are written bit by bit, where the first bit weighs least. -/
structure BitWriter where
  bytes : ByteArray := ByteArray.empty
  /-- The bits that do not fill a byte yet. -/
  rest : Nat := 0
  count : Nat := 0

namespace BitWriter

/-- Writes all whole bytes of what is left over.  Each step writes a byte. -/
def settle : Nat → BitWriter → BitWriter
  | 0, writer => writer
  | fuel + 1, writer =>
    if writer.count < 8 then writer
    else
      settle fuel
        { bytes := writer.bytes.push (UInt8.ofNat (writer.rest % 256))
          rest := writer.rest / 256, count := writer.count - 8 }

/-- Writes so many bits of a number. -/
def put (writer : BitWriter) (bits count : Nat) : BitWriter :=
  settle 4
    { writer with rest := writer.rest + bits * Nat.pow 2 writer.count, count := writer.count + count }

/-- Fills the last byte. -/
def fill (writer : BitWriter) : BitWriter :=
  if writer.count = 0 then writer else settle 1 { writer with count := 8 }

end BitWriter

/-! ### Lengths of codes -/

/-- A symbol that stands for lengths of codes, the number of bits behind it, and what they say. -/
abbrev LengthSymbol := Nat × Nat × Nat

/-- The symbols for a length that comes so many times after another one. -/
def runSymbols (least count length : Nat) (previous : Option Nat) : List LengthSymbol :=
  if count < least then List.replicate count (length, 0, 0)
  else if length != 0 then
    if previous = some length then [(16, 2, count - 3)]
    else [(length, 0, 0), (16, 2, count - 4)]
  else if count ≤ 10 then [(17, 3, count - 3)]
  else [(18, 7, count - 11)]

/-- The symbols for lengths, where those that come several times in a row are put together.  So many may
be at most, and have to be at least. -/
def lengthSymbols (most least count : Nat) (previous : Option Nat) : List Nat → List LengthSymbol
  | [] => []
  | length :: rest =>
    let next := rest.head?
    if count + 1 < most && next = some length then
      lengthSymbols most least (count + 1) previous rest
    else
      let (most, enough) :=
        if next = some 0 then (138, 3) else if next = some length then (6, 3) else (7, 4)
      runSymbols least (count + 1) length previous
        ++ lengthSymbols most enough 0 (some length) rest

/-- The symbols for the lengths of a code. -/
def symbolsOf (lengths : List Nat) : List LengthSymbol :=
  if lengths.head? = some 0 then lengthSymbols 138 3 0 none lengths
  else lengthSymbols 7 4 0 none lengths

/-- Lengths up to the last one that is used, and at least so many. -/
def used (least : Nat) (lengths : Array Nat) : List Nat :=
  let list := lengths.toList
  let kept := (list.reverse.dropWhile (· = 0)).length
  list.take (max least kept)

/-! ### Blocks -/

/-- How often symbols and distances occur. -/
structure Census where
  symbols : Array Nat := Array.replicate symbolCount 0
  distances : Array Nat := Array.replicate 30 0

/-- Counts one more at a place. -/
def bump (counts : Array Nat) (place : Nat) : Array Nat :=
  counts.setIfInBounds place (counts.getD place 0 + 1)

/-- How often symbols and distances occur in a block. -/
def Census.ofTokens (tokens : List Token) : Census :=
  let census := tokens.foldl (fun (census : Census) token =>
      match token with
      | .literal byte => { census with symbols := bump census.symbols byte }
      | .copy length distance =>
        { symbols := bump census.symbols (257 + (codeIn lengthCodes length).1)
          distances := bump census.distances (codeIn distanceCodes distance).1 })
    {}
  { census with symbols := bump census.symbols endSymbol }

/-- The bits that symbols take which occur so often, with codes of some lengths and bits behind them. -/
def bitsOf (weights lengths : Array Nat) (extra : Nat → Nat) : Nat :=
  (List.range weights.size).foldl (fun total symbol =>
    total + weights.getD symbol 0 * (lengths.getD symbol 0 + extra symbol)) 0

/-- The number of bits behind a symbol. -/
def symbolExtra (symbol : Nat) : Nat :=
  if symbol ≤ endSymbol then 0 else ((lengthCodes[symbol - 257]?).map Prod.snd).getD 0

/-- The number of bits behind the code of a distance. -/
def distanceBits (code : Nat) : Nat := ((distanceCodes[code]?).map Prod.snd).getD 0

/-- The codes of a block. -/
structure Codebook where
  symbols : Array (Nat × Nat)
  distances : Array (Nat × Nat)

/-- Writes a code. -/
def putCode (writer : BitWriter) (codes : Array (Nat × Nat)) (symbol : Nat) : BitWriter :=
  let (bits, count) := codes.getD symbol (0, 0)
  writer.put bits count

/-- Writes tokens and the end of a block. -/
def putTokens (writer : BitWriter) (book : Codebook) (tokens : List Token) : BitWriter :=
  let writer := tokens.foldl (fun writer token =>
      match token with
      | .literal byte => putCode writer book.symbols byte
      | .copy length distance =>
        let (code, count, bits) := codeIn lengthCodes length
        let writer := (putCode writer book.symbols (257 + code)).put bits count
        let (code, count, bits) := codeIn distanceCodes distance
        (putCode writer book.distances code).put bits count)
    writer
  putCode writer book.symbols endSymbol

/-- The codes that are known. -/
def fixedBook : Codebook := ⟨codesOf fixedLengths, codesOf fixedDistances⟩

/-- Writes bytes as they are, behind their number. -/
def putStored (writer : BitWriter) (bytes : ByteArray) (start stop : Nat) : BitWriter :=
  let writer := writer.fill
  let count := stop - start
  let writer := (writer.put count 16).put (65535 - count) 16
  { writer with bytes := writer.bytes ++ bytes.extract start stop }

/-- Writes a stretch as a block, the last one or not. -/
def putBlock (bytes : ByteArray) (writer : BitWriter) (stretch : Stretch) (isLast : Bool) :
    BitWriter :=
  let census := Census.ofTokens stretch.tokens
  let symbolLengths := lengthsOf 15 (atLeastTwo census.symbols)
  let distanceLengths := lengthsOf 15 (atLeastTwo census.distances)
  let (usedSymbols, usedDistances) := (used 257 symbolLengths, used 1 distanceLengths)
  let runs := symbolsOf usedSymbols ++ symbolsOf usedDistances
  let runWeights := runs.foldl (fun weights (symbol, _, _) => bump weights symbol)
    (Array.replicate 19 0)
  let runLengths := lengthsOf 7 (atLeastTwo runWeights)
  let ordered := lengthOrder.map fun symbol => runLengths.getD symbol 0
  let orderedCount := max 4 (ordered.reverse.dropWhile (· = 0)).length
  let ownBits := bitsOf census.symbols symbolLengths symbolExtra
    + bitsOf census.distances distanceLengths distanceBits
    + runs.foldl (fun total (symbol, count, _) => total + runLengths.getD symbol 0 + count) 0
    + 3 * orderedCount + 14
  let fixedBits := bitsOf census.symbols fixedLengths symbolExtra
    + bitsOf census.distances fixedDistances distanceBits
  let (ownBytes, fixedBytes) := ((ownBits + 10) / 8, (fixedBits + 10) / 8)
  let last := if isLast then 1 else 0
  if stretch.isAtHand && stretch.stop - stretch.start + 4 ≤ min ownBytes fixedBytes then
    putStored (writer.put last 3) bytes stretch.start stretch.stop
  else if fixedBytes ≤ ownBytes then
    putTokens (writer.put (2 + last) 3) fixedBook stretch.tokens
  else
    let writer := (((writer.put (4 + last) 3).put (usedSymbols.length - 257) 5).put
      (usedDistances.length - 1) 5).put (orderedCount - 4) 4
    let writer := (ordered.take orderedCount).foldl (fun writer length => writer.put length 3) writer
    let codes := codesOf runLengths
    let writer := runs.foldl (fun writer (symbol, count, bits) =>
      (putCode writer codes symbol).put bits count) writer
    putTokens writer ⟨codesOf symbolLengths, codesOf distanceLengths⟩ stretch.tokens

/-- Writes blocks, of which the last one says so. -/
def putBlocks (bytes : ByteArray) : BitWriter → List Stretch → BitWriter
  | writer, [] => writer
  | writer, [stretch] => putBlock bytes writer stretch true
  | writer, stretch :: rest => putBlocks bytes (putBlock bytes writer stretch false) rest

/-- Packs bytes with the effort of a level. -/
def pack (level : Nat) (bytes : ByteArray) : ByteArray :=
  (putBlocks bytes {} (stretches level bytes)).fill.bytes

end Packing

end SchemaDocs.Shell
