import SchemaDocs.Shell.ByteText
/-!
# Digests

Short numbers that stand for texts of any length.  A text is filled up with a mark, zeros
and its length to a whole number of blocks, and every block changes a state of a few
words.
-/

namespace SchemaDocs.Shell

namespace Digest

/-! ## Bytes and words -/

/-- The bytes of a text. -/
def bytesOf (text : ByteText) : List Nat := text.map fun c => c.toNat % 256

/-- The number of some bytes, the first one of which weighs most. -/
def ofBytes (bytes : List Nat) : Nat := bytes.foldl (fun n byte => n * 256 + byte) 0

/-- Some bytes of a number, the one that weighs most first. -/
def toBytes (count n : Nat) : List Nat :=
  (List.range count).reverse.map fun place => n / Nat.pow 256 place % 256

/-- Pieces of a list that have a length.  Each step takes a piece. -/
def piecesFrom (size : Nat) : Nat → List Nat → List (List Nat)
  | 0, _ => []
  | _ + 1, [] => []
  | fuel + 1, items => items.take size :: piecesFrom size fuel (items.drop size)

/-- Pieces of a list that have a length. -/
def pieces (size : Nat) (items : List Nat) : List (List Nat) :=
  piecesFrom size (items.length / size + 1) items

/-- A text as blocks: its bytes, a mark, zeros, and the number of its bits as some bytes. -/
def blocks (size lengthSize : Nat) (isSmallFirst : Bool) (text : ByteText) : List (List Nat) :=
  let bytes := bytesOf text
  let length := toBytes lengthSize (8 * bytes.length)
  let used := (bytes.length + 1 + lengthSize) % size
  let zeros := List.replicate ((size - used) % size) 0
  pieces size (bytes ++ [0x80] ++ zeros ++ (if isSmallFirst then length.reverse else length))

/-- The hexadecimal digits of some bytes. -/
def hex (bytes : List Nat) : ByteText :=
  (bytes.map fun byte =>
    [Nat.digitChar (byte / 16), Nat.digitChar (byte % 16)]).flatten

/-! ## Roots of primes -/

/-- The first eighty primes. -/
def primes : List Nat :=
  ((List.range 410).filter fun n =>
    1 < n && (List.range n).all fun d => d < 2 || n % d != 0).take 80

/-- The greatest number whose power is not above a number, where so many bits are enough for it. -/
def root (degree n : Nat) : Nat → Nat → Nat
  | 0, found => found
  | bits + 1, found =>
    let next := found + Nat.pow 2 bits
    root degree n bits (if Nat.pow next degree ≤ n then next else found)

/-- The first sixty-four bits behind the point of a root of a number. -/
def rootFraction (degree n : Nat) : Nat :=
  root degree (n * Nat.pow 2 (64 * degree)) 70 0 % Nat.pow 2 64

/-- What is added in each round with words of sixty-four bits. -/
def wideConstants : Array UInt64 :=
  (primes.map fun prime => UInt64.ofNat (rootFraction 3 prime)).toArray

/-- What is added in each round with words of thirty-two bits. -/
def narrowConstants : Array UInt32 :=
  ((primes.take 64).map fun prime =>
    UInt32.ofNat (rootFraction 3 prime / Nat.pow 2 32)).toArray

/-- The fractions of the square roots of some primes. -/
def squareRoots (primes : List Nat) : List Nat := primes.map (rootFraction 2)

/-! ## Words of thirty-two bits -/

/-- A word with its bits moved around to the left. -/
def rotateLeft (word : UInt32) (count : Nat) : UInt32 :=
  (word <<< UInt32.ofNat count) ||| (word >>> UInt32.ofNat (32 - count))

/-- A word with its bits moved around to the right. -/
def rotateRight (word : UInt32) (count : Nat) : UInt32 := rotateLeft word (32 - count)

/-- A state of words of thirty-two bits. -/
abbrev State := List UInt32

/-- A state with another one added to it, word by word. -/
def addState (a b : State) : State := List.zipWith (· + ·) a b

/-- What is added in each round of MD5. -/
def md5Constants : Array UInt32 :=
  #[
   0xd76aa478, 0xe8c7b756, 0x242070db, 0xc1bdceee, 0xf57c0faf, 0x4787c62a,
   0xa8304613, 0xfd469501, 0x698098d8, 0x8b44f7af, 0xffff5bb1, 0x895cd7be,
   0x6b901122, 0xfd987193, 0xa679438e, 0x49b40821, 0xf61e2562, 0xc040b340,
   0x265e5a51, 0xe9b6c7aa, 0xd62f105d, 0x02441453, 0xd8a1e681, 0xe7d3fbc8,
   0x21e1cde6, 0xc33707d6, 0xf4d50d87, 0x455a14ed, 0xa9e3e905, 0xfcefa3f8,
   0x676f02d9, 0x8d2a4c8a, 0xfffa3942, 0x8771f681, 0x6d9d6122, 0xfde5380c,
   0xa4beea44, 0x4bdecfa9, 0xf6bb4b60, 0xbebfbc70, 0x289b7ec6, 0xeaa127fa,
   0xd4ef3085, 0x04881d05, 0xd9d4d039, 0xe6db99e5, 0x1fa27cf8, 0xc4ac5665,
   0xf4292244, 0x432aff97, 0xab9423a7, 0xfc93a039, 0x655b59c3, 0x8f0ccc92,
   0xffeff47d, 0x85845dd1, 0x6fa87e4f, 0xfe2ce6e0, 0xa3014314, 0x4e0811a1,
   0xf7537e82, 0xbd3af235, 0x2ad7d2bb, 0xeb86d391]

/-- How far words are turned in the rounds of MD5. -/
def md5Turns : Array Nat :=
  #[7, 12, 17, 22, 5, 9, 14, 20, 4, 11, 16, 23, 6, 10, 15, 21]

/-- A round of MD5. -/
def md5Round (words : Array UInt32) (state : State) (round : Nat) : State :=
  match state with
  | [a, b, c, d] =>
    let (mixed, place) :=
      match round / 16 with
      | 0 => ((b &&& c) ||| (~~~b &&& d), round)
      | 1 => ((d &&& b) ||| (~~~d &&& c), (5 * round + 1) % 16)
      | 2 => (b ^^^ c ^^^ d, (3 * round + 5) % 16)
      | _ => (c ^^^ (b ||| ~~~d), 7 * round % 16)
    let sum := a + mixed + md5Constants.getD round 0 + words.getD place 0
    [d, b + rotateLeft sum (md5Turns.getD (round / 16 * 4 + round % 4) 0), b, c]
  | state => state

/-- The state that MD5 and SHA-1 begin with. -/
def firstState : State := [0x67452301, 0xefcdab89, 0x98badcfe, 0x10325476, 0xc3d2e1f0]

/-- The words of a block. -/
def wordsOf (block : List Nat) : Array UInt32 :=
  ((pieces 4 block).map fun bytes => UInt32.ofNat (ofBytes bytes)).toArray

/-- The MD5 digest, where the byte of a word that weighs least stands first. -/
def md5 (text : ByteText) : List Nat :=
  let step (state : State) (block : List Nat) : State :=
    let words := ((pieces 4 block).map fun bytes => UInt32.ofNat (ofBytes bytes.reverse)).toArray
    addState state ((List.range 64).foldl (md5Round words) state)
  let state := (blocks 64 8 true text).foldl step (firstState.take 4)
  (state.map fun word => (toBytes 4 word.toNat).reverse).flatten

/-- Further words after those of a block, each from some before it.  Each step adds a word. -/
def extended (next : Array UInt32 → UInt32) : Nat → Array UInt32 → Array UInt32
  | 0, words => words
  | count + 1, words => extended next count (words.push (next words))

/-- The word so many places before the end. -/
def back (words : Array UInt32) (count : Nat) : UInt32 := words.getD (words.size - count) 0

/-- A round of SHA-1. -/
def sha1Round (words : Array UInt32) (state : State) (round : Nat) : State :=
  match state with
  | [a, b, c, d, e] =>
    let (mixed, constant) : UInt32 × UInt32 :=
      match round / 20 with
      | 0 => ((b &&& c) ||| (~~~b &&& d), 0x5a827999)
      | 1 => (b ^^^ c ^^^ d, 0x6ed9eba1)
      | 2 => ((b &&& c) ||| (b &&& d) ||| (c &&& d), 0x8f1bbcdc)
      | _ => (b ^^^ c ^^^ d, 0xca62c1d6)
    [rotateLeft a 5 + mixed + e + constant + words.getD round 0, a, rotateLeft b 30, c, d]
  | state => state

/-- The SHA-1 digest. -/
def sha1 (text : ByteText) : List Nat :=
  let next (words : Array UInt32) : UInt32 :=
    rotateLeft (back words 3 ^^^ back words 8 ^^^ back words 14 ^^^ back words 16) 1
  let step (state : State) (block : List Nat) : State :=
    let words := extended next 64 (wordsOf block)
    addState state ((List.range 80).foldl (sha1Round words) state)
  let state := (blocks 64 8 false text).foldl step firstState
  (state.map fun word => toBytes 4 word.toNat).flatten

/-- A round of SHA-256. -/
def sha256Round (words : Array UInt32) (state : State) (round : Nat) : State :=
  match state with
  | [a, b, c, d, e, f, g, h] =>
    let low := rotateRight e 6 ^^^ rotateRight e 11 ^^^ rotateRight e 25
    let choice := (e &&& f) ^^^ (~~~e &&& g)
    let first := h + low + choice + narrowConstants.getD round 0 + words.getD round 0
    let high := rotateRight a 2 ^^^ rotateRight a 13 ^^^ rotateRight a 22
    let majority := (a &&& b) ^^^ (a &&& c) ^^^ (b &&& c)
    [first + high + majority, a, b, c, d + first, e, f, g]
  | state => state

/-- The SHA-256 digest from a first state. -/
def sha256From (first : State) (text : ByteText) : List Nat :=
  let next (words : Array UInt32) : UInt32 :=
    let near := back words 2
    let far := back words 15
    (rotateRight near 17 ^^^ rotateRight near 19 ^^^ (near >>> 10)) + back words 7
      + (rotateRight far 7 ^^^ rotateRight far 18 ^^^ (far >>> 3)) + back words 16
  let step (state : State) (block : List Nat) : State :=
    let words := extended next 48 (wordsOf block)
    addState state ((List.range 64).foldl (sha256Round words) state)
  let state := (blocks 64 8 false text).foldl step first
  (state.map fun word => toBytes 4 word.toNat).flatten

/-- The SHA-256 digest. -/
def sha256 (text : ByteText) : List Nat :=
  sha256From ((squareRoots (primes.take 8)).map fun n => UInt32.ofNat (n / Nat.pow 2 32)) text

/-- The SHA-224 digest. -/
def sha224 (text : ByteText) : List Nat :=
  (sha256From ((squareRoots ((primes.drop 8).take 8)).map fun n =>
    UInt32.ofNat (n % Nat.pow 2 32)) text).take 28

/-! ## Words of sixty-four bits -/

/-- A state of words of sixty-four bits. -/
abbrev WideState := List UInt64

/-- A word with its bits moved around to the right. -/
def turn (word : UInt64) (count : Nat) : UInt64 :=
  (word >>> UInt64.ofNat count) ||| (word <<< UInt64.ofNat (64 - count))

/-- The word so many places before the end. -/
def wideBack (words : Array UInt64) (count : Nat) : UInt64 := words.getD (words.size - count) 0

/-- Further words after those of a block.  Each step adds a word. -/
def wideExtended : Nat → Array UInt64 → Array UInt64
  | 0, words => words
  | count + 1, words =>
    let near := wideBack words 2
    let far := wideBack words 15
    wideExtended count (words.push
      ((turn near 19 ^^^ turn near 61 ^^^ (near >>> 6)) + wideBack words 7
        + (turn far 1 ^^^ turn far 8 ^^^ (far >>> 7)) + wideBack words 16))

/-- A round of SHA-512. -/
def sha512Round (words : Array UInt64) (state : WideState) (round : Nat) : WideState :=
  match state with
  | [a, b, c, d, e, f, g, h] =>
    let low := turn e 14 ^^^ turn e 18 ^^^ turn e 41
    let choice := (e &&& f) ^^^ (~~~e &&& g)
    let first := h + low + choice + wideConstants.getD round 0 + words.getD round 0
    let high := turn a 28 ^^^ turn a 34 ^^^ turn a 39
    let majority := (a &&& b) ^^^ (a &&& c) ^^^ (b &&& c)
    [first + high + majority, a, b, c, d + first, e, f, g]
  | state => state

/-- The SHA-512 digest from a first state. -/
def sha512From (first : List Nat) (text : ByteText) : List Nat :=
  let step (state : WideState) (block : List Nat) : WideState :=
    let words := ((pieces 8 block).map fun bytes => UInt64.ofNat (ofBytes bytes)).toArray
    List.zipWith (· + ·) state
      ((List.range 80).foldl (sha512Round (wideExtended 64 words)) state)
  let state := (blocks 128 16 false text).foldl step (first.map UInt64.ofNat)
  (state.map fun word => toBytes 8 word.toNat).flatten

/-- The SHA-512 digest. -/
def sha512 (text : ByteText) : List Nat := sha512From (squareRoots (primes.take 8)) text

/-- The SHA-384 digest. -/
def sha384 (text : ByteText) : List Nat :=
  (sha512From (squareRoots ((primes.drop 8).take 8)) text).take 48

/-! ## Sums of bytes -/

/-- The remainder of bytes under a polynomial of degree thirty-two, where the first bit of a byte weighs
least and all bits of the remainder are turned around at both ends. -/
def cyclicCheck (bytes : ByteText) : UInt32 :=
  (bytes.foldl (fun (rest : UInt32) c =>
    (List.range 8).foldl (fun (rest : UInt32) _ =>
      if rest &&& 1 = 1 then (rest >>> 1) ^^^ 0xEDB88320 else rest >>> 1)
      (rest ^^^ UInt32.ofNat c.toNat)) 0xFFFFFFFF) ^^^ 0xFFFFFFFF

/-- The remainder of a text and its length under a polynomial of degree thirty-two. -/
def remainder (text : ByteText) : UInt32 :=
  let bytes := bytesOf text
  let length := (toBytes 8 bytes.length).reverse
  let length := length.take (8 - (length.reverse.takeWhile (· = 0)).length)
  let shift (rest : UInt32) (_ : Nat) : UInt32 :=
    if rest &&& 0x80000000 = 0 then rest <<< 1 else (rest <<< 1) ^^^ 0x04c11db7
  let step (rest : UInt32) (byte : Nat) : UInt32 :=
    (List.range 8).foldl shift (rest ^^^ (UInt32.ofNat byte <<< 24))
  ~~~((bytes ++ length).foldl step 0)

/-- The sum of bytes where the sum so far is turned before each one. -/
def turnedSum (text : ByteText) : Nat :=
  (bytesOf text).foldl (fun sum byte => (sum / 2 + sum % 2 * 32768 + byte) % 65536) 0

/-- The sum of bytes, folded into sixteen bits. -/
def plainSum (text : ByteText) : Nat :=
  let sum := ByteText.total (bytesOf text) % Nat.pow 2 32
  let sum := sum % 65536 + sum / 65536
  sum % 65536 + sum / 65536

end Digest

end SchemaDocs.Shell

/-!
## Digests of any length

A digest whose length can be chosen, up to sixty-four bytes.  Every block is mixed into a square of
words, along its columns and then along its diagonals.
-/

namespace SchemaDocs.Shell

namespace Digest

/-- The words of a block, where the byte of a word that weighs least stands first. -/
def wideWordsOf (block : List Nat) : Array UInt64 :=
  ((pieces 8 block).map fun bytes => UInt64.ofNat (ofBytes bytes.reverse)).toArray

/-- The order in which the words of a block are mixed in, for each of ten rounds. -/
def blakeOrders : Array (List Nat) :=
  #[[0, 1, 2, 3, 4, 5, 6, 7, 8, 9, 10, 11, 12, 13, 14, 15],
    [14, 10, 4, 8, 9, 15, 13, 6, 1, 12, 0, 2, 11, 7, 5, 3],
    [11, 8, 12, 0, 5, 2, 15, 13, 10, 14, 3, 6, 7, 1, 9, 4],
    [7, 9, 3, 1, 13, 12, 11, 14, 2, 6, 5, 10, 4, 0, 15, 8],
    [9, 0, 5, 7, 2, 4, 10, 15, 14, 1, 11, 12, 6, 8, 3, 13],
    [2, 12, 6, 10, 0, 11, 8, 3, 4, 13, 7, 5, 15, 14, 1, 9],
    [12, 5, 1, 15, 14, 13, 4, 10, 0, 7, 6, 3, 9, 2, 8, 11],
    [13, 11, 7, 14, 12, 1, 3, 9, 5, 0, 15, 4, 8, 6, 2, 10],
    [6, 15, 14, 9, 11, 3, 0, 8, 12, 2, 13, 7, 1, 4, 10, 5],
    [10, 2, 8, 4, 7, 6, 1, 5, 15, 11, 9, 14, 3, 12, 13, 0]]

/-- The places of the square that are mixed with each other: its columns and its diagonals. -/
def blakeLines : List (Nat × Nat × Nat × Nat) :=
  [(0, 4, 8, 12), (1, 5, 9, 13), (2, 6, 10, 14), (3, 7, 11, 15),
   (0, 5, 10, 15), (1, 6, 11, 12), (2, 7, 8, 13), (3, 4, 9, 14)]

/-- The square after two words were mixed into a column or a diagonal. -/
def blakeMix (square : Array UInt64) (line : Nat × Nat × Nat × Nat) (x y : UInt64) :
    Array UInt64 :=
  let (i, j, k, l) := line
  let (a, b, c, d) := (square.getD i 0, square.getD j 0, square.getD k 0, square.getD l 0)
  let a := a + b + x
  let d := turn (d ^^^ a) 32
  let c := c + d
  let b := turn (b ^^^ c) 24
  let a := a + b + y
  let d := turn (d ^^^ a) 16
  let c := c + d
  let b := turn (b ^^^ c) 63
  (((square.setIfInBounds i a).setIfInBounds j b).setIfInBounds k c).setIfInBounds l d

/-- The square after a round. -/
def blakeRound (words square : Array UInt64) (round : Nat) : Array UInt64 :=
  let order := ((blakeOrders.getD (round % 10) []).map fun place => words.getD place 0).toArray
  blakeLines.zipIdx.foldl (fun square (line, place) =>
    blakeMix square line (order.getD (2 * place) 0) (order.getD (2 * place + 1) 0)) square

/-- The words that the square begins with. -/
def blakeStart : List UInt64 := (squareRoots (primes.take 8)).map UInt64.ofNat

/-- The state after a block, with the number of bytes so far, and whether it is the last one. -/
def blakeBlock (state : List UInt64) (count : Nat) (isLast : Bool) (block : List Nat) :
    List UInt64 :=
  let changes : List UInt64 :=
    [0, 0, 0, 0, UInt64.ofNat count, UInt64.ofNat (count / Nat.pow 2 64),
      if isLast then 0xffffffffffffffff else 0, 0]
  let square := (state ++ List.zipWith (· ^^^ ·) blakeStart changes).toArray
  let mixed := ((List.range 12).foldl (blakeRound (wideWordsOf block)) square).toList
  List.zipWith (· ^^^ ·) state (List.zipWith (· ^^^ ·) (mixed.take 8) (mixed.drop 8))

/-- The digest of a text in so many bytes, at most sixty-four. -/
def blake (size : Nat) (text : ByteText) : List Nat :=
  let first :=
    match blakeStart with
    | word :: words => (word ^^^ 0x01010000 ^^^ UInt64.ofNat size) :: words
    | [] => []
  let bytes := bytesOf text
  let blocks := if bytes.isEmpty then [[]] else pieces 128 bytes
  let (state, _) := blocks.foldl (fun ((state, count) : List UInt64 × Nat) block =>
    let count := count + block.length
    let filled := block ++ List.replicate (128 - block.length) 0
    (blakeBlock state count (count = bytes.length) filled, count)) (first, 0)
  ((state.map fun word => (toBytes 8 word.toNat).reverse).flatten).take size

end Digest

end SchemaDocs.Shell
