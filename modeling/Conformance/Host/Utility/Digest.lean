import Conformance.Host.Utility.Streams

/-!
# Digests

A digest is a number of fixed length that is made from all bytes of an input: the text is filled up
to whole blocks of sixteen words, and the words of each block are mixed into the state that the
block before has left. A checksum is a shorter number of the same kind.

Digests of 384 and 512 bits are made of words of 64 bits.
-/
namespace Conformance.Host.Utility

/-! ## Words -/

/-- With the bits of a word turned to the left. -/
def turnLeft (n : UInt32) (x : UInt32) : UInt32 :=
  (x <<< n) ||| (x >>> (32 - n))

def turnRight (n : UInt32) (x : UInt32) : UInt32 :=
  turnLeft (32 - n) x

/-- The four bytes of a word, the most significant first. -/
def wordBytes (x : UInt32) : List Nat :=
  [x.toNat / 16777216, x.toNat / 65536 % 256, x.toNat / 256 % 256, x.toNat % 256]

/-- The words of a text, four bytes each. -/
def wordsOf (bigFirst : Bool) : Chars → List UInt32
  | a :: b :: c :: d :: s =>
    let bytes := [a, b, c, d].map Char.toNat
    let ordered := if bigFirst then bytes else bytes.reverse
    UInt32.ofNat (ordered.foldl (fun n b => 256 * n + b) 0) :: wordsOf bigFirst s
  | _ => []

/-- A text filled up to whole blocks: a mark, zeros, and its length in bits. -/
def filledUp (bigFirst : Bool) (s : Chars) : Chars :=
  let zeros := (119 - s.length % 64) % 64
  let bits := 8 * s.length
  let bytes := (List.range 8).map fun i => Char.ofNat (bits / Nat.pow 256 i % 256)
  s ++ Char.ofNat 128 :: List.replicate zeros '\x00' ++ (if bigFirst then bytes.reverse else bytes)

/-- Words by sixteen. -/
def blocksOf : (fuel : Nat) → List UInt32 → List (List UInt32)
  | 0, _ | _, [] => []
  | fuel + 1, ws => ws.take 16 :: blocksOf fuel (ws.drop 16)

/-- The bytes of a state in digits. -/
def digestShown (bigFirst : Bool) (state : List UInt32) : Chars :=
  state.flatMap fun w =>
    (if bigFirst then wordBytes w else (wordBytes w).reverse).flatMap fun b =>
      let digits := Chars.digits 16 b
      if b < 16 then '0' :: digits else digits

/-- The digest of a text: `mix` takes a block into the state. -/
def digest (bigFirst : Bool) (start : List UInt32)
    (mix : List UInt32 → List UInt32 → List UInt32) (s : Chars) : Chars :=
  let words := wordsOf bigFirst (filledUp bigFirst s)
  digestShown bigFirst ((blocksOf words.length words).foldl mix start)

/-- The sums of words at the same places. -/
def addWords (a b : List UInt32) : List UInt32 :=
  List.zipWith (· + ·) a b

/-! ## Roots -/

def isPrime (n : Nat) : Bool :=
  2 ≤ n && (List.range n).all fun d => d < 2 || n % d != 0

/-- The first 64 primes. -/
def primes : List Nat :=
  (List.range 312).filter isPrime

/-- The largest number below `2 ^ bits` of which a power is no more than `n`. -/
def rootBelow (power n : Nat) : (bits : Nat) → Nat
  | 0 => 0
  | bits + 1 =>
    let rec go : Nat → Nat → Nat
      | 0, root => root
      | b + 1, root =>
        let larger := root + Nat.pow 2 b
        go b (if Nat.pow larger power ≤ n then larger else root)
    go (bits + 1) 0

/-- The first 32 bits behind the point of a root. -/
def rootBits (power n : Nat) : UInt32 :=
  UInt32.ofNat (rootBelow power (n * Nat.pow 2 (32 * power)) 40)

/-! ## Ways to mix -/

/-- The words for 64 rounds, made from those of a block. -/
def schedule256 (block : List UInt32) : List UInt32 :=
  let next (ws : Array UInt32) (_ : Nat) : Array UInt32 :=
    let back (i : Nat) : UInt32 := ws.getD (ws.size - i) 0
    let a := back 15
    let b := back 2
    ws.push (back 16 + (turnRight 7 a ^^^ turnRight 18 a ^^^ (a >>> 3)) + back 7 +
      (turnRight 17 b ^^^ turnRight 19 b ^^^ (b >>> 10)))
  ((List.range 48).foldl next block.toArray).toList

/-- The constants of the rounds. -/
def roundConstants256 : List UInt32 :=
  primes.map (rootBits 3)

def round256 (state : List UInt32) (kw : UInt32 × UInt32) : List UInt32 :=
  match state with
  | [a, b, c, d, e, f, g, h] =>
    let t := h + (turnRight 6 e ^^^ turnRight 11 e ^^^ turnRight 25 e) +
      ((e &&& f) ^^^ (~~~e &&& g)) + kw.1 + kw.2
    let u := (turnRight 2 a ^^^ turnRight 13 a ^^^ turnRight 22 a) +
      ((a &&& b) ^^^ (a &&& c) ^^^ (b &&& c))
    [t + u, a, b, c, d + t, e, f, g]
  | s => s

/-- The digest of eight words that is made from a state. -/
def digest256 (start : List UInt32) (s : Chars) : Chars :=
  digest true start (fun state block =>
    addWords state ((roundConstants256.zip (schedule256 block)).foldl round256 state)) s

def sha256 (s : Chars) : Chars :=
  digest256 ((primes.take 8).map (rootBits 2)) s

/-- The digest of seven words: it starts from what is behind the first 32 bits of roots. -/
def sha224 (s : Chars) : Chars :=
  let later (n : Nat) : UInt32 := UInt32.ofNat (rootBelow 2 (n * Nat.pow 2 128) 72)
  (digest256 (((primes.drop 8).take 8).map later) s).take 56

/-- The words for 80 rounds, made from those of a block. -/
def schedule160 (block : List UInt32) : List UInt32 :=
  let next (ws : Array UInt32) (_ : Nat) : Array UInt32 :=
    let back (i : Nat) : UInt32 := ws.getD (ws.size - i) 0
    ws.push (turnLeft 1 (back 3 ^^^ back 8 ^^^ back 14 ^^^ back 16))
  ((List.range 64).foldl next block.toArray).toList

def round160 (state : List UInt32) (wi : UInt32 × Nat) : List UInt32 :=
  match state with
  | [a, b, c, d, e] =>
    let (f, k) : UInt32 × UInt32 :=
      if wi.2 < 20 then ((b &&& c) ||| (~~~b &&& d), 0x5a827999)
      else if wi.2 < 40 then (b ^^^ c ^^^ d, 0x6ed9eba1)
      else if wi.2 < 60 then ((b &&& c) ||| (b &&& d) ||| (c &&& d), 0x8f1bbcdc)
      else (b ^^^ c ^^^ d, 0xca62c1d6)
    [turnLeft 5 a + f + e + k + wi.1, a, turnLeft 30 b, c, d]
  | s => s

def sha1 (s : Chars) : Chars :=
  digest true [0x67452301, 0xefcdab89, 0x98badcfe, 0x10325476, 0xc3d2e1f0] (fun state block =>
    addWords state ((schedule160 block).zipIdx.foldl round160 state)) s

/-- How far words are turned, by groups of sixteen rounds. -/
def turns128 : List (List UInt32) :=
  [[7, 12, 17, 22], [5, 9, 14, 20], [4, 11, 16, 23], [6, 10, 15, 21]]

/-- The sines of 1 to 64, without their signs, in units of `1 / 2 ^ 32`. -/
def sines : List UInt32 :=
  [0xd76aa478, 0xe8c7b756, 0x242070db, 0xc1bdceee, 0xf57c0faf, 0x4787c62a, 0xa8304613, 0xfd469501,
    0x698098d8, 0x8b44f7af, 0xffff5bb1, 0x895cd7be, 0x6b901122, 0xfd987193, 0xa679438e, 0x49b40821,
    0xf61e2562, 0xc040b340, 0x265e5a51, 0xe9b6c7aa, 0xd62f105d, 0x02441453, 0xd8a1e681, 0xe7d3fbc8,
    0x21e1cde6, 0xc33707d6, 0xf4d50d87, 0x455a14ed, 0xa9e3e905, 0xfcefa3f8, 0x676f02d9, 0x8d2a4c8a,
    0xfffa3942, 0x8771f681, 0x6d9d6122, 0xfde5380c, 0xa4beea44, 0x4bdecfa9, 0xf6bb4b60, 0xbebfbc70,
    0x289b7ec6, 0xeaa127fa, 0xd4ef3085, 0x04881d05, 0xd9d4d039, 0xe6db99e5, 0x1fa27cf8, 0xc4ac5665,
    0xf4292244, 0x432aff97, 0xab9423a7, 0xfc93a039, 0x655b59c3, 0x8f0ccc92, 0xffeff47d, 0x85845dd1,
    0x6fa87e4f, 0xfe2ce6e0, 0xa3014314, 0x4e0811a1, 0xf7537e82, 0xbd3af235, 0x2ad7d2bb, 0xeb86d391]

def round128 (block : Array UInt32) (state : List UInt32) (ki : UInt32 × Nat) : List UInt32 :=
  match state with
  | [a, b, c, d] =>
    let i := ki.2
    let (f, place) : UInt32 × Nat :=
      match i / 16 with
      | 0 => ((b &&& c) ||| (~~~b &&& d), i)
      | 1 => ((d &&& b) ||| (~~~d &&& c), 5 * i + 1)
      | 2 => (b ^^^ c ^^^ d, 3 * i + 5)
      | _ => (c ^^^ (b ||| ~~~d), 7 * i)
    let turn := ((turns128[i / 16]?).bind fun ts => ts[i % 4]?).getD 0
    [d, b + turnLeft turn (a + f + ki.1 + block.getD (place % 16) 0), b, c]
  | s => s

def md5 (s : Chars) : Chars :=
  digest false [0x67452301, 0xefcdab89, 0x98badcfe, 0x10325476] (fun state block =>
    addWords state (sines.zipIdx.foldl (round128 block.toArray) state)) s

/-! ## Remainders -/

/-- A remainder with one more byte behind what was divided. -/
def remainderStep (crc : UInt32) (byte : Nat) : UInt32 :=
  (List.range 8).foldl (fun crc _ =>
    if crc &&& 0x80000000 != 0 then (crc <<< 1) ^^^ 0x04c11db7 else crc <<< 1)
    (crc ^^^ (UInt32.ofNat byte <<< 24))

/-- The bytes of a number, the least significant first. -/
def lengthBytes : (fuel n : Nat) → List Nat
  | 0, _ => []
  | fuel + 1, n => if n = 0 then [] else n % 256 :: lengthBytes fuel (n / 256)

def checksum (s : Chars) : Nat :=
  let bytes := s.map Char.toNat ++ lengthBytes 9 s.length
  (~~~(bytes.foldl remainderStep 0)).toNat

/-- A sum of bytes that is turned before each of them is added. -/
def turnedSum (s : Chars) : Nat :=
  s.foldl (fun n c => (n / 2 + n % 2 * 32768 + c.toNat) % 65536) 0

/-- The sum of bytes, folded to sixteen bits. -/
def foldedSum (s : Chars) : Nat :=
  let sum := s.foldl (fun n c => n + c.toNat) 0
  let folded := sum % 65536 + sum % 4294967296 / 65536
  folded % 65536 + folded / 65536

/-! ## Wide words -/

/-- With the bits of a word turned to the right. -/
def turnWide (n : UInt64) (x : UInt64) : UInt64 :=
  (x >>> n) ||| (x <<< (64 - n))

/-- The words of a text, eight bytes each, the most significant first. -/
def wideWords : (fuel : Nat) → Chars → List UInt64
  | 0, _ | _, [] => []
  | fuel + 1, s =>
    UInt64.ofNat ((s.take 8).foldl (fun n c => 256 * n + c.toNat) 0) :: wideWords fuel (s.drop 8)

/-- A text filled up to whole blocks of 128 bytes. -/
def filledWide (s : Chars) : Chars :=
  let zeros := (239 - s.length % 128) % 128
  let bits := 8 * s.length
  let bytes := (List.range 16).map fun i => Char.ofNat (bits / Nat.pow 256 i % 256)
  s ++ Char.ofNat 128 :: List.replicate zeros '\x00' ++ bytes.reverse

/-- The first 80 primes. -/
def morePrimes : List Nat :=
  (List.range 410).filter isPrime

/-- The first 64 bits behind the point of a root. -/
def wideRootBits (power n : Nat) : UInt64 :=
  UInt64.ofNat (rootBelow power (n * Nat.pow 2 (64 * power)) 72)

/-- The constants of the rounds. -/
def roundConstants512 : List UInt64 :=
  morePrimes.map (wideRootBits 3)

/-- The words for 80 rounds, made from those of a block. -/
def schedule512 (block : List UInt64) : List UInt64 :=
  let next (ws : Array UInt64) (_ : Nat) : Array UInt64 :=
    let back (i : Nat) : UInt64 := ws.getD (ws.size - i) 0
    let a := back 15
    let b := back 2
    ws.push (back 16 + (turnWide 1 a ^^^ turnWide 8 a ^^^ (a >>> 7)) + back 7 +
      (turnWide 19 b ^^^ turnWide 61 b ^^^ (b >>> 6)))
  ((List.range 64).foldl next block.toArray).toList

def round512 (state : List UInt64) (kw : UInt64 × UInt64) : List UInt64 :=
  match state with
  | [a, b, c, d, e, f, g, h] =>
    let t := h + (turnWide 14 e ^^^ turnWide 18 e ^^^ turnWide 41 e) +
      ((e &&& f) ^^^ (~~~e &&& g)) + kw.1 + kw.2
    let u := (turnWide 28 a ^^^ turnWide 34 a ^^^ turnWide 39 a) +
      ((a &&& b) ^^^ (a &&& c) ^^^ (b &&& c))
    [t + u, a, b, c, d + t, e, f, g]
  | s => s

/-- The digest of a text, from a state. -/
def wideDigest (start : List UInt64) (s : Chars) : Chars :=
  let constants := roundConstants512
  let words := wideWords (s.length + 256) (filledWide s)
  let rec blocks : (fuel : Nat) → List UInt64 → List UInt64 → List UInt64
    | 0, state, _ | _, state, [] => state
    | fuel + 1, state, ws =>
      let mixed := (constants.zip (schedule512 (ws.take 16))).foldl round512 state
      blocks fuel (List.zipWith (· + ·) state mixed) (ws.drop 16)
  (blocks words.length start words).flatMap fun w =>
    let digits := Chars.digits 16 w.toNat
    List.replicate (16 - digits.length) '0' ++ digits

def sha512 (s : Chars) : Chars :=
  wideDigest ((morePrimes.take 8).map (wideRootBits 2)) s

def sha384 (s : Chars) : Chars :=
  (wideDigest (((morePrimes.drop 8).take 8).map (wideRootBits 2)) s).take 96

end Conformance.Host.Utility
