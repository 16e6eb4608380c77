import Conformance.Host.Chars

/-!
# Letters

Texts of the host are bytes, and many programs look at them as letters: each letter is written by
one to four bytes in UTF-8. A byte that takes part in no letter stands by itself.
-/
namespace Conformance.Host

/-- A letter with the bytes that write it, or a byte that writes none. -/
structure Letter where
  bytes : Chars
  char? : Option Char

namespace Letter

/-- The lead byte of a letter: how many bytes follow it, the part of the number that it gives, and
the least number that is written with as many bytes. -/
def lead? (n : Nat) : Option (Nat × Nat × Nat) :=
  if n < 0x80 then some (0, n, 0)
  else if 0xc0 ≤ n && n < 0xe0 then some (1, n - 0xc0, 0x80)
  else if 0xe0 ≤ n && n < 0xf0 then some (2, n - 0xe0, 0x800)
  else if 0xf0 ≤ n && n < 0xf8 then some (3, n - 0xf0, 0x10000)
  else none

/-- The character that a lead byte begins, with the number of bytes that follow it. -/
def charAt? (c : Char) (s : Chars) : Option (Char × Nat) := do
  let (count, start, least) ← lead? c.toNat
  let tail := s.take count
  if tail.length < count || tail.any (fun c => c.toNat / 64 != 2) then none
  else
    let n := tail.foldl (fun n c => 64 * n + c.toNat % 64) start
    if n < least then none
    else if h : n.isValidChar then some (Char.ofNatAux n h, count)
    else none

/-- The first letter of a text. -/
def ofStart (c : Char) (s : Chars) : Letter :=
  match charAt? c s with
  | some (x, count) => { bytes := c :: s.take count, char? := some x }
  | none => { bytes := [c], char? := none }

/-- Whether a character is shown as it is. -/
def shows (c : Char) : Bool :=
  let n := c.toNat
  !(n < 0x20 || (0x7f ≤ n && n < 0xa0) || n == 0x2028 || n == 0x2029 || 0xfffe ≤ n % 0x10000)

def isShown (l : Letter) : Bool :=
  l.char?.any shows

end Letter

namespace Chars

/-- The letters of a text. -/
def letters : Chars → List Letter
  | [] => []
  | c :: s =>
    if c.toNat < 0x80 then { bytes := [c], char? := some c } :: letters s
    else
      let l := Letter.ofStart c s
      l :: letters (s.drop (l.bytes.length - 1))
termination_by s => s.length
decreasing_by
  · simp
  · simp only [List.length_drop, List.length_cons]
    omega

/-! ## Letters as characters -/

/-- The letters beyond ASCII whose numbers are those of bytes begin here. -/
def lateBlock : Nat := 0x10ff00

/-- The character that stands for a letter where letters are characters. -/
def ofLetter (l : Letter) : Char :=
  match l.char? with
  | none => l.bytes.head?.getD '\x00'
  | some c => if c.toNat < 0x80 || 0x100 ≤ c.toNat then c else Char.ofNat (lateBlock + c.toNat)

/-- The number of the letter that a character stands for, unless that is a byte. -/
def letterNumber? (c : Char) : Option Nat :=
  let n := c.toNat
  if n < 0x80 then some n
  else if n < 0x100 then none
  else if lateBlock ≤ n then some (n - lateBlock)
  else some n

/-- Whether a character stands for a byte that takes part in no letter. -/
def isStray (c : Char) : Bool :=
  (letterNumber? c).isNone

/-- A text with each letter as one character. A byte that takes part in no letter stays as it is. -/
def joined (s : Chars) : Chars :=
  if s.all (·.toNat < 0x80) then s else (letters s).map ofLetter

/-- The bytes of a text whose letters are characters. -/
def spelled (s : Chars) : Chars :=
  if s.all (·.toNat < 0x100) then s
  else s.flatMap fun c =>
    match letterNumber? c with
    | none => [c]
    | some n => ofText (String.ofList [Char.ofNat n])

end Chars

namespace Letter

/-! ## Kinds of letters -/

/-- First and last of ranges of letters that words are made of, beyond ASCII. -/
def wordRanges : List (Nat × Nat) :=
  [(170, 170), (181, 181), (186, 186), (192, 214), (216, 246), (248, 705), (710, 721), (736, 740),
    (748, 748), (750, 750), (880, 884), (886, 893), (895, 895), (902, 902), (904, 1013),
    (1015, 1153), (1162, 1369), (1376, 1416), (1488, 1522), (1568, 1610), (1646, 1647),
    (1649, 1747), (1749, 1749), (1765, 1766), (1774, 1788), (1808, 1808), (1810, 1839),
    (1869, 1957), (1969, 2026), (2308, 2361), (2392, 2401), (2406, 2415), (2417, 2432),
    (2437, 2489), (2565, 2617), (2693, 2745), (2821, 2873), (2947, 3001), (3077, 3129),
    (3205, 3257), (3332, 3386), (3585, 3632), (3648, 3654), (3664, 3673), (3713, 3760),
    (3904, 3948), (4096, 4138), (4256, 4346), (4348, 4954), (5024, 5117), (5121, 5740),
    (6016, 6067), (6176, 6276), (7680, 8124), (8126, 8126), (8130, 8140), (8144, 8155),
    (8160, 8172), (8178, 8188), (8305, 8305), (8319, 8319), (8336, 8348), (8450, 8450),
    (8455, 8455), (8458, 8467), (8469, 8469), (8473, 8477), (8484, 8484), (8486, 8486),
    (8488, 8488), (8490, 8493), (8495, 8505), (8508, 8511), (8517, 8521), (8526, 8526),
    (8544, 8584), (11264, 11492), (11520, 11631), (12293, 12295), (12321, 12329), (12337, 12341),
    (12344, 12348), (12353, 12438), (12445, 12447), (12449, 12538), (12540, 12686),
    (12704, 12735), (12784, 12799), (13312, 19903), (19968, 42124), (43264, 43301),
    (43968, 44002), (44016, 55291), (63744, 64285), (64298, 64433), (64467, 64829),
    (65136, 65276), (65296, 65305), (65313, 65338), (65345, 65370), (65382, 65500),
    (119808, 120831), (131072, 195101)]

/-- Whether a letter beyond ASCII makes words. -/
def makesWords (n : Nat) : Bool :=
  wordRanges.any fun (low, high) => low ≤ n && n ≤ high

/-- The letters whose capitals come a fixed number before them: first and last, and how far. -/
def capitalRanges : List (Nat × Nat × Nat) :=
  [(0xe0, 0xf6, 32), (0xf8, 0xfe, 32), (0x3b1, 0x3c1, 32), (0x3c3, 0x3cb, 32), (0x3ac, 0x3ac, 38),
    (0x3ad, 0x3af, 37), (0x3cc, 0x3cc, 64), (0x3cd, 0x3ce, 63), (0x430, 0x44f, 32),
    (0x450, 0x45f, 80), (0x561, 0x586, 48)]

/-- Ranges in which a capital stands before each small letter: first and last. -/
def pairRanges : List (Nat × Nat) :=
  [(0x100, 0x12f), (0x132, 0x137), (0x139, 0x148), (0x14a, 0x177), (0x179, 0x17e), (0x1cd, 0x1dc),
    (0x1de, 0x1ef), (0x1f8, 0x21f), (0x222, 0x233), (0x3d8, 0x3ef), (0x460, 0x481),
    (0x48a, 0x4bf), (0x4c1, 0x4ce), (0x4d0, 0x52f), (0x1e00, 0x1e95), (0x1ea0, 0x1eff)]

/-- The capital of a small letter beyond ASCII. -/
def capital? (n : Nat) : Option Nat :=
  if n = 0xff then some 0x178
  else
    match capitalRanges.find? fun (low, high, _) => low ≤ n && n ≤ high with
    | some (_, _, before) => some (n - before)
    | none =>
      match pairRanges.find? fun (low, high) => low ≤ n && n ≤ high with
      | some (low, _) => if (n - low) % 2 = 1 then some (n - 1) else none
      | none => none

/-- The small letter of a capital beyond ASCII. -/
def small? (n : Nat) : Option Nat :=
  if n = 0x178 then some 0xff
  else
    match capitalRanges.find? fun (low, high, before) => low ≤ n + before && n + before ≤ high with
    | some (_, _, before) => some (n + before)
    | none =>
      match pairRanges.find? fun (low, high) => low ≤ n && n ≤ high with
      | some (low, _) => if (n - low) % 2 = 0 then some (n + 1) else none
      | none => none

/-- Ranges of letters that take two columns. -/
def wideRanges : List (Nat × Nat) :=
  [(0x1100, 0x115f), (0x231a, 0x231b), (0x2329, 0x232a), (0x23e9, 0x23ec), (0x23f0, 0x23f0),
    (0x23f3, 0x23f3), (0x25fd, 0x25fe), (0x2614, 0x2615), (0x2648, 0x2653), (0x267f, 0x267f),
    (0x2693, 0x2693), (0x26a1, 0x26a1), (0x26aa, 0x26ab), (0x26bd, 0x26be), (0x26c4, 0x26c5),
    (0x26ce, 0x26ce), (0x26d4, 0x26d4), (0x26ea, 0x26ea), (0x26f2, 0x26f3), (0x26f5, 0x26f5),
    (0x26fa, 0x26fa), (0x26fd, 0x26fd), (0x2705, 0x2705), (0x270a, 0x270b), (0x2728, 0x2728),
    (0x274c, 0x274c), (0x274e, 0x274e), (0x2753, 0x2755), (0x2757, 0x2757), (0x2795, 0x2797),
    (0x27b0, 0x27b0), (0x27bf, 0x27bf), (0x2b1b, 0x2b1c), (0x2b50, 0x2b50), (0x2b55, 0x2b55),
    (0x2e80, 0x303e), (0x3041, 0x4dbf), (0x4e00, 0xa4cf), (0xa960, 0xa97f), (0xac00, 0xd7a3),
    (0xf900, 0xfaff), (0xfe10, 0xfe19), (0xfe30, 0xfe6f), (0xff01, 0xff60), (0xffe0, 0xffe6),
    (0x1f300, 0x1f320), (0x1f32d, 0x1f335), (0x1f337, 0x1f37c), (0x1f37e, 0x1f393),
    (0x1f3a0, 0x1f3ca), (0x1f3cf, 0x1f3d3), (0x1f3e0, 0x1f3f0), (0x1f3f4, 0x1f3f4),
    (0x1f3f8, 0x1f43e), (0x1f440, 0x1f440), (0x1f442, 0x1f4fc), (0x1f4ff, 0x1f53d),
    (0x1f54b, 0x1f54e), (0x1f550, 0x1f567), (0x1f57a, 0x1f57a), (0x1f595, 0x1f596),
    (0x1f5a4, 0x1f5a4), (0x1f5fb, 0x1f64f), (0x1f680, 0x1f6c5), (0x1f6cc, 0x1f6cc),
    (0x1f6d0, 0x1f6d2), (0x1f6d5, 0x1f6d7), (0x1f6eb, 0x1f6ec), (0x1f6f4, 0x1f6fc),
    (0x1f7e0, 0x1f7eb), (0x1f90c, 0x1f93a), (0x1f93c, 0x1f945), (0x1f947, 0x1f9ff),
    (0x1fa70, 0x1faff), (0x20000, 0x3fffd)]

/-- Ranges of letters that take no column: they are put on the letter before. -/
def markRanges : List (Nat × Nat) :=
  [(0x300, 0x36f), (0x483, 0x489), (0x591, 0x5bd), (0x5bf, 0x5bf), (0x5c1, 0x5c2), (0x5c4, 0x5c5),
    (0x610, 0x61a), (0x64b, 0x65f), (0x670, 0x670), (0x6d6, 0x6dc), (0x6df, 0x6e4),
    (0x200b, 0x200f), (0x202a, 0x202e), (0x2060, 0x2064), (0x20d0, 0x20f0), (0xfe00, 0xfe0f),
    (0xfe20, 0xfe2f), (0xfeff, 0xfeff), (0xe0100, 0xe01ef)]

/-- Whether a letter parts words. -/
def partsWords (l : Letter) : Bool :=
  l.char?.any fun c =>
    let n := c.toNat
    n == 0x20 || (9 ≤ n && n ≤ 13) || n == 0xa0 || n == 0x1680 || (0x2000 ≤ n && n ≤ 0x200a) ||
      n == 0x202f || n == 0x205f || n == 0x2060 || n == 0x3000

/-- How many columns a letter takes; nothing for one that cannot be shown. -/
def width (l : Letter) : Nat :=
  match l.char? with
  | none => 0
  | some c =>
    if !shows c then 0
    else
      let inside (ranges : List (Nat × Nat)) : Bool :=
        ranges.any fun (low, high) => low ≤ c.toNat && c.toNat ≤ high
      if c.toNat < 0x300 then 1
      else if inside markRanges then 0
      else if inside wideRanges then 2
      else 1

end Letter

/-- How many columns a text takes. -/
def Chars.columns (s : Chars) : Nat :=
  if s.all (fun c => 0x20 ≤ c.toNat && c.toNat < 0x7f) then s.length
  else (letters s).foldl (fun n l => n + l.width) 0

/-! ## Case -/

/-- The capital of a letter, as characters. -/
def Chars.raised (c : Char) : Char :=
  if c.toNat < 0x100 then c.toUpper
  else
    match (letterNumber? c).bind Letter.capital? with
    | some n => ofLetter { bytes := [], char? := some (Char.ofNat n) }
    | none => c

/-- The small letter of a letter, as characters. -/
def Chars.lowered (c : Char) : Char :=
  if c.toNat < 0x100 then c.toLower
  else
    match (letterNumber? c).bind Letter.small? with
    | some n => ofLetter { bytes := [], char? := some (Char.ofNat n) }
    | none => c

end Conformance.Host
