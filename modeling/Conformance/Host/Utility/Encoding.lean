import Conformance.Host.Utility.Streams

/-!
# Bytes in sixty-four letters

`base64` writes three bytes as four letters; a mark stands for each byte that is missing from the
last three.
-/
namespace Conformance.Host.Utility

/-! ## Letters -/

/-- The letter for a number below 64. -/
def sixBitLetter (n : Nat) : Char :=
  let letterAt (start : Char) (i : Nat) : Char := Char.ofNat (start.toNat + i)
  if n < 26 then letterAt 'A' n
  else if n < 52 then letterAt 'a' (n - 26)
  else if n < 62 then letterAt '0' (n - 52)
  else if n = 62 then '+' else '/'

/-- The number for a letter. -/
def sixBits? (c : Char) : Option Nat :=
  if c.isUpper then some (c.toNat - 'A'.toNat)
  else if c.isLower then some (c.toNat - 'a'.toNat + 26)
  else if c.isDigit then some (c.toNat - '0'.toNat + 52)
  else if c = '+' then some 62
  else if c = '/' then some 63
  else none

def encodeSixBits : Chars → Chars
  | a :: b :: c :: s =>
    let n := a.toNat * 65536 + b.toNat * 256 + c.toNat
    [sixBitLetter (n / 262144), sixBitLetter (n / 4096 % 64), sixBitLetter (n / 64 % 64),
      sixBitLetter (n % 64)] ++ encodeSixBits s
  | [a, b] =>
    let n := a.toNat * 65536 + b.toNat * 256
    [sixBitLetter (n / 262144), sixBitLetter (n / 4096 % 64), sixBitLetter (n / 64 % 64), '=']
  | [a] =>
    let n := a.toNat * 65536
    [sixBitLetter (n / 262144), sixBitLetter (n / 4096 % 64), '=', '=']
  | [] => []

/-- The bytes of some letters, so many as their bits fill. -/
def bytesOfSixBits (values : List Nat) : Chars :=
  let n := values.foldl (fun n v => 64 * n + v) 0
  match values with
  | [_, _] => [Char.ofNat (n / 16)]
  | [_, _, _] => [Char.ofNat (n / 1024), Char.ofNat (n / 4 % 256)]
  | [_, _, _, _] => [Char.ofNat (n / 65536), Char.ofNat (n / 256 % 256), Char.ofNat (n % 256)]
  | _ => []

/-- The bytes that letters write, and whether all is in order. -/
def decodeSixBits : Chars → Chars × Bool
  | [] => ([], true)
  | a :: b :: c :: d :: s =>
    let values := ([a, b, c, d].takeWhile (· != '=')).mapM sixBits?
    let marks := [a, b, c, d].dropWhile (· != '=')
    match values with
    | some vs =>
      if marks.all (· == '=') && 2 ≤ vs.length then
        let (rest, inOrder) := decodeSixBits s
        (bytesOfSixBits vs ++ rest, inOrder)
      else (bytesOfSixBits vs, false)
    | none =>
      let read := [a, b, c, d].takeWhile fun c => (sixBits? c).isSome
      (bytesOfSixBits (read.filterMap sixBits?), false)
  | s =>
    let read := s.takeWhile fun c => (sixBits? c).isSome
    (bytesOfSixBits (read.filterMap sixBits?), false)

/-- A text in lines of some length. -/
def wrapped (length : Nat) : (fuel : Nat) → Chars → Chars
  | 0, _ | _, [] => []
  | fuel + 1, c :: s =>
    (c :: s).take length ++ '\n' :: wrapped length fuel ((c :: s).drop length)

/-! ## The program -/

def base64 : Program :=
  withOptions
    { letters := txt "di", valued := ['w']
      long := [(txt "decode", 'd'), (txt "ignore-garbage", 'i'), (txt "wrap", 'w')] } 1 fun p => do
    let given := p.value? 'w'
    match (given.map Chars.nat?).getD (some 76), p.operands.drop 1 with
    | none, _ =>
      problem (txt "invalid wrap size: " ++ cited (given.getD []))
      return 1
    | _, extra :: _ => misuse (txt "extra operand " ++ cited extra)
    | some width, [] =>
      let (text, status) ← gather p.operands unreadable
      if status ≠ 0 then return status
      if p.has 'd' then
        let kept := text.filter fun c =>
          c != '\n' && (!p.has 'i' || c == '=' || (sixBits? c).isSome)
        let (bytes, inOrder) := decodeSixBits kept
        emit bytes
        if inOrder then return status
        problem (txt "invalid input")
        return 1
      let letters := encodeSixBits text
      emitOnly (if width = 0 then letters else wrapped width letters.length letters)

end Conformance.Host.Utility
