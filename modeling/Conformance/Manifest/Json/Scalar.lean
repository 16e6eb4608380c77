import Conformance.Decimal.Text
import Conformance.Manifest.Json.Cursor
import Conformance.Text.Quoted

/-!
# Strings, numbers and words

A string is read after its opening quote. Read strictly, its escapes have to name characters; a
string that is passed over only has to have escapes of the right form. Numbers keep 64 bits of
their digits and become floating-point numbers beyond that, with a fraction or with an exponent.
-/
namespace Conformance.Manifest.Json

/-- Takes `n` digits of base sixteen; that there are so many bytes is checked before. -/
def hexDigits : (n : Nat) → Reader (Option Nat)
  | 0 => return some 0
  | n + 1 => do
    let digit := (← next).bind Text.hexValue?
    let rest ← hexDigits n
    return digit.bind fun d => rest.map fun r => d * Nat.pow 16 n + r

/-- Takes the four digits of an escape. -/
def hexEscape : Reader Nat := do
  if (← left) < 4 then
    modify fun c => c.rest |> Cursor.skip (fun _ => true) c.position
    fail .endInString
  else
    match ← hexDigits 4 with
    | some n => return n
    | none => fail .invalidEscape

/-- Takes the byte that continues a pair of escapes. -/
def continuePair (c : Char) : Reader Unit := do
  match ← peek with
  | none => fail .endInString
  | some d =>
    advance
    if d != c then fail .brokenPair

/-- The character of an escape by number; the numbers of a pair of surrogates make one. -/
def numberedChar : Reader Char := do
  let n ← hexEscape
  if 0xDC00 ≤ n ∧ n ≤ 0xDFFF then fail .loneSurrogate
  else if 0xD800 ≤ n ∧ n ≤ 0xDBFF then
    continuePair '\\'
    continuePair 'u'
    let m ← hexEscape
    if 0xDC00 ≤ m ∧ m ≤ 0xDFFF then
      return Char.ofNat ((n - 0xD800) * 0x400 + (m - 0xDC00) + 0x10000)
    else fail .loneSurrogate
  else return Char.ofNat n

/-- What an escape of one letter stands for. -/
def letterEscape? (c : Char) : Option UInt8 :=
  match c with
  | '"' => some 0x22
  | '\\' => some 0x5C
  | '/' => some 0x2F
  | 'b' => some 0x08
  | 'f' => some 0x0C
  | 'n' => some 0x0A
  | 'r' => some 0x0D
  | 't' => some 0x09
  | _ => none

/-- The bytes of an escape after its backslash. -/
def escape (strict : Bool) : Reader Bytes := do
  match ← next with
  | none => fail .endInString
  | some 'u' =>
    if strict then return Text.encode (String.singleton (← numberedChar))
    else do
      let _ ← hexEscape
      return []
  | some c =>
    match letterEscape? c with
    | some b => return [b]
    | none => fail .invalidEscape

/-- The bytes of a string up to its closing quote, last first, after those in `read`. -/
def stringFrom (strict : Bool) (read : Bytes) : (steps : Nat) → Reader Bytes
  | 0 => fail .endInString
  | steps + 1 => do
    match ← peek with
    | none => fail .endInString
    | some '"' =>
      advance
      return read
    | some '\\' =>
      advance
      let bytes ← escape strict
      stringFrom strict (bytes.reverse ++ read) steps
    | some c =>
      if c.toNat < 0x20 then
        if strict then failNext .controlCharacter else fail .controlCharacter
      else
        advance
        stringFrom strict (c.toNat.toUInt8 :: read) steps

/-- A string after its opening quote. -/
def string : Reader String := do
  let bytes ← stringFrom true [] ((← left) + 1)
  return Text.decodeLossy bytes.reverse

/-- Passes over a string after its opening quote. -/
def passString : Reader Unit := do
  let _ ← stringFrom false [] ((← left) + 1)

/-- The rest of a word whose first letter was taken. -/
def word : List Char → Reader Unit
  | [] => return ()
  | c :: cs => do
    match ← next with
    | none => fail .endInValue
    | some d => if d = c then word cs else fail .expectedWord

/-! ## Numbers -/

inductive Number
  | integer (n : Int)
  | decimal (x : Float)

def Number.found : Number → Found
  | integer n => .integer n
  | decimal x => .decimal (Decimal.scientific x)

def isDigit (c : Char) : Bool :=
  '0' ≤ c && c ≤ '9'

/-- Takes digits, as their values, at most `steps` of them. -/
def digitsUpTo : (steps : Nat) → Reader (List Nat)
  | 0 => return []
  | steps + 1 => do
    match ← peek with
    | some c =>
      if isDigit c then
        advance
        return (c.toNat - '0'.toNat) :: (← digitsUpTo steps)
      else return []
    | none => return []

def digits : Reader (List Nat) := do
  digitsUpTo (← left)

/-- Appends digits to a number as long as it stays below `bound`; how many were appended comes
second. -/
def gather (bound n : Nat) : List Nat → Nat × Nat
  | [] => (n, 0)
  | d :: ds =>
    if n * 10 + d < bound then
      let (m, taken) := gather bound (n * 10 + d) ds
      (m, taken + 1)
    else (n, 0)

def maxPower : Nat := 308

/-- `f · 10 ^ e`, by one multiplication, or by divisions; none if it is too large. Each round
divides by the largest power. -/
def scale (f : Float) (e : Int) : (rounds : Nat) → Option Float
  | 0 => some f
  | rounds + 1 =>
    if e.natAbs ≤ maxPower then
      let power := Float.ofScientific 1 false e.natAbs
      if 0 ≤ e then
        let x := f * power
        if x.isInf then none else some x
      else some (f / power)
    else if f == 0.0 then some f
    else if 0 ≤ e then none
    else scale (f / Float.ofScientific 1 false maxPower) (e + maxPower) rounds

/-- The number with these parts. -/
def ofParts (positive : Bool) (n : Nat) (e : Int) : Reader Number := do
  match scale (Float.ofNat n) e (e.natAbs / maxPower + 1) with
  | some f => return .decimal (if positive then f else -f)
  | none => fail .numberTooLarge

/-- The largest exponent that is kept. -/
def maxExponent : Nat := 0x7fffffff

/-- The digits of an exponent after `e`; none when they exceed what is kept. -/
def exponentFrom (e : Nat) : (steps : Nat) → Reader (Option Nat)
  | 0 => return some e
  | steps + 1 => do
    match ← peek with
    | some c =>
      if isDigit c then
        advance
        let e' := e * 10 + (c.toNat - '0'.toNat)
        if maxExponent < e' then return none else exponentFrom e' steps
      else return some e
    | none => return some e

/-- Takes the sign of an exponent; true unless it is a minus. -/
def exponentSign : Reader Bool := do
  match ← peek with
  | some '+' =>
    advance
    return true
  | some '-' =>
    advance
    return false
  | _ => return true

/-- Takes an exponent from its mark on, and gives the number `n · 10 ^ e` times its power. -/
def exponent (positive : Bool) (n : Nat) (e : Int) : Reader Number := do
  advance
  let up ← exponentSign
  match ← next with
  | none => fail .endInValue
  | some c =>
    if !isDigit c then fail .invalidNumber
    else
      match ← exponentFrom (c.toNat - '0'.toNat) (← left) with
      | some x =>
        let bound : Int := maxExponent
        ofParts positive n (if up then min (e + x) bound else max (e - x) (-bound - 1))
      | none =>
        if n ≠ 0 ∧ up then fail .numberTooLarge
        else
          let _ ← digits
          return .decimal (if positive then 0.0 else -0.0)

def isExponentMark (c : Option Char) : Bool :=
  c == some 'e' || c == some 'E'

/-- Takes a fraction from its point on. -/
def fraction (positive : Bool) (n : Nat) (e : Int) : Reader Number := do
  advance
  let ds ← digits
  if ds.isEmpty then
    match ← peek with
    | some _ => failNext .invalidNumber
    | none => failNext .endInValue
  else
    let (m, taken) := gather 0x10000000000000000 n ds
    let e' := e - taken
    if isExponentMark (← peek) then exponent positive m e' else ofParts positive m e'

/-- What follows the digits before the point: `n`, and `dropped` more that did not fit. -/
def numberTail (positive : Bool) (n dropped : Nat) : Reader Number := do
  let c ← peek
  if c = some '.' then fraction positive n dropped
  else if isExponentMark c then exponent positive n dropped
  else if dropped ≠ 0 then ofParts positive n dropped
  else if positive then return .integer n
  else if n = 0 ∨ 0x8000000000000000 < n then return .decimal (-(Float.ofNat n))
  else return .integer (-n)

/-- A number after its sign. -/
def number (positive : Bool) : Reader Number := do
  match ← next with
  | none => fail .endInValue
  | some c =>
    if c = '0' then
      match ← peek with
      | some d => if isDigit d then failNext .invalidNumber else numberTail positive 0 0
      | none => numberTail positive 0 0
    else if isDigit c then
      let ds ← digits
      let (n, taken) := gather 0x10000000000000000 (c.toNat - '0'.toNat) ds
      numberTail positive n (ds.length - taken)
    else fail .invalidNumber

/-- Passes over an exponent from its mark on. -/
def passExponent : Reader Unit := do
  advance
  let _ ← exponentSign
  match ← next with
  | none => fail .invalidNumber
  | some c =>
    if isDigit c then
      let _ ← digits
    else fail .invalidNumber

/-- Passes over a fraction from its point on. -/
def passFraction : Reader Unit := do
  advance
  let ds ← digits
  if ds.isEmpty then failNext .invalidNumber
  else if isExponentMark (← peek) then passExponent

/-- Passes over a number after its sign. -/
def passNumber : Reader Unit := do
  match ← next with
  | none => fail .invalidNumber
  | some c =>
    if c = '0' then
      if ((← peek).map isDigit).getD false then failNext .invalidNumber
    else if isDigit c then
      let _ ← digits
    else fail .invalidNumber
    let d ← peek
    if d = some '.' then passFraction
    else if isExponentMark d then passExponent

end Conformance.Manifest.Json
