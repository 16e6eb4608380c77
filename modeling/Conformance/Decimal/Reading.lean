import Conformance.Decimal.Binary

/-!
# Reading numbers

A floating-point number is a sign and then a word for infinity or not-a-number in either case, or
digits with an optional point and an optional exponent, at least one digit outside the exponent.
The value is the nearest double. An integer is an optional sign and digits, inside given bounds.
-/
namespace Conformance.Decimal

def digitValue (c : Char) : Nat :=
  c.toNat - '0'.toNat

def ofDigits (ds : List Char) : Nat :=
  ds.foldl (fun n c => 10 * n + digitValue c) 0

def infinity : Float := 1.0 / 0.0
def notANumber : Float := 0.0 / 0.0

/-- The nearest double to `n · 10 ^ e`. Far outside the range of doubles no power is computed. -/
def nearest (n : Nat) (e : Int) : Float :=
  let size := (Nat.toDigits 10 n).length + e
  if n = 0 then 0.0
  else if 400 < size then infinity
  else if size < -400 then 0.0
  else if 0 ≤ e then Float.ofScientific (n * Nat.pow 10 e.toNat) false 0
  else Float.ofScientific n true (-e).toNat

/-- The exponent after its mark. -/
def exponent? (s : List Char) : Option Int :=
  let (negative, ds) := match s with
    | '-' :: r => (true, r)
    | '+' :: r => (false, r)
    | r => (false, r)
  if ds.isEmpty || !ds.all Char.isDigit then none
  else
    let n : Int := ofDigits ds
    some (if negative then -n else n)

/-- The magnitude written by digits, point and exponent. -/
def magnitude? (s : List Char) : Option Float :=
  let whole := s.takeWhile Char.isDigit
  let rest := s.dropWhile Char.isDigit
  let (part, rest) := match rest with
    | '.' :: r => (r.takeWhile Char.isDigit, r.dropWhile Char.isDigit)
    | r => ([], r)
  let value (e : Int) := nearest (ofDigits (whole ++ part)) (e - part.length)
  if whole.isEmpty && part.isEmpty then none
  else match rest with
    | [] => some (value 0)
    | c :: r => if c = 'e' || c = 'E' then (exponent? r).map value else none

/-- A floating-point number that takes up all of `s`. -/
def float? (s : List Char) : Option Float :=
  let (negative, body) := match s with
    | '-' :: r => (true, r)
    | '+' :: r => (false, r)
    | r => (false, r)
  let word := body.map Char.toLower
  let value :=
    if word = "inf".toList || word = "infinity".toList then some infinity
    else if word = "nan".toList then some notANumber
    else magnitude? body
  value.map fun x => if negative then -x else x

/-- An integer that takes up all of `s`, between the bounds. -/
def integer? (low high : Int) (s : List Char) : Option Int :=
  let (negative, ds) := match s with
    | '-' :: r => (true, r)
    | '+' :: r => (false, r)
    | r => (false, r)
  if ds.isEmpty || !ds.all Char.isDigit then none
  else
    let n : Int := ofDigits ds
    let value := if negative then -n else n
    if low ≤ value ∧ value ≤ high then some value else none

/-- An exit code: a signed integer of 32 bits. -/
def code? (s : List Char) : Option Int :=
  integer? (-0x80000000) 0x7fffffff s

end Conformance.Decimal
