import Conformance.Decimal.Binary

/-!
# Numbers as text

Every finite number owns the interval of reals that round to it, its ends included when the
significand is even. Among the decimal grids with 1, 2, … 17 digits the first one with a point in
that interval is taken, and on it the point nearest to the number: these are the fewest digits that
read back.

Three layouts of a floating-point number. `plain` writes the shortest decimal without an exponent;
`pointed` is `plain` with a point in every finite number; `scientific` leaves positional notation
outside of 10^-5 … 10^16. `fixed` writes a given number of places, a half going to the even
neighbour.
-/
namespace Conformance.Decimal

/-! ## The fewest digits that read back -/

/-- `digits · 10 ^ power`. -/
structure Scaled where
  digits : Nat
  power : Int
deriving Repr, DecidableEq

def digitCount (n : Nat) : Nat :=
  (Nat.toDigits 10 n).length

/-- The place of the first digit: `10 ^ leadingPower r ≤ r < 10 ^ (leadingPower r + 1)`. -/
def leadingPower (r : Ratio) : Int :=
  if r.den ≤ r.num then digitCount (r.num / r.den) - 1
  else -(digitCount ((r.den - 1) / r.num) : Int)

/-- The reals that round to a number, on a common denominator, and whether the ends belong. -/
structure Interval where
  low : Nat
  value : Nat
  high : Nat
  den : Nat
  closed : Bool

def Interval.ofBinary (b : Binary) : Interval :=
  let m := b.significand
  let unit := Ratio.scaled 1 (b.exponent - 2)
  let below := if b.fraction = 0 ∧ 1 < b.field then 1 else 2
  { low := (4 * m - below) * unit.num, value := 4 * m * unit.num, high := (4 * m + 2) * unit.num,
    den := unit.den, closed := m % 2 == 0 }

/-- Whether `c · 10 ^ k` lies in the interval. -/
def Interval.holds (i : Interval) (k : Int) (c : Nat) : Bool :=
  let low := Ratio.perPowerOfTen ⟨i.low, i.den⟩ k
  let high := Ratio.perPowerOfTen ⟨i.high, i.den⟩ k
  if i.closed then low.num ≤ c * low.den && c * high.den ≤ high.num
  else low.num < c * low.den && c * high.den < high.num

/-- The point of the grid of multiples of `10 ^ k` inside the interval that is nearest to the
number, if one of its two neighbours is inside. -/
def Interval.onGrid? (i : Interval) (k : Int) : Option Nat :=
  let r := Ratio.perPowerOfTen ⟨i.value, i.den⟩ k
  let c := r.num / r.den
  let near := r.round
  let far := if near = c then c + 1 else c
  if i.holds k near then some near else if i.holds k far then some far else none

/-- The first hit among grids with `n`, `n + 1`, … digits, at most `left` of them. -/
def Interval.search (i : Interval) (lead : Int) (n : Nat) : Nat → Scaled
  | 0 => ⟨0, 0⟩
  | left + 1 =>
    let k := lead + 1 - n
    match i.onGrid? k with
    | some c => ⟨c, k⟩
    | none => i.search lead (n + 1) left

/-- Without zeros at the end of the digits; `left` bounds their number. -/
def Scaled.trimZeros (d : Scaled) : Nat → Scaled
  | 0 => d
  | left + 1 =>
    if d.digits % 10 = 0 ∧ d.digits ≠ 0 then Scaled.trimZeros ⟨d.digits / 10, d.power + 1⟩ left
    else d

/-- The shortest decimal of a finite number other than zero. -/
def shortest (b : Binary) : Scaled :=
  let i := Interval.ofBinary b
  (i.search (leadingPower b.magnitude) 1 17).trimZeros 20

/-! ## Layouts -/

def digitsOf (n : Nat) : List Char :=
  Nat.toDigits 10 n

def zeros (n : Nat) : List Char :=
  List.replicate n '0'

/-- `digits · 10 ^ power` without an exponent. -/
def Scaled.positional (d : Scaled) : List Char :=
  let ds := digitsOf d.digits
  if 0 ≤ d.power then ds ++ zeros d.power.toNat
  else
    let places := (-d.power).toNat
    if places < ds.length then ds.take (ds.length - places) ++ '.' :: ds.drop (ds.length - places)
    else '0' :: '.' :: zeros (places - ds.length) ++ ds

/-- What a number without digits is called, and else its sign and the text of its magnitude. -/
def withSign (x : Float) (magnitude : Binary → List Char) : String :=
  let b := Binary.ofFloat x
  let sign := if b.negative then ['-'] else []
  if b.isNaN then "NaN"
  else if !b.isFinite then String.ofList (sign ++ "inf".toList)
  else String.ofList (sign ++ magnitude b)

/-- Shortest digits, never an exponent. -/
def plain (x : Float) : String :=
  withSign x fun b => if b.isZero then ['0'] else (shortest b).positional

/-- `plain`, with `.0` where no point is written. -/
def pointed (x : Float) : String :=
  let text := plain x
  let finite := (Binary.ofFloat x).isFinite
  if finite && !text.toList.contains '.' then text ++ ".0" else text

/-- Exponents of at least two digits, always signed. -/
def exponentText (e : Int) : List Char :=
  let ds := digitsOf e.natAbs
  'e' :: (if 0 ≤ e then '+' else '-') :: (if ds.length < 2 then '0' :: ds else ds)

/-- Shortest digits; positional with a point from 10^-5 below 10^16, else with an exponent. -/
def scientific (x : Float) : String :=
  withSign x fun b =>
    if b.isZero then "0.0".toList
    else
      let d := shortest b
      let ds := digitsOf d.digits
      let lead := d.power + ds.length - 1
      if -5 ≤ lead ∧ lead ≤ 15 then
        if 0 ≤ d.power then d.positional ++ ['.', '0'] else d.positional
      else
        match ds with
        | [c] => c :: exponentText lead
        | c :: more => c :: '.' :: more ++ exponentText lead
        | [] => []

/-- With exactly one place. -/
def onePlace (x : Float) : String :=
  withSign x fun b =>
    let tenths := (Ratio.perPowerOfTen b.magnitude (-1)).round
    digitsOf (tenths / 10) ++ '.' :: digitsOf (tenths % 10)

end Conformance.Decimal
