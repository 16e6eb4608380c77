import Conformance.Decimal.Reading
import Conformance.Decimal.Text
import Conformance.Host.CharClass

/-!
# Numerals of the host

Floating-point numbers as programs of the host write and read them: with a fixed number of places,
with an exponent, or in the shorter of these two forms. All rounding is that of the exact value.
-/
namespace Conformance.Host.Numeral

open Decimal (Ratio Binary)

/-- Digits with a point before the last `places` of them. -/
def withPoint (places : Nat) (n : Nat) : Chars :=
  let ds := Chars.ofNat n
  let ds := List.replicate (places + 1 - ds.length) '0' ++ ds
  if places = 0 then ds
  else ds.take (ds.length - places) ++ '.' :: ds.drop (ds.length - places)

/-- With a number of places after the point. -/
def fixed (places : Nat) (r : Ratio) : Chars :=
  withPoint places (r.perPowerOfTen (-(places : Int))).round

/-- Digits of a number, one before the point and `places` behind it, and the exponent. -/
def rounded (places : Nat) (r : Ratio) : Nat × Int :=
  if r.num = 0 then (0, 0)
  else
    let lead := Decimal.leadingPower r
    let n := (r.perPowerOfTen (lead - places)).round
    if n = Nat.pow 10 (places + 1) then (n / 10, lead + 1) else (n, lead)

/-- An exponent with its mark, of at least two digits. -/
def exponentText (mark : Char) (e : Int) : Chars :=
  let ds := Chars.ofNat e.natAbs
  mark :: (if e < 0 then '-' else '+') :: List.replicate (2 - ds.length) '0' ++ ds

def scientific (mark : Char) (places : Nat) (r : Ratio) : Chars :=
  let (n, e) := rounded places r
  withPoint places n ++ exponentText mark e

/-- Without zeros at the end of the fraction, and without a point that nothing follows. -/
def trimmed (s : Chars) : Chars :=
  if s.contains '.' then
    let s' := (s.reverse.dropWhile (· == '0')).reverse
    if s'.getLast? = some '.' then s'.dropLast else s'
  else s

/-- With so many digits in all, in the form that the exponent calls for; `keeps` leaves zeros at
the end. -/
def general (mark : Char) (digits : Nat) (keeps : Bool) (r : Ratio) : Chars :=
  let digits := max 1 digits
  let (n, e) := rounded (digits - 1) r
  let trim (s : Chars) : Chars := if keeps then s else trimmed s
  if -4 ≤ e ∧ e < digits then trim (fixed ((digits : Int) - 1 - e).toNat r)
  else trim (withPoint (digits - 1) n) ++ exponentText mark e

/-- The greatest power of two that is no greater than a number. -/
def leadingBit (r : Ratio) : Int :=
  let e : Int := (Nat.log2 r.num : Int) - Nat.log2 r.den
  let unit := Ratio.scaled 1 e
  if r.num * unit.den < unit.num * r.den then e - 1 else e

/-- In base 16, with an exponent of base 2. One digit stands before the point: all four bits of it
are used if `wide` is set, and one otherwise. -/
def hexadecimal (wide : Bool) (places : Option Nat) (keeps : Bool) (r : Ratio) : Chars :=
  let usual := if wide then 15 else 13
  let count := places.getD usual
  let lead : Int :=
    if r.num = 0 then 0 else if wide then leadingBit r - 3 else max (leadingBit r) (-1022)
  let unit := Ratio.scaled 1 (lead - 4 * count)
  let n := (Ratio.mk (r.num * unit.den) (r.den * unit.num)).round
  let (n, e) := if Nat.pow 16 (count + 1) ≤ n then (n / 16, lead + 4) else (n, lead)
  let ds := Chars.digits 16 n
  let ds := List.replicate (count + 1 - ds.length) '0' ++ ds
  let fraction := if places.isSome then ds.drop 1
    else ((ds.drop 1).reverse.dropWhile (· == '0')).reverse
  ds.take 1 ++ (if fraction.isEmpty && !keeps then [] else ['.']) ++ fraction ++
    'p' :: (if e < 0 then '-' else '+') :: Chars.ofNat e.natAbs

/-- What a number is without its sign. -/
inductive Magnitude
  | finite (r : Ratio)
  | infinite
  | none

namespace Magnitude

def ofBinary (b : Binary) : Magnitude :=
  if b.isNaN then .none else if b.isFinite then .finite b.magnitude else .infinite

def isFinite : Magnitude → Bool
  | finite _ => true
  | infinite | none => false

/-- A magnitude in the form that a letter names; words for what is not finite. -/
def shown (conversion : Char) (wide : Bool) (precision : Option Nat) (keeps : Bool)
    (m : Magnitude) : Chars :=
  let upper := conversion.isUpper
  match m with
  | .none => txt (if upper then "NAN" else "nan")
  | .infinite => txt (if upper then "INF" else "inf")
  | .finite r =>
    let p := precision.getD 6
    let mark := if upper then 'E' else 'e'
    match conversion.toLower with
    | 'a' =>
      let s := hexadecimal wide precision keeps r
      if upper then s.map Char.toUpper else s
    | 'f' => fixed p r
    | 'e' => scientific mark p r
    | _ => general mark p keeps r

end Magnitude

/-- The nearest number of 64 binary digits. -/
def extended (r : Ratio) : Ratio :=
  if r.num = 0 then r
  else
    let whole (e : Int) : Nat :=
      let unit := Ratio.scaled 1 e
      (Ratio.mk (r.num * unit.den) (r.den * unit.num)).round
    let e : Int := (Nat.log2 r.num : Int) - Nat.log2 r.den - 63
    if whole e < 0x8000000000000000 then .scaled (whole (e - 1)) (e - 1) else .scaled (whole e) e

/-! ## Reading -/

def hexValue? (c : Char) : Option Nat :=
  if c.isDigit then some (c.toNat - '0'.toNat)
  else if 'a' ≤ c && c ≤ 'f' then some (c.toNat - 'a'.toNat + 10)
  else if 'A' ≤ c && c ≤ 'F' then some (c.toNat - 'A'.toNat + 10)
  else none

/-- The exponent at the start of a text, with its length. -/
def exponentAt (s : Chars) : Int × Nat :=
  match s with
  | m :: r =>
    if m = 'e' || m = 'E' then
      let sign := r.take 1
      let signed := sign = ['-'] || sign = ['+']
      let ds := (if signed then r.drop 1 else r).takeWhile Char.isDigit
      if ds.isEmpty then (0, 0)
      else
        let n : Int := Chars.natOfDigits ds
        (if sign = ['-'] then -n else n, 1 + (if signed then 1 else 0) + ds.length)
    else (0, 0)
  | [] => (0, 0)

/-- A magnitude to base sixteen behind its mark, with its length. -/
def hexAt (s : Chars) : Option (Ratio × Nat) :=
  match s with
  | '0' :: x :: r =>
    let ds := r.takeWhile fun c => (hexValue? c).isSome
    if (x = 'x' || x = 'X') && !ds.isEmpty then
      some (⟨ds.foldl (fun n c => 16 * n + (hexValue? c).getD 0) 0, 1⟩, ds.length + 2)
    else none
  | _ => none

/-- A word for a number that is not finite, with its length. -/
def wordAt (s : Chars) : Option (Magnitude × Nat) :=
  let lower := (s.take 8).map Char.toLower
  if (txt "infinity").isPrefixOf lower then some (.infinite, 8)
  else if (txt "inf").isPrefixOf lower then some (.infinite, 3)
  else if (txt "nan").isPrefixOf lower then some (.none, 3)
  else none

/-- Digits and exponent of a magnitude to base ten at the start of a text, with its length;
nothing is zero. -/
def decimalAt (s : Chars) : Nat × Int × Nat :=
  let whole := s.takeWhile Char.isDigit
  let rest := s.drop whole.length
  let places := if rest.head? = some '.' then (rest.drop 1).takeWhile Char.isDigit else []
  if whole.isEmpty && places.isEmpty then (0, 0, 0)
  else
    let pointed := if rest.head? = some '.' then places.length + 1 else 0
    let (e, n) := exponentAt (rest.drop pointed)
    (Chars.natOfDigits (whole ++ places), e - places.length, whole.length + pointed + n)

/-- The nearest double to a magnitude to base ten at the start of a text, with its length. -/
def nearestAt (s : Chars) : Float × Nat :=
  let (ds, e, n) := decimalAt s
  (Decimal.nearest ds e, n)

/-- The nearest double to a magnitude at the start of a text, with its length; nothing is zero. -/
def magnitudeAt (s : Chars) : Float × Nat :=
  match hexAt s, wordAt s with
  | some (r, n), _ => (Float.ofNat r.num, n)
  | none, some (.infinite, n) => (Decimal.infinity, n)
  | none, some (_, n) => (Decimal.notANumber, n)
  | none, none => nearestAt s

/-- The exact magnitude at the start of a text, with its length. An exponent beyond the range of
numbers gives what is not finite, or zero. -/
def exactAt (s : Chars) : Magnitude × Nat :=
  match hexAt s, wordAt s with
  | some (r, n), _ => (.finite r, n)
  | none, some found => found
  | none, none =>
    let (ds, e, n) := decimalAt s
    let magnitude :=
      if ds = 0 || e < -5000 then .finite ⟨0, 1⟩
      else if 5000 < e then .infinite
      else .finite (Ratio.perPowerOfTen ⟨ds, 1⟩ (-e))
    (magnitude, n)

/-- What is read by `at_` behind blanks and a sign, whether the sign is a minus, and what follows
the number; nothing is left out if there is none. -/
def behindSign {α : Type} (at_ : Chars → α × Nat) (s : Chars) : Bool × α × Chars :=
  let t := s.dropWhile isSpace
  let signed := t.head? = some '-' || t.head? = some '+'
  let u := if signed then t.drop 1 else t
  let (x, n) := at_ u
  (t.head? = some '-' && n != 0, x, if n = 0 then s else u.drop n)

/-- The number at the start of a text, behind blanks and a sign, and what follows it. -/
def leading (s : Chars) : Float × Chars :=
  let (negative, x, rest) := behindSign magnitudeAt s
  (if negative then -x else x, rest)

end Conformance.Host.Numeral
