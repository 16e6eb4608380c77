/-!
# The exact value of a floating-point number

A finite `Float` is a sign and a magnitude `significand · 2 ^ exponent`. The magnitude is held as
the quotient of two naturals, so that every rounding below is done in exact arithmetic.
-/
namespace Conformance.Decimal

/-- Quotient of two naturals; the denominator of a magnitude is never zero. -/
structure Ratio where
  num : Nat
  den : Nat
deriving Repr

/-- `n · 2 ^ e`. -/
def Ratio.scaled (n : Nat) (e : Int) : Ratio :=
  if 0 ≤ e then ⟨n * Nat.pow 2 e.toNat, 1⟩ else ⟨n, Nat.pow 2 (-e).toNat⟩

/-- `r / 10 ^ k`. -/
def Ratio.perPowerOfTen (r : Ratio) (k : Int) : Ratio :=
  if 0 ≤ k then ⟨r.num, r.den * Nat.pow 10 k.toNat⟩ else ⟨r.num * Nat.pow 10 (-k).toNat, r.den⟩

/-- The nearest natural; a half goes to the even neighbour. -/
def Ratio.round (r : Ratio) : Nat :=
  let q := r.num / r.den
  let twice := 2 * (r.num % r.den)
  if twice < r.den then q else if r.den < twice then q + 1 else if q % 2 = 0 then q else q + 1

/-- The first bit of a significand, which is not written: 2 to the 52nd. -/
def hiddenBit : Nat := 0x10000000000000

/-- The fields of a double. -/
structure Binary where
  negative : Bool
  field : Nat
  fraction : Nat

def Binary.ofFloat (x : Float) : Binary :=
  let bits := x.toBits.toNat
  { negative := bits / 0x8000000000000000 == 1
    field := bits / hiddenBit % 0x800
    fraction := bits % hiddenBit }

namespace Binary

def isFinite (b : Binary) : Bool :=
  b.field != 2047

def isNaN (b : Binary) : Bool :=
  b.field == 2047 && b.fraction != 0

def isZero (b : Binary) : Bool :=
  b.field == 0 && b.fraction == 0

def significand (b : Binary) : Nat :=
  if b.field = 0 then b.fraction else b.fraction + hiddenBit

def exponent (b : Binary) : Int :=
  (max b.field 1 : Nat) - 1075

def magnitude (b : Binary) : Ratio :=
  .scaled b.significand b.exponent

end Binary
end Conformance.Decimal
