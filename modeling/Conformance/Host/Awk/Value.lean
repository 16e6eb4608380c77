import Conformance.Host.Awk.Grammar
import Conformance.Host.Numeral

/-!
# Numbers and values of programs over records

Numbers are doubles. What is no number has a sign of its own, which is passed on and can be turned
round; what comes of an operation that has no result has a minus.

A value is a number or a text. Texts that come from the input and look like numbers are both, and so
is a variable that nothing was assigned to. Two values are compared as numbers if neither is a mere
text, and by their bytes otherwise.
-/
namespace Conformance.Host.Awk

/-! ## Numbers -/

structure Number where
  float : Float
  /-- Whether a minus stands before what is no number. -/
  minus : Bool := false

namespace Number

def ofFloat (x : Float) : Number where
  float := x
  minus := x.isNaN

instance (n : Nat) : OfNat Number n := ⟨{ float := OfNat.ofNat n }⟩

/-- The number at the start of a text, and what follows it. -/
def leading (s : Chars) : Number × Chars :=
  let (negative, x, rest) := Numeral.behindSign Numeral.magnitudeAt s
  ({ float := if negative then -x else x, minus := negative && x.isNaN }, rest)

/-- What a function gives for a number. -/
def map (f : Float → Float) (x : Number) : Number :=
  if x.float.isNaN then x else ofFloat (f x.float)

/-- What an operation gives for two numbers. -/
def combine (f : Float → Float → Float) (x y : Number) : Number :=
  let z := f x.float y.float
  if !z.isNaN then { float := z }
  else if x.float.isNaN then x
  else if y.float.isNaN then y
  else ofFloat z

instance : Neg Number := ⟨fun x => { float := -x.float, minus := x.float.isNaN && !x.minus }⟩
instance : Add Number := ⟨combine (· + ·)⟩
instance : Sub Number := ⟨combine (· - ·)⟩

/-- The whole part of a finite number, between bounds. -/
def wholeBetween (low high : Int) (x : Number) : Int :=
  let b := Decimal.Binary.ofFloat x.float
  if b.isNaN then low
  else if !b.isFinite then if b.negative then low else high
  else
    let r := b.magnitude
    let n : Int := (r.num / r.den : Nat)
    max low (min high (if b.negative then -n else n))

/-- The greatest whole number that is counted with. -/
def maxWhole : Nat := 0x7fffffff

/-- The whole part of a number as an index; far out it does not matter where. -/
def whole (x : Number) : Int :=
  x.wholeBetween (-maxWhole) maxWhole

/-- The whole number that a number is, if it is one that is counted with. -/
def whole? (x : Number) : Option Int :=
  let n := x.whole
  if Float.ofInt n == x.float then some n else none

/-- Without what stands behind the point. -/
def truncated (x : Number) : Number :=
  x.map fun x => if x < 0 then x.ceil else x.floor

/-- The rest of a division, with the sign of what is divided. -/
def floatRemainder (x y : Float) : Float :=
  let a := Decimal.Binary.ofFloat x
  let b := Decimal.Binary.ofFloat y
  if !a.isFinite || b.isNaN || b.isZero then Decimal.notANumber
  else if !b.isFinite then x
  else
    let (p, q) := (a.magnitude, b.magnitude)
    let n := (p.num * q.den) % (q.num * p.den)
    let m := Float.ofNat n / Float.ofNat (p.den * q.den)
    if a.negative then -m else m

def compute (operation : Arithmetic) : Number → Number → Number :=
  combine (match operation with
    | .add => (· + ·)
    | .subtract => (· - ·)
    | .multiply => (· * ·)
    | .divide => (· / ·)
    | .remainder => floatRemainder
    | .power => Float.pow)

/-- Whether two numbers compare as asked for: what is neither less nor greater is equal. -/
def compares (c : Comparison) (x y : Number) : Bool :=
  let less := x.float < y.float
  let greater := y.float < x.float
  match c with
  | .less => less
  | .lessEqual => !decide greater
  | .equal => !decide less && !decide greater
  | .unequal => decide less || decide greater
  | .greater => greater
  | .greaterEqual => !decide less

end Number

/-! ## Values -/

inductive Value
  | unset
  | number (x : Number)
  | text (s : Chars)
  /-- A text from the input that looks like a number. -/
  | numeral (s : Chars) (x : Number)

instance : Inhabited Value := ⟨.unset⟩

/-- The number that a whole text looks like, with blanks around it. -/
def lookedLike? (s : Chars) : Option Number :=
  let body := ((s.dropWhile isSpace).reverse.dropWhile isSpace).reverse
  let starts := match body.head? with
    | some c => c.isDigit || c == '+' || c == '-' || c == '.'
    | none => false
  let ends := match body.getLast? with
    | some c => (Numeral.hexValue? c).isSome || c == '.'
    | none => false
  if starts && ends then
    let (x, rest) := Number.leading body
    if rest.isEmpty then some x else none
  else none

namespace Value

/-- The value of a text that comes from outside. -/
def ofInput (s : Chars) : Value :=
  match lookedLike? s with
  | some x => .numeral s x
  | none => .text s

def ofBool (b : Bool) : Value :=
  .number (if b then 1 else 0)

def ofNat (n : Nat) : Value :=
  .number (.ofFloat (Float.ofNat n))

def ofInt (n : Int) : Value :=
  .number (.ofFloat (Float.ofInt n))

def toNumber : Value → Number
  | .unset => 0
  | .number x | .numeral _ x => x
  | .text s => (Number.leading s).1

/-- Whether the value counts as true. -/
def holds : Value → Bool
  | .unset => false
  | .number x | .numeral _ x => x.float != 0
  | .text s => !s.isEmpty

/-- Whether the value is compared as a number. -/
def isNumeric : Value → Bool
  | .text _ => false
  | .unset | .number _ | .numeral _ _ => true

end Value

end Conformance.Host.Awk
