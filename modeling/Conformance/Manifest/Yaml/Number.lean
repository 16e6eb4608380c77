import Conformance.Decimal.Reading
import Conformance.Decimal.Text
import Conformance.Manifest.Shape
import Conformance.Text.Quoted

/-!
# What plain scalars stand for

A plain scalar may be read as nothing, as a truth value or as a number. Whole numbers are written
to base ten, or behind a mark to base sixteen, eight or two; with needless zeros in front they are
text.
-/
namespace Conformance.Manifest.Yaml

def isNull (s : List Char) : Bool :=
  ["null", "Null", "NULL", "~"].contains (String.ofList s)

def truth? (s : List Char) : Option Bool :=
  let word := String.ofList s
  if ["true", "True", "TRUE"].contains word then some true
  else if ["false", "False", "FALSE"].contains word then some false
  else none

/-- Digits to a base, at least one. -/
def digits? (base : Nat) (s : List Char) : Option Nat :=
  if s.isEmpty then none
  else s.foldl (fun n c => n.bind fun n =>
    (Text.hexValue? c).bind fun d => if d < base then some (n * base + d) else none) (some 0)

/-- A number to a base with an optional sign, from `low` to `high`; only where negative numbers are
in range may it have a minus. -/
def signed? (base : Nat) (low high : Int) (s : List Char) : Option Int :=
  let value := match s with
    | '+' :: r => (digits? base r).map Int.ofNat
    | '-' :: r => if low < 0 then (digits? base r).map fun n => -(n : Int) else none
    | r => (digits? base r).map Int.ofNat
  value.bind fun n => if low ≤ n ∧ n ≤ high then some n else none

def startsSigned (s : List Char) : Bool :=
  s.head? == some '+' || s.head? == some '-'

/-- Digits behind a needless zero, with an optional sign. -/
def isPadded (s : List Char) : Bool :=
  let ds := if startsSigned s then s.drop 1 else s
  1 < ds.length && ds.head? == some '0' && ds.all fun c => '0' ≤ c && c ≤ '9'

/-- The marks of bases, behind a zero. -/
def bases : List (Char × Nat) :=
  [('x', 16), ('o', 8), ('b', 2)]

/-- What follows a zero and the mark of a base. -/
def afterMark (mark : Char) : List Char → Option (List Char)
  | '0' :: c :: r => if c = mark then some r else none
  | _ => none

def withoutPlus : List Char → List Char
  | '+' :: r => r
  | s => s

/-- What a way of reading a marked number gives. -/
inductive Marked
  | value (n : Int)
  | refused
  | other

/-- Tries the bases one after another, `read` with what follows a mark. -/
def markedFrom (s : List Char) (read : Nat → List Char → Marked) : List (Char × Nat) → Marked
  | [] => .other
  | (mark, base) :: more =>
    match afterMark mark s with
    | none => markedFrom s read more
    | some r =>
      match read base r with
      | .other => markedFrom s read more
      | found => found

/-- A number behind a mark, which must not have a sign there. -/
def unsignedMarked (low high : Int) (base : Nat) (r : List Char) : Marked :=
  if startsSigned r then .refused
  else match signed? base low high r with
    | some n => .value n
    | none => .other

/-- A number behind a minus and a mark. -/
def negativeMarked (low high : Int) (base : Nat) (r : List Char) : Marked :=
  match signed? base low high ('-' :: r) with
  | some n => .value n
  | none => .other

/-- What follows a minus. -/
def negated : List Char → List Char
  | '-' :: r => r
  | _ => []

/-- A number that is not negative. -/
def natural? (high : Int) (s : List Char) : Option Int :=
  let u := withoutPlus s
  match markedFrom u (unsignedMarked 0 high) bases with
  | .value n => some n
  | .refused => none
  | .other =>
    if startsSigned u || isPadded s then none else signed? 10 0 high u

/-- A number read for its minus. -/
def negative? (low high : Int) (s : List Char) : Option Int :=
  match markedFrom (negated s) (negativeMarked low high) bases with
  | .value n => some n
  | .refused | .other => if isPadded s then none else signed? 10 low high s

def bound64 : Int := 0x8000000000000000
def bound128 : Int := 0x80000000000000000000000000000000

/-- A whole number of 64 bits where one is asked for. Each mark is tried without a minus first. -/
def integerFrom (s : List Char) : List (Char × Nat) → Marked
  | [] => .other
  | (mark, base) :: more =>
    match markedFrom (withoutPlus s) (unsignedMarked (-bound64) (bound64 - 1)) [(mark, base)] with
    | .other =>
      match markedFrom (negated s) (negativeMarked (-bound64) (bound64 - 1)) [(mark, base)] with
      | .other => integerFrom s more
      | found => found
    | found => found

def integer? (s : List Char) : Option Int :=
  let u := withoutPlus s
  if s.head? = some '+' ∧ startsSigned u then none
  else match integerFrom s bases with
    | .value n => some n
    | .refused => none
    | .other => if isPadded s then none else signed? 10 (-bound64) (bound64 - 1) u

/-- A floating-point number. Words for those that are not finite start with a point. -/
def decimal? (s : List Char) : Option Float :=
  let u := withoutPlus s
  let word (s : List Char) (names : List String) := names.contains (String.ofList s)
  if s.head? = some '+' ∧ startsSigned u then none
  else if word u [".inf", ".Inf", ".INF"] then some Decimal.infinity
  else if word s ["-.inf", "-.Inf", "-.INF"] then some (-Decimal.infinity)
  else if word s [".nan", ".NaN", ".NAN"] then some Decimal.notANumber
  else (Decimal.float? u).bind fun x => if x.isFinite then some x else none

/-- The number that a scalar is, of 64 bits or else of 128. -/
def wholeNumber? (s : List Char) : Option Found :=
  (natural? (2 * bound64 - 1) s).map .integer <|>
    (negative? (-bound64) (bound64 - 1) s).map .integer <|>
    (natural? (2 * bound128 - 1) s).map .wideInteger <|>
    (negative? (-bound128) (bound128 - 1) s).map .wideInteger

/-- What a plain scalar without a tag is. -/
def plainFound (s : List Char) : Found :=
  if s.isEmpty || isNull s then .unit
  else match truth? s, wholeNumber? s with
    | some b, _ => .truth b
    | none, some n => n
    | none, none =>
      match decimal? s with
      | some x =>
        if isPadded s then .text (String.ofList s) else .decimal (Decimal.pointed x)
      | none => .text (String.ofList s)

end Conformance.Manifest.Yaml
