import Conformance.Host.Awk.Grammar
import Conformance.Host.Awk.Value
import Conformance.Host.Calendar
import Conformance.Host.Shell.Arithmetic
import Conformance.Host.Utility.Format

/-!
# Formatted values and times

A format is applied once to its arguments; there must be an argument for each directive. A number
that is not whole is shown by a format that the program may choose.

Times are seconds since the start of 1970. They are shown in formats, and read from the numbers of
a date that need not lie within their usual bounds.
-/
namespace Conformance.Host.Awk

/-! ## Times -/

/-- Seconds that are shown lie between this number and its opposite. -/
def maxSeconds : Nat := 0xffffffffffff

/-- A time in a format; without one, in the usual form. `universal` names the zone accordingly. -/
def timeShown (format : Chars) (seconds : Int) (universal : Bool) : Chars :=
  let format := if format.isEmpty then txt "%c" else format
  let letters : DateLetters :=
    { extended := false, zone := if universal then "GMT" else "UTC" }
  (Moment.ofDate (1000000000 * seconds)).shown letters (format.length + 30) format

/-- The numbers at the start of a text, with blanks before them, up to so many. -/
def leadingNumbers : (most : Nat) → Chars → List Int
  | 0, _ => []
  | most + 1, s =>
    let t := s.dropWhile isSpace
    let signed := t.head? = some '-' || t.head? = some '+'
    let digits := (if signed then t.drop 1 else t).takeWhile Char.isDigit
    if digits.isEmpty then []
    else
      let n : Int := Chars.natOfDigits digits
      (if t.head? = some '-' then -n else n) ::
        leadingNumbers most (t.drop ((if signed then 1 else 0) + digits.length))

/-- The seconds of a date that a text gives by year, month, day, hour, minute and second. A seventh
number may tell that clocks are an hour ahead. -/
def secondsOf? (s : Chars) : Option Int :=
  match leadingNumbers 7 s with
  | year :: month :: day :: hour :: minute :: second :: more =>
    let months := 12 * year + month - 1
    let first := Calendar.dayNumber (Int.fdiv months 12) ((months % 12).toNat + 1) 1
    let ahead := if more.any (0 < ·) then 3600 else 0
    some (86400 * (first + day - 1) + 3600 * hour + 60 * minute + second - ahead)
  | _ => none

/-! ## Values -/

open Utility (Directive)

/-- Why a format cannot be applied any further. -/
inductive FormatFault
  | missing
  | improper (number : Nat)

/-- What a format gave before a fault, if there is one. -/
structure Formatted where
  output : Chars := []
  fault : Option FormatFault := none

/-- The whole part of a number as directives show it. -/
def shownWhole (x : Number) : Int :=
  x.wholeBetween (-0x7fffffffffffffff) 0xffffffffffffffff

/-- A number that is shown with places or an exponent. -/
def directiveFloat (d : Directive) (x : Number) : Chars :=
  let b := Decimal.Binary.ofFloat x.float
  d.float false (if b.isNaN then x.minus else b.negative) (.ofBinary b)

/-- One directive applied to a value. -/
def directiveText (d : Directive) (textOf : Value → Chars) (v : Value) : Option Chars :=
  match d.conversion with
  | 's' => some (d.text (textOf v))
  | 'c' =>
    let s := match v with
      | .number x | .numeral _ x => [Utility.byteChar (shownWhole x % 256).toNat]
      | .unset => [Utility.byteChar 0]
      | .text s => [s.head?.getD '\x00']
    some (d.text s)
  | 'd' | 'i' => some (d.signed (shownWhole v.toNumber))
  | 'o' | 'x' | 'X' | 'u' => some (d.unsigned (shownWhole v.toNumber))
  | 'e' | 'E' | 'f' | 'F' | 'g' | 'G' => some (directiveFloat d v.toNumber)
  | _ => none

/-- A width or precision: digits, or the next value. -/
def sizeOf (s : Chars) (args : List Value) : Option (Option Int × Chars × List Value) :=
  match s with
  | '*' :: r =>
    match args with
    | [] => none
    | v :: more => some (some v.toNumber.whole, r, more)
  | _ =>
    let ds := s.takeWhile Char.isDigit
    some (if ds.isEmpty then none else some (Chars.natOfDigits ds : Int), s.drop ds.length, args)

/-- The directive after a percent sign, what follows it, and the values left; nothing if values
are missing. -/
def directiveAt (s : Chars) (args : List Value) : Option (Directive × Chars × List Value) := do
  let marks := s.takeWhile fun c => "-+ 0#".toList.contains c
  let (width, r, args) ← sizeOf (s.drop marks.length) args
  let (precision, r, args) ← match r with
    | '.' :: r => do
      let (p, r, args) ← sizeOf r args
      some (some ((p.getD 0).toNat), r, args)
    | _ => some (none, r, args)
  let r := r.dropWhile fun c => c == 'l' || c == 'h' || c == 'q'
  let w := width.getD 0
  let marks := if w < 0 then '-' :: marks else marks
  some ({ marks, width := w.natAbs, precision, conversion := r.head?.getD '\x00' }, r.drop 1, args)

/-- A format applied to values, `count` of whose directives were applied before. -/
def formatFrom (textOf : Value → Chars) (count : Nat) : (fuel : Nat) → Chars → List Value →
    Formatted
  | 0, _, _ | _, [], _ => {}
  | fuel + 1, '%' :: '%' :: s, args =>
    let rest := formatFrom textOf count fuel s args
    { rest with output := '%' :: rest.output }
  | fuel + 1, '%' :: s, args =>
    match directiveAt s args with
    | none | some (_, _, []) => { fault := some .missing }
    | some (d, s, v :: args) =>
      match directiveText d textOf v with
      | none => { fault := some (.improper (count + 1)) }
      | some shown =>
        let rest := formatFrom textOf (count + 1) fuel s args
        { rest with output := shown ++ rest.output }
  | fuel + 1, c :: s, args =>
    let rest := formatFrom textOf count fuel s args
    { rest with output := c :: rest.output }

/-- A number as a text; `format` is for numbers that are not counted with. -/
def numberText (format : Chars) (x : Number) : Chars :=
  match x.whole? with
  | some n => Chars.ofInt n
  | none => (formatFrom (fun _ => []) 0 (format.length + 1) format [.number x]).output

namespace Value

def toText (format : Chars) : Value → Chars
  | .unset => []
  | .number x => numberText format x
  | .text s | .numeral s _ => s

/-- Whether two values compare as asked for. -/
def compares (format : Chars) (c : Comparison) (a b : Value) : Bool :=
  if a.isNumeric && b.isNumeric then a.toNumber.compares c b.toNumber
  else
    let (s, t) := (a.toText format, b.toText format)
    match c with
    | .less => s < t
    | .lessEqual => !decide (t < s)
    | .equal => s == t
    | .unequal => s != t
    | .greater => t < s
    | .greaterEqual => !decide (s < t)

end Value

/-- A format applied to values. -/
def format (numbers : Chars) (form : Chars) (args : List Value) : Formatted :=
  formatFrom (Value.toText numbers) 0 (form.length + 1) form args

end Conformance.Host.Awk
