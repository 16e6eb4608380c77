import Conformance.Host.Numeral
import Conformance.Host.Utility.Lines

/-!
# Formatted output

`printf` and `echo` exist twice on the host: as programs, and inside the shell with other rules for
escapes and other complaints. The differences are the fields of a `Dialect`.
-/
namespace Conformance.Host.Utility

/-- The rules that differ between the two kinds. -/
structure Dialect where
  /-- Escapes may give the number of a character in base 16. -/
  hexEscapes : Bool
  /-- An escape in a format may end the output. -/
  stopInFormat : Bool
  /-- Arguments that a format does not use are complained of. -/
  warnsOfExcess : Bool
  /-- Numbers are of 64 binary digits, and not only of 53. -/
  extended : Bool
  /-- How an argument is shown in a complaint. -/
  shown : Chars → Chars
  noNumber : String
  badDirective : Chars → Chars
  /-- What is said of a directive that the format does not end. -/
  openDirective : Chars → Chars
  complaint : Chars → Act Unit
  /-- Writes the output, and complains if that is not possible. -/
  output : Chars → Program

/-! ## Escapes -/

/-- What an escape gives: characters, or the end of the output. -/
inductive Escape
  | chars (s : Chars)
  | stop

def octalDigits (n : Nat) (s : Chars) : Chars :=
  (s.take n).takeWhile fun c => '0' ≤ c && c ≤ '7'

def isHexDigit (c : Char) : Bool :=
  c.isDigit || ('a' ≤ c && c ≤ 'f') || ('A' ≤ c && c ≤ 'F')

def hexValue (c : Char) : Nat :=
  if c.isDigit then c.toNat - '0'.toNat
  else if 'a' ≤ c then c.toNat - 'a'.toNat + 10
  else c.toNat - 'A'.toNat + 10

def baseValue (base : Nat) (s : Chars) : Nat :=
  s.foldl (fun n c => base * n + hexValue c) 0

def byteChar (n : Nat) : Char :=
  Char.ofNat (n % 256)

/-- What follows a backslash, and the length of it. `argument` stands for the rules of texts that
are given as arguments: a zero may come before the octal digits, and the output may be ended. -/
def escape (d : Dialect) (argument : Bool) (s : Chars) : Escape × Nat :=
  match s with
  | [] => (.chars ['\\'], 0)
  | c :: r =>
    let one (x : Char) : Escape × Nat := (.chars [x], 1)
    match c with
    | 'a' => one '\x07'
    | 'b' => one '\x08'
    | 'e' => one '\x1b'
    | 'f' => one '\x0c'
    | 'n' => one '\n'
    | 'r' => one '\r'
    | 't' => one '\t'
    | 'v' => one '\x0b'
    | '\\' => one '\\'
    | _ =>
      if c = 'c' && (argument || d.stopInFormat) then (.stop, 1)
      else if c = '"' && d.hexEscapes && !argument then one '"'
      else if c = 'x' && d.hexEscapes then
        let digits := (r.take 2).takeWhile isHexDigit
        if digits.isEmpty then (.chars ['\\', c], 1)
        else (.chars [byteChar (baseValue 16 digits)], digits.length + 1)
      else if c = '0' && argument then
        let digits := octalDigits 3 r
        (.chars [byteChar (baseValue 8 digits)], digits.length + 1)
      else
        let digits := octalDigits 3 s
        if digits.isEmpty then (.chars ['\\', c], 1)
        else (.chars [byteChar (baseValue 8 digits)], digits.length)

/-- A text with its escapes replaced, and whether one ended the output. -/
def unescape (d : Dialect) : (fuel : Nat) → Chars → Chars × Bool
  | 0, _ | _, [] => ([], false)
  | fuel + 1, '\\' :: s =>
    match escape d true s with
    | (.stop, _) => ([], true)
    | (.chars t, n) =>
      let (rest, stopped) := unescape d fuel (s.drop n)
      (t ++ rest, stopped)
  | fuel + 1, c :: s =>
    let (rest, stopped) := unescape d fuel s
    (c :: rest, stopped)

/-! ## Directives -/

/-- A directive: its marks, its least width, its precision and what it shows. -/
structure Directive where
  marks : Chars := []
  width : Nat := 0
  precision : Option Nat := none
  conversion : Char := 's'

namespace Directive

def padded (d : Directive) (zeros : Bool) (start body : Chars) : Chars :=
  let gap := d.width - (start.length + body.length)
  if d.marks.contains '-' then start ++ body ++ List.replicate gap ' '
  else if zeros && d.marks.contains '0' then start ++ List.replicate gap '0' ++ body
  else List.replicate gap ' ' ++ start ++ body

def text (d : Directive) (s : Chars) : Chars :=
  d.padded false [] (match d.precision with
    | some n => s.take n
    | none => s)

def sign (d : Directive) (negative : Bool) : Chars :=
  if negative then ['-']
  else if d.marks.contains '+' then ['+']
  else if d.marks.contains ' ' then [' ']
  else []

/-- The digits of a number; none of zero if none are asked for. -/
def digits (d : Directive) (base n : Nat) : Chars :=
  if n = 0 && d.precision = some 0 then [] else Chars.digits base n

def signed (d : Directive) (n : Int) : Chars :=
  let digits := d.digits 10 n.natAbs
  let body := List.replicate ((d.precision.getD 1) - digits.length) '0' ++ digits
  d.padded d.precision.isNone (d.sign (n < 0)) body

def unsigned (d : Directive) (n : Int) : Chars :=
  let m := (n % 0x10000000000000000).toNat
  let base := match d.conversion with
    | 'o' => 8
    | 'x' | 'X' => 16
    | _ => 10
  let lower := d.digits base m
  let digits := if d.conversion = 'X' then lower.map Char.toUpper else lower
  let start :=
    if d.marks.contains '#' then
      match d.conversion with
      | 'x' => if m = 0 then [] else txt "0x"
      | 'X' => if m = 0 then [] else txt "0X"
      | 'o' => if digits.head? = some '0' then [] else ['0']
      | _ => []
    else []
  let body := List.replicate ((d.precision.getD 1) - digits.length) '0' ++ digits
  d.padded d.precision.isNone start body

/-- A number with places or an exponent; `wide` tells how many binary digits it has. -/
def float (d : Directive) (wide : Bool) (negative : Bool) (m : Numeral.Magnitude) : Chars :=
  let base := if !m.isFinite then [] else if d.conversion = 'a' then txt "0x"
    else if d.conversion = 'A' then txt "0X" else []
  d.padded m.isFinite (d.sign negative ++ base)
    (m.shown d.conversion wide d.precision (d.marks.contains '#'))

end Directive

/-- An integer as arguments write it: its value, and whether it was read to its end. -/
def integerArgument (s : Chars) : Int × Bool × Bool :=
  match s with
  | [] => (0, true, true)
  | '\'' :: c :: _ | '"' :: c :: _ => (c.toNat, true, true)
  | _ =>
    let t := s.dropWhile isSpace
    let (negative, u) := match t with
      | '-' :: r => (true, r)
      | '+' :: r => (false, r)
      | r => (false, r)
    let (base, digits, rest) := match u with
      | '0' :: x :: r =>
        let hex := r.takeWhile isHexDigit
        if (x = 'x' || x = 'X') && !hex.isEmpty then (16, hex, r.drop hex.length)
        else
          let octal := u.takeWhile fun c => '0' ≤ c && c ≤ '7'
          (8, octal, u.drop octal.length)
      | _ =>
        let ds := u.takeWhile Char.isDigit
        (10, ds, u.drop ds.length)
    let n : Int := baseValue base digits
    (if negative then -n else n, !digits.isEmpty, rest.isEmpty)

/-- The largest and the smallest number that fit. -/
def clampInteger (signed : Bool) (n : Int) : Int × Bool :=
  let low : Int := -0x8000000000000000
  let high : Int := if signed then 0x7fffffffffffffff else 0xffffffffffffffff
  if n < low then (low, false) else if high < n then (high, false) else (n, true)

/-- What is said of an argument that has more than a number in it. -/
def Dialect.notWhole (d : Dialect) : Chars :=
  txt (if d.hexEscapes then "value not completely converted" else "not completely converted")

/-- The value of a numeric argument, after complaints. -/
def integerOf (d : Dialect) (signed : Bool) (s : Chars) : Act (Int × Nat) := do
  let (n, some_, whole) := integerArgument s
  let (m, fits) := clampInteger signed n
  if !some_ then
    d.complaint (d.shown s ++ txt ": " ++ d.noNumber.toList)
    return (m, 1)
  else if !fits then
    d.complaint (d.shown s ++ txt ": Numerical result out of range")
    return (m, 1)
  else if !whole then
    d.complaint (d.shown s ++ txt ": " ++ d.notWhole)
    return (m, 1)
  else return (m, 0)

/-- A number with places or an exponent, as an argument gives it. -/
structure FloatArgument where
  negative : Bool := false
  magnitude : Numeral.Magnitude
  /-- What follows the number. -/
  rest : Chars := []
  fits : Bool := true

/-- The number at the start of an argument. -/
def Dialect.float (d : Dialect) (s : Chars) : FloatArgument :=
  match s with
  | '\'' :: c :: _ | '"' :: c :: _ => { magnitude := .finite ⟨c.toNat, 1⟩ }
  | _ =>
    let (negative, exact, rest) := Numeral.behindSign Numeral.exactAt s
    match exact with
    | .finite r =>
      if d.extended then { negative, magnitude := .finite (Numeral.extended r), rest }
      else
        let (x, _) := Numeral.leading s
        let b := Decimal.Binary.ofFloat x
        { negative, magnitude := .ofBinary b, rest
          fits := b.isFinite && (r.num == 0 || !b.isZero) }
    | m => { negative, magnitude := m, rest }

/-- The number that an argument writes, after complaints. -/
def floatOf (d : Dialect) (s : Chars) : Act (FloatArgument × Nat) := do
  let x := d.float s
  if x.rest.isEmpty && x.fits then return (x, 0)
  let message :=
    if !x.fits then txt "Numerical result out of range"
    else if x.rest.length = s.length then d.noNumber.toList else d.notWhole
  d.complaint (d.shown s ++ txt ": " ++ message)
  return (x, 1)

/-- What one pass over a format gives. -/
structure Pass where
  output : Chars := []
  rest : List Chars
  used : Bool := false
  status : Nat := 0
  stopped : Bool := false
  /-- The output is not to be continued, and the status stands. -/
  failed : Bool := false

/-- A number in a directive: digits, or the next argument. -/
def directiveNumber (s : Chars) (args : List Chars) : Option Int × Chars × List Chars :=
  match s with
  | '*' :: r =>
    match args with
    | [] => (some 0, r, [])
    | a :: more => (some ((integerArgument a).1), r, more)
  | _ =>
    let ds := s.takeWhile Char.isDigit
    (if ds.isEmpty then none else some (Chars.natOfDigits ds : Int), s.drop ds.length, args)

/-- The directive after a percent sign, what follows it, and the arguments left. -/
def directive (s : Chars) (args : List Chars) : Directive × Chars × List Chars :=
  let marks := s.takeWhile fun c => "-+ 0#".toList.contains c
  let (width, r, args) := directiveNumber (s.drop marks.length) args
  let (precision, r, args) : Option Nat × Chars × List Chars := match r with
    | '.' :: r =>
      let (p, r, args) := directiveNumber r args
      (some ((p.getD 0).toNat), r, args)
    | _ => (none, r, args)
  let w := width.getD 0
  let marks := if w < 0 then '-' :: marks else marks
  ({ marks, width := w.natAbs, precision, conversion := r.head?.getD '\x00' }, r.drop 1, args)

/-- Without the letters that tell how large a number may be. -/
def withoutSizes (s : Chars) : Chars :=
  let marks := s.takeWhile fun c => c.isDigit || "-+ 0#'*.".toList.contains c
  marks ++ (s.drop marks.length).dropWhile fun c => "hlLjtz".toList.contains c

/-- One directive applied to the arguments. -/
def applyDirective (d : Dialect) (shown : Chars) (x : Directive) (p : Pass) : Act Pass := do
  let arg := p.rest.head?.getD []
  let next := { p with rest := p.rest.drop 1, used := true }
  match x.conversion with
  | 's' => return { next with output := p.output ++ x.text arg }
  | 'c' => return { next with output := p.output ++ x.text [arg.head?.getD '\x00'] }
  | 'b' =>
    let (t, stopped) := unescape d (arg.length + 1) arg
    return { next with output := p.output ++ x.text t, stopped }
  | 'd' | 'i' =>
    let (n, status) ← integerOf d true arg
    return { next with output := p.output ++ x.signed n, status := max p.status status }
  | 'u' | 'o' | 'x' | 'X' =>
    let (n, status) ← integerOf d false arg
    return { next with output := p.output ++ x.unsigned n, status := max p.status status }
  | 'a' | 'A' | 'e' | 'E' | 'f' | 'F' | 'g' | 'G' =>
    let (n, status) ← floatOf d arg
    return { next with
      output := p.output ++ x.float d.extended n.negative n.magnitude
      status := max p.status status }
  | 'q' =>
    if d.hexEscapes then return { next with output := p.output ++ x.text (quotedIfNeeded arg) }
    else invalid
  | _ => invalid
where
  invalid : Act Pass := do
    d.complaint ((if x.conversion = '\x00' then d.openDirective else d.badDirective) shown)
    return { p with status := if d.hexEscapes then 1 else 2, failed := true }

/-- One pass over the format. -/
def pass (d : Dialect) : (fuel : Nat) → Chars → Pass → Act Pass
  | 0, _, p => return p
  | _, [], p => return p
  | fuel + 1, '\\' :: s, p => do
    match escape d false s with
    | (.stop, _) => return { p with stopped := true }
    | (.chars t, n) => pass d fuel (s.drop n) { p with output := p.output ++ t }
  | fuel + 1, '%' :: '%' :: s, p => pass d fuel s { p with output := p.output ++ ['%'] }
  | fuel + 1, '%' :: s, p => do
    let (x, rest, args) := directive (if d.hexEscapes then withoutSizes s else s) p.rest
    let shown := '%' :: s.take (s.length - rest.length)
    let p' ← applyDirective d shown x { p with rest := args }
    if p'.stopped || p'.failed then return p'
    pass d fuel rest p'
  | fuel + 1, c :: s, p => pass d fuel s { p with output := p.output ++ [c] }

/-- Passes over the format until the arguments are used. -/
def passes (d : Dialect) (format : Chars) : (fuel : Nat) → Pass → Act Pass
  | 0, p => return p
  | fuel + 1, p => do
    let q ← pass d (format.length + 1) format { p with used := false, output := [] }
    let q := { q with output := p.output ++ q.output }
    if q.stopped || q.failed || q.rest.isEmpty || !q.used then return q
    passes d format fuel q

def printf (d : Dialect) (format : Chars) (args : List Chars) : Program := do
  let p ← passes d format (args.length + 1) { rest := args }
  let status ← d.output p.output
  match p.rest with
  | extra :: _ =>
    if d.warnsOfExcess && !p.stopped && !p.failed then
      d.complaint (txt "warning: ignoring excess arguments, starting with " ++ cited extra)
  | [] => pure ()
  return max status p.status

/-- The rules of the programs. -/
def programDialect : Dialect where
  hexEscapes := true
  stopInFormat := true
  warnsOfExcess := true
  extended := true
  shown := cited
  noNumber := "expected a numeric value"
  badDirective s := s ++ txt ": invalid conversion specification"
  openDirective s := s ++ txt ": invalid conversion specification"
  complaint := problem
  output := emitOnly

def printfProgram : Program := do
  match (← self).args with
  | ['-', '-'] :: format :: args | format :: args => printf programDialect format args
  | [] => misuse (txt "missing operand")

/-- The options of `echo`: a word of these letters, and what they ask for. -/
structure EchoOptions where
  newline : Bool := true
  escapes : Bool := false

def echoOptions (o : EchoOptions) : List Chars → EchoOptions × List Chars
  | ('-' :: c :: s) :: rest =>
    if (c :: s).all fun x => x = 'n' || x = 'e' || x = 'E' then
      let o' := (c :: s).foldl (fun o x =>
        if x = 'n' then { o with newline := false } else { o with escapes := x = 'e' }) o
      echoOptions o' rest
    else (o, ('-' :: c :: s) :: rest)
  | args => (o, args)

def echoProgram : Program := do
  let (o, words) := echoOptions {} (← self).args
  let text := Chars.join [' '] words
  let (shown, stopped) :=
    if o.escapes then unescape programDialect (text.length + 1) text else (text, false)
  emitOnly (shown ++ if o.newline && !stopped then ['\n'] else [])

end Conformance.Host.Utility
