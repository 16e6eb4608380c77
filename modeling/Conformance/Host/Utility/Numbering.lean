import Conformance.Host.Utility.Expression
import Conformance.Host.Utility.Format

/-!
# Numbers of lines, and lines of numbers

`nl` puts numbers before lines, page by page, and `seq` writes the numbers between two others.
-/
namespace Conformance.Host.Utility

/-! ## Numbered lines -/

/-- Which lines have a number. -/
inductive Numbered
  | all
  | filled
  | none
  | fitting (r : Regex)

/-- The parts of a page, in the order of their marks from the longest. -/
inductive PagePart
  | header
  | body
  | footer
deriving DecidableEq

/-- Where a page is: its part, the next number, and the empty lines that had none. -/
structure PagePlace where
  part : PagePart := .body
  next : Int
  empty : Nat := 0

/-- How a number stands in its column. -/
inductive NumberPlace
  | left
  | right
  | zeros

structure Numbering where
  ofPart : PagePart → Numbered
  mark : Chars := txt "\\:"
  separator : Chars := ['\t']
  width : Nat := 6
  place : NumberPlace := .right
  first : Int := 1
  step : Int := 1
  /-- So many empty lines count as one. -/
  joined : Nat := 1
  /-- Every page starts with the first number. -/
  restarts : Bool := true

namespace Numbering

def numberText (o : Numbering) (n : Int) : Chars :=
  let ds := Chars.ofInt n
  let gap (c : Char) : Chars := List.replicate (o.width - ds.length) c
  match o.place with
  | .left => ds ++ gap ' '
  | .right => gap ' ' ++ ds
  | .zeros => if n < 0 then '-' :: (gap '0' ++ ds.drop 1) else gap '0' ++ ds

/-- The part of the page that starts with a line. -/
def partMark? (o : Numbering) (line : Chars) : Option PagePart :=
  if o.mark.isEmpty then Option.none
  else if line = o.mark ++ o.mark ++ o.mark then some .header
  else if line = o.mark ++ o.mark then some .body
  else if line = o.mark then some .footer
  else Option.none

/-- Whether a line has a number, after so many empty lines that had none. -/
def counts (o : Numbering) (part : PagePart) (empty : Nat) (line : Chars) : Bool :=
  match o.ofPart part with
  | .all => !line.isEmpty || o.joined ≤ empty + 1
  | .filled => !line.isEmpty
  | .none => false
  | .fitting r => (r.find? [] line).isSome

/-- A line with its number, and where the page is after it. -/
def line (o : Numbering) (place : PagePlace) (line : Chars) : Chars × PagePlace :=
  match o.partMark? line with
  | some part => (['\n'], { part, next := if o.restarts then o.first else place.next })
  | Option.none =>
    if o.counts place.part place.empty line then
      (o.numberText place.next ++ o.separator ++ line ++ ['\n'],
        { place with next := place.next + o.step, empty := 0 })
    else
      (List.replicate (o.width + o.separator.length) ' ' ++ line ++ ['\n'],
        { place with empty := if line.isEmpty then place.empty + 1 else 0 })

/-- Lines with their numbers. -/
def lines (o : Numbering) : PagePlace → List Chars → Chars × PagePlace
  | place, [] => ([], place)
  | place, line :: more =>
    let (shown, place) := o.line place line
    let (rest, place) := o.lines place more
    (shown ++ rest, place)

end Numbering

/-- The lines that a text names. -/
def Numbered.read (s : Chars) : Option (Except String Numbered) :=
  match s with
  | 'a' :: _ => some (.ok .all)
  | 't' :: _ => some (.ok .filled)
  | 'n' :: _ => some (.ok .none)
  | 'p' :: r => some (((Regex.read {} r).map .fitting).mapError (·.message))
  | _ => Option.none

def nlOptions : OptionTable where
  letters := ['p']
  valued := txt "bdfhilnsvw"
  long := [(txt "body-numbering", 'b'), (txt "section-delimiter", 'd'),
    (txt "footer-numbering", 'f'), (txt "header-numbering", 'h'), (txt "line-increment", 'i'),
    (txt "join-blank-lines", 'l'), (txt "number-format", 'n'), (txt "no-renumber", 'p'),
    (txt "number-separator", 's'), (txt "starting-line-number", 'v'), (txt "number-width", 'w')]

/-- Why options ask for no numbering, and whether help is offered. -/
structure NumberingFault where
  message : Chars
  offersHelp : Bool := true

/-- The numbering that options ask for. -/
def Numbering.ofOptions (p : Parsed) : Except NumberingFault Numbering := do
  let style (c : Char) (name : String) (usual : Numbered) : Except NumberingFault Numbered :=
    match p.value? c with
    | none => .ok usual
    | some s =>
      match Numbered.read s with
      | some (.ok n) => .ok n
      | some (.error message) => .error { message := message.toList, offersHelp := false }
      | none => .error { message := name.toList ++ txt " numbering style: " ++ cited s }
  let number (c : Char) (name : String) (usual : Int) : Except NumberingFault Int :=
    match p.value? c with
    | none => .ok usual
    | some s =>
      match Chars.int? s with
      | some n => .ok n
      | none =>
        .error { message := txt "invalid " ++ name.toList ++ txt ": " ++ cited s
                 offersHelp := false }
  let positive (c : Char) (name : String) (usual : Nat) : Except NumberingFault Nat := do
    let n ← number c name usual
    if n < 1 then
      throw { message := txt "invalid " ++ name.toList ++ txt ": " ++ cited (Chars.ofInt n) ++
                txt ": Numerical result out of range"
              offersHelp := false }
    return n.toNat
  let header ← style 'h' "invalid header" .none
  let body ← style 'b' "invalid body" .filled
  let footer ← style 'f' "invalid footer" .none
  let place ← match (p.value? 'n').map String.ofList with
    | none | some "rn" => .ok NumberPlace.right
    | some "ln" => .ok .left
    | some "rz" => .ok .zeros
    | some s => .error { message := txt "invalid line numbering format: " ++ cited s.toList }
  let mark := match p.value? 'd' with
    | some [c] => [c, ':']
    | some s => s
    | none => txt "\\:"
  return {
    ofPart := fun
      | .header => header
      | .body => body
      | .footer => footer
    mark
    separator := (p.value? 's').getD ['\t']
    width := ← positive 'w' "line number field width" 6
    place
    first := ← number 'v' "starting line number" 1
    step := ← number 'i' "line number increment" 1
    joined := ← positive 'l' "line number of blank lines" 1
    restarts := !p.has 'p' }

def nl : Program :=
  withOptions nlOptions 1 fun p => do
    match Numbering.ofOptions p with
    | .error f => if f.offersHelp then misuse f.message else do problem f.message; return 1
    | .ok o =>
      throughInputs unreadable (fun place text => o.lines place (bareLines text))
        { next := o.first } p.operands

/-! ## Progressions -/

/-- A number as an argument gives it: a whole number of its last place, the places that it is
written with, and the width of it without an exponent. -/
structure Written where
  value : Int
  places : Nat
  shownPlaces : Nat
  width : Nat

/-- The number that an argument writes. -/
def Written.read (s : Chars) : Option Written :=
  let hex := fun s => (Numeral.hexAt s).elim ((0 : Nat), 0) fun (r, n) => (r.num, n)
  let (negative, n, rest) := Numeral.behindSign hex s
  if rest.isEmpty && !s.isEmpty then
    some { value := if negative then -n else n, places := 0, shownPlaces := 0, width := s.length }
  else
    let decimal := fun s =>
      let (ds, e, n) := Numeral.decimalAt s
      ((ds, e), n)
    let (negative, (ds, e), rest) := Numeral.behindSign decimal s
    if !rest.isEmpty || s.isEmpty then none
    else
      let value : Int := if negative then -ds else ds
      let bare := s.takeWhile fun c => c != 'e' && c != 'E'
      let width := match bare.reverse.findIdx? (· == '.') with
        | none => bare.length
        | some 0 => bare.length - 1
        | some n =>
          let before := bare[bare.length - n - 2]?
          if bare.length = n + 1 || !(before.map Char.isDigit).getD false then bare.length + 1
          else bare.length
      let places := (-e).toNat
      some { value := value * (Nat.pow 10 e.toNat : Nat), places, shownPlaces := places, width }

/-- A number of the last of some places, written out with other places. -/
def showScaled (places : Nat) (shown : Nat) (n : Int) : Chars :=
  (if n < 0 then ['-'] else []) ++ Numeral.fixed shown ⟨n.natAbs, Nat.pow 10 places⟩

/-- The numbers from `n` to `last` in steps. -/
def progression (step last : Int) : (count : Nat) → (n : Int) → List Int
  | 0, _ => []
  | count + 1, n =>
    if (0 < step && last < n) || (step < 0 && n < last) then []
    else n :: progression step last count (n + step)

/-- A format of numbers: what stands before the number and behind it. -/
structure NumberForm where
  before : Chars := []
  shape : Directive
  behind : Chars := []

/-- A text in which two percent signs stand for one, up to the first that stands alone. -/
def plainPart : Chars → Chars × Chars
  | '%' :: '%' :: s =>
    let (text, rest) := plainPart s
    ('%' :: text, rest)
  | '%' :: s => ([], '%' :: s)
  | c :: s =>
    let (text, rest) := plainPart s
    (c :: text, rest)
  | [] => ([], [])

/-- The format that a text writes, or what is wrong with it. -/
def NumberForm.read (s : Chars) : Except String NumberForm :=
  let (before, rest) := plainPart s
  if rest.isEmpty then .error "has no % directive"
  else
    let (d, rest, _) := directive (withoutSizes (rest.drop 1)) []
    if d.conversion = '\x00' then .error "ends in %"
    else if !"efgEFG".toList.contains d.conversion then
      .error ("has unknown %" ++ String.singleton d.conversion ++ " directive")
    else
      let (behind, more) := plainPart rest
      if more.isEmpty then .ok { before, shape := d, behind }
      else .error "has too many % directives"

def NumberForm.apply (f : NumberForm) (places : Nat) (n : Int) : Chars :=
  let magnitude := Numeral.extended ⟨n.natAbs, Nat.pow 10 places⟩
  f.before ++ f.shape.float true (n < 0) (.finite magnitude) ++ f.behind

/-- How the numbers of a progression are shown. -/
def shownNumber (equalWidth : Bool) (form : Option NumberForm) (first step last : Written)
    (places : Nat) (n : Int) : Chars :=
  match form with
  | some f => f.apply places n
  | none =>
    let shown := max first.shownPlaces step.shownPlaces
    let text := showScaled places shown n
    if !equalWidth then text
    else
      let point (w : Written) : Nat := if w.shownPlaces = 0 && 0 < shown then 1 else 0
      let firstWidth := first.width + (shown - first.shownPlaces) + point first
      let lastWidth := last.width + shown - last.shownPlaces + point last -
        (if 0 < last.shownPlaces && shown = 0 then 1 else 0)
      let gap := max firstWidth lastWidth - text.length
      match text with
      | '-' :: ds => '-' :: (List.replicate gap '0' ++ ds)
      | ds => List.replicate gap '0' ++ ds

def seqOptions : OptionTable where
  letters := ['w']
  valued := txt "fs"
  long := [(txt "equal-width", 'w'), (txt "format", 'f'), (txt "separator", 's')]
  leading := true

/-- Writes a progression between two numbers. -/
def writeProgression (p : Parsed) (form : Option NumberForm) (first step last : Written) :
    Program := do
  let places := max (max first.places step.places) last.places
  let scaled (w : Written) : Int := w.value * (Nat.pow 10 (places - w.places) : Nat)
  let (a, d, b) := (scaled first, scaled step, scaled last)
  let count := (b - a).natAbs / d.natAbs + 1
  let shown := (progression d b count a).map
    (shownNumber (p.has 'w') form first step last places)
  if shown.isEmpty then return 0
  emitOnly (Chars.join ((p.value? 's').getD ['\n']) shown ++ ['\n'])

/-- The numbers that operands write; of three the second is not zero. -/
def writtenNumbers (operands : List Chars) : Except Chars (List Written) :=
  operands.zipIdx.mapM fun (s, i) =>
    match Written.read s with
    | none => .error (txt "invalid floating point argument: " ++ cited s)
    | some w =>
      if i = 1 && operands.length = 3 && w.value = 0 then
        .error (txt "invalid Zero increment value: " ++ cited s)
      else .ok w

def seq : Program := do
  let isNumber (s : Chars) : Bool :=
    match s with
    | '-' :: c :: _ => c.isDigit || c == '.'
    | _ => false
  let args := (← self).args
  let options := args.takeWhile fun a => !isNumber a
  modifySelf fun p => { p with args := options }
  withOptions seqOptions 1 fun p => do
    let p := { p with operands := p.operands ++ args.drop options.length }
    match p.operands with
    | [] => return ← misuse (txt "missing operand")
    | _ :: _ :: _ :: extra :: _ => return ← misuse (txt "extra operand " ++ cited extra)
    | _ => pure ()
    let form ← match (p.value? 'f').map fun s => (s, NumberForm.read s) with
      | none => pure none
      | some (_, .ok f) => pure (some f)
      | some (s, .error message) =>
        problem (txt "format " ++ cited s ++ ' ' :: message.toList)
        return 1
    if form.isSome && p.has 'w' then
      return ← misuse (txt "format string may not be specified when printing equal width strings")
    let one : Written := { value := 1, places := 0, shownPlaces := 0, width := 1 }
    match writtenNumbers p.operands with
    | .error message => misuse message
    | .ok [first, step, last] => writeProgression p form first step last
    | .ok [first, last] => writeProgression p form first one last
    | .ok numbers => writeProgression p form one one (numbers.head?.getD one)

end Conformance.Host.Utility
