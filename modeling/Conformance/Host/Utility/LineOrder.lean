import Conformance.Host.Numeral
import Conformance.Host.Utility.Lines

/-!
# The order of lines

Lines are compared by keys, which are parts of them, and a key by its text, its number or another
rule.
-/
namespace Conformance.Host.Utility

/-! ## What is compared -/

inductive KeyKind
  | text
  | number
  | general
  | human
  | month
  | version
deriving DecidableEq

/-- How keys are compared, and which characters of them count. -/
structure KeyRule where
  kind : KeyKind := .text
  reverse : Bool := false
  folds : Bool := false
  dictionary : Bool := false
  printable : Bool := false
  /-- Blanks before the start and before the end of the key are passed over. -/
  skipsStart : Bool := false
  skipsEnd : Bool := false
deriving DecidableEq

/-- The rule with what a letter asks for. -/
def KeyRule.with? (r : KeyRule) : Char → Option KeyRule
  | 'd' => some { r with dictionary := true }
  | 'f' => some { r with folds := true }
  | 'g' => some { r with kind := .general }
  | 'h' => some { r with kind := .human }
  | 'i' => some { r with printable := true }
  | 'M' => some { r with kind := .month }
  | 'n' => some { r with kind := .number }
  | 'r' => some { r with reverse := true }
  | 'V' => some { r with kind := .version }
  | _ => none

/-- A decimal number at the start of a text, after blanks, as a whole number of its last place. -/
def leadingDecimal (s : Chars) : Int × Nat :=
  let s := s.dropWhile isFieldBlank
  let negative := s.head? = some '-'
  let s := if negative then s.drop 1 else s
  let whole := s.takeWhile Char.isDigit
  let places := match s.drop whole.length with
    | '.' :: r => r.takeWhile Char.isDigit
    | _ => []
  let n : Int := Chars.natOfDigits (whole ++ places)
  (if negative then -n else n, places.length)

/-- Numbers of different last places in order. -/
def compareDecimals (a b : Int × Nat) : Ordering :=
  compare (a.1 * (Nat.pow 10 b.2 : Nat)) (b.1 * (Nat.pow 10 a.2 : Nat))

/-- Numbers with an exponent in order; what is no number comes first, and before the others what
cannot be compared. -/
def compareGeneral (a b : Chars) : Ordering :=
  let rank (s : Chars) : Nat × Float :=
    let (x, rest) := Numeral.leading s
    if rest.length = s.length then (0, 0) else if x.isNaN then (1, 0) else (2, x)
  let ((m, x), (n, y)) := (rank a, rank b)
  (compare m n).then (if x < y then .lt else if y < x then .gt else .eq)

/-- The power that a letter behind a number stands for; that of a negative number is negative. -/
def unitPower (s : Chars) : Int :=
  let s := s.dropWhile isFieldBlank
  let negative := s.head? = some '-'
  let digits := (if negative then s.drop 1 else s).takeWhile fun c => c.isDigit || c == '.'
  let letter := (if negative then s.drop 1 else s)[digits.length]?
  let power : Nat := (letter.bind fun c => "KMGTPEZYRQ".toList.idxOf? c.toUpper).elim 0 (· + 1)
  let isUnit := letter != some 'm' && letter != some 'g'
  if !isUnit || !digits.any (fun c => c.isDigit && c != '0') then 0
  else if negative then -(power : Int) else power

def monthNames : List String :=
  ["JAN", "FEB", "MAR", "APR", "MAY", "JUN", "JUL", "AUG", "SEP", "OCT", "NOV", "DEC"]

/-- The number of the month whose name starts a text, or zero. -/
def monthNumber (s : Chars) : Nat :=
  let name := ((s.dropWhile isFieldBlank).take 3).map Char.toUpper
  (monthNames.idxOf? (String.ofList name)).elim 0 (· + 1)

/-- The place of a character in the order of versions: a tilde comes before the end, which is
`none`, and letters come before all others. -/
def versionRank : Option Char → Int
  | none => 0
  | some '~' => -1
  | some c => if c.isDigit then 0 else if c.isAlpha then c.toNat else c.toNat + 256

/-- Texts with numbers in them in order: what is no digit by rank, numbers by value. -/
def compareVersions : (fuel : Nat) → Chars → Chars → Ordering
  | 0, _, _ => .eq
  | _ + 1, [], [] => .eq
  | fuel + 1, a, b =>
    let isWord (s : Chars) : Bool := !((s.head?.map Char.isDigit).getD true)
    if isWord a || isWord b then
      match compare (versionRank a.head?) (versionRank b.head?) with
      | .eq => compareVersions fuel (a.drop 1) (b.drop 1)
      | o => o
    else
      let (m, n) := (a.takeWhile Char.isDigit, b.takeWhile Char.isDigit)
      match compare (Chars.natOfDigits m) (Chars.natOfDigits n) with
      | .eq => compareVersions fuel (a.drop m.length) (b.drop n.length)
      | o => o

/-- A file name without its endings, such as `.tar.gz`. -/
def withoutEndings (s : Chars) : Chars :=
  let parts := Text.splitOn (· == '.') s
  let isEnding (part : Chars) : Bool :=
    match part with
    | c :: rest => (c.isAlpha || c == '~') && rest.all fun c => c.isAlphanum || c == '~'
    | [] => false
  let kept := (parts.drop 1).reverse.dropWhile isEnding
  if parts.head? = some [] && kept.isEmpty then s
  else Chars.join ['.'] (parts.take 1 ++ kept.reverse)

/-- Names in order, as versions: the two that every folder has come first, then what is hidden. -/
def compareFileVersions (a b : Chars) : Ordering :=
  let rank (s : Chars) : Nat :=
    if s.isEmpty then 0 else if s = txt "." then 1 else if s = txt ".." then 2
    else if s.head? = some '.' then 3 else 4
  let byName (a b : Chars) : Ordering := compareVersions (a.length + b.length + 1) a b
  (compare (rank a) (rank b)).then <|
    (byName (withoutEndings a) (withoutEndings b)).then (byName a b)

/-- Compares two keys, not yet reversed. -/
def KeyRule.compare (r : KeyRule) (a b : Chars) : Ordering :=
  let counts (c : Char) : Bool :=
    (!r.dictionary || isFieldBlank c || c.isAlphanum) &&
      (!r.printable || (0x20 ≤ c.toNat && c.toNat < 0x7f))
  let seen (s : Chars) : Chars :=
    let s := s.filter counts
    if r.folds then s.map Char.toUpper else s
  match r.kind with
  | .number => compareDecimals (leadingDecimal a) (leadingDecimal b)
  | .general => compareGeneral a b
  | .human =>
    (Ord.compare (unitPower a) (unitPower b)).then
      (compareDecimals (leadingDecimal a) (leadingDecimal b))
  | .month => Ord.compare (monthNumber a) (monthNumber b)
  | .version => compareFileVersions (seen a) (seen b)
  | .text => Ord.compare (seen a) (seen b)

/-! ## Keys -/

/-- A place in a line: so many fields are passed to come to it, and then so many characters. -/
structure KeyPlace where
  fields : Nat := 0
  chars : Nat := 0

structure SortKey where
  start : KeyPlace := {}
  /-- Where the key ends, if not at the end of the line. -/
  finish : Option KeyPlace := none
  rule : KeyRule := {}

/-- What follows so many fields. Fields end at `mark`, or each starts with blanks. `through` leaves
out the last mark. -/
def afterFields (mark : Option Char) (through : Bool) : Nat → Chars → Chars
  | 0, s => s
  | n + 1, s =>
    let rest := match mark with
      | some c =>
        let rest := s.dropWhile (· != c)
        if through && n = 0 then rest else rest.drop 1
      | none => (s.dropWhile isFieldBlank).dropWhile fun c => !isFieldBlank c
    afterFields mark through n rest

/-- The part of a line that a key names. -/
def SortKey.part (mark : Option Char) (k : SortKey) (line : Chars) : Chars :=
  let skip (skips : Bool) (s : Chars) : Chars := if skips then s.dropWhile isFieldBlank else s
  let start := (skip k.rule.skipsStart (afterFields mark false k.start.fields line)).drop
    k.start.chars
  match k.finish with
  | none => start
  | some place =>
    let rest := if place.chars = 0 then afterFields mark true (place.fields + 1) line
      else (skip k.rule.skipsEnd (afterFields mark false place.fields line)).drop place.chars
    start.take (start.length - rest.length)

/-- Why a text names no key. -/
inductive KeyFault
  | noCount (wanted : String) (s : Chars)
  | improper (what : String) (s : Chars)

def KeyFault.message : KeyFault → Chars
  | .noCount wanted s => wanted.toList ++ txt ": invalid count at start of " ++ cited s
  | .improper what s => what.toList ++ txt ": invalid field specification " ++ cited s

/-- A count and what follows it. -/
def keyCount (wanted : String) (s : Chars) : Except KeyFault (Nat × Chars) :=
  let ds := s.takeWhile Char.isDigit
  if ds.isEmpty then .error (.noCount wanted s)
  else .ok (Chars.natOfDigits ds, s.drop ds.length)

/-- The rule with what letters ask for, and what follows these. -/
def keyLetters (atStart : Bool) (r : KeyRule) : Chars → KeyRule × Chars
  | [] => (r, [])
  | 'b' :: s =>
    keyLetters atStart (if atStart then { r with skipsStart := true }
      else { r with skipsEnd := true }) s
  | c :: s =>
    match r.with? c with
    | some r' => keyLetters atStart r' s
    | none => (r, c :: s)

/-- The key that a text names. -/
def SortKey.read (s : Chars) : Except KeyFault SortKey := do
  let (field, rest) ← keyCount "invalid number at field start" s
  if field = 0 then throw (.improper "field number is zero" s)
  let (char, rest) ← offset rest 1
  if char = 0 then throw (.improper "character offset is zero" s)
  let (rule, rest) := keyLetters true {} rest
  let start : KeyPlace := { fields := field - 1, chars := char - 1 }
  match rest with
  | [] => return { start, rule }
  | ',' :: rest =>
    let (field, rest) ← keyCount "invalid number after ','" rest
    if field = 0 then throw (.improper "field number is zero" s)
    let (char, rest) ← offset rest 0
    let (rule, rest) := keyLetters false rule rest
    if !rest.isEmpty then throw (.improper "stray character in field spec" s)
    return { start, finish := some { fields := field - 1, chars := char }, rule }
  | _ => throw (.improper "stray character in field spec" s)
where
  /-- The place in a field behind a point. -/
  offset (s : Chars) (usual : Nat) : Except KeyFault (Nat × Chars) :=
    match s with
    | '.' :: r => keyCount "invalid number after '.'" r
    | _ => .ok (usual, s)

/-! ## The order of lines -/

/-- By what lines are put in order. -/
structure LineOrder where
  mark : Option Char := none
  keys : List SortKey := []
  reverse : Bool := false
  /-- Lines that no key tells apart are not compared as a whole. -/
  keysOnly : Bool := false

/-- Compares by the keys, the first that tells the lines apart. -/
def LineOrder.byKeys (o : LineOrder) (a b : Chars) : Ordering :=
  o.keys.foldl (fun found k =>
    found.then (
      let c := k.rule.compare (k.part o.mark a) (k.part o.mark b)
      if k.rule.reverse then c.swap else c)) .eq

def LineOrder.compare (o : LineOrder) (a b : Chars) : Ordering :=
  let byKeys := o.byKeys a b
  if o.keysOnly then byKeys
  else byKeys.then (if o.reverse then Ord.compare b a else Ord.compare a b)

/-- Whether `a` may stand before `b`. -/
def LineOrder.le (o : LineOrder) (a b : Chars) : Bool :=
  (o.compare a b).isLE

/-- Keys without a rule of their own take the general one. -/
def SortKey.inherit (general : KeyRule) (k : SortKey) : SortKey :=
  if k.rule = {} then { k with rule := general } else k

/-- The order that options ask for. -/
def LineOrder.ofOptions (p : Parsed) : Except Chars LineOrder := do
  let general := p.options.foldl (fun (r : KeyRule) o =>
    if o.1 = 'b' then { r with skipsStart := true, skipsEnd := true }
    else (r.with? o.1).getD r) {}
  let keys ← (p.options.filter (·.1 == 'k')).mapM fun o =>
    match SortKey.read o.2 with
    | .ok k => .ok (k.inherit general)
    | .error f => .error f.message
  let mark ← match p.value? 't' with
    | none => .ok none
    | some [] => .error (txt "empty tab")
    | some [c] => .ok (some c)
    | some ['\\', '0'] => .ok (some '\x00')
    | some s => .error (txt "multi-character tab " ++ cited s)
  return {
    mark
    keys := if keys.isEmpty then [{ rule := general }] else keys
    reverse := general.reverse
    keysOnly := p.has 's' || p.has 'u' }

end Conformance.Host.Utility
