import Conformance.Host.CharClass
import Conformance.Host.Utility.Lines

/-!
# Sets of characters

`tr` replaces characters, removes them, or shortens runs of them. The characters are given by sets:
single ones, ranges, classes such as `[:digit:]`, and in the second set a character that is
repeated, as often as the first set needs it if no number is given.
-/
namespace Conformance.Host.Utility

def allBytes : Chars :=
  (List.range 256).map Char.ofNat

/-! ## Reading -/

/-- A character of a set as it is written. Behind a backslash it has no special meaning. -/
structure SetChar where
  char : Char
  plain : Bool

/-- A part of a set. -/
inductive SetItem
  | one (c : Char)
  | range (first last : Char)
  | kind (name : Chars) (members : Chars)
  | equivalent (c : Char)
  /-- So many times, or as often as needed. -/
  | repeated (c : Char) (count : Option Nat)

inductive SetFault
  | reversed (first last : Char)
  | noClassName
  | noEquivalent
  | unknownClass (name : Chars)
  | longEquivalent (s : Chars)
  | count (s : Chars)

/-- A character as complaints show it. -/
def shownChar (c : Char) : Chars :=
  if c = '\\' then txt "\\\\"
  else if 0x20 ≤ c.toNat && c.toNat < 0x7f then [c]
  else
    let digits := Chars.digits 8 c.toNat
    '\\' :: List.replicate (3 - digits.length) '0' ++ digits

def SetFault.message : SetFault → Chars
  | .reversed a b =>
    txt "range-endpoints of '" ++ shownChar a ++ '-' :: shownChar b ++
      txt "' are in reverse collating sequence order"
  | .noClassName => txt "missing character class name '[::]'"
  | .noEquivalent => txt "missing equivalence class character '[==]'"
  | .unknownClass name => txt "invalid character class " ++ cited name
  | .longEquivalent s => s ++ txt ": equivalence class operand must be a single character"
  | .count s => txt "invalid repeat count " ++ cited s ++ txt " in [c*n] construct"

/-- The characters that a text writes, with warnings. -/
def setChars : (fuel : Nat) → Chars → List SetChar × List Chars
  | 0, _ | _, [] => ([], [])
  | _ + 1, ['\\'] =>
    ([⟨'\\', false⟩], [txt "warning: an unescaped backslash at end of string is not portable"])
  | fuel + 1, '\\' :: c :: s =>
    let digits := ((c :: s).takeWhile fun d => '0' ≤ d && d ≤ '7').take 3
    if !digits.isEmpty then
      let value (ds : Chars) : Nat := ds.foldl (fun n d => 8 * n + (d.toNat - '0'.toNat)) 0
      let excess := 255 < value digits
      let taken := if excess then digits.take 2 else digits
      let (rest, warnings) := setChars fuel ((c :: s).drop taken.length)
      let warning := txt "warning: the ambiguous octal escape \\" ++ digits ++
        txt " is being\n\tinterpreted as the 2-byte sequence \\0" ++ taken ++ txt ", " ++
        digits.drop 2
      (⟨Char.ofNat (value taken), true⟩ :: rest, if excess then warning :: warnings else warnings)
    else
      let plain := match c with
        | 'n' => '\n'
        | 't' => '\t'
        | 'r' => '\r'
        | 'a' => '\x07'
        | 'b' => '\x08'
        | 'f' => '\x0c'
        | 'v' => '\x0b'
        | c => c
      let (rest, warnings) := setChars fuel s
      (⟨plain, true⟩ :: rest, warnings)
  | fuel + 1, c :: s =>
    let (rest, warnings) := setChars fuel s
    (⟨c, false⟩ :: rest, warnings)

namespace SetChar

/-- Whether the character stands for itself and has its special meaning. -/
def isMark (c : Char) (s : SetChar) : Bool :=
  !s.plain && s.char == c

/-- What stands before two marks, and what follows them. -/
def before? (a b : Char) : List SetChar → Option (Chars × List SetChar)
  | x :: y :: s =>
    if x.isMark a && y.isMark b then some ([], s)
    else (before? a b (y :: s)).map fun (inner, rest) => (x.char :: inner, rest)
  | _ => none

/-- A count between a star and a bracket, and what follows; a count in brackets that is none is a
fault. -/
def repeatCount? (s : List SetChar) : Option (Except SetFault (Option Nat × List SetChar)) :=
  let inner := s.takeWhile fun x => !x.plain && x.char != ']'
  match s.drop inner.length with
  | close :: rest =>
    if !close.isMark ']' then none
    else
      let digits := inner.map (·.char)
      let isOctal := digits.head? = some '0'
      if digits.all fun c => c.isDigit && (!isOctal || c < '8') then
        let n := if isOctal then digits.foldl (fun n d => 8 * n + (d.toNat - '0'.toNat)) 0
          else Chars.natOfDigits digits
        some (.ok (if n = 0 then none else some n, rest))
      else some (.error (.count digits))
  | [] => none

/-- The part of a set that brackets enclose, and what follows it; nothing if brackets stand for
themselves. -/
def bracketed? (s : List SetChar) : Except SetFault (Option (SetItem × List SetChar)) :=
  let repetition : Except SetFault (Option (SetItem × List SetChar)) :=
    match s with
    | c :: star :: rest =>
      match if star.isMark '*' then repeatCount? rest else none with
      | some (.ok (count, rest)) => .ok (some (.repeated c.char count, rest))
      | some (.error f) => .error f
      | none => .ok none
    | _ => .ok none
  match s with
  | mark :: rest =>
    let kind := if mark.isMark ':' then before? ':' ']' rest else none
    let equivalent := if mark.isMark '=' then before? '=' ']' rest else none
    let starred := match rest with
      | star :: more => star.isMark '*' && (repeatCount? more).isSome
      | [] => false
    match kind, equivalent with
    | some ([], _), _ => .error .noClassName
    | some (name, rest), _ =>
      match classMembers name with
      | some member => .ok (some (.kind name (allBytes.filter member), rest))
      | none => if starred then repetition else .error (.unknownClass name)
    | none, some ([], _) => .error .noEquivalent
    | none, some ([c], rest) => .ok (some (.equivalent c, rest))
    | none, some (inner, _) => if starred then repetition else .error (.longEquivalent inner)
    | none, none => repetition
  | [] => .ok none

/-- The parts of a set. -/
def items : (fuel : Nat) → List SetChar → Except SetFault (List SetItem)
  | 0, _ => .ok []
  | fuel + 1, x :: y :: z :: s => do
    match ← if x.isMark '[' then bracketed? (y :: z :: s) else .ok none with
    | some (item, rest) => return item :: (← items fuel rest)
    | none =>
      if y.isMark '-' then
        if z.char < x.char then throw (.reversed x.char z.char)
        return .range x.char z.char :: (← items fuel s)
      return .one x.char :: (← items fuel (y :: z :: s))
  | _ + 1, s => .ok (s.map (.one ·.char))

end SetChar

/-! ## Members -/

namespace SetItem

/-- Whether the item is a class of letters of one case. -/
def isCase : SetItem → Bool
  | kind name _ => name == txt "upper" || name == txt "lower"
  | _ => false

def isKind : SetItem → Bool
  | kind _ _ => true
  | _ => false

/-- Whether the item is repeated as often as needed. -/
def isOpen : SetItem → Bool
  | repeated _ none => true
  | _ => false

/-- The members in order; what is repeated as often as needed is so `fill` times. -/
def members (fill : Nat) : SetItem → Chars
  | one c | equivalent c => [c]
  | range a b => (List.range (b.toNat + 1 - a.toNat)).map fun i => Char.ofNat (a.toNat + i)
  | kind _ cs => cs
  | repeated c count => List.replicate (count.getD fill) c

/-- The places among the members at which classes of letters of one case start. -/
def caseStarts (fill : Nat) : (place : Nat) → List SetItem → List Nat
  | _, [] => []
  | n, item :: items =>
    let rest := caseStarts fill (n + (item.members fill).length) items
    if item.isCase then n :: rest else rest

end SetItem

/-- Without repeats of characters in a set. -/
def squeeze (member : Char → Bool) : Chars → Chars
  | [] => []
  | [c] => [c]
  | a :: b :: s =>
    if a = b && member a then squeeze member (a :: s) else a :: squeeze member (b :: s)
termination_by s => s.length

/-- What is done to the characters of a text. -/
structure CharEdit where
  /-- Characters that are replaced or removed. -/
  sources : Chars
  targets : Chars := []
  removes : Bool := false
  /-- Characters of which runs are shortened. -/
  squeezes : Option Chars := none

def CharEdit.apply (e : CharEdit) (s : Chars) : Chars :=
  let replace (c : Char) : Char :=
    match e.sources.reverse.idxOf? c with
    | none => c
    | some i => (e.targets[e.sources.length - 1 - i]? <|> e.targets.getLast?).getD c
  let s := if e.removes then s.filter (! e.sources.contains ·)
    else if e.targets.isEmpty then s else s.map replace
  match e.squeezes with
  | some set => squeeze set.contains s
  | none => s

/-- Why one set cannot be replaced by another. -/
def pairingFault (complements truncates : Bool) (one two : List SetItem)
    (sources targets : Chars) : Option String :=
  let fill := sources.length - (two.flatMap (·.members 0)).length
  let starts := if complements then [] else SetItem.caseStarts 0 0 one
  if two.any fun | .equivalent _ => true | _ => false then
    some "[=c=] expressions may not appear in string2 when translating"
  else if two.any fun item => item.isKind && !item.isCase then
    some ("when translating, the only character classes that may appear in\n" ++
      "string2 are 'upper' and 'lower'")
  else if !complements && (SetItem.caseStarts fill 0 two).any (! starts.contains ·) then
    some "misaligned [:upper:] and/or [:lower:] construct"
  else if targets.length < sources.length && !truncates && targets.isEmpty then
    some "when not truncating set1, string2 must be non-empty"
  else if targets.length < sources.length && !truncates &&
      (two.getLast?.map SetItem.isKind).getD false then
    some ("when translating with string1 longer than string2,\n" ++
      "the latter string must not end with a character class")
  else if complements && one.any SetItem.isKind &&
      !(targets.length ≤ sources.length && targets.all fun c => some c = targets.head?) then
    some ("when translating with complemented character classes,\n" ++
      "string2 must map all characters in the domain to one")
  else none

/-- The edit that options and sets ask for. -/
def CharEdit.ofSets (p : Parsed) (one : List SetItem) (two : Option (List SetItem)) :
    Except String CharEdit :=
  let complements := p.has 'c' || p.has 'C'
  let listed := one.flatMap (·.members 0)
  let sources := if complements then allBytes.filter (! listed.contains ·) else listed
  if one.any SetItem.isOpen then
    .error "the [c*] repeat construct may not appear in string1"
  else
    match two with
    | none =>
      .ok { sources, removes := p.has 'd', squeezes := if p.has 's' then some sources else none }
    | some items =>
      let fill := sources.length - (items.flatMap (·.members 0)).length
      let targets := items.flatMap (·.members fill)
      if 1 < (items.filter SetItem.isOpen).length then
        .error "only one [c*] repeat construct may appear in string2"
      else if p.has 'd' then
        if items.any SetItem.isOpen then
          .error "the [c*] construct may appear in string2 only when translating"
        else .ok { sources, removes := true, squeezes := some targets }
      else
        match pairingFault complements (p.has 't') one items sources targets with
        | some message => .error message
        | none =>
          .ok {
            sources := if p.has 't' then sources.take targets.length else sources
            targets
            squeezes := if p.has 's' then some targets else none }

def trOptions : OptionTable where
  letters := txt "dscCt"
  long := [(txt "delete", 'd'), (txt "squeeze-repeats", 's'), (txt "complement", 'c'),
    (txt "truncate-set1", 't')]

/-- Complains of a wrong number of sets. -/
def setCountMisuse (message : Chars) (explanation : String) : Program := do
  let name := (← self).name
  problem message
  complain (explanation.toList ++ ['\n'])
  complain (txt "Try '" ++ name ++ txt " --help' for more information.\n")
  return 1

/-- Edits the input as some sets ask for. -/
def exchangeEach (p : Parsed) (one : Chars) (two : Option Chars) : Program := do
  let (chars, warnings) := setChars (one.length + 1) one
  let (chars', warnings') := (two.map fun s => setChars (s.length + 1) s).getD ([], [])
  (warnings ++ warnings').forM problem
  let items : Except SetFault (List SetItem × Option (List SetItem)) := do
    let first ← SetChar.items (chars.length + 1) chars
    let second ← SetChar.items (chars'.length + 1) chars'
    return (first, two.map fun _ => second)
  match items with
  | .error f => problem f.message; return 1
  | .ok (first, second) =>
    match CharEdit.ofSets p first second with
    | .error message => problem message.toList; return 1
    | .ok edit =>
      let s ← drain 0
      if p.has 's' then
        awaitTail s
        emitOnly (edit.apply s.content)
      else emitSupply (s.mapContent edit.apply)

def tr : Program :=
  withOptions trOptions 1 fun p => do
    let most := if p.has 'd' && !p.has 's' then 1 else 2
    let least := if p.has 'd' == p.has 's' then 2 else 1
    match p.operands with
    | [] => misuse (txt "missing operand")
    | one :: more =>
      if more.length + 1 < least then
        setCountMisuse (txt "missing operand after " ++ cited one)
          (if p.has 'd' then "Two strings must be given when both deleting and squeezing repeats."
            else "Two strings must be given when translating.")
      else
        match more.drop (most - 1) with
        | extra :: _ =>
          if most = 1 && more.length = 1 then
            setCountMisuse (txt "extra operand " ++ cited extra)
              "Only one string may be given when deleting without squeezing repeats."
          else misuse (txt "extra operand " ++ cited extra)
        | [] => exchangeEach p one more.head?

end Conformance.Host.Utility
