import Conformance.Host.Utility.Streams

/-!
# Comparisons byte by byte

`cmp` tells where two inputs differ first, or shows all bytes in which they differ.
-/
namespace Conformance.Host.Utility

/-- What is told of a comparison. -/
inductive Account
  | first
  | all
  | nothing
deriving DecidableEq

structure Comparison where
  account : Account := .first
  /-- The bytes themselves are shown too. -/
  bytes : Bool := false
  /-- How much is passed over at the start of each input. -/
  skips : Nat × Nat := (0, 0)
  most : Option Nat := none

namespace Comparison

/-- A number of bytes; a leading zero or `0x` changes its base, and a unit may follow. -/
def size? (s : Chars) : Option Nat :=
  let (base, digits) := match s with
    | '0' :: 'x' :: r => (16, r)
    | '0' :: r => (8, '0' :: r)
    | r => (10, r)
  let taken := digits.takeWhile fun c => (hexDigitValue c).any (· < base)
  let unit := digits.drop taken.length
  if taken.isEmpty || unit = ['b'] then none
  else
    let n := taken.foldl (fun n c => base * n + (hexDigitValue c).getD 0) 0
    match countUnits.lookup (String.ofList unit) with
    | some u => if n * u < Nat.pow 2 63 then some (n * u) else none
    | none => none

/-- A number that an option gives, which stands in a text. -/
def sizeOption (option : String) (whole s : Chars) : Except Chars Nat :=
  match size? s with
  | some n => .ok n
  | none => .error (txt ("invalid --" ++ option ++ " value '") ++ whole ++ ['\''])

/-- The long name of the option that passes over bytes. -/
def skipping : String := "ignore-initial"

/-- With one more option. -/
def withOption (k : Comparison) (o : Char × Chars) : Except Chars Comparison := do
  let showing (f : Account) : Except Chars Comparison :=
    if k.account = .first || k.account = f then .ok { k with account := f }
    else .error (txt "options -l and -s are incompatible")
  match o.1 with
  | 'l' => showing .all
  | 's' => showing .nothing
  | 'n' =>
    let n ← sizeOption "bytes" o.2 o.2
    return { k with most := some ((k.most.map (min n)).getD n) }
  | 'i' =>
    let (first, second) := (o.2.takeWhile (· != ':'), (o.2.dropWhile (· != ':')).drop 1)
    let n ← sizeOption skipping o.2 first
    let m ← if o.2.contains ':' then sizeOption skipping second second else .ok n
    return { k with skips := (max k.skips.1 n, max k.skips.2 m) }
  | _ => return { k with bytes := true }

/-- The comparison that options and the operands behind the inputs ask for. -/
def ofArguments (p : Parsed) : Except Chars Comparison := do
  let k ← p.options.foldlM withOption {}
  let skips ← ((p.operands.drop 2).take 2).mapM fun s => sizeOption skipping s s
  match p.operands.drop 4 with
  | extra :: _ => throw (txt "extra operand '" ++ extra ++ ['\''])
  | [] => return { k with skips :=
      (max k.skips.1 (skips.head?.getD 0), max k.skips.2 ((skips[1]?).getD 0)) }

/-- The code of a byte, and the byte itself if it is asked for. -/
def shownByte (k : Comparison) (width : Nat) (c : Char) : Chars :=
  let code := padLeft 3 (Chars.digits 8 c.toNat)
  if !k.bytes then code
  else
    let seen := inSight c
    code ++ ' ' :: seen ++ List.replicate (width - seen.length) ' '

/-- A line for each byte of two texts that differs. -/
def differingBytes (k : Comparison) (width : Nat) : (place : Nat) → Chars → Chars → Chars
  | place, a :: s, b :: t =>
    (if a = b then []
     else
       padLeft width (Chars.ofNat place) ++ ' ' :: k.shownByte 4 a ++ ' ' :: k.shownByte 0 b ++
         ['\n']) ++ k.differingBytes width (place + 1) s t
  | _, _, _ => []

/-- The number of the first byte that two texts differ in and of its line, with both bytes. -/
def firstDifference : (place line : Nat) → Chars → Chars → Option (Nat × Nat × Char × Char)
  | place, line, a :: s, b :: t =>
    if a = b then firstDifference (place + 1) (if a = '\n' then line + 1 else line) s t
    else some (place, line, a, b)
  | _, _, _, _ => none

/-- The end of the shorter of two texts, of which it is the start. -/
def endShown (k : Comparison) (name shorter : Chars) : Chars :=
  let lines := (shorter.filter (· == '\n')).length
  txt "cmp: EOF on " ++ name ++
    if shorter.isEmpty then txt " which is empty\n"
    else
      txt " after byte " ++ Chars.ofNat shorter.length ++
        (if k.account = .all then []
         else if shorter.getLast? = some '\n' then txt ", line " ++ Chars.ofNat lines
         else txt ", in line " ++ Chars.ofNat (lines + 1)) ++ ['\n']

/-- Compares what was read of two inputs of some names. `width` is that of the places. -/
def run (k : Comparison) (width : Nat) (a b s t : Chars) : Program := do
  if s = t then return 0
  let ended : Act Unit := do
    if s.length < t.length then complain (k.endShown a s)
    else if t.length < s.length then complain (k.endShown b t)
  match k.account with
  | .nothing => return 1
  | .all =>
    emit (k.differingBytes width 1 s t)
    ended
  | .first =>
    match firstDifference 1 1 s t with
    | some (place, line, c, d) =>
      emit (a ++ ' ' :: b ++ txt " differ: byte " ++
        Chars.ofNat place ++ txt ", line " ++ Chars.ofNat line ++
        (if k.bytes then txt " is " ++ k.shownByte 0 c ++ ' ' :: k.shownByte 0 d else []) ++ ['\n'])
    | none => ended
  return 1

end Comparison

/-- The size of the largest file. -/
def largestSize : Nat :=
  Nat.pow 2 63 - 1

/-- Compares two inputs, the first of which is there. -/
def compareInputs (k : Comparison) (a b : Chars) (first : Supply) : Program := do
  let sizes := [← regularSize? a, ← regularSize? b]
  if a = b && k.skips.1 = k.skips.2 then return 0
  let second ← if b = ['-'] then drain 0 else supplyOf b
  let unread (name : Chars) (s : Supply) : Act Bool := do
    match s.tail with
    | .broken e =>
      if k.account ≠ .nothing || e = FileError.isFolder.words then
        problem (name ++ txt ": " ++ e.toList)
      return true
    | _ => return false
  if ← unread b second then return 2
  if ← unread a first then return 2
  let content (s : Supply) (skip : Nat) : Chars :=
    let rest := (s.unroll maxPeriods).content.drop skip
    (k.most.map rest.take).getD rest
  let texts := (content first k.skips.1, content second k.skips.2)
  let rests := (sizes.zip [k.skips.1, k.skips.2]).filterMap fun (n, skip) => n.map (· - skip)
  let most := rests.foldl min (k.most.getD largestSize)
  [first, second].forM fun s => do
    if !s.isEndless then awaitTail s
  k.run (Chars.ofNat most).length a b texts.1 texts.2

def cmp : Program := do
  let table : OptionTable :=
    { letters := txt "sblc", valued := txt "ni"
      long := [(txt "quiet", 's'), (txt "silent", 's'), (txt "print-bytes", 'b'),
        (txt "ignore-initial", 'i'), (txt "verbose", 'l'), (txt "bytes", 'n')] }
  match table.parse (← self).args with
  | .error message => misuseNamed message
  | .ok p =>
    match Comparison.ofArguments p, p.operands with
    | .error message, _ => misuseNamed message
    | _, [] => misuseNamed (txt "missing operand after '" ++
        ((← self).args.getLast?.getD (← self).name) ++ ['\''])
    | .ok k, a :: more =>
      let first ← if a = ['-'] then drain 0 else supplyOf a
      match first.tail with
      | .broken e =>
        if e ≠ FileError.isFolder.words then
          if k.account ≠ .nothing then problem (a ++ txt ": " ++ e.toList)
          return 2
        compareInputs k a (more.head?.getD ['-']) first
      | _ => compareInputs k a (more.head?.getD ['-']) first

end Conformance.Host.Utility
