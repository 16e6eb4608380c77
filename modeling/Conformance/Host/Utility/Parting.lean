import Conformance.Host.Utility.Folders

/-!
# Files parted into others

`split` parts an input into files of so many lines or bytes, or into so many files. The files are
named by a beginning and a suffix that counts them.
-/
namespace Conformance.Host.Utility

/-! ## Names of the parts -/

/-- The names of the parts: a beginning, a suffix of digits of some alphabet, and an ending. -/
structure PartNames where
  start : Chars := ['x']
  digits : List Nat := [0, 0]
  alphabet : Chars := txt "abcdefghijklmnopqrstuvwxyz"
  ending : Chars := []
  /-- Suffixes become longer when they are used up. -/
  widens : Bool := true

namespace PartNames

def shown (n : PartNames) : Chars :=
  n.start ++ n.digits.map (fun d => (n.alphabet[d]?).getD 'a') ++ n.ending

/-- The digits that count one more; none behind the last. The last digit comes first. -/
def successor (base : Nat) : List Nat → Option (List Nat)
  | [] => none
  | d :: ds => if d + 1 < base then some ((d + 1) :: ds) else (successor base ds).map (0 :: ·)

/-- The next name. The last digit of the alphabet is kept as the first one of wider suffixes. -/
def next? (n : PartNames) : Option PartNames :=
  let base := n.alphabet.length
  match successor base n.digits.reverse with
  | none => none
  | some ds =>
    let digits := ds.reverse
    if n.widens && digits.head? = some (base - 1) then
      some { n with
        start := n.start ++ n.alphabet.drop (base - 1)
        digits := List.replicate (digits.length + 1) 0 }
    else some { n with digits }

end PartNames

/-! ## How an input is parted -/

/-- Into so many files: by bytes, by whole lines, or line by line in turn. -/
inductive PartKind
  | bytes
  | lines
  | turns
deriving DecidableEq

inductive Parting
  | everyLines (n : Nat)
  | everyBytes (n : Nat)
  /-- As many whole lines as go into so many bytes. -/
  | linesWithin (n : Nat)
  /-- Into so many files, or only one of them, which is shown. -/
  | into (kind : PartKind) (n : Nat) (only : Option Nat)

/-- Items in groups of `n`. -/
def grouped {α : Type} (n : Nat) : (fuel : Nat) → List α → List (List α)
  | 0, _ | _, [] => []
  | fuel + 1, items => items.take n :: grouped n fuel (items.drop n)

/-- Where each of `n` parts of some bytes ends; the first ones take what is left over. -/
def partEnds (size n : Nat) : List Nat :=
  (List.range n).map fun i => (i + 1) * (size / n) + min (i + 1) (size % n)

/-- Records, each with the mark at its end; the last one may have none. -/
def markedRecords (mark : Char) (s : Chars) : List Chars :=
  let parts := Text.splitOn (· == mark) s
  (parts.dropLast.map (· ++ [mark])) ++ (parts.getLast?.toList.filter (!·.isEmpty))

namespace Parting

/-- Whole lines up to some bytes, after `part` in reverse; longer lines are cut. -/
def fill (n : Nat) : (fuel : Nat) → (part : List Chars) → List Chars → List Chars
  | 0, _, _ => []
  | _, part, [] => if part.isEmpty then [] else [part.reverse.flatten]
  | fuel + 1, part, line :: lines =>
    let size := (part.map List.length).foldl (· + ·) 0
    if size + line.length ≤ n then fill n fuel (line :: part) lines
    else if part.isEmpty then line.take n :: fill n fuel [] (line.drop n :: lines)
    else part.reverse.flatten :: fill n fuel [] (line :: lines)

/-- Whole lines in parts, each of which goes on to the end of the line in which it ends. `here` is
the place where the lines begin. -/
def linesTo : (here : Nat) → (ends : List Nat) → List Chars → List Chars
  | _, [], _ => []
  | here, e :: ends, lines =>
    let own := (taken here e lines)
    own.flatten :: linesTo (here + own.flatten.length) ends (lines.drop own.length)
where
  /-- The lines that begin before a place. -/
  taken (here e : Nat) : List Chars → List Chars
    | [] => []
    | line :: lines => if here < e then line :: taken (here + line.length) e lines else []

/-- The parts of an input. -/
def parts (mark : Char) (text : Chars) : Parting → List Chars
  | .everyLines n =>
    let lines := markedRecords mark text
    (grouped n (lines.length + 1) lines).map List.flatten
  | .everyBytes n => grouped n (text.length + 1) text
  | .linesWithin n =>
    fill n (2 * text.length + 2) [] (markedRecords mark text)
  | .into .bytes n _ =>
    let ends := partEnds text.length n
    (ends.zip (0 :: ends)).map fun (finish, start) => (text.drop start).take (finish - start)
  | .into .lines n _ => linesTo 0 (partEnds text.length n) (markedRecords mark text)
  | .into .turns n _ =>
    let lines := (markedRecords mark text).zipIdx
    (List.range n).map fun i => ((lines.filter (·.2 % n == i)).map (·.1)).flatten

/-- How many parts there are, if that is known. -/
def count? : Parting → Option Nat
  | .into _ n _ => some n
  | _ => none

/-- The part that alone is shown. -/
def only? : Parting → Option Nat
  | .into _ _ only => only
  | _ => none

end Parting

/-! ## Options -/

def splitOptions : OptionTable where
  letters := txt "dexuVDX"
  valued := txt "abClntAFIL"
  optional := txt "DX"
  long := [(txt "suffix-length", 'a'), (txt "additional-suffix", 'A'), (txt "bytes", 'b'),
    (txt "line-bytes", 'C'), (txt "numeric-suffixes", 'D'), (txt "hex-suffixes", 'X'),
    (txt "elide-empty-files", 'e'), (txt "filter", 'F'), (txt "lines", 'l'), (txt "number", 'n'),
    (txt "separator", 't'), (txt "unbuffered", 'u'), (txt "verbose", 'V'),
    (txt "io-blksize", 'I')]

/-- Why options cannot be followed, and whether they were misused. -/
structure SplitFault where
  message : Chars
  misused : Bool := false

/-- A count that is not zero. -/
def splitCount (units : Bool) (what : String) (s : Chars) : Except SplitFault Nat :=
  match if units then count? s else Chars.nat? s with
  | some (n + 1) => .ok (n + 1)
  | _ => .error ⟨txt ("invalid number of " ++ what ++ ": ") ++ cited s, false⟩

/-- How many parts there are to be, as an option gives it. -/
def chunksOf (s : Chars) : Except SplitFault Parting := do
  let s := s.dropWhile (· == ' ')
  let (kind, s) := match s with
    | 'r' :: '/' :: r => (PartKind.turns, r)
    | 'l' :: '/' :: r => (PartKind.lines, r)
    | _ => (PartKind.bytes, s)
  let first := s.takeWhile Char.isDigit
  match s.drop first.length with
  | '/' :: r =>
    if first.isEmpty then throw ⟨txt "invalid number of chunks: " ++ cited s, false⟩
    let n ← splitCount false "chunks" r
    let k := Chars.natOfDigits first
    if k = 0 || n < k then throw ⟨txt "invalid chunk number: " ++ cited first, false⟩
    return .into kind n (some k)
  | _ => return .into kind (← splitCount false "chunks" s) none

/-- The way in which an option asks for the input to be parted, if it does. -/
def partingOf (letter : Char) (value : Chars) : Option (Except SplitFault Parting) :=
  match letter with
  | 'l' => some ((splitCount false "lines" value).map .everyLines)
  | 'b' => some ((splitCount true "bytes" value).map .everyBytes)
  | 'C' => some ((splitCount true "lines" value).map .linesWithin)
  | 'n' => some (chunksOf value)
  | _ => none

/-- What ends a line. -/
def splitMark (p : Parsed) : Except SplitFault Char := do
  let marks ← (p.options.filter (·.1 == 't')).mapM fun o =>
    match o.2 with
    | [] => .error ⟨txt "empty record separator", false⟩
    | [c] => .ok c
    | ['\\', '0'] => .ok '\x00'
    | s => .error ⟨txt "multi-character separator " ++ cited s, false⟩
  match marks with
  | [] => return '\n'
  | c :: more =>
    if more.all (· == c) then return c
    throw ⟨txt "multiple separator characters specified", false⟩

/-- The names of parts that options ask for. -/
def partNames (p : Parsed) (parting : Parting) : Except SplitFault PartNames := do
  let style := (p.options.filter fun o => "dxDX".toList.contains o.1).getLast?
  let hex := style.any fun o => o.1 = 'x' || o.1 = 'X'
  let alphabet := if style.isNone then ({} : PartNames).alphabet
    else if hex then txt "0123456789abcdef" else txt "0123456789"
  let first := (style.map (·.2)).getD []
  if !first.all alphabet.contains then
    throw ⟨cited first ++ txt (": invalid start value for " ++
      (if hex then "hexadecimal" else "numerical") ++ " suffix"), true⟩
  let bare := first.dropWhile (· == '0')
  let first := if bare.isEmpty then first.take 1 else bare
  let ending := (p.value? 'A').getD []
  if ending.contains '/' then
    throw ⟨txt "invalid suffix " ++ cited ending ++ txt ", contains directory separator", true⟩
  let given ← match p.value? 'a' with
    | none => pure 0
    | some s =>
      match Chars.nat? s with
      | some n => pure n
      | none => throw ⟨txt "invalid suffix length: " ++ cited s, false⟩
  let needed := match parting.count? with
    | none => 0
    | some n =>
      let start := Chars.natOfDigits first
      let last := if start < n then n - 1 + start else n - 1
      (Nat.toDigits alphabet.length last).length
  if given ≠ 0 && given < needed then
    throw ⟨txt "the suffix length needs to be at least " ++ Chars.ofNat needed, false⟩
  let length := if given ≠ 0 then given else max 2 needed
  if length < first.length then
    throw ⟨txt "numerical suffix start value is too large for the suffix length", true⟩
  return {
    digits := List.replicate (length - first.length) 0 ++
      first.map fun c => (alphabet.idxOf? c).getD 0
    alphabet
    ending
    widens := given = 0 && needed = 0 && first.isEmpty }

/-- Digits that were given as options by themselves are a number of lines. -/
def linesFirst : List Chars → List Chars
  | [] => []
  | [a] => [named a]
  | a :: b :: more =>
    if takesNext a then a :: b :: linesFirst more else named a :: linesFirst (b :: more)
where
  named (a : Chars) : Chars :=
    if a.head? = some '-' && Chars.isDigits (a.drop 1) then txt "-L" ++ a.drop 1 else a
  /-- Whether an argument is an option that has its value in the next one. -/
  takesNext (a : Chars) : Bool :=
    a.head? = some '-' &&
      match splitOptions.letterRun (a.drop 1) with
      | .ok (_, last) => last.isSome
      | .error _ => false

/-- The only way of parting that options ask for. -/
def theParting (p : Parsed) : Except SplitFault Parting := do
  let bare ← match p.value? 'L' with
    | none => pure []
    | some s =>
      match Chars.nat? s with
      | some (n + 1) => pure [.everyLines (n + 1)]
      | _ => throw ⟨txt "invalid number of lines: " ++ cited s, true⟩
  match bare ++ (← (p.options.filterMap fun (c, s) => partingOf c s).mapM id) with
  | [] => return .everyLines 1000
  | [parting] => return parting
  | _ => throw ⟨txt "cannot split in more than one way", true⟩

/-! ## Writing the parts -/

/-- Writes parts under one name after another. -/
def writeParts (p : Parsed) (source : Option FileId) : PartNames → List Chars → Program
  | _, [] => return 0
  | names, part :: more => do
    let name := names.shown
    announce (p.has 'V') (txt "creating file " ++ quoted name)
    let there := (← files).fileOf? (Chars.toPath name)
    if there.isSome && there == source then
      problem (quoted name ++ txt " would overwrite input; aborting")
      return 1
    match ← openToWrite name false with
    | .error e => failed name e
    | .ok n =>
      match ← writeOpened n part with
      | some e => failed name e
      | none =>
        match more, names.next? with
        | [], _ => return 0
        | _ :: _, none =>
          problem (txt "output file suffixes exhausted")
          return 1
        | _ :: _, some names => writeParts p source names more
where
  failed (name : Chars) (e : String) : Program := do
    problem (quotedIfNeeded name ++ txt ": " ++ e.toList)
    return 1

/-- The file that is an input. -/
def sourceFile? (name : Chars) : Act (Option FileId) := do
  if name = ['-'] then
    match ← opened? 0 with
    | some (_, { channel := .file id _, .. }) => return some id
    | _ => return none
  else return (← files).fileOf? (Chars.toPath name)

/-- Parts an input, and writes the parts or shows one of them. -/
def splitInput (p : Parsed) (parting : Parting) (mark : Char) (names : PartNames)
    (source : Chars) : Program := do
  let s ← if source = ['-'] then drain 0 else supplyOf source
  match s.tail with
  | .broken e =>
    problem (if e = FileError.isFolder.words then quotedIfNeeded source ++ txt ": " ++ e.toList
      else txt "cannot open " ++ quoted source ++ txt " for reading: " ++ e.toList)
    return 1
  | _ =>
    let place ← sourceFile? source
    awaitTail s
    let parts := parting.parts mark s.content
    match parting.only? with
    | some k => emitOnly (parts[k - 1]?.getD [])
    | none => writeParts p place names (if p.has 'e' then parts.filter (!·.isEmpty) else parts)

def split : Program := do
  modifySelf fun q => { q with args := linesFirst q.args }
  withOptions splitOptions 1 fun p => do
    let read : Except SplitFault (Parting × Char × PartNames) := do
      let parting ← theParting p
      let mark ← splitMark p
      return (parting, mark, ← partNames p parting)
    match read with
    | .error f =>
      if f.misused then misuse f.message
      else
        problem f.message
        return 1
    | .ok (parting, mark, names) =>
      match p.operands with
      | _ :: _ :: extra :: _ => misuse (txt "extra operand " ++ cited extra)
      | [source, start] => splitInput p parting mark { names with start } source
      | [source] => splitInput p parting mark names source
      | [] => splitInput p parting mark names ['-']

end Conformance.Host.Utility
