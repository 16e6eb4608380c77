import Conformance.Host.Utility.Streams

/-!
# Programs that work on lines and characters
-/
namespace Conformance.Host.Utility

/-- Lines without their newlines; a last line without one counts as any other. -/
def bareLines (s : Chars) : List Chars :=
  (Chars.lines s).map Chars.withoutNewline

def unlines (lines : List Chars) : Chars :=
  lines.flatMap (· ++ ['\n'])

/-- Lines, or with `byNul` set the parts that NULs end. -/
def recordsOf (byNul : Bool) (s : Chars) : List Chars :=
  if byNul then
    let parts := Text.splitOn (· == '\x00') s
    if parts.getLast? = some [] then parts.dropLast else parts
  else bareLines s

def charsLe (a b : Chars) : Bool :=
  !decide (b < a)

/-! ## Parts of lines -/

/-- Places from `first` to `last`, which start at 1; to the end if there is no last one. -/
structure Stretch where
  first : Nat
  last : Option Nat

/-- Why a list names no places. -/
inductive PlaceFault
  | zero
  | decreasing
  | noEnd
  | twoDashes
  | improper (s : Chars)

def PlaceFault.message (fields : Bool) : PlaceFault → Chars
  | .zero => txt (if fields then "fields are numbered from 1"
      else "byte/character positions are numbered from 1")
  | .decreasing => txt "invalid decreasing range"
  | .noEnd => txt "invalid range with no endpoint: -"
  | .twoDashes => txt (if fields then "invalid field range" else "invalid byte or character range")
  | .improper s => txt (if fields then "invalid field value " else
      "invalid byte/character position ") ++ cited s

namespace Stretch

/-- The stretch at the start of a list, and what follows it. -/
def take (s : Chars) : Except PlaceFault (Stretch × Chars) := do
  let low := s.takeWhile Char.isDigit
  let start := Chars.natOfDigits low
  match s.drop low.length with
  | '-' :: rest =>
    if !low.isEmpty && start = 0 then throw .zero
    let start := if low.isEmpty then 1 else start
    let high := rest.takeWhile Char.isDigit
    let rest := rest.drop high.length
    if rest.head? = some '-' then throw .twoDashes
    if !(rest.isEmpty || (rest.head?.map ends).getD false) then throw (.improper rest)
    if high.isEmpty then
      if low.isEmpty then throw .noEnd
      return (⟨start, none⟩, rest)
    let finish := Chars.natOfDigits high
    if finish < start then throw .decreasing
    return (⟨start, some finish⟩, rest)
  | rest =>
    if !(rest.isEmpty || (rest.head?.map ends).getD false) then throw (.improper rest)
    if start = 0 then throw .zero
    return (⟨start, some start⟩, rest)
where
  /-- Whether a character parts the items of a list. -/
  ends (c : Char) : Bool :=
    c == ',' || isBlank c

/-- The stretches of a list. -/
def readList : (fuel : Nat) → Chars → Except PlaceFault (List Stretch)
  | 0, _ => .ok []
  | fuel + 1, s => do
    let (stretch, rest) ← take s
    if rest.isEmpty then return [stretch]
    return stretch :: (← readList fuel (rest.drop 1))

/-- Stretches in order, those that overlap made one. -/
def merged : List Stretch → List Stretch
  | a :: b :: more =>
    match a.last with
    | none => [a]
    | some n =>
      if b.first ≤ n then merged (⟨a.first, b.last.map (max n)⟩ :: more)
      else a :: merged (b :: more)
  | stretches => stretches
termination_by stretches => stretches.length

/-- What is left out by stretches in order, from some place on. -/
def gaps (start : Nat) : List Stretch → List Stretch
  | [] => [⟨start, none⟩]
  | a :: more =>
    (if start < a.first then [⟨start, some (a.first - 1)⟩] else []) ++
      match a.last with
      | none => []
      | some n => gaps (n + 1) more

/-- The items at the places of a stretch. -/
def pick {α : Type} (items : List α) (a : Stretch) : List α :=
  let rest := items.drop (a.first - 1)
  match a.last with
  | none => rest
  | some n => rest.take (n + 1 - a.first)

end Stretch

/-- What is cut out of lines: places among their characters, or among their fields. -/
structure Cut where
  fields : Bool
  stretches : List Stretch
  mark : Char := '\t'
  /-- What is put between the parts. -/
  joint : Option Chars := none
  /-- Lines without a mark are left out. -/
  strict : Bool := false

/-- What is shown of a line, if it is shown. -/
def Cut.apply (c : Cut) (line : Chars) : Option Chars :=
  if c.fields then
    if line.contains c.mark then
      let fields := Text.splitOn (· == c.mark) line
      some (Chars.join (c.joint.getD [c.mark]) (c.stretches.flatMap (·.pick fields)))
    else if c.strict then none else some line
  else
    let parts := (c.stretches.map (·.pick line)).filter (!·.isEmpty)
    some (Chars.join (c.joint.getD []) parts)

def cutOptions : OptionTable where
  letters := txt "snzC"
  valued := txt "bcfdO"
  long := [(txt "bytes", 'b'), (txt "characters", 'c'), (txt "fields", 'f'),
    (txt "delimiter", 'd'), (txt "only-delimited", 's'), (txt "complement", 'C'),
    (txt "output-delimiter", 'O'), (txt "zero-terminated", 'z')]

/-- The cut that options ask for. -/
def Cut.ofOptions (p : Parsed) : Except Chars Cut := do
  let lists := p.options.filter fun o => o.1 = 'b' || o.1 = 'c' || o.1 = 'f'
  if 1 < lists.length then throw (txt "only one list may be specified")
  if (p.options.any fun o => o.1 = 'd' && 1 < o.2.length) then
    throw (txt "the delimiter must be a single character")
  match lists with
  | [] => throw (txt "you must specify a list of bytes, characters, or fields")
  | (kind, list) :: _ =>
    let fields := kind = 'f'
    if !fields && (p.value? 'd').isSome then
      throw (txt "an input delimiter may be specified only when operating on fields")
    if !fields && p.has 's' then
      throw (txt "suppressing non-delimited lines makes sense\n\tonly when operating on fields")
    match Stretch.readList (list.length + 1) list with
    | .error f => throw (f.message fields)
    | .ok stretches =>
      let merged := Stretch.merged (stretches.mergeSort fun a b => a.first ≤ b.first)
      return {
        fields
        stretches := if p.has 'C' then Stretch.gaps 1 merged else merged
        mark := match p.value? 'd' with
          | none => '\t'
          | some s => s.head?.getD '\x00'
        joint := p.value? 'O'
        strict := p.has 's' }

def cut : Program :=
  withOptions cutOptions 1 fun p => do
    match Cut.ofOptions p with
    | .error message => misuse message
    | .ok c =>
      let shown (text : Chars) : Chars :=
        ((recordsOf (p.has 'z') text).filterMap c.apply).flatMap
          (· ++ [if p.has 'z' then '\x00' else '\n'])
      throughInputs unreadable (fun _ text => (shown text, ())) () p.operands

/-! ## Order turned around -/

/-- A text with each line turned around. -/
def reversedLines (text : Chars) : Chars :=
  (Chars.lines text).flatMap fun l =>
    let turned (l : Chars) : Chars := Chars.spelled (Chars.joined l).reverse
    if l.getLast? = some '\n' then turned l.dropLast ++ ['\n'] else turned l

def rev : Program := do
  throughInputs
    (fun name e => problem (txt "cannot open " ++ name ++ txt ": " ++ e.toList))
    (fun _ text => (reversedLines text, ())) () (← self).args

/-- The parts of a text, each up to a separator and with it, after `part` in reverse. -/
def partsWith (separator : Chars) (part : Chars) : (fuel : Nat) → Chars → List Chars
  | 0, _ | _, [] => if part.isEmpty then [] else [part.reverse]
  | fuel + 1, c :: s =>
    if separator.isPrefixOf (c :: s) then
      (part.reverse ++ separator) ::
        partsWith separator [] fuel ((c :: s).drop (max 1 separator.length))
    else partsWith separator (c :: part) fuel s

def tac : Program :=
  withOptions { letters := ['b', 'r'], valued := ['s'], long := [(txt "separator", 's')] } 1
    fun p => do
    let separator := (p.value? 's').getD ['\n']
    let missing (name : Chars) (e : String) : Act Unit :=
      problem (if e = FileError.isFolder.words then
          quotedIfNeeded name ++ txt ": read error: Invalid argument"
        else txt "failed to open " ++ quoted name ++ txt " for reading: " ++ e.toList)
    let turned (text : Chars) : Chars :=
      (partsWith separator [] (text.length + 1) text).reverse.flatten
    throughInputs missing (fun _ text => (turned text, ())) () p.operands

/-! ## Numbers -/

/-- A number written with digits after the point, as a whole number of the last place. -/
def decimal? (s : Chars) : Option (Int × Nat) :=
  let (negative, s) := match s with
    | '-' :: r => (true, r)
    | '+' :: r => (false, r)
    | r => (false, r)
  let whole := s.takeWhile Char.isDigit
  let value (n : Nat) (places : Nat) : Int × Nat := (if negative then -(n : Int) else n, places)
  match s.drop whole.length with
  | [] => if whole.isEmpty then none else some (value (Chars.natOfDigits whole) 0)
  | '.' :: r =>
    if r.all Char.isDigit && !(whole.isEmpty && r.isEmpty) then
      some (value (Chars.natOfDigits (whole ++ r)) r.length)
    else none
  | _ => none

end Conformance.Host.Utility
