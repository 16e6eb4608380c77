import Conformance.Host.CharClass
import Conformance.Host.Program

/-!
# Programs that pass streams on

`cat` passes on all, `head` and `tail` an end of it, `tee` passes on and keeps; `wc` counts, and
`yes` says the same for ever.
-/
namespace Conformance.Host.Utility

/-- Ends the program, since nothing more can be written. -/
def breakOff {α : Type} (e : String) : Act α := do
  problem (txt "write error: " ++ e.toList)
  exitWith (.code 1)

/-- Writes, or ends the program. -/
def writeOrEnd (content : Chars) : Act Unit := do
  if let some e ← write 1 content then breakOff e

/-- How much of a file is passed on at once. -/
def passedSize : Nat := 131072

/-- Passes on what an open description gives, as it comes; why it could not be read, if that was
not possible. -/
def passOn (n : Nat) : (fuel : Nat) → Act (Option String)
  | 0 => return none
  | fuel + 1 => do
    let v ← takeSeen n passedSize
    match v.supply.tail with
    | .broken e => return some e
    | .endless period =>
      writeOrEnd v.supply.content
      if let some e ← writeEndless 1 period then breakOff e
      return none
    | .closed =>
      writeOrEnd v.supply.content
      if v.complete then return none else passOn n fuel

/-- A number with blanks before it, as wide as asked for at least. -/
def padLeft (width : Nat) (s : Chars) : Chars :=
  List.replicate (width - s.length) ' ' ++ s

/-- A character that can be seen in the place of any. -/
def inSight (c : Char) : Chars :=
  let low (n : Nat) : Chars :=
    if n < 0x20 then ['^', Char.ofNat (n + 0x40)] else if n = 0x7f then txt "^?" else [Char.ofNat n]
  if c.toNat < 0x80 then low c.toNat else txt "M-" ++ low (c.toNat - 0x80)

/-- A character as it is shown where all of them are to be seen. -/
def visibleChar (tabs : Bool) (c : Char) : Chars :=
  if c = '\n' || (c = '\t' && !tabs) then [c] else inSight c

/-- How `cat` shows what it passes on. -/
structure Display where
  visible : Bool
  tabs : Bool
  ends : Bool
  squeezed : Bool
  numbered : Bool
  /-- Empty lines have no numbers. -/
  filledOnly : Bool

def Display.ofOptions (p : Parsed) : Display where
  visible := p.has 'v' || p.has 'A' || p.has 'e' || p.has 't'
  tabs := p.has 'T' || p.has 'A' || p.has 't'
  ends := p.has 'E' || p.has 'A' || p.has 'e'
  squeezed := p.has 's'
  numbered := p.has 'n' || p.has 'b'
  filledOnly := p.has 'b'

def Display.isPlain (d : Display) : Bool :=
  !(d.visible || d.tabs || d.ends || d.squeezed || d.numbered)

def Display.line (d : Display) (line : Chars) : Chars :=
  let bare := if line.getLast? = some '\n' then line.dropLast else line
  let seen :=
    if d.visible then bare.flatMap (visibleChar d.tabs)
    else
      let tabbed := if d.tabs then bare.flatMap fun c => if c = '\t' then txt "^I" else [c]
        else bare
      if d.ends && bare.length < line.length && bare.getLast? = some '\r' then
        tabbed.dropLast ++ txt "^M"
      else tabbed
  if bare.length < line.length then seen ++ (if d.ends then txt "$\n" else ['\n']) else seen

/-- What is kept of the inputs that were shown. -/
structure Shown where
  /-- How many lines had a number. -/
  numbers : Nat := 0
  /-- The last line has not ended. -/
  isOpen : Bool := false
  /-- The last line was empty. -/
  isBlank : Bool := false

/-- A line as it is shown after others. -/
def Display.next (d : Display) (k : Shown) (line : Chars) : Chars × Shown :=
  let isBlank := line == ['\n'] && !k.isOpen
  if d.squeezed && k.isBlank && isBlank then ([], k)
  else
    let isOpen := line.getLast? != some '\n'
    if d.numbered && !k.isOpen && !(d.filledOnly && isBlank) then
      (padLeft 6 (Chars.ofNat (k.numbers + 1)) ++ ['\t'] ++ d.line line,
        { numbers := k.numbers + 1, isOpen, isBlank })
    else (d.line line, { k with isOpen, isBlank })

/-- A text as it is shown after others. -/
def Display.apply (d : Display) (k : Shown) (text : Chars) : Chars × Shown :=
  let rec go (k : Shown) : List Chars → Chars × Shown
    | [] => ([], k)
    | line :: more =>
      let (first, k) := d.next k line
      let (rest, k) := go k more
      (first ++ rest, k)
  go k (Chars.lines text)

def catOptions : OptionTable where
  letters := txt "AbeEnstTuv"
  long := [(txt "show-all", 'A'), (txt "number-nonblank", 'b'), (txt "show-ends", 'E'),
    (txt "number", 'n'), (txt "squeeze-blank", 's'), (txt "show-tabs", 'T'),
    (txt "show-nonprinting", 'v')]

/-- Whether two open descriptions lead to one file, of which the first has something to read. -/
def isOwnInput (input output : Nat) : Act Bool := do
  let w ← world
  match w.opened[input]?, w.opened[output]? with
  | some { channel := .file a _, offset, .. }, some { channel := .file b _, .. } =>
    return a = b && offset < (w.files.dataOf a).content.length
  | _, _ => return false

/-- Passes on inputs one after another. -/
def passAll (output : Nat) : (status : Nat) → List Chars → Program
  | status, [] => return status
  | status, name :: more => do
    let failed (e : String) : Program := do
      unreadable name e
      passAll output 1 more
    match ← openInput name with
    | .error e => failed e
    | .ok n =>
      if ← isOwnInput n output then failed "input file is output file"
      else
        match ← passOn n maxArrivals with
        | some e => failed e
        | none => passAll output status more

def cat : Program :=
  withOptions catOptions 1 fun p => do
    match (← self).descriptors.lookup 1 with
    | none =>
      problem (txt "standard output: " ++ badDescriptor.toList)
      return 1
    | some output =>
      let d := Display.ofOptions p
      if d.isPlain then
        let names := if p.operands.isEmpty then [['-']] else p.operands
        let status ← passAll output 0 names
        if names.contains ['-'] && (← opened? 0).isNone then
          problem (txt "closing standard input: " ++ badDescriptor.toList)
          return 1
        return status
      else throughInputs unreadable d.apply {} p.operands

/-! ## Ends -/

/-- Letters behind a count, with the units that they stand for. -/
def countUnits : List (String × Nat) :=
  [("", 1), ("b", 512), ("kB", 1000), ("KB", 1000), ("k", 1024), ("K", 1024), ("KiB", 1024),
    ("MB", 1000000), ("m", 1048576), ("M", 1048576), ("MiB", 1048576), ("GB", 1000000000),
    ("G", 1073741824), ("GiB", 1073741824)]

/-- A count with a unit behind it. -/
def count? (s : Chars) : Option Nat :=
  let number := s.takeWhile Char.isDigit
  match Chars.nat? number, countUnits.lookup (String.ofList (s.drop number.length)) with
  | some n, some unit => some (n * unit)
  | _, _ => none

/-- Which end of an input is asked for. -/
structure Extent where
  bytes : Bool := false
  /-- Counted from the other end. -/
  reversed : Bool := false
  count : Nat := 10
  /-- What ends a line. -/
  mark : Char := '\n'

/-- The extent that options ask for. `sign` turns the count around. -/
def extent (sign : Char) (p : Parsed) : Except Chars Extent := do
  let mark := if p.has 'z' then '\x00' else '\n'
  let read (bytes : Bool) (value : Chars) : Except Chars Extent :=
    let unsigned := match value with
      | '+' :: s | '-' :: s => s
      | s => s
    match count? unsigned with
    | some n => .ok { bytes, reversed := value.head? = some sign, count := n, mark }
    | none =>
      .error (txt "invalid number of " ++ txt (if bytes then "bytes: " else "lines: ") ++
        cited (if value.head? = some '-' then unsigned else value))
  match (p.options.filter fun o => o.1 = 'n' || o.1 = 'c').getLast? with
  | some ('c', value) => read true value
  | some (_, value) => read false value
  | none => return { mark }

/-- A count given as an option by itself is the number of lines, or of bytes if a letter says
so. -/
def countFirst (sign : Char) : List Chars → List Chars
  | (c :: s) :: more =>
    if (c = '-' || c = sign) && (s.head?.map Char.isDigit).getD false then
      let start := if c = sign && c ≠ '-' then [c] else []
      if s.getLast? = some 'c' then txt "-c" :: (start ++ s.dropLast) :: more
      else txt "-n" :: (start ++ s) :: more
    else (c :: s) :: more
  | args => args

def extentOptions : OptionTable where
  letters := txt "qvz"
  valued := txt "nc"
  long := [(txt "lines", 'n'), (txt "bytes", 'c'), (txt "quiet", 'q'), (txt "silent", 'q'),
    (txt "verbose", 'v'), (txt "zero-terminated", 'z')]

def tailOptions : OptionTable where
  letters := txt "qvzfFR"
  valued := txt "ncsPM"
  optional := ['f']
  long := extentOptions.long ++ [(txt "follow", 'f'), (txt "retry", 'R'),
    (txt "sleep-interval", 's'), (txt "pid", 'P'), (txt "max-unchanged-stats", 'M')]
  choices := [('f', ⟨"--follow", [["descriptor"], ["name"]]⟩)]

/-- The name of an input in a line of its own. -/
def headline (first : Bool) (name : Chars) : Chars :=
  (if first then [] else ['\n']) ++ txt "==> " ++
    (if name = ['-'] then txt "standard input" else name) ++ txt " <==\n"

/-- Runs `body` on each input, with a headline if there are several. `asked` says what fails first
if there is no input stream. -/
def eachEnd (p : Parsed) (asked : String) (body : Chars → Nat → Program) : Program := do
  let headlines := (lastOf p ['v', 'q']).elim (decide (1 < p.operands.length)) (· == 'v')
  let rec go (first : Bool) (status : Nat) : List Chars → Program
    | [] => return status
    | name :: more => do
      let shown := if name = ['-'] then txt "standard input" else name
      match ← openInput name with
      | .error e =>
        if name = ['-'] then
          problem (txt asked ++ [' '] ++ quoted shown ++ txt ": " ++ e.toList)
          problem (txt "-: " ++ e.toList)
        else cannotOpen name e
        go first 1 more
      | .ok n =>
        if headlines then emit (headline first name)
        match ← readFault? n with
        | some e =>
          problem (txt "error reading " ++ quoted shown ++ txt ": " ++ e.toList)
          go false 1 more
        | none =>
          let k ← body name n
          go false (max status k) more
  go true 0 (if p.operands.isEmpty then [['-']] else p.operands)

/-- The bytes that a reader in blocks takes at once. -/
def blockSize : Nat := 8192

/-- Takes what comes first; what was read beyond it from a pipe is lost. -/
def headOf (e : Extent) (name : Chars) (input : Nat) : Program := do
  if e.reversed then
    let s ← drainOf input
    awaitTail s
    let text := s.content
    let lines := Chars.endedParts e.mark text
    emitOnly (if e.bytes then text.take (text.length - e.count)
      else (lines.take (lines.length - e.count)).flatten)
  else
    let finish? (s : Chars) : Option Nat :=
      if e.bytes then if e.count ≤ s.length then some e.count else none
      else partsEnd? e.mark e.count s
    let s ← if e.count = 0 then pure {} else takeEnough input finish? maxArrivals []
    let (taken, rest) := if e.bytes then s.split e.count else s.splitParts e.mark e.count
    if name = ['-'] then leaveUnread (if e.bytes then 1 else blockSize) taken.length rest
    emit taken
    if (finish? taken).isNone then awaitTail rest
    return 0

def head : Program := do
  modifySelf fun q => { q with args := countFirst '-' q.args }
  withOptions extentOptions 1 fun p => do
    match extent '-' p with
    | .error message => problem message; return 1
    | .ok e => eachEnd p "error reading" (headOf e)

/-- A complaint about a number that says how an input is followed, if there is one. -/
def followFault? (p : Parsed) : Option Chars :=
  let number (c : Char) (isGood : Chars → Bool) (what : String) : Option Chars :=
    ((p.options.filter (·.1 == c)).find? fun o => !isGood o.2).map fun o =>
      txt "invalid " ++ txt what ++ txt ": " ++ cited o.2
  let isDecimal (s : Chars) : Bool :=
    Chars.isDigits (s.filter (· != '.')) && (s.filter (· == '.')).length ≤ 1
  (number 's' isDecimal "number of seconds").or <|
    (number 'P' Chars.isDigits "PID").or <|
      number 'M' Chars.isDigits "maximum number of unchanged stats between opens"

/-- How long it takes until one looks again at an input that is followed. -/
def followPause : Nat := 100000000

/-- Shows what is added to an input. -/
def follow (input : Nat) : (fuel : Nat) → Program
  | 0 => waitForEver
  | fuel + 1 => do
    arrive ((← self).now + followPause)
    emit (← drainOf input).content
    follow input fuel

/-- Shows what comes last. -/
def tailOf (e : Extent) (follows : Bool) (input : Nat) : Program := do
  let s ← drainOf input
  awaitTail s
  let text := s.content
  let lines := Chars.endedParts e.mark text
  emit (if e.bytes then text.drop (if e.reversed then e.count - 1 else text.length - e.count)
    else (lines.drop (if e.reversed then e.count - 1 else lines.length - e.count)).flatten)
  let isPipe := (← world).opened[input]?.any (·.channel matches .source _)
  if follows && !isPipe then follow input maxArrivals else return 0

def tail : Program := do
  modifySelf fun q => { q with args := countFirst '+' q.args }
  withOptions tailOptions 1 fun p => do
    match followFault? p, extent '+' p with
    | some message, _ | none, .error message =>
      problem message
      return 1
    | none, .ok e =>
      let follows := p.has 'f' || p.has 'F'
      if p.has 'R' && !follows then
        problem (txt "warning: --retry ignored; --retry is useful only when following")
      eachEnd p "cannot fstat" fun _ => tailOf e (follows && !p.has 'P')

/-! ## Counting -/

structure Counts where
  lines : Nat := 0
  words : Nat := 0
  letters : Nat := 0
  bytes : Nat := 0
  /-- The width of the widest line. -/
  width : Nat := 0

/-- The number of words, after a letter that was inside one or not. What cannot be shown
begins no word and ends none. -/
def wordCount : (inside : Bool) → List Letter → Nat
  | inside, [] => if inside then 1 else 0
  | inside, l :: s =>
    if l.partsWords then (if inside then 1 else 0) + wordCount false s
    else wordCount (inside || l.isShown) s

/-- The width of the widest line, after `here` columns of a line and others of width `most`. -/
def widest (most here : Nat) : List Letter → Nat
  | [] => max most here
  | l :: s =>
    match l.bytes with
    | ['\n'] | ['\r'] | ['\x0c'] => widest (max most here) 0 s
    | ['\t'] => widest most (here + 8 - here % 8) s
    | _ => widest most (here + l.width) s

def Counts.ofText (s : Chars) : Counts :=
  let letters := Chars.letters s
  { lines := (s.filter (· == '\n')).length
    words := wordCount false letters
    letters := (letters.filter (·.char?.isSome)).length
    bytes := s.length
    width := widest 0 0 letters }

def Counts.add (a b : Counts) : Counts :=
  ⟨a.lines + b.lines, a.words + b.words, a.letters + b.letters, a.bytes + b.bytes,
    max a.width b.width⟩

/-- The columns that options ask for; without any, all three. -/
def Counts.columns (p : Parsed) (c : Counts) : List Nat :=
  let all := !(p.has 'l' || p.has 'w' || p.has 'c' || p.has 'm' || p.has 'L')
  (if all || p.has 'l' then [c.lines] else []) ++ (if all || p.has 'w' then [c.words] else []) ++
    (if p.has 'm' then [c.letters] else []) ++ (if all || p.has 'c' then [c.bytes] else []) ++
    (if p.has 'L' then [c.width] else [])

/-- The size of a regular file; nothing is the size of what is missing. -/
def regularSize? (name : Chars) : Act (Option Nat) := do
  if name = ['-'] then
    match ← opened? 0 with
    | some (_, { channel := .file id _, .. }) =>
      return some ((← world).files.dataOf id).content.length
    | _ => return none
  else
    match (← files).node? (Chars.toPath name) with
    | some (.file content _) => return some content.length
    | some _ => return none
    | none => return some 0

def countWidth (single : Bool) (sizes : List (Option Nat)) : Nat :=
  if single then 1
  else
    let total := (sizes.filterMap id).foldl (· + ·) 0
    max (Chars.ofNat total).length (if sizes.all Option.isSome then 1 else 7)

def countLine (width : Nat) (columns : List Nat) (name : Chars) : Chars :=
  Chars.join [' '] (columns.map fun n => padLeft width (Chars.ofNat n)) ++
    (if name.isEmpty then [] else ' ' :: name) ++ ['\n']

def wc : Program :=
  withOptions
    { letters := txt "lwcmL"
      long := [(txt "lines", 'l'), (txt "words", 'w'), (txt "bytes", 'c'), (txt "chars", 'm'),
        (txt "max-line-length", 'L')] } 1
    fun p => do
    let inputs := if p.operands.isEmpty then [['-']] else p.operands
    let single := inputs.length == 1 && (Counts.columns p {}).length == 1
    let sizes ← inputs.mapM regularSize?
    let width := countWidth single sizes
    let rec go (total : Counts) (status : Nat) : List Chars → Act (Counts × Nat)
      | [] => return (total, status)
      | name :: more => do
        let s ← if name = ['-'] then drain 0 else supplyOf name
        let failed ← match s.tail with
          | .broken e => unreadable name e; pure (e != FileError.isFolder.words)
          | _ => pure false
        if failed then go total 1 more
        else
          awaitTail s
          let c := Counts.ofText s.content
          let shown := if p.operands.isEmpty then [] else name
          emit (countLine width (c.columns p) shown)
          let broken := match s.tail with
            | .broken _ => 1
            | _ => 0
          go (total.add c) (max status broken) more
    let (total, status) ← go {} 0 inputs
    if 1 < inputs.length then emit (countLine width (total.columns p) (txt "total"))
    return status

/-! ## Others -/

/-- Writes to some outputs by name, and gives those that could be written to. -/
def writeEach (outputs : List (Chars × Option Nat)) (content : Chars) :
    Act (List (Chars × Option Nat)) :=
  outputs.filterM fun (name, n) => do
    let reason ← match n with
      | some n => writeOpened n content
      | none => write 1 content
    match reason with
    | none => return true
    | some e => refuse (name ++ txt ": " ++ e.toList)

/-- Passes on the input, as it comes, to some outputs, and gives those that took all. -/
def copyEach : (fuel : Nat) → List (Chars × Option Nat) → Act (List (Chars × Option Nat))
  | 0, outputs => return outputs
  | fuel + 1, outputs => do
    let v ← reading 0 (.broken badDescriptor) (takeSeen · passedSize)
    let outputs ← if v.supply.content.isEmpty then pure outputs
      else writeEach outputs v.supply.content
    match v.supply.tail with
    | .endless period =>
      let _ ← writeEndless 1 period
      return outputs
    | .broken e =>
      problem (txt "read error: " ++ e.toList)
      return outputs.drop 1
    | .closed => if v.complete then return outputs else copyEach fuel outputs

def tee : Program :=
  withOptions { letters := ['a', 'i'], long := [(txt "append", 'a')] } 1 fun p => do
    let opened ← p.operands.filterMapM fun name => do
      match ← openToWrite name (p.has 'a') with
      | .ok n => return some (quotedIfNeeded name, some n)
      | .error e => unreadable name e; return none
    let kept ← copyEach maxArrivals ((txt "'standard output'", none) :: opened)
    return if kept.length = p.operands.length + 1 then 0 else 1

def yes : Program := do
  let words := (← self).args
  let line := if words.isEmpty then ['y'] else Chars.join [' '] words
  match ← writeEndless 1 (line ++ ['\n']) with
  | none => return 0
  | some e =>
    problem (txt "standard output: " ++ e.toList)
    return 1

end Conformance.Host.Utility
