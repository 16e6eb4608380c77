import Conformance.Host.Utility.Format

/-!
# Dumps of bytes

`od` shows bytes as characters or as numbers, sixteen to a line unless it is told otherwise; lines
that repeat the one before are left out, and a star stands for them.
-/
namespace Conformance.Host.Utility

/-- How an item of some bytes is shown: its size, the width of its text, and its text. -/
structure DumpFormat where
  size : Nat := 1
  width : Nat
  shown : Chars → Chars
  /-- The line ends with its bytes as characters. -/
  trailer : Bool := false

def zeroPadded (width : Nat) (s : Chars) : Chars :=
  List.replicate (width - s.length) '0' ++ s

/-- The number that bytes hold, the least significant first. -/
def littleEndian (s : Chars) : Nat :=
  s.foldr (fun c n => c.toNat + 256 * n) 0

/-! ## Formats -/

def charShown : Chars → Chars
  | [c] =>
    match c with
    | '\x00' => txt "\\0"
    | '\x07' => txt "\\a"
    | '\x08' => txt "\\b"
    | '\t' => txt "\\t"
    | '\n' => txt "\\n"
    | '\x0b' => txt "\\v"
    | '\x0c' => txt "\\f"
    | '\r' => txt "\\r"
    | c => if c.toNat < 0x20 || 0x7f ≤ c.toNat then zeroPadded 3 (Chars.digits 8 c.toNat) else [c]
  | s => s

/-- The names of the characters that control a terminal, and of the blank. -/
def controlNames : List String :=
  ["nul", "soh", "stx", "etx", "eot", "enq", "ack", "bel", "bs", "ht", "nl", "vt", "ff", "cr",
    "so", "si", "dle", "dc1", "dc2", "dc3", "dc4", "nak", "syn", "etb", "can", "em", "sub", "esc",
    "fs", "gs", "rs", "us", "sp"]

/-- The name of a character, for which its highest bit does not count. -/
def nameShown (s : Chars) : Chars :=
  let code := littleEndian s % 128
  if code = 127 then txt "del"
  else ((controlNames[code]?).map String.toList).getD [Char.ofNat code]

def digitsShown (base width : Nat) (s : Chars) : Chars :=
  zeroPadded width (Chars.digits base (littleEndian s))

/-- The number that bytes hold, of which the highest bit tells the sign. -/
def signedShown (size : Nat) (s : Chars) : Chars :=
  let n := littleEndian s
  let all := Nat.pow 256 size
  Chars.ofInt (if 2 * n < all then n else (n : Int) - all)

/-- How many digits a number of some bytes has in a base. -/
def widthOf (base size : Nat) : Nat :=
  (Chars.digits base (Nat.pow 256 size - 1)).length

/-- The format of numbers of some size. -/
def numberFormat (kind : Char) (size : Nat) : DumpFormat :=
  match kind with
  | 'd' =>
    { size
      width := (Chars.digits 10 (Nat.pow 256 size / 2)).length + 1
      shown := signedShown size }
  | 'u' => { size, width := widthOf 10 size, shown := fun s => Chars.ofNat (littleEndian s) }
  | 'x' => { size, width := widthOf 16 size, shown := digitsShown 16 (widthOf 16 size) }
  | _ => { size, width := widthOf 8 size, shown := digitsShown 8 (widthOf 8 size) }

/-- Why a text names no formats. -/
inductive DumpFault
  | character (c : Char)
  | size (n : Nat)

def DumpFault.message (type : Chars) : DumpFault → Chars
  | character c => txt "invalid character '" ++ [c] ++ txt "' in type string " ++ cited type
  | size n =>
    txt "invalid type string " ++ cited type ++ txt ";\nthis system doesn't provide a " ++
      Chars.ofNat n ++ txt "-byte integral type"

/-- The size that a letter or digits name, and what follows it. -/
def dumpSize (s : Chars) : Except DumpFault (Nat × Chars) :=
  match s with
  | 'C' :: s => .ok (1, s)
  | 'S' :: s => .ok (2, s)
  | 'I' :: s => .ok (4, s)
  | 'L' :: s => .ok (8, s)
  | s =>
    let digits := s.takeWhile Char.isDigit
    let n := if digits.isEmpty then 4 else Chars.natOfDigits digits
    if [1, 2, 4, 8].contains n then .ok (n, s.drop digits.length) else .error (.size n)

/-- The formats that a text names, one after another. -/
def dumpFormats : (fuel : Nat) → Chars → Except DumpFault (List DumpFormat)
  | 0, _ | _, [] => .ok []
  | fuel + 1, c :: s => do
    let (format, rest) ←
      match c with
      | 'c' => .ok ({ width := 3, shown := charShown }, s)
      | 'a' => .ok ({ width := 3, shown := nameShown }, s)
      | 'd' | 'u' | 'o' | 'x' => (dumpSize s).map fun (size, rest) => (numberFormat c size, rest)
      | _ => .error (.character c)
    match rest with
    | 'z' :: rest => return { format with trailer := true } :: (← dumpFormats fuel rest)
    | rest => return format :: (← dumpFormats fuel rest)

/-! ## Lines -/

/-- Parts of some size; the last one may be smaller. -/
def partsOf (size : Nat) : (fuel : Nat) → Chars → List Chars
  | 0, _ | _, [] => []
  | fuel + 1, c :: s => (c :: s).take size :: partsOf size fuel ((c :: s).drop size)

/-- What is common to all lines of a dump. -/
structure Dump where
  formats : List DumpFormat
  /-- How many bytes a line has. -/
  bytes : Nat := 16
  address : Nat → Chars
  /-- Lines that repeat the one before are shown too. -/
  whole : Bool := false

namespace Dump

/-- The width of the items of a line without its address. -/
def width (d : Dump) : Nat :=
  d.formats.foldl (fun n f => max n ((f.width + 1) * (d.bytes / f.size))) 0

/-- Items, each with its part of the blanks that make all formats as wide as the widest; `left`
items may be in the line from here on. -/
def items (f : DumpFormat) (pad fields : Nat) : (left waiting : Nat) → List Chars → Chars
  | left + 1, waiting, item :: more =>
    let next := pad * left / fields
    padLeft (waiting - next + f.width) (f.shown item) ++ items f pad fields left next more
  | _, _, _ => []

/-- The bytes of a line as characters. -/
def trailer (line : Chars) : Chars :=
  let shown (c : Char) : Char := if c.toNat < 0x20 || 0x7f ≤ c.toNat then '.' else c
  txt "  >" ++ line.map shown ++ ['<']

/-- A line in one format. -/
def row (d : Dump) (f : DumpFormat) (line : Chars) : Chars :=
  let fields := d.bytes / f.size
  let pad := d.width - f.width * fields
  let parts := partsOf f.size (line.length + 1) line
  let shown := items f pad fields fields pad parts
  if f.trailer then
    let blank := fields - parts.length
    shown ++ List.replicate (blank * f.width + pad * blank / fields) ' ' ++ trailer line
  else shown

/-- A line in all formats, of which only the first has the address before it. -/
def rows (d : Dump) (offset : Nat) (line : Chars) : List Chars :=
  let address := d.address offset
  d.formats.zipIdx.map fun (f, i) =>
    (if i = 0 then address else List.replicate address.length ' ') ++ d.row f line

/-- The lines of a dump. `repeated` tells that the line before was shown as a star. -/
def lines (d : Dump) (last : Option Chars) (repeated : Bool) (offset : Nat) :
    List Chars → List Chars
  | [] => []
  | line :: more =>
    let next := offset + line.length
    if !d.whole && last = some line && line.length = d.bytes then
      if repeated then d.lines last true next more else ['*'] :: d.lines last true next more
    else d.rows offset line ++ d.lines (some line) false next more

end Dump

/-! ## The program -/

def dumpOptions : OptionTable where
  letters := txt "abcdfhilosxvB"
  valued := txt "AtNjS"
  attached := ['w']
  long := [(txt "format", 't'), (txt "address-radix", 'A'), (txt "skip-bytes", 'j'),
    (txt "read-bytes", 'N'), (txt "output-duplicates", 'v'), (txt "width", 'w')]

/-- The types that options ask for, in their order. -/
def dumpTypes (p : Parsed) : List Chars :=
  p.options.filterMap fun (c, value) =>
    match c with
    | 'a' | 'c' => some [c]
    | 'b' => some (txt "o1")
    | 'd' => some (txt "u2")
    | 'i' => some (txt "dI")
    | 'l' => some (txt "dL")
    | 'o' | 'B' => some (txt "o2")
    | 's' => some (txt "d2")
    | 'x' | 'h' => some (txt "x2")
    | 't' => some value
    | _ => none

/-- The address of a line in a base that a letter names. -/
def dumpAddress? (radix : Option Chars) : Option (Nat → Chars) :=
  match radix with
  | none | some ['o'] => some fun n => zeroPadded 7 (Chars.digits 8 n)
  | some ['d'] => some fun n => zeroPadded 7 (Chars.digits 10 n)
  | some ['x'] => some fun n => zeroPadded 6 (Chars.digits 16 n)
  | some ['n'] => some fun _ => []
  | _ => none

/-- The formats that options ask for. -/
def formatsOf (types : List Chars) : Except Chars (List DumpFormat) :=
  (types.mapM fun s => (dumpFormats s.length s).mapError (·.message s)).map List.flatten

/-- A number of bytes that an option gives. -/
def bytesOption (p : Parsed) (c : Char) : Except Chars (Option Nat) :=
  match p.value? c with
  | none => .ok none
  | some s =>
    match count? s with
    | some n => .ok (some n)
    | none => .error (txt "invalid -" ++ [c] ++ txt " argument '" ++ s ++ ['\''])

/-- The dump that options ask for, with how much is passed over and how much is shown. -/
def dumpOf (p : Parsed) : Except Chars (Dump × Nat × Option Nat) := do
  let types := dumpTypes p
  let radix := (p.value? 'A').map (·.take 1)
  let address ← match dumpAddress? radix with
    | some address => pure address
    | none => throw (txt "invalid output address radix '" ++ radix.getD [] ++
        txt "'; it must be one character from [doxn]")
  let skipped ← bytesOption p 'j'
  let most ← bytesOption p 'N'
  let formats ← formatsOf (if types.isEmpty then [txt "o2"] else types)
  let bytes ← match p.value? 'w' with
    | none => pure 16
    | some [] => pure 32
    | some s => match count? s with
      | some n => pure n
      | none => throw (txt "invalid -w argument '" ++ s ++ ['\''])
  return ({ formats, bytes, address, whole := p.has 'v' }, skipped.getD 0, most)

def od : Program :=
  withOptions dumpOptions 1 fun p => do
    match dumpOf p with
    | .error message =>
      problem message
      return 1
    | .ok (d, skipped, most) =>
      let unit := d.formats.foldl (fun n f => max n f.size) 1
      let isProper := 0 < d.bytes && d.bytes % unit = 0
      if !isProper then
        problem (txt "warning: invalid width " ++ Chars.ofNat d.bytes ++ txt "; using " ++
          Chars.ofNat unit ++ txt " instead")
      let d := if isProper then d else { d with bytes := unit }
      let (text, status) ← gather p.operands unreadable
      if status ≠ 0 && text.isEmpty then return status
      if text.length < skipped then
        problem (txt "cannot skip past end of combined input")
        return 1
      let text := text.drop skipped
      let text := (most.map text.take).getD text
      let last := d.address (skipped + text.length)
      let shown := d.lines none false skipped (partsOf d.bytes (text.length + 1) text) ++
        if last.isEmpty then [] else [last]
      emit (unlines shown)
      return status

end Conformance.Host.Utility
