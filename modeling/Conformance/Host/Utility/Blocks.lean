import Conformance.Host.Utility.Streams

/-!
# Copies in blocks

`dd` copies blocks of bytes, and may change them on the way.
-/
namespace Conformance.Host.Utility

/-! ## Blocks -/

/-- How many whole blocks there are, and how many parts of one. -/
def blockCounts (size bytes : Nat) : Chars :=
  Chars.ofNat (bytes / size) ++ ['+'] ++ (if bytes % size = 0 then ['0'] else ['1'])

/-- A number of bytes with larger units. -/
def sizeShown (n : Nat) : Chars :=
  if n = 1 then txt "1 byte" else Chars.ofNat n ++ txt " bytes"

/-- What is done with the bytes on their way. -/
inductive Conversion
  | upper
  | lower
  | pairsSwapped
  /-- Parts of blocks are filled up. -/
  | filled
  /-- What is in the target behind the copy is kept. -/
  | kept
  | asIs

def Conversion.ofName? (s : Chars) : Option Conversion :=
  match String.ofList s with
  | "ucase" => some .upper
  | "lcase" => some .lower
  | "swab" => some .pairsSwapped
  | "sync" => some .filled
  | "notrunc" => some .kept
  | "noerror" | "fsync" | "fdatasync" | "nocreat" | "excl" | "sparse" => some .asIs
  | _ => none

/-- With the two bytes of each pair exchanged. -/
def swapPairs : Chars → Chars
  | a :: b :: s => b :: a :: swapPairs s
  | s => s

def Conversion.apply (block : Nat) (c : Conversion) (s : Chars) : Chars :=
  match c with
  | .upper => s.map Char.toUpper
  | .lower => s.map Char.toLower
  | .pairsSwapped => swapPairs s
  | .filled => s ++ List.replicate ((block - s.length % block) % block) '\x00'
  | .kept | .asIs => s

/-- A number of bytes, with units, and with factors between crosses. -/
def blockCount? (s : Chars) : Option Nat :=
  let factor? (s : Chars) : Option Nat :=
    match s.getLast? with
    | some 'c' | some 'B' =>
      if (s.dropLast).all Char.isDigit then Chars.nat? s.dropLast else count? s
    | some 'w' => (Chars.nat? s.dropLast).map (2 * ·)
    | _ => count? s
  ((Text.splitOn (· == 'x') s).mapM factor?).map fun factors => factors.foldl (· * ·) 1

/-- What a copy is to do. -/
structure BlockCopy where
  source : Option Chars := none
  target : Option Chars := none
  input : Nat := 512
  output : Nat := 512
  count : Option Nat := none
  skip : Nat := 0
  seek : Nat := 0
  conversions : List Conversion := []
  /-- The counts are told, and then the bytes. -/
  tellsCounts : Bool := true
  tellsBytes : Bool := true

/-- Why settings say nothing of a copy. -/
inductive BlockFault
  | operand (s : Chars)
  | number (s : Chars)
  | conversion (s : Chars)
  | status (s : Chars)

def BlockFault.message : BlockFault → Chars
  | operand s => txt "unrecognized operand " ++ quoted s
  | number s => txt "invalid number: " ++ quoted s
  | conversion s => txt "invalid conversion: " ++ cited s
  | status s => txt "invalid status level: " ++ cited s

/-- A copy with one more setting. -/
def BlockCopy.set (d : BlockCopy) (a : Chars) : Except BlockFault BlockCopy := do
  let name := a.takeWhile (· != '=')
  let value := a.drop (name.length + 1)
  let number (least : Nat) : Except BlockFault Nat :=
    match blockCount? value with
    | some n => if least ≤ n then .ok n else .error (.number value)
    | none => .error (.number value)
  if !a.contains '=' then throw (.operand a)
  match String.ofList name with
  | "if" => return { d with source := some value }
  | "of" => return { d with target := some value }
  | "bs" => let n ← number 1; return { d with input := n, output := n }
  | "ibs" => return { d with input := ← number 1 }
  | "obs" => return { d with output := ← number 1 }
  | "cbs" => let _ ← number 1; return d
  | "count" => return { d with count := some (← number 0) }
  | "skip" | "iseek" => return { d with skip := ← number 0 }
  | "seek" | "oseek" => return { d with seek := ← number 0 }
  | "iflag" | "oflag" => return d
  | "conv" =>
    let names := Text.splitOn (· == ',') value
    match names.find? fun s => (Conversion.ofName? s).isNone with
    | some bad => throw (.conversion bad)
    | none =>
      return { d with conversions := d.conversions ++ names.filterMap Conversion.ofName? }
  | "status" =>
    match String.ofList value with
    | "none" => return { d with tellsCounts := false, tellsBytes := false }
    | "noxfer" => return { d with tellsBytes := false }
    | "progress" => return d
    | _ => throw (.status value)
  | _ => throw (.operand a)

/-- Opens the target of a copy at the place where it begins. -/
def BlockCopy.openTarget (d : BlockCopy) (name : Chars) : Act (Except String Nat) := do
  let old := ((← files).read (Chars.toPath name)).toOption.getD []
  match ← openToWrite name false with
  | .error e => return .error e
  | .ok n =>
    let start := d.seek * d.output
    let keeps := d.conversions.any (· matches .kept)
    let before := if keeps then old else FileTree.overwrite (old.take start) start []
    let _ ← writeOpened n (Chars.ofBytes before)
    setOffset n start
    return .ok n

/-- Tells how much was copied. -/
def BlockCopy.tell (d : BlockCopy) (taken given : Nat) : Act Unit := do
  if d.tellsCounts then
    complain (blockCounts d.input taken ++ txt " records in\n" ++
      blockCounts d.output given ++ txt " records out\n")
    if d.tellsBytes then complain (sizeShown given ++ txt " copied, 0 s, 0 kB/s\n")

/-- Copies what comes from a source. -/
def BlockCopy.copy (d : BlockCopy) (s : Supply) : Program := do
  let (_, s) := s.split (d.skip * d.input)
  let (taken, rest) := match d.count with
    | some n => s.split (n * d.input)
    | none => (s.content, { s with content := [] })
  if d.source.isNone then giveBack 0 rest
  let target ← match d.target with
    | none => pure (Except.ok none)
    | some name => pure ((← d.openTarget name).map some)
  match target with
  | .error e =>
    problem (txt "failed to open " ++ quoted (d.target.getD []) ++ txt ": " ++ e.toList)
    return 1
  | .ok target =>
    let converted := d.conversions.foldl (fun s c => c.apply d.input s) taken
    let shownTarget := quoted (d.target.getD (txt "standard output"))
    let reason ← match target with
      | some n => writeOpened n converted
      | none => write 1 converted
    let status ← match reason with
      | some e => do
        problem (txt "error writing " ++ shownTarget ++ txt ": " ++ e.toList)
        if e = badDescriptor then
          problem (txt "closing output file " ++ shownTarget ++ txt ": " ++ e.toList)
        pure 1
      | none => do
        if d.count.all fun n => taken.length < n * d.input then awaitTail rest
        pure 0
    d.tell taken.length converted.length
    return status

def dd : Program := do
  let args := (← self).args
  match args.foldlM BlockCopy.set {} with
  | .error f@(.number _) =>
    problem f.message
    return 1
  | .error f => misuse f.message
  | .ok d =>
    let has (test : Conversion → Bool) : Bool := d.conversions.any test
    if has (· matches .lower) && has (· matches .upper) then
      problem (txt "cannot combine lcase and ucase")
      return 1
    let size? := d.count.map fun n => (d.skip + n) * d.input
    let s ← match d.source with
      | some name => supplyOf name
      | none => takeFrom 0 fun s => size?.filter (· ≤ s.length)
    match s.tail with
    | .broken e =>
      problem (txt "failed to open " ++ quoted (d.source.getD []) ++ txt ": " ++ e.toList)
      return 1
    | _ => d.copy s

end Conformance.Host.Utility
