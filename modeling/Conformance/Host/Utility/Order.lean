import Conformance.Host.Utility.LineOrder

/-!
# Lines in order

`sort` puts lines in order by keys: parts of a line, each with a rule by which it is compared. Lines
that no key tells apart are compared as a whole. `uniq` looks for equal lines that follow each
other.
-/
namespace Conformance.Host.Utility

/-! ## Sorting -/

/-- The first of each run of lines with one key. -/
def firstOfRuns (same : Chars → Chars → Bool) : List Chars → List Chars
  | [] => []
  | [line] => [line]
  | a :: b :: lines =>
    if same a b then firstOfRuns same (a :: lines) else a :: firstOfRuns same (b :: lines)
termination_by lines => lines.length

/-- The first line that may not stand where it does, with its number. -/
def firstDisorder (allowed : Chars → Chars → Bool) : Nat → List Chars → Option (Nat × Chars)
  | n, a :: b :: lines =>
    if allowed a b then firstDisorder allowed (n + 1) (b :: lines) else some (n + 1, b)
  | _, _ => none

def sortOptions : OptionTable where
  letters := txt "bdfgiMhnRrVcCmsuz"
  valued := txt "ktoSTPBKWFQ"
  optional := ['c']
  long := [(txt "ignore-leading-blanks", 'b'), (txt "dictionary-order", 'd'),
    (txt "ignore-case", 'f'), (txt "general-numeric-sort", 'g'), (txt "ignore-nonprinting", 'i'),
    (txt "month-sort", 'M'), (txt "human-numeric-sort", 'h'), (txt "numeric-sort", 'n'),
    (txt "random-sort", 'R'), (txt "reverse", 'r'), (txt "version-sort", 'V'), (txt "check", 'c'),
    (txt "merge", 'm'), (txt "stable", 's'), (txt "unique", 'u'), (txt "zero-terminated", 'z'),
    (txt "key", 'k'), (txt "field-separator", 't'), (txt "output", 'o'),
    (txt "buffer-size", 'S'), (txt "temporary-directory", 'T'), (txt "parallel", 'P'),
    (txt "batch-size", 'B'), (txt "compress-program", 'K'), (txt "sort", 'W'),
    (txt "files0-from", 'F'), (txt "random-source", 'Q')]
  choices := [
    ('c', ⟨"--check", [["quiet", "silent"], ["diagnose-first"]]⟩),
    ('W', ⟨"--sort", [["general-numeric"], ["human-numeric"], ["month"], ["numeric"], ["random"],
      ["version"]]⟩)]

/-- The options, with the letter of each order that was asked for by a word. -/
def lettersForWords (p : Parsed) : Parsed :=
  { p with
    options := p.options.map fun (c, value) =>
      if c ≠ 'W' then (c, value)
      else
        (match String.ofList value with
          | "general-numeric" => 'g'
          | "human-numeric" => 'h'
          | "month" => 'M'
          | "random" => 'R'
          | "version" => 'V'
          | _ => 'n', []) }

/-- The complaint about an amount of memory or of work, if there is one. -/
def amountFault? (p : Parsed) : Option (List Chars) :=
  p.options.findSome? fun (c, value) =>
    let digits := value.takeWhile Char.isDigit
    let isNumber := Chars.isDigits value
    let invalid (name : String) : Option (List Chars) :=
      some [txt "invalid " ++ txt name ++ txt " argument '" ++ value ++ ['\'']]
    match c with
    | 'S' =>
      if digits.isEmpty then invalid "-S"
      else if ["", "b", "k", "K", "m", "M", "g", "G", "t", "T", "P", "E", "%"].contains
          (String.ofList (value.drop digits.length)) then none
      else some [txt "invalid suffix in -S argument '" ++ value ++ ['\'']]
    | 'P' =>
      if !isNumber then invalid "--parallel"
      else if Chars.natOfDigits value = 0 then some [txt "number in parallel must be nonzero"]
      else none
    | 'B' =>
      let fault := txt "invalid --batch-size argument " ++ cited value
      if !isNumber then some [fault]
      else if Chars.natOfDigits value < 2 then
        some [fault, txt "minimum --batch-size argument is " ++ cited ['2']]
      else none
    | _ => none

/-- The options with the operands that a file names, each ended by a NUL; or why there are none. -/
def withNamedOperands (p : Parsed) : Act (Except (Chars × Bool) Parsed) := do
  match p.value? 'F', p.operands with
  | none, _ => return .ok p
  | some _, extra :: _ =>
    return .error (txt "extra operand " ++ quoted extra ++
      txt "\nfile operands cannot be combined with --files0-from", true)
  | some name, [] =>
    let s ← if name = ['-'] then drain 0 else supplyOf name
    match s.tail with
    | .broken e =>
      return .error (txt "open failed: " ++ quotedIfNeeded name ++ txt ": " ++ e.toList, false)
    | _ =>
      awaitTail s
      let operands := recordsOf true s.content
      if operands.isEmpty then return .error (txt "no input from " ++ quoted name, false)
      return .ok { p with operands }

/-- Says which line is out of order. -/
def checkOrder (o : LineOrder) (p : Parsed) : Program := do
  match p.operands with
  | _ :: extra :: _ =>
    problem (txt "extra operand " ++ quoted extra ++ txt " not allowed with -c")
    return 2
  | names =>
    let (text, status) ← gather names sortUnreadable
    if status ≠ 0 then return 2
    let allowed (a b : Chars) : Bool := if p.has 'u' then o.compare a b == .lt else o.le a b
    match firstDisorder allowed 1 (recordsOf (p.has 'z') text) with
    | none => return 0
    | some (n, line) =>
      let silent := p.has 'C' || (p.value? 'c').any fun v => v == txt "quiet" || v == txt "silent"
      if !silent then
        problem (names.head?.getD ['-'] ++ ':' :: Chars.ofNat n ++ txt ": disorder: " ++ line)
      return 1
where
  sortUnreadable (name : Chars) (reason : String) : Act Unit :=
    problem (txt (if reason = FileError.isFolder.words then "read failed: " else "cannot read: ") ++
      quotedIfNeeded name ++ txt ": " ++ reason.toList)

/-- The lines of several inputs, each by itself; none if one cannot be read. -/
def linesOfEach (p : Parsed) : List Chars → Act (Option (List (List Chars)))
  | [] => return some []
  | name :: more => do
    let (text, status) ← gather [name] checkOrder.sortUnreadable
    if status ≠ 0 then return none
    return (← linesOfEach p more).map (recordsOf (p.has 'z') text :: ·)

/-- Writes to a file that an option names, or to the output stream. -/
def emitTo (target : Option Chars) (text : Chars) : Program := do
  match target with
  | none => emitOnly text
  | some name =>
    match ← openToWrite name false with
    | .error e =>
      problem (txt "open failed: " ++ quotedIfNeeded name ++ txt ": " ++ e.toList)
      return 2
    | .ok n =>
      match ← writeOpened n text with
      | none => return 0
      | some e =>
        (Loss.late (String.ofList (quotedIfNeeded name)) e).forM fun line => problem line.toList
        return 2

def sort : Program :=
  withOptions sortOptions 2 fun p => do
    if let some messages := amountFault? p then
      messages.forM problem
      return 2
    let p := lettersForWords p
    match LineOrder.ofOptions p, ← withNamedOperands p with
    | .error message, _ | _, .error (message, false) =>
      problem message
      return 2
    | _, .error (message, true) => misuse message 2
    | .ok o, .ok p =>
      if p.has 'c' || p.has 'C' then return ← checkOrder o p
      match ← linesOfEach p (if p.operands.isEmpty then [['-']] else p.operands) with
      | none => return 2
      | some inputs =>
        let sorted := if p.has 'm' then inputs.foldl (fun a b => a.merge b o.le) []
          else inputs.flatten.mergeSort o.le
        let shown := if p.has 'u' then firstOfRuns (fun a b => o.byKeys a b == .eq) sorted
          else sorted
        emitTo (p.value? 'o') (shown.flatMap (· ++ [if p.has 'z' then '\x00' else '\n']))

/-! ## Equal lines -/

/-- Runs of lines that are the same to `key`. -/
def runsBy (key : Chars → Chars) : List Chars → List (List Chars)
  | [] => []
  | line :: lines =>
    match runsBy key lines with
    | (other :: run) :: more =>
      if key line = key other then (line :: other :: run) :: more
      else [line] :: (other :: run) :: more
    | more => [line] :: more

/-- What `uniq` compares of a line. -/
def uniqKey (p : Parsed) (line : Chars) : Chars :=
  let number (c : Char) : Option Nat := (p.value? c).bind Chars.nat?
  let s := (afterFields none false ((number 'f').getD 0) line).drop ((number 's').getD 0)
  let s := match number 'w' with
    | some n => s.take n
    | none => s
  if p.has 'i' then s.map Char.toUpper else s

/-- The runs as they are shown, with empty lines around them or between them as asked for. -/
def arranged (way : Chars) (runs : List (List Chars)) : List Chars :=
  match String.ofList way with
  | "prepend" => runs.flatMap ([] :: ·)
  | "append" => runs.flatMap (· ++ [[]])
  | "both" => (if runs.isEmpty then [] else [[]]) ++ runs.flatMap (· ++ [[]])
  | "none" => runs.flatten
  | _ => List.intercalate [[]] runs

def uniqOptions : OptionTable where
  letters := txt "cdDGiuz"
  valued := txt "fsw"
  optional := txt "DG"
  long := [(txt "count", 'c'), (txt "repeated", 'd'), (txt "all-repeated", 'D'),
    (txt "group", 'G'), (txt "ignore-case", 'i'), (txt "unique", 'u'),
    (txt "zero-terminated", 'z'), (txt "skip-fields", 'f'), (txt "skip-chars", 's'),
    (txt "check-chars", 'w')]

/-- What is shown of runs of equal lines. -/
def uniqLines (p : Parsed) (runs : List (List Chars)) : List Chars :=
  if p.has 'G' then arranged ((p.value? 'G').getD []) runs
  else
    let kept := runs.filter fun run =>
      (!(p.has 'd' || p.has 'D') || 1 < run.length) && (!p.has 'u' || run.length = 1)
    if p.has 'D' then
      let way := (p.value? 'D').getD []
      arranged (if way.isEmpty then txt "none" else way) kept
    else
      kept.filterMap fun run =>
        run.head?.map fun line =>
          if p.has 'c' then padLeft 7 (Chars.ofNat run.length) ++ ' ' :: line else line

/-- The complaint about an option whose value is no number. -/
def uniqMisuse? (p : Parsed) : Option Chars :=
  let wants (c : Char) (what : String) : Option Chars :=
    ((p.value? c).filter fun v => (Chars.nat? v).isNone).map fun v => v ++ txt ": " ++ what.toList
  wants 'f' "invalid number of fields to skip" <|> wants 's' "invalid number of bytes to skip" <|>
    wants 'w' "invalid number of bytes to compare"

def uniq : Program :=
  withOptions uniqOptions 1 fun p => do
    match uniqMisuse? p, p.operands with
    | some message, _ => problem message; return 1
    | none, _ :: _ :: extra :: _ => misuse (txt "extra operand " ++ cited extra)
    | none, names =>
      if p.has 'G' && (p.has 'c' || p.has 'd' || p.has 'D' || p.has 'u') then
        return ← misuse (txt "--group is mutually exclusive with -c/-d/-D/-u")
      if p.has 'c' && p.has 'D' then
        return ← misuse
          (txt "printing all duplicated lines and repeat counts is meaningless")
      let (text, status) ← gather (names.take 1) fun name e =>
        if e = FileError.isFolder.words then
          problem (txt "error reading " ++ quoted name ++ txt ": " ++ e.toList)
        else unreadable name e
      if status ≠ 0 then return status
      let shown := uniqLines p (runsBy (uniqKey p) (recordsOf (p.has 'z') text))
      let text := shown.flatMap (· ++ [if p.has 'z' then '\x00' else '\n'])
      match names[1]? with
      | none => emitOnly text
      | some target =>
        match ← openToWrite target false with
        | .error e => unreadable target e; return 1
        | .ok n =>
          match ← writeOpened n text with
          | none => return 0
          | some e => problem (txt "write error: " ++ e.toList); return 1

end Conformance.Host.Utility
