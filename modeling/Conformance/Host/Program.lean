import Conformance.Host.Letters
import Conformance.Host.Scene

/-!
# Programs

A program is run by a process that has its name and arguments, and leaves a number. This module
holds what programs have in common: options, complaints, files by name, the output that comes of
inputs, and what is told of output that was lost.
-/
namespace Conformance.Host

abbrev Program := Act Nat

/-! ## Complaints -/

/-- Whether a shell would not take a letter as it is. -/
def needsQuotes (l : Letter) : Bool :=
  l.bytes.any (" !\"$&()*;<=>[^\x60|?\\':".toList.contains ·) || !l.isShown

/-- An escape of a byte by its number. -/
def octalEscape (c : Char) : Chars :=
  let digits := Chars.digits 8 c.toNat
  '\\' :: List.replicate (3 - digits.length) '0' ++ digits

/-- An escape for each letter that cannot be shown, and quotes around the runs of these. -/
def escapeRuns : (inside : Bool) → List Letter → Chars
  | _, [] => []
  | inside, l :: s =>
    if l.isShown then (if inside then txt "''" else []) ++ l.bytes ++ escapeRuns false s
    else
      let shown := match l.bytes with
        | ['\n'] => txt "\\n"
        | ['\t'] => txt "\\t"
        | bytes => bytes.flatMap octalEscape
      (if inside then [] else txt "'$'") ++ shown ++ escapeRuns true s

/-- A name in quotes, as a shell would read it. -/
def quoted (s : Chars) : Chars :=
  if s.contains '\'' && !s.any (fun c => "\"$\x60\\!".toList.contains c) then '"' :: s ++ ['"']
  else
    let inner := s.flatMap fun c => if c = '\'' then txt "'\\''" else [c]
    '\'' :: escapeRuns false (Chars.letters inner) ++ ['\'']

/-- A letter as it is cited: an escape for what is not as it looks. -/
def citedLetter (l : Letter) : Chars :=
  match l.bytes with
  | ['\\'] => txt "\\\\"
  | ['\x07'] => txt "\\a"
  | ['\x08'] => txt "\\b"
  | ['\t'] => txt "\\t"
  | ['\n'] => txt "\\n"
  | ['\x0b'] => txt "\\v"
  | ['\x0c'] => txt "\\f"
  | ['\r'] => txt "\\r"
  | bytes =>
    if l.char? = some '’' then '\\' :: bytes
    else if l.isShown then bytes
    else bytes.flatMap octalEscape

/-- What was given, in quotes of print. -/
def cited (s : Chars) : Chars :=
  Chars.ofText "‘" ++ (Chars.letters s).flatMap citedLetter ++ Chars.ofText "’"

/-- A name, in quotes if a shell would need them. -/
def quotedIfNeeded (s : Chars) : Chars :=
  if s.isEmpty || (Chars.letters s).any needsQuotes || s.head? = some '#' || s.head? = some '~' then
    quoted s
  else s

/-- Complains under the name of the program. -/
def problem (message : Chars) : Act Unit := do
  complain ((← self).name ++ txt ": " ++ message ++ ['\n'])

/-- Tells of a problem; what was to be done is not done. -/
def refuse (message : Chars) : Act Bool := do
  problem message
  return false

/-- Complains of the arguments. -/
def misuse (message : Chars) (status : Nat := 1) : Program := do
  let name := (← self).name
  problem message
  complain (txt "Try '" ++ name ++ txt " --help' for more information.\n")
  return status

/-- Complains of the arguments, the hint as well under the name of the program. -/
def misuseNamed (message : Chars) : Program := do
  problem message
  problem (txt "Try '" ++ (← self).name ++ txt " --help' for more information.")
  return 2

/-! ## Options -/

/-- What the argument of an option may be: one of some words, of which those in a row mean the
same. -/
structure Choice where
  subject : String
  rows : List (List String)

namespace Choice

/-- The first word of the row that a word stands in, whose end may be left out. -/
def read (c : Choice) (s : Chars) : Except Chars Chars :=
  let fitting := c.rows.filter fun row => row.any fun w => s.isPrefixOf w.toList
  let rows := match fitting.filter (·.any fun w => w.toList == s) with
    | [] => fitting
    | same => same
  match rows with
  | [row] => .ok (row.head?.getD "").toList
  | [] => .error (complaint "invalid")
  | _ => .error (complaint "ambiguous")
where
  complaint (fault : String) : Chars :=
    let line (row : List String) : Chars :=
      txt "\n  - " ++ Chars.join (txt ", ") (row.map fun w => cited w.toList)
    fault.toList ++ txt " argument " ++ cited s ++ txt " for " ++ cited c.subject.toList ++
      txt "\nValid arguments are:" ++ c.rows.flatMap line

end Choice

/-- The options of a program: letters, those with an argument, and long names for letters. -/
structure OptionTable where
  letters : Chars := []
  valued : Chars := []
  /-- Letters whose long names may be given an argument behind an equals sign. -/
  optional : Chars := []
  /-- Letters that may have an argument, which follows in the same word. -/
  attached : Chars := []
  long : List (Chars × Char) := []
  /-- Letters whose argument is a choice. -/
  choices : List (Char × Choice) := []
  /-- Options stand before all other arguments. -/
  leading : Bool := false

/-- Options as they were given, and the other arguments. -/
structure Parsed where
  options : List (Char × Chars) := []
  operands : List Chars := []

/-- An argument as it was meant. -/
inductive Argument
  | option (letter : Char) (value : Chars)
  | operand (s : Chars)

namespace Parsed

def ofArguments : List Argument → Parsed
  | [] => {}
  | .option c value :: more =>
    let p := ofArguments more
    { p with options := (c, value) :: p.options }
  | .operand s :: more =>
    let p := ofArguments more
    { p with operands := s :: p.operands }

def has (p : Parsed) (c : Char) : Bool :=
  p.options.any (·.1 == c)

/-- The argument of an option; of several the last. -/
def value? (p : Parsed) (c : Char) : Option Chars :=
  (p.options.filter (·.1 == c)).getLast?.map (·.2)

end Parsed

/-- The option of some letters that was given last. -/
def lastOf (p : Parsed) (letters : Chars) : Option Char :=
  (p.options.filter fun o => letters.contains o.1).getLast?.map (·.1)

namespace OptionTable

/-- Reads the letters of one argument. What is left to be read is the argument of an option that
has its value in the next one. -/
def letterRun (t : OptionTable) : Chars → Except Chars (List (Char × Chars) × Option Char)
  | [] => .ok ([], none)
  | c :: s =>
    if t.valued.contains c then
      if s.isEmpty then .ok ([], some c) else .ok ([(c, s)], none)
    else if t.attached.contains c then .ok ([(c, s)], none)
    else if t.letters.contains c then
      (t.letterRun s).map fun (os, last) => ((c, []) :: os, last)
    else .error (txt "invalid option -- '" ++ [c] ++ ['\''])

/-- The long options that a name may stand for: the one of that name, or all that it starts. -/
def longNamed (t : OptionTable) (key : Chars) : List (Chars × Char) :=
  match t.long.filter (·.1 == key) with
  | [] => t.long.filter fun o => key.isPrefixOf o.1
  | same => same

/-- The letter of a long option. -/
def longLetter (t : OptionTable) (name : Chars) : Except Chars (Chars × Char) :=
  match t.longNamed (name.takeWhile (· != '=')) with
  | [] => .error (txt "unrecognized option '--" ++ name ++ ['\''])
  | o :: others =>
    if others.all (·.2 == o.2) then .ok o
    else
      .error (txt "option '--" ++ name ++ txt "' is ambiguous; possibilities:" ++
        (o :: others).flatMap fun o => txt " '--" ++ o.1 ++ ['\''])

/-- Reads arguments in their order; options end at two dashes. -/
def arguments (t : OptionTable) : List Chars → Except Chars (List Argument)
  | [] => .ok []
  | ['-', '-'] :: rest => .ok (rest.map .operand)
  | ('-' :: '-' :: name) :: rest =>
    match t.longLetter name with
    | .error e => .error e
    | .ok (long, c) =>
      let mayHave := t.valued.contains c || t.optional.contains c || t.attached.contains c
      if name.contains '=' && !mayHave then
        .error (txt "option '--" ++ long ++ txt "' doesn't allow an argument")
      else if name.contains '=' || !t.valued.contains c then
        let value := (name.dropWhile (· != '=')).drop 1
        (t.arguments rest).map (.option c value :: ·)
      else
        match rest with
        | [] => .error (txt "option '--" ++ long ++ txt "' requires an argument")
        | value :: rest => (t.arguments rest).map (.option c value :: ·)
  | ('-' :: c :: s) :: rest =>
    match t.letterRun (c :: s) with
    | .error e => .error e
    | .ok (os, none) => (t.arguments rest).map (given os ++ ·)
    | .ok (os, some last) =>
      match rest with
      | [] => .error (txt "option requires an argument -- '" ++ [last] ++ ['\''])
      | value :: rest => (t.arguments rest).map (given os ++ .option last value :: ·)
  | operand :: rest =>
    if t.leading then .ok ((operand :: rest).map .operand)
    else (t.arguments rest).map (.operand operand :: ·)
where
  given (os : List (Char × Chars)) : List Argument :=
    os.map fun o => .option o.1 o.2

/-- Reads arguments; the options and the others by themselves. -/
def parse (t : OptionTable) (args : List Chars) : Except Chars Parsed :=
  (t.arguments args).map Parsed.ofArguments

/-- Options with the words that were chosen in full. -/
def chosen (t : OptionTable) (p : Parsed) : Except Chars Parsed := do
  let options ← p.options.mapM fun (c, value) =>
    match t.choices.lookup c with
    | some choice =>
      if value.isEmpty && t.optional.contains c then .ok (c, value)
      else (choice.read value).map (c, ·)
    | none => .ok (c, value)
  return { p with options }

end OptionTable

/-- Runs a program on the arguments that a table of options reads. -/
def withOptions (t : OptionTable) (status : Nat) (body : Parsed → Program) : Program := do
  match t.parse (← self).args with
  | .error message => misuse message status
  | .ok p =>
    match t.chosen p with
    | .ok p => body p
    | .error message => misuse message

/-! ## Files -/

/-- What an opened file is used for. -/
inductive Use
  | reads
  | writes
  | appends
  | both

/-- The description of what stands at a location. -/
def openNode (loc : Location) (use : Use) : Node → Act (Except String Nat)
  | .folder => opened .folder
  | .device "zero" => opened .zeros
  | .device "full" => opened .full
  | .device "stdin" => again 0
  | .device "stdout" => again 1
  | .device "stderr" => again 2
  | .device _ => opened .null
  | .file _ _ | .link _ | .program _ => do
    match (← files).fileAt? loc with
    | some id => opened (.file id (use matches .appends))
    | none => opened .null
where
  opened (c : Channel) : Act (Except String Nat) :=
    return .ok (← openNew
      { channel := c, reads := use matches .reads | .both, writes := !use matches .reads })
  /-- Opens once more what a descriptor leads to. -/
  again (fd : Nat) : Act (Except String Nat) := do
    match ← opened? fd with
    | some (_, { channel := .file id _, .. }) =>
      if use matches .writes then
        modifyWorld fun w =>
          { w with files := w.files.change id { w.files.dataOf id with content := [] } }
      opened (.file id (use matches .appends))
    | some (n, _) => return .ok n
    | none => return .error FileError.missing.words

def openToRead (name : Chars) : Act (Except String Nat) := do
  match (← files).find .target (Chars.toPath name) with
  | .error e => return .error e.words
  | .ok (.free _) => return .error FileError.missing.words
  | .ok (.taken loc node) => openNode loc .reads node

/-- Opens a file for another use than reading. It is made if there is none. -/
def openFor (use : Use) (name : Chars) : Act (Except String Nat) := do
  let t ← files
  match t.find .content (Chars.toPath name) with
  | .error e => return .error e.words
  | .ok (.free loc) =>
    let mode := Node.newMode (← self).mask
    putFile loc [] mode
    openNode loc use (.file [] mode)
  | .ok (.taken _ .folder) => return .error FileError.isFolder.words
  | .ok (.taken loc (.file content mode)) =>
    if use matches .writes then putFile loc [] mode
    openNode loc use (.file content mode)
  | .ok (.taken loc node) => openNode loc use node

/-- Opens a file to be written, which is made if there is none. -/
def openToWrite (name : Chars) (append : Bool) : Act (Except String Nat) :=
  openFor (if append then .appends else .writes) name

/-- Opens an input to be read; a dash is the input stream. -/
def openInput (name : Chars) : Act (Except String Nat) := do
  if name = ['-'] then
    match (← self).descriptors.lookup 0 with
    | some n => return .ok n
    | none => return .error badDescriptor
  else openToRead name

/-- Why an open description cannot be read, if it cannot. -/
def readFault? (n : Nat) : Act (Option String) := do
  match (← world).opened[n]? with
  | some { channel := .folder, .. } => return some FileError.isFolder.words
  | some { channel := .sink _, .. } | some { reads := false, .. } => return some badDescriptor
  | _ => return none

/-- All that a file gives. -/
def supplyOf (name : Chars) : Act Supply := do
  match ← openToRead name with
  | .error e => return { tail := .broken e }
  | .ok n => drainOf n

/-- All that an input gives; a dash is the input stream. -/
def inputOf (name : Chars) : Act Supply :=
  if name = ['-'] then drain 0 else supplyOf name

/-- Leaves what a reader in blocks took of its input besides what it used, which is given back
unless it is lost: of a pipe all is lost that was there to fill the last block. -/
def leaveUnread (block used : Nat) (rest : Supply) : Act Unit := do
  giveBack 0 rest
  match ← opened? 0 with
  | some (n, { channel := .source pipe, .. }) =>
    takeAway n (min (← pipeAt pipe).size ((used + block - 1) / block * block - used))
  | _ => return

/-! ## Output -/

/-- Writes; what is lost is told of at the end of the program. -/
def emit (content : Chars) : Act Unit := do
  if content.isEmpty then return
  match ← write 1 content with
  | none => return
  | some e => modifySelf fun p => { p with unwritten := p.unwritten.or (some e) }

/-- Writes what is all that a program shows. -/
def emitOnly (content : Chars) : Program := do
  emit content
  return 0

/-- Writes a supply, which is all that a program shows. -/
def emitSupply (s : Supply) : Program := do
  emit s.content
  if let .endless period := s.tail then
    if period.isEmpty then waitForEver
    let reason ← writeEndless 1 period
    modifySelf fun p => { p with unwritten := p.unwritten.or reason }
  return 0

/-- Goes through inputs by name, with what is common to all; a dash names the input stream. The
body is told whether an input is the first one. -/
def eachInput (names : List Chars) (missing : Chars → String → Act Unit)
    (body : (first : Bool) → Chars → Supply → Program) : Program := do
  let rec go (first : Bool) (status : Nat) : List Chars → Program
    | [] => return status
    | name :: more => do
      let s ← inputOf name
      match s.tail with
      | .broken e =>
        missing name e
        go first 1 more
      | _ =>
        let n ← body first name s
        go false (max status n) more
  go true 0 (if names.isEmpty then [['-']] else names)

/-- The complaint of most programs about a file. -/
def unreadable (name : Chars) (reason : String) : Act Unit :=
  problem (quotedIfNeeded name ++ txt ": " ++ reason.toList)

/-- The complaint of programs that say what they wanted to do. -/
def cannotOpen (name : Chars) (reason : String) : Act Unit :=
  if reason = FileError.isFolder.words then
    problem (txt "error reading " ++ quoted name ++ txt ": " ++ reason.toList)
  else problem (txt "cannot open " ++ quoted name ++ txt " for reading: " ++ reason.toList)

/-- The text of all inputs, after their end. -/
def gather (names : List Chars) (missing : Chars → String → Act Unit) : Act (Chars × Nat) := do
  let rec go (status : Nat) : List Chars → Act (List Chars × Nat)
    | [] => return ([], status)
    | name :: more => do
      let s ← inputOf name
      match s.tail with
      | .broken e =>
        missing name e
        go 1 more
      | _ =>
        awaitTail s
        let (rest, n) ← go status more
        return (s.content :: rest, n)
  let (texts, status) ← go 0 (if names.isEmpty then [['-']] else names)
  return (texts.flatten, status)

/-- How often a writer that never ends is heard before it is known what comes of it. -/
def maxPeriods : Nat := 2000

/-- Shows what `body` makes of each input at its end, given what it kept of the ones before. Of an
input without end what comes of its last period is shown for ever. -/
def throughInputs {σ : Type} (missing : Chars → String → Act Unit)
    (body : σ → Chars → Chars × σ) (kept : σ) (names : List Chars) : Program :=
  go kept 0 (if names.isEmpty then [['-']] else names)
where
  go (kept : σ) (status : Nat) : List Chars → Program
    | [] => return status
    | name :: more => do
      let s ← inputOf name
      let (shown, next) := body kept (s.unroll maxPeriods).content
      match s.tail with
      | .broken e =>
        missing name e
        go kept 1 more
      | .endless period =>
        let _ ← emitSupply { content := shown, tail := .endless (body next period).1 }
        return status
      | .closed =>
        emit shown
        go next status more

/-! ## Output that was lost

What cannot be written is lost. A program goes on without it and tells of it at its end, with a
status that stands for the loss. -/

/-- What a program says at its end of output that was lost, each line by itself, and the number
that it leaves then. One that has nothing to say leaves the number that it would have left. -/
structure Loss where
  status : Nat := 1
  words : (reason : String) → List String := fun reason => ["write error: " ++ reason]

namespace Loss

/-- Of a program that writes while it reads on: the reason is forgotten, unless there is no
stream at all. -/
def forgetful : Loss where
  words reason := [if reason = badDescriptor then "write error: " ++ reason else "write error"]

/-- Of a program that names the stream. -/
def named : Loss where
  status := 2
  words reason := ["standard output: " ++ reason]

/-- Of a program that orders all lines and writes them at once. -/
def late (target reason : String) : List String :=
  ["fflush failed: " ++ target ++ ": " ++ reason, "write error"]

/-- The programs that have their own way. -/
def exceptions : List (String × Loss) :=
  ["cksum", "md5sum", "sha1sum", "sha256sum", "wc"].map (·, forgetful) ++
  ["dir", "grep", "ls", "printenv", "vdir"].map (·, { status := 2 }) ++
  ["env", "nice", "nohup"].map (·, { status := 125 }) ++
  [("cmp", { named with
      words := fun reason => if reason = badDescriptor then [] else named.words reason }),
    ("diff", named), ("expr", { status := 3 }),
    ("find", { words := fun reason =>
      ("‘standard output’: " ++ reason) :: forgetful.words reason }),
    ("rev", { words := fun reason =>
      if reason = badDescriptor then [] else ["write error: " ++ reason] }),
    ("sed", { status := 4, words := fun reason =>
      ["couldn't " ++ (if reason = badDescriptor then "close" else "flush") ++ " stdout: " ++
        reason] }),
    ("sort", { status := 2, words := late "'standard output'" })]

/-- The way of a program. -/
def ofProgram (name : String) : Loss :=
  (exceptions.lookup name).getD {}

end Loss

/-- Runs a program that tells at its end of what it could not write. -/
def tellingLoss (l : Loss) (body : Program) : Program := do
  modifySelf fun p => { p with unwritten := none }
  let status ← body
  match (← self).unwritten with
  | none => return status
  | some reason =>
    modifySelf fun p => { p with unwritten := none }
    let lines := l.words reason
    lines.forM fun line => problem (Chars.ofText line)
    return if lines.isEmpty then status else l.status

end Conformance.Host
