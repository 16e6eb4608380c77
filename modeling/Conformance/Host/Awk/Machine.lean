import Conformance.Host.Awk.Format
import Conformance.Host.Awk.Record
import Conformance.Host.Awk.Table
import Conformance.Host.Shell.Running

/-!
# Machines that run programs over records

A machine holds the variables, the current record with its fields, and the streams that were opened.
A variable is a number of a slot, so that a function may be given an array of its caller. Output is
kept until there is much of it, or until a command is run that might look at it.
-/
namespace Conformance.Host.Awk

/-- What a variable holds. One that nothing was done with yet may turn out to be an array, which is
then one of the caller if it came from there. -/
inductive Slot
  | unset (origin : Option Nat)
  | value (v : Value)
  | table (t : Table)

instance : Inhabited Slot := ⟨.unset none⟩

/-- Output that was not passed on yet. -/
structure Kept where
  /-- The last part first. -/
  parts : List Chars := []
  size : Nat := 0

namespace Kept

/-- How much output is kept. -/
def enough : Nat := 4096

def add (k : Kept) (content : Chars) : Kept :=
  ⟨content :: k.parts, k.size + content.length⟩

def content (k : Kept) : Chars :=
  k.parts.reverse.flatten

end Kept

/-- What was opened to be written to. -/
structure Outlet where
  name : Chars
  /-- The open description. -/
  number : Nat
  /-- The process that reads what is written. -/
  command : Option Nat := none
  kept : Kept := {}

/-- What was opened to be read from. -/
structure Inlet where
  name : Chars
  source : Source
  /-- The open description of a pipe, and the process that writes to it. -/
  command : Option (Nat × Nat) := none

structure State where
  slots : Array Slot := #[]
  globals : List (Chars × Nat) := []
  locals : List (Chars × Nat) := []
  record : Value := .text []
  fields : Array Value := #[]
  /-- The input that is being read. -/
  input : Option Source := none
  /-- The number of the next operand. -/
  operand : Nat := 1
  /-- Whether an operand named an input. -/
  named : Bool := false
  inlets : List Inlet := []
  /-- The one that was used last comes first. -/
  outlets : List Outlet := []
  kept : Kept := {}
  seed : Nat := 1
  /-- How many parameters the functions have that are being called. -/
  parameters : Nat := 0
  /-- The rules with a first and a last record that the current one lies between. -/
  between : List Nat := []
  status : Nat := 0
  /-- How many rounds of loops are left. -/
  roundsLeft : Nat := 4000000

/-- Why a statement does not simply go on with the next one. -/
inductive Jump
  | leaveLoop
  | nextRound
  | next
  | nextFile
  | exit
  | giveBack (v : Value)
  /-- Something that cannot be done; the message is complete. -/
  | fault (message : Chars)

abbrev Run := ExceptT Jump (StateT State Act)

/-- Runs `body`; a jump out of it is a value. -/
def catchJump {α : Type} (body : Run α) : Run (Except Jump α) :=
  ExceptT.lift body.run

/-! ## Variables -/

def countName : Chars := txt "NF"

/-- The variables that every program has. -/
def givenVariables : List (String × Value) :=
  [("NR", .number 0), ("FNR", .number 0), ("FS", .text [' ']), ("RS", .text ['\n']),
    ("OFS", .text [' ']), ("ORS", .text ['\n']), ("SUBSEP", .text ['\x1c']),
    ("CONVFMT", .text (txt "%.6g")), ("OFMT", .text (txt "%.6g")), ("RSTART", .number 0),
    ("RLENGTH", .ofInt (-1)), ("FILENAME", .text []), ("ENVIRON", .unset), ("ARGC", .number 0),
    ("ARGV", .unset)]

def slotOf? (name : Chars) : Run (Option Nat) := do
  let s ← get
  return (s.locals.lookup name).orElse fun _ => s.globals.lookup name

/-- A variable of the whole program. -/
def global (name : String) : Run Value := do
  let s ← get
  match (s.globals.lookup name.toList).bind fun i => s.slots[i]? with
  | some (.value v) => return v
  | _ => return .unset

def setGlobal (name : String) (v : Value) : Run Unit :=
  modify fun s =>
    match s.globals.lookup name.toList with
    | some i => { s with slots := s.slots.modify i fun _ => .value v }
    | none => s

/-- The text of a value in other texts. -/
def textOf (v : Value) : Run Chars := do
  match v with
  | .number _ => return v.toText ((← global "CONVFMT").toText [])
  | _ => return v.toText []

/-- Where the array is that a slot stands for. -/
def arraySlot : (fuel : Nat) → Nat → Run Nat
  | 0, i => return i
  | fuel + 1, i => do
    match (← get).slots[i]? with
    | some (.unset (some origin)) => arraySlot fuel origin
    | _ => return i

/-- The array with a name, and where it is. -/
def arrayAt (name : Chars) : Run (Nat × Table) := do
  match ← slotOf? name with
  | none => return (0, {})
  | some i =>
    let s ← get
    let i ← arraySlot s.slots.size i
    match s.slots[i]? with
    | some (.table t) => return (i, t)
    | _ => return (i, {})

def setArray (i : Nat) (t : Table) : Run Unit :=
  modify fun s => { s with slots := s.slots.modify i fun _ => .table t }

/-! ## Complaints -/

/-- Ends the program with a complaint about what it does. -/
def fail {α : Type} (message : Chars) : Run α := do
  let fileName ← textOf (← global "FILENAME")
  let local_ ← textOf (← global "FNR")
  let total ← textOf (← global "NR")
  throw (.fault (txt "run time error: " ++ message ++ txt "\n\tFILENAME=\"" ++ fileName ++
    txt "\" FNR=" ++ local_ ++ txt " NR=" ++ total))

def orFail {α : Type} (text : Chars) (found : Except PatternFault α) : Run α :=
  match found with
  | .ok a => return a
  | .error f => fail (f.message text)

/-! ## Fields -/

/-- What a new record is split at. -/
def fieldSeparator : Run FieldSeparator := do
  let s ← textOf (← global "FS")
  orFail s (FieldSeparator.read s)

/-- With another record, which is split into fields. -/
def setRecord (v : Value) : Run Unit := do
  let fields := (← fieldSeparator).split (← textOf v)
  modify fun s => { s with record := v, fields := (fields.map Value.ofInput).toArray }

/-- Puts the record together from its fields. -/
def joinRecord : Run Unit := do
  let separator ← textOf (← global "OFS")
  let fields ← (← get).fields.toList.mapM fun v => textOf v
  modify fun s => { s with record := .text (Chars.join separator fields) }

/-- With so many fields. -/
def setCount (n : Int) : Run Unit := do
  if n < 0 then fail (txt "negative value assigned to NF")
  modify fun s =>
    { s with fields := s.fields.take n.toNat ++
        Array.replicate (n.toNat - s.fields.size) (.text []) }
  joinRecord

/-- The number of a field. -/
def fieldNumber (v : Value) : Run Nat := do
  let n := v.toNumber.whole
  if n < 0 then fail (txt "negative field index $" ++ Chars.ofInt n)
  return n.toNat

def field (n : Nat) : Run Value := do
  let s ← get
  return if n = 0 then s.record else s.fields[n - 1]?.getD (.text [])

def setField (n : Nat) (v : Value) : Run Unit := do
  if n = 0 then setRecord v
  else
    modify fun s =>
      let fields := s.fields ++ Array.replicate (n - s.fields.size) (.text [])
      { s with fields := fields.modify (n - 1) fun _ => v }
    joinRecord

/-- What a variable holds. -/
def held (name : Chars) : Run Value := do
  let s ← get
  if name = countName then return .ofNat s.fields.size
  match (← slotOf? name).bind fun i => s.slots[i]? with
  | some (.value v) => return v
  | _ => return .unset

def setVariable (name : Chars) (v : Value) : Run Unit := do
  if name = countName then setCount v.toNumber.whole
  else
    match ← slotOf? name with
    | some i => modify fun s => { s with slots := s.slots.modify i fun _ => .value v }
    | none => return

/-! ## Output -/

/-- Ends the program, since something could not be written. -/
def refuseOutput {α : Type} (words : Chars) (reason : String) : Run α :=
  throw (.fault (words ++ txt " (" ++ reason.toList ++ [')']))

/-- What is said of a file that cannot be closed. -/
def closeFailed (name : Chars) : Chars :=
  txt "close failed on file \"" ++ name ++ ['"']

/-- What is said of a write in the course of the program. -/
def writeFailed : Chars :=
  txt "unexpected write error"

/-- Passes on what the output stream still keeps. -/
def flushOutput (words : Chars := writeFailed) : Run Unit := do
  let s ← get
  set { s with kept := {} }
  if s.kept.size ≠ 0 then
    match ← write 1 s.kept.content with
    | none => return
    | some e => refuseOutput words e

/-- Passes on what an outlet still keeps. -/
def Outlet.flush (o : Outlet) (words : Chars := writeFailed) : Run Outlet := do
  if o.kept.size ≠ 0 then
    match ← writeOpened o.number o.kept.content with
    | none => pure ()
    | some e => refuseOutput words e
  return { o with kept := {} }

/-- Passes on all output that is kept. -/
def flushAll : Run Unit := do
  flushOutput
  let outlets ← (← get).outlets.mapM fun o => o.flush
  modify fun s => { s with outlets }

/-- Says something on the output stream. -/
def put (content : Chars) : Run Unit := do
  modify fun s => { s with kept := s.kept.add content }
  if Kept.enough ≤ (← get).kept.size then flushOutput

/-! ## Commands -/

/-- The number that a program gets for the end of a command. -/
def endingNumber : Ending → Nat
  | .code n => n
  | .signal n => 256 + n

/-- Runs a child and waits for its end. -/
def awaitCommand (body : Act Nat) : Act Nat :=
  return endingNumber (← Signal.awaitEnd body)

/-- Begins a command beside the program, which goes first, with one end of a pipe at a descriptor.
Gives the open description of the other end, and the number of the process. -/
def beginCommand (start : Shell.Start) (fd : Nat) (command : Chars) : Act (Nat × Nat) := do
  let pipe ← newPipe
  let source ← openNew { channel := .source pipe }
  let sink ← openNew { channel := .sink pipe }
  let (own, other) := if fd = 0 then (sink, source) else (source, sink)
  modifySelf fun p => { p with aside := own :: p.aside }
  let pid ← forkAs (fun p => { p with aside := [] }) do
    connect fd other
    await { till := (← self).now }
    Shell.runCommand start (txt "/bin/sh") command
  return (own, pid)

/-- Lets go of a pipe, and gives the number for the end of the command at its other end. -/
def endCommand (own pid : Nat) : Act Nat := do
  modifySelf fun p => { p with aside := p.aside.filter (· != own) }
  return endingNumber (← Signal.awaitChild pid)

/-- Lets go of an outlet. -/
def Outlet.close (o : Outlet) : Run Nat := do
  let _ ← o.flush (closeFailed o.name)
  match o.command with
  | none => return 0
  | some pid => endCommand o.number pid

/-- The number that a program gets when it lets go of an inlet. -/
def Inlet.close (i : Inlet) : Act Nat := do
  match i.command with
  | none => return 0
  | some (own, pid) => endCommand own pid

/-- Writes to what a destination names. -/
def putTo (start : Shell.Start) (target : Target) (name content : Chars) : Run Unit := do
  let s ← get
  let isCommand := target matches .command
  match s.outlets.find? fun o => o.name == name && o.command.isSome == isCommand with
  | some o =>
    let o' := { o with kept := o.kept.add content }
    let o' ← if Kept.enough ≤ o'.kept.size then o'.flush else pure o'
    modify fun s =>
      { s with outlets := o' ::
          s.outlets.filter fun o => o.name != name || o.command.isSome != isCommand }
  | none =>
    if isCommand then
      flushAll
      let (number, pid) ← beginCommand start 0 name
      modify fun s =>
        { s with
          outlets := { name, number, command := some pid, kept := ({} : Kept).add content } ::
            s.outlets }
    else if name = txt "/dev/stdout" || name = ['-'] then put content
    else if name = txt "/dev/stderr" then complain content
    else
      match ← openToWrite name (target matches .append) with
      | .error reason =>
        throw (.fault (txt "cannot open \"" ++ name ++ txt "\" for output (" ++ reason.toList ++
          [')']))
      | .ok number =>
        modify fun s =>
          { s with
            outlets := { name, number, kept := ({} : Kept).add content } :: s.outlets }

/-- Lets go of all streams with a name; -1 if there are none. -/
def closeNamed (name : Chars) : Run Int := do
  let s ← get
  let outlets := s.outlets.filter (·.name == name)
  let inlets := s.inlets.filter (·.name == name)
  if outlets.isEmpty && inlets.isEmpty then return -1
  modify fun s =>
    { s with
      outlets := s.outlets.filter (·.name != name)
      inlets := s.inlets.filter (·.name != name) }
  let mut status := 0
  for o in outlets do
    status ← o.close
  for i in inlets do
    status ← i.close
  return status

/-- Lets go of all that is written to. -/
def closeAll : Run Unit := do
  let outlets := (← get).outlets
  let words := closeFailed (txt "/dev/stdout")
  if outlets.any (·.command.isSome) then pure () else flushOutput words
  for o in outlets do
    let _ ← o.close
  flushOutput words

/-! ## Input -/

/-- What stands between records. -/
def recordSeparator : Run RecordSeparator := do
  let s ← textOf (← global "RS")
  orFail s (RecordSeparator.read s)

/-- A text with its escapes replaced. -/
def unescaped : (fuel : Nat) → Chars → Chars
  | 0, _ | _, [] => []
  | fuel + 1, '\\' :: s =>
    let (t, n) := escaped s
    t ++ unescaped fuel (s.drop n)
  | fuel + 1, c :: s => c :: unescaped fuel s

/-- The name and the value of an operand that assigns to a variable. -/
def assignment (operand : Chars) : Option (Chars × Chars) :=
  let name := operand.takeWhile fun c => c.isAlphanum || c == '_'
  match name.head?, operand.drop name.length with
  | some c, '=' :: value =>
    if c.isDigit then none else some (name, unescaped (value.length + 1) value)
  | _, _ => none

/-- Ends the program because an input cannot be read. -/
def refuseInput {α : Type} (name : Chars) (reason : String) : Run α :=
  if reason = FileError.isFolder.words then
    throw (.fault (txt "read error (" ++ reason.toList ++ [')']))
  else throw (.fault (txt "cannot open \"" ++ name ++ txt "\" (" ++ reason.toList ++ [')']))

/-- Opens an input to be read. -/
def openSource (name : Chars) : Act (Except String Nat) := do
  match ← openInput (if name = txt "/dev/stdin" then ['-'] else name) with
  | .error e => return .error e
  | .ok n =>
    match ← readFault? n with
    | some e => return .error e
    | none => return .ok n

/-- The input of the next operand that names one; nothing if there is no other. -/
def nextInput : (fuel : Nat) → Run (Option Source)
  | 0 => return none
  | fuel + 1 => do
    let s ← get
    let count := (← global "ARGC").toNumber.whole
    if (s.operand : Int) < count then
      set { s with operand := s.operand + 1 }
      let (_, t) ← arrayAt (txt "ARGV")
      let place : Key := { text := Chars.ofNat s.operand, counted := true }
      let operand ← textOf ((t.find? place).1.getD .unset)
      if operand.isEmpty then nextInput fuel
      else
        match assignment operand with
        | some (name, value) =>
          setVariable name (.ofInput value)
          nextInput fuel
        | none => enter operand
    else if s.named then return none
    else enter ['-']
where
  enter (name : Chars) : Run (Option Source) := do
    modify fun s => { s with named := true }
    let opened ← openSource name
    setGlobal "FILENAME" (.text name)
    setGlobal "FNR" (.number 0)
    match opened with
    | .error reason => refuseInput name reason
    | .ok n => return some { input := some n }

/-- Operands that are looked at for one record. -/
def maxOperands : Nat := 100000

def countRecord (name : String) : Run Unit := do
  setGlobal name (.number ((← global name).toNumber + 1))

/-- The next record of the input. -/
def nextRecord : (fuel : Nat) → Run (Option Chars)
  | 0 => return none
  | fuel + 1 => do
    match (← get).input with
    | none =>
      match ← nextInput maxOperands with
      | none => return none
      | some source =>
        modify fun s => { s with input := some source }
        nextRecord fuel
    | some source =>
      let (record, source) ← source.next (← recordSeparator)
      match record with
      | some r =>
        modify fun s => { s with input := some source }
        countRecord "NR"
        countRecord "FNR"
        return some r
      | none =>
        modify fun s => { s with input := none }
        nextRecord fuel

/-- The next record of an inlet, which is opened if it is not open. -/
def nextOf (start : Shell.Start) (isCommand : Bool) (name : Chars) :
    Run (Except Unit (Option Chars)) := do
  let s ← get
  let known := s.inlets.find? fun i => i.name == name && i.command.isSome == isCommand
  let inlet : Except Unit Inlet ← match known with
    | some i => pure (.ok i)
    | none =>
      if isCommand then
        flushAll
        let (n, pid) ← beginCommand start 1 name
        pure (.ok { name, source := { input := some n }, command := some (n, pid) })
      else
        match ← openSource name with
        | .ok n => pure (.ok { name, source := { input := some n } })
        | .error _ => pure (.error ())
  match inlet with
  | .error () => return .error ()
  | .ok inlet =>
    let (record, source) ← inlet.source.next (← recordSeparator)
    modify fun s =>
      { s with inlets := { inlet with source } ::
          s.inlets.filter fun i => i.name != name || i.command.isSome != isCommand }
    return .ok record

end Conformance.Host.Awk
