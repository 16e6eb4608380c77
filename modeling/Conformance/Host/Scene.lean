import Conformance.Host.Act

/-!
# Files, streams and children

What a process does to the files, how it reads and writes through its descriptors, and how it waits
for its children.
-/
namespace Conformance.Host

/-- The file tree as the process sees it. -/
def files : Act FileTree := do
  return { (← world).files with here := (← self).here }

def currentDate : Act Date :=
  return hostStart + (← self).now

def setFiles (t : FileTree) : Act Unit := do
  let date ← currentDate
  modifyWorld fun w =>
    { w with
      files := { t with here := w.files.here }
      records := w.records.after w.files t date }

def modifyRecords (f : Records → Records) : Act Unit :=
  modifyWorld fun w => { w with records := f w.records }

/-- Puts a file at a location, or changes the one that stands there. -/
def putFile (loc : Location) (content : Bytes) (mode : Nat) : Act Unit := do
  setFiles ((← world).files.put loc (.file content mode))
  let t := (← world).files
  let date ← currentDate
  modifyRecords (·.dated (t.namesOf loc) date)

/-- The files as a process sees them, with what is known of them. -/
structure FileView where
  tree : FileTree
  records : Records

def view : Act FileView := do
  return { tree := ← files, records := (← world).records }

/-! ## Descriptors -/

def openNew (o : Opened) : Act Nat := do
  let n := (← world).opened.size
  modifyWorld fun w => { w with opened := w.opened.push o }
  return n

def connect (fd number : Nat) : Act Unit :=
  modifySelf fun p =>
    { p with descriptors := (fd, number) :: p.descriptors.filter (·.1 != fd) }

def close (fd : Nat) : Act Unit :=
  modifySelf fun p => { p with descriptors := p.descriptors.filter (·.1 != fd) }

/-- The open description behind a descriptor, with its number. -/
def opened? (fd : Nat) : Act (Option (Nat × Opened)) := do
  match (← self).descriptors.lookup fd with
  | none => return none
  | some n => return (← world).opened[n]?.map (n, ·)

def setOffset (number offset : Nat) : Act Unit :=
  modifyWorld fun w =>
    { w with opened := w.opened.modify number fun o => { o with offset } }

/-- Runs `body`, after which the descriptors are as before. What they led to is kept meanwhile. -/
def keepingDescriptors {α : Type} (body : Act α) : Act α :=
  bracketed (fun p => { p with aside := p.descriptors.map (·.2) ++ p.aside })
    (fun before p => { p with descriptors := before.descriptors, aside := before.aside }) body

/-- Writes into a file from a place on. -/
def writeFile (id : FileId) (offset : Nat) (new : Bytes) : Act Unit := do
  let date ← currentDate
  modifyWorld fun w =>
    { w with
      files := w.files.writeAt id offset new
      records := w.records.dated (w.files.placesOf id) date }

/-! ## Pipes -/

def newPipe : Act Nat := do
  let n := (← world).pipes.size
  modifyWorld fun w => { w with pipes := w.pipes.push {} }
  return n

def modifyPipe (n : Nat) (f : Pipe → Pipe) : Act Unit :=
  modifyWorld fun w => { w with pipes := w.pipes.modify n f }

def pipeAt (n : Nat) : Act Pipe :=
  return (← world).pipes[n]?.getD {}

/-- All processes. -/
def processes : Act (List Process) :=
  return (← self) :: (← world).others

def hasReader (pipe : Nat) : Act Bool := do
  return (← world).hasReader pipe (← processes)

def hasWriter (pipe : Nat) : Act Bool := do
  return (← world).hasWriter pipe (← processes)

def badDescriptor : String := "Bad file descriptor"

def noSpace : String := FileError.noSpace.words

def brokenPipe : String := "Broken pipe"

/-- The number of the signal for a writer whose pipe nobody reads. -/
def pipeSignal : Nat := 13

/-- What becomes of a writer whose pipe nobody reads. -/
def meetBrokenPipe : Act (Option String) := do
  match (← self).traps.lookup pipeSignal with
  | none => exitWith (.signal pipeSignal)
  | some action =>
    if !action.isEmpty then
      let pid := (← self).pid
      modifyWorld fun w => { w with signals := w.signals ++ [⟨pid, pipeSignal⟩] }
    return some brokenPipe

/-- Writes into a pipe as there is room for it; why that was not possible, if it was not. -/
def writePipe (n : Nat) : (fuel : Nat) → Chars → Act (Option String)
  | 0, _ | _, [] => return none
  | fuel + 1, s => do
    let needed := if s.length ≤ Pipe.togetherSize then s.length else 1
    if (← pipeAt n).room < needed then await { event := .room n needed }
    if !(← hasReader n) then meetBrokenPipe
    else
      let p ← pipeAt n
      let k := if p.watched then s.length else p.room
      modifyPipe n (·.write (s.take k))
      writePipe n fuel (s.drop k)

/-- All that a pipe holds and will hold, up to a repetition without end; `soFar` was read before. -/
def drainPipe (n : Nat) : (fuel : Nat) → (soFar : List Chars) → Act Supply
  | 0, soFar => return { content := soFar.reverse.flatten }
  | fuel + 1, soFar => do
    let p ← pipeAt n
    modifyPipe n (·.emptied)
    let soFar := if p.size = 0 then soFar else p.content :: soFar
    match p.endless with
    | some period => return { content := soFar.reverse.flatten, tail := .endless period }
    | none =>
      if ← hasWriter n then
        await { event := .content n }
        drainPipe n fuel soFar
      else return { content := soFar.reverse.flatten }

/-- How often a reader waits for more. -/
def maxArrivals : Nat := 100000000

/-! ## Writing -/

/-- Writes to an open description; why that was not possible, if it was not. -/
def writeOpened (n : Nat) (content : Chars) : Act (Option String) := do
  let o := (← world).opened[n]?.getD {}
  if !o.writes then return some badDescriptor
  match o.channel with
  | .null | .zeros => return none
  | .full => return if content.isEmpty then none else some noSpace
  | .folder | .source _ => return some badDescriptor
  | .sink pipe => writePipe pipe (content.length + 1) content
  | .file id append =>
    let size := ((← world).files.dataOf id).content.length
    let offset := if append then size else o.offset
    let fitting ← match (← self).fileLimit? with
      | some n => pure (content.take (n - offset))
      | none => pure content
    let new := Chars.toBytes fitting
    writeFile id offset new
    setOffset n (offset + new.length)
    if fitting.length < content.length then exitWith (.signal 25)
    return none

/-- Writes to a descriptor; why that was not possible, if it was not. -/
def write (fd : Nat) (content : Chars) : Act (Option String) := do
  match (← self).descriptors.lookup fd with
  | none => return some badDescriptor
  | some n => writeOpened n content

/-- Says something on the error stream. -/
def complain (content : Chars) : Act Unit := do
  let _ ← write 2 content

/-- Writes a period for ever, or until nobody reads it. -/
def writeEndless (fd : Nat) (period : Chars) : Act (Option String) := do
  match ← opened? fd with
  | none => return some badDescriptor
  | some (_, o) =>
    if !o.writes then return some badDescriptor
    match o.channel with
    | .sink pipe =>
      modifyPipe pipe fun p => { p with endless := some period }
      await { event := .unread pipe }
      meetBrokenPipe
    | .null | .zeros | .file _ _ => waitForEver
    | .full => return some noSpace
    | .folder | .source _ => return some badDescriptor

/-! ## Reading -/

/-- What can be seen of a source. -/
structure View where
  supply : Supply := {}
  /-- No more will come. -/
  complete : Bool := true

namespace View

/-- Nothing, since it was not possible to read. -/
def broken (reason : String) : View where
  supply := { tail := .broken reason }

end View

/-- What can be read of an open description by now, of a file so much at most. It is waited for
until there is something, or there will be no more. -/
def lookAt (n size : Nat) : Act View := do
  let o := (← world).opened[n]?.getD {}
  if !o.reads then return .broken badDescriptor
  match o.channel with
  | .null => return {}
  | .zeros | .full => return { supply := { tail := .endless ['\x00'] } }
  | .folder => return .broken FileError.isFolder.words
  | .sink _ => return .broken badDescriptor
  | .source pipe =>
    let p ← pipeAt pipe
    if p.size = 0 && p.endless.isNone && (← hasWriter pipe) then await { event := .content pipe }
    modifyPipe pipe (·.gathered)
    let p ← pipeAt pipe
    match p.endless with
    | some period => return { supply := { content := p.front, tail := .endless period } }
    | none => return { supply := { content := p.front }, complete := !(← hasWriter pipe) }
  | .file id _ =>
    let rest := ((← world).files.dataOf id).content.drop o.offset
    return {
      supply := { content := Chars.ofBytes (rest.take size) }
      complete := (rest.drop size).isEmpty }

/-- Takes so much of what can be read of an open description. -/
def takeAway (n count : Nat) : Act Unit := do
  let o := (← world).opened[n]?.getD {}
  match o.channel with
  | .null | .zeros | .full | .folder | .sink _ => return
  | .source pipe => modifyPipe pipe (·.dropped count)
  | .file _ _ => setOffset n (o.offset + count)

/-- Takes all of what can be seen of an open description. -/
def takeSeen (n size : Nat) : Act View := do
  let v ← lookAt n size
  takeAway n v.supply.content.length
  return v

/-- How much of a file is looked at together by a reader that looks for an end. -/
def windowSize : Nat := 4096

/-- Takes as much as is enough of what can be read of an open description, or all of it if it ends
before or never; `soFar` was taken before. -/
def takeEnough (n : Nat) (enough : Chars → Option Nat) : (fuel : Nat) → (soFar : Chars) →
    Act Supply
  | 0, soFar => return { content := soFar }
  | fuel + 1, soFar => do
    let v ← lookAt n windowSize
    let all := if soFar.isEmpty then v.supply.content else soFar ++ v.supply.content
    match enough all with
    | some used =>
      takeAway n (used - soFar.length)
      return { content := all.take used }
    | none =>
      takeAway n v.supply.content.length
      if v.complete || !(v.supply.tail matches .closed) then
        return { v.supply with content := all }
      takeEnough n enough fuel all

/-- All that can be read of an open description from now on, when it is all there. -/
def drainOf (n : Nat) : Act Supply := do
  let o := (← world).opened[n]?.getD {}
  match o.channel with
  | .source pipe => drainPipe pipe maxArrivals []
  | .file id _ =>
    if !o.reads then return { tail := .broken badDescriptor }
    let content := ((← world).files.dataOf id).content.drop o.offset
    setOffset n (o.offset + content.length)
    return { content := Chars.ofBytes content }
  | _ => return (← lookAt n 0).supply

/-- Leaves what was taken of an open description and not used to be read again. -/
def giveBackTo (n : Nat) (rest : Supply) : Act Unit := do
  if rest.content.isEmpty && !rest.isEndless then return
  let o := (← world).opened[n]?.getD {}
  match o.channel with
  | .null | .zeros | .full | .folder | .sink _ => return
  | .source pipe => modifyPipe pipe (·.refill rest)
  | .file _ _ => setOffset n (o.offset - rest.content.length)

/-- What an act gives that reads of the open description behind a descriptor. -/
def reading {α : Type} (fd : Nat) (otherwise : α) (body : Nat → Act α) : Act α := do
  match (← self).descriptors.lookup fd with
  | none => return otherwise
  | some n => body n

/-- Takes as much as is enough of what can be read from a descriptor, or all of it if it ends before
or never. -/
def takeFrom (fd : Nat) (enough : Chars → Option Nat) : Act Supply :=
  reading fd { tail := .broken badDescriptor } (takeEnough · enough maxArrivals [])

/-- All that can be read from a descriptor from now on, when it is all there. -/
def drain (fd : Nat) : Act Supply :=
  reading fd { tail := .broken badDescriptor } drainOf

/-- Leaves what was taken and not used to be read again. -/
def giveBack (fd : Nat) (rest : Supply) : Act Unit :=
  reading fd () (giveBackTo · rest)

/-- Waits for the end of a supply. -/
def awaitTail (s : Supply) : Act Unit :=
  if s.isEndless then waitForEver else pure ()

/-- Takes in all that a descriptor gives. -/
def readAll (fd : Nat) : Act Chars := do
  let s ← drain fd
  awaitTail s
  return s.content

/-! ## Variables -/

def valueOf? (name : Chars) : Act (Option Chars) := do
  return ((← self).bindings.lookup name).bind (·.value)

/-- With a variable in the place of the one of its name, or behind all others. -/
def putVariable (name : Chars) (v : Variable) : List (Chars × Variable) → List (Chars × Variable)
  | [] => [(name, v)]
  | (n, old) :: more => if n = name then (n, v) :: more else (n, old) :: putVariable name v more

def setVariable (name value : Chars) : Act Unit :=
  modifySelf fun p =>
    let old : Variable := (p.bindings.lookup name).getD { value := none }
    let new := { old with value := some value, exported := old.exported || p.flags.contains 'a' }
    { p with
      bindings := putVariable name new p.bindings
      found := if name = txt "PATH" then [] else p.found }

end Conformance.Host
