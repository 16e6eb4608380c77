import Conformance.Host.World

/-!
# What processes do

An act of a process starts in a scene. It comes to its end, or the process waits on the way, or a
child begins its own course beside it. What goes on meanwhile is not known to the act: when its turn
comes again, it goes on from the scene that it then finds.
-/
namespace Conformance.Host

/-- Why a command does not simply go on with the next one. -/
inductive Leave
  | exit (ending : Ending)
  /-- Something could not be carried out, which was told. It ends the shell, unless a command of
  the shell that may fail meets it. -/
  | fault
  | leaveLoop (levels : Nat)
  | nextRound (levels : Nat)
  | returned (status : Nat)

/-- A moment that never comes. -/
def never : Instant :=
  Instant.bound

/-- What a process waits for besides a moment. -/
inductive Event
  | nothing
  /-- There is something to read in a pipe, or nobody is left to write to it. -/
  | content (pipe : Nat)
  /-- A pipe has so much room, or nobody is left to read from it. -/
  | room (pipe : Nat) (needed : Nat)
  /-- Nobody is left to read from a pipe. -/
  | unread (pipe : Nat)
  /-- One of some processes has ended. -/
  | ended (pids : List Nat)

/-- What wakes a process that waits. -/
structure Wake where
  event : Event := .nothing
  /-- When it goes on at the latest. -/
  till : Instant := never
  /-- A signal that something is to be done at wakes it. -/
  interruptible : Bool := false

/-- The course of a process: it has ended, it waits, or a child begins beside it. -/
inductive Thread
  | over (world : World)
  | waits (scene : Scene) (wake : Wake) (next : Scene → Thread)
  | branches (scene : Scene) (child : World → Thread) (next : Scene → Thread)

/-- The course of an act. -/
inductive Course (α : Type)
  | done (value : α) (scene : Scene)
  | left (reason : Leave) (scene : Scene)
  | waits (scene : Scene) (wake : Wake) (next : Scene → Course α)
  | branches (scene : Scene) (child : World → Thread) (next : Scene → Course α)

namespace Course

variable {α β : Type}

/-- Goes on with `f` where a course is done. -/
def andThen (f : α → Scene → Course β) : Course α → Course β
  | .done a s => f a s
  | .left e s => .left e s
  | .waits s wake next => .waits s wake fun s => (next s).andThen f
  | .branches s child next => .branches s child fun s => (next s).andThen f

/-- Goes on with `f` where a course is left. -/
def orElse (f : Leave → Scene → Course α) : Course α → Course α
  | .done a s => .done a s
  | .left e s => f e s
  | .waits s wake next => .waits s wake fun s => (next s).orElse f
  | .branches s child next => .branches s child fun s => (next s).orElse f

/-- With its outcome as a value. -/
def attempted : Course α → Course (Except Leave α)
  | .done a s => .done (.ok a) s
  | .left e s => .done (.error e) s
  | .waits s wake next => .waits s wake fun s => (next s).attempted
  | .branches s child next => .branches s child fun s => (next s).attempted

/-- The course of a process whose act ends as `finish` tells. -/
def toThread (finish : Except Leave α → Scene → World) : Course α → Thread
  | .done a s => .over (finish (.ok a) s)
  | .left e s => .over (finish (.error e) s)
  | .waits s wake next => .waits s wake fun s => (next s).toThread finish
  | .branches s child next => .branches s child fun s => (next s).toThread finish

end Course

/-- What a process does from a scene on. -/
def Act (α : Type) : Type :=
  Scene → Course α

namespace Act

variable {α β : Type}

@[inline] def andThen (m : Act α) (f : α → Act β) : Act β := fun s =>
  match m s with
  | .done a s => f a s
  | .left e s => .left e s
  | c => c.andThen f

instance : Monad Act where
  pure a := fun s => .done a s
  bind := andThen

instance : MonadExceptOf Leave Act where
  throw e := fun s => .left e s
  tryCatch m f := fun s => (m s).orElse f

instance : MonadStateOf Scene Act where
  get := fun s => .done s s
  set s := fun _ => .done () s
  modifyGet f := fun s => let (a, s) := f s; .done a s

end Act

def self : Act Process := fun s =>
  .done s.self s

def modifySelf (f : Process → Process) : Act Unit := fun s =>
  .done () { s with self := f s.self }

def world : Act World := fun s =>
  .done s.world s

def modifyWorld (f : World → World) : Act Unit := fun s =>
  .done () { s with world := f s.world }

def exitWith {α : Type} (e : Ending) : Act α := fun s =>
  .left (.exit e) s

/-! ## Waiting -/

/-- Waits until something wakes the process. -/
def await (wake : Wake) : Act Unit := fun s =>
  .waits s wake fun s => .done () s

/-- Waits for a moment. -/
def arrive (t : Instant) : Act Unit := do
  if (← self).now < t then await { till := t }

/-- Waits for a moment that never comes, so that only a signal ends the process. -/
def waitForEver {α : Type} : Act α := fun s =>
  .waits s {} fun s => .left (.exit (.signal 9)) s

/-! ## Running inside one another -/

/-- Runs `body` in the place of the process until it leaves. -/
def attempt {α : Type} (body : Act α) : Act (Except Leave α) := fun s =>
  match body s with
  | .done a s => .done (.ok a) s
  | .left e s => .done (.error e) s
  | c => c.attempted

/-- Runs `body`, and then `finish`, however `body` ends. -/
def ensuring {α : Type} (finish : Act Unit) (body : Act α) : Act α := do
  let outcome ← attempt body
  finish
  match outcome with
  | .ok a => return a
  | .error e => throw e

/-- Runs `body` with a change to the process that `restore` takes back. -/
def bracketed {α : Type} (change : Process → Process) (restore : Process → Process → Process)
    (body : Act α) : Act α := do
  let before ← self
  modifySelf change
  ensuring (modifySelf (restore before)) body

/-! ## Children -/

/-- How a process ends whose act had an outcome. -/
def endingOf (outcome : Except Leave Nat) (p : Process) : Ending :=
  match outcome with
  | .ok n | .error (.returned n) => .code (n % 256)
  | .error .fault => .code 2
  | .error (.exit e) => e
  | .error (.leaveLoop _) | .error (.nextRound _) => .code (p.status % 256)

/-- The world after the end of a process whose act had an outcome. -/
def worldAfter (outcome : Except Leave Nat) (s : Scene) : World :=
  s.world.withEnd s.self.pid (endingOf outcome s.self)

/-- The number for another job, and the jobs without one whose place it takes: one that was waited
for. -/
def jobPlace (jobs : List JobEntry) : Nat × List JobEntry :=
  let rec go : (fuel : Nat) → (number : Nat) → Nat × List JobEntry
    | 0, number => (number, jobs)
    | fuel + 1, number =>
      match jobs.find? (·.number = number) with
      | none => (number, jobs)
      | some j =>
        if j.waited then (number, jobs.filter (·.number != number)) else go fuel (number + 1)
  go (jobs.length + 1) 1

/-- Lets a child begin as a copy of the process, changed by `change`, and gives its number. The
child goes first. -/
def forkAs (change : Process → Process) (body : Act Nat) : Act Nat := fun s =>
  let pid := s.world.nextPid
  let p := s.self
  let child := change { p with
    pid
    parent := p.pid
    begun := p.now
    jobs := []
    last := true
    traps := p.traps.filter fun t => t.1 != 0 && t.2.isEmpty }
  .branches
    { world := { s.world with nextPid := pid + 1 }, self := { p with jobs := (jobPlace p.jobs).2 } }
    (fun world => (body { world, self := child }).toThread worldAfter)
    fun s => .done pid s

/-- Lets a child begin as a copy of the process, and gives its number. -/
def fork (body : Act Nat) : Act Nat :=
  forkAs id body

end Conformance.Host
