import Conformance.Tool
import Conformance.Host.Signal

/-!
# Taking turns

The processes of the host run one at a time, each until it waits. All that they do takes no time but
the waiting, so the clock moves on only when nobody can do anything at the moment. Processes that
are left to themselves are an activity, and an activity takes turns as a process does.
-/
namespace Conformance.Host

/-- A process that waits, or whose turn has not come. -/
structure Waiter where
  process : Process
  /-- What it waits for; a process without this could go on. -/
  wake : Option Wake
  next : Scene → Thread

/-- All processes between two turns. -/
structure Crowd where
  world : World
  clock : Instant
  /-- Those whose turn comes next stand first. -/
  waiters : List Waiter := []

namespace Crowd

def processes (c : Crowd) : List Process :=
  c.waiters.map (·.process)

/-- Whether nobody can write to a pipe. -/
def isClosed (c : Crowd) (pipe : Nat) : Bool :=
  !c.world.hasWriter pipe c.processes

/-! ## Signals -/

/-- Ends a process by a signal. -/
def kill (c : Crowd) (signal pid : Nat) : Crowd :=
  { c with
    world := c.world.withEnd pid (.signal signal)
    waiters := c.waiters.filter (·.process.pid != pid) }

/-- Kills all processes of a group. -/
def killGroup (c : Crowd) (leader : Nat) : Crowd :=
  (c.processes.filter (·.leader = leader)).foldl (fun c p => c.kill 9 p.pid) c

/-- With one signal met by its receiver, unless something else is to be done at it. -/
def meetSignal (c : Crowd) (s : Sent) : Crowd :=
  match c.processes.find? (·.pid = s.receiver) with
  | none => { c with world := { c.world with signals := c.world.signals.erase s } }
  | some p =>
    if c.world.halted.contains p.pid && s.number ≠ 9 then c
    else if Signal.isFatal p s.number then c.kill s.number p.pid
    else if Signal.isHalting p s.number then
      { c with world := { c.world with
          signals := c.world.signals.erase s
          halted := p.pid :: c.world.halted } }
    else c

def meetSignals (c : Crowd) : Crowd :=
  c.world.signals.foldl meetSignal c

/-! ## Turns -/

/-- Whether what a process waits for has come. -/
def hasCome (c : Crowd) (p : Process) (wake : Wake) : Bool :=
  wake.interruptible && c.world.signals.any (·.receiver == p.pid) ||
    match wake.event with
    | .nothing => false
    | .content n =>
      c.world.pipes[n]?.any (fun p => 0 < p.size || p.endless.isSome) || c.isClosed n
    | .room n needed =>
      c.world.pipes[n]?.any (needed ≤ ·.room) || !c.world.hasReader n c.processes
    | .unread n => !c.world.hasReader n c.processes
    | .ended pids => pids.any fun pid => (c.world.endingOf? pid).isSome

/-- Whether a process can go on at this moment. -/
def canGoOn (c : Crowd) (w : Waiter) : Bool :=
  !c.world.halted.contains w.process.pid &&
    match w.wake with
    | none => true
    | some wake => wake.till ≤ c.clock || c.hasCome w.process wake

/-- The first moment at which a process goes on by itself. -/
def nextMoment? (c : Crowd) : Option Instant :=
  let moments := c.waiters.filterMap fun w =>
    if c.world.halted.contains w.process.pid then none
    else (w.wake.map (·.till)).filter (· < never)
  moments.min?

/-- With a process that has come to a wait, to its end, or to a child. -/
def add (c : Crowd) : (fuel : Nat) → Thread → Crowd
  | 0, _ => c
  | _, .over world => { c with world }
  | _, .waits s wake next =>
    { c with
      world := s.world
      waiters := c.waiters ++ [⟨s.self, some wake, next⟩] }
  | fuel + 1, .branches s child next =>
    let c := { c with waiters := ⟨s.self, none, next⟩ :: c.waiters }
    c.add fuel (child { s.world with others := c.processes })

/-- The turn of a process. -/
def turn (c : Crowd) (w : Waiter) : Crowd :=
  let c := { c with waiters := c.waiters.filter (·.process.pid != w.process.pid) }
  let scene : Scene :=
    { world := { c.world with others := c.processes }
      self := { w.process with now := c.clock } }
  c.add maxDepth (w.next scene)
where
  /-- How often children begin children before one of them waits. -/
  maxDepth : Nat := 1000000

/-- Lets processes take turns until `stops`, or up to a moment. -/
def run (stops : Crowd → Bool) (limit : Instant) : (fuel : Nat) → Crowd → Crowd
  | 0, c => { c with clock := max c.clock limit }
  | fuel + 1, c =>
    let c := c.meetSignals
    if stops c then c
    else
      match c.waiters.find? c.canGoOn with
      | some w => run stops limit fuel (c.turn w)
      | none =>
        match c.nextMoment? with
        | some moment =>
          if moment < limit then run stops limit fuel { c with clock := max c.clock moment }
          else { c with clock := max c.clock limit }
        | none => { c with clock := max c.clock limit }

/-- More turns than any processes take. -/
def maxTurns : Nat := 100000000

/-- After all turns that can be taken without the clock moving on. -/
def settled (c : Crowd) : Crowd :=
  c.run (fun _ => false) c.clock maxTurns

/-! ## Activities -/

/-- How often an activity goes on at most. -/
def maxMoments : Nat := 1000000

/-- What processes do later that are left to themselves. -/
def toActivity : (fuel : Nat) → Crowd → Activity
  | 0, _ => .over
  | fuel + 1, c =>
    match c.nextMoment? with
    | none => .over
    | some moment => .waits moment fun files =>
      let c := settled
        { c with clock := max c.clock moment, world := { c.world with files } }
      .changes c.world.files (toActivity fuel c)

/-- The course of an activity as one of a process. -/
def threadOf : Activity → Scene → Thread
  | .over, s => .over s.world
  | .waits moment next, s =>
    .waits s { till := moment } fun s => threadOf (next s.world.files) s
  | .changes files rest, s => threadOf rest { s with world := { s.world with files } }

end Crowd
end Conformance.Host
