import Conformance.Tool

/-!
# Watching a child

A child that was started is asked whether it has ended until it has, until the answer is refused,
or until it is found running after its deadline. Two readers take in what it writes, and each hands
over all of its stream at once, at any time. After the end of the child the readers get a last
window of time, since a descendant may still hold a stream open.

`Watch.step` takes in one observation. The watch counts what happens to the child: when a result
stands, the child has been collected, and unless it ended by itself it has been killed, together
with all its descendants.

A process that waits to be collected leaves one number. Its lowest seven bits are zero if the
process exited, and then the next eight hold its code; otherwise they hold the signal that ended it,
unless all of them are set, which tells that it has not ended.
-/
namespace Conformance.Execution

/-! ## How a process ended -/

inductive Status
  | exited (code : Nat)
  | signaled (signal : Nat)
  | other
deriving DecidableEq, Repr

namespace Status

def ofWait (raw : Int) : Status :=
  let low := (raw % 128).toNat
  if low = 0 then .exited (raw / 256 % 256).toNat
  else if low = 127 then .other
  else .signaled low

/-- The exit code, or the negated signal. -/
def exitCode : Status → Int
  | exited code => code
  | signaled signal => -signal
  | other => -1

end Status

/-! ## The watch -/

inductive Stream
  | stdout
  | stderr
deriving DecidableEq, Repr

inductive Observation
  /-- The child was asked and has not ended. -/
  | running
  /-- The child was asked and has ended; with that it is collected. -/
  | ended (status : Status)
  /-- The child could not be asked. -/
  | refused (reason : String)
  /-- The deadline has passed. -/
  | deadline
  /-- A reader hands over its stream. -/
  | message (stream : Stream) (content : Bytes)
  /-- No reader is left. -/
  | disconnected
  /-- The last window of time is over. -/
  | windowOver
deriving DecidableEq, Repr

/-- Streams that were handed over. -/
structure Received where
  stdout : Option Bytes := none
  stderr : Option Bytes := none
deriving DecidableEq, Repr

namespace Received

def isComplete (r : Received) : Bool :=
  r.stdout.isSome && r.stderr.isSome

/-- With one more stream; nothing is taken after both are there. -/
def take (r : Received) (stream : Stream) (content : Bytes) : Received :=
  if r.isComplete then r
  else match stream with
    | .stdout => { r with stdout := some content }
    | .stderr => { r with stderr := some content }

/-- What a child that ended with `status` has left; a stream never handed over is empty. -/
def capture (r : Received) (status : Status) : Capture where
  exitCode := status.exitCode
  stdout := r.stdout.getD []
  stderr := r.stderr.getD []

end Received

inductive Result
  | completed (capture : Capture)
  | timedOut
  | refused (reason : String)
deriving DecidableEq, Repr

inductive Phase
  /-- The child has not been seen to end. -/
  | asking
  /-- The child has ended, and a stream is missing. -/
  | draining (status : Status)
  | settled (result : Result)
deriving DecidableEq, Repr

structure Watch where
  phase : Phase := .asking
  received : Received := {}
  /-- The deadline has passed. -/
  late : Bool := false
  /-- No reader is left. -/
  alone : Bool := false
  /-- The child and its descendants were killed. -/
  killed : Bool := false
  /-- The child was collected. -/
  reaped : Bool := false
deriving DecidableEq, Repr

namespace Watch

/-- Kills the child and its descendants, collects the child, and ends with `result`. -/
def kill (w : Watch) (result : Result) : Watch :=
  { w with phase := .settled result, killed := true, reaped := true }

/-- Ends if nothing more can arrive from a child that has ended. -/
def settle (w : Watch) (status : Status) : Watch :=
  if w.received.isComplete || w.alone then
    { w with phase := .settled (.completed (w.received.capture status)) }
  else { w with phase := .draining status }

/-- After an arrival. -/
def arrived (w : Watch) : Watch :=
  match w.phase with
  | .draining status => w.settle status
  | .asking | .settled _ => w

def step (w : Watch) (o : Observation) : Watch :=
  match w.phase, o with
  | .settled _, _ => w
  | .asking, .running => if w.late then w.kill .timedOut else w
  | .asking, .ended status => { w with reaped := true }.settle status
  | .asking, .refused reason => w.kill (.refused reason)
  | .draining _, .windowOver => w.kill .timedOut
  | _, .deadline => { w with late := true }
  | _, .message stream content =>
    { w with received := w.received.take stream content }.arrived
  | _, .disconnected => { w with alone := true }.arrived
  | .asking, .windowOver | .draining _, .running | .draining _, .ended _
  | .draining _, .refused _ => w

/-- What a watch comes to after observations. -/
def run (w : Watch) (observations : List Observation) : Watch :=
  observations.foldl step w

/-- The result, once there is one. -/
def result? (w : Watch) : Option Result :=
  match w.phase with
  | .settled result => some result
  | .asking | .draining _ => none

end Watch

/-- The answer of a tool whose program is known by a name. -/
def Result.answer (program : String) : Result → Answer
  | .completed capture => .completed capture
  | .timedOut => .timedOut
  | .refused reason => .fault (.wait program reason)

end Conformance.Execution
