import Conformance.Decimal.Binary

/-!
# Durations, instants and deadlines

A duration is a number of nanoseconds whose whole seconds fit 64 unsigned bits, an instant one whose
whole seconds fit 63 bits. `Deadline.after` is the sum of an instant and a duration; it is held as a
number, and `Deadline.representable` says whether it is an instant again. The clock of a run is an
instant too, so a deadline is compared with it directly.
-/
namespace Conformance

def nanosPerSecond : Nat := 1000000000

/-- A span of time, in nanoseconds. -/
structure Duration where
  nanos : Nat
deriving DecidableEq, Repr, Inhabited

namespace Duration

def ofMillis (n : Nat) : Duration :=
  ⟨n * 1000000⟩

def ofSeconds (n : Nat) : Duration :=
  ⟨n * nanosPerSecond⟩

def wholeSeconds (d : Duration) : Nat :=
  d.nanos / nanosPerSecond

def subsecondNanos (d : Duration) : Nat :=
  d.nanos % nanosPerSecond

def isZero (d : Duration) : Bool :=
  d.nanos == 0

/-- A duration of `x` seconds for a positive finite `x`, to the nearest nanosecond, a half to the
even neighbour; none from 2 ^ 64 seconds on. -/
def ofFloat? (x : Float) : Option Duration :=
  let r := (Decimal.Binary.ofFloat x).magnitude
  if 0x10000000000000000 * r.den ≤ r.num then none
  else some ⟨(Decimal.Ratio.mk (r.num * nanosPerSecond) r.den).round⟩

end Duration

/-- A moment on the clock of a run, in nanoseconds. -/
abbrev Instant := Nat

/-- The moments that an instant can name end here. -/
def Instant.bound : Nat :=
  0x8000000000000000 * nanosPerSecond

/-- The moment at which a running tool is stopped. -/
structure Deadline where
  moment : Instant
deriving DecidableEq, Repr, Inhabited

namespace Deadline

def after (now : Instant) (timeout : Duration) : Deadline :=
  ⟨now + timeout.nanos⟩

/-- Whether the moment can be named by an instant. -/
def representable (d : Deadline) : Bool :=
  d.moment < Instant.bound

def remaining (d : Deadline) (now : Instant) : Duration :=
  ⟨d.moment - now⟩

def expired (d : Deadline) (now : Instant) : Bool :=
  d.moment ≤ now

end Deadline

/-- Extra time for output to arrive after a tool has ended. -/
def drainGrace : Duration :=
  .ofMillis 200

/-- The end of the time in which output may still arrive. -/
def Deadline.drainLimit (d : Deadline) (now : Instant) : Deadline :=
  .after now ⟨(d.remaining now).nanos + drainGrace.nanos⟩

end Conformance
