import Conformance.Fault
import Conformance.Report.Summary

/-!
# Run logs

A run log appends pieces of text to a medium that may refuse them. A medium decides by what it
holds: it takes a piece, or it takes a beginning of the piece and fails. Nothing it holds is ever
changed, so what it holds is always a beginning of all that was offered.

A log that leads to a file holds the last pieces back until there are too many bytes of them, so
what the file has got is in turn a beginning of what the log holds.
-/
namespace Conformance.Report

/-- Why a piece was refused, and how many of its bytes were taken before that. -/
structure Refusal where
  taken : Nat := 0
  reason : String
deriving Repr, DecidableEq

/-- Where the bytes of a log go. -/
structure Medium where
  /-- How the medium, holding the first bytes, meets the others. -/
  refuses : Bytes → Bytes → Option Refusal := fun _ _ => none
  /-- Why the medium, holding these bytes, cannot be flushed. -/
  refusesFlush : Bytes → Option String := fun _ => none

namespace Medium

/-- A medium that never fails. -/
def unlimited : Medium := {}

/-- A medium that refuses each piece that does not fit into `n` bytes. With no bytes at all it
cannot be flushed either. -/
def limited (n : Nat) : Medium where
  refuses held piece :=
    if n < held.length + piece.length then some { reason := "sink is full" } else none
  refusesFlush _ := if n = 0 then some "sink cannot flush" else none

end Medium

/-- A log under way: the path it is known by, its medium and the bytes held. -/
structure Log where
  path : Path
  medium : Medium := .unlimited
  held : Bytes := []
  /-- How many bytes, the last of those held, have not been passed on to a file. -/
  waiting : Nat := 0

namespace Log

/-- How many bytes may wait to be passed on. -/
def maxWaiting : Nat := 8192

/-- How many bytes wait after one more piece. A piece that does not fit behind those that wait lets
them go first, and one that fills all the room alone does not wait. -/
def waitingAfter (waiting size : Nat) : Nat :=
  if maxWaiting ≤ size then 0
  else if maxWaiting < waiting + size then size
  else waiting + size

/-- How many bytes were passed on. -/
def passedOn (log : Log) : Nat :=
  log.held.length - log.waiting

/-- The bytes passed on since the log was as `before`. -/
def passedSince (log before : Log) : Bytes :=
  (log.held.take log.passedOn).drop before.passedOn

/-- Appends a piece. -/
def append (log : Log) (piece : String) : Option String × Log :=
  let bytes := Text.encode piece
  match log.medium.refuses log.held bytes with
  | none =>
    (none, { log with
      held := log.held ++ bytes, waiting := waitingAfter log.waiting bytes.length })
  | some r => (some r.reason, { log with held := log.held ++ bytes.take r.taken })

/-- Appends pieces up to the first that is refused. -/
def appendAll (log : Log) : List String → Option String × Log
  | [] => (none, log)
  | piece :: pieces =>
    match log.append piece with
    | (none, log') => log'.appendAll pieces
    | (some reason, log') => (some reason, log')

def fault (log : Log) (action : FileAction) (reason : String) : Fault :=
  { cause := .io (.file action log.path reason) }

/-- Appends the block of a case. -/
def record (log : Log) (case : TestCase) (o : Outcome) : Option Fault × Log :=
  let (refused, log') := log.appendAll (block case o)
  (refused.map (log.fault .writeLog), log')

/-- With all bytes passed on. -/
def settled (log : Log) : Log :=
  { log with waiting := 0 }

/-- Why the log cannot be flushed, if it cannot. -/
def flush (log : Log) : Option Fault :=
  (log.medium.refusesFlush log.held).map (log.fault .flushLog)

end Log

/-- What takes the outcomes of a run: a log and a summary. -/
structure Sink where
  log : Log
  summary : Summary := {}

namespace Sink

/-- Counts an outcome, then logs it. -/
def record (s : Sink) (case : TestCase) (o : Outcome) : Option Fault × Sink :=
  let (fault, log) := s.log.record case o
  (fault, { log, summary := s.summary.record o })

/-- The summary, if the log can be flushed. -/
def finish (s : Sink) : Except Fault Summary :=
  match s.log.flush with
  | some fault => .error fault
  | none => .ok s.summary

end Sink
end Conformance.Report
