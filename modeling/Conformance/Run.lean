import Conformance.Plan
import Conformance.Report.Log

/-!
# Running a plan

The entries of a plan are run in order. Each outcome is counted and logged, and shown once it is
logged. A case never ends a run; a log that refuses a block does, before the outcome is shown.
However a run ends, the scratch file is removed after the last case.

What a log that has grown does to the files is up to the one who runs the plan, who gives a
`Deposit`.
-/
namespace Conformance

open Report (Log Sink Summary)

/-- An outcome that was shown, with the files as they were at that moment. -/
structure Shown where
  outcome : Outcome
  files : FileTree

/-- What becomes of the files when a log, which was as the first one says, is as the second one
says. -/
abbrev Deposit := Log → Log → FileTree → FileTree

/-- The deposit of a log that leads to no file. -/
def Deposit.none : Deposit :=
  fun _ _ t => t

/-- How far a run has come. -/
structure Run where
  state : RunState := {}
  sink : Sink
  /-- What was shown, in order. -/
  shown : List Shown := []

namespace Run

/-- The outcome of one entry. An entry that is skipped calls no tool. -/
def perform (tools : Toolchain) (settings : Settings) (ordinal : Nat) (entry : PlannedCase)
    (st : RunState) : Outcome × RunState :=
  match entry.skip with
  | some reason => (.skipped ordinal entry.case.name reason.text, st)
  | none => Pipeline.run tools settings ordinal entry.case.name entry.case st

/-- One entry: perform, record and show. -/
def step (tools : Toolchain) (settings : Settings) (deposit : Deposit) (ordinal : Nat)
    (entry : PlannedCase) (r : Run) : Option Fault × Run :=
  let (outcome, performed) := perform tools settings ordinal entry r.state
  let (fault, sink) := r.sink.record entry.case outcome
  let state := performed.setFiles (deposit r.sink.log sink.log performed.files)
  match fault with
  | some f => (some f, { r with state, sink })
  | none => (none, { state, sink, shown := r.shown ++ [⟨outcome, state.files⟩] })

/-- The entries from the place `ordinal` on, up to the first whose block the log refuses. -/
def stepsFrom (tools : Toolchain) (settings : Settings) (deposit : Deposit) (ordinal : Nat)
    (r : Run) : List PlannedCase → Option Fault × Run
  | [] => (none, r)
  | entry :: entries =>
    match step tools settings deposit ordinal entry r with
    | (some f, r') => (some f, r')
    | (none, r') => stepsFrom tools settings deposit (ordinal + 1) r' entries

/-- Removes the scratch file; a failure to do so is let go. -/
def cleanUp (settings : Settings) (r : Run) : Run :=
  { r with state := (Pipeline.cleanUp settings r.state).2 }

end Run

/-- A run that is about to begin. -/
def Plan.start (plan : Plan) (log : Log) (st : RunState) : Run :=
  { state := st, sink := { log, summary := { duplicates := plan.duplicates } } }

/-- Runs a plan with a log that leads where `deposit` says. The summary is returned if the log took
every block and could be flushed. -/
def Plan.runInto (deposit : Deposit) (tools : Toolchain) (settings : Settings) (plan : Plan)
    (log : Log) (st : RunState) : Except Fault Summary × Run :=
  let (fault, r) := Run.stepsFrom tools settings deposit 1 (plan.start log st) plan.entries
  let r' := r.cleanUp settings
  match fault with
  | some f => (.error f, r')
  | none => (r'.sink.finish, r')

/-- Runs a plan with a log that leads to no file. -/
def Plan.run (tools : Toolchain) (settings : Settings) (plan : Plan) (log : Log) (st : RunState) :
    Except Fault Summary × Run :=
  plan.runInto .none tools settings log st

end Conformance
