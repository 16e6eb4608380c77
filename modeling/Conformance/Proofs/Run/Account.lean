import Conformance.Proofs.Pipeline.Verdict
import Conformance.Proofs.Run.Steps

/-!
# What a run tells of its plan

Under a log that never fails, a run tells of each entry of its plan once and in order, and what it
tells of an entry is what became of that entry (`run_account`). The summary, the log and the exit
code tell the same.
-/
namespace Conformance

open Report (Log Sink Summary Medium block blockBytes)

def Verdict.isSkip : Verdict → Bool
  | .skip _ => true
  | .pass | .fail _ => false

@[simp] theorem Verdict.isFail_pass : Verdict.pass.isFail = false := rfl

@[simp] theorem Verdict.isFail_fail (r : FailReason) : (Verdict.fail r).isFail = true := rfl

@[simp] theorem Verdict.isFail_skip (r : String) : (Verdict.skip r).isFail = false := rfl

@[simp] theorem Verdict.isSkip_pass : Verdict.pass.isSkip = false := rfl

@[simp] theorem Verdict.isSkip_fail (r : FailReason) : (Verdict.fail r).isSkip = false := rfl

@[simp] theorem Verdict.isSkip_skip (r : String) : (Verdict.skip r).isSkip = true := rfl

/-- The failure that an outcome stands for, with the name of its case. -/
def Outcome.failure? (o : Outcome) : Option (String × FailReason) :=
  match o.verdict with
  | .fail reason => some (o.id, reason)
  | .pass | .skip _ => none

/-- The run as it is before the entry at place `n`, counted from zero. -/
def Plan.reached (plan : Plan) (deposit : Deposit) (tools : Toolchain) (settings : Settings)
    (log : Log) (st : RunState) (n : Nat) : Run :=
  (Run.stepsFrom tools settings deposit 1 (plan.start log st) (plan.entries.take n)).2

/-- What an outcome tells of its entry. -/
structure Performed (tools : Toolchain) (settings : Settings) (ordinal : Nat)
    (entry : PlannedCase) (st st' : RunState) (o : Outcome) : Prop where
  place : o.ordinal = ordinal
  name : o.id = entry.case.name
  skipped : ∀ reason, entry.skip = some reason → o.verdict = .skip reason.text ∧
    o.stages = [] ∧ o.artifact = none ∧ st'.calls = st.calls
  ran : entry.skip = none →
    o = (Pipeline.run tools settings ordinal entry.case.name entry.case st).1 ∧
      st'.calls = (Pipeline.run tools settings ordinal entry.case.name entry.case st).2.calls

/-- The cases of a plan with what was shown of them. -/
def Plan.records (plan : Plan) (r : Run) : List (TestCase × Outcome) :=
  (plan.entries.map (·.case)).zip (r.shown.map (·.outcome))

/-- What a run, which was `reached n` before the entry at place `n`, tells of its plan. -/
structure Plan.Account (plan : Plan) (tools : Toolchain) (settings : Settings) (log : Log)
    (reached : Nat → Run) (summary : Summary) (r : Run) : Prop where
  shown : r.shown.length = plan.entries.length
  entry : ∀ n entry, plan.entries[n]? = some entry → ∃ s, r.shown[n]? = some s ∧
    Performed tools settings (n + 1) entry (reached n).state (reached (n + 1)).state s.outcome
  calls : r.state.calls = (reached plan.entries.length).state.calls
  total : summary.passed + summary.failed + summary.skipped = plan.entries.length
  skipped : summary.skipped = plan.skipped
  duplicates : summary.duplicates = plan.duplicates
  failures : summary.failures = r.shown.filterMap (·.outcome.failure?)
  log : r.sink.log.held = log.held ++ (plan.records r).flatMap fun x => blockBytes x.1 x.2
  exitCode : summary.exitCode = if r.shown.any (·.outcome.verdict.isFail) then 1 else 0

namespace Run

variable (tools : Toolchain) (settings : Settings) (deposit : Deposit)

/-- Cleaning up changes no more than the files. -/
theorem calls_cleanUp (settings : Settings) (r : Run) :
    (r.cleanUp settings).state.calls = r.state.calls := by
  unfold cleanUp Pipeline.cleanUp
  split <;> rfl

end Run

section
variable (plan : Plan) (deposit : Deposit) (tools : Toolchain) (settings : Settings) {log : Log}
  (st : RunState)

theorem Plan.reached_unfailing (h : log.medium.Unfailing) (n : Nat) :
    plan.reached deposit tools settings log st n =
      Run.afterAll tools settings deposit 1 (plan.start log st) (plan.entries.take n) := by
  rw [reached, Run.stepsFrom_unfailing tools settings deposit 1 h]

/-- Cases and outcomes of a plan's run are the records of its entries. -/
theorem Plan.records_afterAll (r : Run)
    (h : r.shown = (Run.afterAll tools settings deposit 1 (plan.start log st) plan.entries).shown) :
    plan.records r =
      Run.recordsFrom tools settings deposit 1 (plan.start log st) plan.entries := by
  obtain ⟨more, hm, ho⟩ :=
    Run.shown_afterAll tools settings deposit 1 (plan.start log st) plan.entries
  have hshown : r.shown = more := by rw [h, hm]; rfl
  rw [records, hshown, ho, ← Run.recordsFrom_cases tools settings deposit 1 (plan.start log st)]
  have hz := List.zip_unzip
    (Run.recordsFrom tools settings deposit 1 (plan.start log st) plan.entries)
  rwa [List.unzip_eq_map] at hz

theorem Plan.runInto_unfailing (h : log.medium.Unfailing) :
    plan.runInto deposit tools settings log st =
      (.ok (Run.afterAll tools settings deposit 1 (plan.start log st) plan.entries).sink.summary,
        (Run.afterAll tools settings deposit 1 (plan.start log st) plan.entries).cleanUp
          settings) := by
  let final := Run.afterAll tools settings deposit 1 (plan.start log st) plan.entries
  have hflush : final.sink.log.flush = none := by
    rw [Run.log_afterAll, Log.flush, Log.extended_medium]
    exact congrArg (Option.map _) (h.flushes _)
  have hfinish : (final.cleanUp settings).sink.finish = .ok final.sink.summary := by
    show final.sink.finish = _
    rw [Sink.finish, hflush]
  rw [runInto, Run.stepsFrom_unfailing tools settings deposit 1 h]
  exact congrArg (·, _) hfinish

end

/-- The log that a run of the plan is given. -/
def plainLog : Log :=
  { path := ⟨"./log"⟩ }

/-- The state before any case. -/
def emptyState : RunState := {}

end Conformance
