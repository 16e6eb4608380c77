import Conformance.Proofs.Files.Contents
import Conformance.Proofs.Run.Account
import Conformance.Session

/-!
# Runs that lose their log

A run whose log fails is compared with the run of the same plan whose log never does. It goes the
same way up to the entry whose block is refused, and calls the tools of that entry too, but shows
nothing more (`run_interruption`). However a run ends, no file is left at the path of the scratch
file.
-/
namespace Conformance

open Report (Log Sink Summary Medium block blockBytes)

/-- What becomes of the files when their log has this medium. -/
def Deposit.under (deposit : Deposit) (m : Medium) : Deposit :=
  fun before log => deposit (before.on m) (log.on m)

/-- The deposit of a session is the same under every medium. -/
theorem depositInto_under (file : Option FileId) (m : Medium) :
    (Session.depositInto file).under m = Session.depositInto file := rfl

namespace Run

/-- The run with another medium under its log. -/
def on (r : Run) (m : Medium) : Run :=
  { r with sink := { r.sink with log := r.sink.log.on m } }

variable (tools : Toolchain) (settings : Settings) (deposit : Deposit)

/-- Another medium makes no difference to a step whose block is taken. -/
theorem after_on (ordinal : Nat) (r : Run) (entry : PlannedCase) (m : Medium) :
    after tools settings (deposit.under r.sink.log.medium) ordinal (r.on m) entry =
      (after tools settings deposit ordinal r entry).on m := by
  have hlog (pieces : List String) :
      ((r.sink.log.extended pieces).on m).on r.sink.log.medium = r.sink.log.extended pieces :=
    Log.on_on_medium (r.sink.log.extended pieces) m
  simp only [after, on, Deposit.under, hlog, Log.on_on_medium, Log.extended_on]

theorem afterAll_on (ordinal : Nat) (r : Run) (entries : List PlannedCase) (m : Medium) :
    afterAll tools settings (deposit.under r.sink.log.medium) ordinal (r.on m) entries =
      (afterAll tools settings deposit ordinal r entries).on m := by
  induction entries generalizing ordinal r with
  | nil => rfl
  | cons entry entries ih =>
    rw [afterAll, after_on]
    exact ih (ordinal + 1) (after tools settings deposit ordinal r entry)

/-- However a run ends, no file is left at the path of the scratch file. -/
theorem isFile_cleanUp (r : Run) :
    (r.cleanUp settings).state.files.isFile settings.scratch = false := by
  unfold cleanUp Pipeline.cleanUp
  cases h : r.state.files.removeFile settings.scratch with
  | ok t => exact FileTree.isFile_of_removeFile_ok h
  | error e => cases e <;> exact FileTree.isFile_of_removeFile_error h

end Run

/-- What became of a run whose log took the blocks of the first `taken` entries and was then as
`left`, compared with a healthy one, which was `reached n` before the entry at place `n`. -/
structure Plan.Interruption (plan : Plan) (settings : Settings) (before : Log)
    (reached : Nat → Run) (healthy : Except Fault Summary × Run) (taken : Nat)
    (refusal : Option Fault) (left : Log) (run : Except Fault Summary × Run) : Prop where
  log : run.2.sink.log = left
  held : left.held <+: healthy.2.sink.log.held
  shown : run.2.shown = healthy.2.shown.take taken
  /-- The block of an entry was refused. -/
  refused : ∀ fault, refusal = some fault → run.1 = .error fault ∧
    (∃ reason, fault.cause = .io (.file .writeLog before.path reason)) ∧
    taken < plan.entries.length ∧ run.2.state.calls = (reached (taken + 1)).state.calls
  /-- All blocks were taken. -/
  whole : refusal = none → run.2.shown = healthy.2.shown ∧ run.2.state = healthy.2.state
  unflushed : refusal = none → ∀ reason, before.medium.refusesFlush left.held = some reason →
    ∃ fault, run.1 = .error fault ∧ fault.cause = .io (.file .flushLog before.path reason)
  finished : refusal = none → before.medium.refusesFlush left.held = none → run.1 = healthy.1
  cleaned : run.2.state.files.isFile settings.scratch = false ∧
    healthy.2.state.files.isFile settings.scratch = false

section
variable (plan : Plan) (deposit : Deposit) (tools : Toolchain) (settings : Settings) (log : Log)
  (st : RunState)

/-- The run of the plan under a log that never fails. -/
def Plan.healthy : Except Fault Summary × Run :=
  plan.runInto (deposit.under log.medium) tools settings (log.on .unlimited) st

/-- The healthy run before the entry at place `n`. -/
def Plan.healthyBefore (n : Nat) : Run :=
  plan.reached (deposit.under log.medium) tools settings (log.on .unlimited) st n

/-- What becomes of the log when it is offered the blocks of the healthy run. -/
def Plan.recorded : Nat × Option Fault × Log :=
  log.recordAll (plan.records (plan.healthy deposit tools settings log st).2)

theorem Plan.healthy_eq :
    plan.healthy deposit tools settings log st =
      (.ok (Run.afterAll tools settings deposit 1 (plan.start log st) plan.entries).sink.summary,
        ((Run.afterAll tools settings deposit 1 (plan.start log st) plan.entries).on
          .unlimited).cleanUp settings) := by
  let final := Run.afterAll tools settings deposit 1 (plan.start log st) plan.entries
  have hfinal : Run.afterAll tools settings (deposit.under log.medium) 1
      (plan.start (log.on .unlimited) st) plan.entries = final.on .unlimited :=
    Run.afterAll_on tools settings deposit 1 (plan.start log st) plan.entries .unlimited
  rw [healthy, plan.runInto_unfailing _ tools settings st Medium.unlimited_unfailing, hfinal]
  rfl

theorem Plan.healthyBefore_eq (n : Nat) :
    plan.healthyBefore deposit tools settings log st n =
      (Run.afterAll tools settings deposit 1 (plan.start log st) (plan.entries.take n)).on
        .unlimited := by
  rw [healthyBefore, plan.reached_unfailing _ tools settings st Medium.unlimited_unfailing]
  exact Run.afterAll_on tools settings deposit 1 (plan.start log st) (plan.entries.take n) _

/-- A run whose log fails goes the way of the run whose log does not, up to the entry whose block is
the first that is refused. -/
theorem Plan.run_interruption :
    plan.Interruption settings log (plan.healthyBefore deposit tools settings log st)
      (plan.healthy deposit tools settings log st) (plan.recorded deposit tools settings log st).1
      (plan.recorded deposit tools settings log st).2.1
      (plan.recorded deposit tools settings log st).2.2
      (plan.runInto deposit tools settings log st) := by
  let final := Run.afterAll tools settings deposit 1 (plan.start log st) plan.entries
  let recorded := plan.recorded deposit tools settings log st
  have hhealthy : plan.healthy deposit tools settings log st =
      (.ok final.sink.summary, (final.on .unlimited).cleanUp settings) :=
    plan.healthy_eq deposit tools settings log st
  have hrecords : plan.records (plan.healthy deposit tools settings log st).2 =
      Run.recordsFrom tools settings deposit 1 (plan.start log st) plan.entries := by
    rw [hhealthy]
    exact plan.records_afterAll deposit tools settings st _ rfl
  have hrecorded : log.recordAll
      (Run.recordsFrom tools settings deposit 1 (plan.start log st) plan.entries) = recorded :=
    congrArg log.recordAll hrecords.symm
  obtain ⟨r, hsteps, hend⟩ := Run.stepsFrom_spec tools settings deposit 1 (plan.start log st)
    plan.entries hrecorded
  have hrun : plan.runInto deposit tools settings log st =
      (recorded.2.1.elim r.sink.finish .error, r.cleanUp settings) := by
    rw [runInto, hsteps]
    cases recorded.2.1 <;> rfl
  have hfinal : recorded.2.1 = none → r = final := fun hn => (hend.complete hn).2
  have hflush : recorded.2.1 = none → r.sink.log.flush =
      (log.medium.refusesFlush recorded.2.2.held).map (log.fault .flushLog) := by
    intro hn
    rw [← hend.log, hfinal hn, Run.log_afterAll]
    rfl
  rw [hrun, hhealthy]
  refine ⟨hend.log, ?_, ?_, fun fault hf => ?_, fun hn => ?_, fun hn reason hr => ?_,
    fun hn hr => ?_, Run.isFile_cleanUp settings r, Run.isFile_cleanUp settings _⟩
  · have hall := Run.held_afterAll tools settings deposit 1 (plan.start log st) plan.entries
    rw [← hrecords] at hall
    show _ <+: final.sink.log.held
    rw [hall]
    exact Log.held_recordAll log (plan.records _)
  · exact hend.shown.trans (congrArg (final.shown.take ·) (Nat.zero_add _))
  · obtain ⟨hlt, ⟨reason, hreason⟩, hcalls⟩ := hend.refused fault hf
    refine ⟨by rw [hf]; rfl, ⟨reason, by rw [hreason]; rfl⟩, hlt, ?_⟩
    rw [Run.calls_cleanUp, plan.healthyBefore_eq]
    exact hcalls
  · rw [hfinal hn]
    exact ⟨rfl, rfl⟩
  · refine ⟨log.fault .flushLog reason, ?_, rfl⟩
    rw [hn]
    show r.sink.finish = _
    rw [Sink.finish, hflush hn, hr]
    rfl
  · rw [hn]
    show r.sink.finish = _
    rw [Sink.finish, hflush hn, hr, hfinal hn]
    rfl

end
end Conformance
