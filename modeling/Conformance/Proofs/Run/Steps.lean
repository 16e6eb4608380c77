import Conformance.Proofs.Report.Log
import Conformance.Run

/-!
# The steps of a run

As long as the log takes what it is given, a run goes on as if no log could fail: `after` is a run
after one entry then, `afterAll` after all of them. `stepsFrom_spec` says that the steps of any run
are those, up to the entry whose block is the first that the log refuses.
-/
namespace Conformance.Run

open Report (Log Sink Summary Medium block blockBytes)

variable (tools : Toolchain) (settings : Settings) (deposit : Deposit)

/-- A run after one more entry, whose block the log has taken. -/
def after (ordinal : Nat) (r : Run) (entry : PlannedCase) : Run :=
  let performed := perform tools settings ordinal entry r.state
  let log := r.sink.log.extended (block entry.case performed.1)
  let files := deposit r.sink.log log performed.2.files
  { state := performed.2.setFiles files
    sink := { log, summary := r.sink.summary.record performed.1 }
    shown := r.shown ++ [⟨performed.1, files⟩] }

/-- A run after more entries, whose blocks the log has taken. -/
def afterAll (ordinal : Nat) (r : Run) : List PlannedCase → Run
  | [] => r
  | entry :: entries =>
    afterAll (ordinal + 1) (after tools settings deposit ordinal r entry) entries

/-- The cases with their outcomes, in a run whose log takes everything. -/
def recordsFrom (ordinal : Nat) (r : Run) : List PlannedCase → List (TestCase × Outcome)
  | [] => []
  | entry :: entries =>
    (entry.case, (perform tools settings ordinal entry r.state).1) ::
      recordsFrom (ordinal + 1) (after tools settings deposit ordinal r entry) entries

/-- How a run has come to its end: the blocks that its log took, the fault that ended it if there
was one, and the log then. -/
structure Arrives (ordinal : Nat) (r : Run) (entries : List PlannedCase)
    (reached : Nat × Option Fault × Log) (r' : Run) : Prop where
  log : r'.sink.log = reached.2.2
  shown : r'.shown =
    (afterAll tools settings deposit ordinal r entries).shown.take (r.shown.length + reached.1)
  complete : reached.2.1 = none →
    reached.1 = entries.length ∧ r' = afterAll tools settings deposit ordinal r entries
  refused : ∀ fault, reached.2.1 = some fault → reached.1 < entries.length ∧
    (∃ reason, fault = r.sink.log.fault .writeLog reason) ∧
    r'.state.calls =
      (afterAll tools settings deposit ordinal r (entries.take (reached.1 + 1))).state.calls

/-- What was shown stays shown. -/
theorem shown_afterAll (ordinal : Nat) (r : Run) (entries : List PlannedCase) :
    ∃ more, (afterAll tools settings deposit ordinal r entries).shown = r.shown ++ more ∧
      more.map (·.outcome) = (recordsFrom tools settings deposit ordinal r entries).map (·.2) := by
  induction entries generalizing ordinal r with
  | nil => exact ⟨[], by simp [afterAll], rfl⟩
  | cons entry entries ih =>
    obtain ⟨more, hm, ho⟩ := ih (ordinal + 1) (after tools settings deposit ordinal r entry)
    rw [afterAll, recordsFrom, hm]
    refine ⟨_ :: more, List.append_assoc _ _ _, ?_⟩
    rw [List.map_cons, List.map_cons, ho]

/-- Each entry has its record. -/
theorem recordsFrom_cases (ordinal : Nat) (r : Run) (entries : List PlannedCase) :
    (recordsFrom tools settings deposit ordinal r entries).map (·.1) = entries.map (·.case) := by
  induction entries generalizing ordinal r with
  | nil => rfl
  | cons entry entries ih => rw [recordsFrom, List.map_cons, List.map_cons, ih]

/-- A step is the one of a run whose log takes everything, or it ends the run with the calls of that
one. -/
theorem step_cases (ordinal : Nat) (entry : PlannedCase) (r : Run) :
    (r.sink.log.record entry.case (perform tools settings ordinal entry r.state).1 =
        (none, (after tools settings deposit ordinal r entry).sink.log) ∧
      step tools settings deposit ordinal entry r =
        (none, after tools settings deposit ordinal r entry)) ∨
      ∃ reason log', r.sink.log.record entry.case (perform tools settings ordinal entry r.state).1 =
          (some (r.sink.log.fault .writeLog reason), log') ∧
        ∃ r', step tools settings deposit ordinal entry r =
            (some (r.sink.log.fault .writeLog reason), r') ∧
          r'.sink.log = log' ∧ r'.shown = r.shown ∧
          r'.state.calls = (after tools settings deposit ordinal r entry).state.calls := by
  rcases Log.record_cases r.sink.log entry.case
      (perform tools settings ordinal entry r.state).1 with
    h | ⟨reason, log', h, -⟩
  · left
    refine ⟨h, ?_⟩
    simp only [step, Sink.record, h]
    rfl
  · right
    rw [h]
    refine ⟨reason, log', rfl, ?_⟩
    simp only [step, Sink.record, h]
    exact ⟨_, rfl, rfl, rfl, rfl⟩

/-- The log of a run has the blocks of its records behind what it held. -/
theorem log_afterAll (ordinal : Nat) (r : Run) (entries : List PlannedCase) :
    (afterAll tools settings deposit ordinal r entries).sink.log =
      r.sink.log.extended ((recordsFrom tools settings deposit ordinal r entries).flatMap
        fun x => block x.1 x.2) := by
  induction entries generalizing ordinal r with
  | nil => exact (Log.extended_nil _).symm
  | cons entry entries ih =>
    rw [afterAll, ih, recordsFrom, List.flatMap_cons, ← Log.extended_append]
    rfl

theorem held_afterAll (ordinal : Nat) (r : Run) (entries : List PlannedCase) :
    (afterAll tools settings deposit ordinal r entries).sink.log.held =
      r.sink.log.held ++ (recordsFrom tools settings deposit ordinal r entries).flatMap
        fun x => blockBytes x.1 x.2 := by
  rw [log_afterAll, Log.extended_held, List.flatMap_assoc]
  rfl

theorem shown_take_afterAll (ordinal : Nat) (r : Run) (entries : List PlannedCase) :
    (afterAll tools settings deposit ordinal r entries).shown.take r.shown.length = r.shown := by
  obtain ⟨more, hm, -⟩ := shown_afterAll tools settings deposit ordinal r entries
  rw [hm, List.take_left]

/-- The steps of a run are those of one whose log takes everything, up to the entry whose block is
the first that the log refuses. -/
theorem stepsFrom_spec (ordinal : Nat) (r : Run) (entries : List PlannedCase)
    {reached : Nat × Option Fault × Log}
    (h : r.sink.log.recordAll (recordsFrom tools settings deposit ordinal r entries) = reached) :
    ∃ r', stepsFrom tools settings deposit ordinal r entries = (reached.2.1, r') ∧
      Arrives tools settings deposit ordinal r entries reached r' := by
  induction entries generalizing ordinal r reached with
  | nil =>
    obtain rfl := h
    exact ⟨r, rfl, rfl, List.take_length.symm, fun _ => ⟨rfl, rfl⟩, fun _ h => nomatch h⟩
  | cons entry entries ih =>
    rw [recordsFrom] at h
    rcases step_cases tools settings deposit ordinal entry r with
      ⟨hr, hs⟩ | ⟨reason, log', hr, r', hs, hlog, hshown, hcalls⟩
    · rw [Log.recordAll_taken hr] at h
      obtain rfl := h
      obtain ⟨r', hsteps, hend⟩ :=
        ih (ordinal + 1) (after tools settings deposit ordinal r entry) rfl
      refine ⟨r', ?_, hend.log, ?_, fun hn => ?_, fun fault hf => ?_⟩
      · rw [stepsFrom, hs]
        exact hsteps
      · have hlength : (after tools settings deposit ordinal r entry).shown.length =
            r.shown.length + 1 := by
          simp [after]
        rw [hend.shown, hlength, Nat.add_assoc, Nat.add_comm 1, afterAll]
      · obtain ⟨hlength, hr'⟩ := hend.complete hn
        exact ⟨congrArg (· + 1) hlength, hr'⟩
      · obtain ⟨hlt, hreason, hcalls⟩ := hend.refused fault hf
        exact ⟨Nat.succ_lt_succ hlt, hreason, hcalls⟩
    · rw [Log.recordAll_refused hr] at h
      obtain rfl := h
      refine ⟨r', ?_, hlog, ?_, nofun, fun fault hf => ?_⟩
      · rw [stepsFrom, hs]
      · rw [hshown]
        exact (shown_take_afterAll tools settings deposit ordinal r (entry :: entries)).symm
      · obtain rfl := Option.some.inj hf
        exact ⟨Nat.succ_pos _, ⟨reason, rfl⟩, hcalls⟩

/-- A run whose log never fails takes every step. -/
theorem stepsFrom_unfailing (ordinal : Nat) {r : Run} (h : r.sink.log.medium.Unfailing)
    (entries : List PlannedCase) :
    stepsFrom tools settings deposit ordinal r entries =
      (none, afterAll tools settings deposit ordinal r entries) := by
  induction entries generalizing ordinal r with
  | nil => rfl
  | cons entry entries ih =>
    have hr := Log.record_unfailing h entry.case (perform tools settings ordinal entry r.state).1
    rw [stepsFrom]
    simp only [step, Sink.record, hr]
    exact ih (ordinal + 1) h

end Conformance.Run
