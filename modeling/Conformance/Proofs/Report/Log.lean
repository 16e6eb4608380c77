import Conformance.Report.Log

/-!
# What a log holds

A log that takes a list of pieces holds them all behind what it held before (`extended`). A medium
may refuse one of them; then the log holds a beginning of that, and the other pieces are not even
offered (`appendAll_cases`). `recordAll` says how many blocks of a list come that far.
-/
namespace Conformance.Report

/-- A medium that takes every piece and can always be flushed. -/
structure Medium.Unfailing (m : Medium) : Prop where
  takes : ∀ held piece, m.refuses held piece = none
  flushes : ∀ held, m.refusesFlush held = none

theorem Medium.unlimited_unfailing : Medium.unlimited.Unfailing :=
  ⟨fun _ _ => rfl, fun _ => rfl⟩

/-- The bytes of a block. -/
def blockBytes (case : TestCase) (o : Outcome) : Bytes :=
  (block case o).flatMap Text.encode

namespace Log

/-- The log with another medium. -/
def on (log : Log) (m : Medium) : Log :=
  { log with medium := m }

/-- The log with these pieces behind what it holds. -/
def extended (log : Log) (pieces : List String) : Log :=
  { log with
    held := log.held ++ pieces.flatMap Text.encode
    waiting := pieces.foldl (fun w piece => waitingAfter w (Text.encode piece).length) log.waiting }

@[simp] theorem extended_path (log : Log) (pieces : List String) :
    (log.extended pieces).path = log.path := rfl

@[simp] theorem extended_medium (log : Log) (pieces : List String) :
    (log.extended pieces).medium = log.medium := rfl

@[simp] theorem extended_held (log : Log) (pieces : List String) :
    (log.extended pieces).held = log.held ++ pieces.flatMap Text.encode := rfl

theorem extended_nil (log : Log) : log.extended [] = log := by
  simp [extended]

theorem extended_append (log : Log) (pieces more : List String) :
    (log.extended pieces).extended more = log.extended (pieces ++ more) := by
  simp [extended]

theorem extended_on (log : Log) (m : Medium) (pieces : List String) :
    (log.on m).extended pieces = (log.extended pieces).on m := rfl

theorem on_on_medium (log : Log) (m : Medium) : (log.on m).on log.medium = log := rfl

/-- What became of a log that was refused on the way to these bytes. -/
structure Stopped (log : Log) (bytes : Bytes) (log' : Log) : Prop where
  path : log'.path = log.path
  held : log'.held <+: log.held ++ bytes

theorem append_cases (log : Log) (piece : String) :
    log.append piece = (none, log.extended [piece]) ∨
      ∃ reason log', log.append piece = (some reason, log') ∧
        Stopped log (Text.encode piece) log' := by
  cases h : log.medium.refuses log.held (Text.encode piece) with
  | none =>
    left
    simp [append, h, extended]
  | some r =>
    right
    refine ⟨r.reason, { log with held := log.held ++ (Text.encode piece).take r.taken },
      ?_, rfl, ?_⟩
    · simp [append, h]
    · exact (List.prefix_append_right_inj _).mpr (List.take_prefix _ _)

/-- A log takes all pieces, or stops somewhere on the way to what it would hold then. -/
theorem appendAll_cases (log : Log) (pieces : List String) :
    log.appendAll pieces = (none, log.extended pieces) ∨
      ∃ reason log', log.appendAll pieces = (some reason, log') ∧
        Stopped log (pieces.flatMap Text.encode) log' := by
  induction pieces generalizing log with
  | nil => exact .inl (by rw [appendAll, extended_nil])
  | cons piece pieces ih =>
    rcases append_cases log piece with h | ⟨reason, log', h, hs⟩
    · rw [appendAll, h]
      dsimp only
      rcases ih (log.extended [piece]) with h' | ⟨reason, log', h', hs⟩
      · exact .inl (by rw [h', extended_append]; rfl)
      · exact .inr ⟨reason, log', h', hs.path, by simpa using hs.held⟩
    · rw [appendAll, h]
      refine .inr ⟨reason, log', rfl, hs.path, hs.held.trans ?_⟩
      simp [← List.append_assoc]

theorem appendAll_unfailing {log : Log} (h : log.medium.Unfailing) (pieces : List String) :
    log.appendAll pieces = (none, log.extended pieces) := by
  induction pieces generalizing log with
  | nil => rw [appendAll, extended_nil]
  | cons piece pieces ih =>
    have happend : log.append piece = (none, log.extended [piece]) := by
      simp [append, h.takes, extended]
    rw [appendAll, happend]
    dsimp only
    have hrest := @ih (log.extended [piece]) h
    rw [hrest, extended_append]
    rfl

/-- A block is taken as a whole, or is the first that is not. -/
theorem record_cases (log : Log) (case : TestCase) (o : Outcome) :
    log.record case o = (none, log.extended (block case o)) ∨
      ∃ reason log', log.record case o = (some (log.fault .writeLog reason), log') ∧
        Stopped log (blockBytes case o) log' := by
  unfold record
  rcases appendAll_cases log (block case o) with h | ⟨reason, log', h, hs⟩
  · left
    rw [h]
    rfl
  · right
    refine ⟨reason, log', ?_, hs⟩
    rw [h]
    rfl

theorem record_unfailing {log : Log} (h : log.medium.Unfailing) (case : TestCase) (o : Outcome) :
    log.record case o = (none, log.extended (block case o)) := by
  rw [record, appendAll_unfailing h]
  rfl

/-- Appends blocks up to the first that is refused: how many were taken, the fault if there is one,
and the log then. -/
def recordAll (log : Log) : List (TestCase × Outcome) → Nat × Option Fault × Log
  | [] => (0, none, log)
  | (case, o) :: records =>
    match log.record case o with
    | (some fault, log') => (0, some fault, log')
    | (none, log') =>
      let (taken, fault, log'') := log'.recordAll records
      (taken + 1, fault, log'')

theorem recordAll_taken {log log' : Log} {case : TestCase} {o : Outcome}
    (h : log.record case o = (none, log')) (records : List (TestCase × Outcome)) :
    log.recordAll ((case, o) :: records) =
      ((log'.recordAll records).1 + 1, (log'.recordAll records).2) := by
  rw [recordAll, h]

theorem recordAll_refused {log log' : Log} {case : TestCase} {o : Outcome} {fault : Fault}
    (h : log.record case o = (some fault, log')) (records : List (TestCase × Outcome)) :
    log.recordAll ((case, o) :: records) = (0, some fault, log') := by
  rw [recordAll, h]

/-- After a list of blocks a log holds a beginning of what it would hold if it had taken all. -/
theorem held_recordAll (log : Log) (records : List (TestCase × Outcome)) :
    (log.recordAll records).2.2.held <+:
      log.held ++ records.flatMap fun x => blockBytes x.1 x.2 := by
  induction records generalizing log with
  | nil => simp [recordAll]
  | cons x records ih =>
    rw [List.flatMap_cons, ← List.append_assoc]
    rcases record_cases log x.1 x.2 with h | ⟨reason, log', h, hs⟩
    · rw [recordAll_taken h]
      exact ih (log.extended (block x.1 x.2))
    · rw [recordAll_refused h]
      exact hs.held.trans (List.prefix_append _ _)

end Log
end Conformance.Report
