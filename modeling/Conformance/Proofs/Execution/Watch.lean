import Conformance.Execution.Supervision

/-!
# What a watch accounts for

A watch takes in observations in any order: what was asked of the child, when its deadline passed,
what the readers hand over, and when its last window of time was over. `run_accounted` says, for
every list of them, how the watch stands after them.

`Asking` and `Draining` are what was observed while there is no result, and `Accounted` has one case
for each way to end. Its cases tell with what a result was reached, so that a stream can only be
left empty if no reader was left to hand it over, and a child can only have run out of time if it
was found running after its deadline, or if it has ended and a stream was missing up to the end of
the window.
-/
namespace Conformance.Execution

/-! ## What was observed -/

/-- The child was not seen to end, it could be asked, and it was not found running after its
deadline. -/
structure Asking (seen : List Observation) : Prop where
  not_ended : ∀ status, .ended status ∉ seen
  not_refused : ∀ reason, .refused reason ∉ seen
  in_time : ∀ before after, seen = before ++ .running :: after → .deadline ∉ before

/-- The child has ended, and the window was not over since. -/
def Ended (status : Status) (seen : List Observation) : Prop :=
  ∃ before after, seen = before ++ .ended status :: after ∧ Asking before ∧ .windowOver ∉ after

/-- The child has ended, and a stream is missing that a reader may hand over. -/
structure Draining (status : Status) (seen : List Observation) : Prop where
  ended : Ended status seen
  missing : ∃ stream, ∀ content, .message stream content ∉ seen
  not_alone : .disconnected ∉ seen

/-- What was handed over of a stream: nothing only if no reader is left. -/
def Delivered (stream : Stream) (seen : List Observation) (content : Bytes) : Prop :=
  .message stream content ∈ seen ∨
    content = [] ∧ .disconnected ∈ seen ∧ ∀ content, .message stream content ∉ seen

/-- The results that observations lead to, and whether the child was killed with all its
descendants. -/
inductive Accounted : List Observation → (killed : Bool) → Result → Prop
  | completed {seen : List Observation} {status : Status} {out err : Bytes}
      (ended : Ended status seen) (stdout : Delivered .stdout seen out)
      (stderr : Delivered .stderr seen err) (rest : List Observation) :
      Accounted (seen ++ rest) false (.completed ⟨status.exitCode, out, err⟩)
  | late {seen : List Observation} (asking : Asking seen) (late : .deadline ∈ seen)
      (rest : List Observation) : Accounted (seen ++ .running :: rest) true .timedOut
  | windowOver {seen : List Observation} {status : Status} (draining : Draining status seen)
      (rest : List Observation) : Accounted (seen ++ .windowOver :: rest) true .timedOut
  | refused {seen : List Observation} {reason : String} (asking : Asking seen)
      (rest : List Observation) :
      Accounted (seen ++ .refused reason :: rest) true (.refused reason)

variable {seen : List Observation} {o : Observation} {status : Status}

theorem Asking.nil : Asking [] where
  not_ended := by simp
  not_refused := by simp
  in_time := by simp

/-- One more observation, unless it is of an end, of a refusal, or of a child that runs late. -/
theorem Asking.snoc (h : Asking seen) (not_ended : ∀ status, o ≠ .ended status)
    (not_refused : ∀ reason, o ≠ .refused reason) (in_time : o = .running → .deadline ∉ seen) :
    Asking (seen ++ [o]) where
  not_ended status hm := by
    rcases List.mem_append.1 hm with hm | hm
    · exact h.not_ended status hm
    · exact not_ended status (List.mem_singleton.1 hm).symm
  not_refused reason hm := by
    rcases List.mem_append.1 hm with hm | hm
    · exact h.not_refused reason hm
    · exact not_refused reason (List.mem_singleton.1 hm).symm
  in_time before after he := by
    rcases List.eq_nil_or_concat after with rfl | ⟨after, last, rfl⟩
    · obtain ⟨rfl, ho⟩ := List.append_inj' he rfl
      exact in_time (by simpa using ho)
    · have he : seen ++ [o] = (before ++ .running :: after) ++ [last] := by simpa using he
      exact h.in_time before after (List.append_inj' he rfl).1

theorem Asking.ended (h : Asking seen) (status : Status) : Ended status (seen ++ [.ended status]) :=
  ⟨seen, [], rfl, h, by simp⟩

theorem Ended.snoc (h : Ended status seen) (ho : o ≠ .windowOver) : Ended status (seen ++ [o]) := by
  obtain ⟨before, after, rfl, asking, within⟩ := h
  exact ⟨before, after ++ [o], by simp, asking, by simp [within, ho.symm]⟩

/-- One more observation, unless something arrives or the window is over. -/
theorem Draining.snoc (h : Draining status seen) (in_window : o ≠ .windowOver)
    (silent : ∀ stream content, o ≠ .message stream content) (not_alone : o ≠ .disconnected) :
    Draining status (seen ++ [o]) where
  ended := h.ended.snoc in_window
  missing := by
    obtain ⟨stream, missing⟩ := h.missing
    exact ⟨stream, fun content => by simpa [missing] using (silent stream content).symm⟩
  not_alone := by simpa [h.not_alone] using not_alone.symm

theorem Accounted.append {killed : Bool} {result : Result} (h : Accounted seen killed result)
    (more : List Observation) : Accounted (seen ++ more) killed result := by
  cases h with
  | completed ended stdout stderr rest =>
    simpa using Accounted.completed ended stdout stderr (rest ++ more)
  | late asking late rest => simpa using Accounted.late asking late (rest ++ more)
  | windowOver draining rest => simpa using Accounted.windowOver draining (rest ++ more)
  | refused asking rest => simpa using Accounted.refused asking (rest ++ more)

/-! ## What is known of the streams and of the time -/

/-- The stream that was handed over, if it was. -/
def Received.of (r : Received) : Stream → Option Bytes
  | .stdout => r.stdout
  | .stderr => r.stderr

theorem Received.isComplete_iff {r : Received} :
    r.isComplete = true ↔ ∀ stream, r.of stream ≠ none := by
  constructor
  · intro h stream
    cases stream <;> simp_all [Received.isComplete, Received.of, Option.isSome_iff_ne_none]
  · intro h
    have out := h .stdout
    have err := h .stderr
    simp_all [Received.isComplete, Received.of, Option.isSome_iff_ne_none]

/-- What is handed over is there, unless there was something of each stream already. -/
theorem Received.of_take (r : Received) (handed : Stream) (content : Bytes) (stream : Stream) :
    (r.take handed content).of stream = r.of stream ∧ (stream = handed → r.of stream ≠ none) ∨
      stream = handed ∧ (r.take handed content).of stream = some content := by
  by_cases hr : r.isComplete = true
  · exact .inl ⟨by simp [Received.take, hr], fun _ => Received.isComplete_iff.1 hr stream⟩
  · cases handed <;> cases stream <;> simp [Received.take, hr, Received.of]

/-- The watch knows what was observed of the time and of the readers. -/
structure Known (seen : List Observation) (w : Watch) : Prop where
  late : w.late = true ↔ .deadline ∈ seen
  alone : w.alone = true ↔ .disconnected ∈ seen
  taken : ∀ stream content, w.received.of stream = some content → .message stream content ∈ seen
  missing : ∀ stream, w.received.of stream = none → ∀ content, .message stream content ∉ seen

/-- What one observation tells of the time and of the readers. -/
def Watch.note (w : Watch) : Observation → Watch
  | .deadline => { w with late := true }
  | .message stream content => { w with received := w.received.take stream content }
  | .disconnected => { w with alone := true }
  | .running | .ended _ | .refused _ | .windowOver => w

namespace Known

variable {w : Watch}

theorem empty : Known [] {} where
  late := by simp
  alone := by simp
  taken stream content h := by cases stream <;> cases h
  missing := by simp

/-- Phases and what happened to the child are not told of. -/
theorem with_phase (h : Known seen w) (phase : Phase) (killed reaped : Bool) :
    Known seen { w with phase, killed, reaped } where
  late := h.late
  alone := h.alone
  taken := h.taken
  missing := h.missing

theorem message (h : Known seen w) (handed : Stream) (content : Bytes) :
    Known (seen ++ [.message handed content])
      { w with received := w.received.take handed content } where
  late := by simpa using h.late
  alone := by simpa using h.alone
  taken stream found hf := by
    rcases w.received.of_take handed content stream with ⟨same, -⟩ | ⟨rfl, new⟩
    · exact List.mem_append_left _ (h.taken stream found (same ▸ hf))
    · cases new.symm.trans hf
      exact List.mem_append_right _ (List.mem_singleton.2 rfl)
  missing stream hf found hm := by
    rcases w.received.of_take handed content stream with ⟨same, old⟩ | ⟨-, new⟩
    · rcases List.mem_append.1 hm with hm | hm
      · exact h.missing stream (same ▸ hf) found hm
      · cases List.mem_singleton.1 hm
        exact old rfl (same ▸ hf)
    · cases new.symm.trans hf

theorem note (h : Known seen w) (o : Observation) : Known (seen ++ [o]) (w.note o) := by
  cases o with
  | message stream content => exact h.message stream content
  | deadline => exact ⟨by simp [Watch.note], by simpa [Watch.note] using h.alone,
      by simpa [Watch.note] using h.taken, by simpa [Watch.note] using h.missing⟩
  | disconnected => exact ⟨by simpa [Watch.note] using h.late, by simp [Watch.note],
      by simpa [Watch.note] using h.taken, by simpa [Watch.note] using h.missing⟩
  | running | ended | refused | windowOver => exact ⟨by simpa [Watch.note] using h.late,
      by simpa [Watch.note] using h.alone, by simpa [Watch.note] using h.taken,
      by simpa [Watch.note] using h.missing⟩

/-- Once nothing more can arrive, what is not there was not handed over. -/
theorem delivered (h : Known seen w) (all : w.received.isComplete = true ∨ w.alone = true)
    (stream : Stream) : Delivered stream seen ((w.received.of stream).getD []) := by
  cases hs : w.received.of stream with
  | some content => exact .inl (h.taken stream content hs)
  | none =>
    have alone : w.alone = true :=
      all.resolve_left fun complete => Received.isComplete_iff.1 complete stream hs
    exact .inr ⟨rfl, h.alone.1 alone, h.missing stream hs⟩

end Known

/-! ## One observation, and all of them -/

/-- How a watch stands after observations. -/
def Standing (seen : List Observation) (w : Watch) : Prop :=
  match w.phase with
  | .asking => Known seen w ∧ w.killed = false ∧ Asking seen
  | .draining status => Known seen w ∧ w.killed = false ∧ w.reaped = true ∧ Draining status seen
  | .settled result => w.reaped = true ∧ Accounted seen w.killed result

variable {w : Watch}

theorem Known.settle (h : Known seen w) (alive : w.killed = false) (reaped : w.reaped = true)
    (ended : Ended status seen) : Standing seen (w.settle status) := by
  unfold Watch.settle
  split
  case isTrue hall =>
    have all : w.received.isComplete = true ∨ w.alone = true := by simpa using hall
    refine ⟨reaped, ?_⟩
    have account := Accounted.completed ended (h.delivered all .stdout) (h.delivered all .stderr) []
    simpa [alive, Received.capture, Received.of] using account
  case isFalse hall =>
    obtain ⟨incomplete, not_alone⟩ : w.received.isComplete ≠ true ∧ w.alone ≠ true := by
      simpa using hall
    obtain ⟨stream, missing⟩ : ∃ stream, w.received.of stream = none := by
      simpa using mt Received.isComplete_iff.2 incomplete
    exact ⟨h.with_phase _ _ _, alive, reaped,
      { ended, missing := ⟨stream, h.missing stream missing⟩, not_alone := mt h.alone.2 not_alone }⟩

/-- A child that was not seen to end is asked again, unless the observation settles that. -/
theorem Known.step_asking (h : Known seen w) (alive : w.killed = false) (asking : Asking seen)
    (hp : w.phase = .asking) (o : Observation) : Standing (seen ++ [o]) (w.step o) := by
  have waiting (step : w.step o = w.note o) (phase : (w.note o).phase = .asking)
      (unharmed : (w.note o).killed = false) (asking : Asking (seen ++ [o])) :
      Standing (seen ++ [o]) (w.step o) := by
    rw [step, Standing, phase]
    exact ⟨h.note o, unharmed, asking⟩
  cases o with
  | running =>
    by_cases late : w.late = true
    · simpa [Watch.step, hp, late, Watch.kill, Standing] using
        Accounted.late asking (h.late.1 late) []
    · have early : .deadline ∉ seen := mt h.late.2 late
      exact waiting (by simp [Watch.step, Watch.note, hp, late]) hp alive
        (asking.snoc (by simp) (by simp) fun _ => early)
  | ended status =>
    have known := (h.note (.ended status)).with_phase w.phase w.killed true
    simpa [Watch.step, Watch.note, hp] using known.settle alive rfl (asking.ended status)
  | refused reason =>
    simpa [Watch.step, hp, Watch.kill, Standing] using Accounted.refused asking []
  | deadline | message | disconnected | windowOver =>
    exact waiting (by simp [Watch.step, Watch.note, Watch.arrived, hp]) hp alive
      (asking.snoc (by simp) (by simp) (by simp))

/-- From a child that has ended something may arrive until the window is over. -/
theorem Known.step_draining (h : Known seen w) (alive : w.killed = false) (reaped : w.reaped = true)
    (draining : Draining status seen) (hp : w.phase = .draining status) (o : Observation) :
    Standing (seen ++ [o]) (w.step o) := by
  have known := h.note o
  have waiting (step : w.step o = w.note o) (phase : (w.note o).phase = .draining status)
      (unharmed : (w.note o).killed = false) (collected : (w.note o).reaped = true)
      (draining : Draining status (seen ++ [o])) : Standing (seen ++ [o]) (w.step o) := by
    rw [step, Standing, phase]
    exact ⟨known, unharmed, collected, draining⟩
  cases o with
  | windowOver =>
    simpa [Watch.step, hp, Watch.kill, Standing] using Accounted.windowOver draining []
  | message | disconnected =>
    simpa [Watch.step, Watch.note, Watch.arrived, hp] using
      known.settle alive reaped (draining.ended.snoc (by simp))
  | running | ended | refused | deadline =>
    exact waiting (by simp [Watch.step, Watch.note, hp]) hp alive reaped
      (draining.snoc (by simp) (by simp) (by simp))

theorem Standing.step (h : Standing seen w) (o : Observation) :
    Standing (seen ++ [o]) (w.step o) := by
  unfold Standing at h
  split at h
  case h_1 hp =>
    obtain ⟨known, alive, asking⟩ := h
    exact known.step_asking alive asking hp o
  case h_2 hp =>
    obtain ⟨known, alive, reaped, draining⟩ := h
    exact known.step_draining alive reaped draining hp o
  case h_3 result hp =>
    have same : w.step o = w := by simp [Watch.step, hp]
    rw [same, Standing, hp]
    exact ⟨h.1, h.2.append [o]⟩

theorem Standing.run (os : List Observation) (h : Standing seen w) :
    Standing (seen ++ os) (w.run os) := by
  -- One more observation at a time, the ones before it counted as seen.
  induction os generalizing seen w with
  | nil => simpa [Watch.run] using h
  | cons o os ih => simpa [Watch.run] using ih (h.step o)

/-- After any observations, a watch has a result that they account for, with its child collected,
or its child was not seen to end, or a stream is missing that may still arrive. -/
theorem run_accounted (seen : List Observation) :
    match (Watch.run {} seen).result? with
    | none => Asking seen ∨ ∃ status, Draining status seen
    | some result =>
      (Watch.run {} seen).reaped = true ∧ Accounted seen (Watch.run {} seen).killed result := by
  have start : Standing [] {} := ⟨Known.empty, rfl, Asking.nil⟩
  have standing : Standing seen (Watch.run {} seen) := start.run seen
  unfold Standing at standing
  unfold Watch.result?
  split at standing
  case h_1 hp => simpa [hp] using .inl standing.2.2
  case h_2 status hp => simpa [hp] using .inr ⟨status, standing.2.2.2⟩
  case h_3 result hp => simpa [hp] using standing

/-- A descendant that holds a stream open takes the result of a child that ended well. -/
example : (Watch.run {} [.running, .ended (.exited 0), .message .stdout [104], .windowOver]).result? =
    some .timedOut := by decide

end Conformance.Execution
