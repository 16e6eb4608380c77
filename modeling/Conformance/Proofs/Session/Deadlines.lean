import Conformance.Proofs.Pipeline.Course
import Conformance.Proofs.Session.Outputs

/-!
# Deadlines that an instant can hold

A time limit of any number of seconds below 2 ^ 64 is accepted, while the moments that an instant
can name end after 2 ^ 63 seconds. So an accepted limit alone does not keep a session from breaking
down (`longest_breakdown`). `inRange_iff` says which deadlines, with the window after them, can be
computed, and `session_in_time` that on a machine whose clock goes forward those of a whole session
can be, if the limit and the window that begin at its end still fit.
-/
namespace Conformance

open Report (Log)

/-! ## Accepted time limits -/

/-- The spans that a duration can hold end here. -/
def Duration.bound : Nat :=
  0x10000000000000000 * nanosPerSecond

theorem Decimal.Ratio.round_le (r : Decimal.Ratio) : r.round ≤ r.num / r.den + 1 := by
  unfold Decimal.Ratio.round
  dsimp only
  split_ifs <;> omega

theorem Decimal.Ratio.round_whole (n : Nat) : (Decimal.Ratio.mk n 1).round = n := by
  simp [Decimal.Ratio.round, Nat.mod_one]

theorem Decimal.Binary.significand_lt (x : Float) :
    (Decimal.Binary.ofFloat x).significand < 2 * Decimal.hiddenBit := by
  have hfraction : (Decimal.Binary.ofFloat x).fraction < Decimal.hiddenBit :=
    Nat.mod_lt _ (by decide)
  unfold Decimal.Binary.significand
  split_ifs <;> omega

/-- A number of seconds is whole, or it has few digits. -/
theorem Decimal.Binary.magnitude_cases (x : Float) :
    (Decimal.Binary.ofFloat x).magnitude.den = 1 ∨
      (Decimal.Binary.ofFloat x).magnitude.num < 2 * Decimal.hiddenBit := by
  unfold Decimal.Binary.magnitude Decimal.Ratio.scaled
  split_ifs
  · exact .inl rfl
  · exact .inr (Decimal.Binary.significand_lt x)

theorem Duration.ofFloat?_lt {x : Float} {d : Duration} (h : Duration.ofFloat? x = some d) :
    d.nanos < Duration.bound := by
  have hcases := Decimal.Binary.magnitude_cases x
  unfold Duration.ofFloat? at h
  dsimp only at h
  generalize (Decimal.Binary.ofFloat x).magnitude = r at h hcases
  split_ifs at h with hlarge
  obtain rfl := Option.some.inj h
  rcases hcases with hwhole | hfew
  · -- Whole seconds below their bound are not rounded.
    rw [hwhole, Nat.mul_one] at hlarge
    rw [hwhole, Decimal.Ratio.round_whole]
    exact Nat.mul_lt_mul_of_pos_right (Nat.lt_of_not_le hlarge) (by decide)
  · -- Rounding adds a nanosecond at most.
    have hround := Decimal.Ratio.round_le ⟨r.num * nanosPerSecond, r.den⟩
    have hdiv : r.num * nanosPerSecond / r.den ≤ r.num * nanosPerSecond := Nat.div_le_self _ _
    have hnum : r.num * nanosPerSecond < 2 * Decimal.hiddenBit * nanosPerSecond :=
      Nat.mul_lt_mul_of_pos_right hfew (by decide)
    have hbound : 2 * Decimal.hiddenBit * nanosPerSecond < Duration.bound := by decide
    exact Nat.lt_of_le_of_lt (Nat.le_trans hround (Nat.succ_le_succ hdiv)) (by omega)

theorem Config.timeoutOfSeconds_lt {x : Float} {d : Duration}
    (h : Config.timeoutOfSeconds x = .ok d) : d.nanos < Duration.bound := by
  unfold Config.timeoutOfSeconds at h
  dsimp only at h
  split at h
  · cases h
  · split at h
    · rename_i hd
      obtain rfl := Except.ok.inj h
      exact Duration.ofFloat?_lt hd
    · cases h

theorem Config.Accepted.timeout_pos {c : Config} {t : FileTree} (h : c.Accepted t) :
    0 < c.timeout.nanos := by
  simpa [Duration.isZero, Nat.pos_iff_ne_zero] using h.time

/-! ## Times that can be computed -/

/-- What is computed for a tool that has a time limit from `start` on, and of which the last window
begins `now`, can be held: the deadline, the span up to the end of the window, and that end. -/
structure InRange (timeout : Duration) (start now : Instant) : Prop where
  deadline : (Deadline.after start timeout).representable = true
  window : ((Deadline.after start timeout).remaining now).nanos + drainGrace.nanos < Duration.bound
  limit : ((Deadline.after start timeout).drainLimit now).representable = true

theorem representable_drainLimit (timeout : Duration) (start now : Nat) :
    ((Deadline.after start timeout).drainLimit now).representable = true ↔
      start + timeout.nanos + drainGrace.nanos < Instant.bound ∧
        now + drainGrace.nanos < Instant.bound := by
  rw [Deadline.representable, decide_eq_true_eq]
  show (now + (start + timeout.nanos - now + drainGrace.nanos) : Nat) < Instant.bound ↔ _
  omega

/-- It is enough that the window can be named in which the limit has passed, and the one that begins
now. -/
theorem inRange_iff (timeout : Duration) (start now : Nat) :
    InRange timeout start now ↔ start + timeout.nanos + drainGrace.nanos < Instant.bound ∧
      now + drainGrace.nanos < Instant.bound := by
  refine ⟨fun h => (representable_drainLimit timeout start now).mp h.limit, fun h => ?_⟩
  have hbound : Instant.bound ≤ Duration.bound := by decide
  have hdeadline : start + timeout.nanos < Instant.bound := by omega
  exact {
    deadline := decide_eq_true hdeadline
    window := by
      show start + timeout.nanos - now + drainGrace.nanos < Duration.bound
      omega
    limit := (representable_drainLimit timeout start now).mpr h }

/-! ## A whole session -/

/-- The clock of a machine goes forward. -/
def Machine.Steady (m : Machine) : Prop :=
  ∀ command request deadline s, s.now ≤ (m.run command request deadline s).2.now

/-- Tools let the clock go forward. -/
def Toolchain.Steady (tools : Toolchain) : Prop :=
  ∀ stage calls request deadline s,
    s.now ≤ ((tools.tool stage).run calls request deadline s).2.now

theorem Machine.Steady.toolchain {m : Machine} (steady : m.Steady) (c : Config) :
    (c.toolchain m).Steady := by
  intro stage calls request deadline s
  cases stage <;> exact steady _ request deadline s

/-- From one state to another, the clock has gone forward, and each tool that was called had its
time limit from a moment in between. -/
structure Timed (limit : Duration → Prop) (st st' : RunState) : Prop where
  clock : st.surroundings.now ≤ st'.surroundings.now
  calls : ∃ made, st'.calls = st.calls ++ made ∧ ∀ call ∈ made, ∃ (timeout : Duration) (start : Nat),
    limit timeout ∧ start ≤ st'.surroundings.now ∧ call.deadline = .after start timeout

namespace Timed

variable {limit : Duration → Prop} {st st' st'' : RunState}

theorem refl (limit : Duration → Prop) (st : RunState) : Timed limit st st :=
  ⟨Nat.le_refl _, [], by simp, by simp⟩

theorem trans (h : Timed limit st st') (k : Timed limit st' st'') : Timed limit st st'' := by
  obtain ⟨made, hmade, htimed⟩ := h.calls
  obtain ⟨more, hmore, hlater⟩ := k.calls
  refine ⟨Nat.le_trans h.clock k.clock, made ++ more, by rw [hmore, hmade, List.append_assoc], ?_⟩
  intro call hcall
  rcases List.mem_append.mp hcall with hcall | hcall
  · obtain ⟨timeout, start, hlimit, hstart, hdeadline⟩ := htimed call hcall
    exact ⟨timeout, start, hlimit, Nat.le_trans hstart k.clock, hdeadline⟩
  · exact hlater call hcall

theorem mono {limit' : Duration → Prop} (h : Timed limit st st')
    (hlimit : ∀ timeout, limit timeout → limit' timeout) : Timed limit' st st' := by
  obtain ⟨made, hmade, htimed⟩ := h.calls
  refine ⟨h.clock, made, hmade, fun call hcall => ?_⟩
  obtain ⟨timeout, start, ht, hs, hd⟩ := htimed call hcall
  exact ⟨timeout, start, hlimit timeout ht, hs, hd⟩

/-- Files have no part in it. -/
theorem setFiles (h : Timed limit st st') (t : FileTree) : Timed limit st (st'.setFiles t) :=
  ⟨h.clock, h.calls⟩

end Timed

namespace Pipeline

variable {tools : Toolchain} {settings : Settings} {case : TestCase} {d : Deadline}
variable {xs : List Exchange} {p : Progress}

theorem ReferenceCourse.deadline {interpreted : Capture}
    (h : ReferenceCourse settings case d interpreted xs p) :
    ∀ x ∈ xs, x.call.deadline = d := by
  cases h <;> simp

theorem InterpretCourse.deadline {files : FileTree}
    (h : InterpretCourse settings case d files xs p) :
    ∀ x ∈ xs, x.call.deadline = d := by
  cases h with
  | checked _ _ _ hrest => simpa using hrest.deadline
  | _ => simp

/-- All tools of a case have one deadline. -/
theorem Course.deadline (h : Course settings case d xs p) :
    ∀ x ∈ xs, x.call.deadline = d := by
  cases h with
  | interpreted _ _ _ _ hrest => simpa using hrest.deadline
  | _ => simp

/-- The clock goes forward while tools run. -/
theorem Conversation.clock (steady : tools.Steady) {st st' : RunState}
    (h : Conversation tools st xs st') : st.surroundings.now ≤ st'.surroundings.now := by
  induction h with
  | ended _ => exact Nat.le_refl _
  | @exchange st _ call _ s _ _ hrun _ ih =>
    have hs := steady call.stage st.calls call.request call.deadline st.surroundings
    rw [hrun] at hs
    exact Nat.le_trans hs ih
  | writes _ _ _ ih => exact ih

theorem run_timed (steady : tools.Steady) (settings : Settings) (ordinal : Nat) (id : String)
    (case : TestCase) (st : RunState) :
    Timed (· = settings.timeout) st (run tools settings ordinal id case st).2 := by
  obtain ⟨xs, htalk, hcourse⟩ := run_course tools settings ordinal id case st
  have hclock := htalk.clock steady
  refine ⟨hclock, xs.map (·.call), htalk.calls, fun call hcall => ?_⟩
  obtain ⟨x, hx, rfl⟩ := List.mem_map.mp hcall
  exact ⟨settings.timeout, st.surroundings.now, rfl, hclock, hcourse.deadline x hx⟩

end Pipeline

namespace Run

variable {tools : Toolchain} (steady : tools.Steady) (settings : Settings) (deposit : Deposit)
include steady

theorem step_timed (ordinal : Nat) (entry : PlannedCase) (r : Run) :
    Timed (· = settings.timeout) r.state
      (step tools settings deposit ordinal entry r).2.state := by
  have hperform : Timed (· = settings.timeout) r.state
      (perform tools settings ordinal entry r.state).2 := by
    unfold perform
    cases entry.skip with
    | some reason => exact .refl _ _
    | none => exact Pipeline.run_timed steady settings ordinal entry.case.name entry.case r.state
  unfold step
  dsimp only
  split <;> exact hperform.setFiles _

theorem stepsFrom_timed (ordinal : Nat) (r : Run) (entries : List PlannedCase) :
    Timed (· = settings.timeout) r.state
      (stepsFrom tools settings deposit ordinal r entries).2.state := by
  induction entries generalizing ordinal r with
  | nil => exact .refl _ _
  | cons entry entries ih =>
    have hstep := step_timed steady settings deposit ordinal entry r
    rw [stepsFrom]
    cases hs : step tools settings deposit ordinal entry r with
    | mk fault r' =>
      rw [hs] at hstep
      cases fault with
      | some fault => exact hstep
      | none => exact hstep.trans (ih (ordinal + 1) r')

end Run

theorem Plan.runInto_timed {tools : Toolchain} (steady : tools.Steady) (settings : Settings)
    (deposit : Deposit) (plan : Plan) (log : Log) (st : RunState) :
    Timed (· = settings.timeout) st (plan.runInto deposit tools settings log st).2.state := by
  have hsteps := Run.stepsFrom_timed steady settings deposit 1 (plan.start log st) plan.entries
  have hclean (r : Run) : ∃ t, (r.cleanUp settings).state = r.state.setFiles t := by
    unfold Run.cleanUp Pipeline.cleanUp
    dsimp only
    split
    · exact ⟨_, rfl⟩
    · exact ⟨r.state.files, rfl⟩
    · exact ⟨r.state.files, rfl⟩
  obtain ⟨t, ht⟩ := hclean
    (Run.stepsFrom tools settings deposit 1 (plan.start log st) plan.entries).2
  have htimed := hsteps.setFiles t
  rw [← ht] at htimed
  unfold Plan.runInto
  dsimp only
  split <;> exact htimed

namespace Session

open CommandLine (Arguments)

section
variable {m : Machine} (steady : m.Steady) (c : Config)
include steady

theorem probe_timed (p : Config.Probe) (st : RunState) :
    Timed (· = Config.launchTime) st (Config.probe m p st).2 := by
  have hclock := steady p.command p.request (.after st.surroundings.now Config.launchTime)
    st.surroundings
  rw [Config.probe]
  revert hclock
  rcases m.run p.command p.request (.after st.surroundings.now Config.launchTime) st.surroundings
    with ⟨_ | _ | _, s⟩ <;>
  · intro hclock
    exact ⟨hclock, [_], rfl, fun call hcall =>
      ⟨Config.launchTime, st.surroundings.now, rfl, hclock, by rw [List.mem_singleton.mp hcall]⟩⟩

theorem probeAll_timed (st : RunState) (ps : List Config.Probe) :
    Timed (· = Config.launchTime) st (Config.probeAll m st ps).2 := by
  induction ps generalizing st with
  | nil => exact .refl _ _
  | cons p ps ih =>
    have hprobe := probe_timed steady p st
    rw [Config.probeAll]
    cases hp : Config.probe m p st with
    | mk fault st' =>
      rw [hp] at hprobe
      cases fault with
      | some fault => exact hprobe
      | none => exact hprobe.trans (ih st')

/-- From one state to another, all was done in time, or the session broke down because some deadline
could not be named. -/
structure Kept (st : RunState) (s : Session) : Prop where
  timed : Timed (fun timeout => timeout = c.timeout ∨ timeout = Config.launchTime) st s.state
  breakdown : s.ending = .brokenDown → ∃ start : Nat, start ≤ s.state.surroundings.now ∧
    ¬(Deadline.after start c.timeout).representable = true

omit steady in
theorem kept_of_refused {st st' : RunState} (fault : Fault)
    (h : Timed (· = Config.launchTime) st st') :
    Kept c st { ending := .refused fault, state := st' } :=
  ⟨h.mono fun _ => .inr, nofun⟩

theorem runPlan_kept (quiet : Bool) (plan : Plan) (st : RunState) :
    Kept c st (runPlan m c quiet plan st) := by
  have htools := steady.toolchain c
  let deposit := depositInto (st.files.fileOf? c.logFile)
  have hsteps := Run.stepsFrom_timed htools c.settings deposit 1
    { state := st, sink := { log := { path := c.logFile } } }
    (plan.entries.takeWhile (·.skip.isSome))
  have hplan := plan.runInto_timed htools c.settings deposit { path := c.logFile } st
  unfold runPlan
  dsimp only
  split
  · rename_i hbroken
    have hunnamed : canTime c st = false := by
      have hboth : canTime c st = false ∧ 0 < plan.runnable := by simpa using hbroken
      exact hboth.1
    exact ⟨(hsteps.setFiles _).mono fun _ => .inl,
      fun _ => ⟨st.surroundings.now, hsteps.clock, by simpa [canTime] using hunnamed⟩⟩
  · split <;> exact ⟨(hplan.setFiles _).mono fun _ => .inl, nofun⟩

theorem perform_kept (quiet : Bool) (selection : Selection) (st : RunState) :
    Kept c st (perform m c quiet selection st) := by
  have htried := probeAll_timed steady st c.probes
  unfold perform
  split
  · exact kept_of_refused c _ (.refl _ st)
  · cases hchecks : c.checkToolchain m st with
    | mk fault st' =>
      rw [Config.checkToolchain] at hchecks
      rw [hchecks] at htried
      cases fault with
      | some fault => exact kept_of_refused c _ htried
      | none =>
        dsimp only
        cases collect c st'.files selection with
        | error fault => exact kept_of_refused c _ htried
        | ok cases =>
          dsimp only
          unfold prepareAndRun
          split
          · exact kept_of_refused c _ (htried.setFiles _)
          · split
            · exact kept_of_refused c _ (htried.setFiles _)
            · rename_i t _
              have hrun := runPlan_kept steady c quiet (Plan.build cases c.extensions)
                (st'.setFiles t)
              exact ⟨((htried.setFiles _).mono fun _ => .inr).trans hrun.timed, hrun.breakdown⟩

end

/-- An accepted time limit is held by a duration, and says nothing of what an instant can hold:
which times can be computed depends on the moment besides. A session does not break down, and all
that is computed for its tools can be held, if the limit and the window could still begin at its
end. -/
theorem session_in_time {m : Machine} (steady : m.Steady) {x : Float} {c : Config}
    (read : Config.timeoutOfSeconds x = .ok c.timeout) {st : RunState}
    (valid : c.validate st.files = none) (quiet : Bool) (selection : Selection) :
    (0 < c.timeout.nanos ∧ c.timeout.nanos < Duration.bound) ∧
    (∀ start now : Nat, InRange c.timeout start now ↔
      start + c.timeout.nanos + drainGrace.nanos < Instant.bound ∧
        now + drainGrace.nanos < Instant.bound) ∧
    ((perform m c quiet selection st).state.surroundings.now +
        max c.timeout.nanos Config.launchTime.nanos + drainGrace.nanos < Instant.bound →
      (perform m c quiet selection st).ending ≠ .brokenDown ∧
      ∃ made, (perform m c quiet selection st).state.calls = st.calls ++ made ∧
        ∀ call ∈ made, ∃ timeout start, call.deadline = .after start timeout ∧
          ∀ now ≤ (perform m c quiet selection st).state.surroundings.now,
            InRange timeout start now) := by
  have hpositive := (Config.validate_eq_none.mp valid).timeout_pos
  refine ⟨⟨hpositive, Config.timeoutOfSeconds_lt read⟩, inRange_iff c.timeout,
    fun room => ?_⟩
  have hkept := perform_kept steady c quiet selection st
  generalize perform m c quiet selection st = s at room hkept ⊢
  have hroom (timeout : Duration) (h : timeout = c.timeout ∨ timeout = Config.launchTime)
      (start : Nat) (hstart : start ≤ s.state.surroundings.now) :
      start + timeout.nanos + drainGrace.nanos < Instant.bound := by
    have hlimit : timeout.nanos ≤ max c.timeout.nanos Config.launchTime.nanos := by
      rcases h with rfl | rfl
      · exact Nat.le_max_left _ _
      · exact Nat.le_max_right _ _
    exact Nat.lt_of_le_of_lt (Nat.add_le_add_right (Nat.add_le_add hstart hlimit) _) room
  obtain ⟨made, hmade, htimed⟩ := hkept.timed.calls
  refine ⟨fun hbroken => ?_, made, hmade, fun call hcall => ?_⟩
  · obtain ⟨start, hstart, hunnamed⟩ := hkept.breakdown hbroken
    have hlater := hroom c.timeout (.inl rfl) start hstart
    exact hunnamed ((inRange_iff c.timeout start start).mpr ⟨hlater, by omega⟩).deadline
  · obtain ⟨timeout, start, hlimit, hstart, hdeadline⟩ := htimed call hcall
    refine ⟨timeout, start, hdeadline, fun now hnow => (inRange_iff timeout start now).mpr ⟨?_, ?_⟩⟩
    · exact hroom timeout hlimit start hstart
    · have hlater := hroom timeout hlimit now hnow
      omega

theorem idleMachine_steady : idleMachine.Steady :=
  fun _ _ _ _ => Nat.le_refl _

/-- The interpreter is tried in time where no limit is given. -/
theorem tried_in_time :
    (∀ start now : Nat, InRange interpretConfig.timeout start now ↔
      start + interpretConfig.timeout.nanos + drainGrace.nanos < Instant.bound ∧
        now + drainGrace.nanos < Instant.bound) ∧
    (perform idleMachine interpretConfig false (.paths [⟨"t"⟩]) emptyState).ending ≠ .brokenDown ∧
    ∃ call timeout start,
      (perform idleMachine interpretConfig false (.paths [⟨"t"⟩]) emptyState).state.calls = [call] ∧
        call.deadline = .after start timeout ∧ InRange timeout start 0 := by
  have hread : Config.timeoutOfSeconds strayLogArguments.seconds = .ok interpretConfig.timeout :=
    toOption_eq_some.mp (by decide +kernel)
  have hstate : (perform idleMachine interpretConfig false (.paths [⟨"t"⟩]) emptyState).state =
      afterChecks idleMachine interpretConfig emptyState :=
    (perform_refused false (collect_missing interpretConfig)).state
  have hnow : (perform idleMachine interpretConfig false (.paths [⟨"t"⟩])
      emptyState).state.surroundings.now = 0 := by
    rw [hstate, afterChecks, validate_interpretConfig]
    rfl
  have hlength : (perform idleMachine interpretConfig false (.paths [⟨"t"⟩])
      emptyState).state.calls.length = 1 := by
    rw [hstate, afterChecks_interpretConfig]
  obtain ⟨-, hrange, htimed⟩ := session_in_time idleMachine_steady hread validate_interpretConfig
    false (.paths [⟨"t"⟩])
  obtain ⟨hending, made, hmade, hall⟩ := htimed (by rw [hnow]; decide)
  obtain ⟨call, hcall⟩ := List.length_eq_one_iff.mp hlength
  have honly : made = [call] := hmade.symm.trans hcall
  obtain ⟨timeout, start, hdeadline, hkept⟩ := hall call (by simp [honly])
  exact ⟨hrange, hending, call, timeout, start, hcall, hdeadline, hkept 0 (Nat.zero_le _)⟩

/-- A command line with a time limit that a duration can hold and no instant can. -/
def longWords : List String :=
  ["-C", "-c", "c", "-t", "1e19", "-l", "l", "-o", "o", "t"]

def longArguments : Arguments where
  flags := [.compileOnly]
  values := [(.compiler, "c"), (.timeout, "1e19"), (.logFile, "l"), (.outputFolder, "o")]
  paths := [⟨"t"⟩]

def longConfig : Config where
  compiler := ⟨"c"⟩
  timeout := .ofSeconds 10000000000000000000
  logFile := ⟨"l"⟩
  outputFolder := ⟨"o"⟩
  mode := .compileOnly

theorem ofWords_long : Arguments.ofWords longWords = .ok longArguments :=
  toOption_eq_some.mp (by decide)

theorem read_long : Config.timeoutOfSeconds longArguments.seconds = .ok longConfig.timeout :=
  toOption_eq_some.mp (by decide +kernel)

theorem request_long : request longArguments formerTree = .ok (longConfig, .paths [⟨"t"⟩]) := by
  have hconfig : longArguments.config = .ok longConfig := by
    rw [Arguments.config, read_long]
    rfl
  rw [request, hconfig]
  rfl

theorem validate_long : longConfig.validate formerTree = none :=
  validate_former (by decide) rfl rfl (fun hexplicit => absurd hexplicit (by decide))
    fun hfull => absurd hfull (by decide)

/-- The limit is accepted, and the session breaks down with it. -/
theorem longest_breakdown :
    (Config.timeoutOfSeconds longArguments.seconds = .ok longConfig.timeout ∧
      longConfig.validate formerTree = none ∧ ¬InRange longConfig.timeout 0 0) ∧
    (run idleMachine longWords formerState).ending = .brokenDown ∧
    (run idleMachine longWords formerState).exitCode = breakdownCode := by
  have hcollect : collect longConfig formerState.files (.paths [⟨"t"⟩]) =
      .ok [{ name := "t", origin := ⟨"t"⟩, source := "b" }] := by
    have hload : Discovery.load formerState.files ⟨"t"⟩ = _ := load_formerTest
    simp only [collect, Selection.resolvePaths, hload]
    rfl
  have hprepare : longConfig.prepareOutputs formerState.files = (emptiedTree, none) :=
    prepareOutputs_former rfl node?_formerLog
  obtain ⟨t, hwrite⟩ : ∃ t, emptiedTree.write longConfig.logFile [] = .ok t := by
    rw [longConfig, FileTree.write, find_l .content rfl rfl]
    exact ⟨_, rfl⟩
  have hlate : ¬(Deadline.after 0 longConfig.timeout).representable = true := by decide
  have hunnamed : canTime longConfig (formerState.setFiles t) = false :=
    Bool.eq_false_iff.mpr hlate
  have hending : (run idleMachine longWords formerState).ending = .brokenDown := by
    rw [run_eq_perform ofWords_long request_long rfl,
      perform_eq_prepareAndRun validate_long rfl hcollect, prepareAndRun, hprepare]
    dsimp only
    rw [hwrite]
    dsimp only
    rw [runPlan, hunnamed]
    rfl
  refine ⟨⟨read_long, validate_long, fun h => ?_⟩, hending, by rw [exitCode, hending]⟩
  exact hlate h.deadline

end Session

end Conformance
