import Conformance.Pipeline
import Mathlib.Logic.Basic
import Mathlib.Tactic.SplitIfs

/-!
# The courses that a case can take

A case talks to its tools: it calls one, gets an answer and goes on or stops. `Conversation` ties
the exchanges to what the tools do, whatever that is, and `Course` lists how far a case gets and
what it makes of the answers. `attempt_course` says that every case takes one of these courses, so
what holds of each course holds of every case.
-/
namespace Conformance.Pipeline

/-- A call, the answer to it, and the files as the tool left them. -/
structure Exchange where
  call : Call
  answer : Answer
  left : FileTree

/-- The record of an exchange, if the tool has ended. -/
def Exchange.record? (x : Exchange) : Option StageRecord :=
  match x.answer with
  | .completed capture => some ⟨x.call.stage, capture⟩
  | .timedOut | .fault _ => none

/-- The state after a tool was called. -/
def called (st : RunState) (call : Call) (s : Surroundings) : RunState :=
  { st with surroundings := s, calls := st.calls ++ [call] }

/-- The exchanges of a run from one state to another. Between two of them the run may write files
and give out artifact paths; the tools answer as they do. -/
inductive Conversation (tools : Toolchain) : RunState → List Exchange → RunState → Prop
  | ended (st : RunState) : Conversation tools st [] st
  | exchange {st st' : RunState} {call : Call} {answer : Answer} {s : Surroundings}
      {xs : List Exchange} :
      call.files = st.files →
      (tools.tool call.stage).run st.calls call.request call.deadline st.surroundings =
        (answer, s) →
      Conversation tools (called st call s) xs st' →
      Conversation tools st (⟨call, answer, s.files⟩ :: xs) st'
  | writes {st st' : RunState} {xs : List Exchange} (files : FileTree) (claimed : List Path) :
      Conversation tools { st.setFiles files with claimed } xs st' → Conversation tools st xs st'

theorem Conversation.append {tools : Toolchain} {st u v : RunState} {xs ys : List Exchange}
    (h : Conversation tools st xs u) (k : Conversation tools u ys v) :
    Conversation tools st (xs ++ ys) v := by
  induction h with
  | ended _ => exact k
  | exchange hf hr _ ih => exact .exchange hf hr (ih k)
  | writes files claimed _ ih => exact .writes files claimed (ih k)

/-- The calls that a run has made are those it was answered to. -/
theorem Conversation.calls {tools : Toolchain} {st st' : RunState} {xs : List Exchange}
    (h : Conversation tools st xs st') : st'.calls = st.calls ++ xs.map (·.call) := by
  induction h with
  | ended st => simp
  | exchange _ _ _ ih => simp [ih, called]
  | writes _ _ _ ih => simpa [RunState.setFiles] using ih

/-- A tool that has not ended, and why its case fails. -/
inductive Unanswered (stage : Stage) : Answer → FailReason → Prop
  | timedOut : Unanswered stage .timedOut (.timeout stage)
  | fault (f : ToolFault) : Unanswered stage (.fault f) (.launch stage f.message)

/-- The one exchange of a call, with the two ways to go on from it. -/
theorem invoke_cases (tools : Toolchain) (stage : Stage) (request : Request) (deadline : Deadline)
    (st : RunState) :
    (∃ c st', invoke tools stage request deadline st = (.ok c, st') ∧
      Conversation tools st [⟨⟨stage, request, deadline, st.files⟩, .completed c, st'.files⟩] st') ∨
    ∃ answer reason st', Unanswered stage answer reason ∧
      invoke tools stage request deadline st = (.error reason, st') ∧
      Conversation tools st [⟨⟨stage, request, deadline, st.files⟩, answer, st'.files⟩] st' := by
  obtain ⟨answer, s, hr⟩ : ∃ answer s,
      (tools.tool stage).run st.calls request deadline st.surroundings = (answer, s) := ⟨_, _, rfl⟩
  let call : Call := ⟨stage, request, deadline, st.files⟩
  have hc : Conversation tools st [⟨call, answer, (called st call s).files⟩] (called st call s) :=
    .exchange rfl hr (.ended _)
  cases answer with
  | completed c =>
    exact .inl ⟨c, called st call s, by simp only [invoke, hr]; rfl, hc⟩
  | timedOut =>
    exact .inr ⟨.timedOut, _, called st call s, .timedOut, by simp only [invoke, hr]; rfl, hc⟩
  | fault f =>
    exact .inr ⟨.fault f, _, called st call s, .fault f, by simp only [invoke, hr]; rfl, hc⟩

section
variable (settings : Settings) (case : TestCase) (deadline : Deadline)

/-- An exchange with the compiler, for a case. -/
abbrev compiling (files : FileTree) (answer : Answer) (left : FileTree) : Exchange :=
  ⟨⟨.compile, compileRequest case, deadline, files⟩, answer, left⟩

abbrev interpreting (files : FileTree) (answer : Answer) (left : FileTree) : Exchange :=
  ⟨⟨.interpret, interpretRequest settings case, deadline, files⟩, answer, left⟩

abbrev referring (files : FileTree) (answer : Answer) (left : FileTree) : Exchange :=
  ⟨⟨.reference, referenceRequest settings case, deadline, files⟩, answer, left⟩

/-- The courses of a case from the call of the reference on, after the interpreter behaved as
expected. -/
inductive ReferenceCourse (interpreted : Capture) : List Exchange → Progress → Prop
  | unanswered {f a l reason} : Unanswered .reference a reason →
      ReferenceCourse interpreted [referring settings case deadline f a l]
        { verdict := .fail reason }
  | compared {f c l} :
      ReferenceCourse interpreted [referring settings case deadline f (.completed c) l]
        { stages := [⟨.reference, c⟩], verdict := judge interpreted c }

/-- The courses of a case from the call of the interpreter on, in a tree with the scratch file. -/
inductive InterpretCourse (files : FileTree) : List Exchange → Progress → Prop
  | unanswered {a l reason} : Unanswered .interpret a reason →
      InterpretCourse files [interpreting settings case deadline files a l]
        { verdict := .fail reason }
  | unexpected {c l} : case.interpretCodes.contains c.exitCode = false →
      InterpretCourse files [interpreting settings case deadline files (.completed c) l]
        { stages := [⟨.interpret, c⟩]
          verdict := .fail (.interpretCode c.exitCode case.interpretCodes) }
  | stopped {c l} : case.interpretCodes.contains c.exitCode = true → c.exitCode ≠ 0 →
      InterpretCourse files [interpreting settings case deadline files (.completed c) l]
        { stages := [⟨.interpret, c⟩] }
  | unchecked {c l} : case.interpretCodes.contains c.exitCode = true → c.exitCode = 0 →
      settings.mode = .interpretOnly →
      InterpretCourse files [interpreting settings case deadline files (.completed c) l]
        { stages := [⟨.interpret, c⟩], incomplete := some .interpretOnly }
  | checked {c l xs p} : case.interpretCodes.contains c.exitCode = true → c.exitCode = 0 →
      settings.mode ≠ .interpretOnly → ReferenceCourse settings case deadline c xs p →
      InterpretCourse files (interpreting settings case deadline files (.completed c) l :: xs)
        { p with stages := ⟨.interpret, c⟩ :: p.stages }

/-- The courses of a case. -/
inductive Course : List Exchange → Progress → Prop
  | unanswered {f a l reason} : Unanswered .compile a reason →
      Course [compiling case deadline f a l] { verdict := .fail reason }
  | unexpected {f c l} : case.compilerCodes.contains c.exitCode = false →
      Course [compiling case deadline f (.completed c) l]
        { stages := [⟨.compile, c⟩]
          verdict := .fail (.compilerCode c.exitCode case.compilerCodes) }
  | stopped {f c l} : case.compilerCodes.contains c.exitCode = true → c.exitCode ≠ 0 →
      Course [compiling case deadline f (.completed c) l] { stages := [⟨.compile, c⟩] }
  | uninterpreted {f c l} : case.compilerCodes.contains c.exitCode = true → c.exitCode = 0 →
      settings.mode = .compileOnly →
      Course [compiling case deadline f (.completed c) l]
        { stages := [⟨.compile, c⟩], incomplete := some .compileOnly }
  | unwritten {f c l e} : case.compilerCodes.contains c.exitCode = true → c.exitCode = 0 →
      settings.mode ≠ .compileOnly → l.write settings.scratch c.stdout = .error e →
      Course [compiling case deadline f (.completed c) l]
        { stages := [⟨.compile, c⟩]
          verdict := .fail (.unprepared (scratchProblem settings e))
          code := some c.stdout }
  | interpreted {f c l t xs p} : case.compilerCodes.contains c.exitCode = true → c.exitCode = 0 →
      settings.mode ≠ .compileOnly → l.write settings.scratch c.stdout = .ok t →
      InterpretCourse settings case deadline t xs p →
      Course (compiling case deadline f (.completed c) l :: xs)
        { p with stages := ⟨.compile, c⟩ :: p.stages, code := some c.stdout }

end

theorem crossCheck_course (tools : Toolchain) (settings : Settings) (case : TestCase)
    (deadline : Deadline) (interpreted : Capture) (st : RunState) :
    ∃ xs, Conversation tools st xs (crossCheck tools settings case deadline interpreted st).2 ∧
      ReferenceCourse settings case deadline interpreted xs
        (crossCheck tools settings case deadline interpreted st).1 := by
  unfold crossCheck
  rcases invoke_cases tools .reference (referenceRequest settings case) deadline st with
    ⟨c, st', he, hc⟩ | ⟨answer, reason, st', hf, he, hc⟩
  · rw [he]
    exact ⟨_, hc, .compared⟩
  · rw [he]
    exact ⟨_, hc, .unanswered hf⟩

theorem interpretScratch_course (tools : Toolchain) (settings : Settings) (case : TestCase)
    (deadline : Deadline) (st : RunState) :
    ∃ xs, Conversation tools st xs (interpretScratch tools settings case deadline st).2 ∧
      InterpretCourse settings case deadline st.files xs
        (interpretScratch tools settings case deadline st).1 := by
  unfold interpretScratch
  rcases invoke_cases tools .interpret (interpretRequest settings case) deadline st with
    ⟨c, st', he, hc⟩ | ⟨answer, reason, st', hf, he, hc⟩
  · rw [he]
    dsimp only
    cases hcode : case.interpretCodes.contains c.exitCode with
    | false => exact ⟨_, hc, .unexpected hcode⟩
    | true =>
      simp only [Bool.not_true, Bool.false_eq_true, if_false]
      split_ifs with h0 hm
      · exact ⟨_, hc, .stopped hcode h0⟩
      · exact ⟨_, hc, .unchecked hcode (not_not.mp h0) hm⟩
      · obtain ⟨xs, hxs, hcourse⟩ := crossCheck_course tools settings case deadline c st'
        exact ⟨_, hc.append hxs, .checked hcode (not_not.mp h0) hm hcourse⟩
  · rw [he]
    exact ⟨_, hc, .unanswered hf⟩

/-- Whatever the tools do, a case takes one of its courses. -/
theorem attempt_course (tools : Toolchain) (settings : Settings) (case : TestCase) (st : RunState) :
    ∃ xs, Conversation tools st xs (attempt tools settings case st).2 ∧
      Course settings case (.after st.surroundings.now settings.timeout) xs
        (attempt tools settings case st).1 := by
  unfold attempt
  dsimp only
  rcases invoke_cases tools .compile (compileRequest case)
      (.after st.surroundings.now settings.timeout) st with
    ⟨c, st', he, hc⟩ | ⟨answer, reason, st', hf, he, hc⟩
  · rw [he]
    dsimp only
    cases hcode : case.compilerCodes.contains c.exitCode with
    | false => exact ⟨_, hc, .unexpected hcode⟩
    | true =>
      simp only [Bool.not_true, Bool.false_eq_true, if_false]
      split_ifs with h0 hm
      · exact ⟨_, hc, .stopped hcode h0⟩
      · exact ⟨_, hc, .uninterpreted hcode (not_not.mp h0) hm⟩
      · unfold interpret
        cases hw : st'.files.write settings.scratch c.stdout with
        | error e => exact ⟨_, hc, .unwritten hcode (not_not.mp h0) hm hw⟩
        | ok t =>
          obtain ⟨xs, hxs, hcourse⟩ :=
            interpretScratch_course tools settings case
              (.after st.surroundings.now settings.timeout) (st'.setFiles t)
          exact ⟨_, hc.append (.writes t st'.claimed hxs),
            .interpreted hcode (not_not.mp h0) hm hw hcourse⟩
  · rw [he]
    exact ⟨_, hc, .unanswered hf⟩

/-- A run of a case makes the exchanges of its attempt; keeping the artifact calls no tool. -/
theorem run_course (tools : Toolchain) (settings : Settings) (ordinal : Nat) (id : String)
    (case : TestCase) (st : RunState) :
    ∃ xs, Conversation tools st xs (run tools settings ordinal id case st).2 ∧
      Course settings case (.after st.surroundings.now settings.timeout) xs
        (attempt tools settings case st).1 := by
  obtain ⟨xs, hxs, hcourse⟩ := attempt_course tools settings case st
  refine ⟨xs, ?_, hcourse⟩
  unfold run
  dsimp only
  split
  · exact hxs
  · split_ifs
    · rw [← List.append_nil xs]
      exact hxs.append (.writes _ _ (.ended _))
    · exact hxs

/-- An outcome tells what the attempt came to. -/
theorem run_outcome (tools : Toolchain) (settings : Settings) (ordinal : Nat) (id : String)
    (case : TestCase) (st : RunState) :
    ∃ artifact, (run tools settings ordinal id case st).1 =
      { ordinal, id, artifact
        stages := (attempt tools settings case st).1.stages
        verdict := (attempt tools settings case st).1.verdict
        incomplete := (attempt tools settings case st).1.incomplete } := by
  unfold run
  dsimp only
  split
  · exact ⟨none, rfl⟩
  · split_ifs
    · exact ⟨_, rfl⟩
    · exact ⟨none, rfl⟩

/-! ## Artifacts -/

/-- A course has intermediate code to keep only if its compiler ended and wrote it. -/
theorem Course.code {settings : Settings} {case : TestCase} {deadline : Deadline}
    {xs : List Exchange} {p : Progress} (h : Course settings case deadline xs p) {code : Bytes}
    (hc : p.code = some code) : ∃ c rest, p.stages = ⟨.compile, c⟩ :: rest ∧ c.stdout = code := by
  cases h with
  | unwritten | interpreted => exact ⟨_, _, rfl, Option.some.inj hc⟩
  | unanswered | unexpected | stopped | uninterpreted => cases hc

/-- A run of a case keeps no artifact, or the one of its intermediate code. -/
theorem run_artifact (tools : Toolchain) (settings : Settings) (ordinal : Nat) (id : String)
    (case : TestCase) (st : RunState) :
    ((run tools settings ordinal id case st).1.artifact = none ∧
        (run tools settings ordinal id case st).2 = (attempt tools settings case st).2) ∨
      ∃ code, (attempt tools settings case st).1.code = some code ∧
        (run tools settings ordinal id case st).1.artifact =
          (keepArtifact settings case.name ordinal code (attempt tools settings case st).2).1 ∧
        (run tools settings ordinal id case st).2 =
          (keepArtifact settings case.name ordinal code (attempt tools settings case st).2).2 := by
  unfold run
  dsimp only
  split
  · exact .inl ⟨rfl, rfl⟩
  · rename_i code hc
    split_ifs
    · exact .inr ⟨code, hc, rfl, rfl⟩
    · exact .inl ⟨rfl, rfl⟩

end Conformance.Pipeline
