import Conformance.Proofs.Run.Independence

/-!
# Shorter and longer modes

A mode only says where a case that goes well is ended. So a case comes to the same in two modes, or
the shorter one has ended it while it went well, after stages with which the longer one begins. For
this the two attempts need not start from one state: it is enough that the tools look at nothing
else than their requests and the scratch file, and that the scratch file is alike.
-/
namespace Conformance

namespace RunMode

/-- How many stages a case has in a mode at most. -/
def reach : RunMode → Nat
  | .compileOnly => 1
  | .interpretOnly => 2
  | .full => 3

instance : LT RunMode := ⟨fun m m' => m.reach < m'.reach⟩

instance (m m' : RunMode) : Decidable (m < m') :=
  inferInstanceAs (Decidable (m.reach < m'.reach))

theorem ne_full_of_lt {m m' : RunMode} (h : m < m') : m ≠ .full := by
  rintro rfl
  revert h
  cases m' <;> decide

end RunMode

/-- Whatever was called before and whatever else there is, the answers of the tools are a function
of their requests and the scratch file. -/
def Toolchain.Answers (tools : Toolchain) (scratch : Path)
    (answer : Stage → Request → Except FileError Bytes → Answer) : Prop :=
  ∀ stage calls request deadline s,
    ((tools.tool stage).run calls request deadline s).1 =
      answer stage request (s.files.read scratch)

/-- The same settings in another mode. -/
def Settings.inMode (settings : Settings) (mode : RunMode) : Settings :=
  { settings with mode }

@[simp] theorem Settings.inMode_mode (settings : Settings) (mode : RunMode) :
    (settings.inMode mode).mode = mode := rfl

@[simp] theorem Settings.inMode_timeout (settings : Settings) (mode : RunMode) :
    (settings.inMode mode).timeout = settings.timeout := rfl

@[simp] theorem Settings.inMode_scratch (settings : Settings) (mode : RunMode) :
    (settings.inMode mode).scratch = settings.scratch := rfl

/-- What is told of a case is what is told of it in a longer mode, as far as it goes. -/
structure Outcome.ContinuedBy (o longer : Outcome) : Prop where
  stages : o.stages <+: longer.stages
  fails : ∀ reason, o.verdict = .fail reason → longer.verdict = .fail reason
  passes : longer.verdict = .pass → o.verdict = .pass
  complete : o.verdict = .pass → o.incomplete = none →
    longer.verdict = .pass ∧ longer.stages = o.stages

namespace Pipeline

/-- A case comes to the same, or a mode has ended it while it went well. -/
inductive Progress.EndedBefore (p q : Progress) : Prop
  | same : p.stages = q.stages → p.verdict = q.verdict → p.incomplete = q.incomplete →
      EndedBefore p q
  | ended {mode : RunMode} : p.verdict = .pass → p.incomplete = some mode →
      p.stages <+: q.stages → EndedBefore p q

namespace Progress.EndedBefore

variable {p q : Progress}

theorem refl (p : Progress) : EndedBefore p p :=
  .same rfl rfl rfl

/-- Whatever stages came before. -/
theorem after (h : EndedBefore p q) (stages : List StageRecord) (code code' : Option Bytes) :
    EndedBefore { p with stages := stages ++ p.stages, code }
      { q with stages := stages ++ q.stages, code := code' } := by
  cases h with
  | same hstages hverdict hincomplete => exact .same (by rw [hstages]) hverdict hincomplete
  | ended hverdict hincomplete hstages =>
    exact .ended hverdict hincomplete ((List.prefix_append_right_inj stages).mpr hstages)

end Progress.EndedBefore

variable {tools : Toolchain} {settings : Settings} {m m' : RunMode}

/-- The interpreter's stage is the last one, or the reference's follows it. -/
theorem interpretScratch_endedBefore (tools : Toolchain) (settings : Settings) (case : TestCase)
    (deadline : Deadline) (st : RunState) :
    (interpretScratch tools (settings.inMode .interpretOnly) case deadline st).1.EndedBefore
      (interpretScratch tools (settings.inMode .full) case deadline st).1 := by
  have hrequest : ∀ mode, interpretRequest (settings.inMode mode) case =
      interpretRequest settings case := fun _ => rfl
  rw [interpretScratch, interpretScratch, hrequest, hrequest]
  cases invoke tools .interpret (interpretRequest settings case) deadline st with
  | mk answer st' =>
  cases answer with
  | error reason => exact .refl _
  | ok capture =>
    dsimp only
    by_cases hcode : (!case.interpretCodes.contains capture.exitCode) = true
    · rw [if_pos hcode, if_pos hcode]
      exact .refl _
    by_cases hzero : capture.exitCode ≠ 0
    · rw [if_neg hcode, if_neg hcode, if_pos hzero, if_pos hzero]
      exact .refl _
    · have hfull : RunMode.full ≠ .interpretOnly := by decide
      rw [if_neg hcode, if_neg hcode, if_neg hzero, if_neg hzero,
        Settings.inMode_mode, Settings.inMode_mode, if_pos rfl, if_neg hfull]
      exact .ended rfl rfl (List.prefix_append _ _)

theorem interpret_endedBefore (tools : Toolchain) (settings : Settings) (case : TestCase)
    (deadline : Deadline) (code : Bytes) (st : RunState) :
    (interpret tools (settings.inMode .interpretOnly) case deadline code st).1.EndedBefore
      (interpret tools (settings.inMode .full) case deadline code st).1 := by
  rw [interpret, interpret, Settings.inMode_scratch, Settings.inMode_scratch]
  cases st.files.write settings.scratch code with
  | error e => exact .refl _
  | ok t => exact interpretScratch_endedBefore tools settings case deadline (st.setFiles t)

/-- From one state, a longer mode goes on where a shorter one ends. -/
theorem attempt_endedBefore (tools : Toolchain) (settings : Settings) (hm : m < m')
    (case : TestCase) (st : RunState) :
    (attempt tools (settings.inMode m) case st).1.EndedBefore
      (attempt tools (settings.inMode m') case st).1 := by
  rw [attempt, attempt, Settings.inMode_timeout, Settings.inMode_timeout]
  dsimp only
  cases invoke tools .compile (compileRequest case)
    (.after st.surroundings.now settings.timeout) st with
  | mk answer st' =>
  cases answer with
  | error reason => exact .refl _
  | ok capture =>
  dsimp only
  by_cases hcode : (!case.compilerCodes.contains capture.exitCode) = true
  · rw [if_pos hcode, if_pos hcode]
    exact .refl _
  by_cases hzero : capture.exitCode ≠ 0
  · rw [if_neg hcode, if_neg hcode, if_pos hzero, if_pos hzero]
    exact .refl _
  rw [if_neg hcode, if_neg hcode, if_neg hzero, if_neg hzero, Settings.inMode_mode,
    Settings.inMode_mode]
  cases m with
  | compileOnly =>
    have hlonger : m' ≠ .compileOnly := by
      rintro rfl
      exact absurd hm (by decide)
    rw [if_pos rfl, if_neg hlonger]
    exact .ended rfl rfl (List.prefix_append _ _)
  | interpretOnly =>
    obtain rfl : m' = .full := by
      cases m' with
      | compileOnly | interpretOnly => exact absurd hm (by decide)
      | full => rfl
    exact (interpret_endedBefore tools settings case _ capture.stdout st').after _ _ _
  | full => exact absurd rfl (RunMode.ne_full_of_lt hm)

/-- The scratch file is alike for a case: it reads the same before the compiler is run, and storing
code in it afterwards comes to the same. -/
structure SameScratch (tools : Toolchain) (settings : Settings) (case : TestCase)
    (st st' : RunState) : Prop where
  read : st.files.read settings.scratch = st'.files.read settings.scratch
  stored : ∀ code, (compiled tools settings case st).files.stored settings.scratch code =
    (compiled tools settings case st').files.stored settings.scratch code

theorem continuedBy_of_endedBefore {tools tools' : Toolchain} {settings settings' : Settings}
    {case : TestCase} {st st' : RunState}
    (h : (attempt tools settings case st).1.EndedBefore (attempt tools' settings' case st').1)
    (ordinal ordinal' : Nat) (id id' : String) :
    (run tools settings ordinal id case st).1.ContinuedBy
      (run tools' settings' ordinal' id' case st').1 := by
  obtain ⟨artifact, ho⟩ := run_outcome tools settings ordinal id case st
  obtain ⟨artifact', ho'⟩ := run_outcome tools' settings' ordinal' id' case st'
  rw [ho, ho']
  cases h with
  | same hstages hverdict hincomplete =>
    exact ⟨hstages ▸ List.prefix_rfl, fun _ h => hverdict ▸ h, fun h => hverdict.trans h,
      fun h _ => ⟨hverdict.symm.trans h, hstages.symm⟩⟩
  | ended hverdict hincomplete hstages =>
    refine ⟨hstages, fun reason h => ?_, fun _ => hverdict, fun _ h => ?_⟩
    · cases hverdict.symm.trans h
    · cases hincomplete.symm.trans h

section

variable {answer : Stage → Request → Except FileError Bytes → Answer} {st st' : RunState}

/-- Where the reference is not asked, the interpreter's answer is all that counts. -/
theorem interpretScratch_alike (h : tools.Answers settings.scratch answer)
    (hm : settings.mode = .interpretOnly) (st st' : RunState)
    (hread : st.files.read settings.scratch = st'.files.read settings.scratch) (case : TestCase)
    (deadline deadline' : Deadline) :
    (interpretScratch tools settings case deadline st).1 =
      (interpretScratch tools settings case deadline' st').1 := by
  have hsurroundings : st.surroundings.files.read settings.scratch =
      st'.surroundings.files.read settings.scratch := hread
  rw [interpretScratch, interpretScratch, invoke_eq, invoke_eq, h .interpret, h .interpret,
    hsurroundings]
  cases reply .interpret _ with
  | error reason => rfl
  | ok capture =>
    dsimp only
    rw [if_pos hm, if_pos hm]
    split_ifs <;> rfl

/-- In a mode that does not ask the reference, a case comes to the same where the scratch file is
alike. -/
theorem attempt_alike (h : tools.Answers settings.scratch answer) (hm : m ≠ .full)
    {case : TestCase} (hscratch : SameScratch tools settings case st st') :
    (attempt tools (settings.inMode m) case st).1 =
      (attempt tools (settings.inMode m) case st').1 := by
  have hanswer : ((tools.tool .compile).run st.calls (compileRequest case)
        (.after st.surroundings.now settings.timeout) st.surroundings).1 =
      ((tools.tool .compile).run st'.calls (compileRequest case)
        (.after st'.surroundings.now settings.timeout) st'.surroundings).1 := by
    rw [h, h]
    exact congrArg _ hscratch.read
  refine attempt_eq case hanswer fun hmode code => ?_
  obtain rfl : m = .interpretOnly := by
    cases m with
    | compileOnly => exact absurd rfl hmode
    | interpretOnly => rfl
    | full => exact absurd rfl hm
  have hinterpreter : tools.Answers (settings.inMode .interpretOnly).scratch answer := h
  refine interpret_eq case _ _ code (fun t t' hread => ?_) (hscratch.stored code)
  exact interpretScratch_alike hinterpreter rfl ((compiled tools settings case st).setFiles t)
    ((compiled tools settings case st').setFiles t') hread case _ _

end

/-- If the answers of the tools are a function of their requests and the scratch file, and the
scratch file is alike, then a longer mode continues what a shorter one tells. -/
theorem longer_mode_continues {answer : Stage → Request → Except FileError Bytes → Answer}
    (h : tools.Answers settings.scratch answer) (hm : m < m') (case : TestCase)
    {st st' : RunState} (hscratch : SameScratch tools settings case st st')
    (ordinal ordinal' : Nat) (id id' : String) :
    (run tools (settings.inMode m) ordinal id case st).1.ContinuedBy
      (run tools (settings.inMode m') ordinal' id' case st').1 := by
  refine continuedBy_of_endedBefore ?_ ordinal ordinal' id id'
  rw [attempt_alike h (RunMode.ne_full_of_lt hm) hscratch]
  exact attempt_endedBefore tools settings hm case st'

/-- A later moment, in a folder with another file. -/
def laterState : RunState where
  surroundings :=
    { files :=
        { entries := [(["a"], .file 0)]
          held := #[{ mode := Node.plainMode }] }
      now := 1 }

theorem sameScratch_later (relay : Except FileError Bytes → Bytes → Bytes) (case : TestCase) :
    SameScratch (relayTools relay) relaySettings case emptyState laterState := by
  have hempty : ClearTree emptyState.files := clear_emptyState
  have hlater : ClearTree laterState.files := ⟨rfl, .inl rfl⟩
  have hread : ∀ t : FileTree, t.here = [] → t.get? ["tmp"] = none →
      t.read ⟨"tmp"⟩ = .error .missing := by
    intro t hhere hnone
    rw [FileTree.read, FileTree.find_free tmp_utterable steps_tmp tmp_proper rfl hhere hnone]
  refine ⟨(hread _ rfl rfl).trans (hread _ rfl rfl).symm, fun code => ?_⟩
  -- The compiler changes no file, so code is stored in the tree as it was.
  show emptyState.files.stored ⟨"tmp"⟩ code = laterState.files.stored ⟨"tmp"⟩ code
  obtain ⟨t, ht, htread, -⟩ := hempty.write code
  obtain ⟨u, hu, huread, -⟩ := hlater.write code
  rw [FileTree.stored_of_write ht, FileTree.stored_of_write hu, htread, huread]

/-- A case that is compiled only, and all of its stages later and beside another file. -/
theorem compiled_then_continued :
    (relayTools fun _ program => program).Answers relaySettings.scratch
        (relayBehaviour fun _ program => program).answer ∧
      RunMode.compileOnly < RunMode.full ∧
      SameScratch (relayTools fun _ program => program) relaySettings (letter "A").case emptyState
        laterState ∧
      (run (relayTools fun _ program => program) (relaySettings.inMode .compileOnly) 1 "A"
        (letter "A").case emptyState).1.stages = [⟨.compile, { stdout := Text.encode "A" }⟩] ∧
      (run (relayTools fun _ program => program) (relaySettings.inMode .compileOnly) 1 "A"
        (letter "A").case emptyState).1.ContinuedBy
        (run (relayTools fun _ program => program) (relaySettings.inMode .full) 2 "A"
          (letter "A").case laterState).1 :=
  ⟨(relay_behaves _).answer, by decide, sameScratch_later _ _, rfl,
    longer_mode_continues (relay_behaves _).answer (by decide) _ (sameScratch_later _ _) 1 2 "A"
      "A"⟩

end Pipeline
end Conformance
