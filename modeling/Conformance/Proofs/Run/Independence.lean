import Conformance.Proofs.Files.Contents
import Conformance.Proofs.Run.Account
import Mathlib.Tactic.Choose

/-!
# What becomes of a case, whatever was run before

The cases of a run share the scratch file and whatever their tools leave behind. If a compiler looks
at nothing but its request, and the other tools at nothing but theirs and the scratch file, then a
case has one fate: its stages and its verdict are the same in every run, at every place in it and
alone. The scratch file carries nothing from one case to the next, because a case that reads it has
written it before.
-/
namespace Conformance

open Report (Log Medium)

/-- What is read at the end of a path after this was written there, or why it could not be. -/
def FileTree.stored (t : FileTree) (p : Path) (content : Bytes) : Except FileError Bytes :=
  match t.write p content with
  | .error e => .error e
  | .ok t' => t'.read p

/-- What tools do that look at nothing but their requests and the scratch file. -/
structure Behaviour where
  answer : Stage → Request → Except FileError Bytes → Answer
  /-- What the interpreter leaves in the scratch file. -/
  leaves : Request → Except FileError Bytes → Except FileError Bytes

/-- Whatever was called before and whatever else there is, the tools do this. -/
structure Toolchain.Behaves (tools : Toolchain) (scratch : Path) (b : Behaviour) : Prop where
  answer : ∀ stage calls request deadline s,
    ((tools.tool stage).run calls request deadline s).1 =
      b.answer stage request (s.files.read scratch)
  leaves : ∀ calls request deadline s,
    ((tools.tool .interpret).run calls request deadline s).2.files.read scratch =
      b.leaves request (s.files.read scratch)

/-- The compiler does not look at the scratch file. -/
def Behaviour.Blind (b : Behaviour) : Prop :=
  ∀ request before before', b.answer .compile request before = b.answer .compile request before'

/-- An outcome without its place in the run and without the path of its artifact. -/
def Outcome.essence (o : Outcome) : Outcome :=
  { o with ordinal := 0, artifact := none }

theorem FileTree.stored_of_write {t t' : FileTree} {p : Path} {content : Bytes}
    (h : t.write p content = .ok t') : t.stored p content = t'.read p := by
  rw [stored, h]

/-- What can be written can be read. -/
theorem FileTree.exists_read {t t' : FileTree} {p : Path} {content : Bytes}
    (h : t.write p content = .ok t') : ∃ bytes, t'.read p = .ok bytes := by
  rcases read_of_write h with hr | ⟨name, hd⟩
  · exact ⟨content, hr⟩
  · refine ⟨[], ?_⟩
    rw [node?] at hd
    rw [read]
    split at hd <;> simp_all

namespace Pipeline

variable {tools : Toolchain} {settings : Settings} {b : Behaviour} {st st' : RunState}

/-- What an answer means for a stage. -/
def reply (stage : Stage) : Answer → Except FailReason Capture
  | .completed capture => .ok capture
  | .timedOut => .error (.timeout stage)
  | .fault fault => .error (.launch stage fault.message)

theorem invoke_eq (tools : Toolchain) (stage : Stage) (request : Request) (deadline : Deadline)
    (st : RunState) :
    invoke tools stage request deadline st =
      (reply stage ((tools.tool stage).run st.calls request deadline st.surroundings).1,
        called st ⟨stage, request, deadline, st.files⟩
          ((tools.tool stage).run st.calls request deadline st.surroundings).2) := by
  rw [invoke]
  rcases (tools.tool stage).run st.calls request deadline st.surroundings with ⟨_ | _ | _, s⟩ <;> rfl

/-- Where the scratch file reads the same, the reference leads to the same. -/
theorem crossCheck_eq (hb : tools.Behaves settings.scratch b) (st st' : RunState)
    (h : st.files.read settings.scratch = st'.files.read settings.scratch) (case : TestCase)
    (deadline deadline' : Deadline) (interpreted : Capture) :
    (crossCheck tools settings case deadline interpreted st).1 =
      (crossCheck tools settings case deadline' interpreted st').1 := by
  have hfiles : ∀ st : RunState, st.surroundings.files = st.files := fun _ => rfl
  rw [crossCheck, crossCheck, invoke_eq, invoke_eq, hb.answer, hb.answer, hfiles, hfiles, h]
  cases reply .reference _ <;> rfl

theorem interpretScratch_eq (hb : tools.Behaves settings.scratch b) (st st' : RunState)
    (h : st.files.read settings.scratch = st'.files.read settings.scratch) (case : TestCase)
    (deadline deadline' : Deadline) :
    (interpretScratch tools settings case deadline st).1 =
      (interpretScratch tools settings case deadline' st').1 := by
  have hread : st.surroundings.files.read settings.scratch =
      st'.surroundings.files.read settings.scratch := h
  have hleft := (hb.leaves st.calls (interpretRequest settings case) deadline st.surroundings).trans
    ((congrArg _ hread).trans
      (hb.leaves st'.calls (interpretRequest settings case) deadline' st'.surroundings).symm)
  rw [interpretScratch, interpretScratch, invoke_eq, invoke_eq, hb.answer, hb.answer, hread]
  cases reply .interpret _ with
  | error reason => rfl
  | ok capture =>
    have hcheck := crossCheck_eq hb
      (called st ⟨.interpret, interpretRequest settings case, deadline, st.files⟩ _)
      (called st' ⟨.interpret, interpretRequest settings case, deadline', st'.files⟩ _)
      hleft case deadline deadline' capture
    dsimp only
    split_ifs
    · rfl
    · rfl
    · rfl
    · simp only [hcheck]

/-- Where the same code can be stored alike, the stages after it come to the same if the interpreter's
stage and what follows it do. -/
theorem interpret_eq (case : TestCase) (deadline deadline' : Deadline) (code : Bytes)
    (hscratch : ∀ t t' : FileTree, t.read settings.scratch = t'.read settings.scratch →
      (interpretScratch tools settings case deadline (st.setFiles t)).1 =
        (interpretScratch tools settings case deadline' (st'.setFiles t')).1)
    (h : st.files.stored settings.scratch code = st'.files.stored settings.scratch code) :
    (interpret tools settings case deadline code st).1 =
      (interpret tools settings case deadline' code st').1 := by
  rw [FileTree.stored, FileTree.stored] at h
  rw [interpret, interpret]
  cases hw : st.files.write settings.scratch code with
  | error e =>
    cases hw' : st'.files.write settings.scratch code with
    | error e' =>
      rw [hw, hw'] at h
      obtain rfl := Except.error.inj h
      rfl
    | ok t' =>
      obtain ⟨bytes, hread⟩ := FileTree.exists_read hw'
      simp [hw, hw', hread] at h
  | ok t =>
    cases hw' : st'.files.write settings.scratch code with
    | error e' =>
      obtain ⟨bytes, hread⟩ := FileTree.exists_read hw
      simp [hw, hw', hread] at h
    | ok t' =>
      rw [hw, hw'] at h
      exact hscratch t t' h

/-- The state in which a case has its compiler's answer. -/
def compiled (tools : Toolchain) (settings : Settings) (case : TestCase) (st : RunState) :
    RunState :=
  (invoke tools .compile (compileRequest case)
    (.after st.surroundings.now settings.timeout) st).2

/-- Two attempts at a case come to the same if their compiler answers alike and what follows does. -/
theorem attempt_eq (case : TestCase)
    (hcompile :
      ((tools.tool .compile).run st.calls (compileRequest case)
        (.after st.surroundings.now settings.timeout) st.surroundings).1 =
      ((tools.tool .compile).run st'.calls (compileRequest case)
        (.after st'.surroundings.now settings.timeout) st'.surroundings).1)
    (hinterpret : settings.mode ≠ .compileOnly → ∀ code,
      (interpret tools settings case (.after st.surroundings.now settings.timeout) code
        (compiled tools settings case st)).1 =
      (interpret tools settings case (.after st'.surroundings.now settings.timeout) code
        (compiled tools settings case st')).1) :
    (attempt tools settings case st).1 = (attempt tools settings case st').1 := by
  simp only [compiled, invoke_eq] at hinterpret
  rw [attempt, attempt, invoke_eq, invoke_eq, hcompile]
  cases reply .compile _ with
  | error reason => rfl
  | ok capture =>
    dsimp only
    split_ifs with hcode hzero hmode
    · rfl
    · rfl
    · rfl
    · simp only [hinterpret hmode]

/-- Two attempts at a case come to the same if they can store the same code alike. -/
theorem attempt_blind (hb : tools.Behaves settings.scratch b) (hblind : b.Blind) (case : TestCase)
    (h : ∀ code, (compiled tools settings case st).files.stored settings.scratch code =
      (compiled tools settings case st').files.stored settings.scratch code) :
    (attempt tools settings case st).1 = (attempt tools settings case st').1 := by
  refine attempt_eq case ?_ fun _ code => interpret_eq case _ _ code ?_ (h code)
  · rw [hb.answer, hb.answer]
    exact hblind _ _ _
  · intro t t' hread
    exact interpretScratch_eq hb ((compiled tools settings case st).setFiles t)
      ((compiled tools settings case st').setFiles t') hread case _ _

end Pipeline

variable {tools : Toolchain} {settings : Settings} {b : Behaviour}
  {kept : Bytes → Except FileError Bytes}

/-- Once the compiler has answered, storing code in the scratch file comes to what `kept` says. -/
def PlannedCase.Ready (tools : Toolchain) (settings : Settings)
    (kept : Bytes → Except FileError Bytes) (entry : PlannedCase) (st : RunState) : Prop :=
  entry.skip = none → ∀ code,
    (Pipeline.compiled tools settings entry.case st).files.stored settings.scratch code = kept code

namespace Run

/-- What is told of each entry, wherever it is performed. -/
def Fates (tools : Toolchain) (settings : Settings) (kept : Bytes → Except FileError Bytes)
    (fate : PlannedCase → Outcome) : Prop :=
  ∀ (ordinal : Nat) (entry : PlannedCase) (st : RunState), entry.Ready tools settings kept st →
    (perform tools settings ordinal entry st).1.essence = fate entry

theorem perform_essence (tools : Toolchain) (settings : Settings) (ordinal : Nat)
    (entry : PlannedCase) (st : RunState) :
    (perform tools settings ordinal entry st).1.essence =
      match entry.skip with
      | some reason => .skipped 0 entry.case.name reason.text
      | none =>
        { ordinal := 0, id := entry.case.name
          stages := (Pipeline.attempt tools settings entry.case st).1.stages
          verdict := (Pipeline.attempt tools settings entry.case st).1.verdict
          incomplete := (Pipeline.attempt tools settings entry.case st).1.incomplete } := by
  rw [perform]
  cases entry.skip with
  | some reason => rfl
  | none =>
    obtain ⟨artifact, ho⟩ :=
      Pipeline.run_outcome tools settings ordinal entry.case.name entry.case st
    dsimp only
    rw [ho]
    rfl

/-- Every entry has one fate, which each performance of it comes to. -/
theorem exists_fate (hb : tools.Behaves settings.scratch b) (hblind : b.Blind)
    (kept : Bytes → Except FileError Bytes) :
    ∃ fate, Fates tools settings kept fate := by
  have hfate : ∀ entry : PlannedCase, ∃ o, ∀ ordinal st, entry.Ready tools settings kept st →
      (perform tools settings ordinal entry st).1.essence = o := by
    intro entry
    by_cases h : ∃ st, entry.Ready tools settings kept st
    · obtain ⟨st, hst⟩ := h
      refine ⟨(perform tools settings 0 entry st).1.essence, fun ordinal st' hst' => ?_⟩
      rw [perform_essence, perform_essence]
      cases hskip : entry.skip with
      | some reason => rfl
      | none =>
        have heq := Pipeline.attempt_blind hb hblind entry.case fun code =>
          (hst' hskip code).trans (hst hskip code).symm
        simp only [heq]
    · exact ⟨.skipped 0 "" "", fun ordinal st hst => absurd ⟨st, hst⟩ h⟩
  choose fate hfate using hfate
  exact ⟨fate, fun ordinal entry st => hfate entry ordinal st⟩

/-- What is shown of entries, in any run, is their fates, for as long as the run goes on. -/
theorem stepsFrom_fates {fate : PlannedCase → Outcome} (hfate : Fates tools settings kept fate)
    (deposit : Deposit) (ordinal : Nat) (r : Run) (entries : List PlannedCase)
    (h : ∀ n (entry : PlannedCase), entries[n]? = some entry → entry.Ready tools settings kept
      (stepsFrom tools settings deposit ordinal r (entries.take n)).2.state) :
    ∃ more, (stepsFrom tools settings deposit ordinal r entries).2.shown = r.shown ++ more ∧
      more.map (·.outcome.essence) <+: entries.map fate ∧
      ((stepsFrom tools settings deposit ordinal r entries).1 = none →
        more.map (·.outcome.essence) = entries.map fate) := by
  induction entries generalizing ordinal r with
  | nil => exact ⟨[], by simp [stepsFrom], List.prefix_rfl, fun _ => rfl⟩
  | cons entry entries ih =>
    rcases step_cases tools settings deposit ordinal entry r with
      ⟨-, hstep⟩ | ⟨reason, -, -, r', hstep, -, hshown, -⟩
    · have hfirst := hfate ordinal entry r.state (h 0 entry rfl)
      have hrest := ih (ordinal + 1) (after tools settings deposit ordinal r entry)
        fun n entry' hn => by
          have hready := h (n + 1) entry' hn
          rwa [List.take_succ_cons, stepsFrom, hstep] at hready
      obtain ⟨more, hmore, hprefix, hall⟩ := hrest
      obtain ⟨s, hs, hafter⟩ : ∃ s : Shown,
          s.outcome = (perform tools settings ordinal entry r.state).1 ∧
          (after tools settings deposit ordinal r entry).shown = r.shown ++ [s] :=
        ⟨⟨_, _⟩, rfl, rfl⟩
      rw [← hs] at hfirst
      rw [stepsFrom, hstep]
      refine ⟨s :: more, ?_, ?_, fun hnone => ?_⟩
      · rw [← List.singleton_append, ← List.append_assoc, ← hafter]
        exact hmore
      · rw [List.map_cons, List.map_cons, hfirst]
        exact (List.prefix_cons_inj _).mpr hprefix
      · rw [List.map_cons, List.map_cons, hfirst, hall hnone]
    · rw [stepsFrom, hstep]
      exact ⟨[], by simp [hshown], List.nil_prefix, fun hnone => by cases hnone⟩

end Run

/-- Where a plan is run: where its log goes, the log, and what there is before. -/
structure Venue where
  deposit : Deposit := .none
  log : Log
  state : RunState

namespace Venue

/-- What is shown of a plan, but for places and artifacts. -/
def told (v : Venue) (tools : Toolchain) (settings : Settings) (plan : Plan) : List Outcome :=
  (plan.runInto v.deposit tools settings v.log v.state).2.shown.map (·.outcome.essence)

/-- The log takes all that the run has to say. -/
def Completes (v : Venue) (tools : Toolchain) (settings : Settings) (plan : Plan) : Prop :=
  ∃ summary, (plan.runInto v.deposit tools settings v.log v.state).1 = .ok summary

/-- Whenever a case of the plan has its compiler's answer, the scratch file keeps code as `kept`
says: it can be written throughout, say, or for one and the same reason it never can. -/
def Stores (v : Venue) (tools : Toolchain) (settings : Settings)
    (kept : Bytes → Except FileError Bytes) (plan : Plan) : Prop :=
  ∀ n (entry : PlannedCase), plan.entries[n]? = some entry → entry.Ready tools settings kept
    (plan.reached v.deposit tools settings v.log v.state n).state

variable {v : Venue} {plan : Plan}

theorem told_eq_fates {fate : PlannedCase → Outcome} (hfate : Run.Fates tools settings kept fate)
    (h : v.Stores tools settings kept plan) :
    v.told tools settings plan <+: plan.entries.map fate ∧
      (v.Completes tools settings plan → v.told tools settings plan = plan.entries.map fate) := by
  obtain ⟨more, hshown, hprefix, hall⟩ :=
    Run.stepsFrom_fates hfate v.deposit 1 (plan.start v.log v.state) plan.entries h
  rw [told, Completes, Plan.runInto]
  cases hsteps : Run.stepsFrom tools settings v.deposit 1 (plan.start v.log v.state) plan.entries with
  | mk fault r =>
    rw [hsteps] at hshown hall
    have hmore : r.shown = more := hshown
    cases fault with
    | some fault =>
      refine ⟨by simpa [Run.cleanUp, hmore] using hprefix, ?_⟩
      rintro ⟨summary, hsummary⟩
      cases hsummary
    | none =>
      have hfates := hall rfl
      exact ⟨by simpa [Run.cleanUp, hmore] using hprefix, fun _ => by
        simpa [Run.cleanUp, hmore] using hfates⟩

/-- If the compiler looks at nothing but its request, and the other tools at nothing but theirs and
the scratch file, every case has a fate: it is told wherever the case stands in whatever plan, and
of the case alone. So in another order the same is told in that order. -/
theorem one_fate (hb : tools.Behaves settings.scratch b) (hblind : b.Blind)
    (kept : Bytes → Except FileError Bytes) :
    ∃ fate : PlannedCase → Outcome,
      (∀ (v : Venue) (plan : Plan), v.Stores tools settings kept plan →
        v.told tools settings plan <+: plan.entries.map fate ∧
        (v.Completes tools settings plan → v.told tools settings plan = plan.entries.map fate)) ∧
      (∀ (v v' : Venue) (plan plan' : Plan), v.Stores tools settings kept plan →
        v'.Stores tools settings kept plan' → v.Completes tools settings plan →
        v'.Completes tools settings plan' → plan.entries.Perm plan'.entries →
        (v.told tools settings plan).Perm (v'.told tools settings plan')) ∧
      ∀ (v v' : Venue) (plan : Plan) (n : Nat) (entry : PlannedCase),
        v.Stores tools settings kept plan → v.Completes tools settings plan →
        v'.Stores tools settings kept { entries := [entry] } →
        v'.Completes tools settings { entries := [entry] } → plan.entries[n]? = some entry →
        (v.told tools settings plan)[n]? = some (fate entry) ∧
          v'.told tools settings { entries := [entry] } = [fate entry] := by
  obtain ⟨fate, hfate⟩ := Run.exists_fate hb hblind kept
  refine ⟨fate, fun v plan h => told_eq_fates hfate h,
    fun v v' plan plan' h h' hc hc' hperm => ?_, fun v v' plan n entry h hc h' hc' hn => ?_⟩
  · rw [(told_eq_fates hfate h).2 hc, (told_eq_fates hfate h').2 hc']
    exact hperm.map fate
  · rw [(told_eq_fates hfate h).2 hc, (told_eq_fates hfate h').2 hc', List.getElem?_map, hn]
    exact ⟨rfl, rfl⟩

theorem completes_of_unfailing (h : v.log.medium.Unfailing) :
    v.Completes tools settings plan :=
  ⟨_, congrArg Prod.fst (plan.runInto_unfailing v.deposit tools settings v.state h)⟩

/-- A log that takes everything is told the outcome of every step. -/
theorem told_unfailing (h : v.log.medium.Unfailing) :
    v.told tools settings plan =
      (Run.recordsFrom tools settings v.deposit 1 (plan.start v.log v.state) plan.entries).map
        (·.2.essence) := by
  obtain ⟨more, hmore, houtcomes⟩ :=
    Run.shown_afterAll tools settings v.deposit 1 (plan.start v.log v.state) plan.entries
  have hshown : (Run.afterAll tools settings v.deposit 1 (plan.start v.log v.state)
      plan.entries).shown = more := hmore
  rw [told, plan.runInto_unfailing v.deposit tools settings v.state h]
  have hessences := congrArg (List.map Outcome.essence) houtcomes
  simpa [Run.cleanUp, hshown, Function.comp_def] using hessences

end Venue

/-- A compiler that writes what `relay` makes of the scratch file and of the program, and tools that
do nothing. -/
def relayTools (relay : Except FileError Bytes → Bytes → Bytes) : Toolchain where
  compiler :=
    { name := "compiler"
      run := fun _ request _ s =>
        (.completed { stdout := relay (s.files.read ⟨"tmp"⟩) (request.stdin.getD []) }, s) }
  interpreter := { name := "interpreter", run := fun _ _ _ s => (.completed {}, s) }
  reference := { name := "reference", run := fun _ _ _ s => (.completed {}, s) }

def relaySettings : Settings where
  mode := .interpretOnly
  scratch := ⟨"tmp"⟩

/-- An entry of a program that is its own name. -/
def letter (name : String) : PlannedCase where
  case := { name, origin := ⟨name⟩, source := name }

/-- A folder with no file, and a log that takes everything. -/
def plainVenue : Venue where
  log := plainLog
  state := emptyState

section

variable (relay : Except FileError Bytes → Bytes → Bytes)

def relayBehaviour : Behaviour where
  answer stage request before :=
    match stage with
    | .compile => .completed { stdout := relay before (request.stdin.getD []) }
    | .interpret | .reference => .completed {}
  leaves _ before := before

theorem relay_behaves :
    (relayTools relay).Behaves relaySettings.scratch (relayBehaviour relay) where
  answer stage _ _ _ _ := by cases stage <;> rfl
  leaves _ _ _ _ := rfl

/-- Nothing but a file stands where the scratch file is to be. -/
structure ClearTree (t : FileTree) : Prop where
  here : t.here = []
  place : t.get? ["tmp"] = none ∨ ∃ content mode, t.get? ["tmp"] = some (.file content mode)

theorem tmp_utterable : FileTree.Utterable ⟨"tmp"⟩ :=
  ⟨by decide, by decide, by decide⟩

theorem steps_tmp : FileTree.steps ⟨"tmp"⟩ = ["tmp".toList] := by
  decide

theorem tmp_proper : FileTree.Proper "tmp".toList :=
  ⟨by decide, by decide, by decide⟩

theorem ClearTree.find {t : FileTree} (h : ClearTree t) :
    t.find .content ⟨"tmp"⟩ = .ok (.free ["tmp"]) ∨
      ∃ content mode, t.find .content ⟨"tmp"⟩ = .ok (.taken ["tmp"] (.file content mode)) := by
  rcases h.place with hnone | ⟨content, mode, hfile⟩
  · exact .inl (FileTree.find_free tmp_utterable steps_tmp tmp_proper rfl h.here hnone)
  · right
    have hlink : ∀ target, Node.file content mode ≠ .link target := fun _ h => by cases h
    refine ⟨content, mode, FileTree.find_eq_ok_iff.mpr ⟨tmp_utterable, ⟨false, 40, ["tmp"], []⟩, ?_,
      .taken hfile fun _ h => by cases h⟩⟩
    rw [FileTree.outset, h.here, steps_tmp]
    exact .stride (.down rfl tmp_proper rfl hfile hlink) (.done _)

theorem ClearTree.put {t : FileTree} (h : ClearTree t) (content : Bytes) (mode : Nat) :
    ClearTree (t.put ["tmp"] (.file content mode)) where
  here := (FileTree.here_put ..).trans h.here
  place := .inr ⟨content, mode, FileTree.get?_put_file_self t (by decide) content mode⟩

/-- Code that is written there is read there. -/
theorem ClearTree.write {t : FileTree} (h : ClearTree t) (code : Bytes) :
    ∃ u, t.write ⟨"tmp"⟩ code = .ok u ∧ u.read ⟨"tmp"⟩ = .ok code ∧ ClearTree u := by
  have hplace : t.get? ["tmp"] ≠ some .folder ∧ ∀ target, t.get? ["tmp"] ≠ some (.link target) := by
    rcases h.place with hnone | ⟨content, mode, hfile⟩ <;> simp [*]
  rcases h.find with hfree | ⟨content, mode, htaken⟩
  · refine ⟨t.put ["tmp"] (.plain code), by rw [FileTree.write, hfree], ?_, h.put _ _⟩
    have hfind : (t.put ["tmp"] (.plain code)).find .target ⟨"tmp"⟩ = .ok (.taken ["tmp"] _) :=
      FileTree.find_put_file hfree hplace.1 hplace.2 code _
    rw [FileTree.read, hfind]
  · refine ⟨t.put ["tmp"] (.file code mode), by rw [FileTree.write, htaken], ?_, h.put _ _⟩
    have hfind : (t.put ["tmp"] (.file code mode)).find .target ⟨"tmp"⟩ = .ok (.taken ["tmp"] _) :=
      FileTree.find_put_file htaken hplace.1 hplace.2 code _
    rw [FileTree.read, hfind]

theorem interpret_relay (name : String) (deadline : Deadline) {code : Bytes} (st : RunState)
    {u : FileTree} (h : st.files.write ⟨"tmp"⟩ code = .ok u) :
    ∃ st', st'.files = u ∧
      Pipeline.interpret (relayTools relay) relaySettings (letter name).case deadline code st =
        ({ stages := [⟨.interpret, {}⟩], incomplete := some .interpretOnly }, st') := by
  have hwrite : st.files.write relaySettings.scratch code = .ok u := h
  rw [Pipeline.interpret, hwrite]
  exact ⟨_, rfl, rfl⟩

/-- What is told of a case whose compiler has written this code. -/
def relayed (name : String) (code : Bytes) : Outcome where
  ordinal := 0
  id := name
  stages := [⟨.compile, { stdout := code }⟩, ⟨.interpret, {}⟩]
  incomplete := some .interpretOnly

/-- A case passes, and leaves in the scratch file what its compiler has written. -/
theorem perform_relay (name : String) (ordinal : Nat) {st : RunState} (h : ClearTree st.files)
    {code : Bytes} (hcode : relay (st.files.read ⟨"tmp"⟩) (Text.encode name) = code) :
    ∃ st', Run.perform (relayTools relay) relaySettings ordinal (letter name) st =
        ({ relayed name code with ordinal }, st') ∧
      st'.files.read ⟨"tmp"⟩ = .ok code ∧ ClearTree st'.files := by
  obtain rfl := hcode
  obtain ⟨u, hwrite, hread, hclear⟩ := h.write (relay (st.files.read ⟨"tmp"⟩) (Text.encode name))
  obtain ⟨st', rfl, hinterpret⟩ := interpret_relay relay name
    (.after st.surroundings.now relaySettings.timeout)
    (Pipeline.compiled (relayTools relay) relaySettings (letter name).case st) hwrite
  have hattempt : Pipeline.attempt (relayTools relay) relaySettings (letter name).case st = _ :=
    congrArg (fun q : Pipeline.Progress × RunState =>
      ({ q.1 with
          stages := ⟨.compile, { stdout := relay (st.files.read ⟨"tmp"⟩) (Text.encode name) }⟩ ::
            q.1.stages
          code := some (relay (st.files.read ⟨"tmp"⟩) (Text.encode name)) }, q.2)) hinterpret
  have hperform : Run.perform (relayTools relay) relaySettings ordinal (letter name) st =
      Pipeline.run (relayTools relay) relaySettings ordinal name (letter name).case st := rfl
  refine ⟨st', ?_, hread, hclear⟩
  rw [hperform, Pipeline.run, hattempt]
  rfl

/-- What is told of cases, where the scratch file is `before` at first. -/
def relayedFrom (before : Except FileError Bytes) : List String → List Outcome
  | [] => []
  | name :: names =>
    relayed name (relay before (Text.encode name)) ::
      relayedFrom (.ok (relay before (Text.encode name))) names

theorem recordsFrom_relay (names : List String) (ordinal : Nat) (r : Run)
    (h : ClearTree r.state.files) :
    (Run.recordsFrom (relayTools relay) relaySettings .none ordinal r (names.map letter)).map
        (·.2.essence) = relayedFrom relay (r.state.files.read ⟨"tmp"⟩) names ∧
      ClearTree (Run.afterAll (relayTools relay) relaySettings .none ordinal r
        (names.map letter)).state.files := by
  induction names generalizing ordinal r with
  | nil => exact ⟨rfl, h⟩
  | cons name names ih =>
    obtain ⟨st', hperform, hread, hclear⟩ := perform_relay relay name ordinal h rfl
    have hfiles : (Run.after (relayTools relay) relaySettings .none ordinal r
        (letter name)).state.files = st'.files := by
      rw [Run.after, hperform]
      rfl
    obtain ⟨hrecords, hafter⟩ := ih (ordinal + 1)
      (Run.after (relayTools relay) relaySettings .none ordinal r (letter name))
      (hfiles ▸ hclear)
    refine ⟨?_, hafter⟩
    rw [List.map_cons, Run.recordsFrom, List.map_cons, hrecords, hfiles, hread, hperform]
    rfl

/-- The plan of cases that are run. -/
def letters (names : List String) : Plan where
  entries := names.map letter

theorem clear_emptyState : ClearTree emptyState.files :=
  ⟨rfl, .inl rfl⟩

theorem told_relay (names : List String) :
    plainVenue.told (relayTools relay) relaySettings (letters names) =
      relayedFrom relay (.error .missing) names := by
  have hread : emptyState.files.read ⟨"tmp"⟩ = .error .missing := by
    rw [FileTree.read, FileTree.find_free tmp_utterable steps_tmp tmp_proper rfl rfl rfl]
  rw [Venue.told_unfailing Medium.unlimited_unfailing]
  have h := (recordsFrom_relay relay names 1
    ((letters names).start plainVenue.log plainVenue.state) clear_emptyState).1
  have hstart : ((letters names).start plainVenue.log plainVenue.state).state.files =
      emptyState.files := rfl
  rw [hstart, hread] at h
  exact h

theorem stores_relay (names : List String) :
    plainVenue.Stores (relayTools relay) relaySettings .ok (letters names) := by
  intro n entry hn hskip code
  obtain ⟨name, -, rfl⟩ := List.mem_map.mp (List.mem_of_getElem? hn)
  rw [Plan.reached_unfailing _ _ _ _ _ Medium.unlimited_unfailing]
  have hclear := (recordsFrom_relay relay (names.take n) 1
    ((letters names).start plainVenue.log plainVenue.state) clear_emptyState).2
  rw [List.map_take] at hclear
  obtain ⟨u, hwrite, hread, -⟩ := hclear.write code
  exact (FileTree.stored_of_write hwrite).trans hread

end

/-- Two cases in either order, and one of them alone. -/
theorem relayed_alike : ∃ fate : PlannedCase → Outcome,
    (plainVenue.told (relayTools fun _ program => program) relaySettings (letters ["A", "B"]) =
        [fate (letter "A"), fate (letter "B")] ∧
      plainVenue.told (relayTools fun _ program => program) relaySettings (letters ["B", "A"]) =
        [fate (letter "B"), fate (letter "A")] ∧
      plainVenue.told (relayTools fun _ program => program) relaySettings (letters ["B"]) =
        [fate (letter "B")]) ∧
    plainVenue.told (relayTools fun _ program => program) relaySettings (letters ["B"]) =
      [relayed "B" (Text.encode "B")] := by
  obtain ⟨fate, hfate, -, -⟩ := Venue.one_fate (relay_behaves fun _ program => program)
    (fun _ _ _ => rfl) .ok
  have htold : ∀ names, plainVenue.told (relayTools fun _ program => program) relaySettings
      (letters names) = (letters names).entries.map fate := fun names =>
    (hfate plainVenue (letters names) (stores_relay _ names)).2
      (Venue.completes_of_unfailing Medium.unlimited_unfailing)
  exact ⟨fate, ⟨htold _, htold _, htold _⟩, told_relay _ ["B"]⟩

/-- A compiler that looks at the scratch file finds there what the case before has left: what is
told of the second case is not what is told of it alone. -/
theorem leftover_told :
    ∃ (tools : Toolchain) (b : Behaviour), tools.Behaves relaySettings.scratch b ∧
      (∀ names, plainVenue.Stores tools relaySettings .ok (letters names) ∧
        plainVenue.Completes tools relaySettings (letters names)) ∧
      plainVenue.told tools relaySettings (letters ["A", "B"]) =
        [relayed "A" (Text.encode "A"), relayed "B" (Text.encode "AB")] ∧
      plainVenue.told tools relaySettings (letters ["B"]) = [relayed "B" (Text.encode "B")] := by
  refine ⟨relayTools fun before program => before.toOption.getD [] ++ program, _, relay_behaves _,
    fun names => ⟨stores_relay _ names, Venue.completes_of_unfailing Medium.unlimited_unfailing⟩,
    ?_, ?_⟩
  · rw [told_relay]
    decide +kernel
  · rw [told_relay]
    decide +kernel

end Conformance
