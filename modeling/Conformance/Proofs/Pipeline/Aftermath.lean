import Conformance.Proofs.Artifact.History
import Conformance.Proofs.Run.Independence

/-!
# What a case leaves behind

The stages of a case write nothing but the scratch file: all else that is changed, the tools have
changed (`Quiet`). Only a case that fails after its compiler gave it code to interpret claims a path
and tries once to write the code there. Whether that succeeds is told by the artifact of its outcome
and by nothing else (`run_aftermath`).

What this does not promise is shown at the end: a device in the place of an artifact takes the code
and holds nothing, and what a tool or the scratch file does in the artifact folder is done there
also by cases that pass (`aftermath_of_devices_and_guests`).
-/
namespace Conformance.Pipeline

open FileTree (Grown Proper)

/-- The stages of a case, from one state to another: exchanges with tools, and writings of the
scratch file, of which `ws` has the trees before and after. -/
inductive Quiet (tools : Toolchain) (scratch : Path) :
    RunState → List Exchange → List (FileTree × FileTree) → RunState → Prop
  | ended (st : RunState) : Quiet tools scratch st [] [] st
  | exchange {st st' : RunState} {call : Call} {answer : Answer} {s : Surroundings}
      {xs : List Exchange} {ws : List (FileTree × FileTree)} :
      call.files = st.files →
      (tools.tool call.stage).run st.calls call.request call.deadline st.surroundings =
        (answer, s) →
      Quiet tools scratch (called st call s) xs ws st' →
      Quiet tools scratch st (⟨call, answer, s.files⟩ :: xs) ws st'
  | stored {st st' : RunState} {code : Bytes} {t : FileTree} {xs : List Exchange}
      {ws : List (FileTree × FileTree)} :
      st.files.write scratch code = .ok t →
      Quiet tools scratch (st.setFiles t) xs ws st' →
      Quiet tools scratch st xs ((st.files, t) :: ws) st'

section
variable {tools : Toolchain} {scratch : Path} {st u v : RunState} {xs ys : List Exchange}
  {ws zs : List (FileTree × FileTree)}

theorem Quiet.append (h : Quiet tools scratch st xs ws u) (k : Quiet tools scratch u ys zs v) :
    Quiet tools scratch st (xs ++ ys) (ws ++ zs) v := by
  induction h with
  | ended _ => exact k
  | exchange hf hr _ ih => exact .exchange hf hr (ih k)
  | stored hw _ ih => exact .stored hw (ih k)

theorem Quiet.claimed (h : Quiet tools scratch st xs ws u) : u.claimed = st.claimed := by
  induction h with
  | ended _ => rfl
  | exchange _ _ _ ih => exact ih
  | stored _ _ ih => exact ih

/-- What neither a tool nor the writing of the scratch file changes is as it was. -/
theorem Quiet.frame (h : Quiet tools scratch st xs ws u) {loc : Location}
    (htools : ∀ x ∈ xs, x.left.get? loc = x.call.files.get? loc)
    (hscratch : ∀ w ∈ ws, w.2.get? loc = w.1.get? loc) :
    u.files.get? loc = st.files.get? loc := by
  induction h with
  | ended _ => rfl
  | exchange hf _ _ ih =>
    obtain ⟨hfirst, hrest⟩ := List.forall_mem_cons.mp htools
    have hlater := ih hrest hscratch
    rw [hf] at hfirst
    exact hlater.trans hfirst
  | stored _ _ ih =>
    obtain ⟨hfirst, hrest⟩ := List.forall_mem_cons.mp hscratch
    exact (ih htools hrest).trans hfirst

end

/-- A call is one exchange, and the reply says what its answer means. -/
theorem invoke_quiet (tools : Toolchain) (scratch : Path) (stage : Stage) (request : Request)
    (deadline : Deadline) (st : RunState) :
    ∃ answer st', invoke tools stage request deadline st = (reply stage answer, st') ∧
      Quiet tools scratch st [⟨⟨stage, request, deadline, st.files⟩, answer, st'.files⟩] [] st' :=
  ⟨_, _, invoke_eq tools stage request deadline st, .exchange rfl rfl (.ended _)⟩

section
variable (tools : Toolchain) (settings : Settings) (case : TestCase) (deadline : Deadline)

theorem crossCheck_quiet (interpreted : Capture) (st : RunState) :
    ∃ xs, Quiet tools settings.scratch st xs []
        (crossCheck tools settings case deadline interpreted st).2 ∧
      (crossCheck tools settings case deadline interpreted st).1.stages =
        xs.filterMap Exchange.record? := by
  obtain ⟨answer, st', hinvoke, hquiet⟩ := invoke_quiet tools settings.scratch .reference
    (referenceRequest settings case) deadline st
  rw [crossCheck, hinvoke]
  cases answer with
  | completed c => exact ⟨_, hquiet, rfl⟩
  | timedOut => exact ⟨_, hquiet, rfl⟩
  | fault f => exact ⟨_, hquiet, rfl⟩

theorem interpretScratch_quiet (st : RunState) :
    ∃ xs, Quiet tools settings.scratch st xs []
        (interpretScratch tools settings case deadline st).2 ∧
      (interpretScratch tools settings case deadline st).1.stages =
        xs.filterMap Exchange.record? := by
  obtain ⟨answer, st', hinvoke, hquiet⟩ := invoke_quiet tools settings.scratch .interpret
    (interpretRequest settings case) deadline st
  rw [interpretScratch, hinvoke]
  cases answer with
  | completed c =>
    obtain ⟨ys, hys, hstages⟩ := crossCheck_quiet tools settings case deadline c st'
    dsimp only [reply]
    split_ifs
    · exact ⟨_, hquiet, rfl⟩
    · exact ⟨_, hquiet, rfl⟩
    · exact ⟨_, hquiet, rfl⟩
    · exact ⟨_, hquiet.append hys, congrArg (_ :: ·) hstages⟩
  | timedOut => exact ⟨_, hquiet, rfl⟩
  | fault f => exact ⟨_, hquiet, rfl⟩

end

/-- Whatever the tools do, the stages of a case write nothing but the scratch file, and the records
are those of the tools that ended. -/
theorem attempt_quiet (tools : Toolchain) (settings : Settings) (case : TestCase) (st : RunState) :
    ∃ xs ws, Quiet tools settings.scratch st xs ws (attempt tools settings case st).2 ∧
      (attempt tools settings case st).1.stages = xs.filterMap Exchange.record? := by
  obtain ⟨answer, st', hinvoke, hquiet⟩ := invoke_quiet tools settings.scratch .compile
    (compileRequest case) (.after st.surroundings.now settings.timeout) st
  rw [attempt]
  dsimp only
  rw [hinvoke]
  cases answer with
  | completed c =>
    dsimp only [reply]
    split_ifs
    · exact ⟨_, _, hquiet, rfl⟩
    · exact ⟨_, _, hquiet, rfl⟩
    · exact ⟨_, _, hquiet, rfl⟩
    · rw [interpret]
      cases hwrite : st'.files.write settings.scratch c.stdout with
      | error e => exact ⟨_, _, hquiet, rfl⟩
      | ok t =>
        obtain ⟨ys, hys, hstages⟩ := interpretScratch_quiet tools settings case
          (.after st.surroundings.now settings.timeout) (st'.setFiles t)
        exact ⟨_, _, hquiet.append (.stored hwrite hys), congrArg (_ :: ·) hstages⟩
  | timedOut => exact ⟨_, _, hquiet, rfl⟩
  | fault f => exact ⟨_, _, hquiet, rfl⟩

/-! ## Another folder -/

/-- The same settings with another folder for artifacts. -/
def keepingIn (settings : Settings) (folder : Path) : Settings :=
  { settings with artifactFolder := folder }

/-- The same state with other paths claimed. -/
def claiming (st : RunState) (claimed : List Path) : RunState :=
  { st with claimed }

section
variable (tools : Toolchain) (settings : Settings) (folder : Path) (claimed : List Path)
  (case : TestCase) (deadline : Deadline)

theorem invoke_claiming (stage : Stage) (request : Request) (st : RunState) :
    invoke tools stage request deadline (claiming st claimed) =
      ((invoke tools stage request deadline st).1,
        claiming (invoke tools stage request deadline st).2 claimed) := by
  rw [invoke_eq, invoke_eq]
  rfl

theorem crossCheck_elsewhere (interpreted : Capture) (st : RunState) :
    crossCheck tools (keepingIn settings folder) case deadline interpreted (claiming st claimed) =
      ((crossCheck tools settings case deadline interpreted st).1,
        claiming (crossCheck tools settings case deadline interpreted st).2 claimed) := by
  have hrequest : referenceRequest (keepingIn settings folder) case =
      referenceRequest settings case := rfl
  rw [crossCheck, crossCheck, hrequest, invoke_claiming]
  rcases invoke tools .reference (referenceRequest settings case) deadline st with ⟨_ | _, st'⟩
  · rfl
  · rfl

theorem interpretScratch_elsewhere (st : RunState) :
    interpretScratch tools (keepingIn settings folder) case deadline (claiming st claimed) =
      ((interpretScratch tools settings case deadline st).1,
        claiming (interpretScratch tools settings case deadline st).2 claimed) := by
  have hrequest : interpretRequest (keepingIn settings folder) case =
      interpretRequest settings case := rfl
  have hmode : (keepingIn settings folder).mode = settings.mode := rfl
  rw [interpretScratch, interpretScratch, hrequest, invoke_claiming, hmode]
  rcases invoke tools .interpret (interpretRequest settings case) deadline st with ⟨_ | c, st'⟩
  · rfl
  · dsimp only
    split_ifs
    · rfl
    · rfl
    · rfl
    · rw [crossCheck_elsewhere]

/-- The stages of a case do not look at the folder of the artifacts or at what is claimed there. -/
theorem attempt_elsewhere (st : RunState) :
    attempt tools (keepingIn settings folder) case (claiming st claimed) =
      ((attempt tools settings case st).1,
        claiming (attempt tools settings case st).2 claimed) := by
  have hnow : (claiming st claimed).surroundings = st.surroundings := rfl
  have htimeout : (keepingIn settings folder).timeout = settings.timeout := rfl
  have hmode : (keepingIn settings folder).mode = settings.mode := rfl
  have hscratch : (keepingIn settings folder).scratch = settings.scratch := rfl
  rw [attempt, attempt, hnow, htimeout, invoke_claiming, hmode]
  rcases invoke tools .compile (compileRequest case)
    (.after st.surroundings.now settings.timeout) st with ⟨_ | c, st'⟩
  · rfl
  · have hfiles : (claiming st' claimed).files = st'.files := rfl
    dsimp only
    split_ifs
    · rfl
    · rfl
    · rfl
    · rw [interpret, interpret, hscratch, hfiles]
      cases st'.files.write settings.scratch c.stdout with
      | error e => rfl
      | ok t =>
        have hset : (claiming st' claimed).setFiles t = claiming (st'.setFiles t) claimed := rfl
        dsimp only
        rw [hset, interpretScratch_elsewhere]

end

/-! ## The artifact -/

/-- A case fails after its compiler gave it code to interpret. -/
structure FailsWithCode (settings : Settings) (case : TestCase) (o : Outcome) (c : Capture) :
    Prop where
  compiled : o.stage? .compile = some c
  goes_on : ToInterpret settings case c
  fails : o.verdict.isFail = true

/-- An artifact is written once, after the folders above it were made. -/
inductive Tried (t : FileTree) (p : Path) (content : Bytes) : Option Path → FileTree → Prop
  | saved {u t' : FileTree} : Artifact.save t p content = (t', true) → Grown t u →
      u.write p content = .ok t' →
      (t'.read p = .ok content ∨ ∃ name, t'.node? p = some (.device name)) →
      Tried t p content (some p) t'
  | lost {t' : FileTree} : Artifact.save t p content = (t', false) → Grown t t' →
      Tried t p content none t'

/-- What is left of a case after stages from `st` to `u`. -/
structure Aftermath (tools : Toolchain) (settings : Settings) (ordinal : Nat) (id : String)
    (case : TestCase) (st u st' : RunState) (xs : List Exchange)
    (ws : List (FileTree × FileTree)) (o : Outcome) : Prop where
  /-- One path is claimed for the code, and it is written there once. -/
  kept : ∀ c, FailsWithCode settings case o c → ∃ p,
    p = Artifact.claim st.claimed settings.artifactFolder case.name ordinal ∧
      p.mem st.claimed = false ∧ st'.claimed = p :: st.claimed ∧
      Tried u.files p c.stdout o.artifact st'.files
  spared : (∀ c, ¬FailsWithCode settings case o c) →
    o.artifact = none ∧ st'.claimed = st.claimed ∧ st'.files = u.files ∧
      ∀ loc, (∀ x ∈ xs, x.left.get? loc = x.call.files.get? loc) →
        (∀ w ∈ ws, w.2.get? loc = w.1.get? loc) → st'.files.get? loc = st.files.get? loc
  /-- In another folder the case comes to the same, whether or not the artifact can be written
  there. -/
  blind : ∀ folder claimed o' st'', run tools (keepingIn settings folder) ordinal id case
      (claiming st claimed) = (o', st'') →
    o'.stages = o.stages ∧ o'.verdict = o.verdict ∧ o'.incomplete = o.incomplete

section
variable {settings : Settings} {case : TestCase} {deadline : Deadline} {xs : List Exchange}
  {p : Progress}

/-- The record of the compiler comes first, and no other stage is recorded as its. -/
theorem Course.compile_record (h : Course settings case deadline xs p) {c : Capture} :
    (p.stages.find? (·.stage = .compile)).map (·.capture) = some c ↔
      ∃ rest, p.stages = ⟨.compile, c⟩ :: rest := by
  cases h <;> simp

/-- Code is there to be kept exactly if the compiler has left some to interpret. -/
theorem Course.code_iff (h : Course settings case deadline xs p) {code : Bytes} :
    p.code = some code ↔ ∃ c rest, p.stages = ⟨.compile, c⟩ :: rest ∧
      ToInterpret settings case c ∧ c.stdout = code := by
  constructor
  · intro hcode
    cases h with
    | unwritten haccepted hzero hmode _ =>
      exact ⟨_, _, rfl, ⟨haccepted, hzero, hmode⟩, Option.some.inj hcode⟩
    | interpreted haccepted hzero hmode _ _ =>
      exact ⟨_, _, rfl, ⟨haccepted, hzero, hmode⟩, Option.some.inj hcode⟩
    | unanswered | unexpected | stopped | uninterpreted => cases hcode
  · rintro ⟨c, rest, hstages, hgoes, rfl⟩
    cases h with
    | unanswered => cases hstages
    | unexpected hrejected =>
      obtain ⟨rfl, -⟩ : _ = c ∧ _ := by simpa using hstages
      exact absurd hgoes.accepted (by simp [hrejected])
    | stopped _ hzero =>
      obtain ⟨rfl, -⟩ : _ = c ∧ _ := by simpa using hstages
      exact absurd hgoes.zero hzero
    | uninterpreted _ _ hmode => exact absurd hmode hgoes.mode
    | unwritten | interpreted =>
      obtain ⟨rfl, -⟩ : _ = c ∧ _ := by simpa using hstages
      rfl

end

theorem tried_save (t : FileTree) (p : Path) (content : Bytes) :
    Tried t p content (if (Artifact.save t p content).2 then some p else none)
      (Artifact.save t p content).1 := by
  obtain ⟨u, hgrown, hsave | ⟨t', hwrite, hsave⟩⟩ := Artifact.save_cases t p content
  · rw [hsave]
    exact .lost hsave hgrown
  · rw [hsave]
    exact .saved hsave hgrown hwrite (FileTree.read_of_write hwrite)

/-- What a case comes to does not hang on where its artifact goes. -/
theorem run_blind (tools : Toolchain) (settings : Settings) (ordinal : Nat) (id : String)
    (case : TestCase) (st : RunState) (folder : Path) (claimed : List Path) :
    let o := (run tools settings ordinal id case st).1
    let o' := (run tools (keepingIn settings folder) ordinal id case (claiming st claimed)).1
    o'.stages = o.stages ∧ o'.verdict = o.verdict ∧ o'.incomplete = o.incomplete := by
  intro o o'
  obtain ⟨artifact, ho⟩ := run_outcome tools settings ordinal id case st
  obtain ⟨artifact', ho'⟩ :=
    run_outcome tools (keepingIn settings folder) ordinal id case (claiming st claimed)
  rw [attempt_elsewhere] at ho'
  have ho : o = _ := ho
  have ho' : o' = _ := ho'
  rw [ho, ho']
  exact ⟨rfl, rfl, rfl⟩

section
variable (tools : Toolchain) (settings : Settings) (ordinal : Nat) (id : String) (case : TestCase)
  (st : RunState)

/-- The outcome of a case tells whether its attempt has failed with code to be kept. -/
theorem failsWithCode_iff {code : Bytes} :
    (∃ c, FailsWithCode settings case (run tools settings ordinal id case st).1 c ∧
        c.stdout = code) ↔
      (attempt tools settings case st).1.code = some code ∧
        (attempt tools settings case st).1.verdict.isFail = true := by
  obtain ⟨xs, -, hcourse⟩ := attempt_course tools settings case st
  obtain ⟨artifact, ho⟩ := run_outcome tools settings ordinal id case st
  rw [ho, hcourse.code_iff]
  constructor
  · rintro ⟨c, ⟨hcompiled, hgoes, hfails⟩, hcode⟩
    obtain ⟨rest, hrest⟩ := hcourse.compile_record.mp hcompiled
    exact ⟨⟨c, rest, hrest, hgoes, hcode⟩, hfails⟩
  · rintro ⟨⟨c, rest, hrest, hgoes, hcode⟩, hfails⟩
    exact ⟨c, ⟨hcourse.compile_record.mpr ⟨rest, hrest⟩, hgoes, hfails⟩, hcode⟩

theorem run_of_kept {c : Capture}
    (h : FailsWithCode settings case (run tools settings ordinal id case st).1 c) :
    (run tools settings ordinal id case st).1.artifact =
        (keepArtifact settings case.name ordinal c.stdout (attempt tools settings case st).2).1 ∧
      (run tools settings ordinal id case st).2 =
        (keepArtifact settings case.name ordinal c.stdout
          (attempt tools settings case st).2).2 := by
  obtain ⟨hcode, hfails⟩ :=
    (failsWithCode_iff tools settings ordinal id case st).mp ⟨c, h, rfl⟩
  rw [run]
  dsimp only
  rw [hcode]
  dsimp only
  rw [if_pos hfails]
  exact ⟨rfl, rfl⟩

theorem run_of_spared
    (h : ∀ c, ¬FailsWithCode settings case (run tools settings ordinal id case st).1 c) :
    (run tools settings ordinal id case st).1.artifact = none ∧
      (run tools settings ordinal id case st).2 = (attempt tools settings case st).2 := by
  have hiff {code : Bytes} := @failsWithCode_iff tools settings ordinal id case st code
  rw [run]
  dsimp only
  cases hcode : (attempt tools settings case st).1.code with
  | none => exact ⟨rfl, rfl⟩
  | some code =>
    have hpasses : ¬(attempt tools settings case st).1.verdict.isFail = true := by
      intro hfails
      obtain ⟨c, hc, -⟩ := hiff.mpr ⟨hcode, hfails⟩
      exact h c hc
    dsimp only
    rw [if_neg hpasses]
    exact ⟨rfl, rfl⟩

/-- The stages of a case change nothing but the scratch file, besides what the tools do. A path is
claimed, and the code written there once, exactly if the case fails after its compiler gave it code
to interpret; the artifact of the outcome tells whether that succeeded, and nothing else does. -/
theorem run_aftermath :
    ∃ u xs ws, Quiet tools settings.scratch st xs ws u ∧
      (run tools settings ordinal id case st).1.stages = xs.filterMap Exchange.record? ∧
      Aftermath tools settings ordinal id case st u (run tools settings ordinal id case st).2 xs ws
        (run tools settings ordinal id case st).1 := by
  obtain ⟨xs, ws, hquiet, hstages⟩ := attempt_quiet tools settings case st
  obtain ⟨artifact, ho⟩ := run_outcome tools settings ordinal id case st
  have hclaimed := hquiet.claimed
  refine ⟨(attempt tools settings case st).2, xs, ws, hquiet, ?_, ?_, ?_, ?_⟩
  · rw [ho, hstages]
  · intro c hc
    obtain ⟨hartifact, hstate⟩ := run_of_kept tools settings ordinal id case st hc
    refine ⟨_, rfl, Artifact.claim_fresh _ _ _ _, ?_, ?_⟩
    · rw [hstate, keepArtifact, ← hclaimed]
    · rw [hartifact, hstate, keepArtifact, ← hclaimed]
      exact tried_save _ _ c.stdout
  · intro hspared
    obtain ⟨hartifact, hstate⟩ := run_of_spared tools settings ordinal id case st hspared
    rw [hstate]
    exact ⟨hartifact, hclaimed, rfl, fun loc htools hscratch => hquiet.frame htools hscratch⟩
  · rintro folder claimed o' st'' hrun
    have hblind := run_blind tools settings ordinal id case st folder claimed
    rwa [hrun] at hblind

end

/-! ## A device, a guest and the scratch file in the folder -/

/-- A folder of artifacts where a device stands in the place of one. -/
def deviceTree : FileTree where
  entries := [(["o"], .folder), (["o", "a.icode"], .device "null")]

/-- A state with these files, and nothing else done. -/
def startingWith (files : FileTree) : RunState :=
  { surroundings := { files } }

/-- Settings under which the scratch file lies among the artifacts. -/
def crowded : Settings where
  mode := .interpretOnly
  scratch := ⟨"o/t"⟩
  artifactFolder := ⟨"o"⟩

/-- Tools whose compiler leaves a file of its own among the artifacts. -/
def guestTools : Toolchain where
  compiler :=
    { name := "compiler", run := fun _ _ _ s => (.completed {}, { s with files := firstTree }) }
  interpreter := writing "interpreter" .interpret []
  reference := writing "reference" .reference []

theorem find_device (aim : Aim) :
    deviceTree.find aim ⟨"o/a.icode"⟩ = .ok (.taken ["o", "a.icode"] (.device "null")) := by
  have hadmits (names : List (List Char)) : FileTree.Admits aim false names := by
    simp [FileTree.Admits]
  refine FileTree.find_eq_ok_iff.mpr
    ⟨utterable_a, ⟨false, 40, ["o", "a.icode"], []⟩, ?_, .taken rfl (by simp)⟩
  show FileTree.Way _ _ ⟨false, 40, [], ["o".toList, "a.icode".toList]⟩ _
  exact .stride (.down rfl proper_o (hadmits _) rfl fun _ h => by cases h)
    (.stride (.down rfl proper_a (hadmits _) rfl fun _ h => by cases h) (.done _))

/-- A device holds nothing of the code that was saved in it, and a case that passes leaves something
in the folder if its compiler does or if the scratch file lies there. -/
theorem aftermath_of_devices_and_guests :
    ((run twoCodes unwritable 1 "a" emptyCase (startingWith deviceTree)).1.artifact =
        some ⟨"o/a.icode"⟩ ∧
      (run twoCodes unwritable 1 "a" emptyCase (startingWith deviceTree)).1.stage? .compile =
        some { stdout := [1] } ∧
      (run twoCodes unwritable 1 "a" emptyCase (startingWith deviceTree)).2.files.read
        ⟨"o/a.icode"⟩ ≠ .ok [1]) ∧
    ((run codeTools crowded 1 "a" emptyCase (startingWith bareTree)).1.verdict = .pass ∧
      (run codeTools crowded 1 "a" emptyCase (startingWith bareTree)).2.files.get? ["o", "t"] ≠
        bareTree.get? ["o", "t"]) ∧
    (run guestTools { mode := .compileOnly, artifactFolder := ⟨"o"⟩ } 1 "a" emptyCase
        (startingWith bareTree)).1.verdict = .pass ∧
      (run guestTools { mode := .compileOnly, artifactFolder := ⟨"o"⟩ } 1 "a" emptyCase
        (startingWith bareTree)).2.files.get? ["o", "a.icode"] ≠
          bareTree.get? ["o", "a.icode"] := by
  refine ⟨?_, ?_, ?_⟩
  · have hwrite : deviceTree.write ⟨"o/a.icode"⟩ [1] = .ok deviceTree := by
      rw [FileTree.write, find_device]
      rfl
    have hread : deviceTree.read ⟨"o/a.icode"⟩ = .ok [] := by
      rw [FileTree.read, find_device]
    have hinvoke : invoke twoCodes .compile (compileRequest emptyCase) (.after 0 (.ofSeconds 5))
        (startingWith deviceTree) =
          (.ok { stdout := [1] }, called (startingWith deviceTree) _ { files := deviceTree }) := rfl
    have hrun := @run_unwritable 1 emptyCase (startingWith deviceTree) _ [1] ⟨"o/a.icode"⟩
      deviceTree (by decide) hinvoke rfl rfl claim_a (by decide) hwrite
    have hname : emptyCase.name = "a" := rfl
    rw [hname] at hrun
    rw [hrun]
    refine ⟨rfl, rfl, ?_⟩
    show deviceTree.read ⟨"o/a.icode"⟩ ≠ .ok [1]
    rw [hread]
    intro hsame
    cases hsame
  · have ht : Proper "t".toList := ⟨by decide, by decide, by decide⟩
    have hfind : bareTree.find .content ⟨"o/t"⟩ = .ok (.free ["o", "t"]) :=
      find_free_o rfl rfl rfl ⟨by decide, by decide, by decide⟩ ht rfl
    have hwrite : bareTree.write ⟨"o/t"⟩ [0x43, 0x4f, 0x44, 0x45] =
        .ok (bareTree.put ["o", "t"] (.plain [0x43, 0x4f, 0x44, 0x45])) := by
      rw [FileTree.write, hfind]
    have hne : (["o", "t"] : Location) ≠ [] := List.cons_ne_nil _ _
    have hput := FileTree.get?_put_file_self bareTree hne [0x43, 0x4f, 0x44, 0x45] Node.plainMode
    have hcompiled : emptyCase.compilerCodes.contains 0 = true := by decide
    have hinterpreted : emptyCase.interpretCodes.contains 0 = true := by decide
    have hrun : (run codeTools crowded 1 "a" emptyCase (startingWith bareTree)).1.verdict = .pass ∧
        (run codeTools crowded 1 "a" emptyCase (startingWith bareTree)).2.files =
          bareTree.put ["o", "t"] (.plain [0x43, 0x4f, 0x44, 0x45]) := by
      simp [run, attempt, invoke, interpret, interpretScratch, codeTools, writing, crowded,
        startingWith, Toolchain.tool, Tool.scripted, Tool.callsOf, RunState.files,
        RunState.setFiles, hwrite, hcompiled, hinterpreted, Verdict.isFail]
    obtain ⟨hverdict, hfiles⟩ := hrun
    refine ⟨hverdict, ?_⟩
    rw [hfiles, Node.plain, hput]
    exact Option.some_ne_none _
  · exact ⟨rfl, Option.some_ne_none _⟩

end Conformance.Pipeline
