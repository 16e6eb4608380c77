import Conformance.Proofs.Artifact.Claim
import Conformance.Proofs.Artifact.Folder
import Conformance.Proofs.Pipeline.Verdict

/-!
# Artifacts over a history of cases

One run gives out a path once, so no two of its artifacts have one path; and as no two paths below a
tidy folder lead to one file, each artifact holds to the end what was saved in it
(`History.artifacts`). A link in the folder from one artifact's place to another's breaks this
(`linked_artifact_lost`).
-/
namespace Conformance.Pipeline

open FileTree (Tidy Untouched Kept Grown Utterable Way Proper)
open Conformance.Path (Plain)

/-- The cases that were run from one state on, whatever happens between them, as long as the
artifact folder is left untouched: by the stages of a case, its scratch file included, and in the
meantime. -/
inductive History (tools : Toolchain) (settings : Settings) (st : RunState) :
    List Outcome → RunState → Prop
  | start : History tools settings st [] st
  | case {outcomes : List Outcome} {st' : RunState} (ordinal : Nat) (id : String)
      (case : TestCase) :
      History tools settings st outcomes st' →
      Untouched settings.artifactFolder st'.files (attempt tools settings case st').2.files →
      History tools settings st (outcomes ++ [(run tools settings ordinal id case st').1])
        (run tools settings ordinal id case st').2
  | meanwhile {outcomes : List Outcome} {st' : RunState} (s : Surroundings) :
      History tools settings st outcomes st' →
      Untouched settings.artifactFolder st'.files s.files →
      History tools settings st outcomes { st' with surroundings := s }

/-! ## What a case claims -/

theorem invoke_state (tools : Toolchain) (stage : Stage) (request : Request) (deadline : Deadline)
    (st : RunState) : ∃ call s, (invoke tools stage request deadline st).2 = called st call s := by
  obtain ⟨answer, s, hr⟩ : ∃ answer s,
      (tools.tool stage).run st.calls request deadline st.surroundings = (answer, s) := ⟨_, _, rfl⟩
  refine ⟨⟨stage, request, deadline, st.files⟩, s, ?_⟩
  cases answer <;> simp only [invoke, hr] <;> rfl

theorem invoke_claimed {tools : Toolchain} {stage : Stage} {request : Request}
    {deadline : Deadline} {st st' : RunState} {r : Except FailReason Capture}
    (h : invoke tools stage request deadline st = (r, st')) : st'.claimed = st.claimed := by
  obtain ⟨call, s, hs⟩ := invoke_state tools stage request deadline st
  rw [h] at hs
  rw [show st' = called st call s from hs]
  rfl

/-- The stages of a case claim nothing. -/
theorem attempt_claimed (tools : Toolchain) (settings : Settings) (case : TestCase)
    (st : RunState) : (attempt tools settings case st).2.claimed = st.claimed := by
  have hcross (deadline : Deadline) (c : Capture) (st : RunState) :
      (crossCheck tools settings case deadline c st).2.claimed = st.claimed := by
    unfold crossCheck
    split <;> rename_i h <;> exact invoke_claimed h
  have hscratch (deadline : Deadline) (st : RunState) :
      (interpretScratch tools settings case deadline st).2.claimed = st.claimed := by
    unfold interpretScratch
    split
    · rename_i h
      exact invoke_claimed h
    · rename_i c st' h
      split_ifs
      · exact invoke_claimed h
      · exact invoke_claimed h
      · exact invoke_claimed h
      · exact (hcross deadline c st').trans (invoke_claimed h)
  unfold attempt
  dsimp only
  split
  · rename_i h
    exact invoke_claimed h
  · rename_i c st' h
    split_ifs
    · exact invoke_claimed h
    · exact invoke_claimed h
    · exact invoke_claimed h
    · refine Eq.trans ?_ (invoke_claimed h)
      show (interpret tools settings case _ c.stdout st').2.claimed = st'.claimed
      unfold interpret
      split
      · rfl
      · exact hscratch _ _

/-- The outcome's artifact is where its path says, with the code that its compiler wrote. -/
def Stored (folder : Path) (st : RunState) (o : Outcome) (p : Path) : Prop :=
  p.mem st.claimed = true ∧ ∃ c b names, o.stage? .compile = some c ∧ names ≠ [] ∧
    (∀ name ∈ names, Plain name) ∧ p = folder.below names ∧ Utterable p ∧
    Kept st.files folder b names c.stdout

/-- What holds of the artifacts of a run, at any time. -/
structure Keeps (folder : Path) (st : RunState) (outcomes : List Outcome) : Prop where
  tidy : Tidy st.files folder
  stored : ∀ o ∈ outcomes, ∀ p, o.artifact = some p → Stored folder st o p
  distinct : (outcomes.filterMap (·.artifact)).Pairwise fun p q => p.same q = false

theorem stage?_compile {o : Outcome} {c : Capture} {rest : List StageRecord}
    (h : o.stages = ⟨.compile, c⟩ :: rest) : o.stage? .compile = some c := by
  simp [Outcome.stage?, h]

theorem Stored.mono {folder : Path} {st st' : RunState} {o : Outcome} {p : Path}
    (h : Stored folder st o p) (hc : ∀ q ∈ st.claimed, q ∈ st'.claimed)
    (hk : ∀ b names content, p = folder.below names → Kept st.files folder b names content →
      Kept st'.files folder b names content) : Stored folder st' o p := by
  obtain ⟨hm, c, b, names, hs, hne, hp, rfl, hu, hkept⟩ := h
  refine ⟨?_, c, b, names, hs, hne, hp, rfl, hu, hk b names c.stdout rfl hkept⟩
  obtain ⟨q, hq, hsame⟩ := List.any_eq_true.mp hm
  exact List.any_eq_true.mpr ⟨q, hc q hq, hsame⟩

/-- What leaves the folder untouched takes nothing from its artifacts. -/
theorem Keeps.untouched {folder : Path} {st st' : RunState} {outcomes : List Outcome}
    (h : Keeps folder st outcomes) (hu : Untouched folder st.files st'.files)
    (hc : st'.claimed = st.claimed) : Keeps folder st' outcomes where
  tidy := hu.tidy h.tidy
  stored o ho p hp := (h.stored o ho p hp).mono (fun q hq => by rwa [hc])
    fun _ _ _ _ hk => hk.untouched hu
  distinct := h.distinct

/-- An outcome without an artifact takes nothing from the others. -/
theorem Keeps.unsaved {folder : Path} {st st' : RunState} {outcomes : List Outcome}
    (h : Keeps folder st outcomes) {o : Outcome} (hnone : o.artifact = none)
    (hg : Grown st.files st'.files) (hc : ∀ q ∈ st.claimed, q ∈ st'.claimed) :
    Keeps folder st' (outcomes ++ [o]) where
  tidy := hg.tidy h.tidy
  stored o' ho p hp := by
    rcases List.mem_append.mp ho with ho | ho
    · exact (h.stored o' ho p hp).mono hc fun _ _ _ _ hkept => hkept.grown hg
    · obtain rfl := List.mem_singleton.mp ho
      rw [hnone] at hp
      cases hp
  distinct := by simpa [hnone] using h.distinct

/-- An artifact under a path that was not claimed before takes nothing from the others. -/
theorem Keeps.saved {folder : Path} {st st' : RunState} {outcomes : List Outcome}
    (h : Keeps folder st outcomes) {o : Outcome} {c : Capture} {names : List (List Char)}
    {t : FileTree} (hs : o.stage? .compile = some c)
    (hsome : o.artifact = some (folder.below names)) (hplain : ∀ name ∈ names, Plain name)
    (hne : names ≠ []) (hfresh : (folder.below names).mem st.claimed = false)
    (hclaimed : st'.claimed = folder.below names :: st.claimed) (hg : Grown st.files t)
    (hw : t.write (folder.below names) c.stdout = .ok st'.files) :
    Keeps folder st' (outcomes ++ [o]) := by
  have ht := hg.tidy h.tidy
  obtain ⟨b, id, hsaved⟩ := FileTree.saved_of_write ht hplain hne hw
  constructor
  · exact hsaved.tidy ht
  · intro o' ho p hp
    rcases List.mem_append.mp ho with ho | ho
    · have hstored := h.stored o' ho p hp
      have hclaim : ∀ q ∈ st.claimed, q ∈ st'.claimed := by
        rw [hclaimed]
        exact fun q hq => List.mem_cons_of_mem _ hq
      refine hstored.mono hclaim fun b' others _ he hkept => ?_
      refine (hkept.grown hg).saved hsaved ht ?_
      rintro rfl
      have hsame := Artifact.same_eq_false hstored.1 hfresh
      rw [he, Path.same, beq_self_eq_true] at hsame
      cases hsame
    · obtain rfl := List.mem_singleton.mp ho
      obtain rfl := Option.some.inj (hsome.symm.trans hp)
      obtain ⟨mode, hfind⟩ := hsaved.found
      refine ⟨?_, c, b, names, hs, hne, hplain, rfl, (FileTree.find_eq_ok_iff.mp hfind).1,
        hsaved.kept ht hplain hne⟩
      simp [hclaimed, Path.mem, Path.same]
  · rw [List.filterMap_append, List.pairwise_append]
    refine ⟨h.distinct, by simp [hsome], fun p hp q hq => ?_⟩
    obtain ⟨o', ho', hp⟩ := List.mem_filterMap.mp hp
    obtain rfl : q = folder.below names := by simpa [hsome] using hq
    exact Artifact.same_eq_false (h.stored o' ho' p hp).1 hfresh

theorem keepArtifact_eq {settings : Settings} {name : String} {ordinal : Nat} {code : Bytes}
    {st : RunState} {path : Path} {t : FileTree} {written : Bool}
    (hc : Artifact.claim st.claimed settings.artifactFolder name ordinal = path)
    (hs : Artifact.save st.files path code = (t, written)) :
    keepArtifact settings name ordinal code st =
      (if written then some path else none,
        { st.setFiles t with claimed := path :: st.claimed }) := by
  rw [keepArtifact, hc]
  simp only [hs]

/-- What a case keeps takes nothing from the others: its path was not claimed before. -/
theorem Keeps.another {settings : Settings} {st : RunState} {outcomes : List Outcome}
    (h : Keeps settings.artifactFolder st outcomes) {o : Outcome} {c : Capture} {name : String}
    {ordinal : Nat} (hs : o.stage? .compile = some c)
    (ha : o.artifact = (keepArtifact settings name ordinal c.stdout st).1) :
    Keeps settings.artifactFolder (keepArtifact settings name ordinal c.stdout st).2
      (outcomes ++ [o]) := by
  let folder := settings.artifactFolder
  obtain ⟨names, hne, hplain, hpath⟩ :=
    Artifact.claim_below st.claimed folder name ordinal
  have hfresh := Artifact.claim_fresh st.claimed folder name ordinal
  rw [hpath] at hfresh
  obtain ⟨t, hg, hsave | ⟨t', hw, hsave⟩⟩ :=
    Artifact.save_cases st.files (folder.below names) c.stdout
  · rw [keepArtifact_eq hpath hsave] at ha ⊢
    exact h.unsaved ha hg fun q hq => List.mem_cons_of_mem _ hq
  · rw [keepArtifact_eq hpath hsave] at ha ⊢
    exact h.saved hs ha hplain hne hfresh rfl hg hw

/-- The artifacts of all cases are kept, whatever comes between them. -/
theorem History.keeps {tools : Toolchain} {settings : Settings} {st st' : RunState}
    {outcomes : List Outcome} (h : History tools settings st outcomes st')
    (ht : Tidy st.files settings.artifactFolder) :
    Keeps settings.artifactFolder st' outcomes := by
  induction h with
  | start => exact ⟨ht, nofun, .nil⟩
  | @case outcomes st' ordinal id case _ hu ih =>
    obtain ⟨xs, -, hcourse⟩ := run_course tools settings ordinal id case st'
    obtain ⟨artifact, ho⟩ := run_outcome tools settings ordinal id case st'
    have hbefore := ih.untouched hu (attempt_claimed tools settings case st')
    rcases run_artifact tools settings ordinal id case st' with ⟨hnone, hst⟩ | ⟨code, hc, ha, hst⟩
    · rw [hst]
      exact hbefore.unsaved hnone (.refl _) fun _ hq => hq
    · obtain ⟨c, rest, hstages, rfl⟩ := hcourse.code hc
      have hs : (run tools settings ordinal id case st').1.stage? .compile = some c := by
        rw [ho]
        exact stage?_compile hstages
      rw [hst]
      exact hbefore.another hs ha
  | meanwhile s _ hu ih => exact ih.untouched hu rfl

/-- The artifacts of a history have different paths, and in the end each of them holds what the
compiler wrote for its own case. -/
theorem History.artifacts {tools : Toolchain} {settings : Settings} {st st' : RunState}
    {outcomes : List Outcome} (h : History tools settings st outcomes st')
    (ht : Tidy st.files settings.artifactFolder) :
    (outcomes.filterMap (·.artifact)).Pairwise (fun p q => p.same q = false) ∧
      ∀ o ∈ outcomes, ∀ p, o.artifact = some p →
        ∃ c, o.stage? .compile = some c ∧ st'.files.read p = .ok c.stdout := by
  have hkeeps := h.keeps ht
  refine ⟨hkeeps.distinct, fun o ho p hp => ?_⟩
  obtain ⟨-, c, b, names, hs, hne, hplain, rfl, hu, hkept⟩ := hkeeps.stored o ho p hp
  exact ⟨c, hs, hkept.read hplain hne hu⟩

/-! ## Two cases of one name -/

/-- Tools whose compiler writes different code each time. -/
def twoCodes : Toolchain where
  compiler :=
    .scripted "compiler" .compile [.completed { stdout := [1] }, .completed { stdout := [2] }]
  interpreter := writing "interpreter" .interpret []
  reference := writing "reference" .reference []

/-- Settings under which no scratch file can be written, so every case that gets so far fails. -/
def unwritable : Settings where
  scratch := ⟨""⟩
  artifactFolder := ⟨"o"⟩

theorem write_unwritable (t : FileTree) (content : Bytes) :
    t.write unwritable.scratch content = .error .missing := rfl

/-- These tools and settings touch no file before the artifact is kept. -/
theorem attempt_unwritable (case : TestCase) (st : RunState) :
    (attempt twoCodes unwritable case st).2.files = st.files := by
  have hfiles (stage : Stage) (request : Request) (deadline : Deadline) (st : RunState) :
      (invoke twoCodes stage request deadline st).2.files = st.files := by
    unfold invoke
    cases stage <;> dsimp only [twoCodes, Toolchain.tool, Tool.scripted, writing] <;> split <;> rfl
  have h := hfiles .compile (compileRequest case)
    (.after st.surroundings.now unwritable.timeout) st
  unfold attempt
  dsimp only
  split
  · rename_i hi
    rwa [hi] at h
  · rename_i c st' hi
    rw [hi] at h
    split_ifs
    · exact h
    · exact h
    · exact h
    · rw [interpret, write_unwritable]
      exact h

theorem step_unwritable {st : RunState} {outcomes : List Outcome} (st' : RunState) (ordinal : Nat)
    (id : String) (case : TestCase) (h : History twoCodes unwritable st outcomes st') :
    History twoCodes unwritable st
      (outcomes ++ [(run twoCodes unwritable ordinal id case st').1])
      (run twoCodes unwritable ordinal id case st').2 :=
  .case ordinal id case h (by rw [attempt_unwritable]; exact .refl _ _)

theorem proper_o : Proper "o".toList :=
  ⟨by decide, by decide, by decide⟩

theorem find_o {t : FileTree} (aim : Aim) (hh : t.here = []) (hf : t.get? ["o"] = some .folder) :
    t.find aim ⟨"o"⟩ = .ok (.taken ["o"] .folder) := by
  refine FileTree.find_eq_ok_iff.mpr
    ⟨⟨by decide, by decide, by decide⟩, ⟨false, 40, ["o"], []⟩, ?_, ?_⟩
  · rw [FileTree.outset, hh]
    show Way _ _ ⟨false, 40, [], ["o".toList]⟩ _
    exact .stride (.down rfl proper_o (by simp [FileTree.Admits]) hf (by simp)) (.done _)
  · exact .taken hf fun _ _ => rfl

theorem find_free_o {t : FileTree} {p : Path} {name : List Char} (hh : t.here = [])
    (hf : t.get? ["o"] = some .folder) (ho : t.outset p = ⟨false, 40, t.here, ["o".toList, name]⟩)
    (hu : Utterable p) (hn : Proper name) (h : t.get? ["o", String.ofList name] = none) :
    t.find .content p = .ok (.free ["o", String.ofList name]) := by
  refine FileTree.find_eq_ok_iff.mpr ⟨hu, ⟨false, 40, ["o"], [name]⟩, ?_, .free hf hn rfl h⟩
  rw [ho, hh]
  exact .stride (.down rfl proper_o (by simp [FileTree.Admits]) hf (by simp)) (.done _)

theorem makeFolders_o {t : FileTree} (hh : t.here = []) (hf : t.get? ["o"] = some .folder) :
    t.makeFolders ⟨"o"⟩ = (t, none) := by
  have hfind := find_o .name hh hf
  have hmake : t.makeFolder ⟨"o"⟩ = .error .present := by rw [FileTree.makeFolder, hfind]
  have hfolder : t.isFolder ⟨"o"⟩ = true := FileTree.isFolder_of_find (find_o .target hh hf)
  show t.makeFoldersWithin ⟨"o"⟩ 3 = _
  rw [FileTree.makeFoldersWithin, if_neg (by decide), hmake]
  simp [hfolder]

theorem save_o {t t' : FileTree} {p : Path} {content : Bytes} (hh : t.here = [])
    (hf : t.get? ["o"] = some .folder) (hp : p.parent? = some ⟨"o"⟩)
    (hw : t.write p content = .ok t') : Artifact.save t p content = (t', true) := by
  rw [Artifact.save, hp]
  simp only [makeFolders_o hh hf, hw]

/-- A case that could not be given its scratch file keeps its intermediate code if it can. -/
theorem run_of_save (ordinal : Nat) (case : TestCase) {st st' : RunState} {content : Bytes}
    {path : Path} {t : FileTree} {written : Bool} (hcode : case.compilerCodes.contains 0 = true)
    (hi : invoke twoCodes .compile (compileRequest case)
      (.after st.surroundings.now unwritable.timeout) st = (.ok { stdout := content }, st'))
    (hc : Artifact.claim st'.claimed ⟨"o"⟩ case.name ordinal = path)
    (hs : Artifact.save st'.files path content = (t, written)) :
    run twoCodes unwritable ordinal case.name case st =
      ({ ordinal, id := case.name, stages := [⟨.compile, { stdout := content }⟩]
         verdict := .fail (.unprepared (scratchProblem unwritable .missing))
         artifact := if written then some path else none },
        { st'.setFiles t with claimed := path :: st'.claimed }) := by
  have hattempt : attempt twoCodes unwritable case st =
      ({ stages := [⟨.compile, { stdout := content }⟩]
         verdict := .fail (.unprepared (scratchProblem unwritable .missing))
         code := some content }, st') := by
    rw [attempt]
    simp only [hi, hcode, Bool.not_true, Bool.false_eq_true, if_false, ne_eq, not_true]
    rw [if_neg (by decide), interpret, write_unwritable]
    rfl
  have hkeep := @keepArtifact_eq unwritable case.name ordinal content st' path t written hc hs
  rw [run, hattempt]
  simp only [hkeep, Verdict.isFail, if_true]

theorem run_unwritable (ordinal : Nat) (case : TestCase) {st st' : RunState} {content : Bytes}
    {path : Path} {t : FileTree} (hcode : case.compilerCodes.contains 0 = true)
    (hi : invoke twoCodes .compile (compileRequest case)
      (.after st.surroundings.now unwritable.timeout) st = (.ok { stdout := content }, st'))
    (hh : st'.files.here = []) (hf : st'.files.get? ["o"] = some .folder)
    (hc : Artifact.claim st'.claimed ⟨"o"⟩ case.name ordinal = path)
    (hp : path.parent? = some ⟨"o"⟩) (hw : st'.files.write path content = .ok t) :
    run twoCodes unwritable ordinal case.name case st =
      ({ ordinal, id := case.name, stages := [⟨.compile, { stdout := content }⟩]
         verdict := .fail (.unprepared (scratchProblem unwritable .missing))
         artifact := some path },
        { st'.setFiles t with claimed := path :: st'.claimed }) :=
  run_of_save ordinal case hcode hi hc (save_o hh hf hp hw)

theorem proper_a : Proper "a.icode".toList :=
  ⟨by decide, by decide, by decide⟩

theorem proper_a2 : Proper "a.2.icode".toList :=
  ⟨by decide, by decide, by decide⟩

theorem utterable_a : Utterable ⟨"o/a.icode"⟩ :=
  ⟨by decide, by decide, by decide⟩

theorem utterable_a2 : Utterable ⟨"o/a.2.icode"⟩ :=
  ⟨by decide, by decide, by decide⟩

theorem claim_a : Artifact.claim [] ⟨"o"⟩ "a" 1 = ⟨"o/a.icode"⟩ := by
  decide

theorem claim_a2 : Artifact.claim [⟨"o/a.icode"⟩] ⟨"o"⟩ "a" 2 = ⟨"o/a.2.icode"⟩ := by
  decide

/-- A folder of artifacts without any, with one and with two of them. -/
def bareTree : FileTree where
  entries := [(["o"], .folder)]

def firstTree : FileTree where
  entries := (["o", "a.icode"], .file 0) :: bareTree.entries
  held := #[{ content := [1], mode := Node.plainMode }]
  known := by simp [bareTree]

def secondTree : FileTree where
  entries := (["o", "a.2.icode"], .file 1) :: firstTree.entries
  held := firstTree.held.push { content := [2], mode := Node.plainMode }
  known := by simp [firstTree, bareTree]

theorem write_first : bareTree.write ⟨"o/a.icode"⟩ [1] = .ok firstTree := by
  rw [FileTree.write, find_free_o rfl rfl rfl utterable_a proper_a rfl]
  rfl

theorem write_second : firstTree.write ⟨"o/a.2.icode"⟩ [2] = .ok secondTree := by
  rw [FileTree.write, find_free_o rfl rfl rfl utterable_a2 proper_a2 rfl]
  rfl

/-- Nothing stands in a folder that is bare. -/
theorem tidy_bareTree : Tidy bareTree ⟨"o"⟩ := by
  have hentry {loc : Location} {e : FileEntry} (h : bareTree.entryAt? loc = some e) :
      e = .folder := by
    unfold FileTree.entryAt? at h
    split at h
    · exact (Option.some.inj h).symm
    · rw [bareTree, List.lookup_cons] at h
      split at h
      · exact (Option.some.inj h).symm
      · cases h
  exact fun b _ =>
    ⟨fun _ _ _ _ h => absurd (hentry h) nofun, fun _ _ _ _ h => absurd (hentry h) nofun,
      fun _ _ _ _ _ h => absurd (hentry h) nofun⟩

theorem artifacts_of_both :
    Tidy bareTree unwritable.artifactFolder ∧
      ∃ outcomes st',
        History twoCodes unwritable { surroundings := { files := bareTree } } outcomes st' ∧
        outcomes.map (·.artifact) = [some ⟨"o/a.icode"⟩, some ⟨"o/a.2.icode"⟩] ∧
        (outcomes.filterMap (·.artifact)).Pairwise (fun p q => p.same q = false) ∧
          ∀ o ∈ outcomes, ∀ p, o.artifact = some p →
            ∃ c, o.stage? .compile = some c ∧ st'.files.read p = .ok c.stdout := by
  let before : RunState := { surroundings := { files := bareTree } }
  let between : RunState :=
    { surroundings := { files := firstTree }
      calls := [⟨.compile, compileRequest emptyCase, .after 0 (.ofSeconds 5), bareTree⟩]
      claimed := [⟨"o/a.icode"⟩] }
  have hi : invoke twoCodes .compile (compileRequest emptyCase) (.after 0 (.ofSeconds 5))
      before = (.ok { stdout := [1] }, called before _ before.surroundings) := rfl
  have hi' : invoke twoCodes .compile (compileRequest emptyCase) (.after 0 (.ofSeconds 5))
      between = (.ok { stdout := [2] }, called between _ between.surroundings) := rfl
  have h := step_unwritable before 1 emptyCase.name emptyCase .start
  rw [@run_unwritable 1 emptyCase before _ [1] ⟨"o/a.icode"⟩ firstTree (by decide) hi rfl
    rfl claim_a (by decide) write_first] at h
  have h' := step_unwritable between 2 emptyCase.name emptyCase h
  rw [@run_unwritable 2 emptyCase between _ [2] ⟨"o/a.2.icode"⟩ secondTree (by decide) hi' rfl
    rfl claim_a2 (by decide) write_second] at h'
  exact ⟨tidy_bareTree, _, _, h', rfl, h'.artifacts tidy_bareTree⟩

/-! ## Two artifacts behind one link -/

/-- A folder of artifacts where the place of one is a link to the place of another. -/
def linkedTree : FileTree where
  entries := [(["o"], .folder), (["o", "a.icode"], .link ⟨"b.icode"⟩)]

/-- The tree with an artifact behind the link. -/
def savedTree (content : Bytes) : FileTree where
  entries := (["o", "b.icode"], .file 0) :: linkedTree.entries
  held := #[{ content, mode := Node.plainMode }]
  known := by simp [linkedTree]

theorem proper_b : Proper "b.icode".toList :=
  ⟨by decide, by decide, by decide⟩

theorem utterable_b : Utterable ⟨"o/b.icode"⟩ :=
  ⟨by decide, by decide, by decide⟩

theorem write_a : linkedTree.write ⟨"o/a.icode"⟩ [1] = .ok (savedTree [1]) := by
  have hfind : linkedTree.find .content ⟨"o/a.icode"⟩ = .ok (.free ["o", "b.icode"]) := by
    refine FileTree.find_eq_ok_iff.mpr
      ⟨utterable_a, ⟨false, 39, ["o"], ["b.icode".toList]⟩, ?_, .free rfl proper_b rfl rfl⟩
    show Way _ _ ⟨false, 40, [], ["o".toList, "a.icode".toList]⟩ _
    exact .stride (.down rfl proper_o rfl rfl fun _ h => by cases h)
      (.stride (.link rfl proper_a rfl rfl rfl) (.done _))
  rw [FileTree.write, hfind]
  rfl

theorem write_b : (savedTree [1]).write ⟨"o/b.icode"⟩ [2] = .ok (savedTree [2]) := by
  have hfind : (savedTree [1]).find .content ⟨"o/b.icode"⟩ =
      .ok (.taken ["o", "b.icode"] (.plain [1])) := by
    refine FileTree.find_eq_ok_iff.mpr
      ⟨utterable_b, ⟨false, 40, ["o", "b.icode"], []⟩, ?_, .taken rfl nofun⟩
    show Way _ _ ⟨false, 40, [], ["o".toList, "b.icode".toList]⟩ _
    exact .stride (.down rfl proper_o rfl rfl fun _ h => by cases h)
      (.stride (.down rfl proper_b rfl rfl fun _ h => by cases h) (.done _))
  rw [FileTree.write, hfind]
  rfl

theorem read_a : (savedTree [2]).read ⟨"o/a.icode"⟩ = .ok [2] := by
  have hfind : (savedTree [2]).find .target ⟨"o/a.icode"⟩ =
      .ok (.taken ["o", "b.icode"] (.plain [2])) := by
    refine FileTree.find_eq_ok_iff.mpr
      ⟨utterable_a, ⟨false, 39, ["o", "b.icode"], []⟩, ?_, .taken rfl nofun⟩
    show Way _ _ ⟨false, 40, [], ["o".toList, "a.icode".toList]⟩ _
    exact .stride (.down rfl proper_o rfl rfl fun _ h => by cases h)
      (.stride (.link rfl proper_a rfl rfl rfl)
        (.stride (.down rfl proper_b rfl rfl fun _ h => by cases h) (.done _)))
  rw [FileTree.read, hfind]
  rfl

/-- A case with another name. -/
def otherCase : TestCase :=
  { emptyCase with name := "b" }

theorem claim_b : Artifact.claim [⟨"o/a.icode"⟩] ⟨"o"⟩ "b" 2 = ⟨"o/b.icode"⟩ := by
  decide

/-- The state before the cases, and after the first of them. -/
def beforeBoth : RunState where
  surroundings := { files := linkedTree }

def afterFirst : RunState where
  surroundings := { files := savedTree [1] }
  calls := [⟨.compile, compileRequest emptyCase, .after 0 (.ofSeconds 5), linkedTree⟩]
  claimed := [⟨"o/a.icode"⟩]

/-- The second artifact takes the place of the first one. -/
theorem linked_artifact_lost :
    ∃ outcomes st', History twoCodes unwritable beforeBoth outcomes st' ∧
      ∃ o ∈ outcomes, ∃ p c, o.artifact = some p ∧ o.stage? .compile = some c ∧
        st'.files.read p ≠ .ok c.stdout := by
  have hi : invoke twoCodes .compile (compileRequest emptyCase) (.after 0 (.ofSeconds 5))
      beforeBoth = (.ok { stdout := [1] }, called beforeBoth _ beforeBoth.surroundings) := rfl
  have hi' : invoke twoCodes .compile (compileRequest otherCase) (.after 0 (.ofSeconds 5))
      afterFirst = (.ok { stdout := [2] }, called afterFirst _ afterFirst.surroundings) := rfl
  have h := step_unwritable beforeBoth 1 emptyCase.name emptyCase .start
  rw [@run_unwritable 1 emptyCase beforeBoth _ [1] ⟨"o/a.icode"⟩ (savedTree [1]) (by decide) hi rfl
    rfl claim_a (by decide) write_a] at h
  have h' := step_unwritable afterFirst 2 otherCase.name otherCase h
  rw [@run_unwritable 2 otherCase afterFirst _ [2] ⟨"o/b.icode"⟩ (savedTree [2]) (by decide) hi' rfl
    rfl claim_b (by decide) write_b] at h'
  refine ⟨_, _, h', _, List.mem_cons_self, ⟨"o/a.icode"⟩, { stdout := [1] }, rfl, rfl, ?_⟩
  show (savedTree [2]).read ⟨"o/a.icode"⟩ ≠ .ok [1]
  rw [read_a]
  nofun

end Conformance.Pipeline
