import Conformance.Proofs.Artifact.Saving
import Conformance.Proofs.Pipeline.Aftermath

/-!
# Artifacts beside each other

Paths are claimed whole, so that one of them is above another is not noticed. It is so only if the
name of a test asks for a folder that is named like intermediate code (`Placed.of_above`). Where no
test does, an artifact folder that was empty holds nothing but artifacts and the folders above them,
told apart by their names (`Laid`), and every case that fails with code is given its artifact
(`artifacts_beside_each_other`). The artifact of a test `a.icode/b` takes the place of that of `a`
(`code_folder_in_place`).
-/
namespace Conformance

open FileTree (Leads Tidy Untouched Road Utterable Proper along)
open Path (Plain)

/-- The second path leads on from the first one. -/
def Path.Above (p q : Path) : Prop :=
  ∃ rest, rest ≠ [] ∧ q.components = p.components ++ rest

/-- A path that the system takes as a whole and name by name. -/
structure FileTree.Sayable (p : Path) : Prop where
  utterable : Utterable p
  fits : ∀ name ∈ FileTree.steps p, ¬FileTree.maxNameBytes < Text.byteLength name

theorem FileTree.Sayable.proper {folder : Path} {names : List (List Char)}
    (h : Sayable (folder.below names)) (hp : ∀ n ∈ names, Plain n) : ∀ n ∈ names, Proper n := by
  intro n hn
  refine ⟨(hp n hn).not_here, (hp n hn).not_parent, h.fits n ?_⟩
  rw [Path.steps_below folder hp]
  exact List.mem_append_right _ hn

namespace Artifact

/-- The paths that are claimed for tests, one after the other, each with the name of its test. -/
def claimEach (folder : Path) (claimed : List Path) : List (String × Nat) → List (String × Path)
  | [] => []
  | (testName, ordinal) :: tests =>
    let p := claim claimed folder testName ordinal
    (testName, p) :: claimEach folder (p :: claimed) tests

theorem placed_of_mem_claimEach {folder : Path} {claimed : List Path} {tests : List (String × Nat)}
    {x : String × Path} (h : x ∈ claimEach folder claimed tests) : Placed folder x.1 x.2 := by
  induction tests generalizing claimed with
  | nil => cases h
  | cons test tests ih =>
    rcases List.mem_cons.mp h with rfl | h
    · exact claim_placed claimed folder test.1 test.2
    · exact ih h

/-- A path above another one is named like one of the other's folders. -/
theorem Placed.of_above {folder p q : Path} {testName other : String}
    (hp : Placed folder testName p) (hq : Placed folder other q) (h : p.Above q) :
    ∃ part ∈ foldersOf other, IsCode part := by
  obtain ⟨name, hcode, hplain, rfl⟩ := hp
  obtain ⟨name', -, hplain', rfl⟩ := hq
  obtain ⟨rest, hne, hrest⟩ := h
  rw [Path.components_below folder hplain, Path.components_below folder hplain',
    List.append_assoc] at hrest
  have hnames : (foldersOf other).map Path.Component.name ++ [.name name'] =
      (foldersOf testName ++ [name]).map .name ++ rest := by
    simpa using List.append_cancel_left hrest
  obtain ⟨init, last, rfl⟩ := (List.eq_nil_or_concat rest).resolve_left hne
  rw [List.concat_eq_append, ← List.append_assoc] at hnames
  have hfolders := (List.append_inj' hnames rfl).1
  have hmem : Path.Component.name name ∈ (foldersOf other).map .name := by
    rw [hfolders]
    simp
  obtain ⟨part, hpart, hname⟩ := List.mem_map.mp hmem
  obtain rfl := Path.Component.name.inj hname
  exact ⟨part, hpart, hcode⟩

end Artifact

namespace Pipeline

open Artifact (IsCode Placed foldersOf claimEach)

/-- A history of cases, each with its outcome. -/
inductive Series (tools : Toolchain) (settings : Settings) (st : RunState) :
    List (TestCase × Outcome) → RunState → Prop
  | start : Series tools settings st [] st
  | case {done : List (TestCase × Outcome)} {st' : RunState} (ordinal : Nat) (id : String)
      (case : TestCase) :
      Series tools settings st done st' →
      Untouched settings.artifactFolder st'.files (attempt tools settings case st').2.files →
      Series tools settings st (done ++ [(case, (run tools settings ordinal id case st').1)])
        (run tools settings ordinal id case st').2
  | meanwhile {done : List (TestCase × Outcome)} {st' : RunState} (s : Surroundings) :
      Series tools settings st done st' →
      Untouched settings.artifactFolder st'.files s.files →
      Series tools settings st done { st' with surroundings := s }

theorem Series.history {tools : Toolchain} {settings : Settings} {st st' : RunState}
    {done : List (TestCase × Outcome)} (h : Series tools settings st done st') :
    History tools settings st (done.map (·.2)) st' := by
  induction h with
  | start => exact .start
  | case ordinal id case _ hu ih =>
    rw [List.map_append]
    exact .case ordinal id case ih hu
  | meanwhile s _ hu ih => exact .meanwhile s ih hu

/-- A path leads to a folder in which nothing stands. -/
structure Bare (t : FileTree) (folder : Path) (b : Location) : Prop where
  leads : Leads t.get? t folder b
  top : t.get? b = some .folder
  empty : ∀ loc, b <+: loc → loc ≠ b → t.entryAt? loc = none

/-- What stands in the artifact folder is a folder by its name, or the claimed place of an
artifact. -/
structure Laid (folder : Path) (b : Location) (t : FileTree) (claimed : List Path) : Prop where
  leads : Leads t.get? t folder b
  top : t.get? b = some .folder
  entry : ∀ names name e, t.entryAt? (along b (names ++ [name])) = some e →
    ¬IsCode name ∧ e = .folder ∨
      IsCode name ∧ (folder.below (names ++ [name])).mem claimed = true

variable {folder : Path} {b : Location} {t t' : FileTree} {claimed : List Path}

theorem Bare.tidy (h : Bare t folder b) : Tidy t folder := by
  intro b' hb'
  obtain rfl := hb'.unique h.leads.ahead
  have hnone {loc : Location} (hl : b' <+: loc) (hne : loc ≠ b') (e : FileEntry) :
      t.entryAt? loc ≠ some e := by
    rw [h.empty loc hl hne]
    exact (Option.some_ne_none _).symm
  have hfile {loc : Location} {id : FileId} (hl : b' <+: loc) :
      t.entryAt? loc ≠ some (.file id) := by
    by_cases hb : loc = b'
    · intro hentry
      have htop := h.top
      rw [FileTree.get?, ← hb, hentry] at htop
      cases htop
    · exact hnone hl hb _
  exact ⟨fun loc hl hne target => hnone hl hne _, fun loc hl hne name => hnone hl hne _,
    fun _ _ _ hl _ hentry => absurd hentry (hfile hl)⟩

theorem Bare.laid (h : Bare t folder b) (claimed : List Path) : Laid folder b t claimed := by
  refine ⟨h.leads, h.top, fun names name e hentry => ?_⟩
  have hne : along b (names ++ [name]) ≠ b := FileTree.along_ne (List.concat_ne_nil _ _) b
  rw [h.empty _ (FileTree.prefix_along b _) hne] at hentry
  cases hentry

theorem Laid.untouched (h : Laid folder b t claimed) (hu : Untouched folder t t') :
    Laid folder b t' claimed := by
  have hb := h.leads.ahead
  refine ⟨hu.leads b h.leads, ?_, fun names name e hentry => ?_⟩
  · rw [hu.get? hb b List.prefix_rfl, h.top]
  · rw [hu.entry b hb _ (FileTree.prefix_along b _)] at hentry
    exact h.entry names name e hentry

/-- Where no code folder is asked for, the folders of a place lie on a road. -/
theorem Laid.road (h : Laid folder b t claimed) {names : List (List Char)}
    (hn : ∀ n ∈ names, ¬IsCode n) : Road t.get? b names := by
  intro passed hne hpassed
  obtain ⟨init, last, rfl⟩ := (List.eq_nil_or_concat passed).resolve_left hne
  rw [List.concat_eq_append] at hpassed ⊢
  have hlast : ¬IsCode last := hn last (hpassed.subset (by simp))
  cases hentry : t.entryAt? (along b (init ++ [last])) with
  | none =>
    left
    rw [FileTree.get?, hentry]
    rfl
  | some e =>
    rcases h.entry init last e hentry with ⟨-, rfl⟩ | ⟨hcode, -⟩
    · right
      rw [FileTree.get?, hentry]
      rfl
    · exact absurd hcode hlast

/-- An artifact is saved in a folder that is laid out so, and the folder stays so. -/
theorem Laid.saved (h : Laid folder b t claimed) {testName : String} {p : Path}
    (hp : Placed folder testName p) (hn : ∀ part ∈ foldersOf testName, ¬IsCode part)
    (hs : FileTree.Sayable p) (hfresh : p.mem claimed = false) (content : Bytes) :
    ∃ t', Artifact.save t p content = (t', true) ∧ Laid folder b t' (p :: claimed) := by
  obtain ⟨name, hcode, hplain, rfl⟩ := hp
  have hfree : t.entryAt? (along b (foldersOf testName ++ [name])) = none := by
    rw [Option.eq_none_iff_forall_ne_some]
    intro e hentry
    rcases h.entry _ _ _ hentry with ⟨hfolder, -⟩ | ⟨-, hmem⟩
    · exact hfolder hcode
    · rw [hfresh] at hmem
      cases hmem
  obtain ⟨u, hpaved, hsave⟩ := FileTree.save_road h.leads h.top (h.road hn) hfree hplain
    (hs.proper hplain) hs.utterable content
  have hnone := hpaved.last hfree
  have hopens := FileTree.opens_put_free hnone content Node.plainMode
  have hleads := h.leads.opens hpaved.grown.opens hpaved.grown.here
  obtain ⟨id, hwritten⟩ := FileTree.put_file_written u (FileTree.ne_root_of_none hnone) content
    Node.plainMode
  refine ⟨_, hsave, hleads.opens hopens (FileTree.here_put u _ _), ?_, ?_⟩
  · exact hopens.folder (hpaved.grown.opens.folder h.top)
  intro names last e hentry
  by_cases hloc : along b (names ++ [last]) = along b (foldersOf testName ++ [name])
  · obtain ⟨rfl, hlast⟩ := List.append_inj' (FileTree.along_inj hloc) rfl
    obtain rfl := List.singleton_inj.mp hlast
    exact .inr ⟨hcode, Artifact.mem_iff.mpr List.mem_cons_self⟩
  · have hu : u.entryAt? (along b (names ++ [last])) = some e :=
      (hwritten.other _ hloc).symm.trans hentry
    rcases hpaved.grown.entry (along b (names ++ [last])) with hsame | ⟨hbefore, hfolder⟩
    · rcases h.entry names last e (hsame.symm.trans hu) with hfolder | ⟨hcode', hmem⟩
      · exact .inl hfolder
      · exact .inr ⟨hcode', Artifact.mem_iff.mpr
          (List.mem_cons_of_mem _ (Artifact.mem_iff.mp hmem))⟩
    · obtain rfl := Option.some.inj (hfolder.symm.trans hu)
      rcases hpaved.elsewhere (along b (names ++ [last])) with hsame | ⟨passed, -, hpassed, hloc'⟩
      · rw [hsame, hbefore] at hfolder
        cases hfolder
      · obtain rfl := FileTree.along_inj hloc'
        exact .inl ⟨hn last (hpassed.subset (by simp)), rfl⟩

section
variable {tools : Toolchain} {settings : Settings} {st st' : RunState}
  {done : List (TestCase × Outcome)} {ordinal : Nat} {id : String} {case : TestCase} {o : Outcome}

/-- What is claimed stays claimed. -/
theorem claimed_of_run (h : run tools settings ordinal id case st = (o, st')) :
    ∀ p ∈ st.claimed, p ∈ st'.claimed := by
  obtain rfl : o = (run tools settings ordinal id case st).1 := by rw [h]
  obtain rfl : st' = (run tools settings ordinal id case st).2 := by rw [h]
  have hclaimed := attempt_claimed tools settings case st
  by_cases hfails : ∃ c, FailsWithCode settings case (run tools settings ordinal id case st).1 c
  · obtain ⟨c, hc⟩ := hfails
    rw [(run_of_kept tools settings ordinal id case st hc).2, keepArtifact, hclaimed]
    exact fun p hp => List.mem_cons_of_mem _ hp
  · rw [(run_of_spared tools settings ordinal id case st (not_exists.mp hfails)).2, hclaimed]
    exact fun p hp => hp

/-- A case leaves the folder laid out, and is given its artifact if it fails with code. -/
theorem Laid.after_run (h : Laid settings.artifactFolder b st.files st.claimed)
    (hu : Untouched settings.artifactFolder st.files (attempt tools settings case st).2.files)
    (hrun : run tools settings ordinal id case st = (o, st'))
    (hn : (∃ c, FailsWithCode settings case o c) → ∀ part ∈ foldersOf case.name, ¬IsCode part)
    (hs : ∀ p ∈ st'.claimed, FileTree.Sayable p) :
    Laid settings.artifactFolder b st'.files st'.claimed ∧
      ∀ c, FailsWithCode settings case o c → ∃ p ∈ st'.claimed, o.artifact = some p := by
  obtain rfl : o = (run tools settings ordinal id case st).1 := by rw [hrun]
  obtain rfl : st' = (run tools settings ordinal id case st).2 := by rw [hrun]
  have hlaid := h.untouched hu
  have hclaimed := attempt_claimed tools settings case st
  by_cases hfails : ∃ c, FailsWithCode settings case (run tools settings ordinal id case st).1 c
  · obtain ⟨c, hc⟩ := hfails
    obtain ⟨hartifact, hstate⟩ := run_of_kept tools settings ordinal id case st hc
    let path := Artifact.claim st.claimed settings.artifactFolder case.name ordinal
    have hpath : path ∈ (run tools settings ordinal id case st).2.claimed := by
      rw [hstate, keepArtifact, hclaimed]
      exact List.mem_cons_self
    obtain ⟨t, hsave, hsaved⟩ := hlaid.saved (Artifact.claim_placed _ _ case.name ordinal)
      (hn ⟨c, hc⟩) (hs path hpath) (Artifact.claim_fresh _ _ _ _) c.stdout
    have hclaim : Artifact.claim (attempt tools settings case st).2.claimed
        settings.artifactFolder case.name ordinal = path := by rw [hclaimed]
    have hkeep := keepArtifact_eq hclaim hsave
    rw [hkeep] at hartifact hstate
    rw [hstate, hartifact, hclaimed]
    exact ⟨hsaved, fun _ _ => ⟨_, List.mem_cons_self, rfl⟩⟩
  · obtain ⟨-, hstate⟩ := run_of_spared tools settings ordinal id case st (not_exists.mp hfails)
    rw [hstate, hclaimed]
    exact ⟨hlaid, fun c hc => absurd ⟨c, hc⟩ hfails⟩

/-- All cases that fail with code are given their artifacts. -/
theorem Series.laid (h : Series tools settings st done st')
    (hl : Laid settings.artifactFolder b st.files st.claimed)
    (hn : ∀ x ∈ done, (∃ c, FailsWithCode settings x.1 x.2 c) →
      ∀ part ∈ foldersOf x.1.name, ¬IsCode part)
    (hs : ∀ p ∈ st'.claimed, FileTree.Sayable p) :
    Laid settings.artifactFolder b st'.files st'.claimed ∧
      ∀ x ∈ done, ∀ c, FailsWithCode settings x.1 x.2 c →
        ∃ p ∈ st'.claimed, x.2.artifact = some p := by
  induction h with
  | start => exact ⟨hl, fun x hx => absurd hx List.not_mem_nil⟩
  | @case done st' ordinal id case _ hu ih =>
    obtain ⟨o, st'', hrun⟩ : ∃ o st'', run tools settings ordinal id case st' = (o, st'') :=
      ⟨_, _, rfl⟩
    rw [hrun] at hn hs ⊢
    have hclaimed := claimed_of_run hrun
    obtain ⟨hlaid, hkept⟩ := ih (fun x hx => hn x (List.mem_append_left _ hx))
      fun p hp => hs p (hclaimed p hp)
    have hcase : (case, o) ∈ done ++ [(case, o)] := by simp
    obtain ⟨hlaid', hkept'⟩ := hlaid.after_run hu hrun (hn _ hcase) hs
    refine ⟨hlaid', fun x hx c hc => ?_⟩
    rcases List.mem_append.mp hx with hx | hx
    · obtain ⟨p, hp, hartifact⟩ := hkept x hx c hc
      exact ⟨p, hclaimed p hp, hartifact⟩
    · obtain rfl := List.mem_singleton.mp hx
      exact hkept' c hc
  | meanwhile s _ hu ih =>
    obtain ⟨hlaid, hkept⟩ := ih hn hs
    exact ⟨hlaid.untouched hu, hkept⟩

end

/-- No claimed path is above another one, unless the name of the other's test asks for a folder that
is named like intermediate code. Where no test that fails with code does, each of them is given its
artifact in a folder that was empty, whatever other tests failed before it, and there it stays. -/
theorem artifacts_beside_each_other (folder : Path) (tests : List (String × Nat))
    (tools : Toolchain) (settings : Settings) (st st' : RunState) (b : Location)
    (done : List (TestCase × Outcome)) :
    (∀ x ∈ claimEach folder [] tests, ∀ y ∈ claimEach folder [] tests,
      x.2.Above y.2 → ∃ part ∈ foldersOf y.1, IsCode part) ∧
    (Series tools settings st done st' → Bare st.files settings.artifactFolder b →
      (∀ x ∈ done, (∃ c, FailsWithCode settings x.1 x.2 c) →
        ∀ part ∈ foldersOf x.1.name, ¬IsCode part) →
      (∀ p ∈ st'.claimed, FileTree.Sayable p) →
      ∀ x ∈ done, ∀ c, FailsWithCode settings x.1 x.2 c →
        ∃ p ∈ st'.claimed, x.2.artifact = some p ∧ st'.files.read p = .ok c.stdout) := by
  refine ⟨fun x hx y hy habove => ?_, ?_⟩
  · have hplaced := Artifact.placed_of_mem_claimEach hx
    exact hplaced.of_above (Artifact.placed_of_mem_claimEach hy) habove
  · intro hseries hbare hn hs x hx c hc
    obtain ⟨-, hkept⟩ := hseries.laid (hbare.laid st.claimed) hn hs
    obtain ⟨p, hp, hartifact⟩ := hkept x hx c hc
    have hkeeps := hseries.history.keeps hbare.tidy
    obtain ⟨-, c', b', names, hstage, hne, hplain, rfl, hu, hstored⟩ :=
      hkeeps.stored x.2 (List.mem_map_of_mem hx) p hartifact
    obtain rfl := Option.some.inj (hc.compiled.symm.trans hstage)
    exact ⟨_, hp, hartifact, hstored.read hplain hne hu⟩

/-! ## An empty folder, and one where a folder is in the way -/

theorem way_o {t : FileTree} (hh : t.here = []) (hf : t.get? ["o"] = some .folder) (aim : Aim)
    (names : List (List Char)) :
    FileTree.Way t.get? aim ⟨false, 40, t.here, "o".toList :: names⟩ ⟨false, 40, ["o"], names⟩ := by
  have hadmits : FileTree.Admits aim false names := by simp [FileTree.Admits]
  rw [hh]
  exact .stride (.down rfl proper_o hadmits hf (by simp)) (.done _)

theorem bare_bareTree : Bare bareTree ⟨"o"⟩ ["o"] where
  leads := ⟨false, 40, way_o rfl rfl .target []⟩
  top := rfl
  empty loc hl hne := by
    have hroot : loc ≠ [] := by
      rintro rfl
      exact absurd (List.prefix_nil.mp hl) (by decide)
    have hother : (loc == ["o"]) = false := beq_false_of_ne hne
    simp [FileTree.entryAt?, bareTree, hroot, List.lookup_cons, hother]

theorem sayable_a : FileTree.Sayable ⟨"o/a.icode"⟩ :=
  ⟨utterable_a, by decide⟩

theorem sayable_a2 : FileTree.Sayable ⟨"o/a.2.icode"⟩ :=
  ⟨utterable_a2, by decide⟩

/-- These cases fail with the code that was saved, or could not be saved, for them. -/
theorem failsWithCode_unwritable {case : TestCase} {o : Outcome} {content : Bytes}
    (hcode : case.compilerCodes.contains 0 = true)
    (hs : o.stages = [⟨.compile, { stdout := content }⟩])
    (hv : o.verdict = .fail (.unprepared (scratchProblem unwritable .missing))) :
    FailsWithCode unwritable case o { stdout := content } where
  compiled := stage?_compile hs
  goes_on := ⟨hcode, rfl, by decide⟩
  fails := by rw [hv]; rfl

theorem Series.step_unwritable {st st' : RunState} {done : List (TestCase × Outcome)} {o : Outcome}
    {st'' : RunState} {ordinal : Nat} {case : TestCase}
    (h : Series twoCodes unwritable st done st')
    (hrun : run twoCodes unwritable ordinal case.name case st' = (o, st'')) :
    Series twoCodes unwritable st (done ++ [(case, o)]) st'' := by
  have hstep := Series.case ordinal case.name case h
    (by rw [attempt_unwritable]; exact .refl _ _)
  rwa [hrun] at hstep

/-- Two tests of one name both keep their code in a folder that was empty. -/
theorem namesakes_kept :
    ∃ done st', Series twoCodes unwritable (startingWith bareTree) done st' ∧
      Bare bareTree ⟨"o"⟩ ["o"] ∧ (∀ p ∈ st'.claimed, FileTree.Sayable p) ∧ done.length = 2 ∧
      ∀ x ∈ done, (∃ c, FailsWithCode unwritable x.1 x.2 c) ∧
        (∀ part ∈ foldersOf x.1.name, ¬IsCode part) ∧
        ∀ c, FailsWithCode unwritable x.1 x.2 c →
          ∃ p ∈ st'.claimed, x.2.artifact = some p ∧ st'.files.read p = .ok c.stdout := by
  let before := startingWith bareTree
  let between : RunState :=
    { surroundings := { files := firstTree }
      calls := [⟨.compile, compileRequest emptyCase, .after 0 (.ofSeconds 5), bareTree⟩]
      claimed := [⟨"o/a.icode"⟩] }
  have hi : invoke twoCodes .compile (compileRequest emptyCase) (.after 0 (.ofSeconds 5))
      before = (.ok { stdout := [1] }, called before _ before.surroundings) := rfl
  have hi' : invoke twoCodes .compile (compileRequest emptyCase) (.after 0 (.ofSeconds 5))
      between = (.ok { stdout := [2] }, called between _ between.surroundings) := rfl
  have hrun := @run_unwritable 1 emptyCase before _ [1] ⟨"o/a.icode"⟩ firstTree (by decide) hi rfl
    rfl claim_a (by decide) write_first
  have hrun' := @run_unwritable 2 emptyCase between _ [2] ⟨"o/a.2.icode"⟩ secondTree (by decide)
    hi' rfl rfl claim_a2 (by decide) write_second
  have hseries := (Series.step_unwritable .start hrun).step_unwritable hrun'
  have hnames : ∀ part ∈ foldersOf emptyCase.name, ¬IsCode part := by decide
  have hboth {x : TestCase × Outcome} {o o' : Outcome}
      (hx : x ∈ [] ++ [(emptyCase, o)] ++ [(emptyCase, o')]) :
      x = (emptyCase, o) ∨ x = (emptyCase, o') := by simpa using hx
  refine ⟨_, _, hseries, bare_bareTree, ?_, rfl, fun x hx => ⟨?_, ?_, ?_⟩⟩
  · exact List.forall_mem_cons.mpr ⟨sayable_a2, List.forall_mem_singleton.mpr sayable_a⟩
  · rcases hboth hx with rfl | rfl
    · exact ⟨_, failsWithCode_unwritable (by decide) rfl rfl⟩
    · exact ⟨_, failsWithCode_unwritable (by decide) rfl rfl⟩
  · rcases hboth hx with rfl | rfl
    · exact hnames
    · exact hnames
  · obtain ⟨-, hkept⟩ := artifacts_beside_each_other ⟨"o"⟩ [] twoCodes unwritable _ _ ["o"] _
    refine hkept hseries bare_bareTree (fun y hy _ => ?_) ?_ x hx
    · rcases hboth hy with rfl | rfl
      · exact hnames
      · exact hnames
    · exact List.forall_mem_cons.mpr ⟨sayable_a2, List.forall_mem_singleton.mpr sayable_a⟩

/-- The tests of which the first one asks for a folder where the second one has its artifact. -/
def nestedCase : TestCase :=
  { emptyCase with name := "a.icode/b" }

theorem claim_nested : Artifact.claim [] ⟨"o"⟩ "a.icode/b" 1 = ⟨"o/a.icode/b.icode"⟩ := by
  decide

theorem claim_beside :
    Artifact.claim [⟨"o/a.icode/b.icode"⟩] ⟨"o"⟩ "a" 2 = ⟨"o/a.icode"⟩ := by
  decide

theorem utterable_nested : Utterable ⟨"o/a.icode/b.icode"⟩ :=
  ⟨by decide, by decide, by decide⟩

theorem proper_nested : Proper "b.icode".toList :=
  ⟨by decide, by decide, by decide⟩

/-- The nested artifact is saved, and the folder above it has the other one's name. -/
theorem save_nested (content : Bytes) :
    ∃ t, Artifact.save bareTree ⟨"o/a.icode/b.icode"⟩ content = (t, true) ∧ t.here = [] ∧
      t.get? ["o"] = some .folder ∧ t.get? ["o", "a.icode"] = some .folder := by
  have hplain : ∀ n ∈ ["a.icode".toList] ++ ["b.icode".toList], Plain n :=
    List.forall_mem_cons.mpr ⟨⟨by decide, by simp [Path.isSlash], by decide, by decide⟩,
      List.forall_mem_singleton.mpr ⟨by decide, by simp [Path.isSlash], by decide, by decide⟩⟩
  have hproper : ∀ n ∈ ["a.icode".toList] ++ ["b.icode".toList], Proper n :=
    List.forall_mem_cons.mpr ⟨proper_a, List.forall_mem_singleton.mpr proper_nested⟩
  have hpath : (⟨"o"⟩ : Path).below (["a.icode".toList] ++ ["b.icode".toList]) =
      ⟨"o/a.icode/b.icode"⟩ := by decide
  have hroad : Road bareTree.get? ["o"] ["a.icode".toList] := by
    intro passed hne _
    left
    have hentry := bare_bareTree.empty _ (FileTree.prefix_along _ passed) (FileTree.along_ne hne _)
    rw [FileTree.get?, hentry]
    rfl
  obtain ⟨u, hpaved, hsave⟩ := FileTree.save_road bare_bareTree.leads bare_bareTree.top hroad rfl
    hplain hproper (by rw [hpath]; exact utterable_nested) content
  rw [hpath] at hsave
  have hnone : u.entryAt? ["o", "a.icode", "b.icode"] = none := hpaved.last rfl
  have hput := FileTree.opens_put_free hnone content Node.plainMode
  refine ⟨_, hsave, ?_, ?_, ?_⟩
  · exact (FileTree.here_put u _ _).trans hpaved.grown.here
  · exact hput.folder (hpaved.grown.opens.folder rfl)
  · exact hput.folder hpaved.folder

/-- No file is saved where a folder stands. -/
theorem save_in_place {t : FileTree} (hh : t.here = []) (ho : t.get? ["o"] = some .folder)
    (ha : t.get? ["o", "a.icode"] = some .folder) (content : Bytes) :
    Artifact.save t ⟨"o/a.icode"⟩ content = (t, false) := by
  have hadmits : FileTree.Admits .content false [] := by simp [FileTree.Admits]
  have hway := (way_o hh ho .content ["a.icode".toList]).trans
    (.stride (.down ho proper_a hadmits ha FileTree.folder_ne_link) (.done _))
  have hfind : t.find .content ⟨"o/a.icode"⟩ = .ok (.taken ["o", "a.icode"] .folder) := by
    exact FileTree.find_eq_ok_iff.mpr ⟨utterable_a, _, hway, .taken ha fun _ _ => rfl⟩
  have hwrite : t.write ⟨"o/a.icode"⟩ content = .error .isFolder := by
    rw [FileTree.write, hfind]
  have hparent : (⟨"o/a.icode"⟩ : Path).parent? = some ⟨"o"⟩ := by decide
  rw [Artifact.save, hparent]
  simp only [makeFolders_o hh ho, hwrite]

/-- The artifact of one test is above that of another one, and a test is left without its artifact
in a folder that was empty. -/
theorem code_folder_in_place :
    (∃ x ∈ claimEach ⟨"o"⟩ [] [("a.icode/b", 1), ("a", 2)],
      ∃ y ∈ claimEach ⟨"o"⟩ [] [("a.icode/b", 1), ("a", 2)], x.2.Above y.2) ∧
    ∃ done st', Series twoCodes unwritable (startingWith bareTree) done st' ∧
      Bare bareTree ⟨"o"⟩ ["o"] ∧ (∀ p ∈ st'.claimed, FileTree.Sayable p) ∧
      ∃ x ∈ done, ∃ c, FailsWithCode unwritable x.1 x.2 c ∧ x.2.artifact = none := by
  constructor
  · refine ⟨("a", ⟨"o/a.icode"⟩), ?_, ("a.icode/b", ⟨"o/a.icode/b.icode"⟩), ?_,
      [.name "b.icode".toList], List.cons_ne_nil _ _, by decide⟩
    · simp [claimEach, claim_nested, claim_beside]
    · simp [claimEach, claim_nested, claim_beside]
  · obtain ⟨t, hsave, hhere, ho, ha⟩ := save_nested [1]
    let before := startingWith bareTree
    let between : RunState :=
      { surroundings := { files := t }
        calls := [⟨.compile, compileRequest nestedCase, .after 0 (.ofSeconds 5), bareTree⟩]
        claimed := [⟨"o/a.icode/b.icode"⟩] }
    have hi : invoke twoCodes .compile (compileRequest nestedCase) (.after 0 (.ofSeconds 5))
        before = (.ok { stdout := [1] }, called before _ before.surroundings) := rfl
    have hi' : invoke twoCodes .compile (compileRequest emptyCase) (.after 0 (.ofSeconds 5))
        between = (.ok { stdout := [2] }, called between _ between.surroundings) := rfl
    have hrun := @run_of_save 1 nestedCase before _ [1] _ t true (by decide) hi claim_nested hsave
    have hrun' := @run_of_save 2 emptyCase between _ [2] _ t false (by decide) hi' claim_beside
      (save_in_place hhere ho ha [2])
    have hseries := (Series.step_unwritable .start hrun).step_unwritable hrun'
    refine ⟨_, _, hseries, bare_bareTree, ?_, _, List.mem_append_right _ List.mem_cons_self,
      { stdout := [2] }, failsWithCode_unwritable (by decide) rfl rfl, rfl⟩
    exact List.forall_mem_cons.mpr ⟨sayable_a, List.forall_mem_singleton.mpr
      ⟨utterable_nested, by decide⟩⟩

end Pipeline
end Conformance
