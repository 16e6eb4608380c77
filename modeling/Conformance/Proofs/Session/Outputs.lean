import Conformance.Proofs.Files.Spared
import Conformance.Proofs.Session.Refusal
import Conformance.Proofs.Success

/-!
# What a refusal leaves of earlier outputs

A session is refused before its first case or not at all. Whatever it is refused for, it has changed
no file, with one exception: once everything is checked and loaded, the log and the output folder of
an earlier run are given up, and only then the folder and the log of this run are made. If that
fails, the session is refused with the old outputs gone, while all other files are spared.
-/
namespace Conformance

open FileTree (Spares Reached)

namespace Config

variable {c : Config} {m : Machine} {t : FileTree}

/-- The tools that are tried before a run write nothing. -/
def TriesQuietly (c : Config) (m : Machine) : Prop :=
  ∀ p ∈ c.probes, ∀ deadline s, (m.run p.command p.request deadline s).2.files = s.files

theorem probe_files (p : Probe) (st : RunState)
    (h : ∀ deadline s, (m.run p.command p.request deadline s).2.files = s.files) :
    (probe m p st).2.files = st.files := by
  have hfiles := h (.after st.surroundings.now launchTime) st.surroundings
  rw [probe]
  revert hfiles
  rcases m.run p.command p.request (.after st.surroundings.now launchTime) st.surroundings with
    ⟨_ | _ | _, s⟩ <;> exact id

theorem probeAll_files (st : RunState) {ps : List Probe}
    (h : ∀ p ∈ ps, ∀ deadline s, (m.run p.command p.request deadline s).2.files = s.files) :
    (probeAll m st ps).2.files = st.files := by
  induction ps generalizing st with
  | nil => rfl
  | cons p ps ih =>
    obtain ⟨hp, hps⟩ := List.forall_mem_cons.mp h
    have hprobe := probe_files p st hp
    rw [probeAll]
    cases hresult : probe m p st with
    | mk fault st' =>
      rw [hresult] at hprobe
      cases fault with
      | some fault => exact hprobe
      | none => exact (ih st' hps).trans hprobe

/-- A place of an earlier run's outputs: where the log leads, or what the output folder holds. -/
def OutputPlace (c : Config) (t : FileTree) (loc : Location) : Prop :=
  (∃ node, t.find .name c.logFile = .ok (.taken loc node)) ∨ t.Reached c.outputFolder loc

theorem clearLog_eq_ok {u : FileTree} (h : c.clearLog t = .ok u) :
    u = t ∨ ∃ loc node, t.find .name c.logFile = .ok (.taken loc node) ∧ node ≠ .folder ∧
      u = t.erase loc := by
  rw [clearLog] at h
  split at h
  · split at h
    · rename_i t' hremove
      obtain rfl := Except.ok.inj h
      obtain ⟨loc, node, hfind, hfolder, -, hu⟩ := FileTree.removeFile_eq_ok hremove
      exact .inr ⟨loc, node, hfind, hfolder, hu⟩
    · cases h
  · exact .inl (Except.ok.inj h).symm

theorem clearOutput_spares (c : Config) (t : FileTree) :
    Spares (t.Reached c.outputFolder) t (c.clearOutput t).1 := by
  rw [clearOutput]
  split
  · exact FileTree.spares_removeFolder t c.outputFolder
  · exact .refl _ t

/-- Clearing the places of the outputs spares all other places, however far it comes. -/
theorem prepareOutputs_spares (c : Config) (t : FileTree) :
    Spares (c.OutputPlace t) t (c.prepareOutputs t).1 := by
  rw [prepareOutputs]
  cases hlog : c.clearLog t with
  | error fault => exact .refl _ t
  | ok u =>
    have hthinned : FileTree.Thinned t u ∧ Spares (c.OutputPlace t) t u := by
      rcases clearLog_eq_ok hlog with rfl | ⟨loc, node, hfind, -, rfl⟩
      · exact ⟨⟨rfl, fun _ _ h => h⟩, .refl _ u⟩
      · exact ⟨FileTree.thinned_keeping t (· != loc),
          FileTree.spares_erase t (.inl ⟨node, hfind⟩)⟩
    have houtput : Spares (c.OutputPlace t) u (c.clearOutput u).1 := by
      refine (clearOutput_spares c u).mono fun loc hreached => ?_
      obtain ⟨aim, top, node, hfind, hwithin⟩ := hreached
      exact .inr ⟨aim, top, node, hthinned.1.find hfind, hwithin⟩
    have hcleared := hthinned.2.trans houtput
    dsimp only
    cases hclear : c.clearOutput u with
    | mk v fault =>
      rw [hclear] at hcleared
      cases fault with
      | some fault => exact hcleared
      | none =>
        exact hcleared.trans ((FileTree.makeFolders_grown v c.outputFolder).spares _)

/-- The fault of one who gave up the outputs of an earlier run and could not make new ones. -/
def OutputFault (c : Config) (fault : Fault) : Prop :=
  ∃ e, fault = .io .removeOutput c.outputFolder e ∨ fault = .io .createOutput c.outputFolder e ∨
    fault = .io .createLog c.logFile e

theorem prepareOutputs_fault {fault : Fault} (h : (c.prepareOutputs t).2 = some fault) :
    (c.prepareOutputs t).1 = t ∨ c.OutputFault fault := by
  rw [prepareOutputs] at h ⊢
  cases hlog : c.clearLog t with
  | error f => exact .inl rfl
  | ok u =>
    right
    rw [hlog] at h
    dsimp only at h
    cases hclear : c.clearOutput u with
    | mk v failure =>
      rw [hclear] at h
      cases failure with
      | some f =>
        obtain rfl := Option.some.inj h
        rw [clearOutput] at hclear
        split at hclear
        · obtain ⟨e, -, rfl⟩ := Option.map_eq_some_iff.mp (congrArg Prod.snd hclear)
          exact ⟨e, .inl rfl⟩
        · cases congrArg Prod.snd hclear
      | none =>
        obtain ⟨e, -, rfl⟩ := Option.map_eq_some_iff.mp h
        exact ⟨e, .inr (.inl rfl)⟩

end Config

namespace Session

open CommandLine (Arguments)

variable {m : Machine} {c : Config} {quiet : Bool} {selection : Selection} {st : RunState}

/-- A run ends with a summary or breaks down: it is not refused. -/
theorem runPlan_exitCode (m : Machine) (c : Config) (quiet : Bool) (plan : Plan) (st : RunState) :
    (runPlan m c quiet plan st).exitCode ≠ refusedCode := by
  rw [runPlan]
  dsimp only
  split
  · exact (by decide : breakdownCode ≠ refusedCode)
  · rw [Plan.runInto_unfailing _ _ _ _ _ Report.Medium.unlimited_unfailing]
    dsimp only [exitCode]
    rw [Report.Summary.exitCode]
    split <;> decide

/-- The session was refused with the outputs of an earlier run given up: those of this run could not
be made. What was not among the former outputs is spared. -/
structure GivesUp (c : Config) (t : FileTree) (s : Session) : Prop where
  fault : ∃ fault, s.ending = .refused fault ∧ c.OutputFault fault
  blocked : (c.prepareOutputs t).2.isSome ∨ ∀ u, (c.prepareOutputs t).1.write c.logFile [] ≠ .ok u
  spared : Spares (c.OutputPlace t) t s.state.files

theorem prepareAndRun_refused {plan : Plan}
    (h : (prepareAndRun m c quiet plan st).exitCode = refusedCode) :
    (prepareAndRun m c quiet plan st).shown = [] ∧
      (prepareAndRun m c quiet plan st).state.calls = st.calls ∧
      ((prepareAndRun m c quiet plan st).state.files = st.files ∨
        GivesUp c st.files (prepareAndRun m c quiet plan st)) := by
  have hspares := c.prepareOutputs_spares st.files
  rw [prepareAndRun] at h ⊢
  cases hprepare : c.prepareOutputs st.files with
  | mk t failure =>
    rw [hprepare] at h hspares
    cases failure with
    | some fault =>
      refine ⟨rfl, rfl, ?_⟩
      have hfault := Config.prepareOutputs_fault (congrArg Prod.snd hprepare)
      rw [hprepare] at hfault
      refine hfault.imp id fun hfault => ⟨⟨fault, rfl, hfault⟩, .inl ?_, hspares⟩
      rw [hprepare]
      rfl
    | none =>
      dsimp only at h ⊢
      cases hwrite : t.write c.logFile [] with
      | ok u =>
        rw [hwrite] at h
        exact absurd h (runPlan_exitCode m c quiet plan (st.setFiles u))
      | error e =>
        refine ⟨rfl, rfl, .inr ⟨⟨_, rfl, e, .inr (.inr rfl)⟩, .inr fun u => ?_, hspares⟩⟩
        rw [hprepare, hwrite]
        intro hwritten
        cases hwritten

/-- What a session that was refused has done: tools were tried and no case was started. No file is
changed, or the configuration and all cases were in order and the former outputs are given up. -/
structure Withdrawn (m : Machine) (c : Config) (selection : Selection) (st : RunState)
    (s : Session) : Prop where
  shown : s.shown = []
  calls : s.state.calls = (afterChecks m c st).calls
  files : s.state.files = st.files ∨
    c.validate st.files = none ∧ (∃ cases, collect c st.files selection = .ok cases) ∧
      GivesUp c st.files s

theorem perform_withdrawn (hquiet : c.TriesQuietly m)
    (h : (perform m c quiet selection st).exitCode = refusedCode) :
    Withdrawn m c selection st (perform m c quiet selection st) := by
  have hfiles : (c.checkToolchain m st).2.files = st.files := Config.probeAll_files st hquiet
  have hafter : c.validate st.files = none → afterChecks m c st = (c.checkToolchain m st).2 := by
    intro hvalidate
    rw [afterChecks, hvalidate]
    rfl
  rw [perform] at h ⊢
  cases hvalidate : c.validate st.files with
  | some fault => exact ⟨rfl, by rw [afterChecks, hvalidate]; rfl, .inl rfl⟩
  | none =>
    have hcalls := hafter hvalidate
    rw [hvalidate] at h
    dsimp only at h ⊢
    cases htried : c.checkToolchain m st with
    | mk failure st' =>
      rw [htried] at h hfiles hcalls
      cases failure with
      | some fault => exact ⟨rfl, by rw [hcalls], .inl hfiles⟩
      | none =>
        dsimp only at h ⊢
        cases hcollect : collect c st'.files selection with
        | error fault => exact ⟨rfl, by rw [hcalls], .inl hfiles⟩
        | ok cases =>
          rw [hcollect] at h
          obtain ⟨hshown, hkept, hleft⟩ := prepareAndRun_refused h
          rw [hfiles] at hleft hcollect
          exact ⟨hshown, hkept.trans (by rw [hcalls]),
            hleft.imp id fun hgives => ⟨hvalidate, ⟨cases, hcollect⟩, hgives⟩⟩

/-- A command line that ends with a refusal has done nothing, or it asked for a run that was
withdrawn. -/
theorem refusal_before_outputs (m : Machine) (words : List String) (st : RunState)
    (hquiet : ∀ a c selection, Arguments.ofWords words = .ok a →
      request a st.files = .ok (c, selection) → c.TriesQuietly m)
    (h : (run m words st).exitCode = refusedCode) :
    (run m words st).shown = [] ∧ (run m words st).state = st ∨
      ∃ a c selection, Arguments.ofWords words = .ok a ∧
        request a st.files = .ok (c, selection) ∧ a.has .list = false ∧
        Withdrawn m c selection st (run m words st) := by
  rw [run] at h ⊢
  cases hwords : Arguments.ofWords words with
  | error fault =>
    rw [hwords] at h
    cases fault with
    | version => cases h
    | _ => exact .inl ⟨rfl, rfl⟩
  | ok a =>
    rw [hwords] at h
    dsimp only at h ⊢
    rw [ofArguments] at h ⊢
    cases hrequest : request a st.files with
    | error fault => exact .inl ⟨rfl, rfl⟩
    | ok asked =>
      obtain ⟨c, selection⟩ := asked
      rw [hrequest] at h
      dsimp only at h ⊢
      cases hlist : a.has .list with
      | true =>
        left
        rw [hlist, if_pos rfl] at h
        rw [if_pos rfl]
        cases hlisting : listing c st.files selection with
        | error fault => exact ⟨rfl, rfl⟩
        | ok shown =>
          rw [hlisting] at h
          cases h
      | false =>
        right
        rw [hlist, if_neg Bool.false_ne_true] at h
        rw [if_neg Bool.false_ne_true]
        exact ⟨a, c, selection, rfl, hrequest, hlist,
          perform_withdrawn (hquiet a c selection hwords hrequest) h⟩

/-! ## A log that cannot be made -/

theorem run_eq_perform {words : List String} {a : Arguments}
    (hwords : Arguments.ofWords words = .ok a) (hrequest : request a st.files = .ok (c, selection))
    (hlist : a.has .list = false) :
    run m words st = perform m c (a.has .quiet) selection st := by
  simp [run, hwords, ofArguments, hrequest, hlist]

theorem perform_eq_prepareAndRun {cases : List TestCase} (hvalidate : c.validate st.files = none)
    (htried : c.checkToolchain m st = (none, st))
    (hcollect : collect c st.files selection = .ok cases) :
    perform m c quiet selection st =
      prepareAndRun m c quiet (Plan.build cases c.extensions) st := by
  simp [perform, hvalidate, htried, hcollect]

theorem prepareAndRun_unwritable {plan : Plan} {t : FileTree} {e : FileError}
    (hprepare : c.prepareOutputs st.files = (t, none)) (hwrite : t.write c.logFile [] = .error e) :
    prepareAndRun m c quiet plan st =
      { ending := .refused (.io .createLog c.logFile e), state := st.setFiles t } := by
  simp [prepareAndRun, hprepare, hwrite]

/-- A folder with an artifact of an earlier run, and a test. -/
def formerTree : FileTree where
  entries := [(["o"], .folder), (["o", "a"], .file 0), (["t"], .file 1)]
  held := #[{ content := "old".toUTF8.toList, mode := Node.plainMode },
    { content := "//\nb".toUTF8.toList, mode := Node.plainMode }]

/-- The same without the artifact. -/
def emptiedTree : FileTree where
  entries := [(["o"], .folder), (["t"], .file 1)]
  held := formerTree.held
  known := by simp [formerTree]

def formerState : RunState :=
  emptyState.setFiles formerTree

/-- A command line that asks for a log in a folder that is missing. -/
def strayLogWords : List String :=
  ["-C", "-c", "c", "-l", "x/l", "-o", "o", "t"]

def strayLogArguments : Arguments where
  flags := [.compileOnly]
  values := [(.compiler, "c"), (.logFile, "x/l"), (.outputFolder, "o")]
  paths := [⟨"t"⟩]

def strayLogConfig : Config where
  compiler := ⟨"c"⟩
  logFile := ⟨"x/l"⟩
  outputFolder := ⟨"o"⟩
  mode := .compileOnly

theorem ofWords_strayLog : Arguments.ofWords strayLogWords = .ok strayLogArguments :=
  toOption_eq_some.mp (by decide)

theorem request_strayLog :
    request strayLogArguments formerTree = .ok (strayLogConfig, .paths [⟨"t"⟩]) := by
  have htime : Config.timeoutOfSeconds strayLogArguments.seconds = .ok (.ofSeconds 5) :=
    toOption_eq_some.mp (by decide +kernel)
  have hconfig : strayLogArguments.config = .ok strayLogConfig := by
    rw [Arguments.config, htime]
    rfl
  rw [request, hconfig]
  rfl

section
variable {t : FileTree} {node : Node}

theorem find_strayLog (aim : Aim) (hhere : t.here = []) (h : t.get? ["x"] = none) :
    t.find aim ⟨"x/l"⟩ = .error .missing :=
  have hsteps : FileTree.steps ⟨"x/l"⟩ = [['x'], ['l']] := by decide
  FileTree.find_missing ⟨by decide, by decide, by decide⟩ hsteps
    ⟨by decide, by decide, by decide⟩ (List.cons_ne_nil _ _) hhere h

theorem find_l (aim : Aim) (hhere : t.here = []) (h : t.get? ["l"] = none) :
    t.find aim ⟨"l"⟩ = .ok (.free ["l"]) :=
  FileTree.find_free ⟨by decide, by decide, by decide⟩ (by decide)
    ⟨by decide, by decide, by decide⟩ rfl hhere h

/-- One letter leads to what has it as its name. -/
theorem find_letter {c : Char} {aim : Aim} (hc : c = 'o' ∨ c = 't') (hhere : t.here = [])
    (h : t.get? [String.ofList [c]] = some node)
    (hlink : ∀ target, node ≠ .link target) :
    t.find aim ⟨String.ofList [c]⟩ = .ok (.taken [String.ofList [c]] node) := by
  have hpath : FileTree.Utterable ⟨String.ofList [c]⟩ ∧
      t.outset ⟨String.ofList [c]⟩ = ⟨false, 40, [], [[c]]⟩ ∧ FileTree.Proper [c] := by
    rw [FileTree.outset, hhere, ite_self]
    rcases hc with rfl | rfl
    · exact ⟨⟨by decide, by decide, by decide⟩, rfl, ⟨by decide, by decide, by decide⟩⟩
    · exact ⟨⟨by decide, by decide, by decide⟩, rfl, ⟨by decide, by decide, by decide⟩⟩
  obtain ⟨hutterable, houtset, hproper⟩ := hpath
  have hadmits : FileTree.Admits aim false [] := by simp [FileTree.Admits]
  have hslash : aim ≠ .name → false = true → node = .folder :=
    fun _ h => absurd h Bool.false_ne_true
  refine FileTree.find_eq_ok_iff.mpr
    ⟨hutterable, ⟨false, 40, [String.ofList [c]], []⟩, ?_, .taken h hslash⟩
  rw [houtset]
  exact .stride (.down rfl hproper hadmits h hlink) (.done _)

end

theorem find_formerFolder (aim : Aim) :
    formerTree.find aim ⟨"o"⟩ = .ok (.taken ["o"] .folder) :=
  find_letter (.inl rfl) rfl rfl fun _ => Node.noConfusion

theorem validate_strayLog : strayLogConfig.validate formerTree = none := by
  have hlog : formerTree.isFolder ⟨"x/l"⟩ = false :=
    FileTree.isFolder_of_none (FileTree.node?_of_error (find_strayLog .target rfl rfl))
  have houtput : formerTree.isFile ⟨"o"⟩ = false :=
    FileTree.isFile_of_folder (find_formerFolder .target)
  exact Config.validate_eq_none.mpr ⟨by decide, hlog, houtput, fun hexplicit =>
    absurd hexplicit (by decide), fun hfull => absurd hfull (by decide)⟩

theorem find_formerTest (aim : Aim) :
    formerTree.find aim ⟨"t"⟩ = .ok (.taken ["t"] (.plain "//\nb".toUTF8.toList)) :=
  find_letter (.inr rfl) rfl rfl fun _ => Node.noConfusion

theorem isFile_formerTest : formerTree.isFile ⟨"t"⟩ = true := by
  rw [FileTree.isFile, FileTree.node?_of_find (find_formerTest .target)]
  rfl

theorem node?_formerLog : formerTree.node? ⟨"l"⟩ = none :=
  FileTree.node?_of_free (find_l .target rfl rfl)

/-- A configuration with a log that is missing. -/
theorem validate_former {c : Config} (htime : c.timeout.isZero = false) (hlog : c.logFile = ⟨"l"⟩)
    (hfolder : c.outputFolder = ⟨"o"⟩)
    (hcompiler : Config.isExplicit c.compiler = true → formerTree.isPresent c.compiler = true)
    (hsupport : c.mode = .full → formerTree.isFile c.supportFile = true) :
    c.validate formerTree = none := by
  refine Config.validate_eq_none.mpr ⟨htime, ?_, ?_, hcompiler, hsupport⟩
  · rw [hlog]
    exact FileTree.isFolder_of_none node?_formerLog
  · rw [hfolder]
    exact FileTree.isFile_of_folder (find_formerFolder .target)

theorem load_formerTest :
    Discovery.load formerTree ⟨"t"⟩ = .ok [{ name := "t", origin := ⟨"t"⟩, source := "b" }] := by
  rw [Discovery.load, if_pos isFile_formerTest, Discovery.loadFile, FileTree.readText, FileTree.read,
    find_formerTest]
  exact toOption_eq_some.mp (by decide +kernel)

/-- The folder is removed with the artifact and made again. -/
theorem prepareOutputs_former {c : Config} (hfolder : c.outputFolder = ⟨"o"⟩)
    (habsent : formerTree.node? c.logFile = none) :
    c.prepareOutputs formerTree = (emptiedTree, none) := by
  have hlog : c.clearLog formerTree = .ok formerTree :=
    if_neg (by rw [FileTree.isPresent_of_none habsent]; decide)
  have hpresent : formerTree.isPresent ⟨"o"⟩ = true :=
    FileTree.isPresent_of_find (find_formerFolder .target)
  have hsteps : (FileTree.steps ⟨"o"⟩).getLast? = some ['o'] := by decide
  have hempty : (formerTree.eraseBelow ["o"]).removeEmptyFolder ⟨"o"⟩ =
      .ok ((formerTree.eraseBelow ["o"]).erase ["o"]) := by
    have hfind : (formerTree.eraseBelow ["o"]).find .name ⟨"o"⟩ = .ok (.taken ["o"] .folder) :=
      find_letter (.inl rfl) rfl rfl fun _ => Node.noConfusion
    rw [FileTree.removeEmptyFolder, hfind]
    dsimp only
    rw [hsteps]
    rfl
  have hremove : formerTree.removeFolder ⟨"o"⟩ =
      ((formerTree.eraseBelow ["o"]).erase ["o"], none) := by
    rw [FileTree.removeFolder, find_formerFolder]
    dsimp only
    rw [hempty]
  have hmake : ((formerTree.eraseBelow ["o"]).erase ["o"]).makeFolders ⟨"o"⟩ =
      (emptiedTree, none) := by
    have hfree : ((formerTree.eraseBelow ["o"]).erase ["o"]).find .name ⟨"o"⟩ =
        .ok (.free ["o"]) :=
      FileTree.find_free ⟨by decide, by decide, by decide⟩ (by decide)
        ⟨by decide, by decide, by decide⟩ rfl rfl rfl
    have hmade : ((formerTree.eraseBelow ["o"]).erase ["o"]).makeFolder ⟨"o"⟩ =
        .ok emptiedTree := by
      rw [FileTree.makeFolder, hfree]
      rfl
    rw [FileTree.makeFolders, FileTree.makeFoldersWithin, if_neg (by decide), hmade]
  have houtput : c.clearOutput formerTree =
      ((formerTree.eraseBelow ["o"]).erase ["o"], none) := by
    rw [Config.clearOutput, hfolder, if_pos hpresent, hremove]
    rfl
  rw [Config.prepareOutputs, hlog]
  dsimp only
  rw [houtput]
  dsimp only
  rw [hfolder, hmake]
  rfl

theorem run_strayLog :
    run idleMachine strayLogWords formerState =
      { ending := .refused (.io .createLog ⟨"x/l"⟩ .missing)
        state := formerState.setFiles emptiedTree } := by
  have hcollect : collect strayLogConfig formerState.files (.paths [⟨"t"⟩]) =
      .ok [{ name := "t", origin := ⟨"t"⟩, source := "b" }] := by
    have hload : Discovery.load formerState.files ⟨"t"⟩ = _ := load_formerTest
    simp only [collect, Selection.resolvePaths, hload]
    rfl
  have hvalidate : strayLogConfig.validate formerState.files = none := validate_strayLog
  have habsent : formerTree.node? strayLogConfig.logFile = none :=
    FileTree.node?_of_error (find_strayLog .target rfl rfl)
  have hprepare : strayLogConfig.prepareOutputs formerState.files = (emptiedTree, none) :=
    prepareOutputs_former rfl habsent
  have hwrite : emptiedTree.write strayLogConfig.logFile [] = .error .missing := by
    rw [strayLogConfig, FileTree.write, find_strayLog .content rfl rfl]
  rw [run_eq_perform ofWords_strayLog request_strayLog rfl,
    perform_eq_prepareAndRun hvalidate rfl hcollect, prepareAndRun_unwritable hprepare hwrite]
  rfl

theorem emptiedTree_ne : emptiedTree ≠ formerTree := by
  intro h
  have hlost : emptiedTree.get? ["o", "a"] = none := rfl
  rw [h] at hlost
  cases hlost

/-- The log cannot be made, and the artifact of the earlier run is gone. -/
theorem artifact_given_up :
    (run idleMachine strayLogWords formerState).exitCode = refusedCode ∧
      (∃ c, GivesUp c formerTree (run idleMachine strayLogWords formerState)) ∧
      (run idleMachine strayLogWords formerState).state.files.get? ["o", "a"] = none := by
  have hcode : (run idleMachine strayLogWords formerState).exitCode = refusedCode := by
    rw [run_strayLog]
    rfl
  have hchanged : (run idleMachine strayLogWords formerState).state.files ≠ formerTree := by
    rw [run_strayLog]
    exact emptiedTree_ne
  have hquiet : ∀ a c selection, Arguments.ofWords strayLogWords = .ok a →
      request a formerState.files = .ok (c, selection) → c.TriesQuietly idleMachine :=
    fun _ _ _ _ _ _ _ _ _ => rfl
  refine ⟨hcode, ?_, by rw [run_strayLog]; rfl⟩
  rcases refusal_before_outputs idleMachine strayLogWords formerState hquiet hcode with
    hnothing | ⟨a, c, selection, -, -, -, hwithdrawn⟩
  · exact absurd (congrArg RunState.files hnothing.2) hchanged
  · exact ⟨c, (hwithdrawn.files.resolve_left hchanged).2.2⟩

/-- That a refusal leaves all files as they were fails. -/
theorem refusal_without_artifact :
    ¬∀ (m : Machine) (words : List String) (st : RunState),
      (∀ a c selection, Arguments.ofWords words = .ok a →
        request a st.files = .ok (c, selection) → c.TriesQuietly m) →
      (run m words st).exitCode = refusedCode → (run m words st).state.files = st.files := by
  intro h
  have hsame := h idleMachine strayLogWords formerState (fun _ _ _ _ _ _ _ _ _ => rfl)
    (by rw [run_strayLog]; rfl)
  rw [run_strayLog] at hsame
  exact emptiedTree_ne hsame

end Session
end Conformance
