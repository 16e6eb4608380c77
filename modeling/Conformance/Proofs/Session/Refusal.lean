import Conformance.Proofs.Files.Contents
import Conformance.Proofs.Run.Account
import Conformance.Session

/-!
# Refusals before a run

A session that is refused before its plan is run shows nothing and changes nothing by itself. It may
have started tools before, though: those that the mode needs besides the compiler are tried once, to
see whether they can be started, and only after that the cases are loaded. So a selection that
cannot be loaded is refused without any call only where the mode has nothing to try or the
configuration is refused before.
-/
namespace Conformance

namespace Config

variable {c : Config} {st : RunState} {t : FileTree}

/-- What a configuration is accepted for. -/
structure Accepted (c : Config) (t : FileTree) : Prop where
  time : c.timeout.isZero = false
  log : t.isFolder c.logFile = false
  output : t.isFile c.outputFolder = false
  compiler : isExplicit c.compiler = true → t.isPresent c.compiler = true
  supportFile : c.mode = .full → t.isFile c.supportFile = true

theorem validate_eq_none : c.validate t = none ↔ c.Accepted t := by
  constructor
  · intro h
    unfold validate at h
    split_ifs at h with htime hlog houtput hcompiler hsupport
    exact ⟨by simpa using htime, by simpa using hlog, by simpa using houtput,
      by simpa using hcompiler, by simpa using hsupport⟩
  · intro h
    have hcompiler : (isExplicit c.compiler && !t.isPresent c.compiler) = false := by
      simpa using h.compiler
    have hsupport : (c.mode = .full && !t.isFile c.supportFile) = false := by
      simpa using h.supportFile
    simp [validate, h.time, h.log, h.output, hcompiler, hsupport]

/-- Why a configuration is refused. -/
inductive Refused (c : Config) (t : FileTree) : ConfigFault → Prop
  | time (zero : c.timeout.isZero = true) : Refused c t .noTime
  | log (folder : t.isFolder c.logFile = true) : Refused c t (.logIsFolder c.logFile)
  | output (file : t.isFile c.outputFolder = true) : Refused c t (.outputIsFile c.outputFolder)
  | compiler (explicit : isExplicit c.compiler = true) (absent : t.isPresent c.compiler = false) :
      Refused c t (.noCompiler c.compiler)
  | supportFile (full : c.mode = .full) (absent : t.isFile c.supportFile = false) :
      Refused c t (.noSupportFile c.supportFile)

theorem refused_of_validate {fault : ConfigFault} (h : c.validate t = some fault) :
    c.Refused t fault := by
  unfold validate at h
  split_ifs at h with htime hlog houtput hcompiler hsupport <;> obtain rfl := Option.some.inj h
  · exact .time htime
  · exact .log hlog
  · exact .output houtput
  · have hboth : isExplicit c.compiler = true ∧ t.isPresent c.compiler = false := by
      simpa using hcompiler
    exact .compiler hboth.1 hboth.2
  · have hboth : c.mode = .full ∧ t.isFile c.supportFile = false := by simpa using hsupport
    exact .supportFile hboth.1 hboth.2

/-- Of which tool a probe asks what. -/
def Probe.asks (p : Probe) : Stage × Request :=
  (p.stage, p.request)

theorem probe_calls (m : Machine) (p : Probe) (st : RunState) :
    ∃ call : Call, (probe m p st).2.calls = st.calls ++ [call] ∧
      (call.stage, call.request) = p.asks := by
  refine ⟨⟨p.stage, p.request, .after st.surroundings.now launchTime, st.files⟩, ?_, rfl⟩
  rw [probe]
  rcases m.run p.command p.request (.after st.surroundings.now launchTime) st.surroundings with
    ⟨_ | _ | _, s⟩ <;> rfl

/-- Tools are tried in order, each once at most and the first one always. If none of them is found
unusable, all are tried. -/
theorem probeAll_calls (m : Machine) (st : RunState) (ps : List Probe) :
    ∃ made, (probeAll m st ps).2.calls = st.calls ++ made ∧
      made.map (fun call => (call.stage, call.request)) <+: ps.map Probe.asks ∧
      (made = [] ↔ ps = []) ∧ ((probeAll m st ps).1 = none → made.length = ps.length) := by
  induction ps generalizing st with
  | nil => exact ⟨[], by simp [probeAll], List.prefix_rfl, by simp, fun _ => rfl⟩
  | cons p ps ih =>
    rw [probeAll]
    obtain ⟨call, hcalls, hasked⟩ := probe_calls m p st
    cases hp : probe m p st with
    | mk fault st' =>
      rw [hp] at hcalls
      cases fault with
      | some fault =>
        refine ⟨[call], hcalls, ?_, by simp, nofun⟩
        simp [hasked]
      | none =>
        obtain ⟨made, hmade, hprefix, -, hall⟩ := ih st'
        refine ⟨call :: made, ?_, ?_, by simp, fun h => ?_⟩
        · rw [hmade, hcalls, List.append_assoc, List.singleton_append]
        · simpa [hasked] using hprefix
        · rw [List.length_cons, hall h, List.length_cons]

theorem probes_eq_nil : c.probes = [] ↔ c.mode = .compileOnly := by
  cases h : c.mode <;> simp [probes, h]

end Config

namespace Session

open CommandLine (Arguments)

/-- What the checks of a configuration leave. No tool is tried if the configuration is refused. -/
def afterChecks (m : Machine) (c : Config) (st : RunState) : RunState :=
  if (c.validate st.files).isSome then st else (c.checkToolchain m st).2

/-- A session that was refused with nothing done but its checks. -/
structure RefusedByChecks (m : Machine) (c : Config) (st : RunState) (s : Session) : Prop where
  exitCode : s.exitCode = refusedCode
  shown : s.shown = []
  state : s.state = afterChecks m c st
  /-- Tools were tried in order, each once at most, and none of them only if the mode has none to
  try or the configuration was refused. -/
  calls : ∃ made, s.state.calls = st.calls ++ made ∧
    made.map (fun call => (call.stage, call.request)) <+: c.probes.map Config.Probe.asks ∧
    (made = [] ↔ c.mode = .compileOnly ∨ (c.validate st.files).isSome)

variable {m : Machine} {c : Config} {quiet : Bool} {selection : Selection} {st : RunState}

theorem afterChecks_calls (m : Machine) (c : Config) (st : RunState) :
    ∃ made, (afterChecks m c st).calls = st.calls ++ made ∧
      made.map (fun call => (call.stage, call.request)) <+: c.probes.map Config.Probe.asks ∧
      (made = [] ↔ c.mode = .compileOnly ∨ (c.validate st.files).isSome) := by
  rw [afterChecks]
  by_cases hv : (c.validate st.files).isSome
  · exact ⟨[], by simp [hv]⟩
  · obtain ⟨made, hcalls, hprefix, hnil, -⟩ := Config.probeAll_calls m st c.probes
    refine ⟨made, ?_, hprefix, ?_⟩
    · rw [if_neg hv]
      exact hcalls
    · rw [hnil, Config.probes_eq_nil, or_iff_left hv]

theorem refusedByChecks (fault : Fault) {st' : RunState} (h : st' = afterChecks m c st) :
    RefusedByChecks m c st { ending := .refused fault, state := st' } := by
  subst h
  exact ⟨rfl, rfl, rfl, afterChecks_calls m c st⟩

/-- A selection whose cases cannot be loaded, from the files as the tools that were tried left them,
is refused. -/
theorem perform_refused (quiet : Bool) {fault : Fault}
    (h : collect c (c.checkToolchain m st).2.files selection = .error fault) :
    RefusedByChecks m c st (perform m c quiet selection st) := by
  rw [perform]
  cases hv : c.validate st.files with
  | some f => exact refusedByChecks _ (by simp [afterChecks, hv])
  | none =>
    cases hc : c.checkToolchain m st with
    | mk f st' =>
      have hst : st' = afterChecks m c st := by simp [afterChecks, hv, hc]
      rw [hc] at h
      cases f with
      | some f => exact refusedByChecks _ hst
      | none =>
        simp only [h]
        exact refusedByChecks _ hst

/-- What a command line in a running mode does if the cases of its selection cannot be loaded, and
what any command line does if already the list of selected paths cannot be read. -/
theorem refusal_of_loading {fault : Fault}
    (h : collect c (c.checkToolchain m st).2.files selection = .error fault) :
    RefusedByChecks m c st (perform m c quiet selection st) ∧
    ∀ (words : List String) (a : Arguments), Arguments.ofWords words = .ok a →
      (a.has .list = false → a.has .quiet = quiet → request a st.files = .ok (c, selection) →
        RefusedByChecks m c st (run m words st)) ∧
      ∀ f, request a st.files = .error f →
        run m words st = { ending := .refused f, state := st } := by
  have hperform := perform_refused quiet h
  refine ⟨hperform, fun words a hwords => ⟨fun hlist hquiet hrequest => ?_, fun f hf => ?_⟩⟩
  · have hrun : run m words st = perform m c quiet selection st := by
      simp [run, hwords, ofArguments, hrequest, hlist, hquiet]
    rwa [hrun]
  · simp [run, hwords, ofArguments, hf]

/-- A machine whose programs end at once and do nothing. -/
def idleMachine : Machine where
  run _ _ _ s := (.completed {}, s)

/-- A configuration with which only the interpreter is tried. -/
def interpretConfig : Config where
  compiler := ⟨"c"⟩
  logFile := ⟨"l"⟩
  outputFolder := ⟨"o"⟩
  mode := .interpretOnly

theorem node?_letter {x : Char} (hx : x = 'l' ∨ x = 'o' ∨ x = 't') :
    emptyState.files.node? ⟨String.ofList [x]⟩ = none := by
  have hsteps : FileTree.steps ⟨String.ofList [x]⟩ = [[x]] := by
    rcases hx with rfl | rfl | rfl <;> decide
  have hname : FileTree.Proper [x] := by
    rcases hx with rfl | rfl | rfl <;> exact ⟨by decide, by decide, by decide⟩
  rcases hx with rfl | rfl | rfl <;>
    rw [FileTree.node?, FileTree.find_free ⟨by decide, by decide, by decide⟩ hsteps hname
      (by decide) rfl rfl]

theorem validate_interpretConfig : interpretConfig.validate emptyState.files = none := by
  have hlog : emptyState.files.isFolder ⟨"l"⟩ = false :=
    FileTree.isFolder_of_none (node?_letter (x := 'l') (by decide))
  have houtput : emptyState.files.isFile ⟨"o"⟩ = false :=
    FileTree.isFile_of_none (node?_letter (x := 'o') (by decide))
  exact Config.validate_eq_none.mpr ⟨by decide, hlog, houtput, by decide, nofun⟩

theorem afterChecks_interpretConfig :
    (afterChecks idleMachine interpretConfig emptyState).calls.length = 1 := by
  rw [afterChecks, validate_interpretConfig]
  rfl

theorem collect_missing (c : Config) :
    collect c emptyState.files (.paths [⟨"t"⟩]) = .error (.selection (.neitherFileNorFolder ⟨"t"⟩)) := by
  have hnode := node?_letter (x := 't') (by decide)
  simp [collect, Selection.resolvePaths, Discovery.load, FileTree.isFile_of_none hnode,
    FileTree.isFolder_of_none hnode]

/-- The interpreter is tried although there is nothing to run: the refusal comes after a call. -/
theorem refused_after_call :
    collect interpretConfig (interpretConfig.checkToolchain idleMachine emptyState).2.files
        (.paths [⟨"t"⟩]) = .error (.selection (.neitherFileNorFolder ⟨"t"⟩)) ∧
      RefusedByChecks idleMachine interpretConfig emptyState
        (perform idleMachine interpretConfig false (.paths [⟨"t"⟩]) emptyState) ∧
      (perform idleMachine interpretConfig false (.paths [⟨"t"⟩]) emptyState).state.calls.length = 1 := by
  have hmissing : collect interpretConfig
      (interpretConfig.checkToolchain idleMachine emptyState).2.files (.paths [⟨"t"⟩]) = .error _ :=
    collect_missing interpretConfig
  have hrefused : RefusedByChecks idleMachine interpretConfig emptyState
      (perform idleMachine interpretConfig false (.paths [⟨"t"⟩]) emptyState) :=
    (refusal_of_loading hmissing).1
  refine ⟨hmissing, hrefused, ?_⟩
  rw [hrefused.state, afterChecks_interpretConfig]

/-- That nothing is called before a selection is refused fails. -/
theorem called_before_refusal :
    ¬∀ (m : Machine) (c : Config) (quiet : Bool) (selection : Selection) (st : RunState)
        (fault : Fault), collect c st.files selection = .error fault →
      (perform m c quiet selection st).exitCode = refusedCode ∧
        (perform m c quiet selection st).state.calls = st.calls := by
  intro h
  obtain ⟨-, hcalls⟩ := h idleMachine interpretConfig false (.paths [⟨"t"⟩]) emptyState _
    (collect_missing interpretConfig)
  have hmissing : collect interpretConfig
      (interpretConfig.checkToolchain idleMachine emptyState).2.files (.paths [⟨"t"⟩]) = .error _ :=
    collect_missing interpretConfig
  have hstate := (perform_refused false hmissing).state
  have hlength := afterChecks_interpretConfig
  rw [← hstate, hcalls] at hlength
  cases hlength

end Session
end Conformance
