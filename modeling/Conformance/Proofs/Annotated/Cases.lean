import Conformance.Annotated.Cases
import Conformance.Proofs.Annotated.Header
import Conformance.Proofs.Fresh

/-!
# What annotated files are accepted, and what they yield

A file is accepted if it can be cut, its header is well formed, something stands behind the cut and
its scenarios can be expanded. Its cases say what its pragmas say, with what stands behind the cut
as their source; nothing there is read.
-/
namespace Conformance.Annotated

/-- The codes that a keyword gives in a header; zero only if it does not stand there. -/
def CodesGiven (keyword : String) (header : List (List Char)) (set : CodeSet) : Prop :=
  argsOf keyword header = [] ∧ set.Of [0] ∨ ∃ args ∈ argsOf keyword header, ReadsCodes args set

/-- The input files of the scenarios. -/
def inputFiles (header : List (List Char)) : List String :=
  (argsOf "scenario" header).filterMap List.head?

/-- What a scenario is called by its input file. -/
def stemOf (file : String) : String :=
  match (Path.mk file).stem? with
  | some stem => String.ofList stem
  | none => file

/-- Scenarios expand if the program is to compile cleanly, their inputs can be read, and no two of
them are called alike. -/
structure Expandable (files : FileTree) (origin : Path) (header : List (List Char)) : Prop where
  compiler : ∀ args ∈ argsOf "compiler" header, ∀ a ∈ args, Decimal.WritesCode a.toList 0
  readable : ∀ file ∈ inputFiles header,
    ∃ input, files.readText (origin.parent.join ⟨file⟩) = .ok input
  distinct : ((inputFiles header).map stemOf).Nodup

/-- What is asked of the two parts of a file. -/
structure Accepted (files : FileTree) (origin : Path) (header : List (List Char))
    (body : List Char) : Prop extends SoundPragmas header where
  lines : ∀ l ∈ header, IsHeaderLine l
  body : ∃ c ∈ body, Text.isBlank c = false
  consistent : ∀ n ∈ (argsOf "extensions+" header).flatten,
    n ∉ (argsOf "extensions-" header).flatten
  expands : argsOf "scenario" header ≠ [] → Expandable files origin header

/-- What all cases of a file have in common. -/
structure Shares (origin : Path) (header : List (List Char)) (body : List Char) (t : TestCase) :
    Prop where
  description : t.description = none
  origin : t.origin = origin
  source : t.source = String.ofList body
  compilerCodes : CodesGiven "compiler" header t.compilerCodes
  required : t.required.Of (argsOf "extensions+" header).flatten
  forbidden : t.forbidden.Of (argsOf "extensions-" header).flatten

/-- The case of a scenario line. -/
def ScenarioCase (files : FileTree) (name : String) (origin : Path) (header : List (List Char))
    (body : List Char) (args : List String) (t : TestCase) : Prop :=
  ∃ file codes input, args = file :: codes ∧ Shares origin header body t ∧
    t.name = name ++ "::" ++ stemOf file ∧
    files.readText (origin.parent.join ⟨file⟩) = .ok input ∧ t.input = some input ∧
    (codes = [] ∧ CodesGiven "interpret" header t.interpretCodes ∨
      ReadsCodes codes t.interpretCodes)

/-- The cases are what the two parts of a file say: one case, or one for each scenario line. -/
inductive Describes (files : FileTree) (name : String) (origin : Path) (header : List (List Char))
    (body : List Char) : List TestCase → Prop
  | plain {t : TestCase} : argsOf "scenario" header = [] → Shares origin header body t →
      t.name = name → t.input = none → CodesGiven "interpret" header t.interpretCodes →
      Describes files name origin header body [t]
  | scenarios {cases : List TestCase} : argsOf "scenario" header ≠ [] →
      List.Forall₂ (ScenarioCase files name origin header body) (argsOf "scenario" header) cases →
      Describes files name origin header body cases

theorem ReadsCodes.unique {args : List String} {s t : CodeSet} (hs : ReadsCodes args s)
    (ht : ReadsCodes args t) : s = t :=
  Except.ok.inj (((codes_eq_ok "").mpr hs).symm.trans ((codes_eq_ok "").mpr ht))

/-- The codes given are those in the slot, or else zero only. -/
theorem codesGiven_iff {keyword : String} {header : List (List Char)} {slot : Option CodeSet}
    (h : List.Forall₂ ReadsCodes (argsOf keyword header) slot.toList) {set : CodeSet} :
    CodesGiven keyword header set ↔ set = slot.getD .success := by
  rw [CodesGiven]
  cases slot with
  | none =>
    rw [List.forall₂_nil_right_iff.mp h]
    constructor
    · rintro (⟨-, hset⟩ | ⟨args, hargs, -⟩)
      · exact hset.unique CodeSet.success_of
      · cases hargs
    · rintro rfl
      exact .inl ⟨rfl, CodeSet.success_of⟩
  | some s =>
    obtain ⟨args, others, hs, hothers, hargs⟩ := List.forall₂_cons_right_iff.mp h
    obtain rfl := List.forall₂_nil_right_iff.mp hothers
    rw [hargs]
    constructor
    · rintro (⟨hnil, -⟩ | ⟨args', hargs', hset⟩)
      · cases hnil
      · obtain rfl := List.mem_singleton.mp hargs'
        exact hset.unique hs
    · rintro rfl
      exact .inr ⟨args, List.mem_cons_self, hs⟩

/-- The codes in a slot are zero only exactly if all arguments write zero. -/
theorem isSuccessOnly_getD {given : List (List String)} {slot : Option CodeSet}
    (h : List.Forall₂ ReadsCodes given slot.toList) :
    (slot.getD .success).isSuccessOnly = true ↔
      ∀ args ∈ given, ∀ a ∈ args, Decimal.WritesCode a.toList 0 := by
  cases slot with
  | none =>
    obtain rfl := List.forall₂_nil_right_iff.mp h
    exact iff_of_true rfl nofun
  | some s =>
    obtain ⟨args, others, ⟨cs, hcs, hne, hs⟩, hothers, rfl⟩ := List.forall₂_cons_right_iff.mp h
    obtain rfl := List.forall₂_nil_right_iff.mp hothers
    rw [List.forall_mem_singleton, Option.getD_some, CodeSet.isSuccessOnly_iff hs hne]
    constructor
    · intro hzero a ha
      obtain ⟨n, hn, hwrites⟩ := exists_of_forall₂ hcs ha
      rwa [hzero n hn] at hwrites
    · intro hzero n hn
      obtain ⟨a, ha, hwrites⟩ := exists_of_forall₂ hcs.flip hn
      exact Decimal.WritesCode.unique hwrites (hzero a ha)

theorem features_of {given : List (List String)} {slot : Option FeatureSet}
    (h : List.Forall₂ ReadsFeatures given slot.toList) :
    (slot.getD .empty).Of given.flatten := by
  cases slot with
  | none =>
    rw [List.forall₂_nil_right_iff.mp h]
    exact FeatureSet.empty_of
  | some s =>
    obtain ⟨args, others, hs, hothers, rfl⟩ := List.forall₂_cons_right_iff.mp h
    obtain rfl := List.forall₂_nil_right_iff.mp hothers
    simpa using hs.2

theorem inputFiles_eq {header : List (List Char)} {pragmas : List ScenarioPragma}
    (h : List.Forall₂ ReadsScenario (argsOf "scenario" header) pragmas) :
    inputFiles header = pragmas.map (·.inputFile) := by
  have hheads : (argsOf "scenario" header).map List.head? =
      pragmas.map fun p => some p.inputFile := by
    refine map_eq_of_forall₂ (h.imp fun args p hp => ?_)
    obtain ⟨codes, rfl, -⟩ := hp
    rfl
  have hmap := congrArg (List.filterMap id) hheads
  simpa [inputFiles, List.filterMap_map, Function.comp_def] using hmap

theorem scenarioNames_eq {header : List (List Char)} {pragmas : List ScenarioPragma}
    (h : List.Forall₂ ReadsScenario (argsOf "scenario" header) pragmas) :
    pragmas.map scenarioName = (inputFiles header).map stemOf := by
  rw [inputFiles_eq h, List.map_map]
  rfl

/-- The base case becomes a case of a scenario, whose input is read. -/
def Expanded (files : FileTree) (base : TestCase) (p : ScenarioPragma) (t : TestCase) : Prop :=
  ∃ input, files.readText (inputPath base.origin p) = .ok input ∧
    base.forScenario
      { name := scenarioName p, input, interpretCodes := p.codes.getD base.interpretCodes } = t

theorem expandAfter_cons (files : FileTree) (source : String) (base : TestCase)
    (seen : List String) (p : ScenarioPragma) (pragmas : List ScenarioPragma) :
    expandAfter files source base seen (p :: pragmas) =
      match files.readText (inputPath base.origin p) with
      | .error e =>
        .error (faultAt source p.span
          (.definition (.unreadableInput (inputPath base.origin p) e)))
      | .ok input =>
        if seen.contains (scenarioName p) then
          .error (faultAt source p.span (.definition (.repeatedScenario (scenarioName p))))
        else
          (expandAfter files source base (scenarioName p :: seen) pragmas).map
            (base.forScenario { name := scenarioName p, input
                                interpretCodes := p.codes.getD base.interpretCodes } :: ·) := by
  exact rfl

/-- Scenarios expand one by one, as long as no name repeats. -/
theorem expandAfter_eq_ok {files : FileTree} {source : String} {base : TestCase}
    {seen : List String} {pragmas : List ScenarioPragma} {cases : List TestCase} :
    expandAfter files source base seen pragmas = .ok cases ↔
      Fresh (pragmas.map scenarioName) seen ∧
        List.Forall₂ (Expanded files base) pragmas cases := by
  induction pragmas generalizing seen cases with
  | nil =>
    have hnil : expandAfter files source base seen [] = .ok [] := rfl
    simp [hnil, eq_comm]
  | cons p pragmas ih =>
    rw [expandAfter_cons, List.map_cons, fresh_cons, List.forall₂_cons_left_iff]
    simp only [Expanded] at ih ⊢
    cases files.readText (inputPath base.origin p) with
    | error e => simp
    | ok input =>
      by_cases hseen : scenarioName p ∈ seen
      · simp [hseen]
      · simp only [List.contains_iff_mem, hseen, if_false, not_false_eq_true, true_and, map_eq_ok,
          ih, Except.ok.injEq, exists_eq_left']
        constructor
        · rintro ⟨others, ⟨hfresh, hothers⟩, rfl⟩
          exact ⟨hfresh, _, others, rfl, hothers, rfl⟩
        · rintro ⟨hfresh, t, others, rfl, hothers, rfl⟩
          exact ⟨others, ⟨hfresh, hothers⟩, rfl⟩

/-- What is reported otherwise stands on the line of a scenario. -/
theorem expandAfter_eq_error {files : FileTree} {source : String} {base : TestCase}
    {seen : List String} {pragmas : List ScenarioPragma} {fault : Fault}
    (h : expandAfter files source base seen pragmas = .error fault) :
    ∃ p ∈ pragmas, ∃ cause, fault = faultAt source p.span (.definition cause) := by
  induction pragmas generalizing seen with
  | nil => cases h
  | cons p pragmas ih =>
    rw [expandAfter_cons] at h
    split at h
    · exact ⟨p, List.mem_cons_self, _, (Except.error.inj h).symm⟩
    · split at h
      · exact ⟨p, List.mem_cons_self, _, (Except.error.inj h).symm⟩
      · obtain ⟨q, hq, hfault⟩ := ih (map_eq_error.mp h)
        exact ⟨q, List.mem_cons_of_mem p hq, hfault⟩

theorem expand_eq_error {files : FileTree} {source : String} {base : TestCase}
    {pragmas : List ScenarioPragma} {fault : Fault}
    (h : expand files source base pragmas = .error fault) :
    ∃ p ∈ pragmas, ∃ cause, fault = faultAt source p.span (.definition cause) := by
  cases pragmas with
  | nil => cases h
  | cons p pragmas =>
    rw [expand] at h
    split at h
    · exact expandAfter_eq_error h
    · exact ⟨p, List.mem_cons_self, _, (Except.error.inj h).symm⟩

section

variable {files : FileTree} {name source : String} {origin : Path} {h : Header}
  {header : List (List Char)} {body : List Char}

/-- What the cases of a file share leaves open what they are called, what they are given and what is
expected of them. -/
theorem shares_iff (hof : h.Of header) (name : String) (origin : Path) (body : List Char)
    {t : TestCase} {n : String} {input : Option String} {codes : CodeSet} :
    (Shares origin header body t ∧ t.name = n ∧ t.input = input ∧ t.interpretCodes = codes) ↔
      { baseCase name origin h body with name := n, input, interpretCodes := codes } = t := by
  constructor
  · rintro ⟨hshares, rfl, rfl, rfl⟩
    have hcompiler := (codesGiven_iff hof.compiler).mp hshares.compilerCodes
    have hrequired := hshares.required.unique (features_of hof.required)
    have hforbidden := hshares.forbidden.unique (features_of hof.forbidden)
    cases t
    obtain ⟨rfl, rfl, rfl, -, -, -⟩ := hshares
    simp only at hcompiler hrequired hforbidden
    rw [hcompiler, hrequired, hforbidden]
    rfl
  · rintro rfl
    refine ⟨⟨rfl, rfl, rfl, ?_, features_of hof.required, features_of hof.forbidden⟩, rfl, rfl, rfl⟩
    exact (codesGiven_iff hof.compiler).mpr rfl

theorem scenarioCase_iff (hof : h.Of header) {args : List String} {p : ScenarioPragma}
    (hp : ReadsScenario args p) {t : TestCase} :
    ScenarioCase files name origin header body args t ↔
      Expanded files (baseCase name origin h body) p t := by
  obtain ⟨codes, rfl, hcodes⟩ := hp
  have hinterpret : ∀ set, (codes = [] ∧ CodesGiven "interpret" header set ∨ ReadsCodes codes set) ↔
      set = p.codes.getD (h.interpret.getD .success) := by
    intro set
    rcases hcodes with ⟨rfl, hnone⟩ | ⟨own, hown, hsome⟩
    · rw [hnone, Option.getD_none, ← codesGiven_iff hof.interpret]
      refine ⟨fun hset => ?_, fun hset => .inl ⟨rfl, hset⟩⟩
      rcases hset with ⟨-, hgiven⟩ | hread
      · exact hgiven
      · exact absurd rfl (exists_readsCodes.mp ⟨set, hread⟩).1
    · rw [hsome, Option.getD_some]
      constructor
      · rintro (⟨rfl, -⟩ | hread)
        · exact absurd rfl (exists_readsCodes.mp ⟨own, hown⟩).1
        · exact hread.unique hown
      · rintro rfl
        exact .inr hown
  constructor
  · rintro ⟨file, codes', input, hargs, hshares, hname, hread, hinput, hexpected⟩
    obtain ⟨rfl, rfl⟩ := List.cons.inj hargs
    exact ⟨input, hread,
      (shares_iff hof name origin body).mp
        ⟨hshares, hname, hinput, (hinterpret _).mp hexpected⟩⟩
  · rintro ⟨input, hread, ht⟩
    obtain ⟨hshares, hname, hinput, hexpected⟩ :=
      (shares_iff hof name origin body).mpr ht
    exact ⟨_, codes, input, rfl, hshares, hname, hread, hinput, (hinterpret _).mpr hexpected⟩

/-- Without scenario lines there is one case. -/
theorem expand_plain (hof : h.Of header) (hnone : argsOf "scenario" header = [])
    {cases : List TestCase} :
    expand files source (baseCase name origin h body) h.scenarios = .ok cases ↔
      Describes files name origin header body cases := by
  have hscenarios : h.scenarios = [] := List.forall₂_nil_left_iff.mp (hnone ▸ hof.scenarios)
  rw [hscenarios, expand, Except.ok.injEq]
  constructor
  · rintro rfl
    have hbase : Shares origin header body (baseCase name origin h body) ∧ _ :=
      (shares_iff hof name origin body).mpr rfl
    obtain ⟨hshares, hname, hinput, hcodes⟩ := hbase
    exact .plain hnone hshares hname hinput ((codesGiven_iff hof.interpret).mpr hcodes)
  · intro hdescribes
    cases hdescribes with
    | plain _ hshares hname hinput hcodes =>
      exact congrArg ([·]) ((shares_iff hof name origin body).mp
        ⟨hshares, hname, hinput, (codesGiven_iff hof.interpret).mp hcodes⟩)
    | scenarios hne => exact absurd hnone hne

theorem expand_eq_expandAfter {base : TestCase} {pragmas : List ScenarioPragma}
    (hne : pragmas ≠ []) {cases : List TestCase} :
    expand files source base pragmas = .ok cases ↔
      base.compilerCodes.isSuccessOnly = true ∧
        expandAfter files source base [] pragmas = .ok cases := by
  obtain ⟨p, pragmas, rfl⟩ := List.exists_cons_of_ne_nil hne
  rw [expand]
  cases base.compilerCodes.isSuccessOnly <;> simp

/-- With scenario lines there is one case for each, if they can be expanded. -/
theorem expand_scenarios (hof : h.Of header) (hsome : argsOf "scenario" header ≠ [])
    {cases : List TestCase} :
    expand files source (baseCase name origin h body) h.scenarios = .ok cases ↔
      Expandable files origin header ∧ Describes files name origin header body cases := by
  have hne : h.scenarios ≠ [] := by
    intro hnil
    have hscenarios := hof.scenarios
    rw [hnil] at hscenarios
    exact hsome (List.forall₂_nil_right_iff.mp hscenarios)
  have hline : ∀ args p, ReadsScenario args p → ∀ t,
      ScenarioCase files name origin header body args t ↔
        Expanded files (baseCase name origin h body) p t :=
    fun _ _ hp _ => scenarioCase_iff hof hp
  have hcases : List.Forall₂ _ _ cases ↔ List.Forall₂ _ _ cases :=
    forall₂_congr_left hline hof.scenarios
  rw [expand_eq_expandAfter hne, expandAfter_eq_ok, scenarioNames_eq hof.scenarios, fresh_of_none]
  constructor
  · rintro ⟨hcompiler, hdistinct, hmodel⟩
    refine ⟨⟨(isSuccessOnly_getD hof.compiler).mp hcompiler, fun file hfile => ?_, hdistinct⟩,
      .scenarios hsome (hcases.mpr hmodel)⟩
    rw [inputFiles_eq hof.scenarios] at hfile
    obtain ⟨p, hp, rfl⟩ := List.mem_map.mp hfile
    obtain ⟨t, -, input, hinput, -⟩ := exists_of_forall₂ hmodel hp
    exact ⟨input, hinput⟩
  · rintro ⟨hexpandable, hdescribes⟩
    cases hdescribes with
    | plain hnone => exact absurd hnone hsome
    | scenarios _ hlines =>
      exact ⟨(isSuccessOnly_getD hof.compiler).mpr hexpandable.compiler, hexpandable.distinct,
        hcases.mp hlines⟩

/-- Expansion succeeds exactly if the scenarios can be expanded, and gives what the header says. -/
theorem expand_eq_ok (hof : h.Of header) {cases : List TestCase} :
    expand files source (baseCase name origin h body) h.scenarios = .ok cases ↔
      (argsOf "scenario" header ≠ [] → Expandable files origin header) ∧
        Describes files name origin header body cases := by
  by_cases hnone : argsOf "scenario" header = []
  · rw [expand_plain hof hnone]
    exact ⟨fun hd => ⟨fun hne => absurd hnone hne, hd⟩, fun hd => hd.2⟩
  · rw [expand_scenarios hof hnone]
    exact and_congr_left fun _ => ⟨fun he _ => he, fun he => he hnone⟩

theorem exists_expand (hof : h.Of header)
    (hexpands : argsOf "scenario" header ≠ [] → Expandable files origin header) :
    ∃ cases, expand files source (baseCase name origin h body) h.scenarios = .ok cases := by
  by_cases hnil : h.scenarios = []
  · rw [hnil]
    exact ⟨_, rfl⟩
  · have hsome : argsOf "scenario" header ≠ [] := by
      intro hnone
      exact hnil (List.forall₂_nil_left_iff.mp (hnone ▸ hof.scenarios))
    have hexpandable := hexpands hsome
    obtain ⟨cases, hcases⟩ : ∃ cases,
        List.Forall₂ (Expanded files (baseCase name origin h body)) h.scenarios cases := by
      refine exists_forall₂ fun p hp => ?_
      have hfile : p.inputFile ∈ inputFiles header := by
        rw [inputFiles_eq hof.scenarios]
        exact List.mem_map_of_mem hp
      obtain ⟨input, hinput⟩ := hexpandable.readable p.inputFile hfile
      exact ⟨_, input, hinput, rfl⟩
    have hfresh : Fresh (h.scenarios.map scenarioName) [] := by
      rw [scenarioNames_eq hof.scenarios, fresh_of_none]
      exact hexpandable.distinct
    exact ⟨cases, (expand_eq_expandAfter hnil).mpr
      ⟨(isSuccessOnly_getD hof.compiler).mpr hexpandable.compiler,
        expandAfter_eq_ok.mpr ⟨hfresh, hcases⟩⟩⟩

/-- What is left to be done for a file whose header is read well. -/
theorem parse_of_split {content : String} (hsplit : split content.toList = .ok (h, body))
    {cases : List TestCase} :
    parse files name origin content = .ok cases ↔
      Text.allBlank body = false ∧ (baseCase name origin h body).conflicts.isEmpty = true ∧
        expand files name (baseCase name origin h body) h.scenarios = .ok cases := by
  rw [parse, hsplit]
  dsimp only
  cases Text.allBlank body with
  | true => simp
  | false => cases (baseCase name origin h body).conflicts.isEmpty <;> simp

theorem allBlank_eq_false : Text.allBlank body = false ↔ ∃ c ∈ body, Text.isBlank c = false := by
  simp [Text.allBlank]

/-- No extension is in conflict exactly if none is named on both sides. -/
theorem conflicts_isEmpty (hof : h.Of header) :
    (baseCase name origin h body).conflicts.isEmpty = true ↔
      ∀ n ∈ (argsOf "extensions+" header).flatten,
        n ∉ (argsOf "extensions-" header).flatten := by
  refine FeatureSet.isEmpty_inter_iff (features_of hof.required) (features_of hof.forbidden) ?_
  intro n hn
  obtain ⟨args, hargs, hn⟩ := List.mem_flatten.mp hn
  exact hof.soundPragmas.features _ (by simp) args hargs n hn

/-- A file is accepted exactly if it can be cut into two parts of which all that is asked is true,
and its cases are what these parts say. -/
theorem parse_eq_ok {content : String} {cases : List TestCase} :
    parse files name origin content = .ok cases ↔ ∃ header separator body,
      Cut content.toList header separator body ∧ Accepted files origin header body ∧
        Describes files name origin header body cases := by
  constructor
  · intro hparse
    cases hsplit : split content.toList with
    | error fault =>
      rw [parse, hsplit] at hparse
      cases hparse
    | ok parts =>
      obtain ⟨h, body⟩ := parts
      obtain ⟨hblank, hconflicts, hexpand⟩ := (parse_of_split hsplit).mp hparse
      have hbody : body ≠ [] := by
        rintro rfl
        cases hblank
      obtain ⟨header, separator, hcut, hlines, hof⟩ := of_split hsplit hbody
      obtain ⟨hexpands, hdescribes⟩ := (expand_eq_ok hof).mp hexpand
      exact ⟨header, separator, body, hcut, ⟨hof.soundPragmas, hlines,
        allBlank_eq_false.mp hblank, (conflicts_isEmpty hof).mp hconflicts, hexpands⟩, hdescribes⟩
  · rintro ⟨header, separator, body, hcut, haccepted, hdescribes⟩
    obtain ⟨h, hsplit, hof⟩ := hcut.exists_split haccepted.lines haccepted.toSoundPragmas
    rw [parse_of_split hsplit, expand_eq_ok hof, conflicts_isEmpty hof, allBlank_eq_false]
    exact ⟨haccepted.body, haccepted.consistent, haccepted.expands, hdescribes⟩

/-- A file that can be cut into such parts is accepted. -/
theorem exists_parse {content : String} {separator : List Char}
    (hcut : Cut content.toList header separator body)
    (haccepted : Accepted files origin header body) :
    ∃ cases, parse files name origin content = .ok cases := by
  obtain ⟨h, hsplit, hof⟩ := hcut.exists_split haccepted.lines haccepted.toSoundPragmas
  have hexpand : ∃ cases, expand files name (baseCase name origin h body) h.scenarios = .ok cases :=
    exists_expand hof haccepted.expands
  obtain ⟨cases, hcases⟩ := hexpand
  exact ⟨cases, (parse_of_split hsplit).mpr ⟨allBlank_eq_false.mpr haccepted.body,
    (conflicts_isEmpty hof).mpr haccepted.consistent, hcases⟩⟩

/-- With another program. -/
def withSource (body : List Char) (t : TestCase) : TestCase :=
  { t with source := String.ofList body }

theorem Shares.withSource {t : TestCase} (hshares : Shares origin header body t)
    (body' : List Char) : Shares origin header body' (withSource body' t) :=
  { hshares with source := rfl }

/-- The body of a file is in its cases as their source only. -/
theorem Describes.withSource {cases : List TestCase}
    (hdescribes : Describes files name origin header body cases) (body' : List Char) :
    Describes files name origin header body' (cases.map (withSource body')) := by
  cases hdescribes with
  | plain hnone hshares hname hinput hcodes =>
    exact .plain hnone (hshares.withSource body') hname hinput hcodes
  | scenarios hsome hlines =>
    refine .scenarios hsome (List.forall₂_map_right_iff.mpr (hlines.imp fun args t ht => ?_))
    obtain ⟨file, codes, input, hargs, hshares, hname, hread, hinput, hexpected⟩ := ht
    exact ⟨file, codes, input, hargs, hshares.withSource body', hname, hread, hinput, hexpected⟩

end

section
variable {files : FileTree} {name : String} {base : TestCase} {fault : Fault}

end

/-- The files that are accepted are those that can be cut into two parts of which all that is asked
is true, their cases are what these parts say, and behind the cut nothing is read: another program
there gives the same cases of that program. -/
theorem accepted_files (files : FileTree) (name : String) (origin : Path) :
    (∀ content, (∃ cases, parse files name origin content = .ok cases) ↔
      ∃ header separator body, Cut content.toList header separator body ∧
        Accepted files origin header body) ∧
    (∀ content cases, parse files name origin content = .ok cases ↔
      ∃ header separator body, Cut content.toList header separator body ∧
        Accepted files origin header body ∧ Describes files name origin header body cases) ∧
    ∀ content content' header separator body body', Cut content.toList header separator body →
      Cut content'.toList header separator body' → (∃ c ∈ body', Text.isBlank c = false) →
      ∀ cases, parse files name origin content = .ok cases →
        parse files name origin content' = .ok (cases.map (withSource body')) := by
  refine ⟨fun content => ⟨?_, ?_⟩, fun content cases => parse_eq_ok, ?_⟩
  · rintro ⟨cases, hparse⟩
    obtain ⟨header, separator, body, hcut, haccepted, -⟩ := parse_eq_ok.mp hparse
    exact ⟨header, separator, body, hcut, haccepted⟩
  · rintro ⟨header, separator, body, hcut, haccepted⟩
    exact exists_parse hcut haccepted
  · intro content content' header separator body body' hcut hcut' hbody' cases hparse
    obtain ⟨header₁, separator₁, body₁, hcut₁, haccepted, hdescribes⟩ := parse_eq_ok.mp hparse
    obtain ⟨rfl, rfl, rfl⟩ := hcut.unique hcut₁
    exact parse_eq_ok.mpr ⟨header, separator, body', hcut', { haccepted with body := hbody' },
      hdescribes.withSource body'⟩

end Conformance.Annotated
