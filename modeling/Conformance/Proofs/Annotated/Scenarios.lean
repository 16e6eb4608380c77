import Conformance.Proofs.Annotated.Cases
import Conformance.Proofs.Files.Contents
import Conformance.Proofs.Text.Span
import Mathlib.Data.List.Induction

/-!
# Scenarios, all or none

A file with scenario lines gives one case for each of them, or none at all. Each scenario that is
read knows the line where it stands (`Cut.split_at`), so the fault that is reported stands on the
first line with an offence: the first scenario line if the program is not to compile cleanly, else
the first one whose input cannot be read or is called like one before it (`scenarios_expand`).
-/
namespace Conformance.Annotated

open Text (Span)

/-! ## The line of a scenario -/

section
variable {content body : List Char} {n : Nat} {h h' : Header} {line : List Char}
  {lines rest : List (List Char)} {args : List String}

/-- Reading passes the lines of a header one after the other, and keeps the scenarios it has. -/
theorem splitFrom_append {before : List (List Char)} (hof : h.Of before)
    (hlines : ∀ l ∈ lines, IsHeaderLine l ∧ ¬IsSeparator l)
    (hsplit : splitFrom content n h (lines ++ rest) = .ok (h', body)) :
    ∃ h₁ ps, splitFrom content (n + lines.length) h₁ rest = .ok (h', body) ∧
      h₁.Of (before ++ lines) ∧ h₁.scenarios = h.scenarios ++ ps := by
  induction lines generalizing n h before with
  | nil => exact ⟨h, [], hsplit, by rwa [List.append_nil], (List.append_nil _).symm⟩
  | cons line lines ih =>
    obtain ⟨⟨hline, hsep⟩, hothers⟩ := List.forall_mem_cons.mp hlines
    have hnext : ∃ h₁ ps, h₁.Of (before ++ [line]) ∧ h₁.scenarios = h.scenarios ++ ps ∧
        splitFrom content (n + 1) h₁ (lines ++ rest) = .ok (h', body) := by
      rw [List.cons_append, splitFrom_cons hline hsep] at hsplit
      split at hsplit
      · exact ⟨h, [], hof.prose ‹_›, (List.append_nil _).symm, hsplit⟩
      · split at hsplit
        · cases hsplit
        · rename_i hadd
          obtain ⟨ps, hps, -⟩ := scenarios_of_add hadd
          exact ⟨_, ps, hof.add ‹_› hadd, hps, hsplit⟩
    obtain ⟨h₁, ps, hof₁, hps, hsplit₁⟩ := hnext
    obtain ⟨h₂, qs, hsplit₂, hof₂, hqs⟩ := ih hof₁ hothers hsplit₁
    refine ⟨h₂, ps ++ qs, ?_, ?_, ?_⟩
    · rwa [List.length_cons, Nat.add_comm lines.length, ← Nat.add_assoc]
    · rwa [List.append_assoc, List.singleton_append] at hof₂
    · rw [hqs, hps, List.append_assoc]

theorem argsOn?_eq_some {keyword : String} (hargs : argsOn? keyword line = some args) :
    pragmaWords line = keyword :: args := by
  unfold argsOn? at hargs
  split at hargs
  · cases hargs
  · rename_i word words hwords
    split at hargs
    · rename_i hword
      rw [hwords, hword, Option.some.inj hargs]
    · cases hargs

theorem splitFrom_scenario {before : List (List Char)} (hof : h.Of before)
    (hargs : argsOn? "scenario" line = some args) (hline : IsHeaderLine line)
    (hsep : ¬IsSeparator line) (hsplit : splitFrom content n h (line :: rest) = .ok (h', body)) :
    ∃ h₁ p, splitFrom content (n + 1) h₁ rest = .ok (h', body) ∧ h₁.Of (before ++ [line]) ∧
      h₁.scenarios = h.scenarios ++ [p] ∧ ReadsScenario args p ∧ p.span = .ofLine content n := by
  have hwords := argsOn?_eq_some hargs
  rw [splitFrom_cons hline hsep, hwords] at hsplit
  dsimp only at hsplit
  split at hsplit
  · cases hsplit
  · rename_i hadd
    have hof₁ := hof.add hwords hadd
    obtain ⟨p, hp, hspan, rfl⟩ := add_scenario hadd
    exact ⟨_, p, hsplit, hof₁, rfl, hp, hspan⟩

/-- A scenario line becomes a scenario that is found on it, and the lines before it become those
before. -/
theorem Cut.split_at {separator : List Char} {before after : List (List Char)}
    (hcut : Cut content (before ++ line :: after) separator body)
    (hlines : ∀ l ∈ before ++ line :: after, IsHeaderLine l)
    (hargs : argsOn? "scenario" line = some args) (hsplit : split content = .ok (h, body)) :
    ∃ ps p qs, h.scenarios = ps ++ p :: qs ∧
      List.Forall₂ ReadsScenario (argsOf "scenario" before) ps ∧ ReadsScenario args p ∧
      p.span = .behind before line := by
  have hall : ∀ l ∈ before ++ line :: after, IsHeaderLine l ∧ ¬IsSeparator l :=
    fun l hl => ⟨hlines l hl, hcut.first l hl⟩
  obtain ⟨hbefore, hfrom⟩ := List.forall_mem_append.mp hall
  obtain ⟨⟨hline, hsep⟩, hafter⟩ := List.forall_mem_cons.mp hfrom
  have hcontent := hcut.lines
  rw [List.append_assoc, List.cons_append] at hcontent
  rw [split, hcontent] at hsplit
  obtain ⟨h₁, ps, hsplit₁, hof₁, hps⟩ := splitFrom_append .start hbefore hsplit
  obtain ⟨h₂, p, hsplit₂, hof₂, hp, hreads, hspan⟩ :=
    splitFrom_scenario hof₁ hargs hline hsep hsplit₁
  obtain ⟨h₃, qs, hsplit₃, -, hqs⟩ := splitFrom_append hof₂ hafter hsplit₂
  rw [splitFrom_separator hcut.separates] at hsplit₃
  obtain ⟨rfl, -⟩ := Prod.mk.inj (Except.ok.inj hsplit₃)
  refine ⟨h₁.scenarios, p, qs, ?_, hof₁.scenarios, hreads, ?_⟩
  · rw [hqs, hp, List.append_assoc, List.singleton_append]
  · rw [hspan, Span.ofLine_eq hcontent]

end

/-! ## The first offence -/

/-- Inputs that can be read, and no two of them are called alike. -/
structure Usable (files : FileTree) (origin : Path) (inputs : List String) : Prop where
  readable : ∀ file ∈ inputs, ∃ input, files.readText (origin.parent.join ⟨file⟩) = .ok input
  distinct : (inputs.map stemOf).Nodup

/-- The program of a header is to compile cleanly. -/
def CompilesCleanly (header : List (List Char)) : Prop :=
  ∀ args ∈ argsOf "compiler" header, ∀ a ∈ args, Decimal.WritesCode a.toList 0

/-- What is wrong with a scenario line, behind lines whose scenarios are all right. -/
inductive Offence (files : FileTree) (origin : Path) (header before : List (List Char)) :
    List String → DefinitionFault → Prop
  | compiler {args : List String} {set : CodeSet} : ¬CompilesCleanly header →
      argsOf "scenario" before = [] → CodesGiven "compiler" header set →
      Offence files origin header before args (.scenarioCompilerCodes set)
  | unreadable {file : String} {codes : List String} {e : FileError} : CompilesCleanly header →
      Usable files origin (inputFiles before) →
      files.readText (origin.parent.join ⟨file⟩) = .error e →
      Offence files origin header before (file :: codes)
        (.unreadableInput (origin.parent.join ⟨file⟩) e)
  | repeated {file input : String} {codes : List String} : CompilesCleanly header →
      Usable files origin (inputFiles before) →
      files.readText (origin.parent.join ⟨file⟩) = .ok input →
      stemOf file ∈ (inputFiles before).map stemOf →
      Offence files origin header before (file :: codes) (.repeatedScenario (stemOf file))

section
variable {files : FileTree} {origin : Path} {header before : List (List Char)}

theorem expandable_iff : Expandable files origin header ↔
    CompilesCleanly header ∧ Usable files origin (inputFiles header) := by
  constructor
  · intro h
    exact ⟨h.compiler, h.readable, h.distinct⟩
  · rintro ⟨hclean, husable⟩
    exact ⟨hclean, husable.readable, husable.distinct⟩

theorem inputFiles_append (lines others : List (List Char)) :
    inputFiles (lines ++ others) = inputFiles lines ++ inputFiles others := by
  rw [inputFiles, argsOf_append, List.filterMap_append]
  rfl

/-- Inputs stop to be usable with the input of one line. -/
theorem exists_first_unusable {lines : List (List Char)}
    (h : ¬Usable files origin (inputFiles lines)) :
    ∃ before line after file codes, lines = before ++ line :: after ∧
      argsOn? "scenario" line = some (file :: codes) ∧ Usable files origin (inputFiles before) ∧
      ¬Usable files origin (inputFiles before ++ [file]) := by
  induction lines using List.reverseRecOn with
  | nil => exact absurd ⟨nofun, List.nodup_nil⟩ h
  | append_singleton lines line ih =>
    by_cases hlines : Usable files origin (inputFiles lines)
    · rw [inputFiles_append] at h
      rcases hargs : argsOn? "scenario" line with _ | _ | ⟨file, codes⟩
      · have hnone : inputFiles [line] = [] := by simp [inputFiles, argsOf, hargs]
        rw [hnone, List.append_nil] at h
        exact absurd hlines h
      · have hnone : inputFiles [line] = [] := by simp [inputFiles, argsOf, hargs]
        rw [hnone, List.append_nil] at h
        exact absurd hlines h
      · have hfile : inputFiles [line] = [file] := by simp [inputFiles, argsOf, hargs]
        rw [hfile] at h
        exact ⟨lines, line, [], file, codes, rfl, hargs, hlines, h⟩
    · obtain ⟨before, l, after, file, codes, rfl, hargs, hbefore, hfile⟩ := ih hlines
      exact ⟨before, l, after ++ [line], file, codes, by simp, hargs, hbefore, hfile⟩

/-- The first line where a keyword stands. -/
theorem exists_first_line {keyword : String} {lines : List (List Char)}
    (h : argsOf keyword lines ≠ []) :
    ∃ before line after args, lines = before ++ line :: after ∧ argsOf keyword before = [] ∧
      argsOn? keyword line = some args := by
  induction lines with
  | nil => exact absurd rfl h
  | cons line lines ih =>
    cases hargs : argsOn? keyword line with
    | some args => exact ⟨[], line, lines, args, rfl, rfl, hargs⟩
    | none =>
      have hline (others : List (List Char)) :
          argsOf keyword (line :: others) = argsOf keyword others := List.filterMap_cons_none hargs
      rw [hline] at h
      obtain ⟨before, l, after, args, rfl, hbefore, hl⟩ := ih h
      exact ⟨line :: before, l, after, args, rfl, by rw [hline, hbefore], hl⟩

/-- Scenarios that cannot be expanded have a first offence. -/
theorem exists_offence (h : ¬Expandable files origin header)
    (hsome : argsOf "scenario" header ≠ []) {set : CodeSet}
    (hset : CodesGiven "compiler" header set) :
    ∃ before line after args fault, header = before ++ line :: after ∧
      argsOn? "scenario" line = some args ∧ Offence files origin header before args fault := by
  rw [expandable_iff] at h
  by_cases hclean : CompilesCleanly header
  · obtain ⟨before, line, after, file, codes, rfl, hargs, hbefore, hfile⟩ :=
      exists_first_unusable fun husable => h ⟨hclean, husable⟩
    cases hread : files.readText (origin.parent.join ⟨file⟩) with
    | error e =>
      exact ⟨before, line, after, _, _, rfl, hargs, .unreadable hclean hbefore hread⟩
    | ok input =>
      refine ⟨before, line, after, _, _, rfl, hargs, .repeated hclean hbefore hread ?_⟩
      by_contra hfresh
      refine hfile ⟨List.forall_mem_append.mpr ⟨hbefore.readable, ?_⟩, ?_⟩
      · exact List.forall_mem_singleton.mpr ⟨input, hread⟩
      · rw [List.map_append, List.map_singleton, List.nodup_append']
        exact ⟨hbefore.distinct, List.nodup_singleton _,
          List.disjoint_singleton.mpr hfresh⟩
  · obtain ⟨before, line, after, args, rfl, hbefore, hargs⟩ := exists_first_line hsome
    exact ⟨before, line, after, args, _, rfl, hargs, .compiler hclean hbefore hset⟩

end

/-! ## What is reported -/

section
variable {files : FileTree} {name source : String} {origin : Path} {base : TestCase}

/-- Scenarios that are all right are passed, and the names that they have are taken. -/
theorem expandAfter_append {ps : List ScenarioPragma} (rest : List ScenarioPragma)
    {seen : List String} (hread : ∀ p ∈ ps, ∃ input,
      files.readText (inputPath base.origin p) = .ok input)
    (hfresh : Fresh (ps.map scenarioName) seen) :
    ∃ cases, expandAfter files source base seen (ps ++ rest) =
      (expandAfter files source base ((ps.map scenarioName).reverse ++ seen) rest).map
        (cases ++ ·) := by
  induction ps generalizing seen with
  | nil =>
    refine ⟨[], ?_⟩
    rw [List.nil_append, List.map_nil, List.reverse_nil, List.nil_append]
    cases expandAfter files source base seen rest <;> rfl
  | cons p ps ih =>
    obtain ⟨⟨input, hinput⟩, hread⟩ := List.forall_mem_cons.mp hread
    rw [List.map_cons, fresh_cons] at hfresh
    obtain ⟨cases, hcases⟩ := ih hread hfresh.2
    refine ⟨base.forScenario { name := scenarioName p, input
                               interpretCodes := p.codes.getD base.interpretCodes } :: cases, ?_⟩
    have hseen : seen.contains (scenarioName p) = false := by simpa using hfresh.1
    rw [List.cons_append, expandAfter_cons, hinput]
    simp only [hseen, Bool.false_eq_true, if_false, hcases, List.map_cons, List.reverse_cons,
      List.append_assoc, List.singleton_append]
    cases expandAfter files source base
      ((ps.map scenarioName).reverse ++ scenarioName p :: seen) rest <;> rfl

theorem expand_of_clean (hclean : base.compilerCodes.isSuccessOnly = true)
    (ps : List ScenarioPragma) (p : ScenarioPragma) (qs : List ScenarioPragma) :
    expand files source base (ps ++ p :: qs) =
      expandAfter files source base [] (ps ++ p :: qs) := by
  cases ps with
  | nil => exact if_pos hclean
  | cons q ps => exact if_pos hclean

variable {h : Header} {header before : List (List Char)} {args : List String} {body : List Char}
  {fault : DefinitionFault}

/-- An offence of a line is reported for the scenario that the line has become. -/
theorem expand_of_offence (hof : h.Of header) {ps qs : List ScenarioPragma} {p : ScenarioPragma}
    (hscenarios : h.scenarios = ps ++ p :: qs)
    (hps : List.Forall₂ ReadsScenario (argsOf "scenario" before) ps) (hp : ReadsScenario args p)
    (hfault : Offence files origin header before args fault) :
    expand files source (baseCase name origin h body) h.scenarios =
      .error (faultAt source p.span (.definition fault)) := by
  have hcompiler : (baseCase name origin h body).compilerCodes.isSuccessOnly = true ↔
      CompilesCleanly header := isSuccessOnly_getD hof.compiler
  have hnames := scenarioNames_eq hps
  have hinputs := inputFiles_eq hps
  have passed (husable : Usable files origin (inputFiles before)) : ∃ cases,
      expandAfter files source (baseCase name origin h body) [] (ps ++ p :: qs) =
        (expandAfter files source (baseCase name origin h body)
          ((ps.map scenarioName).reverse ++ []) (p :: qs)).map (cases ++ ·) := by
    refine expandAfter_append (p :: qs) (fun q hq => ?_) ?_
    · refine husable.readable q.inputFile ?_
      rw [hinputs]
      exact List.mem_map_of_mem hq
    · rw [hnames, fresh_of_none]
      exact husable.distinct
  rw [hscenarios]
  cases hfault with
  | compiler hunclean hnone hset =>
    obtain rfl := List.forall₂_nil_left_iff.mp (hnone ▸ hps)
    rw [(codesGiven_iff hof.compiler).mp hset]
    exact if_neg (mt hcompiler.mp hunclean)
  | unreadable hclean husable hread =>
    obtain ⟨codes, hargs, -⟩ := hp
    obtain ⟨rfl, -⟩ := List.cons.inj hargs
    obtain ⟨cases, hcases⟩ := passed husable
    have hread' : files.readText (inputPath (baseCase name origin h body).origin p) = .error _ :=
      hread
    rw [expand_of_clean (hcompiler.mpr hclean), hcases, expandAfter_cons, hread']
    rfl
  | repeated hclean husable hread hmem =>
    obtain ⟨codes, hargs, -⟩ := hp
    obtain ⟨rfl, -⟩ := List.cons.inj hargs
    obtain ⟨cases, hcases⟩ := passed husable
    have hread' : files.readText (inputPath (baseCase name origin h body).origin p) = .ok _ :=
      hread
    have hseen : ((ps.map scenarioName).reverse ++ []).contains (scenarioName p) = true := by
      rw [List.contains_iff_mem, List.append_nil, List.mem_reverse, hnames]
      exact hmem
    rw [expand_of_clean (hcompiler.mpr hclean), hcases, expandAfter_cons, hread']
    simp only [hseen, if_true]
    rfl

end

/-- The names of the cases of scenarios that are called differently differ. -/
theorem names_nodup {files : FileTree} {name : String} {origin : Path}
    {header : List (List Char)} {body : List Char} {given : List (List String)}
    {cases : List TestCase}
    (h : List.Forall₂ (ScenarioCase files name origin header body) given cases)
    (hdistinct : ((given.filterMap List.head?).map stemOf).Nodup) :
    (cases.map (·.name)).Nodup := by
  have hnames : cases.map (·.name) =
      ((given.filterMap List.head?).map stemOf).map (name ++ "::" ++ ·) := by
    induction h with
    | nil => rfl
    | cons hcase _ ih =>
      obtain ⟨file, codes, input, rfl, -, hname, -⟩ := hcase
      simp only [List.filterMap_cons, List.head?_cons, List.map_cons] at hdistinct ⊢
      rw [ih (List.nodup_cons.mp hdistinct).2, hname]
  rw [hnames]
  exact hdistinct.map fun s t hst => (String.append_right_inj _).mp hst

/-- A sound file with scenarios is accepted exactly if the scenarios can be expanded, and then gives
one case for each scenario line, in order and with distinct names. What is reported otherwise stands
on the first line with an offence. -/
theorem scenarios_expand (files : FileTree) (name : String) (origin : Path) {content : String}
    {header : List (List Char)} {separator body : List Char}
    (hcut : Cut content.toList header separator body) (hlines : ∀ l ∈ header, IsHeaderLine l)
    (hsound : SoundPragmas header) (hsome : argsOf "scenario" header ≠ [])
    (hbody : ∃ c ∈ body, Text.isBlank c = false)
    (hconsistent : ∀ n ∈ (argsOf "extensions+" header).flatten,
      n ∉ (argsOf "extensions-" header).flatten) :
    ((∃ cases, parse files name origin content = .ok cases) ↔
      CompilesCleanly header ∧ Usable files origin (inputFiles header)) ∧
    (∀ cases, parse files name origin content = .ok cases →
      List.Forall₂ (ScenarioCase files name origin header body) (argsOf "scenario" header) cases ∧
        (cases.map (·.name)).Nodup) ∧
    ∀ fault, parse files name origin content = .error fault ↔
      ∃ before line after args cause, header = before ++ line :: after ∧
        argsOn? "scenario" line = some args ∧ Offence files origin header before args cause ∧
        fault = faultAt name (.behind before line) (.definition cause) := by
  obtain ⟨h, hsplit, hof⟩ := hcut.exists_split hlines hsound
  have hblank : Text.allBlank body = false := allBlank_eq_false.mpr hbody
  have hconflicts : (baseCase name origin h body).conflicts.isEmpty = true :=
    (conflicts_isEmpty hof).mpr hconsistent
  have hparse : parse files name origin content =
      expand files name (baseCase name origin h body) h.scenarios := by
    rw [parse, hsplit]
    simp only [hblank, hconflicts, Bool.false_eq_true, if_false, if_true]
  have hok : (∃ cases, parse files name origin content = .ok cases) ↔
      Expandable files origin header := by
    rw [hparse]
    constructor
    · rintro ⟨cases, hcases⟩
      exact ((expand_scenarios hof hsome).mp hcases).1
    · intro hexpandable
      exact exists_expand hof fun _ => hexpandable
  have hreported {before after : List (List Char)} {line : List Char} {args : List String}
      {cause : DefinitionFault} (hheader : header = before ++ line :: after)
      (hargs : argsOn? "scenario" line = some args)
      (hoffence : Offence files origin header before args cause) :
      parse files name origin content =
        .error (faultAt name (.behind before line) (.definition cause)) := by
    subst hheader
    obtain ⟨ps, p, qs, hscenarios, hps, hp, hspan⟩ := hcut.split_at hlines hargs hsplit
    rw [hparse, expand_of_offence hof hscenarios hps hp hoffence, hspan]
  refine ⟨hok.trans expandable_iff, fun cases hcases => ?_, fun fault => ⟨fun hfault => ?_, ?_⟩⟩
  · rw [hparse] at hcases
    obtain ⟨hexpandable, hdescribes⟩ := (expand_scenarios hof hsome).mp hcases
    cases hdescribes with
    | plain hnone => exact absurd hnone hsome
    | scenarios _ hcases => exact ⟨hcases, names_nodup hcases hexpandable.distinct⟩
  · have hnot : ¬Expandable files origin header := by
      intro hexpandable
      obtain ⟨cases, hcases⟩ := hok.mpr hexpandable
      rw [hfault] at hcases
      cases hcases
    have hset : CodesGiven "compiler" header (h.compiler.getD .success) :=
      (codesGiven_iff hof.compiler).mpr rfl
    obtain ⟨before, line, after, args, cause, hheader, hargs, hoffence⟩ :=
      exists_offence hnot hsome hset
    rw [hreported hheader hargs hoffence] at hfault
    exact ⟨before, line, after, args, cause, hheader, hargs, hoffence,
      (Except.error.inj hfault).symm⟩
  · rintro ⟨before, line, after, args, cause, hheader, hargs, hoffence, rfl⟩
    exact hreported hheader hargs hoffence

/-! ## Two scenarios, the second of which cannot be read -/

/-- A folder with one input. -/
def inputTree : FileTree where
  entries := [(["x"], .file 0)]
  held := #[{ content := [0x31], mode := Node.plainMode }]

/-- The lines of two scenarios. -/
def twoScenarios : List (List Char) :=
  ["//scenario x\n".toList, "//scenario y\n".toList]

theorem find_x : inputTree.find .target ⟨"x"⟩ = .ok (.taken ["x"] (.plain [0x31])) := by
  have hproper : FileTree.Proper "x".toList := ⟨by decide, by decide, by decide⟩
  refine FileTree.find_eq_ok_iff.mpr
    ⟨⟨by decide, by decide, by decide⟩, ⟨false, 40, ["x"], []⟩, ?_, .taken rfl nofun⟩
  show FileTree.Way _ _ ⟨false, 40, [], ["x".toList]⟩ _
  exact .stride (.down rfl hproper rfl rfl fun _ h => by cases h) (.done _)

theorem readText_x : inputTree.readText (Path.parent ⟨"t"⟩ |>.join ⟨"x"⟩) = .ok "1" := by
  have hpath : (Path.parent ⟨"t"⟩).join ⟨"x"⟩ = ⟨"x"⟩ := by decide
  have hdecode : Text.decode? [0x31] = some "1" := by decide
  rw [hpath, FileTree.readText, FileTree.read, find_x]
  simp only [Node.plain, hdecode]

theorem readText_y : inputTree.readText (Path.parent ⟨"t"⟩ |>.join ⟨"y"⟩) = .error .missing := by
  have hpath : (Path.parent ⟨"t"⟩).join ⟨"y"⟩ = ⟨"y"⟩ := by decide
  have hname : FileTree.Proper ['y'] := ⟨by decide, by decide, by decide⟩
  have hfind : inputTree.find .target ⟨"y"⟩ = .ok (.free ["y"]) :=
    FileTree.find_free ⟨by decide, by decide, by decide⟩ (by decide) hname
      (by decide) rfl rfl
  rw [hpath, FileTree.readText, FileTree.read, hfind]

/-- The fault stands on the line of the scenario that has no input. -/
theorem second_scenario_unreadable :
    parse inputTree "t" ⟨"t"⟩ "//scenario x\n//scenario y\n//\nb" =
      .error (faultAt "t" ⟨13, 25⟩ (.definition (.unreadableInput ⟨"y"⟩ .missing))) := by
  have hwhole : ∀ l ∈ twoScenarios ++ ["//\n".toList], Text.WholeLine l := by
    simp only [twoScenarios, List.cons_append, List.nil_append, List.forall_mem_cons]
    exact ⟨⟨"//scenario x".toList, by decide, by decide⟩,
      ⟨"//scenario y".toList, by decide, by decide⟩, ⟨"//".toList, by decide, by decide⟩, nofun⟩
  have hcut : Cut "//scenario x\n//scenario y\n//\nb".toList twoScenarios "//\n".toList ['b'] :=
    ⟨by decide, hwhole, by unfold IsSeparator; decide,
      by unfold IsSeparator; decide⟩
  have hlines : ∀ l ∈ twoScenarios, IsHeaderLine l := by
    simp only [twoScenarios, List.forall_mem_cons]
    exact ⟨.inr ⟨"scenario x".toList, by decide⟩,
      .inr ⟨"scenario y".toList, by decide⟩, nofun⟩
  have hgiven : argsOf "scenario" twoScenarios = [["x"], ["y"]] := by decide
  have hnone : ∀ k ∈ ["compiler", "interpret", "extensions+", "extensions-"],
      argsOf k twoScenarios = [] := by decide
  have hsound : SoundPragmas twoScenarios := by
    refine ⟨fun k hk => ?_, fun k hk args hargs => ?_, fun k hk args hargs => ?_, ?_⟩
    · rw [hnone k hk]
      exact Nat.zero_le 1
    · rw [hnone k (List.mem_append_left _ hk)] at hargs
      cases hargs
    · rw [hnone k (List.mem_append_right ["compiler", "interpret"] hk)] at hargs
      cases hargs
    · rw [hgiven, List.forall_mem_cons, List.forall_mem_singleton]
      exact ⟨⟨"x", [], rfl, nofun⟩, ⟨"y", [], rfl, nofun⟩⟩
  have hbefore : inputFiles ["//scenario x\n".toList] = ["x"] := by decide
  have husable : Usable inputTree ⟨"t"⟩ (inputFiles ["//scenario x\n".toList]) := by
    rw [hbefore]
    exact ⟨List.forall_mem_singleton.mpr ⟨"1", readText_x⟩, List.nodup_singleton _⟩
  have hclean : CompilesCleanly twoScenarios := by
    intro args hargs
    rw [hnone "compiler" (by simp)] at hargs
    cases hargs
  have hspan : Span.behind ["//scenario x\n".toList] "//scenario y\n".toList = ⟨13, 25⟩ := by
    decide
  have hpath : (Path.parent ⟨"t"⟩).join ⟨"y"⟩ = ⟨"y"⟩ := by decide
  obtain ⟨-, -, hfault⟩ := scenarios_expand inputTree "t" ⟨"t"⟩ hcut hlines hsound
    (by rw [hgiven]; nofun) ⟨'b', List.mem_cons_self, by decide⟩
    (by rw [hnone "extensions+" (by simp)]; nofun)
  refine (hfault _).mpr ⟨["//scenario x\n".toList], "//scenario y\n".toList, [], ["y"], _, rfl,
    by decide, .unreadable hclean husable readText_y, ?_⟩
  rw [hspan, hpath]

end Conformance.Annotated
