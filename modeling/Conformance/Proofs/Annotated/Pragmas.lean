import Conformance.Annotated.Header
import Conformance.Proofs.Decimal.Code
import Conformance.Proofs.Expectation
import Conformance.Proofs.Success

/-!
# Pragmas

What the lines of a header say, told without reading them one after the other: the arguments of each
keyword, line by line. A keyword that is given once fills its slot, and a scenario line adds one
scenario.
-/
namespace Conformance.Annotated

open Text (Span)

/-- The words of a line that starts with the comment mark and no blank behind it. Another line has
none. -/
def pragmaWords (line : List Char) : List String :=
  match Text.trim line with
  | '/' :: '/' :: c :: text => if Text.isBlank c then [] else (Text.words (c :: text)).map .ofList
  | _ => []

/-- The arguments of a keyword on a line where it stands. -/
def argsOn? (keyword : String) (line : List Char) : Option (List String) :=
  match pragmaWords line with
  | [] => none
  | word :: args => if word = keyword then some args else none

/-- The arguments of a keyword, for each line where it stands. -/
def argsOf (keyword : String) (lines : List (List Char)) : List (List String) :=
  lines.filterMap (argsOn? keyword)

/-- The arguments are exit codes, at least one of them, and the set has these. -/
def ReadsCodes (args : List String) (set : CodeSet) : Prop :=
  ∃ cs, List.Forall₂ (fun a n => Decimal.WritesCode a.toList n) args cs ∧ cs ≠ [] ∧ set.Of cs

/-- The arguments are names of extensions, and the set has these. -/
def ReadsFeatures (args : List String) (set : FeatureSet) : Prop :=
  (∀ n ∈ args, ∃ f : Feature, f.name = n) ∧ set.Of args

/-- The arguments are an input file and then exit codes, which may be missing. -/
def ReadsScenario (args : List String) (p : ScenarioPragma) : Prop :=
  ∃ codes, args = p.inputFile :: codes ∧
    (codes = [] ∧ p.codes = none ∨ ∃ set, ReadsCodes codes set ∧ p.codes = some set)

/-- The header has what the lines say. -/
structure Header.Of (h : Header) (lines : List (List Char)) : Prop where
  compiler : List.Forall₂ ReadsCodes (argsOf "compiler" lines) h.compiler.toList
  interpret : List.Forall₂ ReadsCodes (argsOf "interpret" lines) h.interpret.toList
  required : List.Forall₂ ReadsFeatures (argsOf "extensions+" lines) h.required.toList
  forbidden : List.Forall₂ ReadsFeatures (argsOf "extensions-" lines) h.forbidden.toList
  scenarios : List.Forall₂ ReadsScenario (argsOf "scenario" lines) h.scenarios

theorem exists_readsCodes {args : List String} :
    (∃ set, ReadsCodes args set) ↔
      args ≠ [] ∧ ∀ a ∈ args, ∃ n, Decimal.WritesCode a.toList n := by
  constructor
  · rintro ⟨set, cs, hcs, hne, -⟩
    refine ⟨?_, fun a ha => ?_⟩
    · rintro rfl
      exact hne (List.forall₂_nil_left_iff.mp hcs)
    · obtain ⟨n, -, hn⟩ := exists_of_forall₂ hcs ha
      exact ⟨n, hn⟩
  · rintro ⟨hne, hall⟩
    obtain ⟨cs, hcs⟩ := exists_forall₂ hall
    have hcsne : cs ≠ [] := by
      rintro rfl
      exact hne (List.forall₂_nil_right_iff.mp hcs)
    obtain ⟨set, hset⟩ := CodeSet.exists_of hcsne
    exact ⟨set, cs, hcs, hcsne, hset⟩

theorem exists_readsFeatures {args : List String} :
    (∃ set, ReadsFeatures args set) ↔ ∀ n ∈ args, ∃ f : Feature, f.name = n := by
  constructor
  · rintro ⟨set, hall, -⟩
    exact hall
  · intro hall
    obtain ⟨set, hset⟩ := FeatureSet.exists_of args
    exact ⟨set, hall, hset⟩

theorem readCodes_eq_ok (keyword : String) {args : List String} {cs : List Int} :
    readCodes keyword args = .ok cs ↔
      List.Forall₂ (fun a n => Decimal.WritesCode a.toList n) args cs := by
  induction args generalizing cs with
  | nil => simp [readCodes, eq_comm]
  | cons arg args ih =>
    rw [readCodes, List.forall₂_cons_left_iff]
    simp only [← Decimal.code?_eq_some] at ih ⊢
    cases Decimal.code? arg.toList with
    | none => simp
    | some n =>
      simp only [map_eq_ok, ih]
      constructor
      · rintro ⟨others, hothers, rfl⟩
        exact ⟨n, others, rfl, hothers, rfl⟩
      · rintro ⟨n', others, hn, hothers, rfl⟩
        obtain rfl := Option.some.inj hn
        exact ⟨others, hothers, rfl⟩

theorem codes_eq_ok (keyword : String) {args : List String} {set : CodeSet} :
    codes keyword args = .ok set ↔ ReadsCodes args set := by
  simp only [ReadsCodes, ← readCodes_eq_ok keyword, ← CodeSet.ofList?_eq_some]
  rw [codes]
  cases readCodes keyword args with
  | error fault => simp
  | ok cs =>
    simp only [Except.ok.injEq, exists_eq_left']
    cases CodeSet.ofList? cs <;> simp

theorem features_eq_ok {args : List String} {set : FeatureSet} :
    features args = .ok set ↔ ReadsFeatures args set := by
  rw [ReadsFeatures, ← parseFeatures_eq_ok, features]
  cases parseFeatures args <;> simp

section

variable {α : Type} {reads : List String → α → Prop} {given : List (List String)}
  {slot slot' : Option α} {args : List String}
  {value : Except HeaderFault α}

/-- A slot is filled by the only arguments that its keyword has. -/
theorem fill_eq_ok (keyword : String) (h : List.Forall₂ reads given slot.toList)
    (hvalue : ∀ v, value = .ok v ↔ reads args v) :
    fill keyword slot value = .ok slot' ↔ List.Forall₂ reads (given ++ [args]) slot'.toList := by
  cases slot with
  | none =>
    obtain rfl := List.forall₂_nil_right_iff.mp h
    rw [fill, map_eq_ok]
    simp only [hvalue]
    cases slot' with
    | none => simp
    | some v => simp
  | some v =>
    -- Its keyword was given before, and would be given twice now.
    have hone := h.length_eq
    refine ⟨nofun, fun htwo => ?_⟩
    have hlength := htwo.length_eq
    have hle := Option.length_toList_le (o := slot')
    simp only [List.length_append, List.length_singleton, Option.toList_some] at hone hlength
    omega

end

@[simp] theorem argsOf_append (keyword : String) (lines others : List (List Char)) :
    argsOf keyword (lines ++ others) = argsOf keyword lines ++ argsOf keyword others :=
  List.filterMap_append

theorem argsOf_pragma {word : String} {args : List String} {line : List Char}
    (h : pragmaWords line = word :: args) (keyword : String) (lines : List (List Char)) :
    argsOf keyword (lines ++ [line]) =
      if word = keyword then argsOf keyword lines ++ [args] else argsOf keyword lines := by
  rw [argsOf_append, argsOf, argsOf, List.filterMap_cons, argsOn?, h]
  by_cases hword : word = keyword <;> simp [hword]

theorem argsOf_prose {line : List Char} (h : pragmaWords line = []) (keyword : String)
    (lines : List (List Char)) : argsOf keyword (lines ++ [line]) = argsOf keyword lines := by
  rw [argsOf_append, argsOf, argsOf, List.filterMap_cons, argsOn?, h]
  simp

/-- A keyword that is given once finds its slot empty, and fills it if its arguments can be read. -/
theorem exists_filled {α β : Type} {reads : List String → α → Prop} {slot : Option α}
    {value : Except HeaderFault α} {keyword : String} {args : List String}
    {lines : List (List Char)} {line : List Char}
    (h : List.Forall₂ reads (argsOf keyword lines) slot.toList)
    (hline : pragmaWords line = keyword :: args)
    (honce : (argsOf keyword (lines ++ [line])).length ≤ 1) {v : α} (hv : value = .ok v)
    (put : Option α → β) : ∃ b, (fill keyword slot value).map put = .ok b := by
  cases slot with
  | none => exact ⟨put (some v), by rw [fill, hv]; rfl⟩
  | some w =>
    have hone := h.length_eq
    rw [argsOf_pragma hline, if_pos rfl] at honce
    simp only [List.length_append, List.length_singleton, Option.toList_some] at hone honce
    omega

section

variable {given : List (List String)} {args : List String}

theorem length_le_one {α : Type} {reads : List String → α → Prop} {slot : Option α}
    (h : List.Forall₂ reads given slot.toList) : given.length ≤ 1 :=
  h.length_eq ▸ Option.length_toList_le

theorem codes_of_forall₂ {sets : List CodeSet} (h : List.Forall₂ ReadsCodes given sets)
    (hargs : args ∈ given) : args ≠ [] ∧ ∀ a ∈ args, ∃ n, Decimal.WritesCode a.toList n := by
  obtain ⟨set, -, hset⟩ := exists_of_forall₂ h hargs
  exact exists_readsCodes.mp ⟨set, hset⟩

theorem features_of_forall₂ {sets : List FeatureSet} (h : List.Forall₂ ReadsFeatures given sets)
    (hargs : args ∈ given) : ∀ n ∈ args, ∃ f : Feature, f.name = n := by
  obtain ⟨set, -, hset⟩ := exists_of_forall₂ h hargs
  exact exists_readsFeatures.mp ⟨set, hset⟩

theorem scenario_of_forall₂ {pragmas : List ScenarioPragma}
    (h : List.Forall₂ ReadsScenario given pragmas) (hargs : args ∈ given) :
    ∃ file codes, args = file :: codes ∧ ∀ a ∈ codes, ∃ n, Decimal.WritesCode a.toList n := by
  obtain ⟨p, -, codes, rfl, hcodes⟩ := exists_of_forall₂ h hargs
  refine ⟨p.inputFile, codes, rfl, ?_⟩
  rcases hcodes with ⟨rfl, -⟩ | ⟨set, hset, -⟩
  · nofun
  · exact (exists_readsCodes.mp ⟨set, hset⟩).2

end

/-- A scenario line adds a scenario that is found on this line, behind the others. -/
theorem add_scenario {h h' : Header} {span : Span} {args : List String}
    (hadd : h.add span "scenario" args = .ok h') :
    ∃ p, ReadsScenario args p ∧ p.span = span ∧
      h' = { h with scenarios := h.scenarios ++ [p] } := by
  match args with
  | [] => cases hadd
  | file :: [] => exact ⟨_, ⟨[], rfl, .inl ⟨rfl, rfl⟩⟩, rfl, (Except.ok.inj hadd).symm⟩
  | file :: word :: words =>
    obtain ⟨set, hset, rfl⟩ := map_eq_ok.mp hadd
    exact ⟨_, ⟨_, rfl, .inr ⟨set, (codes_eq_ok _).mp hset, rfl⟩⟩, rfl, rfl⟩

/-- No pragma takes a scenario away, and one that it adds is found on its line. -/
theorem scenarios_of_add {h h' : Header} {span : Span} {keyword : String} {args : List String}
    (hadd : h.add span keyword args = .ok h') :
    ∃ ps, h'.scenarios = h.scenarios ++ ps ∧ ∀ p ∈ ps, p.span = span := by
  have hnone : ∃ ps : List ScenarioPragma,
      h.scenarios = h.scenarios ++ ps ∧ ∀ p ∈ ps, p.span = span :=
    ⟨[], (List.append_nil _).symm, nofun⟩
  by_cases hk : keyword = "scenario"
  · subst hk
    obtain ⟨p, -, hspan, rfl⟩ := add_scenario hadd
    exact ⟨[p], rfl, List.forall_mem_singleton.mpr hspan⟩
  · unfold Header.add at hadd
    split at hadd
    · obtain ⟨slot, -, rfl⟩ := map_eq_ok.mp hadd
      exact hnone
    · obtain ⟨slot, -, rfl⟩ := map_eq_ok.mp hadd
      exact hnone
    · obtain ⟨slot, -, rfl⟩ := map_eq_ok.mp hadd
      exact hnone
    · obtain ⟨slot, -, rfl⟩ := map_eq_ok.mp hadd
      exact hnone
    · exact absurd rfl hk
    · obtain rfl := Except.ok.inj hadd
      exact hnone

/-- What is asked of the pragmas of a header. -/
structure SoundPragmas (lines : List (List Char)) : Prop where
  once : ∀ k ∈ ["compiler", "interpret", "extensions+", "extensions-"], (argsOf k lines).length ≤ 1
  codes : ∀ k ∈ ["compiler", "interpret"], ∀ args ∈ argsOf k lines,
    args ≠ [] ∧ ∀ a ∈ args, ∃ n, Decimal.WritesCode a.toList n
  features : ∀ k ∈ ["extensions+", "extensions-"], ∀ args ∈ argsOf k lines,
    ∀ n ∈ args, ∃ f : Feature, f.name = n
  scenarios : ∀ args ∈ argsOf "scenario" lines, ∃ file codes, args = file :: codes ∧
    ∀ a ∈ codes, ∃ n, Decimal.WritesCode a.toList n

namespace Header.Of

variable {h h' : Header} {lines : List (List Char)} {line : List Char}

theorem start : Header.Of {} [] :=
  ⟨.nil, .nil, .nil, .nil, .nil⟩

theorem prose (hof : h.Of lines) (hline : pragmaWords line = []) : h.Of (lines ++ [line]) := by
  constructor <;> rw [argsOf_prose hline]
  exacts [hof.compiler, hof.interpret, hof.required, hof.forbidden, hof.scenarios]

/-- One more pragma is in the header that results. -/
theorem add (hof : h.Of lines) {span : Span} {keyword : String} {args : List String}
    (hline : pragmaWords line = keyword :: args) (hadd : h.add span keyword args = .ok h') :
    h'.Of (lines ++ [line]) := by
  unfold Header.add at hadd
  split at hadd
  · obtain ⟨slot, hslot, rfl⟩ := map_eq_ok.mp hadd
    rw [fill_eq_ok _ hof.compiler fun v => codes_eq_ok _] at hslot
    constructor <;> simp only [argsOf_pragma hline, String.reduceEq, if_true, if_false]
    exacts [hslot, hof.interpret, hof.required, hof.forbidden, hof.scenarios]
  · obtain ⟨slot, hslot, rfl⟩ := map_eq_ok.mp hadd
    rw [fill_eq_ok _ hof.interpret fun v => codes_eq_ok _] at hslot
    constructor <;> simp only [argsOf_pragma hline, String.reduceEq, if_true, if_false]
    exacts [hof.compiler, hslot, hof.required, hof.forbidden, hof.scenarios]
  · obtain ⟨slot, hslot, rfl⟩ := map_eq_ok.mp hadd
    rw [fill_eq_ok _ hof.required fun v => features_eq_ok] at hslot
    constructor <;> simp only [argsOf_pragma hline, String.reduceEq, if_true, if_false]
    exacts [hof.compiler, hof.interpret, hslot, hof.forbidden, hof.scenarios]
  · obtain ⟨slot, hslot, rfl⟩ := map_eq_ok.mp hadd
    rw [fill_eq_ok _ hof.forbidden fun v => features_eq_ok] at hslot
    constructor <;> simp only [argsOf_pragma hline, String.reduceEq, if_true, if_false]
    exacts [hof.compiler, hof.interpret, hof.required, hslot, hof.scenarios]
  · obtain ⟨p, hp, -, rfl⟩ := add_scenario hadd
    constructor <;> simp only [argsOf_pragma hline, String.reduceEq, if_true, if_false]
    exacts [hof.compiler, hof.interpret, hof.required, hof.forbidden,
      List.rel_append hof.scenarios (.cons hp .nil)]
  · rename_i hcompiler hinterpret hrequired hforbidden hscenario
    obtain rfl := Except.ok.inj hadd
    constructor <;> rw [argsOf_pragma hline]
    · rw [if_neg hcompiler]
      exact hof.compiler
    · rw [if_neg hinterpret]
      exact hof.interpret
    · rw [if_neg hrequired]
      exact hof.required
    · rw [if_neg hforbidden]
      exact hof.forbidden
    · rw [if_neg hscenario]
      exact hof.scenarios

/-- What a header has is well formed. -/
theorem soundPragmas (hof : h.Of lines) : SoundPragmas lines where
  once := by
    simp only [List.forall_mem_cons, List.not_mem_nil, false_imp_iff, implies_true, and_true]
    exact ⟨length_le_one hof.compiler, length_le_one hof.interpret, length_le_one hof.required,
      length_le_one hof.forbidden⟩
  codes := by
    simp only [List.forall_mem_cons, List.not_mem_nil, false_imp_iff, implies_true, and_true]
    exact ⟨fun _ => codes_of_forall₂ hof.compiler, fun _ => codes_of_forall₂ hof.interpret⟩
  features := by
    simp only [List.forall_mem_cons, List.not_mem_nil, false_imp_iff, implies_true, and_true]
    exact ⟨fun _ => features_of_forall₂ hof.required, fun _ => features_of_forall₂ hof.forbidden⟩
  scenarios _ := scenario_of_forall₂ hof.scenarios

/-- A well-formed pragma can be added. -/
theorem exists_add (hof : h.Of lines) (span : Span) {keyword : String} {args : List String}
    (hline : pragmaWords line = keyword :: args) (hsound : SoundPragmas (lines ++ [line])) :
    ∃ h', h.add span keyword args = .ok h' := by
  have hargs : args ∈ argsOf keyword (lines ++ [line]) := by
    rw [argsOf_pragma hline, if_pos rfl]
    exact List.mem_append_right _ List.mem_cons_self
  unfold Header.add
  split
  · obtain ⟨set, hset⟩ := exists_readsCodes.mpr (hsound.codes _ (by simp) args hargs)
    exact exists_filled hof.compiler hline (hsound.once _ (by simp)) ((codes_eq_ok _).mpr hset) _
  · obtain ⟨set, hset⟩ := exists_readsCodes.mpr (hsound.codes _ (by simp) args hargs)
    exact exists_filled hof.interpret hline (hsound.once _ (by simp)) ((codes_eq_ok _).mpr hset) _
  · obtain ⟨set, hset⟩ := exists_readsFeatures.mpr (hsound.features _ (by simp) args hargs)
    exact exists_filled hof.required hline (hsound.once _ (by simp)) (features_eq_ok.mpr hset) _
  · obtain ⟨set, hset⟩ := exists_readsFeatures.mpr (hsound.features _ (by simp) args hargs)
    exact exists_filled hof.forbidden hline (hsound.once _ (by simp)) (features_eq_ok.mpr hset) _
  · obtain ⟨file, words, rfl, hwords⟩ := hsound.scenarios args hargs
    cases words with
    | nil => exact ⟨_, rfl⟩
    | cons word words =>
      obtain ⟨set, hset⟩ := exists_readsCodes.mpr ⟨List.cons_ne_nil word words, hwords⟩
      exact ⟨_, map_eq_ok.mpr ⟨set, (codes_eq_ok _).mpr hset, rfl⟩⟩
  · exact ⟨h, rfl⟩

end Header.Of
end Conformance.Annotated
