import Conformance.Manifest.Load
import Conformance.Proofs.Expectation
import Conformance.Proofs.Fresh
import Conformance.Proofs.Group.Graph
import Conformance.Proofs.Success

/-!
# The tests of a manifest

Among distinct names a name and the position that it stands at determine each other. So what a
manifest says by names a corpus can say by positions, and back.

A test entry is sound if its file can be read, it gives no empty list of codes, and it names
registered extensions only, none of them on both sides. Sound entries are those that become cases,
and a case has what its entry says.
-/
namespace Conformance

variable {known : List String} {name : String} {i : Nat}

theorem idxOf?_eq_some_iff_of_nodup (h : known.Nodup) :
    known.idxOf? name = some i ↔ known[i]? = some name := by
  rw [List.idxOf?_eq_some_iff, List.getElem?_eq_some_iff]
  constructor
  · rintro ⟨hi, hname, -⟩
    exact ⟨hi, hname⟩
  · rintro ⟨hi, hname⟩
    refine ⟨hi, hname, fun j hj hjname => ?_⟩
    have hij : j = i := (h.getElem_inj_iff).mp (hjname.trans hname.symm)
    exact absurd hij (Nat.ne_of_lt hj)

/-- The name at a position. -/
def nameAt (known : List String) (i : Nat) : String :=
  (known[i]?).getD ""

theorem nameAt_inj (h : known.Nodup) {j : Nat} (hi : i < known.length) (hj : j < known.length)
    (heq : nameAt known i = nameAt known j) : i = j := by
  simp only [nameAt, List.getElem?_eq_getElem hi, List.getElem?_eq_getElem hj,
    Option.getD_some] at heq
  exact (h.getElem_inj_iff).mp heq

theorem getElem?_eq_some_iff_nameAt :
    known[i]? = some name ↔ i < known.length ∧ nameAt known i = name := by
  rw [List.getElem?_eq_some_iff]
  constructor
  · rintro ⟨hi, rfl⟩
    exact ⟨hi, by simp [nameAt, hi]⟩
  · rintro ⟨hi, rfl⟩
    exact ⟨hi, by simp [nameAt, hi]⟩

/-- Positions of names are positions in range at which these names stand. -/
theorem forall₂_getElem?_iff {ns : List String} {is : List Nat} :
    List.Forall₂ (fun n i => known[i]? = some n) ns is ↔
      (∀ i ∈ is, i < known.length) ∧ is.map (nameAt known) = ns := by
  induction is generalizing ns with
  | nil => simp [eq_comm]
  | cons i is ih =>
    rw [List.forall₂_cons_right_iff]
    simp only [getElem?_eq_some_iff_nameAt] at ih ⊢
    simp only [ih, List.forall_mem_cons, List.map_cons]
    constructor
    · rintro ⟨n, others, ⟨hi, rfl⟩, ⟨his, rfl⟩, rfl⟩
      exact ⟨⟨hi, his⟩, rfl⟩
    · rintro ⟨⟨hi, his⟩, rfl⟩
      exact ⟨_, _, ⟨hi, rfl⟩, ⟨his, rfl⟩, rfl⟩

namespace Corpus

theorem lastIndexOf?_eq_none : lastIndexOf? known name = none ↔ name ∉ known := by
  simp [lastIndexOf?]

theorem lastIndexOf?_eq_some (h : known.Nodup) :
    lastIndexOf? known name = some i ↔ known[i]? = some name := by
  simp only [lastIndexOf?, Option.map_eq_some_iff,
    idxOf?_eq_some_iff_of_nodup (List.nodup_reverse.mpr h)]
  constructor
  · rintro ⟨k, hk, rfl⟩
    have hlt : k < known.length := by simpa using (List.getElem?_eq_some_iff.mp hk).1
    rwa [List.getElem?_reverse hlt] at hk
  · intro hi
    have hlt : i < known.length := (List.getElem?_eq_some_iff.mp hi).1
    refine ⟨known.length - 1 - i, ?_, by omega⟩
    rw [List.getElem?_reverse (by omega), ← hi]
    congr 1
    omega

variable {c : Corpus}

theorem lookup_eq_none : c.lookup name = none ↔ name ∉ c.names := by
  rw [names, List.mem_append, not_or, ← lastIndexOf?_eq_none, ← lastIndexOf?_eq_none, lookup]
  cases lastIndexOf? (c.groups.map (·.name)) name <;> simp

theorem lookup_eq_group (h : c.names.Nodup) :
    c.lookup name = some (.group i) ↔ ∃ g, c.groups[i]? = some g ∧ g.name = name := by
  have hi : lastIndexOf? (c.groups.map (·.name)) name = some i ↔ _ :=
    lastIndexOf?_eq_some (List.nodup_append.mp h).2.1
  rw [List.getElem?_map, Option.map_eq_some_iff] at hi
  rw [← hi, lookup]
  cases lastIndexOf? (c.groups.map (·.name)) name <;> simp

theorem lookup_eq_test (h : c.names.Nodup) :
    c.lookup name = some (.test i) ↔ ∃ t, c.tests[i]? = some t ∧ t.name = name := by
  obtain ⟨htests, -, hapart⟩ := List.nodup_append.mp h
  have hi : lastIndexOf? (c.tests.map (·.name)) name = some i ↔ _ := lastIndexOf?_eq_some htests
  rw [List.getElem?_map, Option.map_eq_some_iff] at hi
  rw [← hi, lookup]
  cases hg : lastIndexOf? (c.groups.map (·.name)) name with
  | none => simp
  | some j =>
    have hgroup : name ∈ c.groups.map (·.name) := by
      by_contra hn
      rw [lastIndexOf?_eq_none.mpr hn] at hg
      cases hg
    have htest : lastIndexOf? (c.tests.map (·.name)) name = none :=
      lastIndexOf?_eq_none.mpr fun hn => hapart name hn name hgroup rfl
    simp [htest]

end Corpus

namespace Manifest.Source

theorem repeated?_eq_none {seen ns : List String} : repeated? seen ns = none ↔ Fresh ns seen := by
  induction ns generalizing seen with
  | nil => simp [repeated?]
  | cons n ns ih =>
    rw [repeated?, fresh_cons]
    by_cases hn : n ∈ seen
    · simp [hn]
    · simp [hn, ih]

/-- Names have positions exactly if every one of them is known. -/
theorem positions_eq_ok {unknown : String → Fault} {ns : List String} {is : List Nat}
    (h : known.Nodup) :
    positions known unknown ns = .ok is ↔ List.Forall₂ (fun n i => known[i]? = some n) ns is := by
  induction ns generalizing is with
  | nil => simp [positions, eq_comm]
  | cons n ns ih =>
    rw [positions, List.forall₂_cons_left_iff]
    simp only [← idxOf?_eq_some_iff_of_nodup h] at ih ⊢
    cases known.idxOf? n with
    | none => simp
    | some j =>
      simp only [map_eq_ok, ih]
      constructor
      · rintro ⟨others, hothers, rfl⟩
        exact ⟨j, others, rfl, hothers, rfl⟩
      · rintro ⟨j', others, hj, hothers, rfl⟩
        obtain rfl := Option.some.inj hj
        exact ⟨others, hothers, rfl⟩

/-- Known names have positions. -/
theorem exists_positions (unknown : String → Fault) {ns : List String}
    (h : ∀ n ∈ ns, n ∈ known) : ∃ is, positions known unknown ns = .ok is := by
  induction ns with
  | nil => exact ⟨[], rfl⟩
  | cons n ns ih =>
    obtain ⟨hn, hns⟩ := List.forall_mem_cons.mp h
    obtain ⟨is, his⟩ := ih hns
    cases hi : known.idxOf? n with
    | none => exact absurd hn (List.idxOf?_eq_none_iff.mp hi)
    | some i => exact ⟨i :: is, by simp [positions, hi, his, Except.map]⟩

end Manifest.Source

/-! ## Entries and cases -/

namespace Manifest

/-- What is asked of a test entry, whose file is seen from a folder. -/
structure TestEntry.Sound (e : TestEntry) (folder : Path) (files : FileTree) : Prop where
  readable : ∃ text, files.readText (folder.join ⟨e.file⟩) = .ok text
  compiler : e.compilerCodes ≠ some []
  interpret : e.interpretCodes ≠ some []
  registered : ∀ n ∈ e.required.getD [] ++ e.forbidden.getD [], ∃ f : Feature, f.name = n
  consistent : ∀ n ∈ e.required.getD [], n ∉ e.forbidden.getD []

/-- The case is what the entry says. -/
structure TestEntry.Yields (e : TestEntry) (folder : Path) (files : FileTree) (t : TestCase) :
    Prop where
  name : t.name = e.name
  description : t.description = e.description
  origin : t.origin = folder.join ⟨e.file⟩
  source : files.readText (folder.join ⟨e.file⟩) = .ok t.source
  compilerCodes : t.compilerCodes.Of (e.compilerCodes.getD [0])
  interpretCodes : t.interpretCodes.Of (e.interpretCodes.getD [0])
  required : t.required.Of (e.required.getD [])
  forbidden : t.forbidden.Of (e.forbidden.getD [])
  input : t.input = e.input

namespace Source

variable {s : Source} {files : FileTree}

theorem codes_eq_ok {field test : String} {given : Option (List Int)} {set : CodeSet} :
    s.codes field test given = .ok set ↔ given ≠ some [] ∧ set.Of (given.getD [0]) := by
  cases given with
  | none =>
    refine ⟨?_, fun h => ?_⟩
    · rintro ⟨⟩
      exact ⟨nofun, CodeSet.success_of⟩
    · rw [codes, CodeSet.success_of.unique h.2]
  | some cs =>
    have hne : some cs ≠ some [] ↔ cs ≠ [] := by simp
    rw [hne, Option.getD_some, ← CodeSet.ofList?_eq_some, codes]
    cases CodeSet.ofList? cs <;> simp

theorem exists_codes (field test : String) {given : Option (List Int)} (h : given ≠ some []) :
    ∃ set, s.codes field test given = .ok set := by
  have hne : given.getD [0] ≠ [] := by
    cases given with
    | none => simp
    | some cs => simpa using h
  obtain ⟨set, hset⟩ := CodeSet.exists_of hne
  exact ⟨set, codes_eq_ok.mpr ⟨h, hset⟩⟩

theorem features_eq_ok {test : String} {names : Option (List String)} {set : FeatureSet} :
    s.features test names = .ok set ↔
      (∀ n ∈ names.getD [], ∃ f : Feature, f.name = n) ∧ set.Of (names.getD []) := by
  rw [← parseFeatures_eq_ok, features]
  cases parseFeatures (names.getD []) <;> simp

theorem exists_features (test : String) {names : Option (List String)}
    (h : ∀ n ∈ names.getD [], ∃ f : Feature, f.name = n) :
    ∃ set, s.features test names = .ok set := by
  obtain ⟨set, hset⟩ := FeatureSet.exists_of (names.getD [])
  exact ⟨set, features_eq_ok.mpr ⟨h, hset⟩⟩

theorem program_eq (e : TestEntry) :
    s.program files e =
      match files.readText (s.folder.join ⟨e.file⟩) with
      | .ok text => .ok text
      | .error error =>
        .error (s.located (.unreadableFile (s.folder.join ⟨e.file⟩) e.name error) e.file) := by
  exact rfl

theorem program_eq_ok {e : TestEntry} {text : String} :
    s.program files e = .ok text ↔ files.readText (s.folder.join ⟨e.file⟩) = .ok text := by
  rw [program_eq]
  cases files.readText (s.folder.join ⟨e.file⟩) <;> simp

/-- An entry becomes a case exactly if it is sound and the case is what it says. -/
theorem test_eq_ok {e : TestEntry} {t : TestCase} :
    s.test files e = .ok t ↔ e.Sound s.folder files ∧ e.Yields s.folder files t := by
  have hconflicts : ∀ {required forbidden : FeatureSet},
      (∀ n ∈ e.required.getD [], ∃ f : Feature, f.name = n) → required.Of (e.required.getD []) →
      forbidden.Of (e.forbidden.getD []) →
      ((required.inter forbidden).isEmpty = true ↔
        ∀ n ∈ e.required.getD [], n ∉ e.forbidden.getD []) :=
    fun hregistered hr hf => FeatureSet.isEmpty_inter_iff hr hf hregistered
  unfold test
  simp only [bind_eq_ok, program_eq_ok, codes_eq_ok, features_eq_ok]
  constructor
  · rintro ⟨text, htext, compiler, ⟨hc, hcof⟩, interpret, ⟨hi, hiof⟩, required, ⟨hr, hrof⟩,
      forbidden, ⟨hf, hfof⟩, h⟩
    split at h
    · rename_i hempty
      obtain rfl := Except.ok.inj h
      refine ⟨⟨⟨text, htext⟩, hc, hi, fun n hn => ?_, (hconflicts hr hrof hfof).mp hempty⟩,
        ⟨rfl, rfl, rfl, htext, hcof, hiof, hrof, hfof, rfl⟩⟩
      rcases List.mem_append.mp hn with hn | hn
      · exact hr n hn
      · exact hf n hn
    · cases h
  · rintro ⟨hsound, hyields⟩
    have hr : ∀ n ∈ e.required.getD [], ∃ f : Feature, f.name = n := fun n hn =>
      hsound.registered n (List.mem_append_left _ hn)
    have hf : ∀ n ∈ e.forbidden.getD [], ∃ f : Feature, f.name = n := fun n hn =>
      hsound.registered n (List.mem_append_right _ hn)
    refine ⟨t.source, hyields.source, t.compilerCodes, ⟨hsound.compiler, hyields.compilerCodes⟩,
      t.interpretCodes, ⟨hsound.interpret, hyields.interpretCodes⟩, t.required,
      ⟨hr, hyields.required⟩, t.forbidden, ⟨hf, hyields.forbidden⟩, ?_⟩
    refine (if_pos ((hconflicts hr hyields.required hyields.forbidden).mpr
      hsound.consistent)).trans ?_
    cases t
    obtain ⟨rfl, rfl, rfl, -, -, -, -, -, rfl⟩ := hyields
    rfl

/-- A sound entry becomes a case. -/
theorem exists_test {e : TestEntry} (h : e.Sound s.folder files) :
    ∃ t, s.test files e = .ok t := by
  obtain ⟨text, htext⟩ := h.readable
  obtain ⟨compiler, hc⟩ := exists_codes (s := s) "compiler-codes" e.name h.compiler
  obtain ⟨interpret, hi⟩ := exists_codes (s := s) "interpret-codes" e.name h.interpret
  obtain ⟨required, hr⟩ := exists_features (s := s) e.name fun n hn =>
    h.registered n (List.mem_append_left _ hn)
  obtain ⟨forbidden, hf⟩ := exists_features (s := s) e.name fun n hn =>
    h.registered n (List.mem_append_right _ hn)
  let t : TestCase :=
    { name := e.name, description := e.description, origin := s.folder.join ⟨e.file⟩
      source := text, compilerCodes := compiler, interpretCodes := interpret
      required, forbidden, input := e.input }
  refine ⟨t, test_eq_ok.mpr ⟨h, ?_⟩⟩
  exact ⟨rfl, rfl, rfl, htext, (codes_eq_ok.mp hc).2, (codes_eq_ok.mp hi).2,
    (features_eq_ok.mp hr).2, (features_eq_ok.mp hf).2, rfl⟩

theorem tests_cons (seen : List String) (e : TestEntry) (es : List TestEntry) :
    s.tests files seen (e :: es) =
      if seen.contains e.name then .error (s.located (.repeatedName e.name) e.name)
      else
        match s.test files e with
        | .error fault => .error fault
        | .ok case => (s.tests files (e.name :: seen) es).map (case :: ·) := by
  exact rfl

/-- Entries become cases one by one, as long as no name repeats. -/
theorem tests_eq_ok {seen : List String} {es : List TestEntry} {cases : List TestCase} :
    s.tests files seen es = .ok cases ↔ Fresh (es.map (·.name)) seen ∧
      List.Forall₂ (fun e t => s.test files e = .ok t) es cases := by
  induction es generalizing seen cases with
  | nil =>
    have hnil : s.tests files seen [] = .ok [] := rfl
    simp [hnil, eq_comm]
  | cons e es ih =>
    rw [tests_cons, List.map_cons, fresh_cons, List.forall₂_cons_left_iff]
    by_cases hseen : e.name ∈ seen
    · simp [hseen]
    · rw [if_neg (by simpa using hseen)]
      cases ht : s.test files e with
      | error fault => simp
      | ok t =>
        simp only [map_eq_ok, ih]
        constructor
        · rintro ⟨others, ⟨hfresh, hothers⟩, rfl⟩
          exact ⟨⟨hseen, hfresh⟩, t, others, rfl, hothers, rfl⟩
        · rintro ⟨⟨-, hfresh⟩, t', others, ht', hothers, rfl⟩
          obtain rfl := Except.ok.inj ht'
          exact ⟨others, ⟨hfresh, hothers⟩, rfl⟩

end Source
end Manifest
end Conformance
