import Conformance.TestCase
import Mathlib.Data.List.Sort

/-!
# What expectations are made of

A set of codes or of extensions is told by what was written: `Of` says which codes or names those
were. Reading them gives the one set that is of them, and fails exactly if it may not be given: no
code at all, or a name that is not registered.
-/
namespace Conformance

namespace CodeSet

/-- The set holds exactly these codes. -/
def Of (s : CodeSet) (codes : List Int) : Prop :=
  ∀ x, s.contains x = true ↔ x ∈ codes

theorem Of.unique {s t : CodeSet} {codes : List Int} (hs : s.Of codes) (ht : t.Of codes) :
    s = t := by
  have hmem : ∀ x, x ∈ s.codes ↔ x ∈ t.codes := by
    intro x
    have h := (hs x).trans (ht x).symm
    simpa [contains] using h
  have hcodes : s.codes = t.codes := s.ascending.eq_of_mem_iff t.ascending hmem
  cases s
  cases t
  obtain rfl := hcodes
  rfl

/-- A set can be made of codes exactly if there are any. -/
theorem ofList?_eq_some {codes : List Int} {s : CodeSet} :
    ofList? codes = some s ↔ codes ≠ [] ∧ s.Of codes := by
  constructor
  · intro h
    refine ⟨?_, contains_ofList? h⟩
    rintro rfl
    cases h
  · rintro ⟨hne, hs⟩
    obtain ⟨t, ht⟩ := Option.ne_none_iff_exists'.mp fun hn => hne (ofList?_eq_none.mp hn)
    rw [ht, Of.unique (contains_ofList? ht) hs]

theorem exists_of {codes : List Int} (hne : codes ≠ []) : ∃ s : CodeSet, s.Of codes := by
  obtain ⟨s, hs⟩ := Option.ne_none_iff_exists'.mp (mt ofList?_eq_none.mp hne)
  exact ⟨s, (ofList?_eq_some.mp hs).2⟩

theorem success_of : success.Of [0] := by
  intro x
  simp [contains, success]

/-- The set that accepts zero only is told by its codes. -/
theorem isSuccessOnly_iff {s : CodeSet} {codes : List Int} (h : s.Of codes) (hne : codes ≠ []) :
    s.isSuccessOnly = true ↔ ∀ x ∈ codes, x = 0 := by
  constructor
  · intro hs x hx
    have hcontains := (h x).mpr hx
    simpa [contains, beq_iff_eq.mp hs] using hcontains
  · intro hzero
    have hof : success.Of codes := by
      intro x
      rw [success_of x, List.mem_singleton]
      refine ⟨?_, hzero x⟩
      rintro rfl
      obtain ⟨y, hy⟩ := List.exists_mem_of_ne_nil codes hne
      exact hzero y hy ▸ hy
    rw [h.unique hof]
    rfl

end CodeSet

namespace FeatureSet

/-- The set holds exactly the extensions with these names. -/
def Of (s : FeatureSet) (names : List String) : Prop :=
  ∀ f, s.has f = true ↔ f.name ∈ names

theorem Of.unique {s t : FeatureSet} {names : List String} (hs : s.Of names) (ht : t.Of names) :
    s = t := by
  cases s
  cases t
  congr
  funext f
  exact Bool.eq_iff_iff.mpr ((hs f).trans (ht f).symm)

theorem exists_of (names : List String) : ∃ s : FeatureSet, s.Of names :=
  ⟨⟨fun f => names.contains f.name⟩, fun f => by simp⟩

theorem empty_of : empty.Of [] := by
  intro f
  simp [empty]

/-- Sets conflict exactly if they were made of a common name. -/
theorem isEmpty_inter_iff {s t : FeatureSet} {required forbidden : List String}
    (hs : s.Of required) (ht : t.Of forbidden)
    (hregistered : ∀ n ∈ required, ∃ f : Feature, f.name = n) :
    (s.inter t).isEmpty = true ↔ ∀ n ∈ required, n ∉ forbidden := by
  have hnone : (s.inter t).isEmpty = true ↔ ∀ f, ¬(s.has f = true ∧ t.has f = true) := by
    rw [isEmpty, List.isEmpty_iff, List.eq_nil_iff_forall_not_mem]
    simp only [mem_toList, inter, Bool.and_eq_true]
  rw [hnone]
  constructor
  · intro h n hn hforbidden
    obtain ⟨f, rfl⟩ := hregistered n hn
    exact h f ⟨(hs f).mpr hn, (ht f).mpr hforbidden⟩
  · rintro h f ⟨hsf, htf⟩
    exact h f.name ((hs f).mp hsf) ((ht f).mp htf)

end FeatureSet

theorem Feature.isNone_ofName? {n : String} :
    (Feature.ofName? n).isNone = true ↔ ¬∃ f : Feature, f.name = n := by
  rw [Option.isNone_iff_eq_none]
  constructor
  · rintro h ⟨f, rfl⟩
    rw [ofName?_name] at h
    cases h
  · intro h
    refine Option.eq_none_iff_forall_not_mem.mpr fun f hf => ?_
    exact h ⟨f, name_of_ofName? hf⟩

/-- Names are read as a set of extensions exactly if all of them are registered. -/
theorem parseFeatures_eq_ok {names : List String} {s : FeatureSet} :
    parseFeatures names = .ok s ↔ (∀ n ∈ names, ∃ f : Feature, f.name = n) ∧ s.Of names := by
  have hof : (FeatureSet.ofList (names.filterMap Feature.ofName?)).Of names := by
    intro f
    simp only [FeatureSet.ofList, List.contains_iff_mem, List.mem_filterMap]
    constructor
    · rintro ⟨n, hn, hf⟩
      rwa [Feature.name_of_ofName? hf]
    · intro hn
      exact ⟨f.name, hn, Feature.ofName?_name f⟩
  have hall : (names.find? fun n => (Feature.ofName? n).isNone) = none ↔
      ∀ n ∈ names, ∃ f : Feature, f.name = n := by
    rw [List.find?_eq_none]
    simp only [Feature.isNone_ofName?, not_not]
  rw [parseFeatures]
  cases hfind : names.find? fun n => (Feature.ofName? n).isNone with
  | some unknown =>
    refine ⟨nofun, fun h => ?_⟩
    rw [hall.mpr h.1] at hfind
    cases hfind
  | none =>
    constructor
    · rintro ⟨⟩
      exact ⟨hall.mp hfind, hof⟩
    · rintro ⟨-, hs⟩
      rw [hof.unique hs]

end Conformance
