import Conformance.Proofs.Selection.Firsts

/-!
# What a plan sorts out

A plan keeps the first case of each name and counts the others. Of the cases that it keeps, those
are run whose required extensions are all implemented and whose forbidden ones are not; each other
one is skipped for the first extension, in the order of the registry, that stands against it, and
one that is missing goes before one that is too many. A plan of the cases that a plan keeps is that
plan again, without duplicates.
-/
namespace Conformance

namespace Feature

/-- The place of an extension in the registry. -/
def rank (f : Feature) : Nat :=
  registry.idxOf f

/-- Among the extensions with a property, the one that stands first in the registry. -/
structure LeastOf (p : Feature → Prop) (f : Feature) : Prop where
  holds : p f
  first : ∀ g, p g → f.rank ≤ g.rank

theorem LeastOf.unique {p : Feature → Prop} {f g : Feature} (hf : LeastOf p f) (hg : LeastOf p g) :
    f = g := by
  have hrank : f.rank = g.rank := Nat.le_antisymm (hf.first g hg.holds) (hg.first f hf.holds)
  exact (List.idxOf_inj (mem_registry f)).mp hrank

end Feature

namespace FeatureSet

open Feature (LeastOf)

variable {s : FeatureSet}

theorem leastOf_of_least? {f : Feature} (h : s.least? = some f) :
    LeastOf (fun g => s.has g = true) f := by
  rw [least?, toList, List.head?_filter] at h
  obtain ⟨hf, before, after, hregistry, hbefore⟩ := List.find?_eq_some_iff_append.mp h
  refine ⟨hf, fun g hg => ?_⟩
  -- No member stands before `f`, so each one has a place from there on.
  have hlater : ∀ g, s.has g = true → g ∉ before := fun g hg hmem => by
    have hno := hbefore g hmem
    rw [hg] at hno
    cases hno
  rw [Feature.rank, Feature.rank, hregistry, List.idxOf_append_of_notMem (hlater f hf),
    List.idxOf_append_of_notMem (hlater g hg), List.idxOf_cons_self]
  exact Nat.le_add_right _ _

theorem least?_eq_none : s.least? = none ↔ ∀ f, s.has f = false := by
  rw [least?, List.head?_eq_none_iff, List.eq_nil_iff_forall_not_mem]
  simp only [mem_toList, Bool.not_eq_true]

theorem least?_eq_some {f : Feature} :
    s.least? = some f ↔ LeastOf (fun g => s.has g = true) f := by
  refine ⟨leastOf_of_least?, fun h => ?_⟩
  cases hs : s.least? with
  | none =>
    have hnone := least?_eq_none.mp hs f
    rw [h.holds] at hnone
    cases hnone
  | some g => rw [(leastOf_of_least? hs).unique h]

end FeatureSet

namespace TestCase

open Feature (LeastOf)

variable {c : TestCase} {implemented : FeatureSet}

/-- The compiler has all extensions that the case requires. -/
def Served (c : TestCase) (implemented : FeatureSet) : Prop :=
  ∀ f, c.required.has f = true → implemented.has f = true

/-- The compiler has none of the extensions that the case forbids. -/
def Unhindered (c : TestCase) (implemented : FeatureSet) : Prop :=
  ∀ f, c.forbidden.has f = true → implemented.has f = false

/-- What is told of a case that such a compiler cannot run. -/
inductive Barred (c : TestCase) (implemented : FeatureSet) : String → Prop
  | missing {f : Feature} :
      LeastOf (fun g => c.required.has g = true ∧ implemented.has g = false) f →
      Barred c implemented ("extension " ++ f.name ++ " is not implemented but required")
  | present {f : Feature} : c.Served implemented →
      LeastOf (fun g => c.forbidden.has g = true ∧ implemented.has g = true) f →
      Barred c implemented ("extension " ++ f.name ++ " is implemented but not allowed")

theorem least?_missing_eq_some {f : Feature} :
    (c.required.diff implemented).least? = some f ↔
      LeastOf (fun g => c.required.has g = true ∧ implemented.has g = false) f := by
  rw [FeatureSet.least?_eq_some]
  simp [FeatureSet.diff]

theorem least?_missing_eq_none :
    (c.required.diff implemented).least? = none ↔ c.Served implemented := by
  rw [FeatureSet.least?_eq_none]
  simp [FeatureSet.diff, Served]

theorem least?_present_eq_some {f : Feature} :
    (c.forbidden.inter implemented).least? = some f ↔
      LeastOf (fun g => c.forbidden.has g = true ∧ implemented.has g = true) f := by
  rw [FeatureSet.least?_eq_some]
  simp [FeatureSet.inter]

theorem least?_present_eq_none :
    (c.forbidden.inter implemented).least? = none ↔ c.Unhindered implemented := by
  rw [FeatureSet.least?_eq_none]
  simp [FeatureSet.inter, Unhindered]

theorem skipReason?_eq_none :
    c.skipReason? implemented = none ↔ c.Served implemented ∧ c.Unhindered implemented := by
  rw [skipReason?, ← least?_missing_eq_none, ← least?_present_eq_none]
  cases (c.required.diff implemented).least? <;> simp

theorem barred_of_skipReason? {reason : SkipReason} (h : c.skipReason? implemented = some reason) :
    c.Barred implemented reason.text := by
  rw [skipReason?] at h
  cases hmissing : (c.required.diff implemented).least? with
  | some f =>
    rw [hmissing] at h
    obtain rfl := Option.some.inj h
    exact .missing (least?_missing_eq_some.mp hmissing)
  | none =>
    rw [hmissing] at h
    obtain ⟨f, hpresent, rfl⟩ := Option.map_eq_some_iff.mp h
    exact .present (least?_missing_eq_none.mp hmissing) (least?_present_eq_some.mp hpresent)

end TestCase

namespace Plan

variable {cases : List TestCase} {implemented : FeatureSet}

/-- What a plan is made of that sorts out these cases. -/
structure SortsOut (cases : List TestCase) (implemented : FeatureSet) (plan : Plan) : Prop where
  firsts : FirstOfName cases (plan.entries.map (·.case))
  counted : plan.entries.length + plan.duplicates = cases.length
  run_iff : ∀ e ∈ plan.entries,
    e.skip = none ↔ e.case.Served implemented ∧ e.case.Unhindered implemented
  barred : ∀ e ∈ plan.entries, ∀ reason, e.skip = some reason →
    e.case.Barred implemented reason.text
  parted : plan.runnable + plan.skipped = plan.entries.length

theorem skip_of_mem_build {e : PlannedCase} (h : e ∈ (build cases implemented).entries) :
    e.skip = e.case.skipReason? implemented := by
  obtain ⟨c, -, rfl⟩ := List.mem_map.mp h
  rfl

theorem runnable_add_skipped (p : Plan) : p.runnable + p.skipped = p.entries.length :=
  Nat.add_sub_of_le List.countP_le_length

theorem build_sortsOut (cases : List TestCase) (implemented : FeatureSet) :
    SortsOut cases implemented (build cases implemented) where
  firsts := by
    rw [build_cases]
    exact firsts_firstOfName cases
  counted := length_add_duplicates cases implemented
  run_iff e he := by rw [skip_of_mem_build he, TestCase.skipReason?_eq_none]
  barred e he reason hreason := by
    rw [skip_of_mem_build he] at hreason
    exact TestCase.barred_of_skipReason? hreason
  parted := runnable_add_skipped _

/-- The first cases of their names are their own first cases. -/
theorem firsts_firsts (cases : List TestCase) : firsts (firsts cases) = firsts cases := by
  have h : firsts (firsts cases ++ []) = firsts cases :=
    firsts_append (firsts_firstOfName cases).distinct nofun
  rwa [List.append_nil] at h

/-- Planning the cases that a plan keeps changes nothing but the count of duplicates. -/
theorem build_build (cases : List TestCase) (implemented : FeatureSet) :
    build ((build cases implemented).entries.map (·.case)) implemented =
      { build cases implemented with duplicates := 0 } := by
  rw [build_cases, build, firsts_firsts, Nat.sub_self]
  rfl

/-- A plan that is built sorts out its cases, and to build it again from what it keeps changes
nothing. -/
theorem built_once (cases : List TestCase) (implemented : FeatureSet) :
    SortsOut cases implemented (build cases implemented) ∧
      build ((build cases implemented).entries.map (·.case)) implemented =
        { build cases implemented with duplicates := 0 } :=
  ⟨build_sortsOut cases implemented, build_build cases implemented⟩

end Plan
end Conformance
