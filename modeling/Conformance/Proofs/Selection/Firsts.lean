import Conformance.Plan
import Conformance.Proofs.Fresh

/-!
# The first case of each name

A plan keeps of the cases that have one name the first, and counts the others. So the cases that it
keeps are in the order in which their names were first seen.
-/
namespace Conformance.Plan

variable {seen : List String} {cases : List TestCase}

/-- These are the first cases of their names, in the order of the cases. -/
structure FirstOfName (cases kept : List TestCase) : Prop where
  distinct : (kept.map (·.name)).Nodup
  mem_iff : ∀ x, x ∈ kept ↔ cases.find? (·.name == x.name) = some x
  order : kept.Pairwise fun x y => cases.idxOf x < cases.idxOf y

theorem fresh_firstsAfter (seen : List String) (cases : List TestCase) :
    Fresh ((firstsAfter seen cases).map (·.name)) seen := by
  induction cases generalizing seen with
  | nil => exact fresh_nil seen
  | cons x cases ih =>
    rw [firstsAfter]
    by_cases hx : x.name ∈ seen
    · simpa [hx] using ih seen
    · rw [if_neg (by simpa using hx), List.map_cons, fresh_cons]
      exact ⟨hx, ih _⟩

theorem mem_firstsAfter {x : TestCase} :
    x ∈ firstsAfter seen cases ↔
      x.name ∉ seen ∧ cases.find? (·.name == x.name) = some x := by
  induction cases generalizing seen with
  | nil => simp [firstsAfter]
  | cons y cases ih =>
    rw [firstsAfter, List.find?_cons]
    by_cases hy : y.name ∈ seen
    · rw [if_pos (by simpa using hy), ih]
      by_cases hxy : y.name = x.name
      · simp [← hxy, hy]
      · simp [beq_false_of_ne hxy]
    · rw [if_neg (by simpa using hy), List.mem_cons, ih]
      by_cases hxy : y.name = x.name
      · simp only [hxy, BEq.rfl, List.mem_cons_self, not_true, false_and, or_false,
          Option.some.injEq]
        constructor
        · rintro rfl
          exact ⟨hy, rfl⟩
        · rintro ⟨-, rfl⟩
          rfl
      · have hne : x ≠ y := fun h => hxy (h ▸ rfl)
        simp [beq_false_of_ne hxy, hne, Ne.symm hxy]

theorem firstsAfter_order (seen : List String) (cases : List TestCase) :
    (firstsAfter seen cases).Pairwise fun x y => cases.idxOf x < cases.idxOf y := by
  induction cases generalizing seen with
  | nil => exact .nil
  | cons c cases ih =>
    -- Behind a case of another name everything stands one place later.
    have hlater : ∀ {seen : List String}, c.name ∈ seen →
        (firstsAfter seen cases).Pairwise fun x y =>
          (c :: cases).idxOf x < (c :: cases).idxOf y := by
      intro seen hseen
      have hne : ∀ x ∈ firstsAfter seen cases, c ≠ x := by
        rintro x hx rfl
        exact (mem_firstsAfter.mp hx).1 hseen
      refine (ih seen).imp_of_mem fun hx hy hlt => ?_
      rw [List.idxOf_cons_ne _ (hne _ hx), List.idxOf_cons_ne _ (hne _ hy)]
      exact Nat.succ_lt_succ hlt
    rw [firstsAfter]
    by_cases hc : c.name ∈ seen
    · rw [if_pos (by simpa using hc)]
      exact hlater hc
    · rw [if_neg (by simpa using hc)]
      refine List.pairwise_cons.mpr ⟨fun x hx => ?_, hlater List.mem_cons_self⟩
      have hne : c ≠ x := by
        rintro rfl
        exact (mem_firstsAfter.mp hx).1 List.mem_cons_self
      rw [List.idxOf_cons_self, List.idxOf_cons_ne _ hne]
      exact Nat.succ_pos _

theorem firsts_firstOfName (cases : List TestCase) : FirstOfName cases (firsts cases) where
  distinct := (fresh_firstsAfter [] cases).1
  mem_iff x := by simp [firsts, mem_firstsAfter]
  order := firstsAfter_order [] cases

/-- Where every case has a name of its own, all cases are kept. -/
theorem mem_firsts (h : ∀ x ∈ cases, ∀ y ∈ cases, x.name = y.name → x = y) {x : TestCase} :
    x ∈ firsts cases ↔ x ∈ cases := by
  rw [(firsts_firstOfName cases).mem_iff]
  constructor
  · exact List.mem_of_find?_eq_some
  · intro hx
    cases hy : cases.find? (·.name == x.name) with
    | none => simpa using List.find?_eq_none.mp hy x hx
    | some y =>
      have hname : y.name = x.name := by simpa using List.find?_some hy
      rw [h y (List.mem_of_find?_eq_some hy) x hx hname]

theorem length_firstsAfter_le (seen : List String) (cases : List TestCase) :
    (firstsAfter seen cases).length ≤ cases.length := by
  induction cases generalizing seen with
  | nil => exact Nat.le_refl 0
  | cons c cases ih =>
    rw [firstsAfter]
    split
    · exact Nat.le_succ_of_le (ih seen)
    · exact Nat.succ_le_succ (ih _)

theorem firstsAfter_append {xs : List TestCase} (h : Fresh (xs.map (·.name)) seen)
    (ys : List TestCase) :
    firstsAfter seen (xs ++ ys) = xs ++ firstsAfter ((xs.map (·.name)).reverse ++ seen) ys := by
  induction xs generalizing seen with
  | nil => rfl
  | cons x xs ih =>
    obtain ⟨hx, hxs⟩ := fresh_cons.mp h
    rw [List.cons_append, firstsAfter, if_neg (by simpa using hx), ih hxs]
    simp

theorem firstsAfter_eq_nil (h : ∀ x ∈ cases, x.name ∈ seen) : firstsAfter seen cases = [] := by
  refine List.eq_nil_iff_forall_not_mem.mpr fun x hx => ?_
  obtain ⟨hseen, hfind⟩ := mem_firstsAfter.mp hx
  exact hseen (h x (List.mem_of_find?_eq_some hfind))

/-- Cases of distinct names are kept, and cases of these names after them are not. -/
theorem firsts_append {xs ys : List TestCase} (hxs : (xs.map (·.name)).Nodup)
    (hys : ∀ y ∈ ys, y.name ∈ xs.map (·.name)) : firsts (xs ++ ys) = xs := by
  rw [firsts, firstsAfter_append (fresh_of_none.mpr hxs),
    firstsAfter_eq_nil fun y hy => by simpa using hys y hy, List.append_nil]

@[simp] theorem build_cases (cases : List TestCase) (implemented : FeatureSet) :
    (build cases implemented).entries.map (·.case) = firsts cases := by
  simp [build, Function.comp_def]

/-- Every case is an entry or a duplicate. -/
theorem length_add_duplicates (cases : List TestCase) (implemented : FeatureSet) :
    (build cases implemented).entries.length + (build cases implemented).duplicates =
      cases.length := by
  have hle : (firsts cases).length ≤ cases.length := length_firstsAfter_le [] cases
  simp only [build, List.length_map]
  omega

end Conformance.Plan
