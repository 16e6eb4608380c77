import Mathlib.Data.List.Nodup

/-!
# What was not met before

A list is fresh after another one if it repeats neither itself nor the other. Things that are taken
one by one, and refused where one was taken before, are all taken exactly if they are fresh.
-/
namespace Conformance

variable {α : Type}

/-- These are distinct, and none of them was met before. -/
def Fresh (xs met : List α) : Prop :=
  xs.Nodup ∧ ∀ x ∈ xs, x ∉ met

@[simp] theorem fresh_nil (met : List α) : Fresh [] met :=
  ⟨List.nodup_nil, nofun⟩

@[simp] theorem fresh_of_none {xs : List α} : Fresh xs [] ↔ xs.Nodup := by
  simp [Fresh]

theorem fresh_cons {x : α} {xs met : List α} :
    Fresh (x :: xs) met ↔ x ∉ met ∧ Fresh xs (x :: met) := by
  simp only [Fresh, List.nodup_cons, List.mem_cons, not_or, forall_eq_or_imp]
  constructor
  · rintro ⟨⟨hx, hxs⟩, hxmet, hmet⟩
    exact ⟨hxmet, hxs, fun y hy => ⟨fun he => hx (he ▸ hy), hmet y hy⟩⟩
  · rintro ⟨hxmet, hxs, hmet⟩
    exact ⟨⟨fun hx => (hmet x hx).1 rfl, hxs⟩, hxmet, fun y hy => (hmet y hy).2⟩

theorem fresh_append {xs ys met : List α} :
    Fresh (xs ++ ys) met ↔ Fresh xs met ∧ Fresh ys (xs.reverse ++ met) := by
  induction xs generalizing met with
  | nil => simp
  | cons x xs ih =>
    rw [List.cons_append, fresh_cons, ih, fresh_cons, List.reverse_cons, List.append_assoc]
    exact and_assoc.symm

end Conformance
