import Conformance.Manifest.Closure
import Conformance.Proofs.Fresh
import Conformance.Proofs.Group.Graph

/-!
# The walk through a closure

`Walk` gives the rules of the walk without a bound on its depth: which group is entered next, what
is met there, and at which place the walk stops. A walk has one ending (`Walk.unique`), and in a
graph without dangling includes it has one from everywhere: the groups above one another are
distinct, so `visit` with one more level than there are groups finds it (`exists_walk`). A walk ends
well exactly where what it goes through unfolds to groups and tests that it has not met before
(`exists_walk_done_iff`).
-/
namespace Conformance.Manifest

variable {c : Corpus}

/-- How a walk ends: with all that it has met, or with a violation in the last group of a path,
which starts with that group. -/
inductive Ending
  | done (seen : Seen)
  | stopped (path : List Nat) (violation : Violation)

def Ending.result : Ending → Except Violation Seen
  | .done seen => .ok seen
  | .stopped _ violation => .error violation

def Seen.enter (seen : Seen) (group : Nat) : Seen :=
  { seen with groups := group :: seen.groups }

/-- The walk enters a group that is neither above nor met before. -/
structure Enters (c : Corpus) (path : List Nat) (seen : Seen) (i : Nat) (g : TestGroup) : Prop where
  not_above : i ∉ path
  unmet : i ∉ seen.groups
  group : c.groups[i]? = some g

/-- The walk from the groups `next` on, which the first group of the path includes. -/
inductive Walk (c : Corpus) :
    (path : List Nat) → (next : List Nat) → Seen → Ending → Prop
  | done {path : List Nat} {seen : Seen} : Walk c path [] seen (.done seen)
  | cycle {path others : List Nat} {seen : Seen} {i : Nat} : i ∈ path →
      Walk c path (i :: others) seen (.stopped path (.cycle i))
  | again {path others : List Nat} {seen : Seen} {i : Nat} : i ∉ path → i ∈ seen.groups →
      Walk c path (i :: others) seen (.stopped path (.repeatedGroup i))
  | member {path others : List Nat} {seen : Seen} {i : Nat} {g : TestGroup}
      {violation : Violation} : Enters c path seen i g →
      (seen.enter i).addTests g.tests = .error violation →
      Walk c path (i :: others) seen (.stopped (i :: path) violation)
  | inside {path others : List Nat} {seen listed : Seen} {i : Nat} {g : TestGroup}
      {place : List Nat} {violation : Violation} : Enters c path seen i g →
      (seen.enter i).addTests g.tests = .ok listed →
      Walk c (i :: path) g.includes listed (.stopped place violation) →
      Walk c path (i :: others) seen (.stopped place violation)
  | onward {path others : List Nat} {seen listed met : Seen} {i : Nat} {g : TestGroup}
      {ending : Ending} : Enters c path seen i g →
      (seen.enter i).addTests g.tests = .ok listed →
      Walk c (i :: path) g.includes listed (.done met) →
      Walk c path others met ending → Walk c path (i :: others) seen ending

/-! ### What is met -/

/-- Tests are added if they are fresh. -/
theorem Seen.addTests_eq_ok {seen seen' : Seen} {ts : List Nat} :
    seen.addTests ts = .ok seen' ↔ Fresh ts seen.tests ∧
      seen' = { seen with tests := ts.reverse ++ seen.tests } := by
  induction ts generalizing seen with
  | nil => simp [addTests, eq_comm]
  | cons t ts ih =>
    rw [addTests, fresh_cons]
    by_cases ht : t ∈ seen.tests
    · simp [ht]
    · simp [ht, ih]

/-- A test that is not added was met before or is listed before. -/
theorem Seen.addTests_eq_error {seen : Seen} {ts : List Nat} {violation : Violation}
    (h : seen.addTests ts = .error violation) :
    ∃ before t after, violation = .repeatedTest t ∧ ts = before ++ t :: after ∧
      (t ∈ before ∨ t ∈ seen.tests) := by
  induction ts generalizing seen with
  | nil => cases h
  | cons u ts ih =>
    rw [addTests] at h
    split at h
    · rename_i hu
      cases h
      exact ⟨[], u, ts, rfl, rfl, .inr (List.contains_iff_mem.mp hu)⟩
    · obtain ⟨before, t, after, hv, rfl, ht⟩ := ih h
      refine ⟨u :: before, t, after, hv, rfl, ?_⟩
      rcases ht with ht | ht
      · exact .inl (List.mem_cons_of_mem _ ht)
      · rcases List.mem_cons.mp ht with rfl | ht
        · exact .inl List.mem_cons_self
        · exact .inr ht

/-! ### One ending -/

theorem Enters.unique {path : List Nat} {seen : Seen} {i : Nat} {g g' : TestGroup}
    (h : Enters c path seen i g) (h' : Enters c path seen i g') : g = g' :=
  Option.some.inj (h.group.symm.trans h'.group)

theorem Walk.unique {path next : List Nat} {seen : Seen} {ending ending' : Ending}
    (h : Walk c path next seen ending) (h' : Walk c path next seen ending') : ending = ending' := by
  induction h generalizing ending' with
  | done =>
    cases h'
    rfl
  | cycle hi =>
    cases h' with
    | cycle => rfl
    | again hi' => exact absurd hi hi'
    | member he | inside he | onward he => exact absurd hi he.not_above
  | again hi hs =>
    cases h' with
    | cycle hi' => exact absurd hi' hi
    | again => rfl
    | member he | inside he | onward he => exact absurd hs he.unmet
  | member he ha =>
    cases h' with
    | cycle hi => exact absurd hi he.not_above
    | again _ hs => exact absurd hs he.unmet
    | member he' ha' =>
      obtain rfl := he.unique he'
      cases ha.symm.trans ha'
      rfl
    | inside he' ha' | onward he' ha' =>
      obtain rfl := he.unique he'
      cases ha.symm.trans ha'
  | inside he ha _ ih =>
    cases h' with
    | cycle hi => exact absurd hi he.not_above
    | again _ hs => exact absurd hs he.unmet
    | member he' ha' =>
      obtain rfl := he.unique he'
      cases ha.symm.trans ha'
    | inside he' ha' hw =>
      obtain rfl := he.unique he'
      cases ha.symm.trans ha'
      exact ih hw
    | onward he' ha' hw =>
      obtain rfl := he.unique he'
      cases ha.symm.trans ha'
      cases ih hw
  | onward he ha _ _ ihInside ihOnward =>
    cases h' with
    | cycle hi => exact absurd hi he.not_above
    | again _ hs => exact absurd hs he.unmet
    | member he' ha' =>
      obtain rfl := he.unique he'
      cases ha.symm.trans ha'
    | inside he' ha' hw =>
      obtain rfl := he.unique he'
      cases ha.symm.trans ha'
      cases ihInside hw
    | onward he' ha' hw hothers =>
      obtain rfl := he.unique he'
      cases ha.symm.trans ha'
      cases ihInside hw
      exact ihOnward hothers

/-! ### Depth -/

/-- What `visit` does with a group that is included below the path. -/
def visitIncluded (c : Corpus) (depth : Nat) (path : List Nat) (seen : Seen) (i : Nat) :
    Except Violation Seen :=
  if path.contains i then .error (.cycle i)
  else if seen.groups.contains i then .error (.repeatedGroup i)
  else visit c depth path i (seen.enter i)

theorem visit_succ {depth : Nat} {above : List Nat} {i : Nat} {seen : Seen} {g : TestGroup}
    (hg : c.groups[i]? = some g) :
    visit c (depth + 1) above i seen =
      (seen.addTests g.tests).bind fun listed =>
        g.includes.foldlM (visitIncluded c depth (i :: above)) listed := by
  rw [visit, hg]
  dsimp only
  cases seen.addTests g.tests with
  | error violation => rfl
  | ok listed => rfl

/-- A path of distinct groups is no longer than the list of groups. -/
theorem length_le_groups {path : List Nat} (hpath : path.Nodup)
    (hrange : ∀ i ∈ path, i < c.groups.length) : path.length ≤ c.groups.length := by
  have hsub : path ⊆ List.range c.groups.length := fun i hi => List.mem_range.mpr (hrange i hi)
  simpa using hpath.length_le_of_subset hsub

/-- The walk from anywhere has an ending, and `visit` finds it if its depth together with the path
exceeds the number of groups. -/
theorem exists_walk (hc : c.IncludesInRange) {depth : Nat} {path : List Nat} (hpath : path.Nodup)
    (hrange : ∀ i ∈ path, i < c.groups.length) (hdepth : c.groups.length < depth + path.length)
    (next : List Nat) (hnext : ∀ i ∈ next, i < c.groups.length) (seen : Seen) :
    ∃ ending, Walk c path next seen ending ∧
      next.foldlM (visitIncluded c depth path) seen = ending.result := by
  induction depth generalizing path next seen with
  | zero =>
    have := length_le_groups hpath hrange
    omega
  | succ depth ihDepth =>
    induction next generalizing seen with
    | nil => exact ⟨_, .done, rfl⟩
    | cons i others ihOthers =>
      rw [List.foldlM_cons, visitIncluded]
      by_cases habove : i ∈ path
      · exact ⟨_, .cycle habove, by simp [habove]; rfl⟩
      by_cases hmet : i ∈ seen.groups
      · exact ⟨_, .again habove hmet, by simp [habove, hmet]; rfl⟩
      have hi := hnext i List.mem_cons_self
      obtain ⟨g, hg⟩ := Corpus.exists_group hi
      have henter : Enters c path seen i g := ⟨habove, hmet, hg⟩
      simp only [List.contains_eq_mem, habove, hmet, decide_false, Bool.false_eq_true, if_false,
        visit_succ hg]
      cases hadd : (seen.enter i).addTests g.tests with
      | error violation => exact ⟨_, .member henter hadd, rfl⟩
      | ok listed =>
        have hpath' : (i :: path).Nodup := List.nodup_cons.mpr ⟨habove, hpath⟩
        have hrange' : ∀ j ∈ i :: path, j < c.groups.length := by
          intro j hj
          rcases List.mem_cons.mp hj with rfl | hj
          · exact hi
          · exact hrange j hj
        have hdepth' : c.groups.length < depth + (i :: path).length := by
          rw [List.length_cons]
          omega
        obtain ⟨ending, hw, hfold⟩ := ihDepth hpath' hrange' hdepth' g.includes
          (hc g (List.mem_of_getElem? hg)) listed
        simp only [Except.bind, hfold]
        cases ending with
        | stopped place violation => exact ⟨_, .inside henter hadd hw, rfl⟩
        | done met =>
          obtain ⟨ending, hothers, hrest⟩ :=
            ihOthers (fun j hj => hnext j (List.mem_cons_of_mem _ hj)) met
          exact ⟨ending, .onward henter hadd hw hothers, hrest⟩

/-! ### Walks that end well -/

/-- What was met once these groups have been gone through. -/
def Seen.after (c : Corpus) (seen : Seen) (groups : List Nat) : Seen where
  groups := groups.reverse ++ seen.groups
  tests := (groups.flatMap c.membersOf).reverse ++ seen.tests

/-- A group is fresh together with what is below and beside it. -/
theorem fresh_unfolding {i : Nat} {g : TestGroup} (hg : c.groups[i]? = some g) (seen : Seen)
    (below beside : List Nat) :
    (Fresh (i :: (below ++ beside)) seen.groups ∧
        Fresh ((i :: (below ++ beside)).flatMap c.membersOf) seen.tests) ↔
      (i ∉ seen.groups ∧ Fresh g.tests seen.tests) ∧
        (Fresh below (i :: seen.groups) ∧
          Fresh (below.flatMap c.membersOf) (g.tests.reverse ++ seen.tests)) ∧
        Fresh beside (below.reverse ++ i :: seen.groups) ∧
          Fresh (beside.flatMap c.membersOf)
            ((below.flatMap c.membersOf).reverse ++ (g.tests.reverse ++ seen.tests)) := by
  simp only [fresh_cons, fresh_append, List.flatMap_cons, List.flatMap_append,
    Corpus.membersOf_eq hg]
  tauto

/-- A walk that ends well has gone through an unfolding, and all there was fresh. -/
theorem Walk.unfolds {path next : List Nat} {seen met : Seen}
    (h : Walk c path next seen (.done met)) :
    ∃ groups, Unfolds c.includes? next groups ∧ Fresh groups seen.groups ∧
      Fresh (groups.flatMap c.membersOf) seen.tests ∧ met = seen.after c groups := by
  generalize he : Ending.done met = ending at h
  induction h generalizing met with
  | done =>
    cases he
    exact ⟨[], .nil, fresh_nil _, fresh_nil _, rfl⟩
  | cycle | again | member | inside => cases he
  | onward henter hadd _ _ ihInside ihOnward =>
    obtain ⟨hmembers, rfl⟩ := Seen.addTests_eq_ok.mp hadd
    obtain ⟨below, hbelow, hgroups, htests, rfl⟩ := ihInside rfl
    obtain ⟨beside, hbeside, hgroups', htests', rfl⟩ := ihOnward he
    have hincluded := Corpus.includes?_eq_some.mpr ⟨_, henter.group, rfl⟩
    obtain ⟨hg, ht⟩ := (fresh_unfolding henter.group _ below beside).mpr
      ⟨⟨henter.unmet, hmembers⟩, ⟨hgroups, htests⟩, hgroups', htests'⟩
    refine ⟨_, .cons hincluded hbelow hbeside, hg, ht, ?_⟩
    simp [Seen.after, Seen.enter, Corpus.membersOf_eq henter.group]

/-- The walk through an unfolding ends well if all there is fresh. -/
theorem walk_of_unfolds {next groups : List Nat} (h : Unfolds c.includes? next groups)
    {path : List Nat} {seen : Seen} (hpath : path ⊆ seen.groups) (hg : Fresh groups seen.groups)
    (ht : Fresh (groups.flatMap c.membersOf) seen.tests) :
    Walk c path next seen (.done (seen.after c groups)) := by
  induction h generalizing path seen with
  | nil => exact .done
  | @cons i included others below beside hincluded _ _ ihBelow ihBeside =>
    obtain ⟨g, hgroup, rfl⟩ := Corpus.includes?_eq_some.mp hincluded
    obtain ⟨⟨hunmet, hmembers⟩, ⟨hbelow, hbelow'⟩, hbeside, hbeside'⟩ :=
      (fresh_unfolding hgroup seen below beside).mp ⟨hg, ht⟩
    have henter : Enters c path seen i g := ⟨fun hi => hunmet (hpath hi), hunmet, hgroup⟩
    let listed : Seen := ⟨i :: seen.groups, g.tests.reverse ++ seen.tests⟩
    have hadd : (seen.enter i).addTests g.tests = .ok listed :=
      Seen.addTests_eq_ok.mpr ⟨hmembers, rfl⟩
    have hpath' : path ⊆ (listed.after c below).groups := fun j hj =>
      List.mem_append_right _ (List.mem_cons_of_mem i (hpath hj))
    have hinside : Walk c (i :: path) g.includes listed (.done (listed.after c below)) :=
      ihBelow (List.cons_subset_cons i hpath) hbelow hbelow'
    have honward := ihBeside hpath' hbeside hbeside'
    have hmet : seen.after c (i :: (below ++ beside)) = (listed.after c below).after c beside := by
      simp [listed, Seen.after, Corpus.membersOf_eq hgroup]
    rw [hmet]
    exact .onward henter hadd hinside honward

/-- The walk from a group ends well exactly if the group unfolds to nothing twice. -/
theorem exists_walk_done_iff (root : Nat) :
    (∃ met, Walk c [] [root] {} (.done met)) ↔ UnfoldsOnce c.includes? c.membersOf root := by
  constructor
  · rintro ⟨met, h⟩
    obtain ⟨groups, hunfolds, hg, ht, -⟩ := h.unfolds
    exact ⟨groups, hunfolds, fresh_of_none.mp hg, fresh_of_none.mp ht⟩
  · rintro ⟨groups, hunfolds, hg, ht⟩
    exact ⟨_, walk_of_unfolds hunfolds (List.nil_subset _) (fresh_of_none.mpr hg)
      (fresh_of_none.mpr ht)⟩

/-! ### The walk from a group -/

def Ending.violation? : Ending → Option Violation
  | .done _ => none
  | .stopped _ violation => some violation

/-- The walk from a group has an ending, at which `visit` arrives. -/
theorem exists_walk_root (hc : c.IncludesInRange) {root : Nat} (hroot : root < c.groups.length)
    {depth : Nat} (hdepth : c.groups.length < depth) :
    ∃ ending, Walk c [] [root] {} ending ∧
      visit c depth [] root { groups := [root] } = ending.result := by
  have hnext : ∀ i ∈ [root], i < c.groups.length := by simpa using hroot
  obtain ⟨ending, hw, hfold⟩ := exists_walk hc List.nodup_nil nofun hdepth [root] hnext {}
  exact ⟨ending, hw, by simpa [visitIncluded, Seen.enter] using hfold⟩

theorem violation?_of_walk (hc : c.IncludesInRange) {root : Nat} (hroot : root < c.groups.length)
    {ending : Ending} (hw : Walk c [] [root] {} ending) :
    violation? c root = ending.violation? := by
  obtain ⟨ending', hw', hresult⟩ := exists_walk_root hc hroot (Nat.lt_succ_self _)
  rw [violation?, hresult, hw.unique hw']
  cases ending' <;> rfl

/-- There is no violation exactly if the group unfolds to nothing twice. -/
theorem violation?_eq_none_iff (hc : c.IncludesInRange) {root : Nat}
    (hroot : root < c.groups.length) :
    violation? c root = none ↔ UnfoldsOnce c.includes? c.membersOf root := by
  obtain ⟨ending, hw, -⟩ := exists_walk_root hc hroot (Nat.lt_succ_self _)
  rw [violation?_of_walk hc hroot hw, ← exists_walk_done_iff]
  cases ending with
  | done met => exact ⟨fun _ => ⟨met, hw⟩, fun _ => rfl⟩
  | stopped path violation =>
    refine ⟨nofun, fun ⟨met, h⟩ => ?_⟩
    cases h.unique hw

end Conformance.Manifest
