import Conformance.Corpus
import Mathlib.Data.List.Lex
import Mathlib.Data.List.Nodup
import Mathlib.Logic.Relation

/-!
# The groups of a corpus as a graph

Following the links between nodes from some roots on unfolds a forest: a node stands in it once for
every way that leads to it. `Unfolds` lists such a forest depth first. There is a list only if the
forest is finite and every link leads to a node, so a graph in which some root reaches a cycle has
none.

Groups are linked to the groups that they include. A place in the unfolding of a group is the list
of the choices that lead to it: which of the included groups comes next, counted from zero. Two
places are two chains of includes, also where they go through the same groups because one group is
listed twice.
-/
namespace Conformance

variable {α β : Type} {next : α → Option (List α)}

/-- The forest that grows from the roots, where `next` tells what stands below a node, is finite,
and these are its nodes, depth first. A node of which `next` tells nothing stands in no forest. -/
inductive Unfolds (next : α → Option (List α)) : List α → List α → Prop
  | nil : Unfolds next [] []
  | cons {a : α} {children roots below beside : List α} : next a = some children →
      Unfolds next children below → Unfolds next roots beside →
      Unfolds next (a :: roots) (a :: (below ++ beside))

/-- One node stands directly below the other. -/
def Linked (next : α → Option (List α)) (a b : α) : Prop :=
  ∃ children, next a = some children ∧ b ∈ children

/-- A node is reached from another by following links, from itself at once. -/
def Reached (next : α → Option (List α)) : α → α → Prop :=
  Relation.ReflTransGen (Linked next)

/-- What grows from the node is finite, no node stands in it twice, and neither does a member of its
nodes. -/
def UnfoldsOnce (next : α → Option (List α)) (members : α → List β) (root : α) : Prop :=
  ∃ nodes, Unfolds next [root] nodes ∧ nodes.Nodup ∧ (nodes.flatMap members).Nodup

namespace Unfolds

theorem unique {roots nodes nodes' : List α} (h : Unfolds next roots nodes)
    (h' : Unfolds next roots nodes') : nodes = nodes' := by
  induction h generalizing nodes' with
  | nil =>
    cases h'
    rfl
  | cons ha _ _ ihBelow ihBeside =>
    cases h' with
    | cons ha' hBelow hBeside =>
      obtain rfl := Option.some.inj (ha.symm.trans ha')
      rw [ihBelow hBelow, ihBeside hBeside]

theorem roots_subset {roots nodes : List α} (h : Unfolds next roots nodes) : roots ⊆ nodes := by
  induction h with
  | nil => exact List.nil_subset _
  | cons _ _ _ _ ihBeside =>
    refine List.cons_subset_cons _ fun x hx => ?_
    exact List.mem_append_right _ (ihBeside hx)

/-- What is linked to a node of a forest stands in the forest. -/
theorem mem_of_linked {roots nodes : List α} (h : Unfolds next roots nodes) {a b : α}
    (ha : a ∈ nodes) (hab : Linked next a b) : b ∈ nodes := by
  induction h with
  | nil => cases ha
  | cons hnext hBelow hBeside ihBelow ihBeside =>
    rcases List.mem_cons.mp ha with rfl | ha
    · obtain ⟨children, hchildren, hb⟩ := hab
      obtain rfl := Option.some.inj (hnext.symm.trans hchildren)
      exact List.mem_cons_of_mem _ (List.mem_append_left _ (hBelow.roots_subset hb))
    · rcases List.mem_append.mp ha with ha | ha
      · exact List.mem_cons_of_mem _ (List.mem_append_left _ (ihBelow ha))
      · exact List.mem_cons_of_mem _ (List.mem_append_right _ (ihBeside ha))

/-- The nodes of a forest are those that are reached from its roots. -/
theorem mem_iff {roots nodes : List α} (h : Unfolds next roots nodes) (b : α) :
    b ∈ nodes ↔ ∃ a ∈ roots, Reached next a b := by
  constructor
  · intro hb
    induction h with
    | nil => cases hb
    | cons hnext hBelow hBeside ihBelow ihBeside =>
      rcases List.mem_cons.mp hb with rfl | hb
      · exact ⟨b, List.mem_cons_self, .refl⟩
      · rcases List.mem_append.mp hb with hb | hb
        · obtain ⟨a, ha, hab⟩ := ihBelow hb
          exact ⟨_, List.mem_cons_self, .head ⟨_, hnext, ha⟩ hab⟩
        · obtain ⟨a, ha, hab⟩ := ihBeside hb
          exact ⟨a, List.mem_cons_of_mem _ ha, hab⟩
  · rintro ⟨a, ha, hab⟩
    induction hab with
    | refl => exact h.roots_subset ha
    | tail _ hlink ih => exact h.mem_of_linked ih hlink

/-- What is true of the roots, and of whatever is linked to a node that it is true of, is true of
all nodes. -/
theorem forall_mem {roots nodes : List α} (h : Unfolds next roots nodes) {known : α → Prop}
    (hlinked : ∀ a, known a → ∀ b, Linked next a b → known b) (hroots : ∀ a ∈ roots, known a) :
    ∀ a ∈ nodes, known a := by
  intro b hb
  obtain ⟨a, ha, hab⟩ := (h.mem_iff b).mp hb
  induction hab with
  | refl => exact hroots a ha
  | tail hreached hlink ih =>
    exact hlinked _ (ih ((h.mem_iff _).mpr ⟨a, ha, hreached⟩)) _ hlink

end Unfolds

section

variable {next' : β → Option (List β)} {f : α → β} {known : α → Prop}

/-- Two graphs, of which one is the other with its known nodes called differently, unfold alike. -/
theorem Unfolds.map_iff
    (hknown : ∀ a, known a → ∃ children, next a = some children ∧
      next' (f a) = some (children.map f) ∧ ∀ b ∈ children, known b)
    {roots : List α} (hroots : ∀ a ∈ roots, known a) (nodes' : List β) :
    Unfolds next' (roots.map f) nodes' ↔
      ∃ nodes, Unfolds next roots nodes ∧ nodes.map f = nodes' := by
  constructor
  · intro h
    generalize hr : roots.map f = roots' at h
    induction h generalizing roots with
    | nil =>
      obtain rfl := List.map_eq_nil_iff.mp hr
      exact ⟨[], .nil, rfl⟩
    | cons hnext' hBelow hBeside ihBelow ihBeside =>
      obtain ⟨a, others, rfl, rfl, hothers⟩ := List.map_eq_cons_iff.mp hr
      obtain ⟨children, hnext, hmapped, hchildren⟩ := hknown a (hroots a List.mem_cons_self)
      obtain rfl := Option.some.inj (hmapped.symm.trans hnext')
      obtain ⟨below, hb, rfl⟩ := ihBelow hchildren rfl
      obtain ⟨beside, hs, rfl⟩ :=
        ihBeside (fun b hb => hroots b (List.mem_cons_of_mem _ hb)) hothers
      exact ⟨a :: (below ++ beside), .cons hnext hb hs, by simp⟩
  · rintro ⟨nodes, h, rfl⟩
    induction h with
    | nil => exact .nil
    | @cons a _ _ _ _ hnext hBelow hBeside ihBelow ihBeside =>
      obtain ⟨children', hnext'', hmapped, hchildren⟩ := hknown a (hroots a List.mem_cons_self)
      obtain rfl := Option.some.inj (hnext.symm.trans hnext'')
      have hbeside := ihBeside fun b hb => hroots b (List.mem_cons_of_mem _ hb)
      simpa using Unfolds.cons hmapped (ihBelow hchildren) hbeside

variable {γ δ : Type} {members : α → List γ} {members' : β → List δ} {h : γ → δ}

/-- Whether what grows from a node repeats anything does not depend on how nodes and members are
called. -/
theorem unfoldsOnce_map_iff (known : α → Prop)
    (hknown : ∀ a, known a → ∃ children, next a = some children ∧
      next' (f a) = some (children.map f) ∧ ∀ b ∈ children, known b)
    (hmembers : ∀ a, known a → members' (f a) = (members a).map h)
    (hf : ∀ a, known a → ∀ b, known b → f a = f b → a = b)
    (hh : ∀ a, known a → ∀ b, known b → ∀ x ∈ members a, ∀ y ∈ members b, h x = h y → x = y)
    {root : α} (hroot : known root) :
    UnfoldsOnce next' members' (f root) ↔ UnfoldsOnce next members root := by
  have hroots : ∀ a ∈ [root], known a := by simpa using hroot
  have hlinked : ∀ a, known a → ∀ b, Linked next a b → known b := by
    rintro a ha b ⟨children, hnext, hb⟩
    obtain ⟨children', hnext', -, hchildren⟩ := hknown a ha
    obtain rfl := Option.some.inj (hnext.symm.trans hnext')
    exact hchildren b hb
  have hflat : ∀ nodes : List α, (∀ a ∈ nodes, known a) →
      (nodes.map f).flatMap members' = (nodes.flatMap members).map h := by
    intro nodes hnodes
    rw [List.flatMap_map, List.map_flatMap]
    exact List.flatMap_congr fun a ha => hmembers a (hnodes a ha)
  constructor
  · rintro ⟨nodes', hunfolds', hnodup, hfresh⟩
    obtain ⟨nodes, hunfolds, rfl⟩ := (Unfolds.map_iff hknown hroots nodes').mp hunfolds'
    rw [hflat nodes (hunfolds.forall_mem hlinked hroots)] at hfresh
    exact ⟨nodes, hunfolds, hnodup.of_map, hfresh.of_map⟩
  · rintro ⟨nodes, hunfolds, hnodup, hfresh⟩
    have hall := hunfolds.forall_mem hlinked hroots
    refine ⟨nodes.map f, (Unfolds.map_iff hknown hroots _).mpr ⟨nodes, hunfolds, rfl⟩,
      hnodup.map_on fun a ha b hb => hf a (hall a ha) b (hall b hb), ?_⟩
    rw [hflat nodes hall]
    refine hfresh.map_on fun x hx y hy => ?_
    obtain ⟨a, ha, hxa⟩ := List.mem_flatMap.mp hx
    obtain ⟨b, hb, hyb⟩ := List.mem_flatMap.mp hy
    exact hh a (hall a ha) b (hall b hb) x hxa y hyb

end

/-! ## Groups and what they include -/

namespace Corpus

variable (c : Corpus)

/-- The groups that a group includes, if there is such a group. -/
def includes? (i : Nat) : Option (List Nat) :=
  (c.groups[i]?).map (·.includes)

/-- The tests that a group lists itself. -/
def membersOf (i : Nat) : List Nat :=
  ((c.groups[i]?).map (·.tests)).getD []

/-- The tests of a group and of all that it includes. -/
def closure (i : Nat) : Set Nat :=
  {t | ∃ g, Reached c.includes? i g ∧ t ∈ c.membersOf g}

/-- The names of the tests and then those of the groups. -/
def names : List String :=
  c.tests.map (·.name) ++ c.groups.map (·.name)

/-- Every included group exists. -/
def IncludesInRange : Prop :=
  ∀ g ∈ c.groups, ∀ i ∈ g.includes, i < c.groups.length

instance : Decidable c.IncludesInRange :=
  inferInstanceAs (Decidable (∀ g ∈ c.groups, ∀ i ∈ g.includes, i < c.groups.length))

/-- Every listed test exists. -/
def MembersInRange : Prop :=
  ∀ g ∈ c.groups, ∀ t ∈ g.tests, t < c.tests.length

/-- The group at a place in the unfolding of a group. -/
def groupAt? (i : Nat) : (place : List Nat) → Option Nat
  | [] => some i
  | k :: place =>
    match c.includes? i with
    | none => none
    | some included =>
      match included[k]? with
      | none => none
      | some j => groupAt? j place

/-- A chain of includes from a group, the last group first. -/
inductive Chain (root : Nat) : List Nat → Prop
  | root : Chain root [root]
  | step {i j : Nat} {above : List Nat} :
      Chain root (i :: above) → Linked c.includes? i j → Chain root (j :: i :: above)

/-- What a loaded corpus is checked for: its names are distinct, its positions exist, and what grows
from a group is finite and repeats nothing. -/
structure Checked : Prop where
  distinct : c.names.Nodup
  membersInRange : c.MembersInRange
  includesInRange : c.IncludesInRange
  closures : ∀ i < c.groups.length, UnfoldsOnce c.includes? c.membersOf i

variable {c}

@[simp] theorem includes?_eq_some {i : Nat} {included : List Nat} :
    c.includes? i = some included ↔ ∃ g, c.groups[i]? = some g ∧ g.includes = included := by
  simp [includes?]

theorem membersOf_eq {i : Nat} {g : TestGroup} (h : c.groups[i]? = some g) :
    c.membersOf i = g.tests := by
  simp [membersOf, h]

theorem exists_group {i : Nat} (h : i < c.groups.length) : ∃ g, c.groups[i]? = some g :=
  ⟨c.groups[i], List.getElem?_eq_getElem h⟩

theorem IncludesInRange.lt (h : c.IncludesInRange) {i j : Nat} (hij : Linked c.includes? i j) :
    j < c.groups.length := by
  obtain ⟨included, hi, hj⟩ := hij
  obtain ⟨g, hg, rfl⟩ := includes?_eq_some.mp hi
  exact h g (List.mem_of_getElem? hg) j hj

/-- One more choice leads from a place to the group that is chosen. -/
theorem groupAt?_append {root i j : Nat} {place included : List Nat} {k : Nat}
    (hi : c.groupAt? root place = some i) (hincluded : c.includes? i = some included)
    (hj : included[k]? = some j) : c.groupAt? root (place ++ [k]) = some j := by
  induction place generalizing root with
  | nil =>
    obtain rfl := Option.some.inj hi
    simp only [List.nil_append, groupAt?, hincluded, hj]
  | cons m place ih =>
    rw [groupAt?] at hi
    rw [List.cons_append, groupAt?]
    cases hm : c.includes? root with
    | none => rw [hm] at hi; cases hi
    | some others =>
      rw [hm] at hi
      cases hn : others[m]? with
      | none => simp only [hn] at hi; cases hi
      | some next =>
        simp only [hn] at hi ⊢
        exact ih hi

theorem reached_of_groupAt? {root i : Nat} {place : List Nat}
    (h : c.groupAt? root place = some i) : Reached c.includes? root i := by
  induction place generalizing root with
  | nil =>
    obtain rfl := Option.some.inj h
    exact .refl
  | cons m place ih =>
    rw [groupAt?] at h
    cases hm : c.includes? root with
    | none => rw [hm] at h; cases h
    | some others =>
      rw [hm] at h
      cases hn : others[m]? with
      | none => simp only [hn] at h; cases h
      | some next =>
        simp only [hn] at h
        exact .head ⟨others, hm, List.mem_of_getElem? hn⟩ (ih h)

namespace Chain

variable {root : Nat} {path : List Nat}

/-- The last group of a chain is reached from every group on it. -/
theorem reached {last : Nat} {above : List Nat} (h : Chain c root (last :: above)) {i : Nat}
    (hi : i ∈ last :: above) : Reached c.includes? i last := by
  generalize hp : last :: above = path at h hi
  induction h generalizing last above with
  | root =>
    obtain ⟨rfl, rfl⟩ := List.cons.inj hp
    obtain rfl := List.mem_singleton.mp hi
    exact .refl
  | step _ hlink ih =>
    obtain ⟨rfl, rfl⟩ := List.cons.inj hp
    rcases List.mem_cons.mp hi with rfl | hi
    · exact .refl
    · exact .tail (ih rfl hi) hlink

end Chain
end Corpus
end Conformance
