import Conformance.Proofs.Group.Walk

/-!
# What a violation tells

The walk through the closure of a group goes on until it is through or finds a violation. It is
through exactly if the group unfolds to nothing twice, and every violation is a true one
(`violation?_true_diagnosis`): a cycle closes above the place where the walk stopped, a repeated
group stands at another place of the unfolding too, and a repeated test is listed twice. What
carries the proof is that all places met so far come before the one where the walk stands.
-/
namespace Conformance.Manifest

variable {c : Corpus} {root : Nat}

/-- What a violation that was found at the end of a chain says. -/
def Violation.Holds (c : Corpus) (root : Nat) (path : List Nat) : Violation → Prop
  | .cycle g => c.Chain root (g :: path) ∧ g ∈ path ∧
      Relation.TransGen (Linked c.includes?) g g
  | .repeatedGroup g => c.Chain root (g :: path) ∧ g ∉ path ∧
      ∃ place place', place ≠ place' ∧ c.groupAt? root place = some g ∧
        c.groupAt? root place' = some g
  | .repeatedTest t => ∃ g h m n : Nat, (g, m) ≠ (h, n) ∧ Reached c.includes? root g ∧
      Reached c.includes? root h ∧ (c.membersOf g)[m]? = some t ∧ (c.membersOf h)[n]? = some t

/-- The walk stands in group `i`, below the groups `above`, before its include `k`. -/
structure Stands (c : Corpus) (root : Nat) (place : List Nat) (i : Nat) (above : List Nat) (k : Nat)
    (seen : Seen) : Prop where
  chain : c.Chain root (i :: above)
  here : c.groupAt? root place = some i
  groups : ∀ g ∈ seen.groups, ∃ earlier, earlier < place ++ [k] ∧ c.groupAt? root earlier = some g
  tests : ∀ t ∈ seen.tests, ∃ g ∈ seen.groups, t ∈ c.membersOf g

theorem lt_inside (place : List Nat) (k n : Nat) : place ++ [k] < place ++ [k] ++ [n] := by
  rw [List.append_assoc]
  refine List.append_left_lt ?_
  exact List.cons_lt_cons_iff.mpr (.inr ⟨rfl, List.nil_lt_cons n []⟩)

theorem lt_onward (place : List Nat) (k n : Nat) : place ++ [k] ++ [n] < place ++ [k + 1] := by
  rw [List.append_assoc]
  refine List.append_left_lt ?_
  exact List.cons_lt_cons_iff.mpr (.inl (Nat.lt_succ_self k))

/-- The tests of a group that is entered are those of a group that was met. -/
theorem tests_listed {seen listed : Seen} {j : Nat} {g : TestGroup} (hg : c.groups[j]? = some g)
    (hadd : (seen.enter j).addTests g.tests = .ok listed)
    (htests : ∀ t ∈ seen.tests, ∃ g ∈ seen.groups, t ∈ c.membersOf g) :
    ∀ t ∈ listed.tests, ∃ g ∈ listed.groups, t ∈ c.membersOf g := by
  obtain ⟨-, rfl⟩ := Seen.addTests_eq_ok.mp hadd
  intro t ht
  rcases List.mem_append.mp ht with ht | ht
  · refine ⟨j, List.mem_cons_self, ?_⟩
    rw [Corpus.membersOf_eq hg]
    exact List.mem_reverse.mp ht
  · obtain ⟨h, hmet, hlists⟩ := htests t ht
    exact ⟨h, List.mem_cons_of_mem j hmet, hlists⟩

namespace Stands

variable {place above included : List Nat} {i k : Nat} {seen : Seen}

/-- The walk at the start, when the tests of the root have been added. -/
theorem start {g : TestGroup} {listed : Seen} (hg : c.groups[root]? = some g)
    (hadd : (Seen.enter {} root).addTests g.tests = .ok listed) :
    Stands c root [] root [] 0 listed where
  chain := .root
  here := rfl
  groups := by
    obtain ⟨-, rfl⟩ := Seen.addTests_eq_ok.mp hadd
    intro h hh
    obtain rfl := List.mem_singleton.mp hh
    exact ⟨[], List.nil_lt_cons 0 [], rfl⟩
  tests := tests_listed hg hadd nofun

theorem chain_next (hs : Stands c root place i above k seen) (hi : c.includes? i = some included)
    {j : Nat} (hj : included[k]? = some j) : c.Chain root (j :: i :: above) :=
  .step hs.chain ⟨included, hi, List.mem_of_getElem? hj⟩

/-- Into the next included group. -/
theorem enter (hs : Stands c root place i above k seen) (hi : c.includes? i = some included)
    {j : Nat} (hj : included[k]? = some j) {g : TestGroup} {listed : Seen}
    (hg : c.groups[j]? = some g) (hadd : (seen.enter j).addTests g.tests = .ok listed) :
    Stands c root (place ++ [k]) j (i :: above) 0 listed where
  chain := hs.chain_next hi hj
  here := Corpus.groupAt?_append hs.here hi hj
  groups := by
    obtain ⟨-, rfl⟩ := Seen.addTests_eq_ok.mp hadd
    intro h hh
    rcases List.mem_cons.mp hh with rfl | hh
    · exact ⟨_, lt_inside place k 0, Corpus.groupAt?_append hs.here hi hj⟩
    · obtain ⟨earlier, hlt, hat⟩ := hs.groups h hh
      exact ⟨earlier, List.lt_trans hlt (lt_inside place k 0), hat⟩
  tests := tests_listed hg hadd hs.tests

/-- Out of an included group, to the next one. -/
theorem leave (hs : Stands c root place i above k seen) {j n : Nat} {met : Seen}
    (hinside : Stands c root (place ++ [k]) j (i :: above) n met) :
    Stands c root place i above (k + 1) met where
  chain := hs.chain
  here := hs.here
  groups := by
    intro g hg
    obtain ⟨earlier, hlt, hat⟩ := hinside.groups g hg
    exact ⟨earlier, List.lt_trans hlt (lt_onward place k n), hat⟩
  tests := hinside.tests

theorem groups_reached (hs : Stands c root place i above k seen) :
    ∀ g ∈ seen.groups, Reached c.includes? root g := by
  intro g hg
  obtain ⟨earlier, -, hat⟩ := hs.groups g hg
  exact Corpus.reached_of_groupAt? hat

/-- A group that is above the next include includes itself. -/
theorem cycle_holds (hs : Stands c root place i above k seen) (hi : c.includes? i = some included)
    {j : Nat} (hj : included[k]? = some j) (habove : j ∈ i :: above) :
    (Violation.cycle j).Holds c root (i :: above) := by
  have hlink : Linked c.includes? i j := ⟨included, hi, List.mem_of_getElem? hj⟩
  exact ⟨hs.chain_next hi hj, habove, .tail' (hs.chain.reached habove) hlink⟩

/-- A group that was met stands at an earlier place than the next include. -/
theorem again_holds (hs : Stands c root place i above k seen) (hi : c.includes? i = some included)
    {j : Nat} (hj : included[k]? = some j) (habove : j ∉ i :: above) (hmet : j ∈ seen.groups) :
    (Violation.repeatedGroup j).Holds c root (i :: above) := by
  obtain ⟨earlier, hlt, hat⟩ := hs.groups j hmet
  have hne : earlier ≠ place ++ [k] := by
    rintro rfl
    exact List.lt_irrefl _ hlt
  exact ⟨hs.chain_next hi hj, habove, _, _, hne, hat, Corpus.groupAt?_append hs.here hi hj⟩

end Stands

/-- A test that is not added is listed twice, in one group or in two. -/
theorem member_holds {seen : Seen} {j : Nat} {g : TestGroup} {violation : Violation}
    (hj : Reached c.includes? root j) (hunmet : j ∉ seen.groups) (hg : c.groups[j]? = some g)
    (hgroups : ∀ g ∈ seen.groups, Reached c.includes? root g)
    (htests : ∀ t ∈ seen.tests, ∃ g ∈ seen.groups, t ∈ c.membersOf g)
    (hadd : (seen.enter j).addTests g.tests = .error violation) (path : List Nat) :
    violation.Holds c root path := by
  obtain ⟨before, t, after, rfl, hts, ht⟩ := Seen.addTests_eq_error hadd
  have hlist : c.membersOf j = before ++ t :: after := (Corpus.membersOf_eq hg).trans hts
  have hat : (c.membersOf j)[before.length]? = some t := by
    rw [hlist, List.getElem?_append_right (Nat.le_refl _), Nat.sub_self, List.getElem?_cons_zero]
  rcases ht with ht | ht
  · obtain ⟨m, hm, rfl⟩ := List.getElem_of_mem ht
    refine ⟨j, j, m, before.length, fun he => ?_, hj, hj, ?_, hat⟩
    · exact absurd (Prod.mk.inj he).2 (Nat.ne_of_lt hm)
    · rw [hlist, List.getElem?_append_left hm]
      exact List.getElem?_eq_getElem hm
  · obtain ⟨h, hmet, hlists⟩ := htests t ht
    obtain ⟨m, hm, rfl⟩ := List.getElem_of_mem hlists
    refine ⟨h, j, m, before.length, fun he => ?_, hgroups h hmet, hj, ?_, hat⟩
    · obtain rfl := (Prod.mk.inj he).1
      exact hunmet hmet
    · exact List.getElem?_eq_getElem hm

/-- The first of the groups that are left, and the others. -/
theorem next_of_drop {included others : List Nat} {j k : Nat}
    (h : j :: others = included.drop k) :
    included[k]? = some j ∧ others = included.drop (k + 1) := by
  constructor
  · have hhead := congrArg List.head? h
    rw [List.head?_cons, List.head?_drop] at hhead
    exact hhead.symm
  · have htail := congrArg List.tail h
    rwa [List.tail_cons, List.tail_drop] at htail

/-- Where the walk stands once it is through the includes that were left. -/
theorem Walk.stands {i k : Nat} {place above next included : List Nat} {seen met : Seen}
    (h : Walk c (i :: above) next seen (.done met)) (hs : Stands c root place i above k seen)
    (hi : c.includes? i = some included) (hnext : next = included.drop k) :
    ∃ n, Stands c root place i above n met := by
  generalize hp : i :: above = path at h
  generalize he : Ending.done met = ending at h
  induction h generalizing i k place above included met with
  | done =>
    cases he
    exact ⟨k, hs⟩
  | cycle | again | member | inside => cases he
  | onward henter hadd _ _ ihInside ihOnward =>
    subst hp
    obtain ⟨hj, hothers⟩ := next_of_drop hnext
    have hincluded := Corpus.includes?_eq_some.mpr ⟨_, henter.group, rfl⟩
    obtain ⟨n, hn⟩ := ihInside (hs.enter hi hj henter.group hadd) hincluded rfl rfl rfl
    exact ihOnward (hs.leave hn) hi hothers rfl he

/-- A walk that stops tells the truth. -/
theorem Walk.holds {i k : Nat} {place above next included path : List Nat} {seen : Seen}
    {violation : Violation} (h : Walk c (i :: above) next seen (.stopped path violation))
    (hs : Stands c root place i above k seen) (hi : c.includes? i = some included)
    (hnext : next = included.drop k) : c.Chain root path ∧ violation.Holds c root path := by
  generalize hp : i :: above = path' at h
  generalize he : Ending.stopped path violation = ending at h
  induction h generalizing i k place above included with
  | done => cases he
  | cycle habove =>
    subst hp
    cases he
    obtain ⟨hj, -⟩ := next_of_drop hnext
    exact ⟨hs.chain, hs.cycle_holds hi hj habove⟩
  | again habove hmet =>
    subst hp
    cases he
    obtain ⟨hj, -⟩ := next_of_drop hnext
    exact ⟨hs.chain, hs.again_holds hi hj habove hmet⟩
  | member henter hadd =>
    subst hp
    cases he
    obtain ⟨hj, -⟩ := next_of_drop hnext
    have hreached := Corpus.reached_of_groupAt? (Corpus.groupAt?_append hs.here hi hj)
    exact ⟨hs.chain_next hi hj,
      member_holds hreached henter.unmet henter.group hs.groups_reached hs.tests hadd _⟩
  | inside henter hadd _ ih =>
    subst hp
    obtain ⟨hj, -⟩ := next_of_drop hnext
    have hincluded := Corpus.includes?_eq_some.mpr ⟨_, henter.group, rfl⟩
    exact ih (hs.enter hi hj henter.group hadd) hincluded rfl rfl he
  | onward henter hadd hinside _ _ ihOnward =>
    subst hp
    obtain ⟨hj, hothers⟩ := next_of_drop hnext
    have hincluded := Corpus.includes?_eq_some.mpr ⟨_, henter.group, rfl⟩
    obtain ⟨n, hn⟩ := hinside.stands (hs.enter hi hj henter.group hadd) hincluded rfl
    exact ihOnward (hs.leave hn) hi hothers rfl he

/-- The walk from a group tells the truth if it stops. -/
theorem Walk.root_holds {path : List Nat} {violation : Violation}
    (h : Walk c [] [root] {} (.stopped path violation)) :
    c.Chain root path ∧ violation.Holds c root path := by
  cases h with
  | cycle hi => cases hi
  | again _ hs => cases hs
  | member henter hadd =>
    exact ⟨.root, member_holds .refl henter.unmet henter.group nofun nofun hadd _⟩
  | inside henter hadd hw =>
    exact hw.holds (.start henter.group hadd) (Corpus.includes?_eq_some.mpr ⟨_, henter.group, rfl⟩)
      rfl
  | onward _ _ _ hothers => cases hothers

/-- The walk from a group has one ending, at which `visit` arrives with any depth that exceeds the
number of groups. There is no violation exactly if the group unfolds to nothing twice, and a
violation holds at the chain at whose end the walk stopped. -/
theorem violation?_true_diagnosis (hc : c.IncludesInRange) (hroot : root < c.groups.length) :
    ∃ ending, (∀ ending', Walk c [] [root] {} ending' ↔ ending' = ending) ∧
      (∀ depth, c.groups.length < depth →
        visit c depth [] root { groups := [root] } = ending.result) ∧
      (violation? c root = none ↔ UnfoldsOnce c.includes? c.membersOf root) ∧
      ∀ violation, violation? c root = some violation →
        ∃ path, ending = .stopped path violation ∧ c.Chain root path ∧
          violation.Holds c root path := by
  obtain ⟨ending, hw, -⟩ := exists_walk_root hc hroot (Nat.lt_succ_self _)
  refine ⟨ending, fun ending' => ⟨fun h => h.unique hw, fun h => h ▸ hw⟩, ?_, ?_, ?_⟩
  · intro depth hdepth
    obtain ⟨ending', hw', hresult⟩ := exists_walk_root hc hroot hdepth
    rw [hresult, hw'.unique hw]
  · exact violation?_eq_none_iff hc hroot
  · intro violation hv
    rw [violation?_of_walk hc hroot hw] at hv
    cases ending with
    | done met => cases hv
    | stopped path violation' =>
      obtain rfl := Option.some.inj hv
      exact ⟨path, rfl, hw.root_holds⟩

/-- Two groups that include a third one, and a group that includes both. -/
def diamond : Corpus where
  groups := [{ name := "top", includes := [1, 2] }, { name := "left", includes := [3] },
    { name := "right", includes := [3] }, { name := "leaf" }]

/-- The walk stops where it comes to the third group again. -/
theorem violation?_diamond :
    diamond.IncludesInRange ∧ 0 < diamond.groups.length ∧
      violation? diamond 0 = some (.repeatedGroup 3) ∧
      ∃ path, Walk diamond [] [0] {} (.stopped path (.repeatedGroup 3)) ∧ diamond.Chain 0 path ∧
        (Violation.repeatedGroup 3).Holds diamond 0 path := by
  have hc : diamond.IncludesInRange := by decide
  have hroot : 0 < diamond.groups.length := by decide
  have hv : violation? diamond 0 = some (.repeatedGroup 3) := by decide
  obtain ⟨ending, hw, -, -, hholds⟩ := violation?_true_diagnosis hc hroot
  obtain ⟨path, rfl, hchain, hpath⟩ := hholds _ hv
  exact ⟨hc, hroot, hv, path, (hw _).mpr rfl, hchain, hpath⟩

end Conformance.Manifest
