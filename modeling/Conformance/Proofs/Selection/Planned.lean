import Conformance.Proofs.Files.Way
import Conformance.Proofs.Group.Walk
import Conformance.Proofs.Manifest.Loading
import Conformance.Proofs.Selection.Firsts
import Conformance.Proofs.Success
import Conformance.Selection
import Mathlib.Data.Set.Card

/-!
# What a selection plans

Going through a group needs no bound if its closure was checked: the nesting of groups is no deeper
than there are groups in the unfolding, and none of them stands in it twice. So the expansion of a
group lists the tests of its closure, each once.

In a checked corpus no two tests have one name, so the first case of a name is its only case: a plan
holds what its selection contributes, each test once, and counts how often it was contributed again.
-/
namespace Conformance.Corpus

variable {c : Corpus}

/-- What going through groups one after the other gives, where nothing bounds the nesting and every
position has to exist: the tests of each group, and then those of the groups that it includes. -/
inductive Expands (c : Corpus) : List Nat → List TestCase → Prop
  | nil : Expands c [] []
  | cons {i : Nat} {g : TestGroup} {others : List Nat} {own inner after : List TestCase} :
      c.groups[i]? = some g → List.Forall₂ (fun t x => c.tests[t]? = some x) g.tests own →
      Expands c g.includes inner → Expands c others after →
      Expands c (i :: others) (own ++ (inner ++ after))

/-- The cases are the tests at these positions, each once. -/
def ListsOnce (c : Corpus) (positions : Set Nat) (cases : List TestCase) : Prop :=
  ∃ ts : List Nat, ts.Nodup ∧ (∀ t, t ∈ ts ↔ t ∈ positions) ∧
    List.Forall₂ (fun t x => c.tests[t]? = some x) ts cases

namespace ListsOnce

variable {positions : Set Nat} {cases : List TestCase}

theorem length_eq (h : c.ListsOnce positions cases) : cases.length = positions.ncard := by
  obtain ⟨ts, hnodup, hmem, hcases⟩ := h
  have hset : positions = ↑ts.toFinset := by
    ext t
    simp [hmem]
  rw [hset, Set.ncard_coe_finset, List.toFinset_card_of_nodup hnodup, hcases.length_eq]

theorem mem_iff (h : c.ListsOnce positions cases) (x : TestCase) :
    x ∈ cases ↔ ∃ t ∈ positions, c.tests[t]? = some x := by
  obtain ⟨ts, -, hmem, hcases⟩ := h
  simp only [← hmem]
  constructor
  · intro hx
    obtain ⟨t, ht, htx⟩ := exists_of_forall₂ hcases.flip hx
    exact ⟨t, ht, htx⟩
  · rintro ⟨t, ht, htx⟩
    obtain ⟨y, hy, hty⟩ := exists_of_forall₂ hcases ht
    rwa [Option.some.inj (htx.symm.trans hty)]

end ListsOnce

theorem testsAt_append (ts us : List Nat) : c.testsAt (ts ++ us) = c.testsAt ts ++ c.testsAt us :=
  List.filterMap_append

theorem forall₂_testsAt {ts : List Nat} (h : ∀ t ∈ ts, t < c.tests.length) :
    List.Forall₂ (fun t x => c.tests[t]? = some x) ts (c.testsAt ts) := by
  induction ts with
  | nil => exact .nil
  | cons t ts ih =>
    obtain ⟨ht, hts⟩ := List.forall_mem_cons.mp h
    have hx : c.tests[t]? = some c.tests[t] := List.getElem?_eq_getElem ht
    have hcons : c.testsAt (t :: ts) = c.tests[t] :: c.testsAt ts := List.filterMap_cons_some hx
    rw [hcons]
    exact .cons hx (ih hts)

/-- Groups that unfold are expanded within a depth of the number of groups met, and an unbounded
expansion gives the same. -/
theorem expands_of_unfolds (hm : c.MembersInRange) {roots nodes : List Nat}
    (h : Unfolds c.includes? roots nodes) {depth : Nat} (hdepth : nodes.length ≤ depth) :
    roots.flatMap (c.expandWithin depth) = c.testsAt (nodes.flatMap c.membersOf) ∧
      c.Expands roots (c.testsAt (nodes.flatMap c.membersOf)) := by
  induction h generalizing depth with
  | nil => exact ⟨rfl, .nil⟩
  | @cons i included others inner after hincluded _ _ ihInner ihAfter =>
    obtain ⟨g, hg, rfl⟩ := includes?_eq_some.mp hincluded
    simp only [List.length_cons, List.length_append] at hdepth
    obtain ⟨depth', rfl⟩ : ∃ n, depth = n + 1 := ⟨depth - 1, by omega⟩
    obtain ⟨hi, hInner⟩ := ihInner (show inner.length ≤ depth' by omega)
    obtain ⟨ha, hAfter⟩ := ihAfter (show after.length ≤ depth' + 1 by omega)
    have hlist : c.testsAt ((i :: (inner ++ after)).flatMap c.membersOf) =
        c.testsAt g.tests ++
          (c.testsAt (inner.flatMap c.membersOf) ++ c.testsAt (after.flatMap c.membersOf)) := by
      rw [List.flatMap_cons, List.flatMap_append, testsAt_append, testsAt_append, membersOf_eq hg]
    rw [hlist]
    constructor
    · rw [List.flatMap_cons, ha, expandWithin, hg, ← hi, List.append_assoc]
    · exact .cons hg (forall₂_testsAt (hm g (List.mem_of_getElem? hg))) hInner hAfter

theorem mem_closure_lt (hm : c.MembersInRange) {i t : Nat} (ht : t ∈ c.closure i) :
    t < c.tests.length := by
  obtain ⟨j, -, htj⟩ := ht
  cases hg : c.groups[j]? with
  | none => simp [membersOf, hg] at htj
  | some g =>
    rw [membersOf_eq hg] at htj
    exact hm g (List.mem_of_getElem? hg) t htj

/-- The expansion of a group is what going through it without a bound gives, and lists the tests of
its closure, each once. -/
theorem Checked.expand (hc : c.Checked) {i : Nat} (hi : i < c.groups.length) :
    c.Expands [i] (c.expand i) ∧ c.ListsOnce (c.closure i) (c.expand i) := by
  obtain ⟨nodes, hunfolds, hnodup, honce⟩ := hc.closures i hi
  have hrange : ∀ j ∈ nodes, j < c.groups.length :=
    hunfolds.forall_mem (fun _ _ _ hlink => hc.includesInRange.lt hlink) (by simpa using hi)
  have hlength := Manifest.length_le_groups hnodup hrange
  obtain ⟨heq, hexpands⟩ := expands_of_unfolds hc.membersInRange hunfolds hlength
  have hexpand : c.expand i = c.testsAt (nodes.flatMap c.membersOf) := by
    rw [← heq]
    simp [Corpus.expand]
  have hmem : ∀ t, t ∈ nodes.flatMap c.membersOf ↔ t ∈ c.closure i := by
    intro t
    rw [List.mem_flatMap]
    simp only [hunfolds.mem_iff, List.mem_singleton, exists_eq_left]
    rfl
  rw [hexpand]
  exact ⟨hexpands, _, honce, hmem,
    forall₂_testsAt fun t ht => mem_closure_lt hc.membersInRange ((hmem t).mp ht)⟩

/-! ## What names contribute -/

/-- The tests that a name contributes to a selection: itself, or the closure of its group. -/
def contributed (c : Corpus) (name : String) : Set Nat :=
  {t | (∃ x, c.tests[t]? = some x ∧ x.name = name) ∨
    ∃ i g, c.groups[i]? = some g ∧ g.name = name ∧ t ∈ c.closure i}

/-- What a name stands for in a selection: a test for itself, a group for its expansion. -/
inductive Named (c : Corpus) : String → List TestCase → Prop
  | test {i : Nat} {x : TestCase} : c.tests[i]? = some x → Named c x.name [x]
  | group {i : Nat} {g : TestGroup} : c.groups[i]? = some g → Named c g.name (c.expand i)

/-- The first unknown name is a fault. -/
theorem resolveNames_unknown {before : List String} (h : ∀ n ∈ before, n ∈ c.names) {name : String}
    (hname : name ∉ c.names) (after : List String) :
    Selection.resolveNames c (before ++ name :: after) =
      .error (.selection (.unknownName name false)) := by
  induction before with
  | nil => simp [Selection.resolveNames, lookup_eq_none.mpr hname]
  | cons n before ih =>
    obtain ⟨hn, hbefore⟩ := List.forall_mem_cons.mp h
    rw [List.cons_append, Selection.resolveNames, ih hbefore]
    cases hl : c.lookup n with
    | none => exact absurd hn (lookup_eq_none.mp hl)
    | some entry => cases entry <;> rfl

namespace Checked

theorem testNames (hc : c.Checked) : (c.tests.map (·.name)).Nodup :=
  (List.nodup_append.mp hc.distinct).1

theorem test_unique (hc : c.Checked) {i j : Nat} {x y : TestCase} (hx : c.tests[i]? = some x)
    (hy : c.tests[j]? = some y) (h : x.name = y.name) : i = j := by
  refine nameAt_inj hc.testNames ?_ ?_ ?_
  · simpa using (List.getElem?_eq_some_iff.mp hx).1
  · simpa using (List.getElem?_eq_some_iff.mp hy).1
  · simp [nameAt, hx, hy, h]

theorem group_unique (hc : c.Checked) {i j : Nat} {g g' : TestGroup} (hg : c.groups[i]? = some g)
    (hg' : c.groups[j]? = some g') (h : g.name = g'.name) : i = j := by
  refine nameAt_inj (List.nodup_append.mp hc.distinct).2.1 ?_ ?_ ?_
  · simpa using (List.getElem?_eq_some_iff.mp hg).1
  · simpa using (List.getElem?_eq_some_iff.mp hg').1
  · simp [nameAt, hg, hg', h]

theorem name_ne (hc : c.Checked) {i j : Nat} {x : TestCase} {g : TestGroup}
    (hx : c.tests[i]? = some x) (hg : c.groups[j]? = some g) : x.name ≠ g.name :=
  (List.nodup_append.mp hc.distinct).2.2 _ (List.mem_map_of_mem (List.mem_of_getElem? hx)) _
    (List.mem_map_of_mem (List.mem_of_getElem? hg))

/-- Tests that are listed once have distinct names. -/
theorem names_nodup (hc : c.Checked) {positions : Set Nat} {cases : List TestCase}
    (h : c.ListsOnce positions cases) : (cases.map (·.name)).Nodup := by
  obtain ⟨ts, hnodup, -, hcases⟩ := h
  have hnames : ts.map (nameAt (c.tests.map (·.name))) = cases.map (·.name) :=
    map_eq_of_forall₂ (hcases.imp fun t x hx => by simp [nameAt, hx])
  have hlt : ∀ t ∈ ts, t < (c.tests.map (·.name)).length := by
    intro t ht
    obtain ⟨x, -, hx⟩ := exists_of_forall₂ hcases ht
    simpa using (List.getElem?_eq_some_iff.mp hx).1
  rw [← hnames]
  exact hnodup.map_on fun t ht u hu => nameAt_inj hc.testNames (hlt t ht) (hlt u hu)

/-- A name stands for the tests that it contributes, each once. -/
theorem listsOnce_of_named (hc : c.Checked) {name : String} {cases : List TestCase}
    (h : c.Named name cases) : c.ListsOnce (c.contributed name) cases := by
  cases h with
  | @test i x hx =>
    refine ⟨[i], List.nodup_singleton i, fun t => ?_, .cons hx .nil⟩
    rw [List.mem_singleton]
    constructor
    · rintro rfl
      exact .inl ⟨x, hx, rfl⟩
    · rintro (⟨y, hy, hname⟩ | ⟨j, g, hg, hname, -⟩)
      · exact hc.test_unique hy hx hname
      · exact absurd hname.symm (hc.name_ne hx hg)
  | @group i g hg =>
    have hset : c.contributed g.name = c.closure i := by
      ext t
      constructor
      · rintro (⟨x, hx, hname⟩ | ⟨j, g', hg', hname, ht⟩)
        · exact absurd hname (hc.name_ne hx hg)
        · rwa [hc.group_unique hg' hg hname] at ht
      · exact fun ht => .inr ⟨i, g, hg, rfl, ht⟩
    rw [hset]
    exact (hc.expand (List.getElem?_eq_some_iff.mp hg).1).2

/-- Known names are resolved one by one. -/
theorem resolveNames (hc : c.Checked) {names : List String} (h : ∀ n ∈ names, n ∈ c.names) :
    ∃ parts, List.Forall₂ c.Named names parts ∧
      Selection.resolveNames c names = .ok parts.flatten := by
  induction names with
  | nil => exact ⟨[], .nil, rfl⟩
  | cons n names ih =>
    obtain ⟨hn, hnames⟩ := List.forall_mem_cons.mp h
    obtain ⟨parts, hparts, hresolve⟩ := ih hnames
    cases hl : c.lookup n with
    | none => exact absurd hn (lookup_eq_none.mp hl)
    | some entry =>
      cases entry with
      | test i =>
        obtain ⟨x, hx, rfl⟩ := (lookup_eq_test hc.distinct).mp hl
        refine ⟨[x] :: parts, .cons (.test hx) hparts, ?_⟩
        simp [Selection.resolveNames, hl, hresolve, Except.map, testsAt, hx]
      | group i =>
        obtain ⟨g, hg, rfl⟩ := (lookup_eq_group hc.distinct).mp hl
        refine ⟨c.expand i :: parts, .cons (.group hg) hparts, ?_⟩
        simp [Selection.resolveNames, hl, hresolve, Except.map]

end Checked

/-- The plan of everything: every test once, in order, where the groups only repeat them. -/
structure PlansAll (c : Corpus) (p : Plan) : Prop where
  distinct : (p.entries.map (·.case.name)).Nodup
  entries : p.entries.map (·.case) = c.tests
  duplicates : p.duplicates = ((List.range c.groups.length).map fun i => (c.closure i).ncard).sum

/-- The plan of the cases that names stand for: each test that they contribute once, in the order in
which the tests are first seen. -/
structure PlansNames (c : Corpus) (names : List String) (cases : List TestCase) (p : Plan) :
    Prop where
  named : ∃ parts, List.Forall₂ c.Named names parts ∧ parts.flatten = cases
  distinct : (p.entries.map (·.case.name)).Nodup
  union : ∀ x, x ∈ p.entries.map (·.case) ↔
    ∃ n ∈ names, ∃ t ∈ c.contributed n, c.tests[t]? = some x
  order : (p.entries.map (·.case)).Pairwise fun x y => cases.idxOf x < cases.idxOf y
  account : p.entries.length + p.duplicates = (names.map fun n => (c.contributed n).ncard).sum

namespace Checked

theorem plansAll (hc : c.Checked) (implemented : FeatureSet) :
    c.PlansAll (Plan.build (Selection.resolveAll c) implemented) := by
  have hgroups : ∀ i ∈ List.range c.groups.length,
      c.ListsOnce (c.closure i) (c.expand i) := fun i hi =>
    (hc.expand (List.mem_range.mp hi)).2
  have hfirsts : Plan.firsts (Selection.resolveAll c) = c.tests := by
    refine Plan.firsts_append hc.testNames fun x hx => ?_
    obtain ⟨i, hi, hx⟩ := List.mem_flatMap.mp hx
    obtain ⟨t, -, ht⟩ := ((hgroups i hi).mem_iff x).mp hx
    exact List.mem_map_of_mem (List.mem_of_getElem? ht)
  have hentries := (Plan.build_cases (Selection.resolveAll c) implemented).trans hfirsts
  refine ⟨?_, hentries, ?_⟩
  · have hnames := congrArg (List.map (·.name)) hentries
    rw [List.map_map] at hnames
    exact hnames ▸ hc.testNames
  · have hlengths : (List.range c.groups.length).map (fun i => (c.expand i).length) =
        (List.range c.groups.length).map fun i => (c.closure i).ncard :=
      List.map_congr_left fun i hi => (hgroups i hi).length_eq
    rw [Plan.build, hfirsts, Selection.resolveAll, List.length_append, List.length_flatMap,
      hlengths, Nat.add_sub_cancel_left]

theorem plansNames (hc : c.Checked) {names : List String} {parts : List (List TestCase)}
    (h : List.Forall₂ c.Named names parts) (implemented : FeatureSet) :
    c.PlansNames names parts.flatten (Plan.build parts.flatten implemented) := by
  have honce : List.Forall₂ (fun n part => c.ListsOnce (c.contributed n) part) names parts :=
    h.imp fun _ _ hn => hc.listsOnce_of_named hn
  have hmem : ∀ x, x ∈ parts.flatten ↔
      ∃ n ∈ names, ∃ t ∈ c.contributed n, c.tests[t]? = some x := by
    intro x
    rw [List.mem_flatten]
    constructor
    · rintro ⟨part, hpart, hx⟩
      obtain ⟨n, hn, hlists⟩ := exists_of_forall₂ honce.flip hpart
      exact ⟨n, hn, (ListsOnce.mem_iff hlists x).mp hx⟩
    · rintro ⟨n, hn, hx⟩
      obtain ⟨part, hpart, hlists⟩ := exists_of_forall₂ honce hn
      exact ⟨part, hpart, (hlists.mem_iff x).mpr hx⟩
  have hunique : ∀ x ∈ parts.flatten, ∀ y ∈ parts.flatten, x.name = y.name → x = y := by
    intro x hx y hy hname
    obtain ⟨-, -, t, -, ht⟩ := (hmem x).mp hx
    obtain ⟨-, -, u, -, hu⟩ := (hmem y).mp hy
    rw [hc.test_unique ht hu hname] at ht
    exact Option.some.inj (ht.symm.trans hu)
  have hfirst := Plan.firsts_firstOfName parts.flatten
  have hentries := Plan.build_cases parts.flatten implemented
  refine ⟨⟨parts, h, rfl⟩, ?_, fun x => ?_, hentries ▸ hfirst.order, ?_⟩
  · have hnames := congrArg (List.map (·.name)) hentries
    rw [List.map_map] at hnames
    exact hnames ▸ hfirst.distinct
  · rw [hentries, Plan.mem_firsts hunique, hmem]
  · rw [Plan.length_add_duplicates, List.length_flatten]
    exact congrArg List.sum (map_eq_of_forall₂ (honce.imp fun _ _ hl => hl.length_eq.symm)).symm

/-- A group that is selected alone repeats nothing. -/
theorem group_alone (hc : c.Checked) {i : Nat} (hi : i < c.groups.length)
    (implemented : FeatureSet) : (Plan.build (c.expand i) implemented).duplicates = 0 := by
  have hnames := hc.names_nodup (hc.expand hi).2
  have hfirsts : Plan.firsts (c.expand i ++ []) = c.expand i := Plan.firsts_append hnames nofun
  rw [List.append_nil] at hfirsts
  simp [Plan.build, hfirsts]

end Checked
end Conformance.Corpus

namespace Conformance.Manifest.Source

/-- What is planned from a corpus that was built from a manifest. -/
theorem plans_of_built {s : Source} {files : FileTree} {d : Document} {c : Corpus}
    (h : s.build files d = .ok c) (implemented : FeatureSet) :
    (∀ i < c.groups.length,
      c.Expands [i] (c.expand i) ∧ c.ListsOnce (c.closure i) (c.expand i)) ∧
    (List.Forall₂ (fun e x => e.Yields s.folder files x) d.tests
        ((Plan.build (Selection.resolveAll c) implemented).entries.map (·.case)) ∧
      c.PlansAll (Plan.build (Selection.resolveAll c) implemented)) ∧
    (∀ names, (∀ n ∈ names, n ∈ c.names) →
      ∃ cases, Selection.resolveNames c names = .ok cases ∧
        c.PlansNames names cases (Plan.build cases implemented)) ∧
    (∀ g ∈ c.groups, ∃ cases, Selection.resolveNames c [g.name] = .ok cases ∧
      (Plan.build cases implemented).duplicates = 0) ∧
    ∀ before name after, (∀ n ∈ before, n ∈ c.names) → name ∉ c.names →
      Selection.resolveNames c (before ++ name :: after) =
        .error (.selection (.unknownName name false)) := by
  have hc := checked_of_build h
  have hall := hc.plansAll implemented
  refine ⟨fun i hi => hc.expand hi, ⟨?_, hall⟩, fun names hnames => ?_, fun g hg => ?_,
    fun before name after hbefore hname => Corpus.resolveNames_unknown hbefore hname after⟩
  · rw [hall.entries]
    exact (build_eq_ok.mp h).2.tests
  · obtain ⟨parts, hparts, hresolve⟩ := hc.resolveNames hnames
    exact ⟨parts.flatten, hresolve, hc.plansNames hparts implemented⟩
  · obtain ⟨i, hi, rfl⟩ := List.mem_iff_getElem.mp hg
    have hlookup := (Corpus.lookup_eq_group hc.distinct).mpr
      ⟨_, List.getElem?_eq_getElem hi, rfl⟩
    refine ⟨c.expand i, ?_, hc.group_alone hi implemented⟩
    simp [Selection.resolveNames, hlookup, Except.map]

/-- A folder with one file. -/
def pairTree : FileTree where
  entries := [(["x"], .file 0)]
  held := #[{ content := [], mode := Node.plainMode }]

def pairEntry (name : String) : TestEntry where
  name := name
  file := "x"

/-- Two tests of one file, and a group that includes another one. -/
def pair : Document where
  tests := [pairEntry "a", pairEntry "b"]
  groups := [
    { name := "inner", tests := ["b"] },
    { name := "outer", tests := ["a"], includes := ["inner"] }]

def pairSource : Source := { name := "m", content := "", folder := ⟨""⟩ }

def pairCase (name : String) : TestCase where
  name := name
  origin := ⟨"x"⟩
  source := ""

def pairCorpus : Corpus where
  tests := [pairCase "a", pairCase "b"]
  groups := [
    { name := "inner", tests := [1] },
    { name := "outer", tests := [0], includes := [0] }]

theorem readText_pair : pairTree.readText ⟨"x"⟩ = .ok "" := by
  have hfind : pairTree.find .target ⟨"x"⟩ = .ok (.taken ["x"] (.plain [])) := by
    refine FileTree.find_eq_ok_iff.mpr
      ⟨⟨by decide, by decide, by decide⟩, ⟨false, 40, ["x"], []⟩, ?_, .taken rfl nofun⟩
    show FileTree.Way _ _ ⟨false, 40, [], ["x".toList]⟩ _
    exact .stride (.down rfl ⟨by decide, by decide, by decide⟩ rfl rfl fun _ h => by cases h)
      (.done _)
  rw [FileTree.readText, FileTree.read, hfind]
  rfl

theorem test_pair (name : String) :
    pairSource.test pairTree (pairEntry name) = .ok (pairCase name) := by
  have hpath : pairSource.folder.join ⟨(pairEntry name).file⟩ = ⟨"x"⟩ := by
    show pairSource.folder.join ⟨"x"⟩ = ⟨"x"⟩
    decide
  unfold test
  rw [program_eq_ok.mpr (hpath ▸ readText_pair), hpath]
  rfl

theorem build_pair : pairSource.build pairTree pair = .ok pairCorpus :=
  build_eq_ok_iff.mpr ⟨by decide, .cons (test_pair "a") (.cons (test_pair "b") .nil),
    .cons rfl (.cons rfl .nil), by decide⟩

theorem pair_planned :
    pairSource.build pairTree pair = .ok pairCorpus ∧
    pairCorpus.PlansAll (Plan.build (Selection.resolveAll pairCorpus) .empty) ∧
    (∃ cases, Selection.resolveNames pairCorpus ["outer", "b"] = .ok cases ∧
      pairCorpus.PlansNames ["outer", "b"] cases (Plan.build cases .empty) ∧
      (Plan.build cases .empty).duplicates = 1) ∧
    Selection.resolveNames pairCorpus ["outer", "c"] =
      .error (.selection (.unknownName "c" false)) := by
  obtain ⟨-, ⟨-, hall⟩, hnames, -, hunknown⟩ := plans_of_built build_pair .empty
  obtain ⟨cases, hcases, hplans⟩ := hnames ["outer", "b"] (by decide)
  have hresolved : Selection.resolveNames pairCorpus ["outer", "b"] =
      .ok [pairCase "a", pairCase "b", pairCase "b"] := rfl
  obtain rfl := Except.ok.inj (hcases.symm.trans hresolved)
  exact ⟨build_pair, hall, ⟨_, hcases, hplans, rfl⟩,
    hunknown ["outer"] "c" [] (by decide) (by decide)⟩

end Conformance.Manifest.Source
