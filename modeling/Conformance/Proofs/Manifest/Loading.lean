import Conformance.Proofs.Group.Walk
import Conformance.Proofs.Manifest.Entries

/-!
# What becomes of a manifest

A document is sound if its names are distinct and all known, its entries are sound, and no closure
of a group meets anything twice. The sound documents are those that become corpora, and the corpus
has the entries of the document, at their places, with positions for names.
-/
namespace Conformance.Manifest

namespace Document

/-- The names of the tests and then those of the groups. -/
def names (d : Document) : List String :=
  d.tests.map (·.name) ++ d.groups.map (·.name)

def group? (d : Document) (name : String) : Option GroupEntry :=
  d.groups.find? (·.name == name)

/-- The names that a group includes, if there is such a group. -/
def includes? (d : Document) (name : String) : Option (List String) :=
  (d.group? name).map (·.includes)

/-- The names of the tests that a group lists itself. -/
def membersOf (d : Document) (name : String) : List String :=
  ((d.group? name).map (·.tests)).getD []

/-- What is asked of a document, whose files are seen from a folder. -/
structure Sound (d : Document) (folder : Path) (files : FileTree) : Prop where
  distinct : d.names.Nodup
  tests : ∀ e ∈ d.tests, e.Sound folder files
  members : ∀ e ∈ d.groups, ∀ n ∈ e.tests, n ∈ d.tests.map (·.name)
  includes : ∀ e ∈ d.groups, ∀ n ∈ e.includes, n ∈ d.groups.map (·.name)
  closures : ∀ e ∈ d.groups, UnfoldsOnce d.includes? d.membersOf e.name

end Document

/-- The group of a corpus is what the entry says: its positions are those of the names. -/
structure GroupEntry.Yields (e : GroupEntry) (c : Corpus) (g : TestGroup) : Prop where
  name : g.name = e.name
  description : g.description = e.description
  tests : List.Forall₂ (fun n i => ∃ t, c.tests[i]? = some t ∧ t.name = n) e.tests g.tests
  includes : List.Forall₂ (fun n i => ∃ h, c.groups[i]? = some h ∧ h.name = n) e.includes g.includes

/-- The corpus is what the document says, entry by entry, and its names stand for their entries. -/
structure Document.Describes (d : Document) (folder : Path) (files : FileTree) (c : Corpus) :
    Prop where
  tests : List.Forall₂ (fun e t => e.Yields folder files t) d.tests c.tests
  groups : List.Forall₂ (fun e g => e.Yields c g) d.groups c.groups
  lookup_test : ∀ n i, c.lookup n = some (.test i) ↔ ∃ t, c.tests[i]? = some t ∧ t.name = n
  lookup_group : ∀ n i, c.lookup n = some (.group i) ↔ ∃ g, c.groups[i]? = some g ∧ g.name = n
  lookup_none : ∀ n, c.lookup n = none ↔
    (∀ t ∈ c.tests, t.name ≠ n) ∧ ∀ g ∈ c.groups, g.name ≠ n

namespace Document

variable {d : Document} {folder : Path} {files : FileTree} {c : Corpus}

theorem group?_eq_some (hd : d.names.Nodup) {e : GroupEntry} (he : e ∈ d.groups) :
    d.group? e.name = some e := by
  have hnodup : (d.groups.map (·.name)).Nodup := (List.nodup_append.mp hd).2.1
  cases hf : d.group? e.name with
  | none => simpa using List.find?_eq_none.mp hf e he
  | some e' =>
    have hname : e'.name = e.name := by simpa using List.find?_some hf
    rw [List.inj_on_of_nodup_map hnodup (List.mem_of_find?_eq_some hf) he hname]

/-- The corpus has the names of the document, at the same places, and its groups. -/
structure Matches (d : Document) (c : Corpus) : Prop where
  tests : c.tests.map (·.name) = d.tests.map (·.name)
  groupNames : c.groups.map (·.name) = d.groups.map (·.name)
  groups : List.Forall₂ (fun e g => e.Yields c g) d.groups c.groups

theorem Describes.matches (h : d.Describes folder files c) : d.Matches c where
  tests := (map_eq_of_forall₂ (h.tests.imp fun _ _ he => he.name.symm)).symm
  groupNames := (map_eq_of_forall₂ (h.groups.imp fun _ _ he => he.name.symm)).symm
  groups := h.groups

end Document

theorem GroupEntry.Yields.positions {e : GroupEntry} {c : Corpus} {g : TestGroup}
    (h : e.Yields c g) :
    ((∀ i ∈ g.tests, i < c.tests.length) ∧ g.tests.map (nameAt (c.tests.map (·.name))) = e.tests) ∧
      (∀ i ∈ g.includes, i < c.groups.length) ∧
        g.includes.map (nameAt (c.groups.map (·.name))) = e.includes := by
  have ht := h.tests
  have hi := h.includes
  simp only [← Option.map_eq_some_iff, ← List.getElem?_map] at ht hi
  simpa only [List.length_map] using
    And.intro (forall₂_getElem?_iff.mp ht) (forall₂_getElem?_iff.mp hi)

namespace Document.Matches

variable {d : Document} {c : Corpus}

theorem names (h : d.Matches c) : c.names = d.names := by
  rw [Corpus.names, Document.names, h.tests, h.groupNames]

theorem exists_entry (h : d.Matches c) {g : TestGroup} (hg : g ∈ c.groups) :
    ∃ e ∈ d.groups, e.Yields c g :=
  exists_of_forall₂ h.groups.flip hg

/-- The names that a group entry refers to are known. -/
theorem known (h : d.Matches c) {e : GroupEntry} (he : e ∈ d.groups) :
    (∀ n ∈ e.tests, n ∈ d.tests.map (·.name)) ∧ ∀ n ∈ e.includes, n ∈ d.groups.map (·.name) := by
  obtain ⟨g, -, hg⟩ := exists_of_forall₂ h.groups he
  rw [← h.tests, ← h.groupNames]
  constructor
  · intro n hn
    obtain ⟨i, -, t, ht, rfl⟩ := exists_of_forall₂ hg.tests hn
    exact List.mem_map_of_mem (List.mem_of_getElem? ht)
  · intro n hn
    obtain ⟨i, -, g', hg', rfl⟩ := exists_of_forall₂ hg.includes hn
    exact List.mem_map_of_mem (List.mem_of_getElem? hg')

theorem membersInRange (h : d.Matches c) : c.MembersInRange := by
  intro g hg
  obtain ⟨e, -, he⟩ := h.exists_entry hg
  exact he.positions.1.1

theorem includesInRange (h : d.Matches c) : c.IncludesInRange := by
  intro g hg
  obtain ⟨e, -, he⟩ := h.exists_entry hg
  exact he.positions.2.1

/-- A closure repeats nothing by names exactly if it repeats nothing by positions. -/
theorem unfoldsOnce_iff (h : d.Matches c) (hd : d.names.Nodup) {i : Nat}
    (hi : i < c.groups.length) :
    UnfoldsOnce d.includes? d.membersOf (nameAt (c.groups.map (·.name)) i) ↔
      UnfoldsOnce c.includes? c.membersOf i := by
  have hentry : ∀ j, j < c.groups.length → ∃ g e, c.groups[j]? = some g ∧ e.Yields c g ∧
      d.group? (nameAt (c.groups.map (·.name)) j) = some e := by
    intro j hj
    obtain ⟨g, hg⟩ := Corpus.exists_group hj
    obtain ⟨e, he, hyields⟩ := h.exists_entry (List.mem_of_getElem? hg)
    refine ⟨g, e, hg, hyields, ?_⟩
    have hname : nameAt (c.groups.map (·.name)) j = e.name := by simp [nameAt, hg, hyields.name]
    rw [hname, group?_eq_some hd he]
  obtain ⟨htests, hgroups, -⟩ := List.nodup_append.mp (h.names ▸ hd)
  refine unfoldsOnce_map_iff (· < c.groups.length)
    (h := nameAt (c.tests.map (·.name))) ?_ ?_ ?_ ?_ hi
  · intro j hj
    obtain ⟨g, e, hg, hyields, he⟩ := hentry j hj
    exact ⟨g.includes, by simp [hg], by simp [includes?, he, hyields.positions.2.2],
      hyields.positions.2.1⟩
  · intro j hj
    obtain ⟨g, e, hg, hyields, he⟩ := hentry j hj
    simp [membersOf, he, Corpus.membersOf_eq hg, hyields.positions.1.2]
  · intro j hj k hk
    exact nameAt_inj hgroups (by simpa using hj) (by simpa using hk)
  · intro j hj k hk t ht u hu
    obtain ⟨g, e, hg, hyields, -⟩ := hentry j hj
    obtain ⟨g', e', hg', hyields', -⟩ := hentry k hk
    rw [Corpus.membersOf_eq hg] at ht
    rw [Corpus.membersOf_eq hg'] at hu
    refine nameAt_inj htests ?_ ?_
    · simpa using hyields.positions.1.1 t ht
    · simpa using hyields'.positions.1.1 u hu

end Document.Matches

namespace Source

variable {s : Source} {files : FileTree} {d : Document}

theorem group_eq_ok (hd : d.names.Nodup) {c : Corpus}
    (htests : c.tests.map (·.name) = d.tests.map (·.name))
    (hgroups : c.groups.map (·.name) = d.groups.map (·.name)) {e : GroupEntry} {g : TestGroup} :
    s.group d e = .ok g ↔ e.Yields c g := by
  rw [Document.names, ← htests, ← hgroups] at hd
  obtain ⟨hnt, hng, -⟩ := List.nodup_append.mp hd
  unfold group
  simp only [bind_eq_ok, ← htests, ← hgroups, positions_eq_ok hnt, positions_eq_ok hng,
    List.getElem?_map, Option.map_eq_some_iff]
  constructor
  · rintro ⟨ts, hts, is, his, h⟩
    obtain rfl := Except.ok.inj h
    exact ⟨rfl, rfl, hts, his⟩
  · intro h
    refine ⟨g.tests, h.tests, g.includes, h.includes, ?_⟩
    cases g
    obtain ⟨rfl, rfl, -, -⟩ := h
    rfl

theorem name_of_group {e : GroupEntry} {g : TestGroup} (h : s.group d e = .ok g) :
    g.name = e.name := by
  unfold group at h
  simp only [bind_eq_ok] at h
  obtain ⟨_, -, _, -, h⟩ := h
  rw [← Except.ok.inj h]

/-- An entry whose names are all known becomes a group. -/
theorem exists_group {e : GroupEntry} (htests : ∀ n ∈ e.tests, n ∈ d.tests.map (·.name))
    (hincludes : ∀ n ∈ e.includes, n ∈ d.groups.map (·.name)) : ∃ g, s.group d e = .ok g := by
  obtain ⟨ts, hts⟩ := exists_positions (fun n => s.located (.undefinedTest n e.name) n) htests
  obtain ⟨is, his⟩ :=
    exists_positions (fun n => s.located (.undefinedGroup n e.name) n) hincludes
  unfold group
  simp only [bind_eq_ok]
  exact ⟨_, ts, hts, is, his, rfl⟩

theorem closureFault?_eq_none {c : Corpus} :
    s.closureFault? c = none ↔ ∀ i < c.groups.length, violation? c i = none := by
  simp [closureFault?, List.findSome?_eq_none_iff]

/-- The steps by which a document becomes a corpus. -/
theorem build_eq_ok_iff {c : Corpus} :
    s.build files d = .ok c ↔ d.names.Nodup ∧
      List.Forall₂ (fun e t => s.test files e = .ok t) d.tests c.tests ∧
      List.Forall₂ (fun e g => s.group d e = .ok g) d.groups c.groups ∧
      ∀ i < c.groups.length, violation? c i = none := by
  have hnames : d.names.Nodup ↔ Fresh (d.tests.map (·.name)) [] ∧
      repeated? (d.tests.reverse.map (·.name)) (d.groups.map (·.name)) = none := by
    rw [Document.names, ← fresh_of_none, fresh_append, repeated?_eq_none, List.append_nil,
      List.map_reverse]
  unfold build
  simp only [bind_eq_ok, tests_eq_ok, hnames, ← closureFault?_eq_none (s := s)]
  cases repeated? (d.tests.reverse.map (·.name)) (d.groups.map (·.name)) with
  | some name => simp
  | none =>
    simp only [bind_eq_ok, mapM_eq_ok]
    constructor
    · rintro ⟨cases, ⟨hfresh, hcases⟩, groups, hgroups, h⟩
      cases hfault : s.closureFault? { tests := cases, groups } with
      | some fault => rw [hfault] at h; cases h
      | none =>
        rw [hfault] at h
        obtain rfl := Except.ok.inj h
        exact ⟨⟨hfresh, trivial⟩, hcases, hgroups, hfault⟩
    · rintro ⟨⟨hfresh, -⟩, hcases, hgroups, hfault⟩
      refine ⟨c.tests, ⟨hfresh, hcases⟩, c.groups, hgroups, ?_⟩
      rw [hfault]

theorem matches_of_steps {c : Corpus} (hd : d.names.Nodup)
    (htests : List.Forall₂ (fun e t => s.test files e = .ok t) d.tests c.tests)
    (hgroups : List.Forall₂ (fun e g => s.group d e = .ok g) d.groups c.groups) :
    d.Matches c := by
  have hnt := map_eq_of_forall₂ (htests.imp fun _ _ ht => (test_eq_ok.mp ht).2.name.symm)
  have hng := map_eq_of_forall₂ (hgroups.imp fun _ _ hg => (name_of_group hg).symm)
  exact ⟨hnt.symm, hng.symm, hgroups.imp fun _ _ hg => (group_eq_ok hd hnt.symm hng.symm).mp hg⟩

theorem violation?_of_matches {c : Corpus} (h : d.Matches c) (hd : d.names.Nodup) :
    (∀ i < c.groups.length, violation? c i = none) ↔
      ∀ e ∈ d.groups, UnfoldsOnce d.includes? d.membersOf e.name := by
  have hiff : ∀ i < c.groups.length, (violation? c i = none ↔
      UnfoldsOnce d.includes? d.membersOf (nameAt (c.groups.map (·.name)) i)) := fun i hi =>
    (violation?_eq_none_iff h.includesInRange hi).trans (h.unfoldsOnce_iff hd hi).symm
  have hnames : (∀ e ∈ d.groups, UnfoldsOnce d.includes? d.membersOf e.name) ↔
      ∀ n ∈ c.groups.map (·.name), UnfoldsOnce d.includes? d.membersOf n := by
    rw [h.groupNames, List.forall_mem_map]
  rw [hnames, List.forall_mem_iff_getElem]
  constructor
  · intro hnone i hi
    have hi' : i < c.groups.length := by simpa using hi
    simpa [nameAt, hi'] using (hiff i hi').mp (hnone i hi')
  · intro honce i hi
    exact (hiff i hi).mpr (by simpa [nameAt, hi] using honce i (by simpa using hi))

/-- A document becomes a corpus exactly if it is sound and the corpus is what it says. -/
theorem build_eq_ok {c : Corpus} :
    s.build files d = .ok c ↔ d.Sound s.folder files ∧ d.Describes s.folder files c := by
  rw [build_eq_ok_iff]
  constructor
  · rintro ⟨hd, htests, hgroups, hclosures⟩
    have hmatches := matches_of_steps hd htests hgroups
    simp only [test_eq_ok, List.forall₂_and_left] at htests
    have hnames : c.names.Nodup := hmatches.names ▸ hd
    constructor
    · exact ⟨hd, htests.1, fun e he => (hmatches.known he).1, fun e he => (hmatches.known he).2,
        (violation?_of_matches hmatches hd).mp hclosures⟩
    · refine ⟨htests.2, hmatches.groups, fun n i => Corpus.lookup_eq_test hnames,
        fun n i => Corpus.lookup_eq_group hnames, fun n => ?_⟩
      simp [Corpus.lookup_eq_none, Corpus.names]
  · rintro ⟨hsound, hdescribes⟩
    have hmatches := hdescribes.matches
    have hd := hsound.distinct
    refine ⟨hd, ?_, ?_, (violation?_of_matches hmatches hd).mpr hsound.closures⟩
    · simp only [test_eq_ok, List.forall₂_and_left]
      exact ⟨hsound.tests, hdescribes.tests⟩
    · exact hdescribes.groups.imp fun _ _ hg =>
        (group_eq_ok hd hmatches.tests hmatches.groupNames).mpr hg

theorem exists_build (h : d.Sound s.folder files) : ∃ c, s.build files d = .ok c := by
  obtain ⟨cases, hcases⟩ := exists_forall₂ fun e he => exists_test (h.tests e he)
  obtain ⟨groups, hgroups⟩ := exists_forall₂ fun e he =>
    exists_group (s := s) (h.members e he) (h.includes e he)
  have hmatches : d.Matches { tests := cases, groups } :=
    matches_of_steps h.distinct hcases hgroups
  refine ⟨{ tests := cases, groups }, build_eq_ok_iff.mpr ⟨h.distinct, hcases, hgroups, ?_⟩⟩
  exact (violation?_of_matches hmatches h.distinct).mpr h.closures

theorem load_eq_ok {format : Format} {c : Corpus} :
    s.load files format = .ok c ↔ ∃ d, s.document format = .ok d ∧ s.build files d = .ok c := by
  rw [load, bind_eq_ok]

/-- The manifests that load are those whose documents are sound: a document becomes a corpus exactly
if its names are distinct and known, its entries are sound and its closures repeat nothing, and the
corpus is then the one that the document describes. -/
theorem sound_documents_load (s : Source) (files : FileTree) :
    (∀ d, (∃ c, s.build files d = .ok c) ↔ d.Sound s.folder files) ∧
    (∀ d c, s.build files d = .ok c ↔ d.Sound s.folder files ∧ d.Describes s.folder files c) ∧
    ∀ format c, s.load files format = .ok c ↔
      ∃ d, s.document format = .ok d ∧ d.Sound s.folder files ∧ d.Describes s.folder files c := by
  refine ⟨fun d => ⟨?_, exists_build⟩, fun d c => build_eq_ok, fun format c => ?_⟩
  · rintro ⟨c, hc⟩
    exact (build_eq_ok.mp hc).1
  · simp only [load_eq_ok, build_eq_ok]

/-- What is true of every corpus that is built, whatever the document. -/
theorem checked_of_build {c : Corpus} (h : s.build files d = .ok c) : c.Checked := by
  obtain ⟨hd, htests, hgroups, hclosures⟩ := build_eq_ok_iff.mp h
  have hmatches := matches_of_steps hd htests hgroups
  exact ⟨hmatches.names ▸ hd, hmatches.membersInRange, hmatches.includesInRange, fun i hi =>
    (violation?_eq_none_iff hmatches.includesInRange hi).mp (hclosures i hi)⟩

end Source
end Conformance.Manifest
