import Conformance.Proofs.Selection.Planned
import Conformance.Session

/-!
# What a listing shows

A listing prints direct tests and then the trees of groups; a run expands each name where it stands.
Both go through the groups in one order, so a listing shows the cases that a run of the same
selection has, and it fails for the same name.
-/
namespace Conformance

namespace Report

open Styled

/-- What every entry of a test has, and no other part of a listing. -/
def testLabel : Styled :=
  label .cyan "TEST:"

/-- The entries of tests among these parts are those of the cases, in this order. -/
inductive Shows : List Styled → List TestCase → Prop
  | nil : Shows [] []
  | other {part : Styled} {parts : List Styled} {cases : List TestCase} : part ≠ testLabel →
      Shows parts cases → Shows (part :: parts) cases
  | test (depth : Nat) (x : TestCase) {parts : List Styled} {cases : List TestCase} :
      Shows parts cases → Shows (testEntry depth x ++ parts) (x :: cases)

/-- The parts that stand behind the labels of tests. -/
def testLines : List Styled → List Styled
  | [] => []
  | part :: parts =>
    if part = testLabel then parts.head?.toList ++ testLines parts else testLines parts

/-- What stands behind the label of a test. -/
def testLine (x : TestCase) : Styled :=
  plain (" " ++ x.name ++ "\n")

/-- What an entry has behind the line of its test. -/
def testDetails (depth : Nat) (x : TestCase) : List Styled :=
  (testEntry depth x).drop 3

/-- What stands before the tests of a group. -/
def groupHead (depth : Nat) (g : TestGroup) : List Styled :=
  [plain (indent depth), label .magenta "GROUP:", plain (" " ++ g.name ++ "\n")] ++
    detail (indent (depth + 1)) "" g.description

theorem name_eq_of_testLine {x y : TestCase} (h : testLine x = testLine y) : x.name = y.name := by
  have htext := congrArg String.toList (Styled.plain.inj h)
  simpa [String.ext_iff] using htext

theorem testEntry_eq (depth : Nat) (x : TestCase) :
    testEntry depth x = plain (indent depth) :: testLabel :: testLine x :: testDetails depth x :=
  rfl

theorem plain_ne (text : String) : plain text ≠ testLabel :=
  nofun

theorem detail_ne {pad word : String} {text : Option String} :
    ∀ part ∈ detail pad word text, part ≠ testLabel := by
  cases text <;> simp [detail, plain_ne]

theorem testDetails_ne (depth : Nat) (x : TestCase) :
    ∀ part ∈ testDetails depth x, part ≠ testLabel := by
  simp only [testDetails, testEntry, List.cons_append, List.nil_append, List.drop_succ_cons,
    List.drop_zero, List.forall_mem_append, List.forall_mem_singleton]
  refine ⟨?_, plain_ne _⟩
  constructorm* _ ∧ _ <;> exact detail_ne

theorem groupHead_ne (depth : Nat) (g : TestGroup) :
    ∀ part ∈ groupHead depth g, part ≠ testLabel := by
  rw [groupHead, List.forall_mem_append]
  exact ⟨by simp [testLabel], detail_ne⟩

theorem testLines_append {parts : List Styled} (h : ∀ part ∈ parts, part ≠ testLabel)
    (after : List Styled) : testLines (parts ++ after) = testLines after := by
  induction parts with
  | nil => rfl
  | cons part parts ih =>
    obtain ⟨hpart, hparts⟩ := List.forall_mem_cons.mp h
    rw [List.cons_append, testLines, if_neg hpart, ih hparts]

namespace Shows

variable {parts after : List Styled} {cases cases' : List TestCase}

/-- Parts without the label of a test add nothing. -/
theorem others (h : ∀ part ∈ parts, part ≠ testLabel) (hafter : Shows after cases) :
    Shows (parts ++ after) cases := by
  induction parts with
  | nil => exact hafter
  | cons part parts ih =>
    obtain ⟨hpart, hparts⟩ := List.forall_mem_cons.mp h
    exact .other hpart (ih hparts)

theorem append (h : Shows parts cases) (hafter : Shows after cases') :
    Shows (parts ++ after) (cases ++ cases') := by
  induction h with
  | nil => exact hafter
  | other hpart _ ih => exact .other hpart ih
  | test depth x _ ih =>
    rw [List.append_assoc]
    exact .test depth x ih

theorem entries (depth : Nat) (cases : List TestCase) :
    Shows (cases.flatMap (testEntry depth)) cases := by
  induction cases with
  | nil => exact .nil
  | cons x cases ih => exact .test depth x ih

/-- The lines behind the labels are those of the cases: no entry is passed over. -/
theorem lines (h : Shows parts cases) : testLines parts = cases.map testLine := by
  induction h with
  | nil => rfl
  | other hpart _ ih => rw [testLines, if_neg hpart, ih]
  | test depth x _ ih =>
    rw [testEntry_eq, List.cons_append, testLines, if_neg (plain_ne _), List.cons_append, testLines,
      if_pos rfl, List.cons_append, testLines, if_neg (show testLine x ≠ testLabel from nofun),
      testLines_append (testDetails_ne depth x), ih]
    rfl

/-- What is shown tells which cases there are, and in which order. -/
theorem names_unique (h : Shows parts cases) (h' : Shows parts cases') :
    cases.map (·.name) = cases'.map (·.name) := by
  have hlines := h.lines.symm.trans h'.lines
  rw [← List.forall₂_eq_eq_eq, List.forall₂_map_left_iff, List.forall₂_map_right_iff] at hlines
  exact map_eq_of_forall₂ (hlines.imp fun _ _ => name_eq_of_testLine)

end Shows
end Report

namespace Corpus

open Report
open scoped List

variable {c : Corpus}

/-- The trees of groups, printed one after the other where nothing bounds the nesting and every
position has to exist, with the tests in them: a group shows its tests and then the trees of the
groups that it includes, one step further in. -/
inductive Prints (c : Corpus) : Nat → List Nat → List Styled → List TestCase → Prop
  | nil {depth : Nat} : Prints c depth [] [] []
  | cons {depth i : Nat} {g : TestGroup} {others : List Nat} {own inner after : List TestCase}
      {below beside : List Styled} :
      c.groups[i]? = some g → List.Forall₂ (fun t x => c.tests[t]? = some x) g.tests own →
      Prints c (depth + 1) g.includes below inner → Prints c depth others beside after →
      Prints c depth (i :: others)
        (groupHead depth g ++ (own.flatMap (testEntry (depth + 1)) ++
          (below ++ .plain "\n" :: beside)))
        (own ++ (inner ++ after))

theorem Expands.unique {roots : List Nat} {cases cases' : List TestCase}
    (h : c.Expands roots cases) (h' : c.Expands roots cases') : cases = cases' := by
  induction h generalizing cases' with
  | nil =>
    cases h'
    rfl
  | cons hg hown _ _ ihInner ihAfter =>
    cases h' with
    | cons hg' hown' hinner hafter =>
      obtain rfl := Option.some.inj (hg.symm.trans hg')
      have hone : Relator.RightUnique fun (t : Nat) (x : TestCase) => c.tests[t]? = some x :=
        fun _ _ _ hx hy => Option.some.inj (hx.symm.trans hy)
      rw [List.right_unique_forall₂' hone hown hown', ihInner hinner, ihAfter hafter]

namespace Prints

variable {depth : Nat} {roots roots' : List Nat} {parts parts' : List Styled}
  {cases cases' : List TestCase}

theorem append (h : c.Prints depth roots parts cases) (h' : c.Prints depth roots' parts' cases') :
    c.Prints depth (roots ++ roots') (parts ++ parts') (cases ++ cases') := by
  induction h with
  | nil => exact h'
  | cons hg hown hinner _ _ ih =>
    have h := Prints.cons hg hown hinner (ih h')
    simpa using h

/-- The tests in a tree are those that going through the groups gives. -/
theorem expands (h : c.Prints depth roots parts cases) : c.Expands roots cases := by
  induction h with
  | nil => exact .nil
  | cons hg hown _ _ ihInner ihAfter => exact .cons hg hown ihInner ihAfter

/-- The tests in a tree are those that it shows. -/
theorem shows (h : c.Prints depth roots parts cases) : Shows parts cases := by
  induction h with
  | nil => exact .nil
  | @cons depth i g others own inner after below beside hg hown _ _ ihInner ihAfter =>
    refine .others (groupHead_ne depth g) ((Shows.entries (depth + 1) own).append ?_)
    exact ihInner.append (.other (plain_ne _) ihAfter)

end Prints

namespace Checked

/-- Known names are split into tests and groups that stand for the same cases. -/
theorem splitNames (hc : c.Checked) {names : List String} (h : ∀ n ∈ names, n ∈ c.names) :
    ∃ tests groups cases, Selection.splitNames c names = .ok (tests, groups) ∧
      Selection.resolveNames c names = .ok cases ∧ (∀ i ∈ groups, i < c.groups.length) ∧
      (c.testsAt tests ++ groups.flatMap c.expand).Perm cases := by
  induction names with
  | nil => exact ⟨[], [], [], rfl, rfl, nofun, .nil⟩
  | cons n names ih =>
    obtain ⟨hn, hnames⟩ := List.forall_mem_cons.mp h
    obtain ⟨tests, groups, cases, hsplit, hresolve, hgroups, hperm⟩ := ih hnames
    rw [Selection.splitNames, Selection.resolveNames, hsplit, hresolve]
    cases hl : c.lookup n with
    | none => exact absurd hn (lookup_eq_none.mp hl)
    | some entry =>
      cases entry with
      | test i =>
        refine ⟨i :: tests, groups, _, rfl, rfl, hgroups, ?_⟩
        rw [← List.singleton_append, testsAt_append, List.append_assoc]
        exact hperm.append_left _
      | group i =>
        obtain ⟨g, hg, -⟩ := (lookup_eq_group hc.distinct).mp hl
        have hi : i < c.groups.length := (List.getElem?_eq_some_iff.mp hg).1
        refine ⟨tests, i :: groups, _, rfl, rfl, List.forall_mem_cons.mpr ⟨hi, hgroups⟩, ?_⟩
        calc c.testsAt tests ++ (i :: groups).flatMap c.expand
            = (c.testsAt tests ++ c.expand i) ++ groups.flatMap c.expand := by simp
          _ ~ (c.expand i ++ c.testsAt tests) ++ groups.flatMap c.expand :=
            List.perm_append_comm.append_right _
          _ = c.expand i ++ (c.testsAt tests ++ groups.flatMap c.expand) := List.append_assoc ..
          _ ~ c.expand i ++ cases := hperm.append_left _

end Checked
end Corpus

namespace Session

variable {c : Config} {files : FileTree} {corpus : Corpus}

end Session

namespace Manifest.Source

open Report

end Manifest.Source
end Conformance
