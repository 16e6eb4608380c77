import Conformance.Pipeline
import Conformance.Proofs.Artifact.Claim
import Mathlib.Data.Finset.Card

/-!
# The search for a free path

For the artifact of a test a path is looked for that is not claimed: first the plain one, and then
the numbered ones for as long as what is looked up is claimed. This search has no bound of its own
(`Search.tick`). It meets no path twice (`Search.Passes.nodup`), so it cannot pass more paths than
are claimed (`Search.Passes.length_le`), and it ends with the path that `claim` gives out, which is
then claimed besides the others (`search_ends`).
-/
namespace Conformance.Artifact

open Pipeline (keepArtifact)

/-- Where a search stands: the path that is looked up, and the number of the next one. -/
structure Search where
  path : Path
  number : Nat
deriving DecidableEq, Repr

/-- What is claimed, with all spellings of a path as one. -/
def held (claimed : List Path) : Finset (List Path.Component) :=
  (claimed.map Path.components).toFinset

theorem components_mem_held {p : Path} {claimed : List Path} :
    p.components ∈ held claimed ↔ p.mem claimed = true := by
  rw [held, List.mem_toFinset, mem_iff]

theorem held_cons (p : Path) (claimed : List Path) :
    held (p :: claimed) = insert p.components (held claimed) :=
  List.toFinset_cons

/-- No number makes the plain path. -/
theorem plain_ne_numbered (folder : Path) (testName : String) (n : Nat) :
    (plainPath folder testName).components ≠
      (numbered (plainPath folder testName) n).components := by
  obtain ⟨place, -, -, hplace⟩ := plainPath_eq folder testName
  rw [hplace, numbered_below]
  intro h
  have hplain := place.names_plain (by decide) ext_no_slash
  have hnumbered := place.names_plain (numberedExt_ne_nil n) (numberedExt_no_slash n)
  have hext := place.names_inj ((Path.same_below folder hplain hnumbered).mp (beq_iff_eq.mpr h))
  have hlength := congrArg List.length hext
  simp only [numberedExt, List.length_append, List.length_cons] at hlength
  omega

namespace Search

/-- One round of a search: a path that is claimed gives way to the one with the next number. -/
def tick (claimed : List Path) (plain : Path) (s : Search) : Option Search :=
  if s.path.mem claimed then some ⟨numbered plain s.number, s.number + 1⟩ else none

/-- The rounds that lead from one state to another, with the paths that were looked up in them. -/
inductive Passes (claimed : List Path) (plain : Path) : List Path → Search → Search → Prop
  | done (s : Search) : Passes claimed plain [] s s
  | round {s s' s'' : Search} {passed : List Path} :
      s.tick claimed plain = some s' → Passes claimed plain passed s' s'' →
      Passes claimed plain (s.path :: passed) s s''

variable {claimed passed : List Path} {plain : Path} {s s' : Search} {n : Nat}

theorem tick_eq_some_iff : s.tick claimed plain = some s' ↔
    s.path.mem claimed = true ∧ s' = ⟨numbered plain s.number, s.number + 1⟩ := by
  rw [tick]
  split
  · rename_i h
    simp [h, eq_comm]
  · rename_i h
    simp [h]

theorem tick_eq_none_iff : s.tick claimed plain = none ↔ s.path.mem claimed = false := by
  simp [tick]

/-- Only claimed paths are passed. -/
theorem Passes.mem_claimed (h : Passes claimed plain passed s s') :
    ∀ p ∈ passed, p.mem claimed = true := by
  induction h with
  | done => exact fun p hp => absurd hp List.not_mem_nil
  | round ht _ ih => exact List.forall_mem_cons.mpr ⟨(tick_eq_some_iff.mp ht).1, ih⟩

/-- From a numbered path on, the numbered ones are passed in order. -/
theorem Passes.from_numbered (h : Passes claimed plain passed ⟨numbered plain n, n + 1⟩ s) :
    passed = (List.range' n passed.length).map (numbered plain) := by
  -- A round leads from a state of this form to the next one of this form.
  generalize hs : (⟨numbered plain n, n + 1⟩ : Search) = start at h
  induction h generalizing n with
  | done => rfl
  | round ht _ ih =>
    subst hs
    obtain ⟨-, rfl⟩ := tick_eq_some_iff.mp ht
    rw [List.length_cons, List.range'_succ, List.map_cons, ← ih rfl]

/-- From the plain path on, it is passed first, and then the numbered ones in order. -/
theorem Passes.from_plain (h : Passes claimed plain passed ⟨plain, n⟩ s) :
    passed = [] ∨ ∃ k, passed = plain :: (List.range' n k).map (numbered plain) := by
  cases h with
  | done => exact .inl rfl
  | round ht h =>
    obtain ⟨-, rfl⟩ := tick_eq_some_iff.mp ht
    exact .inr ⟨_, congrArg (plain :: ·) h.from_numbered⟩

section
variable {folder : Path} {testName : String}

/-- No path is passed twice. -/
theorem Passes.nodup
    (h : Passes claimed (plainPath folder testName) passed ⟨plainPath folder testName, n⟩ s) :
    (passed.map Path.components).Nodup := by
  rcases h.from_plain with rfl | ⟨k, rfl⟩
  · exact List.nodup_nil
  · rw [List.map_cons, List.map_map, List.nodup_cons]
    refine ⟨fun hm => ?_, numbered_nodup folder testName n k⟩
    obtain ⟨i, -, hi⟩ := List.mem_map.mp hm
    exact plain_ne_numbered folder testName i hi.symm

/-- No more paths are passed than are claimed, however far the search has come. -/
theorem Passes.length_le
    (h : Passes claimed (plainPath folder testName) passed ⟨plainPath folder testName, n⟩ s) :
    passed.length ≤ (held claimed).card := by
  have hsub : (passed.map Path.components).toFinset ⊆ held claimed := by
    intro c hc
    obtain ⟨p, hp, rfl⟩ := List.mem_map.mp (List.mem_toFinset.mp hc)
    exact components_mem_held.mpr (h.mem_claimed p hp)
  calc
    passed.length = (passed.map Path.components).toFinset.card := by
      rw [List.toFinset_card_of_nodup h.nodup, List.length_map]
    _ ≤ (held claimed).card := Finset.card_le_card hsub

end

/-- The path that is chosen among the numbered ones is met by the search. -/
theorem passes_firstFree (claimed : List Path) (plain : Path) (n left : Nat) :
    ∃ passed number, Passes claimed plain passed ⟨numbered plain n, n + 1⟩
      ⟨firstFree claimed plain n left, number⟩ := by
  induction left generalizing n with
  | zero => exact ⟨[], n + 1, .done _⟩
  | succ left ih =>
    rw [firstFree]
    split
    · rename_i hn
      obtain ⟨passed, number, h⟩ := ih (n + 1)
      exact ⟨_, number, .round (tick_eq_some_iff.mpr ⟨hn, rfl⟩) h⟩
    · exact ⟨[], n + 1, .done _⟩

/-- The path that is claimed for a test is met by the search. -/
theorem passes_claim (claimed : List Path) (folder : Path) (testName : String) (ordinal : Nat) :
    ∃ passed number,
      Passes claimed (plainPath folder testName) passed ⟨plainPath folder testName, ordinal⟩
        ⟨claim claimed folder testName ordinal, number⟩ := by
  unfold claim
  dsimp only
  split
  · rename_i hplain
    obtain ⟨passed, number, h⟩ :=
      passes_firstFree claimed (plainPath folder testName) ordinal claimed.length
    exact ⟨_, number, .round (tick_eq_some_iff.mpr ⟨hplain, rfl⟩) h⟩
  · exact ⟨[], ordinal, .done _⟩

end Search

/-- Different numbers make different paths. So, whatever is claimed already, the search that starts
with the plain path of a test ends after it has tried at most one path more than are claimed. It
ends with the path that is claimed for the test, which was not claimed before; afterwards this path
is claimed besides the others, and nothing else is. -/
theorem search_ends (settings : Settings) (testName : String) (ordinal : Nat) (code : Bytes)
    (st : RunState) :
    let plain := plainPath settings.artifactFolder testName
    let path := claim st.claimed settings.artifactFolder testName ordinal
    let st' := (keepArtifact settings testName ordinal code st).2
    (Function.Injective fun n => (numbered plain n).components) ∧
    (∃ passed number,
      Search.Passes st.claimed plain passed ⟨plain, ordinal⟩ ⟨path, number⟩ ∧
      Search.tick st.claimed plain ⟨path, number⟩ = none ∧
      (passed ++ [path]).length ≤ (held st.claimed).card + 1) ∧
    path.components ∉ held st.claimed ∧
    held st'.claimed = insert path.components (held st.claimed) := by
  intro plain path st'
  have hfresh : path.mem st.claimed = false := claim_fresh _ _ _ _
  refine ⟨fun m n => numbered_inj settings.artifactFolder testName, ?_, ?_, ?_⟩
  · obtain ⟨passed, number, h⟩ :=
      Search.passes_claim st.claimed settings.artifactFolder testName ordinal
    refine ⟨passed, number, h, Search.tick_eq_none_iff.mpr hfresh, ?_⟩
    rw [List.length_append, List.length_singleton]
    exact Nat.succ_le_succ h.length_le
  · rw [components_mem_held, hfresh]
    exact Bool.false_ne_true
  · exact held_cons path st.claimed

/-- Two paths are claimed, one of them spelled otherwise, and the third one that is tried is free. -/
example : claim [⟨"o/a.7.icode"⟩, ⟨"o//a.icode"⟩] ⟨"o"⟩ "a" 7 = ⟨"o/a.8.icode"⟩ := by
  decide

end Conformance.Artifact
