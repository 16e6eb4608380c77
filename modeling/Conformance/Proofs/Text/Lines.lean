import Conformance.Text.Lines

/-!
# Lines of a text

A whole line ends with its line feed, and has no other one. A text that starts with whole lines is
cut into these, and then its rest is cut; every line but the last of a text is whole.

Cutting at a separator and putting separators between the parts undo each other.
-/
namespace Conformance.Text

/-! ## Whole lines -/

def WholeLine (line : List Char) : Prop :=
  ∃ front, '\n' ∉ front ∧ line = front ++ ['\n']

theorem wholeLine_cons {c : Char} {line : List Char} (hc : c ≠ '\n') (h : WholeLine line) :
    WholeLine (c :: line) := by
  obtain ⟨front, hfront, rfl⟩ := h
  exact ⟨c :: front, by simp [hfront, Ne.symm hc], rfl⟩

theorem linesKeepingEnds_append {line : List Char} (h : WholeLine line) (s : List Char) :
    linesKeepingEnds (line ++ s) = line :: linesKeepingEnds s := by
  obtain ⟨front, hfront, rfl⟩ := h
  induction front with
  | nil => simp [linesKeepingEnds]
  | cons c front ih =>
    obtain ⟨hc, hfront⟩ := not_or.mp (mt List.mem_cons.mpr hfront)
    rw [List.cons_append, List.cons_append, linesKeepingEnds, if_neg (Ne.symm hc), ih hfront]

theorem linesKeepingEnds_flatten_append {lines : List (List Char)} (h : ∀ l ∈ lines, WholeLine l)
    (s : List Char) : linesKeepingEnds (lines.flatten ++ s) = lines ++ linesKeepingEnds s := by
  induction lines with
  | nil => rfl
  | cons line lines ih =>
    obtain ⟨hline, hlines⟩ := List.forall_mem_cons.mp h
    rw [List.flatten_cons, List.append_assoc, linesKeepingEnds_append hline, ih hlines,
      List.cons_append]

/-- A line that another one follows is whole. -/
theorem wholeLine_of_mem {s : List Char} {before after : List (List Char)}
    (h : linesKeepingEnds s = before ++ after) (hafter : after ≠ []) :
    ∀ l ∈ before, WholeLine l := by
  induction s generalizing before with
  | nil =>
    obtain rfl := (List.append_eq_nil_iff.mp h.symm).1
    nofun
  | cons c s ih =>
    rw [linesKeepingEnds] at h
    cases before with
    | nil => nofun
    | cons line before =>
      by_cases hc : c = '\n'
      · rw [if_pos hc] at h
        obtain ⟨rfl, hs⟩ := List.cons.inj h
        exact List.forall_mem_cons.mpr ⟨⟨[], nofun, rfl⟩, ih hs⟩
      · rw [if_neg hc] at h
        cases hs : linesKeepingEnds s with
        | nil =>
          rw [hs] at h
          obtain ⟨-, hnil⟩ := List.cons.inj h
          exact absurd (List.append_eq_nil_iff.mp hnil.symm).2 hafter
        | cons l ls =>
          rw [hs] at h
          obtain ⟨rfl, rfl⟩ := List.cons.inj h
          have hwhole : ∀ l' ∈ l :: before, WholeLine l' := ih hs
          obtain ⟨hl, hbefore⟩ := List.forall_mem_cons.mp hwhole
          exact List.forall_mem_cons.mpr ⟨wholeLine_cons hc hl, hbefore⟩

/-- A line has no line feed but at its end. -/
theorem exists_front_of_mem {s line : List Char} (h : line ∈ linesKeepingEnds s) :
    ∃ front, '\n' ∉ front ∧ (line = front ++ ['\n'] ∨ line = front) := by
  induction s generalizing line with
  | nil => cases h
  | cons c s ih =>
    rw [linesKeepingEnds] at h
    by_cases hc : c = '\n'
    · rw [if_pos hc] at h
      rcases List.mem_cons.mp h with rfl | h
      · exact ⟨[], nofun, .inl rfl⟩
      · exact ih h
    · rw [if_neg hc] at h
      cases hs : linesKeepingEnds s with
      | nil =>
        rw [hs] at h
        obtain rfl := List.mem_singleton.mp h
        exact ⟨[c], by simpa using Ne.symm hc, .inr rfl⟩
      | cons l ls =>
        rw [hs] at h
        rcases List.mem_cons.mp h with rfl | h
        · obtain ⟨front, hfront, hl⟩ := ih (hs ▸ List.mem_cons_self)
          refine ⟨c :: front, ?_, hl.imp (congrArg (c :: ·)) (congrArg (c :: ·))⟩
          exact List.not_mem_cons_of_ne_of_not_mem (Ne.symm hc) hfront
        · exact ih (hs ▸ List.mem_cons_of_mem l h)

/-! ## Parts between separators -/

/-- No part of a text that is cut has a separator. -/
theorem forall_mem_splitOn {p : Char → Bool} {s part : List Char} (h : part ∈ splitOn p s) :
    ∀ c ∈ part, p c = false := by
  induction s generalizing part with
  | nil =>
    obtain rfl := List.mem_singleton.mp h
    exact nofun
  | cons c s ih =>
    rw [splitOn] at h
    split at h
    · rcases List.mem_cons.mp h with rfl | h
      · exact nofun
      · exact ih h
    · rename_i hc
      split at h
      · obtain rfl := List.mem_singleton.mp h
        simpa using hc
      · rename_i first others hs
        rcases List.mem_cons.mp h with rfl | h
        · intro d hd
          rcases List.mem_cons.mp hd with rfl | hd
          · simpa using hc
          · exact ih (by rw [hs]; exact List.mem_cons_self) d hd
        · exact ih (by rw [hs]; exact List.mem_cons_of_mem _ h)

/-- Parts of which each one is ended by a separator. -/
theorem splitOn_ended {p : Char → Bool} {c : Char} (hc : p c = true) {parts : List (List Char)}
    (h : ∀ part ∈ parts, ∀ d ∈ part, p d = false) :
    splitOn p (parts.flatMap (· ++ [c])) = parts ++ [[]] := by
  induction parts with
  | nil => rfl
  | cons part parts ih =>
    obtain ⟨hpart, hparts⟩ := List.forall_mem_cons.mp h
    rw [List.flatMap_cons, List.append_assoc, List.singleton_append, splitOn_append_cons hc,
      splitOn_of_none hpart, ih hparts]
    rfl

theorem joinWith_cons (separator part : List Char) {parts : List (List Char)} (h : parts ≠ []) :
    joinWith separator (part :: parts) = part ++ separator ++ joinWith separator parts := by
  cases parts with
  | nil => exact absurd rfl h
  | cons next parts => rfl

theorem joinWith_cons_cons (separator : List Char) (c : Char) (part : List Char)
    (parts : List (List Char)) :
    joinWith separator ((c :: part) :: parts) = c :: joinWith separator (part :: parts) := by
  cases parts <;> rfl

/-- A text that is cut is put together again. -/
theorem joinWith_splitOn (c : Char) (s : List Char) :
    joinWith [c] (splitOn (· == c) s) = s := by
  induction s with
  | nil => rfl
  | cons d s ih =>
    rw [splitOn]
    split
    · rename_i hd
      rw [joinWith_cons _ _ (splitOn_ne_nil _ _), ih, beq_iff_eq.mp hd]
      rfl
    · split
      · rename_i hnil
        exact absurd hnil (splitOn_ne_nil _ _)
      · rename_i first others hs
        rw [joinWith_cons_cons, ← hs, ih]

end Conformance.Text
