import Conformance.Proofs.Artifact.Claim

/-!
# Portable names

A part of a test's name may hold any characters, and becomes a name of ASCII letters, digits and a
few signs, of bounded length in bytes, that does not start with a dot (`sanitize_portable`,
`sanitize_byteLength`). `sanitize` leaves such names as they are, so it has nothing to do the second
time (`sanitize_sanitize`).

An artifact path is the artifact folder with such names behind it, whether it is the plain one, one
with a number, or one that is claimed (`paths_portable`).
-/
namespace Conformance.Artifact

open Conformance.Path (Plain)

/-- A name of ASCII letters, digits, dashes, underscores and dots, the first of them not a dot. -/
structure Portable (name : List Char) : Prop where
  nonempty : name ≠ []
  ascii : ∀ c ∈ name, c.isAlphanum = true ∨ c = '-' ∨ c = '_' ∨ c = '.'
  no_dot : name.head? ≠ some '.'

theorem isSafe_iff {c : Char} :
    isSafe c = true ↔ c.isAlphanum = true ∨ c = '-' ∨ c = '_' ∨ c = '.' := by
  simp [isSafe, or_assoc]

theorem utf8Size_of_isSafe {c : Char} (h : isSafe c = true) : c.utf8Size = 1 := by
  have ascii : c.val ≤ 0x7f := by
    rcases isSafe_iff.mp h with h | rfl | rfl | rfl
    · delta Char.isAlphanum Char.isAlpha Char.isUpper Char.isLower Char.isDigit at h
      simp only [Bool.or_eq_true, Bool.and_eq_true, decide_eq_true_eq] at h
      grind
    all_goals decide
  simp [Char.utf8Size, ascii]

namespace Portable

variable {name : List Char}

theorem safe (h : Portable name) : ∀ c ∈ name, isSafe c = true :=
  fun c hc => isSafe_iff.mpr (h.ascii c hc)

theorem byteLength_eq (h : ∀ c ∈ name, isSafe c = true) : Text.byteLength name = name.length := by
  induction name with
  | nil => rfl
  | cons c cs ih =>
    rw [Text.byteLength, utf8Size_of_isSafe (h c List.mem_cons_self),
      ih fun d hd => h d (List.mem_cons_of_mem c hd), List.length_cons, Nat.add_comm]

/-- Nothing is replaced in a portable name, and nothing is cut off one that is short enough. -/
theorem sanitize_eq (h : Portable name) (short : name.length ≤ maxPart) : sanitize name = name := by
  have kept : (name.map fun c => if isSafe c then c else '_') = name :=
    (List.map_congr_left fun c hc => if_pos (h.safe c hc)).trans (List.map_id' name)
  obtain ⟨c, cs, rfl⟩ := List.exists_cons_of_ne_nil h.nonempty
  have first : (c == '.') = false := by simpa using h.no_dot
  rw [sanitize, kept, List.dropWhile_cons_of_neg (by simp [first])]
  exact List.take_of_length_le short

/-- No part of a path that has a meaning of its own. -/
theorem plain (h : Portable name) : Plain name := by
  obtain ⟨c, cs, rfl⟩ := List.exists_cons_of_ne_nil h.nonempty
  have first : c ≠ '.' := fun hc => h.no_dot (by rw [hc]; rfl)
  exact plain_of_head first fun d hd => safe_not_slash (h.safe d hd)

theorem with_extension (h : Portable name) {ext : List Char} (he : ∀ c ∈ ext, isSafe c = true) :
    Portable (name ++ '.' :: ext) where
  nonempty := by simp
  ascii c hc := by
    rcases List.mem_append.mp hc with hc | hc
    · exact h.ascii c hc
    · rcases List.mem_cons.mp hc with rfl | hc
      · exact .inr (.inr (.inr rfl))
      · exact isSafe_iff.mp (he c hc)
  no_dot := by
    obtain ⟨c, cs, rfl⟩ := List.exists_cons_of_ne_nil h.nonempty
    exact h.no_dot

end Portable

/-! ## Parts of a test's name -/

theorem sanitize_portable (part : List Char) : Portable (sanitize part) := by
  unfold sanitize
  split
  · exact ⟨by simp, by simp, by simp⟩
  · rename_i hne
    let cleaned := part.map fun c => if isSafe c then c else '_'
    have safe : ∀ c ∈ cleaned.dropWhile (· == '.'), isSafe c = true := by
      intro c hc
      obtain ⟨d, -, rfl⟩ := List.mem_map.mp (List.dropWhile_subset _ hc)
      by_cases hd : isSafe d = true
      · rwa [if_pos hd]
      · rw [if_neg hd]
        decide
    exact {
      nonempty := by simpa [maxPart] using hne
      ascii c hc := isSafe_iff.mp (safe c (List.mem_of_mem_take hc))
      no_dot := by
        have first := List.head_dropWhile_not (· == '.') hne
        rw [List.head?_take, if_neg (by decide), List.head?_eq_some_head hne]
        simpa using first }

theorem sanitize_length (part : List Char) : (sanitize part).length ≤ maxPart := by
  unfold sanitize
  split
  · decide
  · exact List.length_take_le _ _

theorem sanitize_byteLength (part : List Char) : Text.byteLength (sanitize part) ≤ maxPart := by
  rw [Portable.byteLength_eq (sanitize_portable part).safe]
  exact sanitize_length part

theorem sanitize_sanitize (part : List Char) : sanitize (sanitize part) = sanitize part :=
  (sanitize_portable part).sanitize_eq (sanitize_length part)

/-! ## Artifact paths -/

/-- A path is a folder's with portable names behind it, which lead nowhere but down. -/
structure Inside (folder : Path) (names : List (List Char)) (p : Path) : Prop where
  path : p = folder.below names
  nonempty : names ≠ []
  portable : ∀ name ∈ names, Portable name
  plain : ∀ name ∈ names, Plain name
  components : p.components = folder.components ++ names.map .name
  steps : FileTree.steps p = FileTree.steps folder ++ names

theorem inside_below (folder : Path) {above : List (List Char)} {stem ext : List Char}
    (h : ∀ name ∈ above ++ [stem], Portable name) (he : ∀ c ∈ ext, isSafe c = true) :
    Inside folder (above ++ [stem ++ '.' :: ext])
      (folder.below (above ++ [stem ++ '.' :: ext])) := by
  have portable : ∀ name ∈ above ++ [stem ++ '.' :: ext], Portable name := by
    intro name hn
    rcases List.mem_append.mp hn with hn | hn
    · exact h name (List.mem_append_left _ hn)
    · obtain rfl := List.mem_singleton.mp hn
      exact (h stem (by simp)).with_extension he
  have plain := fun name hn => (portable name hn).plain
  exact {
    path := rfl
    nonempty := by simp
    portable
    plain
    components := Path.components_below folder plain
    steps := Path.steps_below folder plain }

theorem ext_safe : ∀ c ∈ ext, isSafe c = true := by
  have h : ext.all isSafe = true := by decide
  exact List.all_eq_true.mp h

theorem numberedExt_safe (n : Nat) : ∀ c ∈ numberedExt n, isSafe c = true := by
  intro c hc
  rcases List.mem_append.mp hc with hc | hc
  · have digit := Nat.isDigit_of_mem_toDigits (by decide) (by decide) hc
    simp [isSafe, Char.isAlphanum, digit]
  · rcases List.mem_cons.mp hc with rfl | hc
    · decide
    · exact ext_safe c hc

/-- A part of a name that was made safe is safe. Whatever a test is called, its plain path, each
numbered one and the one that is claimed lead below the artifact folder by portable names. These
have at most `maxPart` bytes, and the last of them an extension besides. -/
theorem paths_portable : (∀ part, sanitize (sanitize part) = sanitize part) ∧
    ∀ (folder : Path) (testName : String), ∃ above stem,
      (∀ name ∈ above ++ [stem], Portable name ∧ Text.byteLength name ≤ maxPart) ∧
      Inside folder (above ++ [stem ++ '.' :: ext]) (plainPath folder testName) ∧
      (∀ n, Inside folder (above ++ [stem ++ '.' :: numberedExt n])
        (numbered (plainPath folder testName) n)) ∧
      ∀ claimed ordinal, claim claimed folder testName ordinal = plainPath folder testName ∨
        ∃ n ≥ ordinal,
          claim claimed folder testName ordinal = numbered (plainPath folder testName) n := by
  refine ⟨sanitize_sanitize, fun folder testName => ?_⟩
  obtain ⟨place, habove, ⟨part, hstem⟩, hplace⟩ := plainPath_eq folder testName
  have sanitized : ∀ name ∈ place.above ++ [place.stem], ∃ part, name = sanitize part := by
    intro name hn
    rcases List.mem_append.mp hn with hn | hn
    · rw [habove] at hn
      obtain ⟨part, -, he⟩ := List.mem_map.mp (List.dropLast_subset _ hn)
      exact ⟨part, he.symm⟩
    · exact ⟨part, (List.mem_singleton.mp hn).trans hstem⟩
  have portable : ∀ name ∈ place.above ++ [place.stem], Portable name := by
    intro name hn
    obtain ⟨part, rfl⟩ := sanitized name hn
    exact sanitize_portable part
  refine ⟨place.above, place.stem, fun name hn => ⟨portable name hn, ?_⟩, ?_, fun n => ?_, ?_⟩
  · obtain ⟨part, rfl⟩ := sanitized name hn
    exact sanitize_byteLength part
  · rw [hplace]
    exact inside_below folder portable ext_safe
  · rw [hplace, numbered_below]
    exact inside_below folder portable (numberedExt_safe n)
  · intro claimed ordinal
    unfold claim
    dsimp only
    split
    · obtain ⟨k, hk, he⟩ := firstFree_eq claimed (plainPath folder testName) ordinal claimed.length
      exact .inr ⟨k, hk, he⟩
    · exact .inl rfl

end Conformance.Artifact
