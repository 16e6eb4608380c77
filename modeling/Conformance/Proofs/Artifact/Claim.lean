import Conformance.Artifact
import Conformance.Proofs.Path.Below

/-!
# Claiming artifact paths

The path of an artifact is made of plain names below the artifact folder, whatever a test is called
(`plainPath_eq`), and so is each of its numbered forms (`numbered_below`). Those differ from each
other, so among one more of them than there are claims one is free, and `claim` never gives out what
is claimed (`claim_fresh`).
-/
namespace Conformance.Artifact

open Conformance.Path (Plain isSlash)

theorem safe_not_slash {c : Char} (h : isSafe c = true) : isSlash c = false := by
  refine Bool.of_not_eq_true fun hs => ?_
  obtain rfl : c = '/' := beq_iff_eq.mp hs
  exact absurd h (by decide)

/-- A name is plain if it does not start with a dot. -/
theorem plain_of_head {c : Char} {cs : List Char} (hc : c ≠ '.')
    (h : ∀ d ∈ c :: cs, isSlash d = false) : Plain (c :: cs) where
  nonempty := List.cons_ne_nil c cs
  no_slash := h
  not_here he := hc (List.cons.inj he).1
  not_parent he := hc (List.cons.inj he).1

/-- What stands for a name of which nothing else is left. -/
theorem plain_underscore : Plain ['_'] :=
  plain_of_head (by decide) (by simp [isSlash])

/-- A part of a test name becomes a plain name. -/
theorem sanitize_plain (part : List Char) : Plain (sanitize part) := by
  unfold sanitize
  split
  · exact plain_underscore
  · rename_i hne
    have hmem : ∀ c ∈ (part.map fun c => if isSafe c then c else '_').dropWhile (· == '.'),
        isSlash c = false := by
      intro c hc
      obtain ⟨d, -, rfl⟩ := List.mem_map.mp (List.dropWhile_subset _ hc)
      by_cases hd : isSafe d = true
      · rw [if_pos hd]
        exact safe_not_slash hd
      · rw [if_neg hd]
        decide
    obtain ⟨c, cs, hname⟩ := List.exists_cons_of_ne_nil hne
    have hc : c ≠ '.' := by
      have hhead := List.head_dropWhile_not (· == '.') hne
      simpa [hname] using hhead
    rw [hname] at hmem ⊢
    refine plain_of_head hc fun d hd => hmem d ?_
    exact (List.cons_subset_cons c (List.take_subset (maxPart - 1) cs)) hd

/-- A name with an extension is plain. -/
theorem plain_extension {stem ext : List Char} (hs : stem ≠ []) (he : ext ≠ [])
    (hstem : ∀ c ∈ stem, isSlash c = false) (hext : ∀ c ∈ ext, isSlash c = false) :
    Plain (stem ++ '.' :: ext) where
  nonempty := by simp
  no_slash c hc := by
    rcases List.mem_append.mp hc with h | h
    · exact hstem c h
    · rcases List.mem_cons.mp h with rfl | h
      · decide
      · exact hext c h
  not_here h := by
    have hl := congrArg List.length h
    have := List.length_pos_iff.mpr hs
    have := List.length_pos_iff.mpr he
    simp only [List.length_append, List.length_cons, List.length_nil] at hl
    omega
  not_parent h := by
    have hl := congrArg List.length h
    have := List.length_pos_iff.mpr hs
    have := List.length_pos_iff.mpr he
    simp only [List.length_append, List.length_cons, List.length_nil] at hl
    omega

/-- The folders of an artifact and its name without the extension. -/
structure Place where
  above : List (List Char)
  stem : List Char
  above_plain : ∀ name ∈ above, Plain name
  stem_plain : Plain stem

namespace Place

/-- The names that lead to an artifact with this extension. -/
def names (place : Place) (ext : List Char) : List (List Char) :=
  place.above ++ [place.stem ++ '.' :: ext]

theorem names_plain (place : Place) {ext : List Char} (he : ext ≠ [])
    (h : ∀ c ∈ ext, isSlash c = false) : ∀ name ∈ place.names ext, Plain name := by
  intro name hn
  rcases List.mem_append.mp hn with hn | hn
  · exact place.above_plain name hn
  · obtain rfl := List.mem_singleton.mp hn
    exact plain_extension place.stem_plain.nonempty he place.stem_plain.no_slash h

theorem names_inj (place : Place) {ext ext' : List Char} (h : place.names ext = place.names ext') :
    ext = ext' := by
  simpa [names] using h

end Place

/-- The extension of an artifact with a number. -/
def numberedExt (n : Nat) : List Char :=
  Nat.toDigits 10 n ++ '.' :: ext

theorem ext_no_slash : ∀ c ∈ ext, isSlash c = false := by
  have h : ext.any isSlash = false := by decide
  exact fun c hc => Bool.eq_false_iff.mpr (List.any_eq_false.mp h c hc)

theorem numberedExt_no_slash (n : Nat) : ∀ c ∈ numberedExt n, isSlash c = false := by
  intro c hc
  rcases List.mem_append.mp hc with h | h
  · have hd := Nat.isDigit_of_mem_toDigits (by decide) (by decide) h
    refine Bool.of_not_eq_true fun hs => ?_
    obtain rfl : c = '/' := beq_iff_eq.mp hs
    exact absurd hd (by decide)
  · rcases List.mem_cons.mp h with rfl | h
    · decide
    · exact ext_no_slash c h

theorem numberedExt_ne_nil (n : Nat) : numberedExt n ≠ [] := by
  simp [numberedExt]

theorem numberedExt_inj {m n : Nat} (h : numberedExt m = numberedExt n) : m = n := by
  have hd : Nat.toDigits 10 m = Nat.toDigits 10 n := List.append_cancel_right h
  rw [← Nat.ofDigitChars_ten_toDigits (n := m), hd, Nat.ofDigitChars_ten_toDigits]

/-- The folders that the name of a test asks for. -/
def foldersOf (testName : String) : List (List Char) :=
  ((parts testName.toList).map sanitize).dropLast

/-- The place of a test's artifact. -/
theorem plainPath_eq (folder : Path) (testName : String) :
    ∃ place : Place, place.above = foldersOf testName ∧ (∃ part, place.stem = sanitize part) ∧
      plainPath folder testName = folder.below (place.names ext) := by
  unfold plainPath
  have hplain : ∀ name ∈ ((parts testName.toList).map sanitize).reverse, Plain name := by
    intro name hn
    obtain ⟨part, -, rfl⟩ := List.mem_map.mp (List.mem_reverse.mp hn)
    exact sanitize_plain part
  split
  · rename_i h
    have hfolders : foldersOf testName = [] := by rw [foldersOf, List.reverse_eq_nil_iff.mp h]; rfl
    exact ⟨⟨[], ['_'], by simp, plain_underscore⟩, hfolders.symm, ⟨[], rfl⟩, rfl⟩
  · rename_i file above h
    have hfolders : foldersOf testName = above.reverse := by
      rw [foldersOf, ← List.reverse_reverse ((parts testName.toList).map sanitize), h,
        List.reverse_cons, List.dropLast_concat]
    rw [h] at hplain
    have hfile : file ∈ ((parts testName.toList).map sanitize).reverse := h ▸ List.mem_cons_self
    obtain ⟨part, -, hpart⟩ := List.mem_map.mp (List.mem_reverse.mp hfile)
    refine ⟨⟨above.reverse, file, fun name hn => ?_, hplain file List.mem_cons_self⟩,
      hfolders.symm, ⟨part, hpart.symm⟩, ?_⟩
    · exact hplain name (List.mem_cons_of_mem _ (List.mem_reverse.mp hn))
    · rw [Place.names, Path.below_append]
      rfl

theorem numbered_below (folder : Path) (place : Place) (n : Nat) :
    numbered (folder.below (place.names ext)) n = folder.below (place.names (numberedExt n)) := by
  rw [Place.names, Place.names, Path.below_append, Path.below_append]
  exact Path.withExtension_join _ place.stem_plain.nonempty (by decide) (by decide)
    (numberedExt_ne_nil n)
    (plain_extension place.stem_plain.nonempty (by decide) place.stem_plain.no_slash ext_no_slash)
    (plain_extension place.stem_plain.nonempty (numberedExt_ne_nil n) place.stem_plain.no_slash
      (numberedExt_no_slash n))

/-- Different numbers make different paths. -/
theorem numbered_inj (folder : Path) (testName : String) {m n : Nat}
    (h : (numbered (plainPath folder testName) m).components =
      (numbered (plainPath folder testName) n).components) : m = n := by
  obtain ⟨place, -, -, hplace⟩ := plainPath_eq folder testName
  rw [hplace, numbered_below, numbered_below] at h
  have hm := place.names_plain (numberedExt_ne_nil m) (numberedExt_no_slash m)
  have hn := place.names_plain (numberedExt_ne_nil n) (numberedExt_no_slash n)
  have hnames := (Path.same_below folder hm hn).mp (beq_iff_eq.mpr h)
  exact numberedExt_inj (place.names_inj hnames)

theorem numbered_nodup (folder : Path) (testName : String) (n count : Nat) :
    ((List.range' n count).map fun i =>
      (numbered (plainPath folder testName) i).components).Nodup := by
  have hnumbers : (List.range' n count).Nodup := List.nodup_range'
  exact List.pairwise_map.mpr
    (hnumbers.imp fun hne he => hne (numbered_inj folder testName he))

theorem mem_iff {p : Path} {paths : List Path} :
    p.mem paths = true ↔ p.components ∈ paths.map Path.components := by
  rw [Path.mem, List.any_eq_true, List.mem_map]
  constructor
  · rintro ⟨q, hq, hs⟩
    exact ⟨q, hq, (beq_iff_eq.mp hs).symm⟩
  · rintro ⟨q, hq, hs⟩
    exact ⟨q, hq, beq_iff_eq.mpr hs.symm⟩

/-- What is claimed is not the same path as what is not. -/
theorem same_eq_false {p q : Path} {claimed : List Path} (hp : p.mem claimed = true)
    (hq : q.mem claimed = false) : p.same q = false := by
  refine Bool.of_not_eq_true fun hs => ?_
  have hm := mem_iff.mp hp
  rw [show p.components = q.components from beq_iff_eq.mp hs, ← mem_iff, hq] at hm
  cases hm

/-- If the path that was chosen is claimed, so are all that were tried. -/
theorem firstFree_mem {claimed : List Path} {plain : Path} {n left : Nat}
    (h : (firstFree claimed plain n left).mem claimed = true) :
    ∀ i ≤ left, (numbered plain (n + i)).mem claimed = true := by
  induction left generalizing n with
  | zero =>
    intro i hi
    obtain rfl := Nat.le_zero.mp hi
    exact h
  | succ left ih =>
    rw [firstFree] at h
    split at h
    · rename_i hn
      intro i hi
      cases i with
      | zero => exact hn
      | succ i =>
        have hrest := ih h i (Nat.le_of_succ_le_succ hi)
        rwa [Nat.add_assoc, Nat.add_comm 1] at hrest
    · rename_i hn
      exact absurd h hn

/-- A path that is claimed for a test was not claimed before. -/
theorem claim_fresh (claimed : List Path) (folder : Path) (testName : String) (ordinal : Nat) :
    (claim claimed folder testName ordinal).mem claimed = false := by
  unfold claim
  dsimp only
  split
  · refine Bool.of_not_eq_true fun hm => ?_
    have htried := firstFree_mem hm
    have hsub : (List.range' ordinal (claimed.length + 1)).map (fun n =>
        (numbered (plainPath folder testName) n).components) ⊆ claimed.map Path.components := by
      intro c hc
      obtain ⟨n, hn, rfl⟩ := List.mem_map.mp hc
      obtain ⟨i, hi, rfl⟩ := List.mem_range'.mp hn
      rw [Nat.one_mul]
      exact mem_iff.mp (htried i (Nat.le_of_lt_succ hi))
    have hle := (numbered_nodup folder testName ordinal _).length_le_of_subset hsub
    simp only [List.length_map, List.length_range'] at hle
    omega
  · rename_i h
    exact Bool.of_not_eq_true h

theorem firstFree_eq (claimed : List Path) (plain : Path) (n left : Nat) :
    ∃ k, n ≤ k ∧ firstFree claimed plain n left = numbered plain k := by
  induction left generalizing n with
  | zero => exact ⟨n, Nat.le_refl n, rfl⟩
  | succ left ih =>
    rw [firstFree]
    split
    · obtain ⟨k, hk, he⟩ := ih (n + 1)
      exact ⟨k, Nat.le_of_succ_le hk, he⟩
    · exact ⟨n, Nat.le_refl n, rfl⟩

/-- A name that ends as those of intermediate code do. -/
def IsCode (name : List Char) : Prop :=
  '.' :: ext <:+ name

instance (name : List Char) : Decidable (IsCode name) :=
  inferInstanceAs (Decidable ('.' :: ext <:+ name))

/-- A path of intermediate code, in the folders that the name of its test asks for. -/
def Placed (folder : Path) (testName : String) (p : Path) : Prop :=
  ∃ name, IsCode name ∧ (∀ n ∈ foldersOf testName ++ [name], Plain n) ∧
    p = folder.below (foldersOf testName ++ [name])

theorem placed_names {folder : Path} {testName : String} {place : Place}
    (h : place.above = foldersOf testName) {e : List Char} (hcode : IsCode ('.' :: e))
    (hne : e ≠ []) (hslash : ∀ c ∈ e, isSlash c = false) :
    Placed folder testName (folder.below (place.names e)) := by
  have hplain := place.names_plain hne hslash
  rw [Place.names, h] at hplain ⊢
  exact ⟨_, hcode.trans (List.suffix_append _ _), hplain, rfl⟩

/-- Whatever is claimed already, the path that is claimed for a test has its place. -/
theorem claim_placed (claimed : List Path) (folder : Path) (testName : String) (ordinal : Nat) :
    Placed folder testName (claim claimed folder testName ordinal) := by
  obtain ⟨place, habove, -, hplace⟩ := plainPath_eq folder testName
  unfold claim
  dsimp only
  split
  · obtain ⟨k, -, hk⟩ := firstFree_eq claimed (plainPath folder testName) ordinal claimed.length
    have hcode : IsCode ('.' :: numberedExt k) := List.suffix_append ('.' :: Nat.toDigits 10 k) _
    rw [hk, hplace, numbered_below]
    exact placed_names habove hcode (numberedExt_ne_nil k) (numberedExt_no_slash k)
  · rw [hplace]
    exact placed_names habove List.suffix_rfl (by decide) ext_no_slash

/-- A path that is claimed leads below the artifact folder, by plain names. -/
theorem claim_below (claimed : List Path) (folder : Path) (testName : String) (ordinal : Nat) :
    ∃ names, names ≠ [] ∧ (∀ name ∈ names, Plain name) ∧
      claim claimed folder testName ordinal = folder.below names := by
  obtain ⟨name, -, hplain, hpath⟩ := claim_placed claimed folder testName ordinal
  exact ⟨_, List.concat_ne_nil _ _, hplain, hpath⟩

end Conformance.Artifact
