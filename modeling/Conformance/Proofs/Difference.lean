import Conformance.Compare
import Conformance.Proofs.Text.Lines
import Conformance.Proofs.Text.Utf8
import Mathlib.Data.List.Basic

/-!
# What a difference shows

Both texts can be read off a difference: its lines that are no additions make up the old text, and
those that are no removals the new one (`outputDiff_two_sided`). All that this takes is that the
lines by which `merge` cuts are common to both texts, in order; how many there are does not matter.

So a difference marks a line exactly if the texts differ. Outputs that differ in malformed bytes
only may be the same text for reading, and then no line is marked (`mismatch_shown`).
-/
namespace Conformance.LineDiff

open Text (joinWith)

/-! ## Common lines -/

/-- What the walk back finds is common to both texts, in order. -/
theorem common_sublist (before : Nat → Nat → Bool) (xs ys found : List Line) :
    ∃ mid, common before xs ys found = mid ++ found ∧ mid.Sublist xs.reverse ∧
      mid.Sublist ys.reverse := by
  fun_induction common before xs ys found with
  | case1 xs y ys found ih =>
    obtain ⟨mid, hmid, hxs, hys⟩ := ih
    refine ⟨mid ++ [y], by rw [hmid, List.append_assoc, List.singleton_append], ?_, ?_⟩
    · rw [List.reverse_cons]
      exact hxs.append (List.Sublist.refl [y])
    · rw [List.reverse_cons]
      exact hys.append (List.Sublist.refl [y])
  | case2 x xs y ys found hne hlast =>
    exact ⟨[], rfl, List.nil_sublist _, List.nil_sublist _⟩
  | case3 x xs y ys found hne hlast hleft ih =>
    obtain ⟨mid, hmid, hxs, hys⟩ := ih
    refine ⟨mid, hmid, hxs, hys.trans ?_⟩
    rw [List.reverse_cons]
    exact List.sublist_append_left _ _
  | case4 x xs y ys found hne hlast hup ih =>
    obtain ⟨mid, hmid, hxs, hys⟩ := ih
    refine ⟨mid, hmid, hxs.trans ?_, hys⟩
    rw [List.reverse_cons]
    exact List.sublist_append_left _ _
  | case5 xs ys found hend =>
    exact ⟨[], rfl, List.nil_sublist _, List.nil_sublist _⟩

theorem commonLines_sublist (xs ys : List Line) :
    (commonLines xs ys).Sublist xs ∧ (commonLines xs ys).Sublist ys := by
  obtain ⟨mid, hmid, hxs, hys⟩ := common_sublist (goesLeft (table xs ys) ys.length) xs.reverse
    ys.reverse []
  rw [List.reverse_reverse] at hxs hys
  rw [commonLines, hmid, List.append_nil]
  exact ⟨hxs, hys⟩

theorem common_self (before : Nat → Nat → Bool) (xs found : List Line) :
    common before xs xs found = xs.reverse ++ found := by
  induction xs generalizing found with
  | nil => simp [common]
  | cons x xs ih => rw [common, if_pos rfl, ih, List.reverse_cons, List.append_assoc]; rfl

/-- All lines of a text are common to it and itself. -/
theorem commonLines_self (xs : List Line) : commonLines xs xs = xs := by
  rw [commonLines, common_self, List.reverse_reverse, List.append_nil]

/-! ## The two sides -/

/-- The lines of chunks with their marks. -/
def spread (chunks : List Chunk) : List (Mark × Line) :=
  chunks.flatMap fun c => c.lines.map fun l => (c.mark, l)

/-- A line that one text has: it is the same in both, or it has the mark of this text. -/
def onSide? (mark : Mark) (l : Mark × Line) : Option Line :=
  if l.1 = .same ∨ l.1 = mark then some l.2 else none

/-- The lines of one text. -/
def side (mark : Mark) (chunks : List Chunk) : List Line :=
  (spread chunks).filterMap (onSide? mark)

@[simp] theorem side_nil (mark : Mark) : side mark [] = [] := rfl

@[simp] theorem side_append (mark : Mark) (chunks others : List Chunk) :
    side mark (chunks ++ others) = side mark chunks ++ side mark others := by
  rw [side, spread, List.flatMap_append, List.filterMap_append]
  rfl

@[simp] theorem side_singleton (mark m : Mark) (lines : List Line) :
    side mark [⟨m, lines⟩] = if m = .same ∨ m = mark then lines else [] := by
  rw [side, spread, List.flatMap_singleton, List.filterMap_map]
  split <;> rename_i hmark
  · exact (List.filterMap_congr fun l _ => if_pos hmark).trans List.filterMap_some
  · exact List.filterMap_eq_nil_iff.mpr fun l _ => if_neg hmark

@[simp] theorem side_chunk (mark m : Mark) (lines : List Line) :
    side mark (chunk m lines) = if m = .same ∨ m = mark then lines else [] := by
  cases lines with
  | nil => simp [chunk]
  | cons l lines => exact side_singleton mark m (l :: lines)

/-- A text is cut at the first place where a line stands that it has. -/
theorem cut_first {c : Line} {shared xs : List Line} (h : (c :: shared).Sublist xs) :
    xs = xs.takeWhile (· != c) ++ c :: (xs.dropWhile (· != c)).drop 1 ∧
      shared.Sublist ((xs.dropWhile (· != c)).drop 1) := by
  induction xs with
  | nil => cases h
  | cons x xs ih =>
    by_cases hx : x = c
    · subst hx
      simpa using List.cons_sublist_cons.mp h
    · have hrest : (c :: shared).Sublist xs := by
        cases h with
        | cons _ h => exact h
        | cons_cons _ h => exact absurd rfl hx
      obtain ⟨heq, hsub⟩ := ih hrest
      have hne : (x != c) = true := bne_iff_ne.mpr hx
      rw [List.takeWhile_cons, List.dropWhile_cons, if_pos hne, if_pos hne]
      exact ⟨congrArg (x :: ·) heq, hsub⟩

/-- Nothing is lost or made up where two texts are cut along lines that they have in common. -/
theorem side_merge (kept : List Line) {xs ys shared : List Line} (hxs : shared.Sublist xs)
    (hys : shared.Sublist ys) :
    side .removed (merge kept xs ys shared) = kept ++ xs ∧
      side .added (merge kept xs ys shared) = kept ++ ys := by
  induction shared generalizing kept xs ys with
  | nil => simp [merge]
  | cons c shared ih =>
    obtain ⟨hx, hxs'⟩ := cut_first hxs
    obtain ⟨hy, hys'⟩ := cut_first hys
    rw [merge]
    split
    · rename_i hempty
      obtain ⟨hremoved, hadded⟩ := Bool.and_eq_true_iff.mp hempty
      rw [List.isEmpty_iff.mp hremoved, List.nil_append] at hx
      rw [List.isEmpty_iff.mp hadded, List.nil_append] at hy
      obtain ⟨hold, hnew⟩ := ih (kept ++ [c]) hxs' hys'
      rw [hold, hnew, List.append_assoc, List.append_assoc, List.singleton_append,
        List.singleton_append, ← hx, ← hy]
      exact ⟨rfl, rfl⟩
    · obtain ⟨hold, hnew⟩ := ih [c] hxs' hys'
      constructor
      · conv_rhs => rw [hx]
        rw [side_append, hold]
        simp
      · conv_rhs => rw [hy]
        rw [side_append, hnew]
        simp

/-- The lines of a text. The empty one may have none. -/
def Spells (lines : List Line) (text : List Char) : Prop :=
  lines = LineDiff.lines text ∨ text = [] ∧ lines = []

theorem Spells.join {lines : List Line} {text : List Char} (h : Spells lines text) :
    joinWith ['\n'] lines = text := by
  rcases h with rfl | ⟨rfl, rfl⟩
  · exact Text.joinWith_splitOn '\n' text
  · rfl

theorem Spells.unbroken {lines : List Line} {text : List Char} (h : Spells lines text) :
    ∀ l ∈ lines, ∀ c ∈ l, (c == '\n') = false := by
  rcases h with rfl | ⟨rfl, rfl⟩
  · exact fun l hl => Text.forall_mem_splitOn hl
  · nofun

/-- The two sides of a difference have the lines of the two texts. -/
theorem side_chunks (old new : List Char) :
    Spells (side .removed (chunks old new)) old ∧ Spells (side .added (chunks old new)) new := by
  obtain ⟨hxs, hys⟩ := commonLines_sublist (lines old) (lines new)
  rw [chunks]
  split
  · rw [side_append, side_append]
    by_cases hold : old = [] <;> by_cases hnew : new = [] <;> simp [hold, hnew, Spells]
  · obtain ⟨hold, hnew⟩ := side_merge [] hxs hys
    exact ⟨.inl hold, .inl hnew⟩

/-- Along all of its lines a text is not cut. -/
theorem merge_self (kept xs : List Line) : merge kept xs xs xs = chunk .same (kept ++ xs) := by
  induction xs generalizing kept with
  | nil => simp [merge, chunk]
  | cons x xs ih => simp [merge, ih]

/-- Nothing is marked between a text and itself. -/
theorem mark_of_mem_chunks_self {text : List Char} {c : Chunk} (h : c ∈ chunks text text) :
    c.mark = .same := by
  rw [chunks, commonLines_self] at h
  split at h
  · rename_i hnone
    have htext : text = [] := by
      rw [← hnone]
      exact (Text.joinWith_splitOn '\n' text).symm
    simp [htext] at h
  · rw [merge_self, chunk] at h
    split at h
    · cases h
    · rw [List.mem_singleton.mp h]

/-! ## The lines that are shown -/

theorem unbroken_of_mem_marked {old new : List Char} {l : Mark × Line}
    (h : l ∈ marked old new) : ∀ c ∈ l.2, (c == '\n') = false := by
  obtain ⟨hold, hnew⟩ := side_chunks old new
  have hmem (mark : Mark) (hmark : l.1 = .same ∨ l.1 = mark) :
      l.2 ∈ side mark (chunks old new) :=
    List.mem_filterMap.mpr ⟨l, h, if_pos hmark⟩
  cases hmark : l.1 with
  | same => exact hold.unbroken _ (hmem .removed (.inl hmark))
  | removed => exact hold.unbroken _ (hmem .removed (.inr hmark))
  | added => exact hnew.unbroken _ (hmem .added (.inr hmark))

/-- Each line is shown as a line, behind its sign. -/
theorem lines_render (old new : List Char) :
    lines (render old new) = (marked old new).map (fun l => l.1.sign :: l.2) ++ [[]] := by
  have hrender : render old new =
      ((marked old new).map fun l => l.1.sign :: l.2).flatMap (· ++ ['\n']) := by
    rw [render, List.flatMap_map]
  rw [hrender]
  refine Text.splitOn_ended rfl fun part hpart => ?_
  obtain ⟨l, hl, rfl⟩ := List.mem_map.mp hpart
  refine List.forall_mem_cons.mpr ⟨?_, unbroken_of_mem_marked hl⟩
  cases l.1 <;> rfl

/-- A line without its sign, if it has one of these. -/
def unsigned? (signs : List Char) : Line → Option Line
  | [] => none
  | c :: l => if c ∈ signs then some l else none

/-- What the lines of a shown text say that have one of these signs. -/
def told (signs : List Char) (shown : List Char) : List Char :=
  joinWith ['\n'] ((lines shown).filterMap (unsigned? signs))

theorem told_render (mark : Mark) (old new : List Char) :
    told [' ', mark.sign] (render old new) = joinWith ['\n'] (side mark (chunks old new)) := by
  have hsign (m : Mark) : m.sign ∈ [' ', mark.sign] ↔ m = .same ∨ m = mark := by
    cases m <;> cases mark <;> decide
  have hline (l : Mark × Line) :
      unsigned? [' ', mark.sign] (l.1.sign :: l.2) = onSide? mark l := by
    rw [unsigned?, onSide?]
    simp only [hsign]
  rw [told, lines_render, List.filterMap_append, List.filterMap_map]
  have hlast : ([[]] : List Line).filterMap (unsigned? [' ', mark.sign]) = [] := rfl
  rw [hlast, List.append_nil]
  exact congrArg _ (List.filterMap_congr fun l _ => hline l)

/-- The lines of a difference that are no additions make up the old text, and those that are no
removals the new one. -/
theorem render_two_sided (old new : List Char) :
    told [' ', '-'] (render old new) = old ∧ told [' ', '+'] (render old new) = new := by
  obtain ⟨hold, hnew⟩ := side_chunks old new
  exact ⟨(told_render .removed old new).trans hold.join,
    (told_render .added old new).trans hnew.join⟩

/-- Where no line is marked both sides are one. -/
theorem side_eq_of_same {chunks : List Chunk} (h : ∀ l ∈ spread chunks, l.1 = .same)
    (mark other : Mark) : side mark chunks = side other chunks :=
  List.filterMap_congr fun l hl =>
    (if_pos (.inl (h l hl))).trans (if_pos (.inl (h l hl))).symm

/-- A line is marked exactly if the texts differ. -/
theorem marks_iff {old new : List Char} :
    (∃ l ∈ lines (render old new), l.head? = some '-' ∨ l.head? = some '+') ↔ old ≠ new := by
  have hsign (m : Mark) : some m.sign = some '-' ∨ some m.sign = some '+' ↔ m ≠ .same := by
    cases m <;> decide
  have hshown : (∃ l ∈ lines (render old new), l.head? = some '-' ∨ l.head? = some '+') ↔
      ∃ l ∈ marked old new, l.1 ≠ .same := by
    simp [lines_render, ← hsign]
  rw [hshown]
  constructor
  · rintro ⟨l, hl, hmark⟩ rfl
    obtain ⟨c, hc, hlc⟩ := List.mem_flatMap.mp hl
    obtain ⟨line, -, rfl⟩ := List.mem_map.mp hlc
    exact hmark (mark_of_mem_chunks_self hc)
  · intro hne
    by_contra hnone
    have hsame : ∀ l ∈ spread (chunks old new), l.1 = .same := fun l hl =>
      not_not.mp fun hmark => hnone ⟨l, hl, hmark⟩
    obtain ⟨hold, hnew⟩ := side_chunks old new
    refine hne (hold.join.symm.trans (Eq.trans ?_ hnew.join))
    rw [side_eq_of_same hsame .removed .added]

end Conformance.LineDiff

namespace Conformance

open LineDiff (told)

/-- Without its additions a difference of outputs reads as the reference's, and without its removals
as the interpreter's. -/
theorem outputDiff_two_sided (reference interpreter : Bytes) :
    told [' ', '-'] (outputDiff reference interpreter).toList =
        Text.decodeLossyChars reference ∧
      told [' ', '+'] (outputDiff reference interpreter).toList =
        Text.decodeLossyChars interpreter := by
  rw [outputDiff, String.toList_ofList]
  exact LineDiff.render_two_sided _ _

/-- Whether a line of a difference of outputs has a mark. -/
def ShowsMark (reference interpreter : Bytes) : Prop :=
  ∃ l ∈ LineDiff.lines (outputDiff reference interpreter).toList,
    l.head? = some '-' ∨ l.head? = some '+'

theorem showsMark_iff {reference interpreter : Bytes} :
    ShowsMark reference interpreter ↔
      Text.decodeLossy reference ≠ Text.decodeLossy interpreter := by
  rw [ShowsMark, outputDiff, String.toList_ofList, LineDiff.marks_iff, Text.decodeLossy,
    Text.decodeLossy, Ne, Ne, String.ofList_inj]

theorem stdout_ne_of_outputs {interpreter reference : Capture}
    (h : compareOutput interpreter reference = .outputs) :
    interpreter.stdout ≠ reference.stdout := by
  rw [compareOutput] at h
  split at h
  · cases h
  · split at h
    · assumption
    · cases h

/-- Where outputs differ, their difference has a marked line exactly if they also differ as text for
reading. Any two outputs do that are text. -/
theorem mismatch_shown {interpreter reference : Capture}
    (h : compareOutput interpreter reference = .outputs) :
    (ShowsMark reference.stdout interpreter.stdout ↔
        Text.decodeLossy reference.stdout ≠ Text.decodeLossy interpreter.stdout) ∧
      ∀ s t, reference.stdout = Text.encode s → interpreter.stdout = Text.encode t →
        ShowsMark reference.stdout interpreter.stdout := by
  refine ⟨showsMark_iff, fun s t hs ht => showsMark_iff.mpr fun htext => ?_⟩
  rw [hs, ht, Text.decodeLossy_encode, Text.decodeLossy_encode] at htext
  exact stdout_ne_of_outputs h (by rw [hs, ht, htext])

/-- A last line ending that only one of the outputs has is shown. -/
theorem last_ending_shown :
    compareOutput { stdout := [0x61] } { stdout := [0x61, 0x0A] } = .outputs ∧
      ShowsMark [0x61, 0x0A] [0x61] := by
  have hdiffers : compareOutput { stdout := [0x61] } { stdout := [0x61, 0x0A] } = .outputs := by
    decide
  exact ⟨hdiffers, (mismatch_shown hdiffers).2 "a\n" "a" (by rw [Text.encode_eq]; rfl)
    (by rw [Text.encode_eq]; rfl)⟩

/-- Two bytes that begin no character read the same. -/
theorem malformed_not_shown :
    compareOutput { stdout := [0xFE] } { stdout := [0xFF] } = .outputs ∧
      ¬ShowsMark [0xFF] [0xFE] :=
  ⟨by decide, fun h => showsMark_iff.mp h rfl⟩

end Conformance
