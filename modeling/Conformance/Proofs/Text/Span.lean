import Conformance.Proofs.Text.Lines
import Conformance.Text.Span
import Mathlib.Algebra.Ring.Nat
import Mathlib.Data.List.DropRight

/-!
# Slices of a text

A range of bytes is a slice of a text if both of its ends fall between two characters
(`isSome_slice?`). The range of a line is one, and its slice is that line without its end; so is the
range of a quoted word. A position is one exactly if its column does not count into a character
(`isSome_slice?_atLineColumn`).
-/
namespace Conformance.Text

theorem byteLength_flatten (parts : List (List Char)) :
    byteLength parts.flatten = (parts.map byteLength).sum := by
  induction parts with
  | nil => rfl
  | cons part parts ih =>
    rw [List.flatten_cons, byteLength_append, ih, List.map_cons, List.sum_cons]

theorem eq_nil_of_byteLength {s : List Char} (h : byteLength s = 0) : s = [] := by
  cases s with
  | nil => rfl
  | cons c s =>
    rw [byteLength] at h
    have hpos := c.utf8Size_pos
    omega

/-! ## Ends that are dropped -/

/-- What is dropped at the end satisfies the condition. -/
theorem exists_ends (p : Char → Bool) (s : List Char) :
    ∃ ends, s = dropEndWhile p s ++ ends ∧ ∀ c ∈ ends, p c = true := by
  refine ⟨(s.reverse.takeWhile p).reverse, ?_, fun c hc => ?_⟩
  · rw [dropEndWhile, ← List.reverse_append, List.takeWhile_append_dropWhile, List.reverse_reverse]
  · exact List.mem_takeWhile_imp (List.mem_reverse.mp hc)

theorem dropEndWhile_append {p : Char → Bool} (s : List Char) {ends : List Char}
    (h : ∀ c ∈ ends, p c = true) : dropEndWhile p (s ++ ends) = dropEndWhile p s := by
  rw [dropEndWhile, List.reverse_append,
    List.dropWhile_append_of_pos fun c hc => h c (List.mem_reverse.mp hc)]
  rfl

theorem dropEndWhile_eq_self {p : Char → Bool} {s : List Char}
    (h : ∀ c ∈ s.getLast?, p c = false) : dropEndWhile p s = s :=
  List.rdropWhile_eq_self_iff.mpr fun hne =>
    Bool.eq_false_iff.mp (h _ (List.getLast?_eq_some_getLast hne))

theorem getLast?_dropEndWhile {p : Char → Bool} {s : List Char} :
    ∀ c ∈ (dropEndWhile p s).getLast?, p c = false := by
  intro c hc
  obtain ⟨hne, rfl⟩ := List.mem_getLast?_eq_getLast hc
  exact Bool.eq_false_iff.mpr (List.rdropWhile_last_not p s hne)

/-- Blanks at the end do not count for what is left when a text is trimmed. -/
theorem trim_append (s : List Char) {ends : List Char} (h : ∀ c ∈ ends, isBlank c = true) :
    trim (s ++ ends) = trim s := by
  rw [trim, trim, trimStart, trimStart, List.dropWhile_append]
  split
  · rename_i hblank
    rw [List.isEmpty_iff.mp hblank, List.dropWhile_eq_nil_iff.mpr h]
  · exact dropEndWhile_append _ h

/-! ## Places between characters -/

/-- A text in two parts, the first of which has this many bytes. There are none if the offset is
inside a character. -/
def cutAt? : Nat → List Char → Option (List Char × List Char)
  | 0, text => some ([], text)
  | _ + 1, [] => none
  | offset + 1, c :: text =>
    if c.utf8Size ≤ offset + 1 then
      (cutAt? (offset + 1 - c.utf8Size) text).map fun (front, rest) => (c :: front, rest)
    else none

theorem cutAt?_eq_some {offset : Nat} {text front rest : List Char} :
    cutAt? offset text = some (front, rest) ↔
      text = front ++ rest ∧ byteLength front = offset := by
  induction text generalizing offset front with
  | nil =>
    cases offset with
    | zero =>
      simp only [cutAt?, Option.some.injEq, Prod.mk.injEq, List.nil_eq_append_iff]
      constructor
      · rintro ⟨rfl, rfl⟩
        exact ⟨⟨rfl, rfl⟩, rfl⟩
      · rintro ⟨⟨rfl, rfl⟩, -⟩
        exact ⟨rfl, rfl⟩
    | succ offset =>
      simp only [cutAt?, reduceCtorEq, List.nil_eq_append_iff, false_iff]
      rintro ⟨⟨rfl, -⟩, h⟩
      cases h
  | cons c text ih =>
    cases offset with
    | zero =>
      simp only [cutAt?, Option.some.injEq, Prod.mk.injEq]
      constructor
      · rintro ⟨rfl, rfl⟩
        exact ⟨rfl, rfl⟩
      · rintro ⟨htext, hlength⟩
        obtain rfl := eq_nil_of_byteLength hlength
        exact ⟨rfl, htext⟩
    | succ offset =>
      rw [cutAt?]
      constructor
      · intro h
        split at h
        · rename_i hsize
          obtain ⟨⟨front', rest'⟩, hcut, heq⟩ := Option.map_eq_some_iff.mp h
          obtain ⟨rfl, rfl⟩ := Prod.mk.inj heq
          obtain ⟨rfl, hlength⟩ := ih.mp hcut
          refine ⟨rfl, ?_⟩
          rw [byteLength, hlength]
          omega
        · cases h
      · rintro ⟨htext, hlength⟩
        cases front with
        | nil => cases hlength
        | cons d front =>
          obtain ⟨rfl, rfl⟩ := List.cons.inj htext
          rw [byteLength] at hlength
          have hrest : byteLength front = offset + 1 - c.utf8Size := by omega
          rw [if_pos (by omega), ih.mpr ⟨rfl, hrest⟩]
          rfl

/-- An offset that falls between two characters of a text, or is one of its two ends. -/
def IsBoundary (text : List Char) (offset : Nat) : Prop :=
  ∃ front rest, text = front ++ rest ∧ byteLength front = offset

theorem IsBoundary.le {text : List Char} {offset : Nat} (h : IsBoundary text offset) :
    offset ≤ byteLength text := by
  obtain ⟨front, rest, rfl, rfl⟩ := h
  rw [byteLength_append]
  omega

namespace Span

/-- What a range of bytes has of a text, if its ends fall between characters. -/
def slice? (span : Span) (text : List Char) : Option (List Char) :=
  if span.start ≤ span.stop then do
    let (_, rest) ← cutAt? span.start text
    let (part, _) ← cutAt? (span.stop - span.start) rest
    return part
  else none

theorem slice?_eq_some {span : Span} {text part : List Char} :
    span.slice? text = some part ↔ ∃ before after, text = before ++ (part ++ after) ∧
      span.start = byteLength before ∧ span.stop = byteLength (before ++ part) := by
  rw [slice?]
  constructor
  · intro h
    split at h
    · rename_i hle
      obtain ⟨⟨before, rest⟩, hbefore, h⟩ := Option.bind_eq_some_iff.mp h
      obtain ⟨⟨part', after⟩, hpart, h⟩ := Option.bind_eq_some_iff.mp h
      obtain rfl := Option.some.inj h
      obtain ⟨rfl, hstart⟩ := cutAt?_eq_some.mp hbefore
      obtain ⟨rfl, hlength⟩ := cutAt?_eq_some.mp hpart
      refine ⟨before, after, rfl, hstart.symm, ?_⟩
      rw [byteLength_append, hlength, hstart]
      omega
    · cases h
  · rintro ⟨before, after, rfl, hstart, hstop⟩
    rw [byteLength_append, ← hstart] at hstop
    have hlength : byteLength part = span.stop - span.start := by omega
    rw [if_pos (by omega), cutAt?_eq_some.mpr ⟨rfl, hstart.symm⟩]
    simp only [Option.bind_eq_bind, Option.bind_some, cutAt?_eq_some.mpr ⟨rfl, hlength⟩]
    rfl

/-- A range is a slice exactly if its ends are in order, in the text and between characters. -/
theorem isSome_slice? {span : Span} {text : List Char} :
    (span.slice? text).isSome ↔ span.start ≤ span.stop ∧ span.stop ≤ byteLength text ∧
      IsBoundary text span.start ∧ IsBoundary text span.stop := by
  rw [Option.isSome_iff_exists]
  constructor
  · rintro ⟨part, hpart⟩
    obtain ⟨before, after, rfl, hstart, hstop⟩ := slice?_eq_some.mp hpart
    have hend : IsBoundary (before ++ (part ++ after)) span.stop :=
      ⟨before ++ part, after, by simp, hstop.symm⟩
    refine ⟨?_, hend.le, ⟨before, part ++ after, rfl, hstart.symm⟩, hend⟩
    rw [hstart, hstop, byteLength_append]
    omega
  · rintro ⟨hle, -, ⟨before, rest, rfl, hstart⟩, front, after, htext, hstop⟩
    rcases List.append_eq_append_iff.mp htext with ⟨part, rfl, rfl⟩ | ⟨extra, rfl, rfl⟩
    · exact ⟨part, slice?_eq_some.mpr ⟨before, after, rfl, hstart.symm, hstop.symm⟩⟩
    · -- The end would be before the start, so they are the same place.
      rw [byteLength_append] at hstart
      have hnone : byteLength extra = 0 := by omega
      refine ⟨[], slice?_eq_some.mpr ⟨front, extra ++ rest, by simp, by omega, ?_⟩⟩
      rw [List.append_nil, hstop]

theorem isSome_slice?_empty {offset : Nat} {text : List Char} :
    ((empty offset).slice? text).isSome ↔ IsBoundary text offset := by
  rw [isSome_slice?]
  exact ⟨fun h => h.2.2.1, fun h => ⟨Nat.le_refl _, h.le, h, h⟩⟩

/-! ## Lines -/

/-- The range of a line behind these other ones, without its end. -/
def behind (before : List (List Char)) (line : List Char) : Span :=
  ⟨byteLength before.flatten, byteLength (before.flatten ++ dropEndWhile isLineEnd line)⟩

theorem ofLineAfter_eq (offset : Nat) (before : List (List Char)) (line : List Char)
    (after : List (List Char)) :
    ofLineAfter offset (before ++ line :: after) before.length =
      ⟨offset + (behind before line).start, offset + (behind before line).stop⟩ := by
  induction before generalizing offset with
  | nil => rfl
  | cons first before ih =>
    rw [List.cons_append, List.length_cons, ofLineAfter, ih]
    simp only [behind, List.flatten_cons, byteLength_append, Nat.add_assoc]

/-- A line has the number of those before it, and one more. -/
theorem ofLine_eq {source : List Char} {before after : List (List Char)} {line : List Char}
    (h : linesKeepingEnds source = before ++ line :: after) :
    ofLine source (1 + before.length) = behind before line := by
  rw [Nat.add_comm, ofLine, h, ofLineAfter_eq]
  simp only [Nat.zero_add]

theorem ofLineAfter_of_le (offset : Nat) {lines : List (List Char)} {n : Nat}
    (h : lines.length ≤ n) :
    ofLineAfter offset lines n = empty (offset + byteLength lines.flatten) := by
  induction lines generalizing offset n with
  | nil => cases n <;> rfl
  | cons line lines ih =>
    rw [List.length_cons] at h
    cases n with
    | zero => cases h
    | succ n =>
      rw [ofLineAfter, ih _ (Nat.le_of_succ_le_succ h), List.flatten_cons, byteLength_append,
        Nat.add_assoc]

/-- What a line has before its end. There is nothing where no line has this number. -/
def lineText (source : List Char) : Nat → List Char
  | 0 => []
  | n + 1 => ((linesKeepingEnds source)[n]?.map (dropEndWhile isLineEnd)).getD []

theorem isLineEnd_eq_true {c : Char} : isLineEnd c = true ↔ c = '\n' ∨ c = '\r' := by
  simp [isLineEnd]

theorem isBlank_of_isLineEnd {c : Char} (h : isLineEnd c = true) : isBlank c = true := by
  rcases isLineEnd_eq_true.mp h with rfl | rfl <;> rfl

/-- There is no line feed in a line without its end. -/
theorem not_mem_dropEndWhile {source line : List Char} (h : line ∈ linesKeepingEnds source) :
    '\n' ∉ dropEndWhile isLineEnd line := by
  obtain ⟨front, hfront, hline⟩ := exists_front_of_mem h
  have hdrop : dropEndWhile isLineEnd line = dropEndWhile isLineEnd front := by
    rcases hline with rfl | rfl
    · exact dropEndWhile_append front (List.forall_mem_singleton.mpr rfl)
    · rfl
  rw [hdrop]
  exact fun hmem => hfront ((List.rdropWhile_prefix isLineEnd front).mem hmem)

theorem slice?_behind {source : List Char} {before after : List (List Char)} {line : List Char}
    (h : linesKeepingEnds source = before ++ line :: after) :
    (behind before line).slice? source = some (dropEndWhile isLineEnd line) := by
  obtain ⟨ends, hline, -⟩ := exists_ends isLineEnd line
  refine slice?_eq_some.mpr ⟨before.flatten, ends ++ after.flatten, ?_, rfl, rfl⟩
  rw [← linesKeepingEnds_flatten source, h, List.flatten_append, List.flatten_cons,
    ← List.append_assoc (dropEndWhile _ _), ← hline]

theorem slice?_end (source : List Char) :
    (empty (byteLength source)).slice? source = some [] :=
  slice?_eq_some.mpr ⟨source, [], by simp, rfl, by rw [List.append_nil]; rfl⟩

theorem slice?_ofLine (source : List Char) (n : Nat) :
    (ofLine source n).slice? source = some (lineText source n) := by
  cases n with
  | zero => exact slice?_end source
  | succ n =>
    cases hline : (linesKeepingEnds source)[n]? with
    | none =>
      have hle := List.getElem?_eq_none_iff.mp hline
      rw [ofLine, ofLineAfter_of_le 0 hle, linesKeepingEnds_flatten, Nat.zero_add, slice?_end,
        lineText, hline]
      rfl
    | some line =>
      obtain ⟨hn, hget⟩ := List.getElem?_eq_some_iff.mp hline
      have hlines : linesKeepingEnds source = (linesKeepingEnds source).take n ++
          line :: (linesKeepingEnds source).drop (n + 1) := by
        rw [← hget, List.getElem_cons_drop, List.take_append_drop]
      have hlength : ((linesKeepingEnds source).take n).length = n :=
        List.length_take_of_le (Nat.le_of_lt hn)
      have hspan := ofLine_eq hlines
      rw [hlength, Nat.add_comm] at hspan
      rw [hspan, slice?_behind hlines, lineText, hline]
      rfl

/-! ## Quoted words -/

theorem findFrom_eq_some {needle text : List Char} {offset start : Nat}
    (h : findFrom needle offset text = some start) :
    ∃ before after, text = before ++ (needle ++ after) ∧ start = offset + byteLength before := by
  induction text generalizing offset with
  | nil =>
    rw [findFrom] at h
    split at h
    · rename_i hempty
      obtain rfl := Option.some.inj h
      exact ⟨[], [], by rw [List.isEmpty_iff.mp hempty]; rfl, rfl⟩
    · cases h
  | cons c text ih =>
    rw [findFrom] at h
    split at h
    · rename_i hprefix
      obtain rfl := Option.some.inj h
      obtain ⟨after, hafter⟩ := List.isPrefixOf_iff_prefix.mp hprefix
      exact ⟨[], after, hafter.symm, rfl⟩
    · obtain ⟨before, after, rfl, rfl⟩ := ih h
      exact ⟨c :: before, after, rfl, by rw [byteLength, Nat.add_assoc]⟩

/-- The range of a quoted word has this word and its quotes. -/
theorem slice?_ofQuoted {source needle : List Char} {span : Span}
    (h : ofQuoted? source needle = some span) :
    span.slice? source = some ('"' :: needle ++ ['"']) := by
  obtain ⟨start, hstart, rfl⟩ := Option.map_eq_some_iff.mp h
  obtain ⟨before, after, htext, rfl⟩ := findFrom_eq_some hstart
  refine slice?_eq_some.mpr ⟨before, after, htext, Nat.zero_add _, ?_⟩
  rw [byteLength_append before, Nat.zero_add]

end Span

/-! ## Positions -/

/-- The offset stands between the first byte of a character and the next character. -/
def SplitsCharacter (text : List Char) (offset : Nat) : Prop :=
  ∃ front c rest, text = front ++ c :: rest ∧ byteLength front < offset ∧
    offset < byteLength front + c.utf8Size

theorem SplitsCharacter.lt {text : List Char} {offset : Nat} (h : SplitsCharacter text offset) :
    offset < byteLength text := by
  obtain ⟨front, c, rest, rfl, -, hlt⟩ := h
  rw [byteLength_append, byteLength]
  omega

theorem IsBoundary.not_splitsCharacter {text : List Char} {offset : Nat}
    (h : IsBoundary text offset) : ¬SplitsCharacter text offset := by
  rintro ⟨front, c, rest, htext, hfront, hback⟩
  obtain ⟨before, after, rfl, rfl⟩ := h
  rcases List.append_eq_append_iff.mp htext with ⟨extra, rfl, -⟩ | ⟨extra, rfl, hrest⟩
  · rw [byteLength_append] at hfront
    omega
  · rw [byteLength_append] at hfront hback
    cases extra with
    | nil => exact absurd hfront (Nat.lt_irrefl _)
    | cons d extra =>
      obtain ⟨rfl, -⟩ := List.cons.inj hrest
      rw [byteLength] at hback
      omega

/-- An offset in a text falls between characters or into one. -/
theorem isBoundary_or_splitsCharacter {text : List Char} {offset : Nat}
    (h : offset ≤ byteLength text) : IsBoundary text offset ∨ SplitsCharacter text offset := by
  induction text generalizing offset with
  | nil => exact .inl ⟨[], [], rfl, (Nat.le_zero.mp h).symm⟩
  | cons c text ih =>
    rw [byteLength] at h
    rcases Nat.eq_zero_or_pos offset with rfl | hpos
    · exact .inl ⟨[], c :: text, rfl, rfl⟩
    by_cases hlt : offset < c.utf8Size
    · exact .inr ⟨[], c, text, rfl, hpos, by rwa [byteLength, Nat.zero_add]⟩
    · have hrest : offset - c.utf8Size ≤ byteLength text := by omega
      rcases ih hrest with
        ⟨front, rest, rfl, hfront⟩ | ⟨front, d, rest, rfl, hfront, hback⟩
      · exact .inl ⟨c :: front, rest, rfl, by rw [byteLength]; omega⟩
      · exact .inr ⟨c :: front, d, rest, rfl, by rw [byteLength]; omega, by rw [byteLength]; omega⟩

theorem isBoundary_middle {before text after : List Char} {offset : Nat}
    (h : offset ≤ byteLength text) :
    IsBoundary (before ++ (text ++ after)) (byteLength before + offset) ↔
      ¬SplitsCharacter text offset := by
  constructor
  · rintro hboundary ⟨front, c, rest, rfl, hfront, hback⟩
    refine hboundary.not_splitsCharacter ⟨before ++ front, c, rest ++ after, by simp, ?_, ?_⟩
    · rw [byteLength_append]
      omega
    · rw [byteLength_append]
      omega
  · intro hsplits
    obtain ⟨front, rest, rfl, rfl⟩ := (isBoundary_or_splitsCharacter h).resolve_right hsplits
    exact ⟨before ++ front, rest ++ after, by simp, byteLength_append _ _⟩

namespace Span

/-- A position stays on its line. -/
theorem exists_atLineColumn (source : List Char) (line column : Nat) :
    ∃ before text after, lineText source (max line 1) = text ∧ source = before ++ (text ++ after) ∧
      atLineColumn source line column =
        empty (byteLength before + min (column - 1) (byteLength text)) := by
  obtain ⟨before, after, htext, hstart, hstop⟩ :=
    slice?_eq_some.mp (slice?_ofLine source (max line 1))
  refine ⟨before, _, after, rfl, htext, ?_⟩
  rw [atLineColumn, hstart, hstop, byteLength_append, Nat.add_min_add_left]

theorem atLineColumn_le (source : List Char) (line column : Nat) :
    (atLineColumn source line column).start = (atLineColumn source line column).stop ∧
      (atLineColumn source line column).stop ≤ byteLength source := by
  obtain ⟨before, text, after, -, hsource, hspan⟩ := exists_atLineColumn source line column
  have hlength := congrArg byteLength hsource
  rw [byteLength_append, byteLength_append] at hlength
  rw [hspan, empty]
  refine ⟨rfl, ?_⟩
  dsimp only
  omega

/-- A position is a place in the text exactly if its column counts to the start of a character. -/
theorem isSome_slice?_atLineColumn (source : List Char) (line column : Nat) :
    ((atLineColumn source line column).slice? source).isSome ↔
      ¬SplitsCharacter (lineText source (max line 1)) (column - 1) := by
  obtain ⟨before, text, after, htext, hsource, hspan⟩ := exists_atLineColumn source line column
  rw [hspan, isSome_slice?_empty, htext, hsource, isBoundary_middle (Nat.min_le_right _ _)]
  refine not_congr ?_
  rcases Nat.le_total (column - 1) (byteLength text) with hle | hle
  · rw [Nat.min_eq_left hle]
  · -- A column behind the line counts as its end, which is in no character.
    rw [Nat.min_eq_right hle]
    exact iff_of_false (fun h => Nat.lt_irrefl _ h.lt) fun h => Nat.not_le_of_lt h.lt hle

end Span
end Conformance.Text
