/-!
# Lines and separators

Three ways to cut a text. `linesKeepingEnds` cuts after every line feed and loses nothing;
`lines` drops the line ends, a carriage return before a line feed with it; `splitOn` cuts at every
character of a class and yields one part more than there are such characters.
-/
namespace Conformance.Text

/-- Cut after every line feed. The last line may lack one; no line is empty. -/
def linesKeepingEnds : List Char → List (List Char)
  | [] => []
  | c :: s =>
    if c = '\n' then ['\n'] :: linesKeepingEnds s
    else match linesKeepingEnds s with
      | [] => [[c]]
      | l :: ls => (c :: l) :: ls

theorem linesKeepingEnds_flatten (s : List Char) : (linesKeepingEnds s).flatten = s := by
  induction s with
  | nil => rfl
  | cons c s ih =>
    unfold linesKeepingEnds
    by_cases h : c = '\n'
    · simp [h, ih]
    · cases hs : linesKeepingEnds s with
      | nil => simp [hs] at ih; simp [h, ih]
      | cons l ls => simp [hs] at ih; simp [h, ih]

/-- A line without its line feed and a carriage return before that. -/
def dropLineEnd (line : List Char) : List Char :=
  match line.reverse with
  | '\n' :: '\r' :: r => r.reverse
  | '\n' :: r => r.reverse
  | _ => line

/-- The lines of a text without their ends; a line feed at the end of the text starts no line. -/
def lines (s : List Char) : List (List Char) :=
  (linesKeepingEnds s).map dropLineEnd

/-- Cut at every character that satisfies `p`, which is dropped. -/
def splitOn (p : Char → Bool) : List Char → List (List Char)
  | [] => [[]]
  | c :: s =>
    if p c then [] :: splitOn p s
    else match splitOn p s with
      | [] => [[c]]
      | l :: ls => (c :: l) :: ls

theorem splitOn_ne_nil (p : Char → Bool) (s : List Char) : splitOn p s ≠ [] := by
  cases s with
  | nil => simp [splitOn]
  | cons c s =>
    unfold splitOn
    split
    · simp
    · split <;> simp

/-- A text without separators is one part. -/
theorem splitOn_of_none {p : Char → Bool} {s : List Char} (h : ∀ c ∈ s, p c = false) :
    splitOn p s = [s] := by
  induction s with
  | nil => rfl
  | cons c s ih =>
    rw [splitOn, h c List.mem_cons_self, ih fun d hd => h d (List.mem_cons_of_mem c hd)]
    rfl

/-- The parts before a separator and those behind it. -/
theorem splitOn_append_cons {p : Char → Bool} {c : Char} (h : p c = true) (s t : List Char) :
    splitOn p (s ++ c :: t) = splitOn p s ++ splitOn p t := by
  induction s with
  | nil => simp [splitOn, h]
  | cons d s ih =>
    simp only [List.cons_append, splitOn, ih]
    split
    · rfl
    · cases hs : splitOn p s with
      | nil => exact absurd hs (splitOn_ne_nil p s)
      | cons l ls => rfl

/-- The parts with `separator` between them. -/
def joinWith (separator : List Char) : List (List Char) → List Char
  | [] => []
  | [part] => part
  | part :: parts => part ++ separator ++ joinWith separator parts

/-- Length in bytes, encoded. -/
def byteLength : List Char → Nat
  | [] => 0
  | c :: s => c.utf8Size + byteLength s

theorem byteLength_append (s t : List Char) :
    byteLength (s ++ t) = byteLength s + byteLength t := by
  induction s with
  | nil => simp [byteLength]
  | cons c s ih => simp only [List.cons_append, byteLength, ih, Nat.add_assoc]

end Conformance.Text
