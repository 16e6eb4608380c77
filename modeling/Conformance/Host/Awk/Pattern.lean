import Conformance.Host.Awk.Token
import Conformance.Host.Shell.Pattern
import Conformance.Host.Utility.Expression

/-!
# Patterns that records are matched with

Patterns are written in the extended spelling, with escapes as in texts, also inside of lists. Every
operator needs something that it is applied to. What a pattern matches can be found and replaced;
places in a text are counted from one.
-/
namespace Conformance.Host.Awk

open Utility (Regex RegexMark)

/-- Why a text is no pattern. -/
inductive PatternFault
  | operand
  | bracket
  | list

def PatternFault.words : PatternFault → String
  | operand => "missing operand"
  | bracket => "missing ')'"
  | list => "bad class -- [], [^] or ["

/-- The character that an escape stands for, and its length behind the backslash. -/
def patternEscape (s : Chars) : Char × Nat :=
  match s with
  | [] => ('\\', 0)
  | c :: _ =>
    match escaped s with
    | ([x], n) => (x, n)
    | _ => (c, 1)

/-- The characters of a list, where escaped ones are known as such. -/
def listGlyphs : (fuel : Nat) → Chars → List (Shell.Glyph × Nat)
  | 0, _ | _, [] => []
  | fuel + 1, '\\' :: s =>
    let (c, n) := patternEscape s
    (⟨c, true⟩, n + 1) :: listGlyphs fuel (s.drop n)
  | fuel + 1, c :: s => (⟨c, false⟩, 1) :: listGlyphs fuel s

/-- Whether a character is a member of a list, the end of which is left out. -/
def inList : (fuel : Nat) → List Shell.Glyph → Char → Bool
  | 0, _, _ | _, [], _ => false
  | fuel + 1, ⟨'[', _⟩ :: ⟨':', _⟩ :: gs, c =>
    let name := (gs.takeWhile (·.char != ':')).map (·.char)
    Shell.rangesOf 2 (txt "[:" ++ name ++ txt ":]") c || inList fuel (gs.drop (name.length + 2)) c
  | fuel + 1, a :: ⟨'-', false⟩ :: b :: gs, c =>
    if a.char ≤ b.char then (a.char ≤ c && c ≤ b.char) || inList fuel gs c
    else a.char == c || inList fuel (⟨'-', true⟩ :: b :: gs) c
  | fuel + 1, a :: gs, c => a.char == c || inList fuel gs c

/-- Whether all classes that a list names are known. -/
def classesKnown : Chars → Bool
  | '[' :: ':' :: s => (classMembers (s.takeWhile (· != ':'))).isSome &&
      classesKnown (s.dropWhile (· != ':'))
  | _ :: s => classesKnown s
  | [] => true
termination_by s => s.length
decreasing_by
  · have := (List.dropWhile_suffix (fun c : Char => c != ':') (l := s)).length_le
    simp only [List.length_cons]
    omega
  · simp

/-- What may come before a mark. -/
inductive Standing
  | start
  | item
deriving DecidableEq

/-- The marks of a pattern; `depth` parentheses are open. -/
def patternMarks (depth : Nat) (standing : Standing) : (fuel : Nat) → Chars →
    Except PatternFault (List RegexMark)
  | 0, _ => .ok []
  | _, [] =>
    if depth ≠ 0 then .error .bracket else if standing = .start then .error .operand else .ok []
  | fuel + 1, c :: s =>
    let item (r : Regex) (rest : Chars) :=
      (patternMarks depth .item fuel rest).map (.item r :: ·)
    let repeated (least : Nat) (most : Option Nat) (rest : Chars) :=
      if standing = .start then .error .operand
      else (patternMarks depth .item fuel rest).map (.repeated least most :: ·)
    match c with
    | '\\' =>
      let (x, n) := patternEscape s
      item (.one x) (s.drop n)
    | '.' => item .any s
    | '^' => item .lineStart s
    | '$' => item .lineEnd s
    | '*' => repeated 0 none s
    | '+' => repeated 1 none s
    | '?' => repeated 0 (some 1) s
    | '(' => (patternMarks (depth + 1) .start fuel s).map (.opening :: ·)
    | ')' =>
      if depth = 0 then item (.one ')') s
      else if standing = .start then .error .operand
      else (patternMarks (depth - 1) .item fuel s).map (.closing :: ·)
    | '|' =>
      if standing = .start then .error .operand
      else (patternMarks depth .start fuel s).map (.bar :: ·)
    | '[' =>
      let negated := s.head? = some '^'
      let glyphs := listGlyphs (s.length + 1) (if negated then s.drop 1 else s)
      match Shell.listText true (glyphs.map (·.1)) with
      | some (text, n) =>
        if !classesKnown text then .error .list
        else
          let length := ((glyphs.take n).map (·.2)).foldl (· + ·) (if negated then 1 else 0)
          item (.set negated (inList n ((glyphs.take (n - 1)).map (·.1)))) (s.drop length)
      | none => .error .list
    | _ => item (.one c) s

/-- The pattern that a text writes; an empty text fits anywhere. -/
def readPattern (s : Chars) : Except PatternFault Regex :=
  if s.isEmpty then .ok .nothing
  else do
    let marks ← patternMarks 0 .start (s.length + 1) s
    match Utility.build false {} marks with
    | .ok r => .ok r
    | .error _ => .error .bracket

/-- What is said of a text that is no pattern. -/
def PatternFault.message (s : Chars) (f : PatternFault) : Chars :=
  txt "regular expression compile failed (" ++ txt f.words ++ txt ")\n" ++ s

/-! ## Parts of texts -/

/-- The place of a text in another, zero if it is not there. -/
def placeOf (part : Chars) : (place : Nat) → Chars → Nat
  | place, [] => if part.isEmpty then place else 0
  | place, c :: s => if part.isPrefixOf (c :: s) then place else placeOf part (place + 1) s

/-- The characters from a place on, so many at most. What lies before the first place counts by its
distance. -/
def partOf (s : Chars) (start : Int) (length : Option Int) : Chars :=
  let length := length.map fun n => if start < 1 then n - start else n
  let rest := s.drop (start - 1).toNat
  match length with
  | none => rest
  | some n => rest.take n.toNat

/-- The place and the length of the first match. -/
def firstMatch (r : Regex) (s : Chars) : Option (Nat × Nat) :=
  (r.find? [] s).map fun (p, q) => (p.passed.length + 1, p.rest.length - q.rest.length)

/-- What a match is replaced by: a mark stands for the match unless it is escaped. -/
def replacement (found : Chars) : Chars → Chars
  | [] => []
  | '\\' :: '&' :: s => '&' :: replacement found s
  | '\\' :: '\\' :: s => '\\' :: replacement found s
  | '&' :: s => found ++ replacement found s
  | c :: s => c :: replacement found s

/-- A text with matches replaced, and their number. An empty match is not taken right behind
another match. -/
def substitute (r : Regex) (form : Chars) (all : Bool) (passed : Chars) (behind : Bool) :
    (fuel : Nat) → Chars → Chars × Nat
  | 0, s => (s, 0)
  | fuel + 1, s =>
    let onward (behind : Bool) : Chars × Nat :=
      match s with
      | [] => ([], 0)
      | c :: s =>
        let (t, n) := substitute r form all (c :: passed) behind fuel s
        (c :: t, n)
    match r.longest? ⟨passed, s, []⟩ with
    | none => onward false
    | some q =>
      let found := s.take (s.length - q.rest.length)
      if found.isEmpty && behind then onward false
      else
        let shown := replacement found form
        if !all then (shown ++ q.rest, 1)
        else if found.isEmpty then
          let (t, n) := onward false
          (shown ++ t, n + 1)
        else
          let (t, n) := substitute r form all q.passed true fuel q.rest
          (shown ++ t, n + 1)

/-- A text with the first match or all matches replaced, and the number of replacements. -/
def substituted (r : Regex) (form : Chars) (all : Bool) (s : Chars) : Chars × Nat :=
  substitute r form all [] false (s.length + 2) s

end Conformance.Host.Awk
