import Conformance.Host.Utility.Lines

/-!
# Changes of lines

The lines that are to be removed and added to make one list of lines another, and the ways in which
such changes are shown.
-/
namespace Conformance.Host.Utility

/-! ## Edits -/

/-- A line that is kept, in both of its forms, removed or added. -/
inductive LineEdit
  | keep (old new : Chars)
  | remove (old : Chars)
  | add (new : Chars)

/-- The lengths of the longest common sequences of `x` before the old lines of `below` and of the
ends of some new lines. -/
def commonRow (same : Chars → Chars → Bool) (x : Chars) :
    (news : List Chars) → (below : List Nat) → List Nat
  | y :: ys, left :: below =>
    let row := commonRow same x ys below
    let cell := if same x y then below.head?.getD 0 + 1 else max left (row.head?.getD 0)
    cell :: row
  | _, _ => [0]

/-- Such lengths for all ends of both. -/
def commonTable (same : Chars → Chars → Bool) (news : List Chars) :
    (olds : List Chars) → List (List Nat)
  | [] => [List.replicate (news.length + 1) 0]
  | x :: xs =>
    let rows := commonTable same news xs
    commonRow same x news (rows.head?.getD []) :: rows

/-- The edits that make the one list the other; `cells` are those lengths by places. -/
def edits (same : Chars → Chars → Bool) (cells : Nat → Nat → Nat) (i j : Nat) :
    (olds news : List Chars) → List LineEdit
  | x :: xs, y :: ys =>
    if same x y then .keep x y :: edits same cells (i + 1) (j + 1) xs ys
    else if cells i (j + 1) ≤ cells (i + 1) j then
      .remove x :: edits same cells (i + 1) j xs (y :: ys)
    else .add y :: edits same cells i (j + 1) (x :: xs) ys
  | xs, [] => xs.map .remove
  | [], ys => ys.map .add
termination_by olds news => olds.length + news.length

namespace LineEdit

def isKeep : LineEdit → Bool
  | keep _ _ => true
  | _ => false

def isRemoval : LineEdit → Bool
  | remove _ => true
  | _ => false

/-- With runs of lines that are only removed or only added as far behind as they may stand. -/
def settled (same : Chars → Chars → Bool) : (fuel : Nat) → List LineEdit → List LineEdit
  | 0, es => es
  | _, [] => []
  | fuel + 1, e :: es =>
    let run := (e :: es).takeWhile (!·.isKeep)
    match run, (e :: es).drop run.length with
    | [], _ => e :: settled same fuel es
    | remove x :: more, keep old new :: rest =>
      if more.all isRemoval && same x old then
        keep x new :: settled same fuel (more ++ remove old :: rest)
      else run ++ settled same fuel (keep old new :: rest)
    | add y :: more, keep old new :: rest =>
      if more.all (!·.isRemoval) && same y new then
        keep old y :: settled same fuel (more ++ add new :: rest)
      else run ++ settled same fuel (keep old new :: rest)
    | run, rest => run ++ rest

end LineEdit

/-- Lines next to each other that are replaced by others, after so many lines of both. -/
structure LineChange where
  oldStart : Nat
  newStart : Nat
  removed : List Chars := []
  added : List Chars := []

/-- The changes that edits make up. -/
def changesOf (current : LineChange) : List LineEdit → List LineChange
  | [] => finished
  | .keep _ _ :: es =>
    finished ++ changesOf
      { oldStart := current.oldStart + current.removed.length + 1
        newStart := current.newStart + current.added.length + 1 } es
  | .remove x :: es => changesOf { current with removed := current.removed ++ [x] } es
  | .add y :: es => changesOf { current with added := current.added ++ [y] } es
where
  finished : List LineChange :=
    if current.removed.isEmpty && current.added.isEmpty then [] else [current]

/-! ## Ways to show changes -/

/-- Lines behind a mark; a last line without a newline is told. -/
def markedLines (mark : Chars) (lines : List Chars) : Chars :=
  lines.flatMap fun line =>
    mark ++ if line.getLast? = some '\n' then line
      else line ++ txt "\n\\ No newline at end of file\n"

/-- Lines from one number to another. -/
def spanShown (start length : Nat) : Chars :=
  if length ≤ 1 then Chars.ofNat (start + length)
  else Chars.ofNat (start + 1) ++ ',' :: Chars.ofNat (start + length)

/-- A change with its lines behind marks; `gap` stands between them. -/
def LineChange.shown (gap : Char) (c : LineChange) : Chars :=
  let letter := if c.removed.isEmpty then 'a' else if c.added.isEmpty then 'd' else 'c'
  spanShown c.oldStart c.removed.length ++ letter :: spanShown c.newStart c.added.length ++
    ['\n'] ++ markedLines ['<', gap] c.removed ++
    (if letter = 'c' then txt "---\n" else []) ++ markedLines ['>', gap] c.added

/-- Changes with at most so many kept lines between them, together. -/
def nearChanges (context : Nat) : List LineChange → List (List LineChange)
  | [] => []
  | c :: cs =>
    match nearChanges context cs with
    | (d :: ds) :: groups =>
      if d.oldStart ≤ c.oldStart + c.removed.length + 2 * context then (c :: d :: ds) :: groups
      else [c] :: (d :: ds) :: groups
    | groups => [c] :: groups

/-- A number of lines and where they begin. -/
def rangeShown (start length : Nat) : Chars :=
  if length = 1 then Chars.ofNat (start + 1)
  else Chars.ofNat (if length = 0 then start else start + 1) ++ ',' :: Chars.ofNat length

/-- Changes next to each other, with lines around them. -/
def unifiedGroup (context : Nat) (olds : List Chars) (group : List LineChange) : Chars :=
  match group, group.getLast? with
  | first :: _, some last =>
    let before := min context first.oldStart
    let start := first.oldStart - before
    let finish := min olds.length (last.oldStart + last.removed.length + context)
    let newStart := first.newStart - before
    let added := (group.flatMap (·.added)).length
    let removed := (group.flatMap (·.removed)).length
    let grown := finish - start + added - removed
    let between (a b : Nat) : Chars := markedLines [' '] ((olds.drop a).take (b - a))
    let rec body (place : Nat) : List LineChange → Chars
      | [] => between place finish
      | c :: cs =>
        between place c.oldStart ++ markedLines ['-'] c.removed ++ markedLines ['+'] c.added ++
          body (c.oldStart + c.removed.length) cs
    txt "@@ -" ++ rangeShown start (finish - start) ++ txt " +" ++ rangeShown newStart grown ++
      txt " @@\n" ++ body start group
  | _, _ => []

/-- Changes next to each other, with lines around them, the old lines before the new ones. -/
def contextGroup (context : Nat) (olds news : List Chars) (group : List LineChange) : Chars :=
  match group, group.getLast? with
  | first :: _, some last =>
    let before := min context first.oldStart
    let start := first.oldStart - before
    let finish := min olds.length (last.oldStart + last.removed.length + context)
    let newStart := first.newStart - before
    let newFinish := min news.length (last.newStart + last.added.length + context)
    let side (lines : List Chars) (own : LineChange → Nat × List Chars)
        (other : LineChange → List Chars) (mark : Char) (start finish : Nat) : Chars :=
      let between (a b : Nat) : Chars := markedLines (txt "  ") ((lines.drop a).take (b - a))
      let rec body (place : Nat) : List LineChange → Chars
        | [] => between place finish
        | c :: cs =>
          let (first, changed) := own c
          let mark := if (other c).isEmpty then mark else '!'
          between place first ++ markedLines [mark, ' '] changed ++
            body (first + changed.length) cs
      if group.all fun c => (own c).2.isEmpty then [] else body start group
    txt "***************\n*** " ++ spanShown start (finish - start) ++ txt " ****\n" ++
      side olds (fun c => (c.oldStart, c.removed)) (·.added) '-' start finish ++
      txt "--- " ++ spanShown newStart (newFinish - newStart) ++ txt " ----\n" ++
      side news (fun c => (c.newStart, c.added)) (·.removed) '+' newStart newFinish
  | _, _ => []

/-- Changes as commands of a line editor, the last one first. -/
def editorScript (changes : List LineChange) : Chars :=
  changes.reverse.flatMap fun c =>
    let place := if c.removed.isEmpty then Chars.ofNat c.oldStart
      else spanShown c.oldStart c.removed.length
    let letter := if c.removed.isEmpty then 'a' else if c.added.isEmpty then 'd' else 'c'
    place ++ [letter, '\n'] ++
      if c.added.isEmpty then [] else c.added.flatten ++ txt ".\n"

/-- Changes as steps that tell how many lines are removed or added. -/
def countedSteps (changes : List LineChange) : Chars :=
  changes.flatMap fun c =>
    let step (letter : Char) (place count : Nat) : Chars :=
      letter :: Chars.ofNat place ++ ' ' :: Chars.ofNat count ++ ['\n']
    (if c.removed.isEmpty then [] else step 'd' (c.oldStart + 1) c.removed.length) ++
      if c.added.isEmpty then []
      else step 'a' (c.oldStart + c.removed.length) c.added.length ++ c.added.flatten

end Conformance.Host.Utility
