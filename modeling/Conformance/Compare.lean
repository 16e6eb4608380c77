import Conformance.CodeSet
import Conformance.Text.Lines
import Conformance.Text.Utf8
import Conformance.Tool

/-!
# Comparing behaviours

An exit code is compared with an expectation, and the interpreter's behaviour with that of the
reference runtime: exit codes first, then the bytes of the standard outputs. Error streams are not
compared.

A difference of outputs is shown line by line. A table counts the common lines of all pairs of
beginnings; a walk back through it picks a common subsequence, and `merge` cuts both texts along
that sequence into chunks that are the same, removed or added. In the walk the cell before, in
reading order, is compared with the cell above, so at the left edge it is the last cell of the row
above.
-/
namespace Conformance.LineDiff

abbrev Line := List Char

inductive Mark
  | same
  | removed
  | added
deriving DecidableEq, Repr

def Mark.sign : Mark → Char
  | .same => ' '
  | .removed => '-'
  | .added => '+'

structure Chunk where
  mark : Mark
  lines : List Line
deriving DecidableEq, Repr

def lines (text : List Char) : List Line :=
  Text.splitOn (· == '\n') text

/-- The next row of the table: `x` against the lines `ys`. `above` is the row before it without its
first cells, `corner` the cell above and to the left, `left` the cell to the left. -/
def nextRow (x : Line) : (ys : List Line) → (above : List Nat) → (corner left : Nat) → List Nat
  | y :: ys, up :: above, corner, left =>
    let cell := if x = y then corner + 1 else max left up
    cell :: nextRow x ys above up cell
  | _, _, _, _ => []

/-- The rows of the table, from the first line of `xs` on, after the row `above`. -/
def rowsAfter (above : List Nat) (ys : List Line) : List Line → List (List Nat)
  | [] => []
  | x :: xs =>
    let row := nextRow x ys above 0 0
    row :: rowsAfter row ys xs

/-- The table in reading order. -/
def table (xs ys : List Line) : Array Nat :=
  (rowsAfter (ys.map fun _ => 0) ys xs).flatten.toArray

/-- Walks back from the ends of two texts, given in reverse. `before i j` says whether the walk
leaves the cell of line `i` of the one and line `j` of the other to the left. -/
def common (before : Nat → Nat → Bool) : (xs ys : List Line) → List Line → List Line
  | x :: xs, y :: ys, found =>
    if x = y then common before xs ys (x :: found)
    else if xs = [] ∧ ys = [] then found
    else if xs = [] ∨ before xs.length ys.length then common before (x :: xs) ys found
    else common before xs (y :: ys) found
  | _, _, found => found
termination_by xs ys => xs.length + ys.length

/-- Whether the cell before the one of `i` and `j` holds more than the cell above it. -/
def goesLeft (cells : Array Nat) (width i j : Nat) : Bool :=
  cells.getD ((i - 1) * width + j) 0 < cells.getD (i * width + j - 1) 0

/-- Common lines of two texts, in order. -/
def commonLines (xs ys : List Line) : List Line :=
  common (goesLeft (table xs ys) ys.length) xs.reverse ys.reverse []

def chunk (mark : Mark) (lines : List Line) : List Chunk :=
  if lines.isEmpty then [] else [{ mark, lines }]

/-- Cuts two texts along the common lines, after the lines `kept` that are the same in both. -/
def merge (kept xs ys : List Line) : List Line → List Chunk
  | [] => chunk .same kept ++ chunk .removed xs ++ chunk .added ys
  | c :: cs =>
    let removed := xs.takeWhile (· != c)
    let added := ys.takeWhile (· != c)
    let xs' := (xs.dropWhile (· != c)).drop 1
    let ys' := (ys.dropWhile (· != c)).drop 1
    if removed.isEmpty && added.isEmpty then merge (kept ++ [c]) xs' ys' cs
    else chunk .same kept ++ chunk .removed removed ++ chunk .added added ++ merge [c] xs' ys' cs

/-- The chunks of two texts. Where no line with a character in it is common and at most one empty
line, the one text is replaced by the other, and an empty text has no lines. -/
def chunks (old new : List Char) : List Chunk :=
  let xs := lines old
  let ys := lines new
  let shared := commonLines xs ys
  if Text.joinWith ['\n'] shared = [] then
    (if old = [] then [] else [{ mark := .removed, lines := xs }]) ++
      (if new = [] then [] else [{ mark := .added, lines := ys }])
  else merge [] xs ys shared

/-- The marked lines of a difference. -/
def marked (old new : List Char) : List (Mark × Line) :=
  (chunks old new).flatMap fun c => c.lines.map fun l => (c.mark, l)

/-- Each line behind the sign of its mark. -/
def render (old new : List Char) : List Char :=
  (marked old new).flatMap fun l => l.1.sign :: l.2 ++ ['\n']

end Conformance.LineDiff

namespace Conformance

inductive Comparison
  | same
  | exitCodes (interpreter reference : Int)
  | outputs
deriving DecidableEq, Repr

def compareOutput (interpreter reference : Capture) : Comparison :=
  if interpreter.exitCode ≠ reference.exitCode then
    .exitCodes interpreter.exitCode reference.exitCode
  else if interpreter.stdout ≠ reference.stdout then .outputs
  else .same

/-- A captured stream for reading, with a word for an empty one. -/
def streamText (bytes : Bytes) : String :=
  if bytes.isEmpty then "<empty>" else Text.decodeLossy bytes

/-- The line difference from the reference's output to the interpreter's. -/
def outputDiff (reference interpreter : Bytes) : String :=
  String.ofList
    (LineDiff.render (Text.decodeLossyChars reference) (Text.decodeLossyChars interpreter))

end Conformance
