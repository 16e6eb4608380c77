import Conformance.Text.Lines
import Conformance.Text.Blank

/-!
# Byte ranges of a text

Faults point into a text by byte offsets. `ofLine` covers a line without its end, `atLineColumn`
is an empty range at a reported position, and `ofQuoted?` covers the first place where a word
stands between double quotes. A column counts bytes from 1 and is held inside its line; nothing
here asks whether an offset falls between two characters.
-/
namespace Conformance.Text

structure Span where
  start : Nat
  stop : Nat
deriving DecidableEq, Repr, Inhabited

namespace Span

/-- The empty range at an offset. -/
def empty (offset : Nat) : Span :=
  ⟨offset, offset⟩

def isLineEnd (c : Char) : Bool :=
  c == '\n' || c == '\r'

/-- The range of the `n`th of `lines`, counted from 0, the first of which starts at `offset`. -/
def ofLineAfter (offset : Nat) : List (List Char) → Nat → Span
  | [], _ => empty offset
  | line :: _, 0 => ⟨offset, offset + byteLength (dropEndWhile isLineEnd line)⟩
  | line :: lines, n + 1 => ofLineAfter (offset + byteLength line) lines n

/-- The range of a line, counted from 1. A number that names no line gives the end of the text. -/
def ofLine (source : List Char) : Nat → Span
  | 0 => empty (byteLength source)
  | n + 1 => ofLineAfter 0 (linesKeepingEnds source) n

/-- The empty range at a line and a column, both counted from 1, at most at the end of the line. -/
def atLineColumn (source : List Char) (line column : Nat) : Span :=
  let whole := ofLine source (max line 1)
  empty (min (whole.start + (column - 1)) whole.stop)

/-- The first place where `needle` starts, in bytes from `offset`. -/
def findFrom (needle : List Char) (offset : Nat) : List Char → Option Nat
  | [] => if needle.isEmpty then some offset else none
  | c :: s =>
    if needle.isPrefixOf (c :: s) then some offset
    else findFrom needle (offset + c.utf8Size) s

/-- The first occurrence of `needle` between double quotes, the quotes included. -/
def ofQuoted? (source needle : List Char) : Option Span :=
  let quoted := '"' :: needle ++ ['"']
  (findFrom quoted 0 source).map fun start => ⟨start, start + byteLength quoted⟩

/-- Length for display: an empty range is shown as one place. -/
def shownLength (span : Span) : Nat :=
  max (span.stop - span.start) 1

end Span
end Conformance.Text
