import Conformance.Host.Chars

/-!
# Pipes

What is written into a pipe waits in it until it is read, and a pipe has room for so much only. A
writer that repeats itself for ever leaves its period behind what it wrote.
-/
namespace Conformance.Host

/-- How a source goes on after its content. -/
inductive Tail
  | closed
  | endless (period : Chars)
  | broken (reason : String)

/-- What a reader gets from a source. -/
structure Supply where
  content : Chars := []
  tail : Tail := .closed

namespace Supply

/-- With so many periods of an endless tail written out. -/
def unroll (periods : Nat) (s : Supply) : Supply :=
  match s.tail with
  | .endless period => { s with content := s.content ++ (List.replicate periods period).flatten }
  | .closed | .broken _ => s

/-- The first `n` characters, or all if there are fewer, and the rest. -/
def split (n : Nat) (s : Supply) : Chars × Supply :=
  let s := match s.tail with
    | .endless period =>
      if s.content.length < n then s.unroll (n / max 1 period.length + 1) else s
    | .closed | .broken _ => s
  (s.content.take n, { s with content := s.content.drop n })

/-- The length of the first `n` of some parts. -/
def partsLength : (n : Nat) → List Chars → Nat
  | 0, _ | _, [] => 0
  | n + 1, part :: parts => part.length + partsLength n parts

/-- The first `n` parts that end at a mark, or all if there are fewer, and the rest. -/
def splitParts (mark : Char) (n : Nat) (s : Supply) : Chars × Supply :=
  let s := match s.tail with
    | .endless period => if period.contains mark then s.unroll n else s
    | .closed | .broken _ => s
  s.split (partsLength n (Chars.endedParts mark s.content))

def isEndless (s : Supply) : Bool :=
  s.tail matches .endless _

/-- With all content replaced. -/
def mapContent (f : Chars → Chars) (s : Supply) : Supply where
  content := f s.content
  tail := match s.tail with
    | .endless period => .endless (f period)
    | tail => tail

end Supply

structure Pipe where
  /-- What is read first. -/
  front : Chars := []
  /-- What was written after that, the last part first. -/
  back : List Chars := []
  /-- How much there is to be read. -/
  size : Nat := 0
  /-- What a writer repeats for ever after that. -/
  endless : Option Chars := none
  /-- Somebody outside of the host reads what is written, as soon as it is. -/
  watched : Bool := false

namespace Pipe

/-- How much a pipe has room for. -/
def capacity : Nat := 65536

/-- What is written at once up to this length stays together. -/
def togetherSize : Nat := 4096

def write (p : Pipe) (s : Chars) : Pipe :=
  if s.isEmpty then p else { p with back := s :: p.back, size := p.size + s.length }

def room (p : Pipe) : Nat :=
  if p.watched then capacity else capacity - p.size

def content (p : Pipe) : Chars :=
  if p.back.isEmpty then p.front else p.front ++ p.back.reverse.flatten

/-- With all that was written in one part. -/
def gathered (p : Pipe) : Pipe :=
  { p with front := p.content, back := [] }

/-- Without the first characters that were to be read. -/
def dropped (count : Nat) (p : Pipe) : Pipe :=
  { p with front := p.content.drop count, back := [], size := p.size - count }

/-- Without what was to be read. -/
def emptied (p : Pipe) : Pipe :=
  { p with front := [], back := [], size := 0, endless := none }

/-- With a supply in the place of what was to be read, before what was written since. -/
def refill (p : Pipe) (s : Supply) : Pipe :=
  { p with
    front := s.content ++ p.content
    back := []
    size := s.content.length + p.size
    endless := match s.tail with
      | .endless period => some period
      | .closed | .broken _ => p.endless }

end Pipe

/-- The length of a text up to and with the mark that ends so many parts, if there are so many. -/
def partsEnd? (mark : Char) (n : Nat) (s : Chars) : Option Nat :=
  go n 0 s
where
  go : (left size : Nat) → Chars → Option Nat
    | 0, size, _ => some size
    | _, _, [] => none
    | left + 1, size, c :: s => go (if c = mark then left else left + 1) (size + 1) s

end Conformance.Host
