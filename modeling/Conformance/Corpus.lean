import Conformance.TestCase

/-!
# Corpora

A corpus holds tests and groups of tests that share one space of names. A group lists its members
by their positions in the corpus; it may include other groups.
-/
namespace Conformance

structure TestGroup where
  name : String
  description : Option String := none
  tests : List Nat := []
  includes : List Nat := []
deriving DecidableEq, Repr, Inhabited

/-- What a name stands for, with its position. -/
inductive Entry
  | test (index : Nat)
  | group (index : Nat)
deriving DecidableEq, Repr

structure Corpus where
  tests : List TestCase := []
  groups : List TestGroup := []
deriving DecidableEq, Inhabited

namespace Corpus

/-- The last position at which `name` stands. -/
def lastIndexOf? (names : List String) (name : String) : Option Nat :=
  (names.reverse.idxOf? name).map fun i => names.length - 1 - i

/-- What `name` stands for. Names are unique in a checked corpus; in another one a group wins over
a test, and a later entry over an earlier one. -/
def lookup (c : Corpus) (name : String) : Option Entry :=
  match lastIndexOf? (c.groups.map (·.name)) name with
  | some i => some (.group i)
  | none => (lastIndexOf? (c.tests.map (·.name)) name).map .test

/-- The tests at these positions. -/
def testsAt (c : Corpus) (indices : List Nat) : List TestCase :=
  indices.filterMap (c.tests[·]?)

/-- The tests of a group and then those of the groups it includes, in order. `depth` bounds the
nesting of groups, which is at most their number unless a group includes itself. -/
def expandWithin (c : Corpus) : (depth : Nat) → (index : Nat) → List TestCase
  | 0, _ => []
  | depth + 1, index =>
    match c.groups[index]? with
    | none => []
    | some g => c.testsAt g.tests ++ g.includes.flatMap (c.expandWithin depth)

def expand (c : Corpus) (index : Nat) : List TestCase :=
  c.expandWithin c.groups.length index

end Corpus
end Conformance
