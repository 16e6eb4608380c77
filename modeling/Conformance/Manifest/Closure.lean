import Conformance.Corpus

/-!
# Closures of groups

A group contains its tests, and all that the groups it includes contain. The walk goes through this
closure depth first and stops at the first group that includes a group above it, at the first group
that is reached again, and at the first test that is met again.
-/
namespace Conformance.Manifest

/-- Why a closure is not well formed. -/
inductive Violation
  | cycle (group : Nat)
  | repeatedGroup (group : Nat)
  | repeatedTest (test : Nat)
deriving DecidableEq, Repr

/-- What a walk has met. -/
structure Seen where
  groups : List Nat := []
  tests : List Nat := []
deriving DecidableEq, Repr

/-- The tests of a group, in order. -/
def Seen.addTests (seen : Seen) : List Nat → Except Violation Seen
  | [] => .ok seen
  | t :: ts =>
    if seen.tests.contains t then .error (.repeatedTest t)
    else addTests { seen with tests := t :: seen.tests } ts

/-- Walks through the closure of a group. `above` lists the groups that lead to it, itself not
included, and `depth` bounds the nesting: no group is above itself, so the number of groups
suffices. -/
def visit (c : Corpus) : (depth : Nat) → (above : List Nat) → (group : Nat) → Seen →
    Except Violation Seen
  | 0, _, group, _ => .error (.cycle group)
  | depth + 1, above, group, seen =>
    match c.groups[group]? with
    | none => .ok seen
    | some g =>
      match seen.addTests g.tests with
      | .error v => .error v
      | .ok seen' =>
        g.includes.foldlM (fun (s : Seen) i =>
          if (group :: above).contains i then .error (.cycle i)
          else if s.groups.contains i then .error (.repeatedGroup i)
          else visit c depth (group :: above) i { s with groups := i :: s.groups }) seen'

/-- The first violation in the closure of a group, if there is one. -/
def violation? (c : Corpus) (root : Nat) : Option Violation :=
  match visit c (c.groups.length + 1) [] root { groups := [root] } with
  | .ok _ => none
  | .error v => some v

end Conformance.Manifest
