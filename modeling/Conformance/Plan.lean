import Conformance.TestCase

/-!
# Plans

A plan lists every selected case once, where it was selected first. A case that the compiler under
test cannot run, because it lacks a required extension or has a forbidden one, is planned as
skipped, with the least such extension as its reason.
-/
namespace Conformance

/-- Why a case is skipped. -/
inductive SkipReason
  | notImplemented (feature : Feature)
  | notAllowed (feature : Feature)
  /-- Any other reason; no plan that is built from cases has one. -/
  | other (words : String)
deriving DecidableEq, Repr

def SkipReason.text : SkipReason → String
  | .notImplemented f => "extension " ++ f.name ++ " is not implemented but required"
  | .notAllowed f => "extension " ++ f.name ++ " is implemented but not allowed"
  | .other words => words

/-- Why a compiler with these extensions skips the case, if it does. -/
def TestCase.skipReason? (c : TestCase) (implemented : FeatureSet) : Option SkipReason :=
  match (c.required.diff implemented).least? with
  | some missing => some (.notImplemented missing)
  | none => ((c.forbidden.inter implemented).least?).map .notAllowed

/-- A planned case, with the reason to skip it if there is one. -/
structure PlannedCase where
  case : TestCase
  skip : Option SkipReason := none
deriving DecidableEq

structure Plan where
  entries : List PlannedCase := []
  /-- How many selected cases repeat an earlier one. -/
  duplicates : Nat := 0
deriving DecidableEq

namespace Plan

/-- The first case of each name that is not in `seen`. -/
def firstsAfter (seen : List String) : List TestCase → List TestCase
  | [] => []
  | c :: cs =>
    if seen.contains c.name then firstsAfter seen cs else c :: firstsAfter (c.name :: seen) cs

def firsts (cases : List TestCase) : List TestCase :=
  firstsAfter [] cases

def build (cases : List TestCase) (implemented : FeatureSet) : Plan where
  entries := (firsts cases).map fun c => { case := c, skip := c.skipReason? implemented }
  duplicates := cases.length - (firsts cases).length

def runnable (p : Plan) : Nat :=
  p.entries.countP (·.skip.isNone)

def skipped (p : Plan) : Nat :=
  p.entries.length - p.runnable

end Plan
end Conformance
