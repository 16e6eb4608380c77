import Conformance.CodeSet
import Conformance.Feature
import Conformance.Path

/-!
# Test cases

A case is one program with what is expected of it. Its name is its identity. A scenario is a named
input with an expectation of its own; it shares the program of its base case.
-/
namespace Conformance

structure TestCase where
  name : String
  description : Option String := none
  /-- The file that the program was read from; the reference runtime is given this path. -/
  origin : Path
  source : String
  compilerCodes : CodeSet := .success
  interpretCodes : CodeSet := .success
  required : FeatureSet := .empty
  forbidden : FeatureSet := .empty
  input : Option String := none
deriving DecidableEq, Inhabited

structure Scenario where
  name : String
  input : String
  interpretCodes : CodeSet
deriving DecidableEq

namespace TestCase

/-- Extensions that the case both requires and forbids. -/
def conflicts (c : TestCase) : FeatureSet :=
  c.required.inter c.forbidden

def forScenario (c : TestCase) (s : Scenario) : TestCase :=
  { c with
    name := c.name ++ "::" ++ s.name
    input := some s.input
    interpretCodes := s.interpretCodes }

end TestCase
end Conformance
