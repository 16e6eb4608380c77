import Conformance.Report.Block

/-!
# Summaries

A summary counts outcomes by verdict and keeps the reason of each failure.
-/
namespace Conformance.Report

structure Summary where
  passed : Nat := 0
  failed : Nat := 0
  skipped : Nat := 0
  duplicates : Nat := 0
  /-- The failed cases in order, by the names they had in the run. -/
  failures : List (String × FailReason) := []
deriving DecidableEq

namespace Summary

def record (s : Summary) (o : Outcome) : Summary :=
  match o.verdict with
  | .pass => { s with passed := s.passed + 1 }
  | .skip _ => { s with skipped := s.skipped + 1 }
  | .fail reason =>
    { s with failed := s.failed + 1, failures := s.failures ++ [(o.id, reason)] }

def hasFailures (s : Summary) : Bool :=
  0 < s.failed

def total (s : Summary) : Nat :=
  s.passed + s.failed + s.skipped

/-- How many percent of the cases that ran have passed. -/
def successRate (s : Summary) : Float :=
  let executed := s.passed + s.failed
  if executed = 0 then 0.0 else (s.passed.toFloat / executed.toFloat) * 100.0

/-- The exit status of a run with this summary. -/
def exitCode (s : Summary) : Nat :=
  if s.hasFailures then 1 else 0

end Summary
end Conformance.Report
