import Conformance.Corpus
import Conformance.Decimal.Text
import Conformance.Report.Summary

/-!
# What a console shows

A line per outcome, a summary at the end of a run, and a listing of tests and groups as a tree. It
is plain text and labels in bold colour. `ansi` shows colours by escape sequences, `bare` leaves
them out.
-/
namespace Conformance.Report

/-! ## Text with labels -/

inductive Colour
  | red
  | green
  | yellow
  | magenta
  | cyan
deriving DecidableEq, Repr

def Colour.code : Colour → Nat
  | .red => 31
  | .green => 32
  | .yellow => 33
  | .magenta => 35
  | .cyan => 36

inductive Styled
  | plain (text : String)
  | label (colour : Colour) (text : String)
deriving DecidableEq, Repr

namespace Styled

def esc (parameter : Nat) : String :=
  "\x1b[" ++ toString parameter ++ "m"

def bare : Styled → String
  | plain text => text
  | label _ text => text

/-- A label is set between resets, bold and in its colour. -/
def ansi : Styled → String
  | plain text => text
  | label colour text => esc 0 ++ esc 1 ++ esc colour.code ++ text ++ esc 0

/-- The text of a list of parts, with colours or without. -/
def render (coloured : Bool) (parts : List Styled) : String :=
  String.join (parts.map fun p => if coloured then p.ansi else p.bare)

end Styled

/-! ## Lines -/

open Styled

/-- The word of a verdict, and what follows the name of the case. -/
def verdictParts : Verdict → Styled × String
  | .pass => (label .green "PASS", "")
  | .fail reason => (label .red "FAIL", ": " ++ reason.text)
  | .skip reason => (label .yellow "SKIP", ": " ++ reason)

/-- The line of an outcome. -/
def outcomeLine (o : Outcome) : List Styled :=
  let (word, tail) := verdictParts o.verdict
  [word, plain (" [" ++ toString o.ordinal ++ "] " ++ o.id ++ tail ++ "\n")]

def indent (depth : Nat) : String :=
  String.join (List.replicate depth "    ")

def failureLines (failures : List (String × FailReason)) : List Styled :=
  if failures.isEmpty then []
  else
    plain "\nFailed tests:\n" :: failures.flatMap fun (name, reason) =>
      [plain (indent 1), label .red name, plain (": " ++ reason.text ++ "\n")]

def duplicatesLine (n : Nat) : List Styled :=
  if n = 0 then []
  else [plain (toString n ++ " duplicated tests were selected, each test is run only once\n")]

def summaryLines (s : Summary) (logFile : Path) : List Styled :=
  failureLines s.failures ++
    [plain ("\nTest summary: total " ++ toString s.total ++ ", "),
      label .green "passed", plain (" " ++ toString s.passed ++ ", "),
      label .red "failed", plain (" " ++ toString s.failed ++ ", "),
      label .yellow "skipped", plain (" " ++ toString s.skipped ++ "\n")] ++
    duplicatesLine s.duplicates ++
    [plain ("Success rate: " ++ Decimal.onePlace s.successRate ++ "%\n"),
      plain ("Details in '" ++ logFile.text ++ "'\n")]

/-- A line of a test's entry in a listing, if there is something to say. -/
def detail (pad word : String) : Option String → List Styled
  | none => []
  | some text => [plain (pad ++ word ++ text ++ "\n")]

def featuresDetail (s : FeatureSet) : Option String :=
  if s.isEmpty then none else some s.text

def testEntry (depth : Nat) (case : TestCase) : List Styled :=
  let inner := indent (depth + 1)
  [plain (indent depth), label .cyan "TEST:", plain (" " ++ case.name ++ "\n")] ++
    detail inner "" case.description ++
    detail inner "FILE: " (some case.origin.text) ++
    detail inner "COMPILER CODES: " (some case.compilerCodes.text) ++
    detail inner "INTERPRET CODES: " (some case.interpretCodes.text) ++
    detail inner "INPUT: " case.input ++
    detail inner "EXTENSION REQUIRED: " (featuresDetail case.required) ++
    detail inner "EXTENSION FORBIDDEN: " (featuresDetail case.forbidden) ++
    [plain "\n"]

/-- The entry of a group: its tests and then the groups it includes, one step further in. `left`
bounds the nesting of groups. -/
def groupEntry (c : Corpus) (depth : Nat) : (left : Nat) → (index : Nat) → List Styled
  | 0, _ => []
  | left + 1, index =>
    match c.groups[index]? with
    | none => []
    | some g =>
      [plain (indent depth), label .magenta "GROUP:", plain (" " ++ g.name ++ "\n")] ++
        detail (indent (depth + 1)) "" g.description ++
        (c.testsAt g.tests).flatMap (testEntry (depth + 1)) ++
        g.includes.flatMap (groupEntry c (depth + 1) left) ++
        [plain "\n"]

/-- Tests and then groups, each group with all it contains. -/
def listing (tests : List TestCase) (c : Corpus) (groups : List Nat) : List Styled :=
  plain "\nLIST OF TESTS AND GROUPS\n\n" :: tests.flatMap (testEntry 0) ++
    groups.flatMap (groupEntry c 0 c.groups.length)

end Conformance.Report
