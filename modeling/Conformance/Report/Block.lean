import Conformance.Pipeline

/-!
# The block of a case

A run log holds one block per case: a banner with the place and the name of the case, the input of
the program, and what became of it. A failure shows the streams that explain it. A block is a list
of pieces, which are written one after another. A reason is written so too; its text is their
concatenation.
-/
namespace Conformance

/-- The pieces of a whole number: a minus sign, if it has one, and its digits. -/
def numberPieces (n : Int) : List String :=
  if n < 0 then ["-", toString n.natAbs] else [toString n.natAbs]

def CodeSet.pieces (s : CodeSet) : List String :=
  ["[", ", ".intercalate (s.codes.map toString), "]"]

namespace FailReason

def pieces : FailReason → List String
  | .compilerCode actual expected =>
    "Unexpected exit code of compiler. Actual: " :: numberPieces actual ++
      " Expected: " :: expected.pieces ++ ["."]
  | .interpretCode actual expected =>
    "Unexpected exit code of interpreter. Actual: " :: numberPieces actual ++
      " Expected: " :: expected.pieces ++ ["."]
  | .exitCodes interpreter reference =>
    "Reference runtime and interpreter have different exit codes. Reference: " ::
      numberPieces reference ++ " Interpreter: " :: numberPieces interpreter ++ ["."]
  | .outputs => ["Reference runtime and interpreter have different outputs."]
  | .timeout stage => ["Timed out while running the ", stage.tool, "."]
  | .launch stage message => ["Failed to run the ", stage.tool, ": ", message]
  | .unprepared message => ["Failed to prepare the test: ", message]

def text (r : FailReason) : String :=
  String.join r.pieces

end FailReason

namespace Report

def banner : String :=
  "********************"

def separator : String :=
  "----"

def heading (o : Outcome) : List String :=
  ["\n", banner, "\nTEST ", toString o.ordinal, ": ", o.id, "\n", banner, "\n\n"]

def inputPieces (case : TestCase) : List String :=
  match case.input with
  | none => []
  | some input => ["PROGRAM INPUT:\n", input, "\n", separator, "\n"]

/-- A titled stream, closed by a separator. -/
def stream (title : String) (bytes : Bytes) : List String :=
  [title, ":\n", streamText bytes, "\n", separator, "\n"]

def stderrOf (o : Outcome) (stage : Stage) : Bytes :=
  ((o.stage? stage).map (·.stderr)).getD []

def stdoutOf (o : Outcome) (stage : Stage) : Bytes :=
  ((o.stage? stage).map (·.stdout)).getD []

/-- The error streams behind a difference between interpreter and reference. -/
def errorStreams (o : Outcome) : List String :=
  stream "Reference error output" (stderrOf o .reference) ++
    stream "Interpret error output" (stderrOf o .interpret)

/-- The streams that explain a failure. -/
def failureStreams (o : Outcome) : FailReason → List String
  | .compilerCode _ _ => stream "Compiler error output" (stderrOf o .compile)
  | .interpretCode _ _ => stream "Interpret error output" (stderrOf o .interpret)
  | .exitCodes _ _ => errorStreams o
  | .outputs =>
    errorStreams o ++
      stream "Reference output" (stdoutOf o .reference) ++
      stream "Interpret output" (stdoutOf o .interpret) ++
      ["Output diff (-reference +interpret):\n",
        outputDiff (stdoutOf o .reference) (stdoutOf o .interpret), separator, "\n"]
  | .timeout _ | .launch _ _ | .unprepared _ => []

/-- What a mode has left out of a passing case. -/
def leftOut : RunMode → Option String
  | .compileOnly => some "Interpretation and output checks"
  | .interpretOnly => some "Output checks"
  | .full => none

def warning (mode : RunMode) : List String :=
  match leftOut mode with
  | none => []
  | some checks =>
    ["WARNING: This test was not entirely completed, because of the ", mode.label,
      " testing mode.\n", "         ", checks, " were not run.\n", separator, "\n"]

def artifactPieces (o : Outcome) : List String :=
  match o.artifact with
  | none => []
  | some path => ["Intermediate code saved to '", path.text, "'\n"]

def verdictPieces (o : Outcome) : List String :=
  match o.verdict with
  | .skip reason => ["SKIPPED: ", reason, "\n"]
  | .pass => (o.incomplete.map warning).getD [] ++ ["SUCCESS\n"]
  | .fail reason =>
    failureStreams o reason ++ "ERROR: " :: reason.pieces ++ "\n" :: artifactPieces o ++ ["FAIL\n"]

/-- The block of a case with this outcome. -/
def block (case : TestCase) (o : Outcome) : List String :=
  heading o ++ inputPieces case ++ verdictPieces o

end Report
end Conformance
