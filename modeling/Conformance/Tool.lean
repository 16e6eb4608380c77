import Conformance.Files.Tree
import Conformance.Time

/-!
# Tools

A tool is run with arguments, bytes on its input and a deadline, and answers with its exit code and
the bytes of both output streams, or not at all in time, or with a fault when it could not be
started or waited for. What a tool does may depend on the calls made before, on the file tree, on
the clock and on what earlier tools have left going on, and it may change all but the calls; a tool
is therefore a function of all of these. What was begun by a tool may go on after its end: it then
changes files later, beside the tools that run at that time.
-/
namespace Conformance

/-- What goes on by itself: nothing, a wait for a moment, or a change of the files. At the moment it
goes on from the files as they then are. -/
inductive Activity
  | over
  | waits (till : Instant) (next : FileTree → Activity)
  | changes (files : FileTree) (rest : Activity)

/-- The stages of a test, in order. Each has one tool. -/
inductive Stage
  | compile
  | interpret
  | reference
deriving DecidableEq, Repr, Inhabited

namespace Stage

def name : Stage → String
  | .compile => "compile"
  | .interpret => "interpret"
  | .reference => "reference"

def tool : Stage → String
  | .compile => "compiler"
  | .interpret => "interpreter"
  | .reference => "reference runtime"

end Stage

/-- Arguments after those that belong to the tool, and input; no input is an empty one. -/
structure Request where
  args : List String := []
  stdin : Option Bytes := none
deriving DecidableEq, Repr, Inhabited

/-- What a tool that ended has left. A tool ended by a signal has its negated number as code. -/
structure Capture where
  exitCode : Int := 0
  stdout : Bytes := []
  stderr : Bytes := []
deriving DecidableEq, Repr, Inhabited

inductive ToolFault
  | launch (program reason : String)
  | wait (program reason : String)
deriving DecidableEq, Repr

def ToolFault.message : ToolFault → String
  | .launch program reason => "cannot launch '" ++ program ++ "': " ++ reason
  | .wait program reason => "cannot wait for '" ++ program ++ "': " ++ reason

inductive Answer
  | completed (capture : Capture)
  | timedOut
  | fault (fault : ToolFault)
deriving DecidableEq, Repr

/-- What a tool meets and may change. -/
structure Surroundings where
  files : FileTree := {}
  now : Instant := 0
  /-- What goes on besides. -/
  underway : Activity := .over

/-- A call of a tool, with the files as they were at that moment. -/
structure Call where
  stage : Stage
  request : Request
  deadline : Deadline
  files : FileTree

structure Tool where
  name : String
  run : List Call → Request → Deadline → Surroundings → Answer × Surroundings

structure Toolchain where
  compiler : Tool
  interpreter : Tool
  reference : Tool

def Toolchain.tool (t : Toolchain) : Stage → Tool
  | .compile => t.compiler
  | .interpret => t.interpreter
  | .reference => t.reference

/-- A program of the machine with the arguments that always come first. -/
structure Command where
  program : Path
  baseArgs : List String := []
deriving DecidableEq, Repr

/-- What running a program does, for every program. -/
structure Machine where
  run : Command → Request → Deadline → Surroundings → Answer × Surroundings

/-- The tool that runs a command. It does not look at earlier calls. -/
def Machine.tool (m : Machine) (c : Command) : Tool where
  name := c.program.text
  run _ := m.run c

namespace Tool

/-- The calls of one stage. -/
def callsOf (stage : Stage) (calls : List Call) : List Call :=
  calls.filter (·.stage = stage)

/-- A tool with a fixed list of answers: the `n`th call gets the `n`th, and the last one repeats. -/
def scripted (name : String) (stage : Stage) (answers : List Answer) : Tool where
  name := name
  run calls _ _ s :=
    let n := (callsOf stage calls).length
    ((answers[n]? <|> answers.getLast?).getD (.completed {}), s)

end Tool
end Conformance
