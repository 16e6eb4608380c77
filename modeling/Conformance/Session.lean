import Conformance.CommandLine.Arguments
import Conformance.Manifest.Load
import Conformance.Report.Console
import Conformance.Run

/-!
# Sessions

A session is what one command line does: it lists the selected tests, or it checks the
configuration, plans the selected cases, clears the places of the outputs and runs the plan. Its
exit code is 0 when nothing failed, 1 when a case failed, and 2 when the arguments, the
configuration, the corpus or the selection cannot be used.

A time limit that no instant can hold is noticed only when the first case is to be run: then the
session breaks down with the exit code 101, after all that was shown before.
-/
namespace Conformance

open Report (Styled Log Summary)
open CommandLine (Arguments)

/-- How a session ends. -/
inductive SessionEnd
  | listed
  | finished (summary : Summary)
  | refused (fault : Fault)
  | misused (fault : CommandLine.UsageFault)
  | brokenDown

/-- What a session has left. -/
structure Session where
  ending : SessionEnd
  /-- What was shown on the console. -/
  shown : List Styled := []
  state : RunState := {}

namespace Session

def versionLine : String :=
  "crosscheck 0.1.0\n"

/-- The exit code for arguments, configurations and selections that cannot be used. -/
def refusedCode : Nat := 2

def breakdownCode : Nat := 101

/-- Help and the version are shown on demand, and so are no misuse. -/
def usageCode : CommandLine.UsageFault → Nat
  | .help | .version => 0
  | _ => refusedCode

def exitCode (s : Session) : Nat :=
  match s.ending with
  | .listed => 0
  | .finished summary => summary.exitCode
  | .refused _ => refusedCode
  | .misused fault => usageCode fault
  | .brokenDown => breakdownCode

/-- The fault that a session is refused for. -/
def fault? (s : Session) : Option Fault :=
  match s.ending with
  | .refused fault => some fault
  | _ => none

/-- The listing of a selection. -/
def listing (c : Config) (files : FileTree) : Selection → Except Fault (List Styled)
  | .paths paths => do
    return Report.listing (← Selection.resolvePaths files paths) {} []
  | .all => do
    let corpus ← Manifest.load files c.definition
    return Report.listing corpus.tests corpus (List.range corpus.groups.length)
  | .names names => do
    let corpus ← Manifest.load files c.definition
    let (tests, groups) ← Selection.splitNames corpus names
    return Report.listing (corpus.testsAt tests) corpus groups

/-- The cases of a selection. A definition is read only where names or everything is selected. -/
def collect (c : Config) (files : FileTree) : Selection → Except Fault (List TestCase)
  | .paths paths => Selection.resolvePaths files paths
  | .all => (Manifest.load files c.definition).map Selection.resolveAll
  | .names names => do Selection.resolveNames (← Manifest.load files c.definition) names

/-- Writes what a log passes on into the file that was opened for it, whatever its names are by now,
each byte at its place. Without a file it is lost. -/
def depositInto (file : Option FileId) : Deposit :=
  fun before log t =>
    match file with
    | some id => t.writeAt id before.passedOn (log.passedSince before)
    | none => t

/-- Whether the deadline of a case that starts now can be named. -/
def canTime (c : Config) (st : RunState) : Bool :=
  (Deadline.after st.surroundings.now c.timeout).representable

/-- The lines that a console shows of outcomes. -/
def outcomeLines (quiet : Bool) (r : Run) : List Styled :=
  if quiet then [] else r.shown.flatMap fun s => Report.outcomeLine s.outcome

/-- Runs a plan with an empty log file in its place. -/
def runPlan (m : Machine) (c : Config) (quiet : Bool) (plan : Plan) (st : RunState) : Session :=
  let log : Log := { path := c.logFile }
  let deposit := depositInto (st.files.fileOf? c.logFile)
  let settled (r : Run) : RunState :=
    let log := r.sink.log
    r.state.setFiles (deposit log log.settled r.state.files)
  if !canTime c st && 0 < plan.runnable then
    let start : Run := { state := st, sink := { log } }
    let before := plan.entries.takeWhile (·.skip.isSome)
    let (_, r) := Run.stepsFrom (c.toolchain m) c.settings deposit 1 start before
    { ending := .brokenDown
      shown := outcomeLines quiet r
      state := settled r }
  else
    let (result, r) := plan.runInto deposit (c.toolchain m) c.settings log st
    let state := settled r
    match result with
    | .error fault => { ending := .refused fault, shown := outcomeLines quiet r, state }
    | .ok summary =>
      { ending := .finished summary
        shown := outcomeLines quiet r ++ Report.summaryLines summary c.logFile
        state }

/-- Clears the places of the outputs and runs a plan. -/
def prepareAndRun (m : Machine) (c : Config) (quiet : Bool) (plan : Plan) (st : RunState) :
    Session :=
  match c.prepareOutputs st.files with
  | (t, some fault) => { ending := .refused fault, state := st.setFiles t }
  | (t, none) =>
    match t.write c.logFile [] with
    | .error e => { ending := .refused (.io .createLog c.logFile e), state := st.setFiles t }
    | .ok t' => runPlan m c quiet plan (st.setFiles t')

/-- Checks a configuration, plans a selection and runs the plan. -/
def perform (m : Machine) (c : Config) (quiet : Bool) (selection : Selection) (st : RunState) :
    Session :=
  match c.validate st.files with
  | some fault => { ending := .refused (.config fault), state := st }
  | none =>
    match c.checkToolchain m st with
    | (some fault, st') => { ending := .refused (.config fault), state := st' }
    | (none, st') =>
      match collect c st'.files selection with
      | .error fault => { ending := .refused fault, state := st' }
      | .ok cases => prepareAndRun m c quiet (Plan.build cases c.extensions) st'

/-- What is asked for by arguments. -/
def request (a : Arguments) (files : FileTree) : Except Fault (Config × Selection) := do
  let c ← a.config
  return (c, ← a.selection files)

/-- Does what arguments ask for. -/
def ofArguments (m : Machine) (a : Arguments) (st : RunState) : Session :=
  match request a st.files with
  | .error fault => { ending := .refused fault, state := st }
  | .ok (c, selection) =>
    if a.has .list then
      match listing c st.files selection with
      | .error fault => { ending := .refused fault, state := st }
      | .ok shown => { ending := .listed, shown, state := st }
    else perform m c (a.has .quiet) selection st

/-- Does what the words of a command line ask for. -/
def run (m : Machine) (words : List String) (st : RunState) : Session :=
  match Arguments.ofWords words with
  | .ok a => ofArguments m a st
  | .error .version =>
    { ending := .misused .version, shown := [.plain versionLine], state := st }
  | .error fault => { ending := .misused fault, state := st }

end Session
end Conformance
