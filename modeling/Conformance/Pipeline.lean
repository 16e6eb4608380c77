import Conformance.Artifact
import Conformance.Compare
import Conformance.Fault
import Conformance.TestCase

/-!
# Running one case

The compiler turns the program into intermediate code, the interpreter runs that code from a
scratch file, and the reference runtime runs the file of the test; the interpreter has to behave as
the reference does. An exit code other than zero that was expected ends a case early, and so does
the mode. All stages of a case share one deadline.

Nothing that goes wrong inside a case is a fault of the run: it becomes the verdict.
-/
namespace Conformance

/-- How far a case is run. -/
inductive RunMode
  | compileOnly
  | interpretOnly
  | full
deriving DecidableEq, Repr, Inhabited

def RunMode.label : RunMode → String
  | .compileOnly => "MODE_COMPILE"
  | .interpretOnly => "MODE_INTERPRET"
  | .full => "MODE_ALL"

/-- What a stage that ended has left. -/
structure StageRecord where
  stage : Stage
  capture : Capture
deriving DecidableEq, Repr

inductive FailReason
  | compilerCode (actual : Int) (expected : CodeSet)
  | interpretCode (actual : Int) (expected : CodeSet)
  | exitCodes (interpreter reference : Int)
  | outputs
  | timeout (stage : Stage)
  | launch (stage : Stage) (message : String)
  | unprepared (message : String)
deriving DecidableEq

inductive Verdict
  | pass
  | fail (reason : FailReason)
  | skip (reason : String)
deriving DecidableEq

def Verdict.isFail : Verdict → Bool
  | .fail _ => true
  | .pass | .skip _ => false

structure Outcome where
  /-- The place of the case in the run, counted from 1. -/
  ordinal : Nat
  id : String
  stages : List StageRecord := []
  verdict : Verdict := .pass
  /-- The mode that ended a passing case before the comparison. -/
  incomplete : Option RunMode := none
  artifact : Option Path := none
deriving DecidableEq

/-- The outcome of a case that was not run. -/
def Outcome.skipped (ordinal : Nat) (id reason : String) : Outcome :=
  { ordinal, id, verdict := .skip reason }

/-- What the stage has left, if it ended. -/
def Outcome.stage? (o : Outcome) (stage : Stage) : Option Capture :=
  (o.stages.find? (·.stage = stage)).map (·.capture)

structure Settings where
  mode : RunMode := .full
  timeout : Duration := .ofSeconds 5
  scratch : Path := ⟨"./tmp"⟩
  supportFile : Path := ⟨"./ifj20.go"⟩
  artifactFolder : Path := ⟨"./outputs"⟩
deriving DecidableEq, Repr

/-- What a run has met and done so far: the calls made, oldest first, and the artifact paths given
out. -/
structure RunState where
  surroundings : Surroundings := {}
  calls : List Call := []
  claimed : List Path := []

namespace RunState

def files (st : RunState) : FileTree :=
  st.surroundings.files

def setFiles (st : RunState) (t : FileTree) : RunState :=
  { st with surroundings := { st.surroundings with files := t } }

end RunState

namespace Pipeline

/-- Runs the tool of a stage. -/
def invoke (tools : Toolchain) (stage : Stage) (request : Request) (deadline : Deadline)
    (st : RunState) : Except FailReason Capture × RunState :=
  let (answer, s) := (tools.tool stage).run st.calls request deadline st.surroundings
  let call : Call := { stage, request, deadline, files := st.files }
  let st' := { st with surroundings := s, calls := st.calls ++ [call] }
  match answer with
  | .completed capture => (.ok capture, st')
  | .timedOut => (.error (.timeout stage), st')
  | .fault fault => (.error (.launch stage fault.message), st')

/-- What the stages of a case have come to. -/
structure Progress where
  stages : List StageRecord := []
  verdict : Verdict := .pass
  incomplete : Option RunMode := none
  /-- The intermediate code, once the case went on to the interpreter. -/
  code : Option Bytes := none

def input (case : TestCase) : Option Bytes :=
  case.input.map Text.encode

def compileRequest (case : TestCase) : Request :=
  { stdin := some (Text.encode case.source) }

def interpretRequest (settings : Settings) (case : TestCase) : Request :=
  { args := [settings.scratch.text], stdin := input case }

def referenceRequest (settings : Settings) (case : TestCase) : Request :=
  { args := [case.origin.text, settings.supportFile.text], stdin := input case }

/-- The verdict on a pair of behaviours. -/
def judge (interpreted reference : Capture) : Verdict :=
  match compareOutput interpreted reference with
  | .same => .pass
  | .exitCodes i r => .fail (.exitCodes i r)
  | .outputs => .fail .outputs

/-- The last stage, after the interpreter behaved as expected. -/
def crossCheck (tools : Toolchain) (settings : Settings) (case : TestCase) (deadline : Deadline)
    (interpreted : Capture) (st : RunState) : Progress × RunState :=
  match invoke tools .reference (referenceRequest settings case) deadline st with
  | (.error reason, st') => ({ verdict := .fail reason }, st')
  | (.ok capture, st') =>
    ({ stages := [⟨.reference, capture⟩], verdict := judge interpreted capture }, st')

/-- The stages after the compiler, with the scratch file written. -/
def interpretScratch (tools : Toolchain) (settings : Settings) (case : TestCase)
    (deadline : Deadline) (st : RunState) : Progress × RunState :=
  match invoke tools .interpret (interpretRequest settings case) deadline st with
  | (.error reason, st') => ({ verdict := .fail reason }, st')
  | (.ok capture, st') =>
    let stages := [StageRecord.mk .interpret capture]
    if !case.interpretCodes.contains capture.exitCode then
      ({ stages, verdict := .fail (.interpretCode capture.exitCode case.interpretCodes) }, st')
    else if capture.exitCode ≠ 0 then ({ stages }, st')
    else if settings.mode = .interpretOnly then
      ({ stages, incomplete := some .interpretOnly }, st')
    else
      let (p, st'') := crossCheck tools settings case deadline capture st'
      ({ p with stages := stages ++ p.stages }, st'')

/-- Why a case without a scratch file cannot go on. -/
def scratchProblem (settings : Settings) (e : FileError) : String :=
  "cannot write scratch file " ++ quote settings.scratch.text ++ ": " ++ e.message

/-- The stages after the compiler, which has left `code`. -/
def interpret (tools : Toolchain) (settings : Settings) (case : TestCase) (deadline : Deadline)
    (code : Bytes) (st : RunState) : Progress × RunState :=
  match st.files.write settings.scratch code with
  | .error e => ({ verdict := .fail (.unprepared (scratchProblem settings e)) }, st)
  | .ok t => interpretScratch tools settings case deadline (st.setFiles t)

/-- All stages of a case. -/
def attempt (tools : Toolchain) (settings : Settings) (case : TestCase) (st : RunState) :
    Progress × RunState :=
  let deadline := Deadline.after st.surroundings.now settings.timeout
  match invoke tools .compile (compileRequest case) deadline st with
  | (.error reason, st') => ({ verdict := .fail reason }, st')
  | (.ok capture, st') =>
    let stages := [StageRecord.mk .compile capture]
    if !case.compilerCodes.contains capture.exitCode then
      ({ stages, verdict := .fail (.compilerCode capture.exitCode case.compilerCodes) }, st')
    else if capture.exitCode ≠ 0 then ({ stages }, st')
    else if settings.mode = .compileOnly then
      ({ stages, incomplete := some .compileOnly }, st')
    else
      let (p, st'') := interpret tools settings case deadline capture.stdout st'
      ({ p with stages := stages ++ p.stages, code := some capture.stdout }, st'')

/-- Keeps the intermediate code of a failed case; a file that cannot be written is let go. -/
def keepArtifact (settings : Settings) (name : String) (ordinal : Nat) (code : Bytes)
    (st : RunState) : Option Path × RunState :=
  let path := Artifact.claim st.claimed settings.artifactFolder name ordinal
  let (t, written) := Artifact.save st.files path code
  let st' := { st.setFiles t with claimed := path :: st.claimed }
  (if written then some path else none, st')

/-- Runs one case, as the one with this place and name in the run. -/
def run (tools : Toolchain) (settings : Settings) (ordinal : Nat) (id : String) (case : TestCase)
    (st : RunState) : Outcome × RunState :=
  let (p, st') := attempt tools settings case st
  let outcome : Outcome :=
    { ordinal, id, stages := p.stages, verdict := p.verdict, incomplete := p.incomplete }
  match p.code with
  | none => (outcome, st')
  | some code =>
    if p.verdict.isFail then
      let (artifact, st'') := keepArtifact settings case.name ordinal code st'
      ({ outcome with artifact }, st'')
    else (outcome, st')

/-- Removes the scratch file; that there is none is no fault. -/
def cleanUp (settings : Settings) (st : RunState) : Option Fault × RunState :=
  match st.files.removeFile settings.scratch with
  | .ok t => (none, st.setFiles t)
  | .error .missing => (none, st)
  | .error e => (some (.io .removeScratch settings.scratch e), st)

end Pipeline
end Conformance
