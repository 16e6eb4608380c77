import Conformance.Decimal.Text
import Conformance.Files.Access
import Conformance.Pipeline

/-!
# Configurations

What a run needs besides its selection: the tools, the limits and the places of its files. Before a
run the configuration is checked against the file system, the tools are started once, and the
places of the outputs are cleared.
-/
namespace Conformance

structure Config where
  compiler : Path := ⟨"./ifj20"⟩
  interpreter : Path := ⟨"./ic20int"⟩
  reference : Path := ⟨"go"⟩
  /-- Arguments of the reference runtime before those of a test. -/
  referenceArgs : List String := ["run"]
  supportFile : Path := ⟨"./ifj20.go"⟩
  scratch : Path := ⟨"./tmp"⟩
  timeout : Duration := .ofSeconds 5
  logFile : Path := ⟨"./log.txt"⟩
  outputFolder : Path := ⟨"./outputs"⟩
  definition : Path := ⟨"./tests.json"⟩
  extensions : FeatureSet := .empty
  mode : RunMode := .full

namespace Config

/-- The duration of a positive, finite number of seconds. -/
def timeoutOfSeconds (x : Float) : Except Fault Duration :=
  let b := Decimal.Binary.ofFloat x
  if !b.isFinite || b.isZero || b.negative then
    .error (.config (.timeoutNotPositive (Decimal.plain x)))
  else
    match Duration.ofFloat? x with
    | some d => .ok d
    | none => .error (.config (.timeoutTooLong (Decimal.plain x)))

/-- The set of named extensions. Blanks around names and empty names are put aside. -/
def parseExtensions (names : List String) : Except Fault FeatureSet :=
  let trimmed := (names.map fun n => Text.trim n.toList).filter (· != [])
  match parseFeatures (trimmed.map String.ofList) with
  | .ok s => .ok s
  | .error name => .error (.config (.unknownFeature name))

/-- Whether a program is named by a path and not looked up among the installed ones. -/
def isExplicit (program : Path) : Bool :=
  1 < program.components.length || program.isAbsolute

/-- What keeps a run from starting, if anything. -/
def validate (c : Config) (t : FileTree) : Option ConfigFault :=
  if c.timeout.isZero then some .noTime
  else if t.isFolder c.logFile then some (.logIsFolder c.logFile)
  else if t.isFile c.outputFolder then some (.outputIsFile c.outputFolder)
  else if isExplicit c.compiler && !t.isPresent c.compiler then some (.noCompiler c.compiler)
  else if c.mode = .full && !t.isFile c.supportFile then some (.noSupportFile c.supportFile)
  else none

/-- The time that a tool gets to show that it can be started. -/
def launchTime : Duration :=
  .ofSeconds 2

/-- A tool that is started once before a run. -/
structure Probe where
  stage : Stage
  command : Command
  request : Request := {}

def probes (c : Config) : List Probe :=
  let interpreter : Probe := { stage := .interpret, command := { program := c.interpreter } }
  let reference : Probe :=
    { stage := .reference, command := { program := c.reference }
      request := { args := ["version"] } }
  match c.mode with
  | .compileOnly => []
  | .interpretOnly => [interpreter]
  | .full => [interpreter, reference]

/-- Starts a tool. What it answers does not matter, as long as it answers or runs out of time. -/
def probe (m : Machine) (p : Probe) (st : RunState) : Option ConfigFault × RunState :=
  let deadline := Deadline.after st.surroundings.now launchTime
  let (answer, s) := m.run p.command p.request deadline st.surroundings
  let call : Call := { stage := p.stage, request := p.request, deadline, files := st.files }
  let st' := { st with surroundings := s, calls := st.calls ++ [call] }
  match answer with
  | .completed _ | .timedOut => (none, st')
  | .fault fault => (some (.unusable p.stage fault), st')

def probeAll (m : Machine) (st : RunState) : List Probe → Option ConfigFault × RunState
  | [] => (none, st)
  | p :: ps =>
    match probe m p st with
    | (some f, st') => (some f, st')
    | (none, st') => probeAll m st' ps

/-- Starts the tools that the mode needs besides the compiler. -/
def checkToolchain (m : Machine) (c : Config) (st : RunState) : Option ConfigFault × RunState :=
  probeAll m st c.probes

/-- Removes the log of an earlier run. -/
def clearLog (c : Config) (t : FileTree) : Except Fault FileTree :=
  if t.isPresent c.logFile then
    match t.removeFile c.logFile with
    | .ok t' => .ok t'
    | .error e => .error (.io .removeLog c.logFile e)
  else .ok t

/-- Removes the output folder of an earlier run. -/
def clearOutput (c : Config) (t : FileTree) : FileTree × Option Fault :=
  if t.isPresent c.outputFolder then
    let (t', failure) := t.removeFolder c.outputFolder
    (t', failure.map (.io .removeOutput c.outputFolder))
  else (t, none)

/-- Leaves no log file and an empty output folder. -/
def prepareOutputs (c : Config) (t : FileTree) : FileTree × Option Fault :=
  match c.clearLog t with
  | .error f => (t, some f)
  | .ok t₁ =>
    match c.clearOutput t₁ with
    | (t₂, some f) => (t₂, some f)
    | (t₂, none) =>
      let (t₃, failure) := t₂.makeFolders c.outputFolder
      (t₃, failure.map (.io .createOutput c.outputFolder))

def toolchain (m : Machine) (c : Config) : Toolchain where
  compiler := m.tool { program := c.compiler }
  interpreter := m.tool { program := c.interpreter }
  reference := m.tool { program := c.reference, baseArgs := c.referenceArgs }

def settings (c : Config) : Settings where
  mode := c.mode
  timeout := c.timeout
  scratch := c.scratch
  supportFile := c.supportFile
  artifactFolder := c.outputFolder

end Config
end Conformance
