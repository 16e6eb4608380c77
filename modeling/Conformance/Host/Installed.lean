import Conformance.Execution.Supervision
import Conformance.Host.Awk.Program
import Conformance.Host.Sed.Program
import Conformance.Host.Turns
import Conformance.Host.Utility.Batches
import Conformance.Host.Utility.Blocks
import Conformance.Host.Utility.Calculation
import Conformance.Host.Utility.Characters
import Conformance.Host.Utility.Columns
import Conformance.Host.Utility.Commands
import Conformance.Host.Utility.Comparison
import Conformance.Host.Utility.Dates
import Conformance.Host.Utility.Difference
import Conformance.Host.Utility.Dump
import Conformance.Host.Utility.Encoding
import Conformance.Host.Utility.Environment
import Conformance.Host.Utility.Found
import Conformance.Host.Utility.Identity
import Conformance.Host.Utility.Joining
import Conformance.Host.Utility.Listing
import Conformance.Host.Utility.Modes
import Conformance.Host.Utility.Numbering
import Conformance.Host.Utility.Order
import Conformance.Host.Utility.Parting
import Conformance.Host.Utility.Precedence
import Conformance.Host.Utility.Renames
import Conformance.Host.Utility.Scratch
import Conformance.Host.Utility.Status
import Conformance.Host.Utility.Sums
import Conformance.Host.Utility.Tabs

/-!
# The host

The programs that are installed, the folders they stand in, and the machine that runs them: a
command is started in the current folder, fed its input, and watched until its deadline.
-/
namespace Conformance.Host

open Shell Utility

def utilities : List (String × Program) :=
  [("[", do testWith problem true (← self).args), ("arch", arch), ("base64", base64),
    ("basename", basename), ("cat", cat), ("chmod", chmod), ("cksum", cksum), ("cmp", cmp),
    ("comm", comm), ("cp", cp), ("cut", cut), ("date", date), ("dd", dd), ("diff", diff),
    ("dirname", dirname), ("echo", echoProgram), ("egrep", grepWith "-E"), ("expand", expand),
    ("expr", expr), ("false", failWith 1), ("fgrep", grepWith "-F"), ("fold", fold), ("grep", grep),
    ("groups", groups), ("head", head), ("id", identity), ("join", join), ("link", link),
    ("ln", ln), ("logname", logname), ("ls", ls), ("md5sum", digestProgram "md5"), ("mkdir", mkdir),
    ("mktemp", mktemp), ("mv", mv), ("nl", nl), ("nproc", nproc), ("od", od), ("paste", paste),
    ("printenv", printenv), ("printf", printfProgram), ("pwd", pwd), ("readlink", readlink),
    ("realpath", realpath), ("rev", rev), ("rm", rm), ("rmdir", rmdir), ("seq", seq),
    ("sha1sum", digestProgram "sha1"), ("sha224sum", digestProgram "sha224"),
    ("sha256sum", digestProgram "sha256"), ("sha384sum", digestProgram "sha384"),
    ("sha512sum", digestProgram "sha512"), ("sleep", sleep), ("sort", sort), ("split", split),
    ("stat", stat), ("sum", sumProgram), ("sync", succeed), ("tac", tac), ("tail", tail),
    ("tee", tee), ("test", do testWith problem false (← self).args), ("touch", touch), ("tr", tr),
    ("true", succeed), ("truncate", truncate), ("tsort", tsort), ("tty", tty), ("uname", uname),
    ("unexpand", unexpand), ("uniq", uniq), ("unlink", unlink), ("wc", wc), ("which", which),
    ("whoami", whoami), ("yes", yes)]

/-- Programs that run others. -/
def runners : List (String × (Start → Program)) :=
  [("awk", Awk.awk), ("env", env), ("find", find), ("mawk", Awk.awk), ("nice", nice),
    ("nohup", nohup), ("sed", Sed.sed), ("setsid", setsid), ("stdbuf", stdbuf),
    ("timeout", timeout), ("xargs", xargs)]

/-- The names of the shell. -/
def shells : List String :=
  ["dash", "sh"]

/-- Runs an installed program; programs run others up to some depth. -/
def startWithin : (depth : Nat) → Start
  | 0, _ => waitForEver
  | depth + 1, name =>
    match utilities.lookup name, runners.lookup name with
    | some program, _ => tellingLoss (.ofProgram name) program
    | none, some program => tellingLoss (.ofProgram name) (program (startWithin depth))
    | none, none => shellProgram (runWithin (startWithin depth) maxDepth)

def maxPrograms : Nat := 2000

/-! ## Folders -/

def deviceNames : List String :=
  ["null", "zero", "full", "stdin", "stdout", "stderr"]

def programNames : List String :=
  utilities.map (·.1) ++ runners.map (·.1) ++ shells

/-- What stands on the host before anything is put there: programs, devices, a folder for
temporary files, and the current folder `work`, which is empty. -/
def installation : FileTree where
  entries :=
    [(["usr"], .folder), (["usr", "bin"], .folder), (["bin"], .link ⟨"usr/bin"⟩),
      (["dev"], .folder), (["tmp"], .folder), (["work"], .folder)] ++
    programNames.map (fun name => (["usr", "bin", name], .program name)) ++
    deviceNames.map fun name => (["dev", name], .device name)
  here := ["work"]
  known := by
    intro e he id h
    simp only [List.mem_append, List.mem_cons, List.not_mem_nil, or_false, List.mem_map] at he
    obtain ((rfl | rfl | rfl | rfl | rfl | rfl) | ⟨_, _, rfl⟩) | ⟨_, _, rfl⟩ := he <;> cases h

/-! ## The machine -/

def firstPid : Nat := 4000

/-- The processes when a program was just started, with its input in the first pipe. Whoever started
it reads what it writes. Before it stands what is going on besides. -/
def opening (start : Program) (name : Chars) (args : List Chars) (input : Bytes)
    (s : Surroundings) : Crowd :=
  let input : Pipe := ({} : Pipe).write (Chars.ofBytes input)
  let self : Process := {
    pid := firstPid
    parent := firstPid - 1
    shell := firstPid
    leader := firstPid
    name
    args
    now := s.now
    begun := s.now
    descriptors := [(0, 0), (1, 1), (2, 2)]
    here := s.files.here
    bindings := [(txt "PATH", { value := some defaultPlaces, exported := true })] }
  let besides : Process :=
    { pid := 0, parent := 0, shell := 0, leader := 0, now := s.now, begun := s.now }
  { world :=
      { files := s.files
        opened := #[{ channel := .source 0 }, { channel := .sink 1 }, { channel := .sink 2 }]
        pipes := #[input, { watched := true }, { watched := true }]
        nextPid := firstPid + 1 }
    clock := s.now
    waiters :=
      [⟨besides, none, Crowd.threadOf s.underway⟩,
        ⟨self, none, fun s => (start s).toThread worldAfter⟩] }

/-- How a process that ended is seen by the one that started it. -/
def statusOf : Ending → Execution.Status
  | .code n => .exited n
  | .signal n => .signaled n

/-- Lets a program run up to its end, and then others that may write to its output, as long as that
is waited for. Gives what is observed, and the processes that are left. -/
def observe (c : Crowd) (deadline : Deadline) : List Execution.Observation × Crowd :=
  let hasEnded (c : Crowd) : Option Ending := c.world.endingOf? firstPid
  let c := c.run (fun c => (hasEnded c).isSome) deadline.moment Crowd.maxTurns
  match hasEnded c with
  | none => ([.running, .deadline, .running], c.killGroup firstPid)
  | some e =>
    let limit := (deadline.drainLimit c.clock).moment
    let c := c.run (fun c => c.isClosed 1 && c.isClosed 2) limit Crowd.maxTurns
    let message (pipe : Nat) (stream : Execution.Stream) : Option Execution.Observation :=
      if c.isClosed pipe then
        some (.message stream (Chars.toBytes (c.world.pipes[pipe]?.getD {}).content))
      else none
    let messages := [message 1 .stdout, message 2 .stderr].filterMap id
    (.ended (statusOf e) :: messages ++ if messages.length = 2 then [] else [.windowOver], c)

/-- What processes do that are left to themselves, with nobody to read what they write. -/
def leftAlone (c : Crowd) : Crowd :=
  let pipes := c.world.pipes.map fun p => { p with watched := false }
  Crowd.settled { c with world := { c.world with pipes } }

/-- Runs a program that was found. -/
def perform (launch : Launch) (shownAs : String) (args : List String) (input : Bytes)
    (deadline : Deadline) (s : Surroundings) : Answer × Surroundings :=
  let words := launch.words Chars.ofBytes ((shownAs :: args).map Chars.ofText)
  let start := startWithin maxPrograms launch.program
  let crowd := opening start (words.head?.getD []) (words.drop 1) input s
  let (observations, crowd) := observe crowd deadline
  let crowd := leftAlone crowd
  let watch := (Execution.Watch.run {} observations)
  let answer := match watch.result? with
    | some result => result.answer shownAs
    | none => .timedOut
  (answer,
    { files := { crowd.world.files with here := s.files.here }
      now := crowd.clock
      underway := crowd.toActivity Crowd.maxMoments })

/-- Why the system refuses to start a program with a NUL in its name or arguments. -/
def nulReason : String := "nul byte found in provided data"

/-- Runs a command. -/
def run (c : Conformance.Command) (r : Request) (deadline : Deadline) (s : Surroundings) :
    Answer × Surroundings :=
  let words := c.program.text :: (c.baseArgs ++ r.args)
  if words.any (·.toList.contains '\x00') then (.fault (.launch c.program.text nulReason), s)
  else
    match s.files.launchNamed c.program.text with
    | .error e => (.fault (.launch c.program.text e.message), s)
    | .ok launch =>
      perform launch c.program.text (c.baseArgs ++ r.args) (r.stdin.getD []) deadline s

/-- The machine that the installed programs make. -/
def machine : Machine where
  run := run

end Conformance.Host
