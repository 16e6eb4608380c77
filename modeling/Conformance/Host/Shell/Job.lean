import Conformance.Host.Shell.Variable
import Conformance.Host.Signal

/-!
# Jobs and signals

Commands that the shell has left to run by themselves are its jobs. It waits for them, lists them
and sends them signals, and it is told what to do at signals of its own.
-/
namespace Conformance.Host.Shell

/-! ## Jobs -/

/-- How a job has ended, if it has. -/
def endingOfJob? (j : JobEntry) : Act (Option Ending) :=
  return (← world).endingOfJob? j

/-- The job that a text with a percent sign names. -/
def namedJob (s : Chars) : Act JobEntry := do
  let jobs := (← self).jobs
  let orElse (message : Chars) (j : Option JobEntry) : Act JobEntry :=
    match j with
    | some j => return j
    | none => shellFault message
  match s with
  | '%' :: r =>
    if r = [] || r = ['+'] || r = ['%'] then orElse (txt "No current job") jobs.head?
    else if r = ['-'] then orElse (txt "No previous job") jobs[1]?
    else orElse (txt "No such job: " ++ s) (jobs.find? fun j => some j.number == Chars.nat? r)
  | _ => shellFault (txt "No such job: " ++ s)

/-- The number of a signal that something is to be done at. -/
def signalDue? : Act (Option Nat) := do
  let pid := (← self).pid
  return ((← world).signals.find? (·.receiver = pid)).map (·.number)

/-- Waits for the end of a job, and gives its number. A signal that something is to be done at ends
the waiting before that, and gives its own. -/
def awaitJob (j : JobEntry) : (fuel : Nat) → Act (Except Nat Nat)
  | 0 => return .ok 0
  | fuel + 1 => do
    match ← endingOfJob? j, ← signalDue? with
    | some e, _ =>
      modifySelf fun p =>
        { p with jobs := p.jobs.map fun i =>
            if i.pid = j.pid then { i with waited := true } else i }
      Signal.noteEnd
      return .ok e.status
    | none, some n => return .error (128 + n)
    | none, none =>
      let w ← world
      let left := j.pids.filter fun pid => (w.endingOf? pid).isNone
      await { event := .ended (left.take 1), interruptible := true }
      awaitJob j fuel

/-- Waits for the jobs that arguments name, and gives the number of the last one. -/
def awaitJobs : (status : Nat) → List Chars → Act Nat
  | status, [] => return status
  | status, a :: more => do
    let job ← if a.head? = some '%' then pure (some (← namedJob a))
      else do
        let pid ← numberArgument a
        pure ((← self).jobs.find? (·.pid = pid))
    match job with
    | none => awaitJobs status more
    | some j =>
      match ← awaitJob j maxArrivals with
      | .error status => return status
      | .ok status =>
        if !j.noted then
          if let some e ← endingOfJob? j then Signal.report e
        awaitJobs status more

/-- Waits for jobs one after another. -/
def awaitAll : List JobEntry → Act Nat
  | [] => return 0
  | j :: more => do
    match ← awaitJob j maxArrivals with
    | .error status => return status
    | .ok _ => awaitAll more

/-- `wait`: waits for jobs, or for all of them. -/
def waitBuiltin (args : List Chars) : Act Nat := do
  match (← takeOptions [] [] args).2 with
  | [] => awaitAll (← self).jobs
  | named => awaitJobs 127 named

/-- What a job does, in words. -/
def jobWords (ending : Option Ending) : Chars :=
  match ending with
  | some (.code 0) => txt "Done"
  | some (.code n) => txt "Done(" ++ Chars.ofNat n ++ txt ")"
  | some (.signal n) => (Signal.description n).toList
  | _ => txt "Running"

/-- A line about a job, which is marked if it is the newest one or the one before. -/
def jobLine (withPid : Bool) (place : Nat) (j : JobEntry) (ending : Option Ending) : Chars :=
  let mark := if place = 0 then '+' else if place = 1 then '-' else ' '
  let start := '[' :: Chars.ofNat j.number ++ txt "] " ++ [mark, ' '] ++
    (if withPid then Chars.ofNat j.pid ++ [' '] else []) ++ jobWords ending
  start ++ List.replicate (max 1 (33 - start.length)) ' ' ++
    (List.replicate (j.pids.length - 1) (txt " | ")).flatten ++ ['\n']

/-- `jobs`: lists jobs, and forgets those that have ended. -/
def jobsBuiltin (args : List Chars) : Act Nat := do
  let (options, named) ← takeOptions (txt "lp") [] args
  let mode := options.getLast?.map (·.1)
  let all := (← self).jobs
  let chosen ← if named.isEmpty then pure all else named.mapM namedJob
  chosen.forM fun j => do
    let ending ← endingOfJob? j
    if mode = some 'p' then emit (Chars.ofNat j.pid ++ ['\n'])
    else
      let place := all.findIdx (·.number == j.number)
      emit (jobLine (mode == some 'l') place j ending)
      if ending.isSome then
        modifySelf fun p => { p with jobs := p.jobs.filter (·.number != j.number) }
  return 0

/-- `fg` and `bg`, which need jobs that a terminal controls. -/
def moveBuiltin (args : List Chars) : Act Nat := do
  let (_, named) ← takeOptions [] [] args
  let _ ← namedJob (named.head?.getD ['%'])
  let shown := named.head?.getD (txt "(null)")
  shellFault (txt "job " ++ shown ++ txt " not created under job control")

/-- Keeps a job in mind that was just begun. -/
def addJob (pids : List Nat) : Act Unit := do
  if let some pid := pids.getLast? then
    modifySelf fun p =>
      let (number, jobs) := jobPlace p.jobs
      { p with jobs := { number, pid, pids } :: jobs, lastJob := some pid }

/-! ## Signals -/

/-- The name of a signal as the shell shows it. -/
def signalName (n : Nat) : Chars :=
  if n = 0 then txt "EXIT"
  else if n = 34 then txt "RTMIN"
  else if n = 64 then txt "RTMAX"
  else if 34 < n && n < 50 then txt "RTMIN+" ++ Chars.ofNat (n - 34)
  else if 50 ≤ n && n < 64 then txt "RTMAX-" ++ Chars.ofNat (64 - n)
  else if n = 16 then txt "16"
  else ((Signal.name? n).map (·.toList)).getD (Chars.ofNat n)

/-- How many signals there are, with the one that stands for the end of the shell. -/
def signalCount : Nat := 65

/-- The signal that a text gives by number or by name; `first` is the first one that has a name. -/
def signal? (first : Nat) (s : Chars) : Option Nat :=
  match Chars.nat? s with
  | some n => if n < signalCount then some n else none
  | none =>
    let upper := s.map Char.toUpper
    (List.range signalCount).find? fun n => first ≤ n && signalName n = upper

/-- Sends a signal, if there is a receiver. A child is there until its end was noted. -/
def send (pid signal : Nat) : Act Bool := do
  match (← processes).find? (·.pid = pid) with
  | some q =>
    if signal ≠ 0 then Signal.send q signal
    return true
  | none =>
    let p ← self
    return pid = p.parent || p.jobs.any fun j => j.pids.contains pid && !j.noted

/-- Sends a signal to all processes of a group. -/
def sendToGroup (leader signal : Nat) : Act Bool := do
  let group := (← processes).filter (·.leader = leader)
  if signal ≠ 0 then group.forM fun q => Signal.send q signal
  return !group.isEmpty

/-- Sends a signal to what one argument names; whether there is such a process. -/
def sendTo (signal : Nat) (a : Chars) : Act Bool := do
  match a with
  | '%' :: _ =>
    let _ ← namedJob a
    return false
  | '-' :: s =>
    let n ← numberArgument s
    let own := (← self).leader
    sendToGroup (if n = 0 then own else n) signal
  | _ =>
    match ← numberArgument a with
    | 0 => sendToGroup (← self).leader signal
    | n => send n signal

/-- Sends a signal to the processes that arguments name. -/
def sendToAll (signal : Nat) : (status : Nat) → List Chars → Act Nat
  | status, [] => return status
  | status, a :: more => do
    if ← sendTo signal a then sendToAll signal status more
    else
      shellProblem (txt "No such process\n")
      sendToAll signal 1 more

def killUsage : String :=
  "Usage: kill [-s sigspec | -signum | -sigspec] [pid | job]... or\nkill -l [exitstatus]"

/-- The signal that options of `kill` ask for, whether signals are to be listed, and the other
arguments. -/
def killOptions (args : List Chars) : Act (Option Nat × Bool × List Chars) := do
  match args with
  | ('-' :: s) :: rest =>
    match signal? 1 s with
    | some n => return (some n, false, rest)
    | none =>
      let (options, rest) ← takeOptions ['l'] ['s'] args
      let chosen ← options.filterMapM fun (c, s) => do
        if c = 'l' then return none
        match signal? 1 s with
        | some n => return some n
        | none => shellFault (txt "invalid signal number or name: " ++ s)
      return (chosen.getLast?, options.any (·.1 == 'l'), rest)
  | _ => return (none, false, args)

/-- Lists the names of signals, or shows the one of a number. -/
def listSignals : List Chars → Act Nat
  | [] => do
    emit (txt "0\n")
    emit ((List.range (signalCount - 1)).flatMap fun n => signalName (n + 1) ++ ['\n'])
    return 0
  | s :: _ => do
    let n ← numberArgument s
    let n := if 128 < n then n - 128 else n
    if n = 0 || signalCount ≤ n then
      shellFault (txt "invalid signal number or exit status: " ++ s)
    emit (signalName n ++ ['\n'])
    return 0

def killBuiltin (args : List Chars) : Act Nat := do
  if args.isEmpty then shellFault killUsage.toList
  let (signal, lists, rest) ← killOptions args
  if lists then
    if signal.isSome && !rest.isEmpty then shellFault killUsage.toList
    listSignals rest
  else if rest.isEmpty then shellFault killUsage.toList
  else sendToAll (signal.getD 15) 0 rest

/-- Sets what is done at some signals, up to one that there is not; without an action they are as
they were at first. -/
def setTraps (action : Option Chars) : List Chars → Act Nat
  | [] => return 0
  | s :: more => do
    match signal? 0 s with
    | none =>
      complain (txt "trap: " ++ s ++ txt ": bad trap\n")
      return 1
    | some n =>
      modifySelf fun p =>
        let others := p.traps.filter (·.1 != n)
        { p with traps := match action with
            | some s => (n, s) :: others
            | none => others }
      setTraps action more

def trapBuiltin (args : List Chars) : Act Nat := do
  match (← takeOptions [] [] args).2 with
  | [] =>
    let ordered := (← self).traps.mergeSort fun a b => a.1 ≤ b.1
    emit (ordered.flatMap fun (n, s) =>
      txt "trap -- " ++ singleQuoted s ++ ' ' :: signalName n ++ ['\n'])
    return 0
  | [s] => setTraps none [s]
  | action :: rest =>
    let isNumber := (Chars.nat? action).any (· < signalCount)
    if isNumber then setTraps none (action :: rest)
    else setTraps (if action = ['-'] then none else some action) rest

end Conformance.Host.Shell
