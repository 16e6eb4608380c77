import Conformance.Host.Scene

/-!
# Signals

The names of signals, what they do to a process that does not mind them, and what a shell says of
a child that one has ended.
-/
namespace Conformance.Host.Signal

def names : List (String × Nat) :=
  [("HUP", 1), ("INT", 2), ("QUIT", 3), ("ILL", 4), ("TRAP", 5), ("ABRT", 6), ("BUS", 7),
    ("FPE", 8), ("KILL", 9), ("USR1", 10), ("SEGV", 11), ("USR2", 12), ("PIPE", 13), ("ALRM", 14),
    ("TERM", 15), ("STKFLT", 16), ("CHLD", 17), ("CONT", 18), ("STOP", 19), ("TSTP", 20),
    ("TTIN", 21), ("TTOU", 22), ("URG", 23), ("XCPU", 24), ("XFSZ", 25), ("VTALRM", 26),
    ("PROF", 27), ("WINCH", 28), ("IO", 29), ("PWR", 30), ("SYS", 31)]

/-- The number of a signal that is given by name or number; zero is the end of the shell. -/
def number? (s : Chars) : Option Nat :=
  match Chars.nat? s with
  | some n => if n ≤ 64 then some n else none
  | none =>
    let upper := s.map Char.toUpper
    if upper = txt "EXIT" then some 0 else names.lookup (String.ofList upper)

def name? (n : Nat) : Option String :=
  (names.find? (·.2 = n)).map (·.1)

/-- What a signal is, in words. -/
def description (n : Nat) : String :=
  match n with
  | 1 => "Hangup"
  | 2 => "Interrupt"
  | 3 => "Quit"
  | 4 => "Illegal instruction"
  | 5 => "Trace/breakpoint trap"
  | 6 => "Aborted"
  | 7 => "Bus error"
  | 8 => "Floating point exception"
  | 9 => "Killed"
  | 10 => "User defined signal 1"
  | 11 => "Segmentation fault"
  | 12 => "User defined signal 2"
  | 13 => "Broken pipe"
  | 14 => "Alarm clock"
  | 15 => "Terminated"
  | 16 => "Stack fault"
  | 17 => "Child exited"
  | 18 => "Continued"
  | 19 => "Stopped (signal)"
  | 20 => "Stopped"
  | 21 => "Stopped (tty input)"
  | 22 => "Stopped (tty output)"
  | 23 => "Urgent I/O condition"
  | 24 => "CPU time limit exceeded"
  | 25 => "File size limit exceeded"
  | 26 => "Virtual timer expired"
  | 27 => "Profiling timer expired"
  | 28 => "Window changed"
  | 29 => "I/O possible"
  | 30 => "Power failure"
  | 31 => "Bad system call"
  | _ => if 34 ≤ n then "Real-time signal " ++ toString (n - 34)
      else "Unknown signal " ++ toString n

/-- Signals that a process may not mind. -/
def isUnblockable (n : Nat) : Bool :=
  n == 9 || n == 19

/-- Signals that do nothing if they are not asked for. -/
def isHarmless (n : Nat) : Bool :=
  n == 17 || n == 18 || n == 23 || n == 28

/-- Signals that jobs of a shell do not mind. -/
def isFromKeyboard (n : Nat) : Bool :=
  n == 2 || n == 3

/-- Signals that stop a process for the time being. -/
def isPause (n : Nat) : Bool :=
  n == 19 || n == 20 || n == 21 || n == 22

/-- Whether a signal ends a process that it is sent to. -/
def isFatal (p : Process) (n : Nat) : Bool :=
  !isHarmless n && !isPause n && (isUnblockable n || (p.traps.lookup n).isNone)

/-- Whether a signal halts a process that it is sent to. -/
def isHalting (p : Process) (n : Nat) : Bool :=
  isPause n && (isUnblockable n || (p.traps.lookup n).isNone)

/-- Whether a process does not mind a signal, or has not been told so far that it does not. -/
def isMinded (p : Process) (n : Nat) (now : Instant) : Bool :=
  isUnblockable n || !(p.deaf && isFromKeyboard n && p.begun < now) &&
    match p.traps.lookup n with
    | some action => !action.isEmpty
    | none => !isHarmless n

/-- Sends a signal to a process, which may be this one. A halted process goes on by one of them,
which undoes those that would halt it. -/
def send (receiver : Process) (n : Nat) : Act Unit := do
  let now := (← self).now
  let pid := receiver.pid
  if n = 18 then
    modifyWorld fun w =>
      { w with
        halted := w.halted.filter (· != pid)
        signals := w.signals.filter fun s => s.receiver != pid || !isPause s.number }
  if isMinded receiver n now then
    modifyWorld fun w => { w with signals := w.signals ++ [⟨pid, n⟩] }

/-- Says of a child that a signal has ended it; nothing for an interrupt or a broken pipe. -/
def report (e : Ending) : Act Unit := do
  match e with
  | .signal n => if n ≠ 2 && n ≠ 13 then complain ((description n).toList ++ ['\n'])
  | .code _ => return

/-- Notes that a child has ended, and with it the jobs that have ended by now. -/
def noteEnd : Act Unit := do
  let p ← self
  let w ← world
  modifySelf fun p =>
    { p with jobs := p.jobs.map fun j =>
        { j with noted := j.noted || (w.endingOfJob? j).isSome } }
  if ((p.traps.lookup 17).getD []).isEmpty then return
  if w.signals.any fun s => s.receiver = p.pid && s.number = 17 then return
  modifyWorld fun w => { w with signals := w.signals ++ [⟨p.pid, 17⟩] }

/-- Waits for the end of a child. -/
def awaitChild (pid : Nat) : Act Ending := do
  if ((← world).endingOf? pid).isNone then await { event := .ended [pid] }
  noteEnd
  return ((← world).endingOf? pid).getD (.code 0)

/-- Runs a child and waits for its end. -/
def awaitEnd (body : Act Nat) : Act Ending := do
  awaitChild (← fork body)

/-- Runs a child, takes in what it says, and waits for its end. -/
def hearChild (body : Act Nat) : Act (Chars × Ending) := do
  let pipe ← newPipe
  let input ← openNew { channel := .source pipe }
  let output ← openNew { channel := .sink pipe }
  let aside := (← self).aside
  bracketed (fun p => { p with aside := input :: aside }) (fun _ p => { p with aside }) do
    let pid ← forkAs (fun p => { p with aside }) do
      connect 1 output
      body
    let s ← drainOf input
    awaitTail s
    return (s.content, ← awaitChild pid)

/-- Runs a child and waits for its end, which is told if a signal brought it. -/
def runChild (body : Act Nat) : Act Ending := do
  let e ← awaitEnd body
  report e
  return e

end Conformance.Host.Signal
