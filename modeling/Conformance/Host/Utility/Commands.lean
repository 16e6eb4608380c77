import Conformance.Host.Shell.Running
import Conformance.Host.Utility.Copies
import Conformance.Host.Utility.Plain

/-!
# Programs that run others

`timeout` runs a command for some time only, and others run it in ways that do not change what it
does.
-/
namespace Conformance.Host.Utility

open Shell

/-- Goes on with the program of a name; says of what is `shown` why there is none otherwise. -/
def withProgram (name shown : Chars) (body : Launch → Program) : Program := do
  let places := (← valueOf? (txt "PATH")).getD defaultPlaces
  match ← findAlong (some places) name with
  | .runnable launch _ => body launch
  | .missing =>
    problem (shown ++ txt ": " ++ FileError.missing.words.toList)
    return 127
  | .refused reason =>
    problem (shown ++ txt ": " ++ reason.toList)
    return 126

/-- Goes on with a command that a program was given. -/
def withCommand (start : Start) (shown : Chars → Chars) (words : List Chars) : Program :=
  let name := words.head?.getD []
  withProgram name (shown name) (startAs start words)

/-! ## Surroundings -/

/-- Goes to a folder; why that is not possible otherwise. -/
def enter (name : Chars) : Act (Option String) := do
  match (← files).find .target (Chars.toPath name) with
  | .ok (.taken loc .folder) =>
    modifySelf fun p => { p with here := loc }
    return none
  | .ok (.taken _ _) => return some FileError.notFolder.words
  | .ok (.free _) => return some FileError.missing.words
  | .error e => return some e.words

/-- Runs a command that lets others go first, or tells how far this one does. -/
def nice (start : Start) : Program := do
  modifySelf fun q =>
    { q with args := match q.args with
        | ('-' :: s) :: more => if Chars.isDigits s then (txt "-n" ++ s) :: more else q.args
        | args => args }
  withOptions { valued := ['n'], long := [(txt "adjustment", 'n')], leading := true } 125
    fun p => do
    match (p.value? 'n').map fun s => (s, Chars.int? s), p.operands with
    | some (s, none), _ =>
      problem (txt "invalid adjustment " ++ cited s)
      return 125
    | some _, [] => misuse (txt "a command must be given with an adjustment") 125
    | none, [] => emitOnly (txt "0\n")
    | _, words => withCommand start cited words

/-- Runs a command that goes on when the terminal is left. -/
def nohup (start : Start) : Program :=
  withOptions { leading := true } 125 fun p =>
    match p.operands with
    | [] => misuse (txt "missing operand") 125
    | words => do
      modifySelf fun q => { q with traps := (1, []) :: q.traps.filter (·.1 != 1) }
      withCommand start (fun name => txt "failed to run command " ++ quoted name) words

/-- Runs a command in a session of its own. -/
def setsid (start : Start) : Program :=
  withOptions
    { letters := txt "cfw", long := [(txt "ctty", 'c'), (txt "fork", 'f'), (txt "wait", 'w')]
      leading := true } 1 fun p =>
    match p.operands with
    | [] => misuse (txt "no command specified")
    | words => do
      let body : Program := do
        modifySelf fun q => { q with leader := q.pid }
        withCommand start (txt "failed to execute " ++ ·) words
      let q ← self
      if p.has 'f' || q.leader = q.pid then
        let pid ← fork body
        if p.has 'w' then return (← Signal.awaitChild pid).status else return 0
      else body

/-- Why there is no such buffer. -/
def bufferFault? (p : Parsed) : Option (Chars × Bool) :=
  p.options.findSome? fun (c, mode) =>
    if c = 'i' && mode = ['L'] then some (txt "line buffering stdin is meaningless", true)
    else if mode = ['L'] || (count? mode).isSome then none
    else some (txt "invalid mode " ++ cited mode, false)

/-- Runs a command with other buffers, which does not change what it does. -/
def stdbuf (start : Start) : Program :=
  withOptions
    { valued := txt "ioe"
      long := [(txt "input", 'i'), (txt "output", 'o'), (txt "error", 'e')], leading := true } 125
    fun p =>
    match bufferFault? p, p.operands with
    | some (message, true), _ => misuse message 125
    | some (message, false), _ => do
      problem message
      return 125
    | none, [] => misuse (txt "missing operand") 125
    | none, words =>
      if p.options.isEmpty then misuse (txt "you must specify a buffering mode option") 125
      else withCommand start (fun name => txt "failed to run command " ++ cited name) words

/-! ## Limited time -/

def timeoutOptions : OptionTable where
  letters := txt "vpf"
  valued := txt "sk"
  long := [(txt "signal", 's'), (txt "kill-after", 'k'), (txt "preserve-status", 'p'),
    (txt "foreground", 'f'), (txt "verbose", 'v')]
  leading := true

/-- How a command is watched that has only some time. -/
structure TimeLimit where
  name : Chars
  child : Nat
  /-- The command stays in the group of the processes around it. -/
  foreground : Bool
  /-- The status of the command is told even if it was stopped. -/
  keepsStatus : Bool
  tells : Bool

namespace TimeLimit

/-- Sends a signal to the command and to all that it began. -/
def strike (l : TimeLimit) (signal : Nat) : Act Unit := do
  if l.tells then
    problem (txt "sending signal " ++ ((Signal.name? signal).getD "").toList ++
      txt " to command " ++ cited l.name)
  let own := (← self).pid
  let isMeant (q : Process) : Bool :=
    q.pid == l.child || !l.foreground && q.leader == own && q.pid != own
  ((← processes).filter isMeant).forM fun q => do
    Signal.send q signal
    if signal ≠ 9 && signal ≠ 18 then Signal.send q 18
  if signal = 9 && !l.foreground then exitWith (.signal 9)

/-- What is left at the end of the command. -/
def finish (l : TimeLimit) (isStopped : Bool) : Ending → Program
  | .code n => return if isStopped && !l.keepsStatus then 124 else n
  | .signal n => do
    if !isStopped then exitWith (.signal n)
    return if l.keepsStatus || n = 9 then 128 + n else 124

/-- Watches the command up to its end. Signals are passed on to it, and others are sent at the
moments of a plan. -/
def watch (l : TimeLimit) : (fuel : Nat) → (isStopped : Bool) → (plan : List (Instant × Nat)) →
    Program
  | 0, _, _ => waitForEver
  | fuel + 1, isStopped, plan => do
    await
      { event := .ended [l.child]
        till := (plan.head?.map (·.1)).getD never
        interruptible := true }
    match (← world).endingOf? l.child, ← signalDue? with
    | some e, _ => l.finish isStopped e
    | none, some n =>
      let own := (← self).pid
      modifyWorld fun w => { w with signals := w.signals.filter (·.receiver != own) }
      l.strike n
      watch l fuel isStopped plan
    | none, none =>
      match plan with
      | [] => watch l fuel isStopped []
      | (_, n) :: plan =>
        l.strike n
        watch l fuel true plan

end TimeLimit

/-- The signals that are passed on to a command that is watched. -/
def passedSignals : List Nat :=
  [1, 2, 3, 15]

/-- Runs a command, which is stopped after some time. -/
def timeout (start : Start) : Program :=
  withOptions timeoutOptions 125 fun p => do
    let given := (p.value? 's').getD (txt "TERM")
    let bare := if (txt "SIG").isPrefixOf given then given.drop 3 else given
    match Signal.number? bare, (p.value? 'k').map fun s => (s, interval? s), p.operands with
    | none, _, _ => misuse (cited given ++ txt ": invalid signal") 125
    | _, some (s, none), _ => misuse (txt "invalid time interval " ++ cited s) 125
    | some signal, last, time :: words@(name :: _) =>
      match interval? time with
      | none => misuse (txt "invalid time interval " ++ cited time) 125
      | some limit =>
        withProgram name (txt "failed to run command " ++ cited name) fun launch => do
          if !p.has 'f' then modifySelf fun q => { q with leader := q.pid }
          let child ← fork (startAs start words launch)
          modifySelf fun q =>
            let own := passedSignals.filter fun n => (q.traps.lookup n).isNone
            { q with traps := own.map (·, name) ++ q.traps }
          let moment (limit : Option Nat) (since : Instant) : Option Instant :=
            (limit.filter (0 < ·)).map (since + ·)
          let first := moment limit (← self).now
          let second := (last.bind (·.2)).bind fun k => first.bind (moment k)
          let l : TimeLimit :=
            { name, child, foreground := p.has 'f', keepsStatus := p.has 'p', tells := p.has 'v' }
          l.watch maxArrivals false
            ((first.map (·, signal)).toList ++ (second.map (·, 9)).toList)
    | _, _, _ =>
      complain (txt "Try '" ++ (← self).name ++ txt " --help' for more information.
")
      return 125

end Conformance.Host.Utility
