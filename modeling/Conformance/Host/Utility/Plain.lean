import Conformance.Host.Utility.Lines

/-!
# Small programs

Programs that wait, tell where they are, or do nothing.
-/
namespace Conformance.Host.Utility

/-! ## Waiting -/

/-- The nanoseconds of a time with a unit; none for a time without end. -/
def interval? (s : Chars) : Option (Option Nat) :=
  let (number, unit) := match s.getLast? with
    | some 's' => (s.dropLast, 1)
    | some 'm' => (s.dropLast, 60)
    | some 'h' => (s.dropLast, 3600)
    | some 'd' => (s.dropLast, 86400)
    | _ => (s, 1)
  if s = txt "inf" || s = txt "infinity" then some none
  else
    match decimal? number with
    | some (n, places) =>
      if n < 0 || number.head? = some '-' then none
      else some (some (n.toNat * unit * nanosPerSecond / Nat.pow 10 places))
    | none => none

def sleep : Program :=
  withOptions {} 1 fun p => do
    match p.operands.find? fun s => (interval? s).isNone with
    | some bad => misuse (txt "invalid time interval " ++ cited bad)
    | none =>
      if p.operands.isEmpty then misuse (txt "missing operand")
      else
        let times := p.operands.filterMap interval?
        if times.any Option.isNone then waitForEver
        let now := (← self).now
        arrive (now + (times.filterMap id).foldl (· + ·) 0)
        return 0

/-! ## Others -/

/-- The path of the current folder. -/
def workingFolder : Act Chars := do
  let here := (← self).here
  return if here.isEmpty then ['/'] else here.flatMap fun n => '/' :: Chars.ofText n

def pwd : Program := do
  emitOnly ((← workingFolder) ++ ['\n'])

def succeed : Program :=
  return 0

def failWith (status : Nat) : Program :=
  return status

/-- The variables that a child is given, as assignments. -/
def exportedVariables (p : Process) : List (Chars × Chars) :=
  p.bindings.filterMap fun (name, v) => if v.exported then v.value.map (name, ·) else none

def printenv : Program := do
  let p ← self
  match p.args with
  | [] => emitOnly (unlines ((exportedVariables p).map fun (n, v) => n ++ '=' :: v))
  | names =>
    let values := names.map fun n => (exportedVariables p).lookup n
    emit (unlines (values.filterMap id))
    return if values.all Option.isSome then 0 else 1

end Conformance.Host.Utility
