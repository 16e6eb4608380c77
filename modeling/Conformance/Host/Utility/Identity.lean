import Conformance.Host.Utility.Folders

/-!
# Who and where

Programs that tell the user, the system, and where programs stand.
-/
namespace Conformance.Host.Utility

/-- Runs a program that has no arguments but options. -/
def withoutOperands (t : OptionTable) (status : Nat) (body : Parsed → Program) : Program :=
  withOptions t status fun p =>
    match p.operands with
    | [] => body p
    | s :: _ => misuse (txt "extra operand " ++ cited s) status

/-! ## The user -/

/-- The names of the one user and the one group. -/
def userNames : List Chars := [txt "root", txt "0"]

def idOptions : OptionTable where
  letters := txt "aGgnruzZ"
  long := [(txt "group", 'g'), (txt "groups", 'G'), (txt "name", 'n'), (txt "real", 'r'),
    (txt "user", 'u'), (txt "zero", 'z'), (txt "context", 'Z')]

/-- Why the parts of an identity cannot be told. -/
def idFault? (p : Parsed) : Option String :=
  let kinds := (txt "ugG").filter p.has
  if p.has 'Z' then some "--context (-Z) works only on an SELinux-enabled kernel"
  else if 1 < kinds.length then some "cannot print \"only\" of more than one choice"
  else if kinds.isEmpty && (p.has 'n' || p.has 'r') then
    some "cannot print only names or real IDs in default format"
  else if kinds.isEmpty && p.has 'z' then some "option --zero not permitted in default format"
  else none

def identity : Program :=
  withOptions idOptions 1 fun p => do
    if let some message := idFault? p then
      problem message.toList
      return 1
    let told := if "ugG".toList.any p.has then txt (if p.has 'n' then "root" else "0")
      else txt "uid=0(root) gid=0(root) groups=0(root)"
    let line := told ++ [if p.has 'z' then '\x00' else '\n']
    eachName (fun user => do
      if user.isEmpty || userNames.contains user then
        emit line
        return true
      else refuse (cited user ++ txt ": no such user")) 0
      (if p.operands.isEmpty then [[]] else p.operands)

/-- The groups of users. -/
def groups : Program :=
  withOptions {} 1 fun p =>
    if p.operands.isEmpty then emitOnly (txt "root\n")
    else
      eachName (fun user => do
        if userNames.contains user then
          emit (user ++ txt " : root\n")
          return true
        else refuse (cited user ++ txt ": no such user")) 0 p.operands

def whoami : Program :=
  withoutOperands {} 1 fun _ => emitOnly (txt "root\n")

def logname : Program :=
  withoutOperands {} 1 fun _ => do
    problem (txt "no login name")
    return 1

/-- Tells the terminal of the input, which is none. -/
def tty : Program :=
  withoutOperands
    { letters := ['s'], long := [(txt "silent", 's'), (txt "quiet", 's')] } 2 fun p => do
    if !p.has 's' then emit (txt "not a tty\n")
    return 1

/-! ## The system -/

/-- What is known of the system, by the letters that ask for it, in the order in which it is
told. -/
def systemParts : List (Char × String) :=
  [('s', "Linux"), ('n', "localhost"), ('r', "6.1.0"), ('v', "#1 SMP"), ('m', "x86_64"),
    ('p', "x86_64"), ('i', "x86_64"), ('o', "GNU/Linux")]

def uname : Program :=
  withoutOperands
    { letters := txt "asnrvmpio"
      long := [(txt "all", 'a'), (txt "kernel-name", 's'), (txt "sysname", 's'),
        (txt "nodename", 'n'), (txt "kernel-release", 'r'), (txt "release", 'r'),
        (txt "kernel-version", 'v'), (txt "machine", 'm'), (txt "processor", 'p'),
        (txt "hardware-platform", 'i'), (txt "operating-system", 'o')] } 1 fun p =>
    let asked := systemParts.filter fun part =>
      p.has 'a' || p.has part.1 || (p.options.isEmpty && part.1 = 's')
    emitOnly (Chars.join [' '] (asked.map (·.2.toList)) ++ ['\n'])

def arch : Program :=
  withoutOperands {} 1 fun _ => emitOnly (txt "x86_64\n")

/-- How many processors there are. -/
def processors : Nat := 4

def nproc : Program :=
  withoutOperands { letters := ['A'], valued := ['I']
                    long := [(txt "all", 'A'), (txt "ignore", 'I')] } 1 fun p => do
    let left := (p.value? 'I').getD ['0']
    match Chars.nat? left with
    | some n => emitOnly (Chars.ofNat (max 1 (processors - n)) ++ ['\n'])
    | none =>
      problem (txt "invalid number: " ++ cited left)
      return 1

/-! ## Programs -/

/-- The paths at which a program of a name may be run. -/
def pathsOfProgram (v : FileView) (places name : Chars) : List Chars :=
  let candidates := if name.contains '/' then [name]
    else (Text.splitOn (· == ':') places).map fun place =>
      (if place.isEmpty then ['.'] else place) ++ '/' :: name
  candidates.filter fun path =>
    match v.attributes? .target (Chars.toPath path) with
    | .ok a => a.node ≠ .folder && a.mayRun
    | .error _ => false

/-- The letters of the options in front; the one that is none, if there is one. -/
def whichLetters (args : List Chars) : Chars × List Chars × Option Char :=
  let options := args.takeWhile fun a => 1 < a.length && a.head? = some '-' && a != txt "--"
  let letters := options.flatMap (·.drop 1)
  let rest := args.drop options.length
  (letters, if rest.head? = some (txt "--") then rest.drop 1 else rest,
    letters.find? fun c => c != 'a' && c != 's')

def which : Program := do
  let (letters, names, bad) := whichLetters (← self).args
  if let some c := bad then
    complain (txt "Illegal option -" ++ [c] ++ ['\n'])
    emit (txt "Usage: /usr/bin/which [-as] args\n")
    return 2
  let places := (← valueOf? (txt "PATH")).getD []
  let v ← view
  let found := names.map (pathsOfProgram v places)
  if !letters.contains 's' then
    emit (unlines (found.flatMap fun paths =>
      if letters.contains 'a' then paths else paths.take 1))
  return if names.isEmpty || found.any List.isEmpty then 1 else 0

end Conformance.Host.Utility
