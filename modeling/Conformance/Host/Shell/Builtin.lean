import Conformance.Host.ModeChange
import Conformance.Host.Shell.Expansion
import Conformance.Host.Shell.Flags
import Conformance.Host.Shell.Job
import Conformance.Host.Shell.Variable
import Conformance.Host.Utility.Condition
import Conformance.Host.Utility.Format
import Conformance.Host.Utility.Plain

/-!
# Commands of the shell itself

Commands that the shell carries out without starting a program, and that run no other commands.
A fault in a special one ends the shell. Among them are those for aliases, words that stand for
other texts where a command begins, and `read`, which takes a line of the input stream and parts it
into the values of variables.

The shell knows the current folder by the path that led there, in which links stand as they were
followed; a step upwards drops the last name of that path. Of each limit of a process there are two:
the one that holds, and the one up to which it may be raised.
-/
namespace Conformance.Host.Shell

/-! ## Aliases -/

/-- An alias, as the shell can read it again. -/
def shownAlias (a : Chars × Chars) : Chars :=
  a.1 ++ '=' :: singleQuoted a.2 ++ ['\n']

/-- Sets or shows what one argument names; whether there is such an alias. -/
def aliasArgument (a : Chars) : Act Bool := do
  let aliases := (← self).aliases
  match splitAssignment a with
  | (name@(_ :: _), some value) =>
    let new := if (aliases.lookup name).isSome
      then aliases.map fun (n, v) => if n = name then (n, value) else (n, v)
      else aliases ++ [(name, value)]
    modifySelf fun p => { p with aliases := new }
    return true
  | _ =>
    match aliases.lookup a with
    | some value =>
      emit (shownAlias (a, value))
      return true
    | none =>
      complain (txt "alias: " ++ a ++ txt " not found\n")
      return false

/-- Runs `body` on arguments; 1 if it did not do what it was to do with all of them. -/
def eachArgument (body : Chars → Act Bool) : (status : Nat) → List Chars → Act Nat
  | status, [] => return status
  | status, a :: more => do
    eachArgument body (if ← body a then status else 1) more

def aliasBuiltin (args : List Chars) : Act Nat := do
  if args.isEmpty then
    let all := (← self).aliases.mergeSort fun a b =>
      tableOrder variableTable a.1 ≤ tableOrder variableTable b.1
    emit (all.flatMap shownAlias)
    return 0
  eachArgument aliasArgument 0 args

def unaliasBuiltin (args : List Chars) : Act Nat := do
  let (options, names) ← takeOptions ['a'] [] args
  if !options.isEmpty then
    modifySelf fun p => { p with aliases := [] }
    return 0
  eachArgument (fun a => do
    let known := ((← self).aliases.lookup a).isSome
    if !known then complain (txt "unalias: " ++ a ++ txt " not found\n")
    modifySelf fun p => { p with aliases := p.aliases.filter (·.1 != a) }
    return known) 0 names

/-! ## Lines that are read -/

/-- The characters of a line, with those that a backslash protects, and the number of characters
read; whether the line was ended. -/
def readLine (raw : Bool) : Chars → List Glyph × Nat × Bool
  | [] => ([], 0, false)
  | '\n' :: _ => ([], 1, true)
  | '\\' :: c :: s =>
    let (rest, n, ended) := readLine raw (if raw then c :: s else s)
    if raw then (⟨'\\', false⟩ :: rest, n + 1, ended)
    else if c = '\n' then (rest, n + 2, ended)
    else (⟨c, true⟩ :: rest, n + 2, ended)
  | c :: s =>
    let (rest, n, ended) := readLine raw s
    (⟨c, false⟩ :: rest, n + 1, ended)
termination_by s => s.length
decreasing_by all_goals grind

def parts (separators : Chars) (g : Glyph) : Bool :=
  !g.quoted && separators.contains g.char

def partsAsBlank (separators : Chars) (g : Glyph) : Bool :=
  parts separators g && " \t\n".toList.contains g.char

/-- The values of variables from a line; the last one takes all that is left. -/
def readFields (separators : Chars) : (names : List Chars) → List Glyph → List (Chars × Chars)
  | [], _ => []
  | [name], gs =>
    let isEdge := partsAsBlank separators
    let trimmed := (gs.dropWhile isEdge).reverse.dropWhile isEdge
    let ended := match trimmed with
      | g :: rest =>
        if parts separators g && !rest.any (parts separators) then
          rest.dropWhile (partsAsBlank separators)
        else trimmed
      | [] => []
    [(name, spelled ended.reverse)]
  | name :: names, gs =>
    let s := gs.dropWhile (partsAsBlank separators)
    let field := s.takeWhile (! parts separators ·)
    let rest := (s.drop field.length).dropWhile (partsAsBlank separators)
    let rest' := match rest with
      | g :: more => if parts separators g then more.dropWhile (partsAsBlank separators) else rest
      | [] => []
    (name, spelled field) :: readFields separators names rest'

def readBuiltin (args : List Chars) : Act Nat := do
  let (options, names) ← takeOptions ['r'] ['p'] args
  if names.isEmpty then shellFault (txt "arg count")
  let raw := options.any (·.1 == 'r')
  let lineEnd? (s : Chars) : Option Nat :=
    let (_, n, ended) := readLine raw s
    if ended then some n else none
  let (line, ended) ← do
    let supply ← takeFrom 0 lineEnd?
    let supply := if supply.isEndless then supply.unroll 1 else supply
    let (line, n, ended) := readLine raw supply.content
    let rest := (supply.split n).2
    giveBack 0 rest
    if !ended then awaitTail rest
    pure (line, ended)
  let shown := line.filter (·.char != '\x00')
  (readFields (← separators) names shown).forM fun (name, value) => assignVariable name value
  return if ended then 0 else 1

/-! ## The folder -/

open Utility

/-- One step from a path whose names are given in reverse. -/
def folderStep (names : List Chars) (name : Chars) : List Chars :=
  if name.isEmpty || name = ['.'] then names
  else if name = txt ".." then names.drop 1
  else name :: names

/-- The path that `target` leads to from the folder at the path `folder`. -/
def pathFrom (folder target : Chars) : Chars :=
  let base := if target.head? = some '/' then target else folder ++ '/' :: target
  let names := ((Text.splitOn (· == '/') base).foldl folderStep []).reverse
  let start := match base with
    | '/' :: '/' :: rest => if rest.head? = some '/' then ['/'] else txt "//"
    | _ => ['/']
  start ++ Chars.join ['/'] names

/-- Goes to a folder, which is known by its path as it is written, or as it is if `physical` is set;
whether that was possible. -/
def goTo (physical : Bool) (target : Chars) : Act Bool := do
  let old := (← self).folder
  let path := pathFrom old target
  match (← files).find .target (Chars.toPath (if physical then target else path)) with
  | .ok (.taken loc .folder) =>
    modifySelf fun p => { p with here := loc }
    let now ← if physical then workingFolder else pure path
    modifySelf fun p => { p with folder := now }
    put (txt "OLDPWD") old
    put (txt "PWD") now
    return true
  | _ => return false
where
  put (name value : Chars) : Act Unit := do
    assignVariable name value
    changeVariable name fun v => { v with exported := true }

/-- Where a folder may be looked for in the places of `CDPATH`: not by a path that says itself where
it begins. -/
def isLookedFor (target : Chars) : Bool :=
  let first := target.takeWhile (· != '/')
  !(target.head? = some '/' || first = ['.'] || first = txt "..")

/-- The first folder of a name in some places, and whether it is to be shown. -/
def findFolder (t : FileTree) (target : Chars) : List Chars → Option (Chars × Bool)
  | [] => none
  | place :: places =>
    let path := if place.isEmpty then target else place ++ '/' :: target
    if t.isFolder (Chars.toPath path) then some (path, !place.isEmpty)
    else findFolder t target places

/-- `cd`: goes to a folder. -/
def cdBuiltin (args : List Chars) : Act Nat := do
  let (options, operands) ← takeOptions (txt "LP") [] args
  let physical := (options.getLast?.map (·.1)) = some 'P'
  let value (name : String) : Act Chars := do return (← valueOf? name.toList).getD []
  let (target, shows) ← match operands with
    | [] => pure (← value "HOME", false)
    | ['-'] :: _ => pure (← value "OLDPWD", true)
    | d :: _ => pure (d, false)
  let target' := if target.isEmpty then ['.'] else target
  let places ← if isLookedFor target then do
      pure ((← valueOf? (txt "CDPATH")).map (Text.splitOn (· == ':')))
    else pure none
  let (path, fromPlace) :=
    match places.bind (findFolder (← files) target') with
    | some found => found
    | none => (target', false)
  if !(← goTo physical path) then shellFault (txt "can't cd to " ++ target)
  if shows || fromPlace then emit ((← self).folder ++ ['\n'])
  return 0

/-- `pwd`: shows the current folder. -/
def pwdBuiltin (args : List Chars) : Act Nat := do
  let (options, _) ← takeOptions (txt "LP") [] args
  let physical := (options.getLast?.map (·.1)) = some 'P'
  let folder ← if physical then workingFolder else pure (← self).folder
  emitOnly (folder ++ ['\n'])

/-- Takes up the current folder when the shell starts: a variable may know by which path it was
reached. -/
def takeUpFolder : Act Unit := do
  let p ← self
  let t ← files
  let leadsHere (s : Chars) : Bool :=
    s.head? = some '/' &&
      match t.find .target (Chars.toPath s) with
      | .ok (.taken loc _) => loc == p.here
      | _ => false
  let folder ← match ((p.bindings.lookup (txt "PWD")).bind (·.value)).filter leadsHere with
    | some s => pure s
    | none => workingFolder
  modifySelf fun p => { p with folder }
  setVariable (txt "PWD") folder
  changeVariable (txt "PWD") fun v => { v with exported := true }

/-! ## Permissions -/

/-- What a mask leaves, in letters. -/
def maskLetters (mask : Nat) : Chars :=
  let part (who : Char) (n : Nat) : Chars :=
    who :: '=' :: (if n.testBit 2 then [] else ['r']) ++ (if n.testBit 1 then [] else ['w']) ++
      (if n.testBit 0 then [] else ['x'])
  Chars.join [','] [part 'u' (mask / 64), part 'g' (mask / 8), part 'o' mask]

/-- `umask`: tells or changes what new files are not permitted. -/
def umaskBuiltin (args : List Chars) : Act Nat := do
  let (options, operands) ← takeOptions ['S'] [] args
  let mask := (← self).mask
  match operands with
  | [] =>
    let digits := Chars.digits 8 mask
    emit ((if options.isEmpty then List.replicate (4 - digits.length) '0' ++ digits
      else maskLetters mask) ++ ['\n'])
    return 0
  | s :: _ =>
    if (s.head?.map Char.isDigit).getD false then
      if !s.all fun c => '0' ≤ c && c ≤ '7' then shellFault (txt "Illegal number: " ++ s)
      modifySelf fun p =>
        { p with mask := s.foldl (fun n c => 8 * n + (c.toNat - '0'.toNat)) 0 % 0o1000 }
    else if !s.isEmpty then
      match ModeChange.read? s with
      | some change =>
        modifySelf fun p => { p with mask := 0o777 - change.apply true 0 (0o777 - p.mask) % 0o1000 }
      | none => shellFault (txt "Illegal mode: " ++ s)
    return 0

/-! ## Amounts -/

/-- A limit: its letter, what it is of, in how large units it is given, and its two values at the
start of a shell, of which none stands for no limit. -/
structure Limit where
  letter : Char
  name : String
  unit : Nat := 1
  soft : Option Nat := none
  hard : Option Nat := none

def limits : List Limit :=
  [{ letter := 't', name := "time(seconds)" },
    { letter := 'f', name := "file(blocks)", unit := 512 },
    { letter := 'd', name := "data(kbytes)", unit := 1024 },
    { letter := 's', name := "stack(kbytes)", unit := 1024, soft := some 8192 },
    { letter := 'c', name := "coredump(blocks)", unit := 512, soft := some 0 },
    { letter := 'm', name := "memory(kbytes)", unit := 1024 },
    { letter := 'l', name := "locked memory(kbytes)", unit := 1024, soft := some 8192,
      hard := some 8192 },
    { letter := 'p', name := "process", soft := some 128604, hard := some 128604 },
    { letter := 'n', name := "nofiles", soft := some 20000, hard := some 20000 },
    { letter := 'v', name := "vmemory(kbytes)", unit := 1024 },
    { letter := 'w', name := "locks" },
    { letter := 'r', name := "rtprio", soft := some 0, hard := some 0 }]

/-- The values of a limit by now: the one that holds, and the one for it. -/
def Limit.now (l : Limit) : Act (Option Nat × Option Nat) := do
  return ((← self).limits.lookup l.letter).getD (l.soft, l.hard)

def shownLimit : Option Nat → Chars
  | none => txt "unlimited"
  | some n => Chars.ofNat n

/-- Whether one limit is no higher than another. -/
def limitLe : Option Nat → Option Nat → Bool
  | _, none => true
  | none, some _ => false
  | some m, some n => m ≤ n

/-- Sets a limit. Nothing may hold that is higher than the limit for it. -/
def Limit.set (l : Limit) (hard soft : Bool) (value : Option Nat) : Act Unit := do
  let (oldSoft, oldHard) ← l.now
  let newHard := if hard then value else oldHard
  let newSoft := if soft then value else oldSoft
  if !limitLe newSoft newHard then
    shellFault (txt "error setting limit (Invalid argument)")
  if !limitLe newHard oldHard then
    shellFault (txt "error setting limit (Operation not permitted)")
  modifySelf fun p =>
    { p with limits := (l.letter, newSoft, newHard) :: p.limits.filter (·.1 != l.letter) }

/-- `ulimit`: tells or sets limits. -/
def ulimitBuiltin (args : List Chars) : Act Nat := do
  let (options, operands) ← takeOptions (txt "HSatfdscmlpnvwr") [] args
  let ways := options.filter fun o => o.1 = 'H' || o.1 = 'S'
  let way := ways.getLast?.map (·.1)
  let hard := way != some 'S'
  let soft := way != some 'H'
  let all := options.any (·.1 == 'a')
  let kinds := options.filter fun o => !"HSa".toList.contains o.1
  let letter := (kinds.getLast?.map (·.1)).getD 'f'
  let limit := (limits.find? (·.letter = letter)).getD { letter, name := "" }
  match operands with
  | [] =>
    let shown (l : Limit) : Act Chars := do
      let (s, h) ← l.now
      return shownLimit (if soft then s else h)
    if all then
      limits.forM fun l => do
        let gap := List.replicate (20 - l.name.length) ' '
        emit (l.name.toList ++ gap ++ ' ' :: (← shown l) ++ ['\n'])
    else emit ((← shown limit) ++ ['\n'])
    return 0
  | s :: more =>
    if all || !more.isEmpty then shellFault (txt "too many arguments")
    if s = txt "unlimited" then limit.set hard soft none
    else
      match Chars.nat? s with
      | some n => limit.set hard soft (some n)
      | none => shellFault (txt "bad number")
    return 0

/-! ## What they are -/

structure Builtin where
  special : Bool := false
  /-- Its arguments may be assignments, whose values are not parted into fields. -/
  assigns : Bool := false
  run : List Chars → Act Nat

/-! ## Output -/

/-- The rules of the shell's own `echo` and `printf`. -/
def shellDialect : Dialect where
  hexEscapes := false
  stopInFormat := false
  warnsOfExcess := false
  extended := false
  shown s := s
  noNumber := "expected numeric value"
  badDirective s := s ++ txt ": invalid directive"
  openDirective _ := txt "missing format character"
  complaint := shellProblem
  output := emitOnly

def echoBuiltin (args : List Chars) : Act Nat := do
  let (newline, words) := match args with
    | ['-', 'n'] :: rest => (false, rest)
    | _ => (true, args)
  let text := Chars.join [' '] words
  let (shown, stopped) := unescape shellDialect (text.length + 1) text
  emitOnly (shown ++ if newline && !stopped then ['\n'] else [])

def printfBuiltin (args : List Chars) : Act Nat := do
  match (← takeOptions [] [] args).2 with
  | format :: rest => printf shellDialect format rest
  | [] => shellFault (txt "usage: printf format [arg ...]")

/-- `times`: how long the shell and its children have worked. -/
def timesBuiltin (_ : List Chars) : Act Nat :=
  emitOnly (txt "0m0.000000s 0m0.000000s\n0m0.000000s 0m0.000000s\n")

/-! ## Leaving -/

/-- The status that an argument gives, or the last one. -/
def statusArgument (args : List Chars) : Act Nat := do
  match args with
  | [] => return (← self).status
  | s :: _ => numberArgument s

def exitBuiltin (args : List Chars) : Act Nat := do
  exitWith (.code ((← statusArgument args) % 256))

def returnBuiltin (args : List Chars) : Act Nat := do
  throw (.returned (← statusArgument args))

/-- `break` and `continue`, which leave as many loops as asked for and as there are. -/
def loopBuiltin (leave : Nat → Leave) (args : List Chars) : Act Nat := do
  let levels ← match args with
    | [] => pure 1
    | s :: _ => numberArgument s
  if levels = 0 then shellFault (txt "Illegal number: " ++ args.head?.getD [])
  let loops := (← self).loops
  if loops = 0 then return 0
  throw (leave (min levels loops))

/-! ## All of them -/

def succeedBuiltin (_ : List Chars) : Act Nat :=
  return 0

/-- The commands in which a fault ends the shell. -/
def specialBuiltins : List (String × (List Chars → Act Nat)) :=
  [(":", succeedBuiltin), ("break", loopBuiltin .leaveLoop), ("continue", loopBuiltin .nextRound),
    ("exit", exitBuiltin), ("return", returnBuiltin), ("set", setBuiltin),
    ("shift", shiftBuiltin), ("times", timesBuiltin), ("trap", trapBuiltin),
    ("unset", unsetBuiltin)]

def regularBuiltins : List (String × (List Chars → Act Nat)) :=
  [("[", testWith shellProblem true), ("bg", moveBuiltin), ("cd", cdBuiltin), ("chdir", cdBuiltin),
    ("echo", echoBuiltin), ("false", fun _ => return 1), ("fg", moveBuiltin),
    ("getopts", getoptsBuiltin), ("jobs", jobsBuiltin), ("kill", killBuiltin),
    ("printf", printfBuiltin), ("pwd", pwdBuiltin), ("read", readBuiltin),
    ("test", testWith shellProblem false), ("true", succeedBuiltin), ("ulimit", ulimitBuiltin),
    ("umask", umaskBuiltin), ("unalias", unaliasBuiltin), ("wait", waitBuiltin)]

def exportBuiltin : List Chars → Act Nat :=
  markBuiltin "export" (fun v => { v with exported := true }) (·.exported)

def readonlyBuiltin : List Chars → Act Nat :=
  markBuiltin "readonly" (fun v => { v with readOnly := true }) (·.readOnly)

def builtins : List (String × Builtin) :=
  [("alias", { assigns := true, run := aliasBuiltin }),
    ("export", { special := true, assigns := true, run := exportBuiltin }),
    ("local", { special := true, assigns := true, run := localBuiltin }),
    ("readonly", { special := true, assigns := true, run := readonlyBuiltin })] ++
    specialBuiltins.map (fun (name, run) => (name, { special := true, run })) ++
    regularBuiltins.map fun (name, run) => (name, { run := run })

end Conformance.Host.Shell
