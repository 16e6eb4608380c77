import Conformance.Host.Shell.Builtin
import Conformance.Host.Shell.Grammar

/-!
# Running scripts

`step` runs one command and takes the runner of the commands inside it as an argument. Programs are
started through `Start`, which runs what is installed under a name.
-/
namespace Conformance.Host.Shell

open Utility

abbrev Runner := Command → Act Nat

/-- Runs an installed program in the place of the process. -/
abbrev Start := String → Act Nat

/-- Runs something after which the process goes on. -/
def notLast {α : Type} (body : Act α) : Act α :=
  bracketed (fun p => { p with last := false }) (fun before p => { p with last := before.last })
    body

/-- Runs something whose failure is looked at. -/
def guarded {α : Type} (body : Act α) : Act α :=
  bracketed (fun p => { p with guarded := true, last := false })
    (fun before p => { p with guarded := before.guarded, last := before.last }) body

/-- Runs commands one after another. -/
def runAll (run : Runner) : List Command → Act Nat
  | [] => return 0
  | [c] => run c
  | c :: cs => do
    let _ ← notLast (run c)
    runAll run cs

def setStatus (status : Nat) : Act Nat := do
  modifySelf fun p => { p with status }
  return status

/-- Leaves the shell after a failure, if it was told so. -/
def checkFailure (status : Nat) : Act Nat := do
  let p ← self
  if status ≠ 0 && p.flags.contains 'e' && !p.guarded then
    modifySelf fun p => { p with status }
    exitWith (.code status)
  return status

/-! ## Texts of scripts -/

/-- Runs the lines of a script, which `shown` shows as they are read. A line that cannot be read
ends the shell. -/
def runLines (run : Runner) (shown : Bool) : (fuel : Nat) → Reader → (status : Nat) → Act Nat
  | 0, _, status => return status
  | fuel + 1, r, status => do
    let p ← self
    let echoes := shown && p.flags.contains 'v'
    match nextLine.run { r with aliases := p.aliases } with
    | .error fault =>
      if echoes then complain r.rest
      modifySelf fun p => { p with line := fault.line }
      shellFault fault.reason
    | .ok (none, _) =>
      if echoes then complain r.rest
      return status
    | .ok (some cs, r') =>
      if echoes then complain (r.rest.take (r.rest.length - r'.rest.length))
      modifySelf fun p => { p with documents := r'.documents ++ p.documents }
      let status' ← if cs.isEmpty then pure status else runAll run cs
      runLines run shown fuel { r' with documents := [] } status'

/-- Runs the text of a script. -/
def runText (run : Runner) (text : Chars) (shown : Bool := false) : Act Nat := do
  let p ← self
  let next := (p.documents.map (·.1 + 1)).foldl max 0
  notLast (runLines run shown (text.length + 1) { rest := text, next } 0)

/-! ## Signals -/

/-- Meets the signals that were sent to the process. -/
def meetSignals (run : Runner) : Act Unit := do
  let p ← self
  let mine := (← world).signals.filter (·.receiver = p.pid)
  if mine.isEmpty then return
  if let some s := mine.find? fun s => Signal.isFatal p s.number then exitWith (.signal s.number)
  if mine.any fun s => Signal.isHalting p s.number then await { till := p.now }
  let others (s : Sent) : Bool := s.receiver ≠ p.pid || Signal.isHalting p s.number
  modifyWorld fun w => { w with signals := w.signals.filter others }
  mine.forM fun s => do
    let action := ((← self).traps.lookup s.number).getD []
    if !action.isEmpty then
      let status := (← self).status
      let _ ← runText run action
      let _ ← setStatus status

/-- Runs a shell to its end, and then what it does at its end. -/
def toEnd (run : Runner) (body : Act Nat) : Act Nat := do
  let outcome ← attempt body
  let status ← match outcome with
    | .ok n | .error (.returned n) => pure n
    | .error (.exit (.code n)) => pure n
    | .error (.exit e) => exitWith e
    | .error .fault => pure 2
    | .error (.leaveLoop _) | .error (.nextRound _) => pure (← self).status
  match (← self).traps.lookup 0 with
  | none | some [] => return status
  | some action =>
    modifySelf fun p => { p with traps := p.traps.filter (·.1 != 0), status }
    match ← attempt (runText run action) with
    | .error (.exit e) => exitWith e
    | _ => return status

/-! ## Redirections -/

/-- Why a file could not be opened, as the shell says it. -/
def openReason (creating : Bool) (reason : String) : Chars :=
  if reason = FileError.missing.words || reason = FileError.notFolder.words then
    txt (if creating then "Directory nonexistent" else "No such file")
  else reason.toList

/-- Carries out a redirection; why that was not possible, if it was not. -/
def redirect (run : Runner) : Redirect → Act (Option Chars)
  | .document target number => do
    let word := ((← self).documents.lookup number).getD []
    let content ← expandDocument (runAll run) word
    let pipe ← newPipe
    modifyPipe pipe (·.write content)
    connect target (← openNew { channel := .source pipe })
    return none
  | .file target direction word => do
    let name ← expandText (runAll run) word
    let cannot (what : String) (reason : Chars) : Option Chars :=
      some (txt ("cannot " ++ what ++ " ") ++ name ++ txt ": " ++ reason)
    let connected (n : Nat) : Act (Option Chars) := do
      connect target n
      return none
    match direction with
    | .input =>
      match ← openToRead name with
      | .ok n => connected n
      | .error e => return cannot "open" (openReason false e)
    | .output | .clobber | .append =>
      let kept ← do
        match (← files).find .target (Chars.toPath name) with
        | .ok (.taken _ (.file _ _)) =>
          pure (direction == .output && (← self).flags.contains 'C')
        | _ => pure false
      if kept then return cannot "create" FileError.present.words.toList
      match ← openToWrite name (direction == .append) with
      | .ok n => connected n
      | .error e => return cannot "create" (openReason true e)
    | .both =>
      match ← openFor .both name with
      | .ok n => connected n
      | .error e => return cannot "create" (openReason true e)
    | .copy =>
      if name = ['-'] then
        close target
        return none
      else
        match Chars.nat? name with
        | none => return some (txt "Bad fd number")
        | some fd =>
          match ← opened? fd with
          | some (n, _) => connected n
          | none => return some (name ++ txt ": Bad file descriptor")

/-- Carries out redirections up to the first that fails. -/
def redirectAll (run : Runner) : List Redirect → Act (Option Chars)
  | [] => return none
  | r :: rs => do
    match ← redirect run r with
    | some message => return some message
    | none => redirectAll run rs

/-- Runs something with redirections that end with it; `failed` is done if they fail. -/
def redirecting (run : Runner) (rs : List Redirect) (failed : Act Nat) (body : Act Nat) :
    Act Nat := do
  let body' : Act (Except Chars Nat) := do
    match ← redirectAll run rs with
    | some message => return .error message
    | none => return .ok (← notLast body)
  match ← keepingDescriptors body' with
  | .error message => shellProblem message; failed
  | .ok n => return n

/-- Runs something with redirections that stay. -/
def redirected (run : Runner) (rs : List Redirect) (body : Act Nat) : Act Nat := do
  match ← redirectAll run rs with
  | some message => shellFault message
  | none => body

/-! ## Programs -/

/-- What a name leads to when it is to be run. -/
inductive Found
  | runnable (launch : Launch) (path : Chars)
  | missing
  | refused (reason : String)

/-- The shell as the interpreter of files that name none. -/
def shellPath : Path := ⟨"/bin/sh"⟩

def foundAt (t : FileTree) (path : Chars) : Found :=
  match t.launch (Chars.toPath path) with
  | .ok launch => .runnable launch path
  | .error .missing | .error .notFolder => .missing
  | .error .notProgram =>
    match t.launch shellPath with
    | .ok shell =>
      .runnable { shell with lead := [Text.encode shellPath.text, Chars.toBytes path] } path
    | .error e => .refused e.words
  | .error e => .refused e.words

/-- Looks for a program in one place after another. -/
def foundIn (t : FileTree) (name : Chars) : List Chars → Found
  | [] => .missing
  | place :: places =>
    match foundAt t ((if place.isEmpty then ['.'] else place) ++ '/' :: name) with
    | .missing => foundIn t name places
    | .refused reason =>
      match foundIn t name places with
      | .runnable launch path => .runnable launch path
      | _ => .refused reason
    | found => found

/-- Looks for a program in the places of a list, unless its name is a path. -/
def findAlong (places : Option Chars) (name : Chars) : Act Found := do
  let t ← files
  if name.isEmpty then return .missing
  else if name.contains '/' then return foundAt t name
  else
    match places with
    | none => return .missing
    | some places => return foundIn t name (Text.splitOn (· == ':') places)

def findProgram (name : Chars) : Act Found := do
  findAlong (← valueOf? (txt "PATH")) name

/-- Keeps in mind where a program was found that was looked for by name. -/
def remember (name path : Chars) : Act Unit :=
  modifySelf fun p =>
    if name.contains '/' || (p.found.lookup name).isSome then p
    else { p with found := p.found ++ [(name, path)] }

/-- Runs a program in the place of the process, under the words that it gets. -/
def startAs (start : Start) (words : List Chars) (launch : Launch) : Act Nat := do
  let words := launch.words Chars.ofBytes words
  modifySelf fun p =>
    { p with
      name := words.head?.getD []
      args := words.drop 1
      aside := []
      traps := p.traps.filter (·.2.isEmpty) }
  start launch.program

/-- Runs the shell on a command, under a name. -/
def runCommand (start : Start) (name command : Chars) : Act Nat := do
  match (← files).launch shellPath with
  | .error _ => return 127
  | .ok launch => startAs start [name, txt "-c", command] launch

/-- The variables of a shell as a program gets them. -/
def givenByShell (p : Process) : Process :=
  { p with bindings := inTableOrder (p.bindings.filter (·.2.exported)) }

/-- Runs the program of a name, which is looked for in some places, in the place of the process.
`known` tells that it was looked for before. -/
def execute (start : Start) (known : Bool) (places : Option Chars) (words : List Chars) :
    Act Nat := do
  let name := words.head?.getD []
  match ← findAlong places name with
  | .missing =>
    shellProblem (name ++ txt ": not found")
    exitWith (.code 127)
  | .refused reason =>
    shellProblem (name ++ txt ": " ++ reason.toList)
    exitWith (.code (if known && !name.contains '/' then 127 else 126))
  | .runnable launch _ =>
    modifySelf givenByShell
    startAs start words launch

/-- A variable with the value and marks that it had before. -/
def putBack (name : Chars) (old : Option Variable) (vars : List (Chars × Variable)) :
    List (Chars × Variable) :=
  match old with
  | some v => putVariable name v vars
  | none => vars.filter (·.1 != name)

/-- How many functions may be called inside one another. -/
def maxCalls : Nat := 1000

/-- Calls a function: it has arguments of its own, and the variables that it makes local end with
it. -/
def callFunction (run : Runner) (body : Command) (args : List Chars) : Act Nat := do
  if maxCalls ≤ (← self).calls then
    shellFault (txt "Maximum function recursion depth (" ++ Chars.ofNat maxCalls ++
      txt ") reached")
  bracketed (fun p => { p with
      args, locals := [], ownFlags := none, calls := p.calls + 1, loops := 0
      optionIndex := 1, optionPlace := none }) restore do
    match ← attempt (notLast (run body)) with
    | .ok n | .error (.returned n) => return n
    | .error e => throw e
where
  restore (before p : Process) : Process :=
    { p with
      args := before.args
      locals := before.locals
      calls := before.calls
      loops := before.loops
      optionIndex := before.optionIndex
      optionPlace := before.optionPlace
      flags := p.ownFlags.getD p.flags
      ownFlags := before.ownFlags
      bindings := p.locals.foldl (fun vars (name, old) => putBack name old vars) p.bindings }

/-! ## Commands that run others -/

/-- Reads a script from a file into the shell. -/
def sourceFile (run : Runner) (args : List Chars) : Act Nat := do
  match (← takeOptions [] [] args).2 with
  | [] => return 0
  | name :: _ =>
    let t ← files
    let places := (← valueOf? (txt "PATH")).getD defaultPlaces
    let candidates := (Text.splitOn (· == ':') places).map fun place =>
      if place.isEmpty then name else place ++ '/' :: name
    let isText (c : Chars) : Bool := (t.read (Chars.toPath c)).toOption.isSome
    match if name.contains '/' then some name else candidates.find? isText with
    | none => shellFault (name ++ txt ": not found")
    | some path =>
      let run' (text : Chars) : Act Nat := do
        match ← attempt (concerning path (runText run text true)) with
        | .ok n | .error (.returned n) => return n
        | .error e => throw e
      match t.read (Chars.toPath path) with
      | .ok content => run' (Chars.ofBytes content)
      | .error .isFolder => return 0
      | .error e => shellFault (txt "cannot open " ++ path ++ txt ": " ++ openReason false e.words)

/-- Commands of the shell that run others, with whether they are special. -/
def runningBuiltins : List (String × Bool) :=
  [("eval", true), (".", true), ("exec", true), ("command", false), ("type", false),
    ("hash", false)]

/-- Whether a command of the shell has a name, and whether it is special. -/
def builtinKind? (name : Chars) : Option Bool :=
  let s := String.ofList name
  ((builtins.lookup s).map (·.special)).or (runningBuiltins.lookup s)

/-- Tells what a name stands for in the shell, in words or in `short` by what would be run.
Programs are looked for in `places`, if these are not the usual ones. -/
def describe (short : Bool) (places : Option Chars) (name : Chars) : Act Nat := do
  let p ← self
  let say (words : String) : Act Nat :=
    emitOnly ((if short then name else name ++ txt (" is " ++ words)) ++ ['\n'])
  if reservedWords.contains name then say "a shell keyword"
  else if let some value := p.aliases.lookup name then
    emitOnly (if short then txt "alias " ++ shownAlias (name, value)
      else name ++ txt " is an alias for " ++ value ++ ['\n'])
  else if (p.functions.lookup name).isSome then say "a shell function"
  else match builtinKind? name with
    | some special => say (if special then "a special shell builtin" else "a shell builtin")
    | none =>
      let usual ← valueOf? (txt "PATH")
      let found ← findAlong (places.or usual) name
      let t ← files
      let path := match found with
        | .runnable _ path => some path
        | .refused _ | .missing =>
          if name.contains '/' && t.isPresent (Chars.toPath name) then some name else none
      match path with
      | none =>
        if !short then emit (name ++ txt ": not found\n")
        return 127
      | some path =>
        let known := places.isNone && (p.found.lookup name).isSome
        if places.isNone then remember name path
        emitOnly (if short then path ++ ['\n']
          else name ++ txt (if known then " is a tracked alias for " else " is ") ++ path ++ ['\n'])

/-- The size of the table of programs that were found. -/
def programTable : Nat := 31

/-- Looks for programs to keep them in mind. -/
def findEach : (status : Nat) → List Chars → Act Nat
  | status, [] => return status
  | status, name :: more => do
    let known := ((← self).functions.lookup name).isSome || (builtinKind? name).isSome
    if known then findEach status more
    else
      match ← findProgram name with
      | .runnable _ path =>
        remember name path
        findEach status more
      | .refused reason =>
        shellProblem (name ++ txt ": " ++ reason.toList)
        findEach 1 more
      | .missing =>
        shellProblem (name ++ txt ": not found")
        findEach 1 more

/-- `hash`: tells where programs were found, looks for some, or forgets all. -/
def hashBuiltin (args : List Chars) : Act Nat := do
  let (options, names) ← takeOptions ['r'] [] args
  if !options.isEmpty then
    modifySelf fun p => { p with found := [] }
    return 0
  if names.isEmpty then
    let found := (← self).found.mergeSort fun a b =>
      tableOrder programTable a.1 ≤ tableOrder programTable b.1
    emit (unlines (found.map (·.2)))
    return 0
  findEach 0 names

def typeBuiltin (args : List Chars) : Act Nat := do
  let (_, names) ← takeOptions [] [] args
  names.foldlM (fun status name => do return status ||| (← describe false none name)) 0

/-- `command` with options that ask what a name stands for. -/
def commandBuiltin (args : List Chars) : Act Nat := do
  let (options, names) ← takeOptions (txt "pvV") [] args
  let places := if options.any (·.1 == 'p') then some defaultPlaces else none
  match (options.filter (·.1 != 'p')).getLast?, names with
  | some (way, _), name :: _ => describe (way == 'v') places name
  | _, _ => return 0

/-! ## What a command is -/

/-- How the name of a command is looked up. -/
structure Lookup where
  /-- Functions are passed over, and special commands are as all others. -/
  plain : Bool := false
  /-- Programs are looked for in other places than usual. -/
  places : Option Chars := none

/-- The words behind the options of `command`, and whether it looks in the usual places; none if it
is asked for something else than to run a command. -/
def behindOptions (standard : Bool) : List Chars → Option (Bool × List Chars)
  | [] => none
  | ['-', '-'] :: rest => if rest.isEmpty then none else some (standard, rest)
  | ('-' :: c :: cs) :: rest =>
    if (c :: cs).all (· == 'p') then behindOptions true rest else none
  | words => some (standard, words)

/-- The words of a command without those that say only how it is looked up. -/
def lookedUp (functions : List (Chars × Command)) :
    (fuel : Nat) → Lookup → List Chars → Lookup × List Chars
  | 0, l, words => (l, words)
  | _, l, [] => (l, [])
  | fuel + 1, l, name :: rest =>
    if name = txt "command" && (l.plain || (functions.lookup name).isNone) then
      match behindOptions false rest with
      | some (standard, words) =>
        let places := if standard then some defaultPlaces else l.places
        lookedUp functions fuel { plain := true, places } words
      | none => (l, name :: rest)
    else (l, name :: rest)

/-- Whether the words behind those read so far may be assignments to variables. -/
def mayAssign (functions : List (Chars × Command)) (fields : List Chars) : Bool :=
  match lookedUp functions fields.length {} fields with
  | (l, name :: _) =>
    (l.plain || (functions.lookup name).isNone) &&
      ((builtins.lookup (String.ofList name)).any (·.assigns))
  | (_, []) => false

/-- The fields of the words of a command, behind those read so far. -/
def commandFields (run : Runner) (fields : List Chars) : List Word → Act (List Chars)
  | [] => return fields
  | w :: ws => do
    let assigned := if mayAssign (← self).functions fields then assignment? w else none
    let more ← match assigned with
      | some (name, value) => do pure [name ++ '=' :: (← expandValue (runAll run) value)]
      | none => expandWord (runAll run) w
    commandFields run (fields ++ more) ws

/-- How the variables are set that are assigned to in front of a command. -/
inductive AssignmentKind
  /-- They stay. -/
  | lasting
  | exported
  /-- They end with the command. -/
  | local_

section

variable (start : Start) (run : Runner)

/-- Whether the process ends with the command that it runs, and has nothing left to do then. -/
def isLast : Act Bool := do
  let p ← self
  return p.last && p.traps.all (·.2.isEmpty)

/-- Runs a program in the place of the process, which ends with it. -/
def become (known : Bool) (places : Option Chars) (words : List Chars) : Act Nat := do
  exitWith (.code (← execute start known places words))

/-- Runs a program as a child, or in the place of a process that ends with it. -/
def runProgram (places : Option Chars) (words : List Chars) : Act Nat := do
  let name := words.head?.getD []
  let usual ← valueOf? (txt "PATH")
  let places := places.or usual
  match ← findAlong places name with
  | .missing =>
    shellProblem (name ++ txt ": not found")
    return 127
  | .refused reason =>
    shellProblem (name ++ txt ": " ++ reason.toList)
    return if name.contains '/' then 126 else 127
  | .runnable _ path =>
    if ← isLast then become start true places words
    else
      remember name path
      return (← Signal.runChild (execute start true places words)).status

/-- Runs a command of the shell itself. A fault in it is passed on if it is special. -/
def runBuiltin (name : Chars) (special : Bool) (body : Act Nat) : Act Nat := do
  modifySelf fun p => { p with unwritten := none }
  let outcome ← attempt (concerning name body)
  let lost := (← self).unwritten.isSome
  modifySelf fun p => { p with unwritten := none }
  match outcome with
  | .ok n =>
    if lost then
      concerning name (shellProblem (name ++ txt ": I/O error"))
      return n ||| 1
    return n
  | .error .fault => if special then throw .fault else return 2
  | .error e => throw e

/-- What a command of the shell does, if there is one of this name. -/
def builtinBody? (places : Option Chars) (name : Chars) (args : List Chars) : Option (Act Nat) :=
  match String.ofList name with
  | "eval" => some (if args.isEmpty then return 0 else runText run (Chars.join [' '] args))
  | "." => some (sourceFile run args)
  | "exec" => some do
    if args.isEmpty then return 0
    let usual ← valueOf? (txt "PATH")
    become start false (places.or usual) args
  | "command" => some (commandBuiltin args)
  | "type" => some (typeBuiltin args)
  | "hash" => some (hashBuiltin args)
  | s => (builtins.lookup s).map (·.run args)

/-- Assigns to the variables in front of a command; gives what was assigned. -/
def assignAll (kind : AssignmentKind) (assignments : List (Chars × Word)) :
    Act (List (Chars × Chars)) :=
  assignments.mapM fun (name, word) => do
    let value ← expandValue (runAll run) word
    assignVariable name value
    match kind with
    | .lasting => pure ()
    | .exported | .local_ => changeVariable name fun v => { v with exported := true }
    return (name, value)

/-- Runs something after assignments, which end with it if they are local. -/
def assigning (kind : AssignmentKind) (assignments : List (Chars × Word))
    (body : List (Chars × Chars) → Act Nat) : Act Nat := do
  match kind with
  | .lasting | .exported => body (← assignAll run kind assignments)
  | .local_ =>
    let before := (← self).bindings
    let restore (p : Process) : Process :=
      { p with
        found := if assignments.any (·.1 == txt "PATH") then [] else p.found
        bindings := assignments.foldl (fun vars (name, _) =>
          putBack name (before.lookup name) vars) p.bindings }
    ensuring (modifySelf restore) do body (← assignAll run kind assignments)

/-- What stands in front of the commands that are shown. -/
def tracePrompt : Act Chars := do
  let s := (← valueOf? (txt "PS4")).getD []
  let script := compound (s.length + 1)
  match (pieces script (2 * s.length + 2) .document []).run { rest := s } with
  | .ok (w, _) =>
    bracketed (fun p => { p with flags := p.flags.filter (· != 'x') })
      (fun before p => { p with flags := before.flags }) (expandDocument (runAll run) w)
  | .error _ => return s

/-- Shows a command before it is run, if the shell was told so. -/
def trace (target : Option Nat) (assigned : List (Chars × Chars)) (words : List Chars) :
    Act Unit := do
  if !(← self).flags.contains 'x' || (assigned.isEmpty && words.isEmpty) then return
  let shown := assigned.map (fun (name, value) => name ++ '=' :: value) ++ words
  let line := (← tracePrompt run) ++ Chars.join [' '] shown ++ ['\n']
  if let some n := target then
    let _ ← writeOpened n line

/-- Runs a simple command whose words are known. -/
def runSimple (assignments : List (Chars × Word)) (words : List Chars)
    (redirects : List Redirect) : Act Nat := do
  let target := (← self).descriptors.lookup 2
  let traced (kind : AssignmentKind) (body : Act Nat) : Act Nat :=
    assigning run kind assignments fun assigned => do
      trace run target assigned words
      body
  let functions := (← self).functions
  match lookedUp functions words.length {} words with
  | (_, []) => redirecting run redirects (return 2) (traced .lasting do return (← self).wordStatus)
  | (l, name :: args) =>
    let function := if l.plain then none else functions.lookup name
    match function, builtinBody? start run l.places name args with
    | some body, _ =>
      redirecting run redirects (return 2) (traced .local_ (callFunction run body args))
    | none, some body =>
      let special := (builtinKind? name).getD false && !l.plain
      let failed : Act Nat := if special then throw .fault else return 2
      if name = txt "exec" then
        match ← redirectAll run redirects with
        | some message =>
          shellProblem message
          failed
        | none =>
          traced (if !special then .local_ else if args.isEmpty then .lasting else .exported)
            (runBuiltin name special body)
      else
        redirecting run redirects failed
          (traced (if special then .lasting else .local_) (runBuiltin name special body))
    | none, none =>
      let body := traced .local_ (runProgram start l.places (name :: args))
      if ← isLast then
        match ← redirectAll run redirects with
        | some message =>
          shellProblem message
          return 2
        | none => body
      else redirecting run redirects (return 2) body

/-! ## Pipelines -/

/-- Looks for the program of a stage before it is run. -/
def findStage : Command → Act Unit
  | .simple _ _ (w :: _) _ => do
    match plainWord? w with
    | some name =>
      let known := ((← self).functions.lookup name).isSome || (builtinKind? name).isSome
      if isName name && !known then
        match ← findProgram name with
        | .runnable _ path => remember name path
        | _ => return
    | none => return
  | _ => return

/-- Begins the stages from left to right, changed by `change`, and gives their numbers; each reads
what the one before it writes. -/
def beginStages (change : Process → Process) (aside : List Nat) : (input : Option Nat) →
    List Command → Act (List Nat)
  | _, [] => return []
  | input, c :: cs => do
    findStage c
    let ends ← if cs.isEmpty then pure none else do
      let pipe ← newPipe
      pure (some (← openNew { channel := .source pipe }, ← openNew { channel := .sink pipe }))
    let next := ends.map (·.1)
    modifySelf fun p => { p with aside := next.toList ++ aside }
    let pid ← forkAs (fun p => change { p with aside }) do
      if let some n := input then connect 0 n
      if let some (_, n) := ends then connect 1 n
      toEnd run (run c)
    return pid :: (← beginStages change aside next cs)

def runPipeline (stages : List Command) : Act Nat := do
  let pids ← beginStages run id (← self).aside none stages
  let endings ← pids.mapM Signal.awaitChild
  endings.forM Signal.report
  return (endings.getLast?.map (·.status)).getD 0

/-- Begins a command that is left to run by itself. -/
def beginJob (c : Command) : Act Unit := do
  let nothing ← openNew {}
  let pids ← match c with
    | .pipeline false stages@(_ :: _ :: _) =>
      beginStages run (fun p => { p with deaf := true }) (← self).aside (some nothing) stages
    | _ => do
      let pid ← forkAs (fun p => { p with deaf := true }) do
        connect 0 nothing
        toEnd run (runJob c)
      pure [pid]
  addJob pids
where
  runJob : Command → Act Nat
    | .redirected _ c redirects => redirected run redirects (run c)
    | c => run c

/-! ## Loops -/

/-- How a round of a loop ended. -/
inductive Round
  | finished (status : Nat)
  | again (status : Nat)

/-- How long many rounds take, or rounds in which some children begin. -/
def roundsPause : Nat := 5000000

/-- Goes through rounds, of which many take some time. A loop of too many rounds counts as one
without end. `begun` is the number for a process when the time was last counted. -/
def rounds (round : (status : Nat) → Act Round) : (count begun : Nat) → (status : Nat) → Act Nat
  | 0, _, _ => waitForEver
  | count + 1, begun, status => fun s =>
    let next (n : Nat) (s : Scene) : Course Nat :=
      if count % 1000 = 0 || begun + 10 ≤ s.world.nextPid then
        .waits s { till := s.self.now + roundsPause } (rounds round count s.world.nextPid n)
      else rounds round count begun n s
    match round status s with
    | .done (.finished n) s => .done n s
    | .done (.again n) s => next n s
    | .left e s => .left e s
    | c => c.andThen fun
      | .finished n => .done n
      | .again n => next n

def maxRounds : Nat := 200000

/-- Runs the body of a loop; the commands that leave loops are met here. -/
def bodyRound (body : List Command) : Act Round := do
  match ← attempt (runAll run body) with
  | .ok n => return .again n
  | .error (.leaveLoop n) => if n ≤ 1 then return .finished 0 else throw (.leaveLoop (n - 1))
  | .error (.nextRound n) => if n ≤ 1 then return .again 0 else throw (.nextRound (n - 1))
  | .error e => throw e

/-- Runs something inside one more loop. -/
def insideLoop (body : Act Nat) : Act Nat :=
  bracketed (fun p => { p with loops := p.loops + 1, last := false })
    (fun before p => { p with loops := before.loops, last := before.last }) body

def whileRound (negated : Bool) (condition body : List Command) (status : Nat) : Act Round := do
  let test ← attempt (guarded (runAll run condition))
  match test with
  | .ok n => if (n == 0) == negated then return .finished status else bodyRound run body
  | .error (.leaveLoop n) => if n ≤ 1 then return .finished 0 else throw (.leaveLoop (n - 1))
  | .error (.nextRound n) => if n ≤ 1 then return .again 0 else throw (.nextRound (n - 1))
  | .error e => throw e

def forEach (name : Chars) (body : List Command) : (status : Nat) → List Chars → Act Nat
  | status, [] => return status
  | _, value :: values => do
    assignVariable name value
    match ← bodyRound run body with
    | .finished n => return n
    | .again n => forEach name body n values

/-- The first arm with a pattern that fits. -/
def chooseArm (s : Chars) : List (List Word × List Command) → Act (Option (List Command))
  | [] => return none
  | (patterns, body) :: arms => do
    let fitting ← patterns.anyM fun w => do
      return fits (← expandPattern (runAll run) w) s
    if fitting then return some body else chooseArm s arms

/-! ## One command -/

/-- Runs one command; `run` runs the commands inside it. -/
def stepOn : Command → Act Nat
  | .simple line assignments words redirects => do
    modifySelf fun p => { p with line, wordStatus := 0 }
    let fields ← commandFields run [] words
    let status ← runSimple start run assignments fields redirects
    let _ ← setStatus status
    meetSignals run
    checkFailure status
  | .pipeline negated stages => do
    let body : Act Nat :=
      match stages with
      | [c] => run c
      | _ => runPipeline run stages
    if negated then
      let status ← guarded body
      setStatus (if status = 0 then 1 else 0)
    else
      let status ← setStatus (← body)
      meetSignals run
      checkFailure status
  | .junction kind left right => do
    let status ← guarded (run left)
    match kind with
    | .both => if status = 0 then run right else return status
    | .either => if status = 0 then return status else run right
  | .background c => do
    beginJob run c
    setStatus 0
  | .group body => runAll run body
  | .subshell body => do
    if ← isLast then runAll run body
    else
      let e ← Signal.runChild (toEnd run (runAll run body))
      let status ← setStatus e.status
      meetSignals run
      checkFailure status
  | .choice condition body otherwise => do
    if (← guarded (runAll run condition)) = 0 then runAll run body
    else if otherwise.isEmpty then setStatus 0
    else runAll run otherwise
  | .loop negated condition body => do
    let begun := (← world).nextPid
    let round := whileRound run negated condition body
    setStatus (← insideLoop (rounds round maxRounds begun 0))
  | .each name words body => do
    let values ← match words with
      | some ws => expandFields (runAll run) ws
      | none => pure (← self).args
    setStatus (← insideLoop (forEach run name body 0 values))
  | .switch word arms => do
    let s ← expandText (runAll run) word
    match ← chooseArm run s arms with
    | some [] | none => setStatus 0
    | some body => runAll run body
  | .define name body => do
    modifySelf fun p => { p with functions := (name, body) :: p.functions.filter (·.1 != name) }
    setStatus 0
  | .redirected line c redirects => do
    modifySelf fun p => { p with line }
    match c with
    | .subshell _ =>
      if ← isLast then redirected run redirects (run c)
      else setStatus (← redirecting run redirects (return 2) (run c))
    | _ => setStatus (← redirecting run redirects (return 2) (run c))

/-- Runs one command, unless the shell was told only to read. -/
def step (c : Command) : Act Nat := do
  let p ← self
  if p.flags.contains 'n' then return p.status
  stepOn start run c

end

/-- Runs a command, with commands inside commands up to some depth, beyond which there is no room
for the shell to go on. -/
def runWithin (start : Start) : (depth : Nat) → Runner
  | 0, _ => exitWith (.signal 11)
  | depth + 1, c => step start (runWithin start depth) c

def maxDepth : Nat := 20000

/-! ## The shell as a program -/

/-- A process that becomes a shell. -/
def asShell (p : Process) : Process :=
  { pid := p.pid
    parent := p.parent
    shell := p.pid
    leader := p.leader
    name := p.name
    args := p.args
    now := p.now
    begun := p.begun
    descriptors := p.descriptors
    here := p.here
    bindings := firstVariables (p.bindings.filter (·.2.exported)) p.parent
    traps := p.traps.filter (·.2.isEmpty)
    deaf := p.deaf
    mask := p.mask
    limits := p.limits
    last := p.last
    line := 0 }

/-- What the shell runs: a script that it was given, a file, or its input. -/
inductive Source
  | script (text : Chars) (names : List Chars)
  | file (path : Chars) (args : List Chars)
  | input (args : List Chars)

/-- Takes the options that the shell was started with. -/
def source : Act Source := do
  let args := (← self).args
  let rest ← match ← takeFlags ['c', 'l'] (args.length + 1) args with
    | .arguments rest | .oneDash rest | .twoDashes rest => pure rest
  let flags := (← self).flags
  modifySelf fun p => { p with flags := p.flags.filter fun c => c != 'c' && c != 'l' }
  if flags.contains 'c' then
    match rest with
    | [] => shellFault (txt "-c requires an argument")
    | text :: names => return .script text names
  else if flags.contains 's' then return .input rest
  else
    match rest with
    | path :: args => return .file path args
    | [] =>
      setFlag true 's'
      return .input []

/-- Runs the shell on its arguments. -/
def shellProgram (run : Runner) : Act Nat := do
  modifySelf asShell
  takeUpFolder
  match ← source with
  | .script text names =>
    modifySelf fun p =>
      { p with name := names.head?.getD p.name, args := names.drop 1, line := 1 }
    toEnd run (runText run text)
  | .input args =>
    modifySelf fun p => { p with args, line := 1 }
    let text ← readAll 0
    toEnd run (runText run text true)
  | .file path args =>
    match (← files).read (Chars.toPath path) with
    | .error .isFolder => return 0
    | .error e => shellFault (txt "cannot open " ++ path ++ txt ": " ++ openReason false e.words)
    | .ok content =>
      modifySelf fun p => { p with name := path, args, line := 1 }
      toEnd run (runText run (Chars.ofBytes content) true)

end Conformance.Host.Shell
