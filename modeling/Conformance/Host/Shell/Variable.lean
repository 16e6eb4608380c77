import Conformance.Host.Program

/-!
# Complaints and variables of the shell

What the shell says when something cannot be done, and the options of its own commands, which are
complained of alike.

Variables are assigned to, marked, listed and taken away; a function may have some of its own. A
list of variables can be read by the shell again.
-/
namespace Conformance.Host.Shell

/-! ## Complaints -/

/-- Complains as the shell does, with its name, the current line and what the complaint is
about. -/
def shellProblem (message : Chars) : Act Unit := do
  let p ← self
  let about := match p.about with
    | some s => s ++ txt ": "
    | none => []
  complain (p.name ++ txt ": " ++ Chars.ofNat p.line ++ txt ": " ++ about ++ message ++ ['\n'])

/-- Complains of something that cannot be carried out. -/
def shellFault {α : Type} (message : Chars) : Act α := do
  shellProblem message
  throw .fault

/-- Runs something that complaints are about. -/
def concerning {α : Type} (subject : Chars) (body : Act α) : Act α :=
  bracketed (fun p => { p with about := some subject })
    (fun before p => { p with about := before.about }) body

/-! ## Options -/

/-- Reads the letters of one argument. What is left to be read is the value of an option whose
argument ends with it. -/
def optionRun (letters valued : Chars) : Chars → Except Chars (List (Char × Chars) × Option Char)
  | [] => .ok ([], none)
  | c :: s =>
    if valued.contains c then
      if s.isEmpty then .ok ([], some c) else .ok ([(c, s)], none)
    else if letters.contains c then
      (optionRun letters valued s).map fun (os, last) => ((c, []) :: os, last)
    else .error (txt "Illegal option -" ++ [c])

/-- The options at the start of some arguments, and the other arguments. -/
def readOptions (letters valued : Chars) :
    List Chars → Except Chars (List (Char × Chars) × List Chars)
  | ['-', '-'] :: rest => .ok ([], rest)
  | ('-' :: c :: s) :: rest =>
    match optionRun letters valued (c :: s), rest with
    | .error e, _ => .error e
    | .ok (os, none), rest =>
      (readOptions letters valued rest).map fun (more, rest) => (os ++ more, rest)
    | .ok (_, some last), [] => .error (txt "No arg for -" ++ [last] ++ txt " option")
    | .ok (os, some last), value :: rest =>
      (readOptions letters valued rest).map fun (more, rest) => (os ++ (last, value) :: more, rest)
  | args => .ok ([], args)

/-- Takes the options of a command of the shell. -/
def takeOptions (letters valued : Chars) (args : List Chars) :
    Act (List (Char × Chars) × List Chars) :=
  match readOptions letters valued args with
  | .ok taken => return taken
  | .error message => shellFault message

/-- The number that an argument gives. -/
def numberArgument (s : Chars) : Act Nat :=
  match Chars.nat? s with
  | some n => return n
  | none => shellFault (txt "Illegal number: " ++ s)

/-! ## Quotes -/

/-- A text that goes on inside quotes: single ones, or double ones around single ones. -/
def quotesFrom : (double : Bool) → Chars → Chars
  | false, [] => ['\'']
  | true, [] => ['"']
  | false, c :: s =>
    if c = '\'' then '\'' :: '"' :: c :: quotesFrom true s else c :: quotesFrom false s
  | true, c :: s =>
    if c = '\'' then c :: quotesFrom true s else '"' :: '\'' :: c :: quotesFrom false s

/-- A text in quotes. -/
def singleQuoted (s : Chars) : Chars :=
  '\'' :: quotesFrom false s

/-! ## Assignments -/

/-- Where a name comes in a table of a size. -/
def tableOrder (size : Nat) (name : Chars) : Nat :=
  ((name.head?.map Char.toNat).getD 0 * 16 + (name.map Char.toNat).foldl (· + ·) 0) % size

/-- The size of the tables of variables and aliases. -/
def variableTable : Nat := 39

def refuseName {α : Type} (name : Chars) : Act α :=
  shellFault (name ++ txt ": bad variable name")

/-- Complains of an assignment to a variable that is only to be read. -/
def checkWritable (name : Chars) : Act Unit := do
  if (((← self).bindings.lookup name).map (·.readOnly)).getD false then
    shellFault (name ++ txt ": is read only")

/-- Assigns to a variable, if that is possible. -/
def assignVariable (name value : Chars) : Act Unit := do
  if !isName name then refuseName name
  checkWritable name
  if name = txt "OPTIND" then
    let n ← numberArgument value
    modifySelf fun p => { p with optionIndex := max 1 n, optionPlace := none }
  setVariable name value

def changeVariable (name : Chars) (f : Variable → Variable) : Act Unit :=
  modifySelf fun p =>
    let old := (p.bindings.lookup name).getD { value := none }
    { p with bindings := putVariable name (f old) p.bindings }

/-- Takes a variable away. -/
def dropVariable (name : Chars) : Act Unit :=
  modifySelf fun p => { p with bindings := p.bindings.filter (·.1 != name) }

/-- Splits an argument at its equals sign, if it has one. -/
def splitAssignment (a : Chars) : Chars × Option Chars :=
  let name := a.takeWhile (· != '=')
  (name, if name.length < a.length then some (a.drop (name.length + 1)) else none)

/-! ## Lists -/

/-- Shows the variables that are asked for by name, each behind a word. -/
def listVariables (word : Chars) (wanted : Variable → Bool) : Act Unit := do
  let chosen := (← self).bindings.filter fun v => wanted v.2
  let ordered := chosen.mergeSort fun a b => !decide (b.1 < a.1)
  emit (ordered.flatMap fun (name, v) =>
    (if word.isEmpty then [] else word ++ [' ']) ++ name ++
      (match v.value with
        | some s => '=' :: singleQuoted s
        | none => []) ++ ['\n'])

/-- `export` and `readonly`: marks variables, or lists those with the mark. -/
def markBuiltin (name : String) (mark : Variable → Variable) (has : Variable → Bool)
    (args : List Chars) : Act Nat := do
  let (options, names) ← takeOptions ['p'] [] args
  if !options.isEmpty || names.isEmpty then listVariables name.toList has
  else
    names.forM fun a => do
      let (key, value) := splitAssignment a
      match value with
      | some s => assignVariable key s
      | none => if ((← self).bindings.lookup key).isNone && !isName key then refuseName key
      changeVariable key mark
  return 0

def unsetBuiltin (args : List Chars) : Act Nat := do
  let (options, names) ← takeOptions ['v', 'f'] [] args
  let functions := (options.getLast?.map (·.1)) = some 'f'
  names.forM fun a => do
    if functions then
      modifySelf fun p => { p with functions := p.functions.filter (·.1 != a) }
    else
      if !isName a then refuseName a
      checkWritable a
      dropVariable a
  return 0

/-- `local`: the variables of a function, which are as they were before after it. -/
def localBuiltin (args : List Chars) : Act Nat := do
  if (← self).calls = 0 then shellFault (txt "not in a function")
  args.forM fun a => do
    if a = ['-'] then modifySelf fun p => { p with ownFlags := p.ownFlags.or (some p.flags) }
    else
      let (key, value) := splitAssignment a
      modifySelf fun p => { p with locals := (key, p.bindings.lookup key) :: p.locals }
      match value with
      | some s => assignVariable key s
      | none =>
        if ((← self).bindings.lookup key).isNone then
          if !isName key then refuseName key
          changeVariable key id
  return 0

/-! ## At the start -/

/-- Where programs are looked for. -/
def defaultPlaces : Chars :=
  txt "/usr/local/sbin:/usr/local/bin:/usr/sbin:/usr/bin:/sbin:/bin"

/-- The variables that a shell has if it was not given them. -/
def givenVariables : List (String × Chars) :=
  [("PATH", defaultPlaces), ("PS1", txt "# "), ("PS2", txt "> "), ("PS4", txt "+ ")]

/-- The variables of a shell that was given others. -/
def firstVariables (given : List (Chars × Variable)) (parent : Nat) : List (Chars × Variable) :=
  let own (name : String) (value : Chars) (vs : List (Chars × Variable)) :=
    let exported := ((vs.lookup name.toList).map (·.exported)).getD false
    putVariable name.toList { value := some value, exported } vs
  let filled := givenVariables.foldl (fun vs (name, value) =>
    if (vs.lookup name.toList).isSome then vs
    else putVariable name.toList { value := some value } vs) (given.filter (isName ·.1))
  own "IFS" (txt " \t\n") (own "OPTIND" ['1'] (own "PPID" (Chars.ofNat parent) filled))

/-- The variables in the order in which a program is given them. -/
def inTableOrder (vs : List (Chars × Variable)) : List (Chars × Variable) :=
  vs.mergeSort fun a b => tableOrder variableTable a.1 ≤ tableOrder variableTable b.1

end Conformance.Host.Shell
