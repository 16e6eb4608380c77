import Conformance.Host.Awk.Running

/-!
# The program over records

The first operand is the text of the program unless files hold it; the other operands are inputs
and assignments to variables.
-/
namespace Conformance.Host.Awk

/-- What the arguments ask for. -/
structure Invocation where
  separator : Option Chars := none
  assignments : List Chars := []
  files : List Chars := []
  operands : List Chars := []

/-- Reads options, up to the first argument that is none. -/
def Invocation.read (i : Invocation) : List Chars → Except Chars Invocation
  | [] => .ok i
  | ['-', '-'] :: rest => .ok { i with operands := rest }
  | ('-' :: c :: s) :: rest =>
    if c = 'F' || c = 'v' || c = 'f' then
      if !s.isEmpty then take c s rest
      else
        match rest with
        | value :: rest => take c value rest
        | [] => .error (txt "option -" ++ c :: txt " lacks argument")
    else .error (txt "not an option: -" ++ c :: s)
  | args => .ok { i with operands := args }
where
  take (c : Char) (value : Chars) (rest : List Chars) : Except Chars Invocation :=
    match c with
    | 'F' => { i with separator := some value }.read rest
    | 'v' =>
      if (assignment value).isSome then
        { i with assignments := i.assignments ++ [value] }.read rest
      else .error (txt "improper assignment: -v " ++ value)
    | _ => { i with files := i.files ++ [value] }.read rest

/-- The text of the program, and the operands behind it. -/
def programText (i : Invocation) : Act (Except Chars (Chars × List Chars)) := do
  match i.files, i.operands with
  | [], [] => return .error []
  | [], text :: operands => return .ok (text, operands)
  | files, operands =>
    let mut texts := []
    for name in files do
      let supply ← if name = txt "/dev/stdin" then drain 0 else inputOf name
      match supply.tail with
      | .broken reason =>
        return .error (txt "cannot open \"" ++ name ++ txt "\" (" ++ reason.toList ++ [')'])
      | _ =>
        awaitTail supply
        texts := texts ++ [supply.content]
    return .ok (Chars.join ['\n'] texts, operands)

/-- The array of the variables that the process was given. -/
def environment (p : Process) : Table :=
  (Utility.exportedVariables p).foldl (fun t (name, value) =>
    t.insert { text := name } (.ofInput value)) {}

/-- A machine before the first rule. -/
def opening (names : List Chars) (p : Process) (operands : List Chars) : State :=
  let given := givenVariables.map fun (name, v) => (name.toList, Slot.value v)
  let others := names.filter fun n => !(given.any (·.1 == n))
  let all := given ++ others.map fun n => (n, Slot.unset none)
  let arguments := (txt "awk" :: operands).zipIdx.foldl (fun (t : Table) (s, i) =>
    t.insert { text := Chars.ofNat i, counted := true } (.ofInput s)) {}
  let slots := all.map fun (name, slot) =>
    if name = txt "ARGV" then .table arguments
    else if name = txt "ENVIRON" then .table (environment p)
    else if name = txt "ARGC" then .value (.ofNat (operands.length + 1))
    else slot
  { slots := slots.toArray, globals := (all.map (·.1)).zipIdx }

/-- Makes the assignments of the options. -/
def prepare (i : Invocation) : Run Unit := do
  match i.separator with
  | some s => setVariable (txt "FS") (.text (unescaped (s.length + 1) s))
  | none => pure ()
  i.assignments.forM fun a => do
    match assignment a with
    | some (name, value) => setVariable name (.ofInput value)
    | none => return

/-- Says what is wrong, under the name of the program. -/
def say (message : Chars) : Act Unit :=
  complain (txt "awk: " ++ message ++ ['\n'])

/-- What is told to who gives no program. -/
def usage : List String :=
  ["Usage: mawk [Options] [Program] [file ...]", "", "Program:",
    "    The -f option value is the name of a file containing program text.",
    "    If no -f option is given, a \"--\" ends option processing; the following",
    "    parameters are the program text.", "", "Options:",
    "    -f program-file  Program  text is read from file instead of from the",
    "                     command-line.  Multiple -f options are accepted.",
    "    -F value         sets the field separator, FS, to value.",
    "    -v var=value     assigns value to program variable var.",
    "    --               unambiguous end of options.", "",
    "    Implementation-specific options are prefixed with \"-W\".  They can be",
    "    abbreviated:", "",
    "    -W version       show version information and exit.",
    "    -W compat        pre-POSIX 2001.",
    "    -W dump          show assembler-like listing of program and exit.",
    "    -W help          show this message and exit.",
    "    -W interactive   set unbuffered output, line-buffered input.",
    "    -W exec file     use file as program as well as last option.",
    "    -W posix         stricter POSIX checking.",
    "    -W random=number set initial random seed.",
    "    -W sprintf=number adjust size of sprintf buffer.",
    "    -W usage         show this message and exit."]

def awk (start : Shell.Start) : Program := do
  let p ← self
  match Invocation.read {} p.args with
  | .error message =>
    say message
    return 2
  | .ok i =>
    match ← programText i with
    | .error message =>
      if message.isEmpty then
        complain (usage.flatMap fun line => line.toList ++ ['\n'])
        return 0
      else
        say message
        return 2
    | .ok (text, operands) =>
      match Script.read text with
      | .error faults =>
        faults.forM fun f => say f.told
        return 2
      | .ok (script, names) =>
        let run := evaluatorWithin start script.functions maxDepth
        let (outcome, s) ← ((do prepare i; runScript run script) : Run Unit).run
          (opening names p operands)
        let status ← match outcome with
          | .error (.fault message) => do
            say message
            pure 2
          | _ => pure s.status
        let (ending, _) ← (closeAll : Run Unit).run s
        match ending with
        | .error (.fault message) =>
          say message
          return 2
        | _ => return status

end Conformance.Host.Awk
