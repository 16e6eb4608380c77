import Conformance.Host.Shell.Variable

/-!
# Options of the shell and of scripts

Options change how the shell carries out commands. They are turned on and off by letters or by
names, when the shell is started or by `set`, which also sets the parameters.

`getopts` goes through the options that a script was given, one at a time. What was read so far is
kept by the shell, and told to the script in `OPTIND`.
-/
namespace Conformance.Host.Shell

/-! ## The shell -/

/-- The options by name, with the characters that stand for them. Those of the last two are not
letters, so that they have names only. -/
def flagNames : List (String × Char) :=
  [("errexit", 'e'), ("noglob", 'f'), ("ignoreeof", 'I'), ("interactive", 'i'), ("monitor", 'm'),
    ("noexec", 'n'), ("stdin", 's'), ("xtrace", 'x'), ("verbose", 'v'), ("vi", 'V'),
    ("emacs", 'E'), ("noclobber", 'C'), ("allexport", 'a'), ("notify", 'b'), ("nounset", 'u'),
    ("privileged", 'p'), ("nolog", '\x01'), ("debug", '\x02')]

/-- Turns an option on or off. Of the two ways of editing only one can be on. -/
def setFlag (on : Bool) (c : Char) : Act Unit :=
  modifySelf fun p =>
    let others := p.flags.filter fun d =>
      d != c && !(on && ((c == 'V' && d == 'E') || (c == 'E' && d == 'V')))
    { p with flags := if on then c :: others else others }

/-- Shows all options, as commands that set them if `asCommands` is set. -/
def listFlags (asCommands : Bool) : Act Unit := do
  let flags := (← self).flags
  let line (name : String) (c : Char) : Chars :=
    let on := flags.contains c
    if asCommands then txt ("set " ++ (if on then "-o " else "+o ") ++ name ++ "\n")
    else
      name.toList ++ List.replicate (16 - name.length) ' ' ++ txt (if on then "on\n" else "off\n")
  if !asCommands then emit (txt "Current option settings\n")
  emit (flagNames.flatMap fun (name, c) => line name c)

/-- Turns the option of a name on or off; without a name all are shown. -/
def setNamedFlag (on : Bool) (name : Option Chars) : Act Unit := do
  match name with
  | none => listFlags (!on)
  | some s =>
    match flagNames.lookup (String.ofList s) with
    | some c => setFlag on c
    | none => shellFault (txt "Illegal option -o " ++ s)

/-- Turns on or off the options of the letters of one argument, with the arguments that follow it;
gives those that are left. `known` are the letters that there are besides the options. -/
def takeLetters (known : Chars) (on : Bool) : Chars → List Chars → Act (List Chars)
  | [], rest => return rest
  | 'o' :: cs, rest => do
    setNamedFlag on rest.head?
    takeLetters known on cs (rest.drop 1)
  | c :: cs, rest => do
    if known.contains c || flagNames.any fun o => o.2 == c && c.isAlpha then setFlag on c
    else shellFault (txt "Illegal option -" ++ [c])
    takeLetters known on cs rest

/-- How the options at the start of some arguments end. -/
inductive FlagsEnd
  /-- The other arguments follow. -/
  | arguments (rest : List Chars)
  | oneDash (rest : List Chars)
  | twoDashes (rest : List Chars)

/-- Takes the options at the start of some arguments. -/
def takeFlags (known : Chars) : (fuel : Nat) → List Chars → Act FlagsEnd
  | 0, args => return .arguments args
  | fuel + 1, args => do
    match args with
    | ['-'] :: rest => return .oneDash rest
    | ['-', '-'] :: rest => return .twoDashes rest
    | ('-' :: cs) :: rest => takeFlags known fuel (← takeLetters known true cs rest)
    | ('+' :: cs) :: rest => takeFlags known fuel (← takeLetters known false cs rest)
    | _ => return .arguments args

/-- Sets the parameters. -/
def setParameters (args : List Chars) : Act Unit :=
  modifySelf fun p => { p with args, optionIndex := 1, optionPlace := none }

/-- `set`: turns options on and off, and sets the parameters if there are others. -/
def setBuiltin (args : List Chars) : Act Nat := do
  if args.isEmpty then
    listVariables [] (·.value.isSome)
    return 0
  let before := (← self).flags
  let rest ← match ← takeFlags [] (args.length + 1) args with
    | .arguments rest => pure rest
    | .oneDash rest =>
      setFlag false 'x'
      setFlag false 'v'
      pure rest
    | .twoDashes rest =>
      if rest.isEmpty then setParameters []
      pure rest
  if (← self).flags.contains 'm' && !before.contains 'm' then
    shellProblem (txt "can't access tty; job control turned off")
    setFlag false 'm'
  if !rest.isEmpty then setParameters rest
  return 0

/-- `shift`: drops the first parameters. -/
def shiftBuiltin (args : List Chars) : Act Nat := do
  let n ← match args with
    | [] => pure 1
    | s :: _ => numberArgument s
  let p ← self
  if p.args.length < n then shellFault (txt "can't shift that many")
  setParameters (p.args.drop n)
  return 0

/-! ## Scripts -/

/-- What the letters of a script's options say of one: whether it is one of them, and whether it
has an argument. A colon behind a letter belongs to it. -/
def choice? (c : Char) : Chars → Option Bool
  | [] => none
  | d :: ':' :: s => if d = c then some true else choice? c s
  | d :: s => if d = c then some false else choice? c s

/-- The letters that are left of the last argument that was read. -/
def lettersLeft (args : List Chars) (index : Nat) (place : Option Nat) : Chars :=
  match place with
  | some n => if index ≤ 1 then [] else (args[index - 2]?.getD []).drop n
  | none => []

/-- What comes next among some arguments, of which `index` is read next: letters of an option, the
argument that is read next then, and whether the options are at their end. -/
def nextLetters (args : List Chars) (index : Nat) (left : Chars) : Chars × Nat × Bool :=
  if !left.isEmpty then (left, index, false)
  else
    match args[index - 1]? with
    | some ['-', '-'] => ([], index + 1, true)
    | some ('-' :: c :: s) => (c :: s, index + 1, false)
    | _ => ([], index, true)

/-- How an option was read. -/
structure Choice where
  /-- What the variable for the letter gets. -/
  letter : Char
  /-- What `OPTARG` gets, unless it is taken away. -/
  value : Option Chars := none
  /-- What is said of the option. -/
  complaint : Option Chars := none
  index : Nat
  /-- The letters that are left of the argument. -/
  left : Chars := []

/-- Reads the option of a letter, behind which the argument goes on with `left`. -/
def readChoice (letters : Chars) (args : List Chars) (c : Char) (left : Chars) (index : Nat) :
    Choice :=
  let silent := letters.head? = some ':'
  match choice? c letters with
  | none =>
    if silent then { letter := '?', value := some [c], index, left }
    else { letter := '?', complaint := some (txt "Illegal option -" ++ [c]), index, left }
  | some false => { letter := c, value := some [], index, left }
  | some true =>
    if !left.isEmpty then { letter := c, value := some left, index }
    else
      match args[index - 1]? with
      | some v => { letter := c, value := some v, index := index + 1 }
      | none =>
        if silent then { letter := ':', value := some [c], index }
        else
          { letter := '?', complaint := some (txt "No arg for -" ++ c :: txt " option"), index }

/-- Tells the script of what was read. -/
def tellChoice (name : Chars) (args : List Chars) (letter : Char) (index : Nat) (left : Chars) :
    Act Unit := do
  setVariable (txt "OPTIND") (Chars.ofNat index)
  assignVariable name [letter]
  let word := args[index - 2]?.getD []
  modifySelf fun p =>
    { p with
      optionIndex := index
      optionPlace := if left.isEmpty then none else some (word.length - left.length) }

/-- Reads the next option of some arguments. -/
def takeChoice (letters name : Chars) (args : List Chars) : Act Nat := do
  let p ← self
  let fresh := args.length + 1 < p.optionIndex
  let index := if fresh then 1 else p.optionIndex
  let left := lettersLeft args index (if fresh then none else p.optionPlace)
  match nextLetters args index left with
  | ([], index, _) =>
    tellChoice name args '?' index []
    return 1
  | (c :: left, index, _) =>
    let x := readChoice letters args c left index
    if let some s := x.complaint then complain (s ++ ['\n'])
    match x.value with
    | some v => setVariable (txt "OPTARG") v
    | none => dropVariable (txt "OPTARG")
    tellChoice name args x.letter x.index x.left
    return 0

def getoptsBuiltin (args : List Chars) : Act Nat := do
  match (← takeOptions [] [] args).2 with
  | letters :: name :: rest =>
    let own := (← self).args
    takeChoice letters name (if rest.isEmpty then own else rest)
  | _ => shellFault (txt "Usage: getopts optstring var [arg...]")

end Conformance.Host.Shell
