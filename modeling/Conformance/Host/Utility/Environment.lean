import Conformance.Host.Utility.Commands

/-!
# Changed variables

`env` runs a command with changed variables, or shows them. Its arguments may come from one text,
which is split into words.
-/
namespace Conformance.Host.Utility

open Shell

/-! ## Splitting -/

/-- Why a text is not split. -/
inductive SplitError
  | openQuote
  | trailingBackslash
  | unknownEscape (c : Char)
  | stopInQuotes
  | strangeVariable (rest : Chars)

def SplitError.message : SplitError → Chars
  | .openQuote => txt "no terminating quote in -S string"
  | .trailingBackslash => txt "invalid backslash at end of string in -S"
  | .unknownEscape c => txt "invalid sequence '\\" ++ c :: txt "' in -S"
  | .stopInQuotes => txt "'\\c' must not appear in double-quoted -S string"
  | .strangeVariable rest =>
    txt "only $\x7bVARNAME\x7d expansion is supported, error at: " ++ rest

/-- The quotes that surround a character. -/
inductive Surrounded
  | bare
  | single
  | double
deriving DecidableEq

/-- The name of a variable behind a dollar sign, and what follows it. -/
def bracedName? (s : Chars) : Option (Chars × Chars) :=
  match s with
  | '\x7b' :: r =>
    let name := r.takeWhile fun c => c.isAlphanum || c == '_'
    let isName := name.head?.any fun c => !c.isDigit
    match r.drop name.length with
    | '\x7d' :: rest => if isName then some (name, rest) else none
    | _ => none
  | _ => none

/-- The words of a text; `word` is the one that has begun, if there is one. -/
def splitWords (value : Chars → Option Chars) :
    (fuel : Nat) → Surrounded → (word : Option Chars) → Chars → Except SplitError (List Chars)
  | 0, _, word, _ => .ok word.toList
  | _ + 1, quotes, word, [] => if quotes = .bare then .ok word.toList else .error .openQuote
  | fuel + 1, quotes, word, c :: s =>
    let add (new : Chars) (rest : Chars) : Except SplitError (List Chars) :=
      splitWords value fuel quotes (some (word.getD [] ++ new)) rest
    let close (rest : Chars) : Except SplitError (List Chars) :=
      (splitWords value fuel .bare none rest).map (word.toList ++ ·)
    let turn (next : Surrounded) : Except SplitError (List Chars) :=
      splitWords value fuel next (some (word.getD [])) s
    match c, quotes with
    | '\'', .bare => turn .single
    | '\'', .single => turn .bare
    | '"', .bare => turn .double
    | '"', .double => turn .bare
    | '#', .bare => if word.isNone then .ok [] else add ['#'] s
    | '\\', .single =>
      match s with
      | '\\' :: r => add ['\\'] r
      | '\'' :: r => add ['\''] r
      | r => add ['\\'] r
    | '\\', _ =>
      match s with
      | [] => .error .trailingBackslash
      | '_' :: r => if quotes = .bare then close r else add [' '] r
      | 'c' :: _ => if quotes = .bare then .ok word.toList else .error .stopInQuotes
      | d :: r =>
        if "\"#$'\\".toList.contains d then add [d] r
        else
          match if d = 'a' then none else escapedChar? d with
          | some e => add [e] r
          | none => .error (.unknownEscape d)
    | '$', .single => add ['$'] s
    | '$', _ =>
      match bracedName? s with
      | none => .error (.strangeVariable ('$' :: s))
      | some (name, rest) =>
        match value name with
        | some v => add v rest
        | none => splitWords value fuel quotes word rest
    | c, .bare => if isSpace c then close s else add [c] s
    | c, _ => add [c] s

/-! ## Arguments -/

/-- Arguments in which texts were split, and what is told of that. -/
structure SplitArguments where
  args : List Chars
  told : List Chars := []

/-- What is told of a text that was split. -/
def splitTold (text : Chars) (words : List Chars) : List Chars :=
  (txt "split -S:  " ++ cited text) ::
    words.zipIdx.map fun (w, i) => txt (if i = 0 then " into:    " else "     &    ") ++ cited w

/-- Splits the texts that options ask to be split; `tells` is set once splitting is to be told. -/
def splitArguments (value : Chars → Option Chars) : (fuel : Nat) → (tells : Bool) →
    List Chars → Except SplitError SplitArguments
  | 0, _, args => .ok { args }
  | _ + 1, _, [] => .ok { args := [] }
  | fuel + 1, tells, a :: more =>
    let spread (tells : Bool) (kept : List Chars) (text : Chars) (rest : List Chars) :
        Except SplitError SplitArguments :=
      match splitWords value (text.length + 1) .bare none text with
      | .error e => .error e
      | .ok words =>
        (splitArguments value fuel tells (words ++ rest)).map fun r =>
          { args := kept ++ r.args
            told := (if tells then splitTold text words else []) ++ r.told }
    let pass (tells : Bool) (kept : List Chars) (rest : List Chars) :
        Except SplitError SplitArguments :=
      (splitArguments value fuel tells rest).map fun r => { r with args := kept ++ r.args }
    match a with
    | '-' :: '-' :: long =>
      let name := long.takeWhile (· != '=')
      let isSplit := !name.isEmpty && name.isPrefixOf (txt "split-string")
      match isSplit, long.contains '=', more with
      | true, true, _ => spread tells [] (long.drop (name.length + 1)) more
      | true, false, text :: rest => spread tells [] text rest
      | _, _, _ =>
        if long.isEmpty then .ok { args := a :: more }
        else pass (tells || long = txt "debug") [a] more
    | '-' :: c :: letters =>
      let flags := (c :: letters).takeWhile fun c => "i0v".toList.contains c
      let tells := tells || flags.contains 'v'
      let kept := if flags.isEmpty then [] else ['-' :: flags]
      match (c :: letters).drop flags.length, more with
      | 'S' :: text@(_ :: _), _ => spread tells kept text more
      | ['S'], text :: rest => spread tells kept text rest
      | ['u'], value :: rest | ['C'], value :: rest => pass tells [a, value] rest
      | _, _ => pass tells [a] more
    | ['-'] => pass tells [a] more
    | _ => .ok { args := a :: more }

/-! ## The program -/

def envOptions : OptionTable where
  letters := txt "i0vL"
  valued := txt "uCS"
  optional := txt "BDI"
  long := [(txt "ignore-environment", 'i'), (txt "unset", 'u'), (txt "chdir", 'C'),
    (txt "split-string", 'S'), (txt "null", '0'), (txt "debug", 'v'), (txt "block-signal", 'B'),
    (txt "default-signal", 'D'), (txt "ignore-signal", 'I'), (txt "list-signal-handling", 'L')]
  leading := true

/-- Why variables cannot be changed, or a command not be run. -/
inductive EnvFault
  | noSignal (s : Chars)
  | noVariable (s : Chars)
  | nulBehindCommand
  | folderWithoutCommand

/-- The message of a fault, and whether it tells of help. -/
def EnvFault.message : EnvFault → Chars × Bool
  | .noSignal s => (cited s ++ txt ": invalid signal", true)
  | .noVariable s => (txt "cannot unset " ++ cited s ++ txt ": Invalid argument", false)
  | .nulBehindCommand => (txt "cannot specify --null (-0) with command", true)
  | .folderWithoutCommand => (txt "must specify command with --chdir (-C)", true)

/-- What stands in the way of what the options ask for, if anything does. -/
def envFault? (p : Parsed) (clears : Bool) (command : List Chars) : Option EnvFault :=
  let names := p.options.filterMap fun (c, value) =>
    if "BDI".toList.contains c then some (Text.splitOn (· == ',') value) else none
  let isSignal (s : Chars) : Bool :=
    s.isEmpty || (Signal.number? (if (txt "SIG").isPrefixOf s then s.drop 3 else s)).isSome
  let unset := (p.options.filter (·.1 == 'u')).map (·.2)
  match names.flatten.find? (!isSignal ·), unset.find? fun s => s.isEmpty || s.contains '=' with
  | some s, _ => some (.noSignal s)
  | none, some s => if clears then faultOfCommand else some (.noVariable s)
  | none, none => faultOfCommand
where
  faultOfCommand : Option EnvFault :=
    if p.has '0' && !command.isEmpty then some .nulBehindCommand
    else if p.has 'C' && command.isEmpty then some .folderWithoutCommand
    else none

/-- Changes the variables as options and assignments ask for. -/
def changeVariables (p : Parsed) (clears : Bool) (assignments : List Chars)
    (tell : Chars → Act Unit) : Act Unit := do
  if clears then
    tell (txt "cleaning environ")
    modifySelf fun q => { q with bindings := [] }
  else
    p.options.forM fun (c, name) => do
      if c = 'u' then
        tell (txt "unset:    " ++ name)
        modifySelf fun q => { q with bindings := q.bindings.filter (·.1 != name) }
  assignments.forM fun a => do
    tell (txt "setenv:   " ++ a)
    let name := a.takeWhile (· != '=')
    setVariable name (a.drop (name.length + 1))
    changeVariable name fun v => { v with exported := true }

/-- Runs a command, or says why there is none. -/
def runNamed (start : Start) (words : List Chars) : Program := do
  let name := words.head?.getD []
  let status ← withCommand start cited words
  if status = 127 && name.any isSpace then
    if !(← files).isPresent (Chars.toPath name) then
      problem (txt "use -[v]S to pass options in shebang lines")
  return status

/-- Runs a program in an environment with changed variables, or lists the variables. -/
def env (start : Start) : Program := do
  let vars := (← self).bindings
  let value (name : Chars) : Option Chars := (vars.lookup name).bind (·.value)
  let args := (← self).args
  let size := args.foldl (fun n a => n + a.length + 1) 1
  match splitArguments value size false args with
  | .error e =>
    problem e.message
    return 125
  | .ok split =>
    split.told.forM fun line => complain (line ++ ['\n'])
    modifySelf fun q => { q with args := split.args }
    withOptions envOptions 125 fun p => do
      let dashed := p.operands.head? = some ['-']
      let clears := dashed || p.has 'i'
      let operands := if dashed then p.operands.drop 1 else p.operands
      let assignments := operands.takeWhile (·.contains '=')
      let words := operands.drop assignments.length
      let tell (line : Chars) : Act Unit := do if p.has 'v' then complain (line ++ ['\n'])
      match envFault? p clears words with
      | some f =>
        let (message, helps) := f.message
        if helps then misuse message 125
        else
          problem message
          return 125
      | none =>
        changeVariables p clears assignments tell
        if words.isEmpty then
          return ← emitOnly (endedBy (p.has '0')
            ((exportedVariables (← self)).map fun (n, v) => n ++ '=' :: v))
        if let some folder := p.value? 'C' then
          tell (txt "chdir:    " ++ quoted folder)
          if let some reason ← enter folder then
            problem (txt "cannot change directory to " ++ quoted folder ++ txt ": " ++
              reason.toList)
            return 125
        tell (txt "executing: " ++ words.head?.getD [])
        words.zipIdx.forM fun (w, i) =>
          tell (txt "   arg[" ++ Chars.ofNat i ++ txt "]= " ++ cited w)
        runNamed start words

end Conformance.Host.Utility
