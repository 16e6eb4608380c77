import Conformance.Host.Shell.Reader

/-!
# Reading commands

A script is read line by line: each line gives commands that can be run before the next line is
read, so a mistake further on does not keep the commands before it from being run.
-/
namespace Conformance.Host.Shell

/-- The words that end the script inside a compound command. -/
def closers : List Chars :=
  ["then", "do", "done", "fi", "elif", "else", "esac", "\x7d"].map txt

/-- Whether the next token ends a script. -/
def atCloser : Parse Bool := do
  match ← look with
  | .finish => return true
  | .operator o => return o = txt ")" || o = txt ";;"
  | .newline => return false
  | .word =>
    match ← lookReserved with
    | some w => return closers.contains w
    | none => return false

/-- The text of a word that ends a here-document, and whether a part of it is quoted. -/
def endingOf (w : Word) : Chars × Bool :=
  (w.flatMap fun
      | .text _ s => s
      | _ => [],
    w.any fun
      | .text q _ => q
      | _ => false)

section

variable (script : Parse (List Command))

/-- The redirection that comes next, if one does. -/
def redirect? : Parse (Option Redirect) := do
  skipBlanks
  let s := (← get).rest
  let number := (s.take 1).takeWhile Char.isDigit
  let after := s.drop number.length
  match redirectOperators.find? (·.isPrefixOf after) with
  | none => return none
  | some o =>
    skip (number.length + o.length)
    if (← look) ≠ .word then unexpected
    let w ← readWord script
    let input := o.head? = some '<'
    let target := if number.isEmpty then (if input then 0 else 1) else Chars.natOfDigits number
    if o = txt "<<" || o = txt "<<-" then
      let (ending, verbatim) := endingOf w
      let r ← get
      let due := { number := r.next, ending, stripped := o = txt "<<-", verbatim }
      set { r with next := r.next + 1, due := r.due ++ [due] }
      return some (.document target r.next)
    else
      let direction : Direction :=
        if o = txt "<&" || o = txt ">&" then .copy
        else if o = txt "<>" then .both
        else if o = txt ">>" then .append
        else if o = txt ">|" then .clobber
        else if input then .input
        else .output
      if direction = .copy then
        match plainWord? w with
        | some t => if t ≠ ['-'] && !Chars.isDigits t then fail "Syntax error: Bad fd number"
        | none => pure ()
      return some (.file target direction w)

def redirects : (fuel : Nat) → Parse (List Redirect)
  | 0 => return []
  | fuel + 1 => do
    match ← redirect? script with
    | none => return []
    | some r => return r :: (← redirects fuel)

/-- The name that a word assigns to, and the word assigned. -/
def assignment? : Word → Option (Chars × Word)
  | .text false s :: ps =>
    let name := s.takeWhile (· != '=')
    let value := s.drop (name.length + 1)
    if isName name && name.length < s.length then
      some (name, if value.isEmpty then ps else .text false value :: ps)
    else none
  | _ => none

/-- What a simple command has so far. -/
structure Parts where
  assignments : List (Chars × Word) := []
  words : List Word := []
  redirects : List Redirect := []

def Parts.isEmpty (p : Parts) : Bool :=
  p.assignments.isEmpty && p.words.isEmpty && p.redirects.isEmpty

/-- Reads a simple command, or the definition of a function whose body `command` reads. The command
is on the line on which its first word ends. -/
def simple (command : Parse Command) (line : Nat) : (fuel : Nat) → Parts → Parse Command
  | 0, _ => fail "Syntax error: command too long"
  | fuel + 1, p => do
    match ← redirect? script with
    | some r => simple command line fuel { p with redirects := p.redirects ++ [r] }
    | none =>
      if p.words.isEmpty then replaceFirst else replaceNext
      match ← look with
      | .word =>
        let w ← readWord script
        let here := (← get).line
        let line := if p.isEmpty then here else line
        match if p.words.isEmpty then assignment? w else none with
        | some a => simple command line fuel { p with assignments := p.assignments ++ [a] }
        | none => simple command line fuel { p with words := p.words ++ [w] }
      | .operator ['('] =>
        match p.words, p.assignments.isEmpty && p.redirects.isEmpty with
        | [w], true =>
          skip 1
          expectOperator ")"
          match plainWord? w with
          | some name =>
            if !isName name then fail "Syntax error: Bad function name"
            skipNewlines script ((← get).rest.length + 1)
            return .define name (← command)
          | none => fail "Syntax error: Bad function name"
        | _, _ => if p.isEmpty then unexpected else return finished p
      | _ => if p.isEmpty then unexpected else return finished p
where
  finished (p : Parts) : Command :=
    .simple line p.assignments p.words p.redirects

/-- The words up to the end of a line. -/
def wordList : (fuel : Nat) → Parse (List Word)
  | 0 => return []
  | fuel + 1 => do
    if (← look) = .word then
      let w ← readWord script
      return w :: (← wordList fuel)
    else return []

/-- After `if` or `elif` and up to `fi`. -/
def choice : (fuel : Nat) → Parse Command
  | 0 => fail "Syntax error: command too long"
  | fuel + 1 => do
    let condition ← nonempty
    expectReserved "then"
    let body ← nonempty
    let next ← lookReserved
    if next = some (txt "elif") then
      skip 4
      return .choice condition body [← choice fuel]
    else if next = some (txt "else") then
      skip 4
      let otherwise ← nonempty
      expectReserved "fi"
      return .choice condition body otherwise
    else
      expectReserved "fi"
      return .choice condition body []
where
  nonempty : Parse (List Command) := do
    let body ← script
    if body.isEmpty && (← look) ≠ .finish then unexpected else return body

/-- A script between `do` and `done`. -/
def doBody : Parse (List Command) := do
  expectReserved "do"
  let body ← choice.nonempty script
  expectReserved "done"
  return body

/-- After `for`. -/
def each : Parse Command := do
  match ← look with
  | .word =>
    match plainWord? (← readWord script) with
    | none => fail "Syntax error: Bad for loop variable"
    | some name =>
      if !isName name then fail "Syntax error: Bad for loop variable"
      let fuel := (← get).rest.length + 1
      if (← look) = .newline then skipNewlines script fuel
      let words ←
        if (← lookReserved) = some (txt "in") then
          skip 2
          let ws ← wordList script fuel
          match ← look with
          | .newline => readNewline script
          | .operator [';'] => skip 1
          | _ => unexpected
          pure (some ws)
        else
          if (← look) = .operator [';'] then skip 1
          pure none
      skipNewlines script fuel
      return .each name words (← doBody script)
  | _ => fail "Syntax error: Bad for loop variable"

/-- The patterns of an arm, up to the bracket after them. -/
def patterns : (fuel : Nat) → Parse (List Word)
  | 0 => return []
  | fuel + 1 => do
    if (← look) ≠ .word then unexpected (some ")")
    let w ← readWord script
    if (← look) = .operator ['|'] then
      skip 1
      return w :: (← patterns fuel)
    else
      expectOperator ")"
      return [w]

/-- The arms of a `case`, up to `esac`. -/
def arms : (fuel : Nat) → Parse (List (List Word × List Command))
  | 0 => fail "Syntax error: command too long"
  | fuel + 1 => do
    skipNewlines script ((← get).rest.length + 1)
    if (← lookReserved) = some (txt "esac") then
      skip 4
      return []
    else
      if (← look) = .operator ['('] then skip 1
      let ps ← patterns script ((← get).rest.length + 1)
      let body ← script
      if (← look) = .operator (txt ";;") then
        skip 2
        return (ps, body) :: (← arms fuel)
      else
        expectReserved "esac"
        return [(ps, body)]

/-- After `case`. -/
def switch : Parse Command := do
  if (← look) ≠ .word then unexpected
  let w ← readWord script
  let fuel := (← get).rest.length + 1
  skipNewlines script fuel
  expectReserved "in"
  return .switch w (← arms script fuel)

/-- With the redirections that follow a compound command. -/
def withRedirects (line : Nat) (c : Command) : Parse Command := do
  let rs ← redirects script ((← get).rest.length + 1)
  return if rs.isEmpty then c else .redirected line c rs

def command : (fuel : Nat) → Parse Command
  | 0 => fail "Syntax error: command too long"
  | fuel + 1 => do
    replaceFirst
    let token ← look
    let line := (← get).line
    let word ← lookReserved
    let size := (← get).rest.length + 1
    if token = .operator ['('] then
      skip 1
      let body ← choice.nonempty script
      expectOperator ")"
      withRedirects script line (.subshell body)
    else match word.map String.ofList with
      | some "if" =>
        skip 2
        withRedirects script line (← choice script size)
      | some "while" =>
        skip 5
        let condition ← choice.nonempty script
        withRedirects script line (.loop false condition (← doBody script))
      | some "until" =>
        skip 5
        let condition ← choice.nonempty script
        withRedirects script line (.loop true condition (← doBody script))
      | some "for" =>
        skip 3
        withRedirects script line (← each script)
      | some "case" =>
        skip 4
        withRedirects script line (← switch script)
      | some "\x7b" =>
        skip 1
        let body ← choice.nonempty script
        expectReserved "\x7d"
        withRedirects script line (.group body)
      | some "in" | none => simple script (command fuel) line (size + 1) {}
      | some _ => unexpected

/-- Commands joined by bars. -/
def stages : (fuel : Nat) → Parse (List Command)
  | 0 => fail "Syntax error: command too long"
  | fuel + 1 => do
    let c ← command script ((← get).rest.length + 1)
    if (← look) = .operator ['|'] then
      skip 1
      skipNewlines script ((← get).rest.length + 1)
      return c :: (← stages fuel)
    else return [c]

def pipeline : Parse Command := do
  let negated := (← lookReserved) = some ['!']
  if negated then skip 1
  let cs ← stages script ((← get).rest.length + 1)
  return match cs with
    | [c] => if negated then .pipeline true cs else c
    | _ => .pipeline negated cs

/-- Pipelines after `left`, each run if the ones before it allow it. -/
def junctions (left : Command) : (fuel : Nat) → Parse Command
  | 0 => return left
  | fuel + 1 => do
    let kind ← match ← look with
      | .operator ['&', '&'] => pure (some Junction.both)
      | .operator ['|', '|'] => pure (some Junction.either)
      | _ => pure none
    match kind with
    | none => return left
    | some k =>
      skip 2
      skipNewlines script ((← get).rest.length + 1)
      let right ← pipeline script
      junctions (.junction k left right) fuel

def andOr : Parse Command := do
  let left ← pipeline script
  junctions script left ((← get).rest.length + 1)

end

/-- The script up to a closing word or bracket. -/
def compound : (fuel : Nat) → Parse (List Command)
  | 0 => fail "Syntax error: script too long"
  | fuel + 1 => do
    skipNewlines (compound fuel) ((← get).rest.length + 1)
    if ← atCloser then return []
    let c ← andOr (compound fuel)
    match ← look with
    | .operator ['&'] =>
      skip 1
      return .background c :: (← compound fuel)
    | .operator [';'] =>
      skip 1
      return c :: (← compound fuel)
    | .newline => return c :: (← compound fuel)
    | _ => return [c]

/-- The commands of one line. -/
def commandLine (script : Parse (List Command)) : (fuel : Nat) → Parse (List Command)
  | 0 => return []
  | fuel + 1 => do
    let rec end? : Parse Bool := do
      match ← look with
      | .finish => return true
      | .newline =>
        readNewline script
        return true
      | _ => return false
    if ← end? then return []
    let c ← andOr script
    match ← look with
    | .operator ['&'] =>
      skip 1
      return .background c :: (← commandLine script fuel)
    | .operator [';'] =>
      skip 1
      return c :: (← commandLine script fuel)
    | _ => if ← end? then return [c] else unexpected

/-- The commands of the next line of a script, or none at its end. -/
def nextLine : Parse (Option (List Command)) := do
  match ← look with
  | .finish => return none
  | _ =>
    let n := (← get).rest.length + 2
    return some (← commandLine (compound n) n)

end Conformance.Host.Shell
