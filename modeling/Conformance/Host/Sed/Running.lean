import Conformance.Host.Sed.Editor

/-!
# Running scripts

Each round reads a line, carries out the commands that are for it, and shows what the buffer holds.
A jump may go back, so that a round need not end; how many commands are carried out is bounded by
a number that no script reaches that ends.
-/
namespace Conformance.Host.Sed

/-- A command that a line asks for. -/
structure Errand where
  command : Chars
  /-- What the command says takes the place of the line. -/
  replaces : Bool

/-- How a round ends. -/
inductive RoundEnd
  /-- The buffer is shown or not, and the next round begins. -/
  | settled (shown : Bool)
  /-- The next round begins with what is in the buffer. -/
  | again
  | leave (shown : Bool) (status : Nat)
  /-- A command is to be run, after which the round goes on. -/
  | asks (errand : Errand) (rest : List Command)
  /-- An expression was wanted that was used last, and there is none. -/
  | noExpression
  /-- The commands do not come to an end. -/
  | endless

/-- The effect of a command that goes on with the next one. -/
def carryOut (x : Setting) (c : Command) (e : Editor) : Editor :=
  match c.edit with
  | .showBuffer => e.sayLine x e.buffer
  | .showLine => e.say x (e.buffer.text.takeWhile (· != '\n') ++ [x.mark])
  | .showEscaped width =>
    e.say x (escapedLines (width.getD x.width) 0 (Chars.spelled e.buffer.text))
  | .number => e.say x (Chars.ofNat e.line ++ ['\n'])
  | .inputName => e.say x (e.file ++ ['\n'])
  | .exchange old new =>
    let text := e.buffer.text.map fun c => ((old.idxOf? c).bind fun i => new[i]?).getD c
    { e with buffer := { e.buffer with text } }
  | .append s => { e with queue := .text s :: e.queue }
  | .insert s => e.say x s
  | .readFile name => { e with queue := .file name :: e.queue }
  | .readFirst name =>
    match e.contentOf? x name with
    | some s => if s.isEmpty then e else e.say x s
    | none => e
  | .readLine name =>
    match e.nextOf x name with
    | (some s, e) => { e with queue := .line s :: e.queue }
    | (none, e) => e
  | .write target lineOnly =>
    if lineOnly then
      e.writeTo x.mark target (e.buffer.text.takeWhile (· != '\n') ++ [x.mark]) true
    else e.writeLine x target e.buffer
  | .hold appended =>
    { e with held :=
        if appended then { e.held with text := e.held.text ++ '\n' :: e.buffer.text }
        else e.buffer }
  | .recall appended =>
    { e with buffer :=
        if appended then { e.buffer with text := e.buffer.text ++ '\n' :: e.held.text }
        else { e.buffer with text := e.held.text } }
  | .swap => { e with buffer := e.held, held := e.buffer }
  | .empty => { e with buffer := { e.buffer with text := [] } }
  | _ => e

/-- Carries out commands until one of them ends the round. -/
def runCommands (x : Setting) (s : Script) : (fuel : Nat) → List Command → Editor →
    RoundEnd × Editor
  | 0, _, e => (.endless, e)
  | _, [], e => (.settled true, e)
  | fuel + 1, c :: cs, e =>
    let onward (e : Editor) : RoundEnd × Editor := runCommands x s fuel cs e
    match e.isFor c with
    | none => (.noExpression, e)
    | some (false, e) =>
      match c.edit with
      | .blockStart => runCommands x s fuel (afterBlock 0 cs) e
      | _ => onward e
    | some (true, e) =>
      match c.edit with
      | .jump rule name =>
        let taken := match rule with
          | .always => true
          | .replaced => e.replaced
          | .unreplaced => !e.replaced
        let e := match rule with
          | .always => e
          | .replaced | .unreplaced => { e with replaced := false }
        if taken then runCommands x s fuel ((s.fromLabel name).getD []) e else onward e
      | .delete => (.settled false, e)
      | .deleteLine =>
        match e.buffer.text.dropWhile (· != '\n') with
        | _ :: rest => (.again, { e with buffer := { e.buffer with text := rest } })
        | [] => (.settled false, e)
      | .quit shown status => (.leave shown status, e)
      | .change text =>
        let goesOn := c.scope.second.isSome && (e.ranges.lookup c.number).isSome
        (.settled false, if goesOn && !c.scope.negated then e else e.say x text)
      | .substitute r =>
        match e.substitute r with
        | none => (.noExpression, e)
        | some (false, e) => onward e
        | some (true, e) =>
          if !r.runs then runCommands x s fuel (r.effects ++ cs) e
          else
            let e := if r.shownFirst then e.sayLine x e.buffer else e
            (.asks ⟨e.buffer.text, true⟩ (r.effects ++ cs), e)
      | .run (some command) => (.asks ⟨command, false⟩ cs, e)
      | .run none =>
        let buffer := { e.buffer with ended := true }
        (.asks ⟨buffer.text, true⟩ cs, { e with buffer })
      | .next =>
        if e.isLast then (.leave true 0, e)
        else
          let e := (if x.quiet then e else e.sayLine x e.buffer).flush x
          match e.read? with
          | some (s, e) => onward { e with buffer := s }
          | none => (.leave true 0, e)
      | .nextAppended =>
        match e.read? with
        | some (s, e) =>
          let e := e.flush x
          onward { e with buffer := { s with text := e.buffer.text ++ '\n' :: s.text } }
        | none => (.leave true 0, e)
      | _ => onward (carryOut x c e)

/-- How a run ends. -/
inductive RunEnd
  | status (n : Nat) (left : Bool)
  /-- A command is to be run, after which so many rounds may follow. -/
  | asks (errand : Errand) (rest : List Command) (rounds : Nat)
  | noExpression
  | endless

/-- How many commands a round may carry out. -/
def maxSteps (e : Editor) : Nat :=
  20000 + 200 * e.ahead.length

/-- Goes through rounds to the end of the lines, the first of which may have begun: `left` is what
is left of it. -/
def runRounds (x : Setting) (s : Script) : (fuel : Nat) → (left : Option (List Command)) →
    Editor → RunEnd × Editor
  | 0, _, e => (.status 0 false, e)
  | fuel + 1, left, e =>
    let started := match left with
      | some commands => some (commands, e)
      | none => e.read?.map fun (line, e) => (s.commands, { e with buffer := line })
    match started with
    | none => (.status 0 false, e)
    | some (commands, e) =>
      let finished (shown : Bool) (e : Editor) : Editor :=
        (if shown && !x.quiet then e.sayLine x e.buffer else e).flush x
      match runCommands x s (maxSteps e) commands e with
      | (.settled shown, e) => runRounds x s fuel none (finished shown e)
      | (.again, e) => runRounds x s fuel (some s.commands) (finished false e)
      | (.asks errand rest, e) => (.asks errand rest fuel, e)
      | (.leave shown status, e) =>
        (.status status true, if shown then finished true e else e)
      | (.noExpression, e) => (.noExpression, e)
      | (.endless, e) => (.endless, e)

/-- The ranges that go on before the first line is read: those that begin with line zero. -/
def initialRanges (s : Script) : List (Nat × Nat) :=
  s.commands.filterMap fun c => match c.scope.first with
    | some (.line 0) => some (c.number, 0)
    | _ => none

/-- The lines of a text. -/
def inputLines (mark : Char) (file text : Chars) : List InputLine :=
  let lines := Utility.recordsOf (mark == '\x00') text
  lines.zipIdx.map fun (s, i) =>
    let ended := i + 1 < lines.length || text.getLast? = some mark
    { space := { text := Chars.joined s, ended }, file }

/-- With what a command said. -/
def Editor.told (e : Editor) (x : Setting) (errand : Errand) (said : Chars) : Editor :=
  if errand.replaces then
    let text := if said.getLast? = some x.mark then said.dropLast else said
    { e with buffer := { e.buffer with text := Chars.joined text } }
  else if said.isEmpty then e
  else e.say x said

/-- Edits lines by a script, after what was written before. -/
def run (x : Setting) (s : Script) (written : List (Outlet × Writing)) (lines : List InputLine) :
    RunEnd × Editor :=
  let size := lines.foldl (fun n l => n + l.space.text.length + 2) 2
  runRounds x s (2 * size) none { ahead := lines, ranges := initialRanges s, written }

end Conformance.Host.Sed
