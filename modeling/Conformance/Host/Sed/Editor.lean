import Conformance.Host.Sed.Script
import Conformance.Host.Utility.Lines

/-!
# The editor

The editor holds a line in its buffer, another text aside, and what is left of the input. What it
writes is kept for each outlet; a line that lacks its newline is given one only if more follows it.
-/
namespace Conformance.Host.Sed

open Utility (Regex Place)

/-- A text, and whether a newline ended it. -/
structure Space where
  text : Chars := []
  ended : Bool := true

/-- A line of the input with the name of its file. -/
structure InputLine where
  space : Space
  file : Chars

/-- What was written to an outlet, the last first. -/
structure Writing where
  pieces : List Chars := []
  lacksEnd : Bool := false

/-- What is shown at the end of a round. -/
inductive Queued
  | text (s : Chars)
  | file (name : Chars)
  | line (s : Chars)

structure Editor where
  buffer : Space := {}
  held : Space := {}
  /-- The number of the line that was read last, and its file. -/
  line : Nat := 0
  file : Chars := ['-']
  /-- Lines that were not read so far. -/
  ahead : List InputLine := []
  /-- The number of the first line of each range that goes on, by the number of its command. -/
  ranges : List (Nat × Nat) := []
  /-- A substitution was done since a line was read or a jump was taken for it. -/
  replaced : Bool := false
  lastUsed : Option Regex := none
  written : List (Outlet × Writing) := []
  /-- What waits for the end of the round, the last first. -/
  queue : List Queued := []
  /-- What is left of files that are read line by line. -/
  opened : List (Chars × List Chars) := []

/-- What does not change while a script is run. -/
structure Setting where
  quiet : Bool := false
  /-- What ends a line. -/
  mark : Char := '\n'
  /-- The width to which lines are shown with escapes. -/
  width : Nat := 70
  /-- The content of files that can be read. -/
  content? : Chars → Option Chars
  /-- The input, if the script reads it as a file. -/
  typed : Chars := []
  /-- What is written to files gets there at once. -/
  unbuffered : Bool := false

/-- How much is kept of what is written to a file before it gets there. -/
def blockSize : Nat := 4096

namespace Editor

def isLast (e : Editor) : Bool :=
  e.ahead.isEmpty

/-! ## Writing -/

/-- Writes to an outlet, after the newline that may be missing there. `ended` tells that nothing
is missing then. -/
def writeTo (e : Editor) (mark : Char) (target : Outlet) (s : Chars) (ended : Bool) : Editor :=
  let s := Chars.spelled s
  let old := (e.written.lookup target).getD {}
  let pieces := if old.lacksEnd then s :: [mark] :: old.pieces else s :: old.pieces
  { e with written :=
      (target, { pieces, lacksEnd := !ended }) :: e.written.filter (·.1 != target) }

def say (e : Editor) (x : Setting) (s : Chars) : Editor :=
  e.writeTo x.mark .output s true

/-- Writes a text as a line; it ends as it was read. -/
def writeLine (e : Editor) (x : Setting) (target : Outlet) (s : Space) : Editor :=
  e.writeTo x.mark target (if s.ended then s.text ++ [x.mark] else s.text) s.ended

def sayLine (e : Editor) (x : Setting) (s : Space) : Editor :=
  e.writeLine x .output s

/-- What was written to an outlet. -/
def writtenTo (e : Editor) (target : Outlet) : Chars :=
  ((e.written.lookup target).getD {}).pieces.reverse.flatten

/-- What was written to an outlet and has got there. -/
def passedTo (e : Editor) (x : Setting) (target : Outlet) : Chars :=
  let s := e.writtenTo target
  if x.unbuffered then s else s.take (s.length / blockSize * blockSize)

/-- Without what was written to an outlet. -/
def forget (e : Editor) (target : Outlet) : Editor :=
  { e with written := e.written.map fun (t, w) =>
      (t, if t = target then { w with pieces := [] } else w) }

/-- What a file holds by now, which the editor may have written. -/
def contentOf? (e : Editor) (x : Setting) (name : Chars) : Option Chars :=
  if name = txt "/dev/stdin" then some x.typed
  else if (e.written.lookup (.file name)).isSome then some (e.passedTo x (.file name))
  else x.content? name

/-- Shows what waits for the end of the round. -/
def flush (e : Editor) (x : Setting) : Editor :=
  let shown := e.queue.reverse.foldl (fun e q => match q with
    | .text s => e.say x s
    | .line s => e.say x (s ++ [x.mark])
    | .file name =>
      match e.contentOf? x name with
      | some s => if s.isEmpty then e else e.say x s
      | none => e) e
  { shown with queue := [] }

/-! ## Reading -/

/-- Reads the next line. -/
def read? (e : Editor) : Option (Space × Editor) :=
  match e.ahead with
  | [] => none
  | l :: ahead =>
    some (l.space, { e with ahead, line := e.line + 1, file := l.file, replaced := false })

/-- The next line of a file that is read line by line. -/
def nextOf (e : Editor) (x : Setting) (name : Chars) : Option Chars × Editor :=
  let lines := (e.opened.lookup name).getD (((e.contentOf? x name).map Utility.bareLines).getD [])
  (lines.head?, { e with opened := (name, lines.drop 1) :: e.opened.filter (·.1 != name) })

/-! ## Addresses -/

/-- The expression that is meant: this one, or that which was used last. -/
def meant (e : Editor) (r : Option Regex) : Option Regex :=
  r <|> e.lastUsed

/-- How much of the input was not read so far. -/
def unreadLength (e : Editor) : Nat :=
  e.ahead.foldl (fun n l =>
    n + (Chars.spelled l.space.text).length + if l.space.ended then 1 else 0) 0

/-- Whether the current line is the one that an address names, and the editor that knows which
expression was used. There is no answer if no expression was used. -/
def meets (e : Editor) (a : Address) : Option (Bool × Editor) :=
  match a with
  | .line n => some (e.line == max 1 n, e)
  | .lastLine => some (e.isLast, e)
  | .each first step =>
    some (first ≤ e.line && (e.line - first) % step == 0, e)
  | .after _ | .multiple _ => some (false, e)
  | .found r =>
    (e.meant r).map fun r =>
      ((r.find? [] e.buffer.text).isSome, { e with lastUsed := some r })

/-- Whether a range that began at a line ends with the current one. -/
def endsRange (e : Editor) (began : Nat) (a : Address) : Option (Bool × Editor) :=
  match a with
  | .line n => some (n ≤ e.line, e)
  | .after n => some (began + n ≤ e.line, e)
  | .multiple n => some (n = 0 || e.line % n == 0, e)
  | a => e.meets a

/-- Whether a range that begins with the current line ends with it. -/
def isSingle (e : Editor) (a : Address) : Bool :=
  match a with
  | .line n => n ≤ e.line
  | .after n => n == 0
  | .multiple n => n == 0
  | .lastLine => e.isLast
  | .found _ | .each _ _ => false

/-- Whether a command is for the current line. -/
def isFor (e : Editor) (c : Command) : Option (Bool × Editor) := do
  let turned (found : Bool × Editor) : Bool × Editor := (found.1 != c.scope.negated, found.2)
  match c.scope.first, c.scope.second with
  | none, _ => return turned (true, e)
  | some a, none => (e.meets a).map turned
  | some a, some b =>
    let closed (e : Editor) : Editor := { e with ranges := e.ranges.filter (·.1 != c.number) }
    let starts (e : Editor) : Option (Bool × Editor) := do
      let (met, e) ← e.meets a
      if !met then return (false, e)
      if e.isSingle b then return (true, e)
      return (true, { e with ranges := (c.number, e.line) :: e.ranges })
    match e.ranges.lookup c.number, b with
    | some _, .line n =>
      if n < e.line then ((closed e).meets a).map turned
      else return turned (true, if n ≤ e.line then closed e else e)
    | some began, b =>
      let (ends, e) ← e.endsRange began b
      return turned (true, if ends then closed e else e)
    | none, _ => (starts e).map turned

/-! ## Substitutions -/

/-- A text with the case of its letters changed, and the change that is left for the next one. -/
def cased (all : LetterCase) (next : Option LetterCase) (s : Chars) :
    Chars × Option LetterCase :=
  let change (c : LetterCase) (x : Char) : Char :=
    match c with
    | .asIs => x
    | .upper => Chars.raised x
    | .lower => Chars.lowered x
  match s with
  | [] => ([], next)
  | x :: rest => (change (next.getD all) x :: rest.map (change all), none)

/-- What stands in the place of a match. -/
def replacementText (start finish : Place) (all : LetterCase) (next : Option LetterCase) :
    List Part → Chars
  | [] => []
  | .letters c :: parts => replacementText start finish c none parts
  | .nextLetter c :: parts => replacementText start finish all (some c) parts
  | .text s :: parts =>
    let (t, next) := cased all next s
    t ++ replacementText start finish all next parts
  | .group n :: parts =>
    let taken := if n = 0 then start.since finish else (finish.groups.lookup n).getD []
    let (t, next) := cased all next taken
    t ++ replacementText start finish all next parts

/-- A text whose first letter is parted into its bytes. -/
def parted : Chars → Chars
  | [] => []
  | c :: s => Chars.spelled [c] ++ s

/-- A text with matches replaced, and whether there was one to replace. An empty match right after
another one is none, and the search goes on at the next byte. -/
def replaceIn (s : Substitution) (r : Regex) :
    (fuel count : Nat) → (fresh : Bool) → (passed rest : Chars) → Chars × Bool
  | 0, _, _, _, rest => (rest, false)
  | fuel + 1, count, fresh, passed, rest =>
    match r.find? passed rest with
    | none => (rest, false)
    | some (start, finish) =>
      let before := (Place.mk passed rest []).since start
      let isEmpty := finish.rest.length = start.rest.length
      let isNone := isEmpty && !fresh && before.isEmpty
      let step (shown : Chars) (done : Bool) (count : Nat) : Chars × Bool :=
        if isEmpty then
          match if isNone then parted finish.rest else finish.rest with
          | [] => (before ++ shown, done)
          | c :: more =>
            let (t, d) := replaceIn s r fuel count true (c :: finish.passed) more
            (before ++ shown ++ c :: t, done || d)
        else
          let (t, d) := replaceIn s r fuel count false finish.passed finish.rest
          (before ++ shown ++ t, done || d)
      if isNone then step [] false count
      else if count + 1 < s.first then step (start.since finish) false (count + 1)
      else
        let shown := replacementText start finish .asIs none s.parts
        if s.all then step shown true (count + 1)
        else (before ++ shown ++ finish.rest, true)

/-- Carries out a substitution, and whether there was something to replace; there is no answer if
no expression was used. -/
def substitute (e : Editor) (s : Substitution) : Option (Bool × Editor) := do
  let r ← e.meant s.sought
  let text := e.buffer.text
  let (t, done) := replaceIn s r (5 * text.length + 2) 0 true [] text
  let e := { e with lastUsed := some r, buffer := { e.buffer with text := t } }
  return (done, if done then { e with replaced := true } else e)

end Editor

/-! ## Escapes -/

/-- A character as it is shown where all of them are to be seen. -/
def escapedShown (c : Char) : Chars :=
  match c with
  | '\\' => txt "\\\\"
  | '\x07' => txt "\\a"
  | '\x08' => txt "\\b"
  | '\x0c' => txt "\\f"
  | '\n' => txt "\\n"
  | '\r' => txt "\\r"
  | '\t' => txt "\\t"
  | '\x0b' => txt "\\v"
  | c =>
    if c == ' ' || isGraphic c then [c]
    else
      let digits := Chars.digits 8 c.toNat
      '\\' :: List.replicate (3 - digits.length) '0' ++ digits

/-- A text with all its characters to be seen, in lines of some width; without a width, in one. -/
def escapedLines (width : Nat) (here : Nat) : Chars → Chars
  | [] => txt "$\n"
  | c :: s =>
    let shown := escapedShown c
    if width ≠ 0 && width - 1 < here + shown.length then
      txt "\\\n" ++ shown ++ escapedLines width shown.length s
    else shown ++ escapedLines width (here + shown.length) s

end Conformance.Host.Sed
