import Conformance.Host.Utility.Lines

/-!
# Lines side by side, and long lines

`paste` puts lines of several inputs side by side, and `fold` parts long lines.
-/
namespace Conformance.Host.Utility

/-- Items with marks between them, which are used in turn; a mark may be empty. -/
def joinedBy (marks : List Chars) (items : List Chars) : Chars :=
  (items.zipIdx.map fun (s, i) =>
    if i = 0 then s else (marks[(i - 1) % max 1 marks.length]?).getD [] ++ s).flatten

/-- The lines of some texts side by side, as long as one of them has lines. -/
def sideBySide (marks : List Chars) : (fuel : Nat) → List (List Chars) → List Chars
  | 0, _ => []
  | fuel + 1, columns =>
    if columns.all List.isEmpty then []
    else
      joinedBy marks (columns.map fun c => c.head?.getD []) ::
        sideBySide marks fuel (columns.map (·.drop 1))

/-- Every line whose number leaves some rest. -/
def everyOther (step rest : Nat) (lines : List Chars) : List Chars :=
  (lines.zipIdx.filter fun (_, i) => i % max 1 step = rest).map (·.1)

/-- The marks that a list of them writes; a backslash begins an escape. -/
def pasteMarks : Chars → Option (List Chars)
  | ['\\'] => none
  | '\\' :: c :: s =>
    let mark := match c with
      | '0' => []
      | 'n' => ['\n']
      | 't' => ['\t']
      | 'b' => ['\x08']
      | 'f' => ['\x0c']
      | 'r' => ['\r']
      | 'v' => ['\x0b']
      | c => [c]
    (pasteMarks s).map (mark :: ·)
  | c :: s => (pasteMarks s).map ([c] :: ·)
  | [] => some []

/-- The lines of each input by name; inputs that are the input stream take its lines in turn, or
with `serial` set the first one takes all. -/
def pasteColumns (p : Parsed) (names : List Chars) : Act (Option (List (List Chars))) := do
  let streams := (names.filter (· == ['-'])).length
  let shared ← if streams = 0 then pure [] else do
    pure (recordsOf (p.has 'z') (← gather [['-']] unreadable).1)
  let rec go (seen : Nat) : List Chars → Act (Option (List (List Chars)))
    | [] => return some []
    | name :: more => do
      if name = ['-'] then
        let column := if !p.has 's' then everyOther streams seen shared
          else if seen = 0 then shared else []
        return (← go (seen + 1) more).map (column :: ·)
      let (text, status) ← gather [name] unreadable
      if status ≠ 0 then
        if !p.has 's' then return none
        return (← go seen more).map id
      return (← go seen more).map (recordsOf (p.has 'z') text :: ·)
  go 0 names

def paste : Program :=
  withOptions
    { letters := ['s', 'z'], valued := ['d']
      long := [(txt "serial", 's'), (txt "delimiters", 'd'), (txt "zero-terminated", 'z')] } 1
    fun p => do
    let list := (p.value? 'd').getD ['\t']
    match pasteMarks list with
    | none =>
      problem (txt "delimiter list ends with an unescaped backslash: " ++ list)
      return 1
    | some marks =>
      let marks := if marks.isEmpty then [[]] else marks
      let names := if p.operands.isEmpty then [['-']] else p.operands
      let ended (lines : List Chars) : Chars :=
        lines.flatMap (· ++ [if p.has 'z' then '\x00' else '\n'])
      match ← pasteColumns p names with
      | none => return 1
      | some columns =>
        let status := if columns.length = names.length then 0 else 1
        let longest := (columns.map List.length).foldl max 0
        emit (ended (if p.has 's' then columns.map (joinedBy marks)
          else sideBySide marks (longest + 1) columns))
        return status

/-! ## Folded lines -/

/-- How lines are folded. -/
structure Folding where
  width : Nat
  /-- Columns are bytes. -/
  bytes : Bool
  /-- Lines are parted behind blanks. -/
  atBlanks : Bool

namespace Folding

/-- The column after a character. -/
def column (f : Folding) (here : Nat) (c : Char) : Nat :=
  if f.bytes then here + 1
  else
    match c with
    | '\x08' => here - 1
    | '\r' => 0
    | '\t' => here + 8 - here % 8
    | _ => here + 1

def columns (f : Folding) (s : Chars) : Nat :=
  s.foldl f.column 0

/-- Parts of a line, after `part` of it in reverse. -/
def parts (f : Folding) : (fuel : Nat) → (part : Chars) → Chars → List Chars
  | 0, part, s => [part.reverse ++ s]
  | _ + 1, part, [] => [part.reverse]
  | fuel + 1, part, c :: s =>
    if part.isEmpty || f.column (f.columns part.reverse) c ≤ f.width then
      f.parts fuel (c :: part) s
    else
      let word := if f.atBlanks then part.takeWhile fun c => c != ' ' && c != '\t' else []
      if word.length = part.length then part.reverse :: f.parts fuel [] (c :: s)
      else (part.drop word.length).reverse :: f.parts fuel word (c :: s)

/-- A text with its lines folded. -/
def folded (f : Folding) (text : Chars) : Chars :=
  (Chars.lines text).flatMap fun line =>
    let bare := Chars.withoutNewline line
    Chars.join ['\n'] (f.parts (3 * bare.length + 1) [] bare) ++
      (if bare.length < line.length then ['\n'] else [])

end Folding

def fold : Program := do
  modifySelf fun q =>
    { q with args := q.args.map fun a =>
        if a.head? = some '-' && Chars.isDigits (a.drop 1) then txt "-w" ++ a.drop 1 else a }
  withOptions
    { letters := txt "bs", valued := ['w']
      long := [(txt "bytes", 'b'), (txt "spaces", 's'), (txt "width", 'w')] } 1 fun p => do
    let given := p.value? 'w'
    let width := (given.map fun s => (Chars.nat? s).getD 0).getD 80
    if width = 0 then
      problem (txt "invalid number of columns: " ++ cited (given.getD []) ++
        if given.any Chars.isDigits then txt ": Numerical result out of range" else [])
      return 1
    let f : Folding := { width, bytes := p.has 'b', atBlanks := p.has 's' }
    throughInputs unreadable (fun _ text => (f.folded text, ())) () p.operands

end Conformance.Host.Utility
