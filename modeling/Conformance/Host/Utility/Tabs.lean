import Conformance.Host.Utility.Lines

/-!
# Tabs and blanks

A tab leads to the next of some columns, the stops. `expand` shows the blanks that a tab stands for,
and `unexpand` puts tabs where blanks lead to a stop.
-/
namespace Conformance.Host.Utility

/-! ## Stops -/

/-- What stops there are beyond those that are named. -/
inductive Beyond
  | nothing
  /-- All multiples of a number. -/
  | multiples (n : Nat)
  /-- Each as far from the one before it. -/
  | steps (n : Nat)

structure TabStops where
  /-- In order. -/
  named : List Nat
  beyond : Beyond

/-- The stop that a column leads to, if there is one. -/
def TabStops.next? (t : TabStops) (column : Nat) : Option Nat :=
  match t.named.find? (column < ·), t.beyond with
  | some stop, _ => some stop
  | none, .nothing => none
  | none, .multiples n => some (column + (n - column % n))
  | none, .steps n => some (column + (n - (column - t.named.getLast?.getD 0) % n))

/-- What a number in a list of stops is. -/
inductive StopKind
  | stop
  | multiple
  | step

/-- What has been read of lists of stops. -/
structure StopReading where
  stops : List Nat := []
  multiple : Nat := 0
  step : Nat := 0
  faults : List Chars := []

namespace StopReading

def fault (r : StopReading) (message : Chars) : StopReading :=
  { r with faults := r.faults ++ [message] }

/-- With a number that was read to its end. -/
def add (r : StopReading) (kind : StopKind) (n : Nat) : StopReading :=
  match kind with
  | .stop => { r with stops := r.stops ++ [n] }
  | .multiple =>
    if r.multiple = 0 then { r with multiple := n }
    else r.fault (txt "'/' specifier only allowed with the last value")
  | .step =>
    if r.step = 0 then { r with step := n }
    else r.fault (txt "'+' specifier only allowed with the last value")

/-- Reads a list, of whose last number the digits may have been read. -/
def read (r : StopReading) (kind : StopKind) (number : Option Nat) : (fuel : Nat) → Chars →
    StopReading
  | 0, _ => r
  | _ + 1, [] =>
    match number with
    | some n => if r.faults.isEmpty then r.add kind n else r
    | none => r
  | fuel + 1, c :: s =>
    let misplaced : StopReading :=
      if number.isNone then r
      else r.fault ('\'' :: c :: txt "' specifier not at start of number: " ++ cited (c :: s))
    match c with
    | ',' | ' ' | '\t' =>
      match number with
      | none => r.read kind none fuel s
      | some n =>
        let next := r.add kind n
        if r.faults.length < next.faults.length then next else next.read kind none fuel s
    | '/' => misplaced.read .multiple number fuel s
    | '+' => misplaced.read .step number fuel s
    | _ =>
      let digits := (c :: s).takeWhile Char.isDigit
      if digits.isEmpty then
        r.fault (txt "tab size contains invalid character(s): " ++ cited (c :: s))
      else
        let n := Chars.natOfDigits digits
        let next := if n < Nat.pow 2 64 then r
          else r.fault (txt "tab stop is too large " ++ cited digits)
        next.read kind (some n) fuel ((c :: s).drop digits.length)

/-- Reads one more list. -/
def readList (r : StopReading) (list : Chars) : StopReading :=
  r.read .stop none (list.length + 1) list

/-- The stops that were read; without any, all multiples of eight. -/
def toStops (r : StopReading) : Except Chars TabStops := do
  if r.stops.contains 0 then throw (txt "tab size cannot be 0")
  if !(r.stops.zip (r.stops.drop 1)).all (fun (a, b) => a < b) then
    throw (txt "tab sizes must be ascending")
  if r.multiple != 0 && r.step != 0 then
    throw (txt "'/' specifier is mutually exclusive with '+'")
  let beyond : Beyond :=
    if r.multiple != 0 then .multiples r.multiple
    else if r.step != 0 then .steps r.step
    else .nothing
  match r.stops, beyond with
  | [], .nothing => return { named := [], beyond := .multiples 8 }
  | [n], .nothing => return { named := [], beyond := .multiples n }
  | named, beyond => return { named, beyond }

end StopReading

/-- Goes on with the stops that were read, unless there is something wrong with them. -/
def withStops (r : StopReading) (body : TabStops → Program) : Program := do
  r.faults.forM problem
  if !r.faults.isEmpty then return 1
  match r.toStops with
  | .ok t => body t
  | .error message =>
    problem message
    return 1

/-! ## Tabs to blanks -/

/-- Where in a line a character stands. -/
structure LinePlace where
  column : Nat := 0
  /-- Tabs are still made blanks here. -/
  converting : Bool := true

/-- What is shown for a character, and the place behind it. -/
def TabStops.expandChar (t : TabStops) (whole : Bool) (p : LinePlace) (c : Char) :
    Chars × LinePlace :=
  if c = '\n' then (['\n'], {})
  else if !p.converting then ([c], p)
  else
    let converting := whole || isBlank c
    match c with
    | '\t' =>
      let column := (t.next? p.column).getD (p.column + 1)
      (List.replicate (column - p.column) ' ', { column, converting })
    | '\x08' => ([c], { column := p.column - 1, converting })
    | _ => ([c], { column := p.column + 1, converting })

/-- A text with blanks for its tabs, and the place behind it. -/
def TabStops.expandText (t : TabStops) (whole : Bool) (p : LinePlace) : Chars → Chars × LinePlace
  | [] => ([], p)
  | c :: s =>
    let (first, next) := t.expandChar whole p c
    let (rest, last) := t.expandText whole next s
    (first ++ rest, last)

def expand : Program :=
  withOptions
    { letters := ['i'], valued := ['t'], attached := txt "0123456789"
      long := [(txt "initial", 'i'), (txt "tabs", 't')] } 1 fun p =>
    let lists := p.options.filterMap fun (c, value) =>
      if c = 't' then some value else if c = 'i' then none else some (c :: value)
    withStops (lists.foldl StopReading.readList {}) fun t =>
      throughInputs unreadable (t.expandText (!p.has 'i')) {} p.operands

/-! ## Blanks to tabs -/

/-- Where in a line a character stands, and the blanks before it that are not shown yet. -/
structure BlankPlace where
  column : Nat := 0
  converting : Bool := true
  /-- The character before is a blank, or there is none. -/
  afterBlank : Bool := true
  waiting : Chars := []
  /-- A blank that waits leads to a stop by itself. -/
  single : Bool := false

namespace BlankPlace

/-- The blanks that wait, as they are shown before a character that is none. -/
def released (p : BlankPlace) : Chars :=
  if p.single && 1 < p.waiting.length then '\t' :: p.waiting.drop 1 else p.waiting

/-- The place in a line in which no blank waits. -/
def behind (column : Nat) (blank converting : Bool) : BlankPlace :=
  { column, converting, afterBlank := blank }

end BlankPlace

/-- What is shown for a character, and the place behind it. -/
def TabStops.unexpandChar (t : TabStops) (whole : Bool) (p : BlankPlace) (c : Char) :
    Chars × BlankPlace :=
  if c = '\n' then (p.released ++ ['\n'], {})
  else if !p.converting then ([c], p)
  else if isBlank c then
    match t.next? p.column with
    | none => (p.released ++ [c], .behind p.column true false)
    | some stop =>
      if c = '\t' then (single ++ ['\t'], .behind stop true true)
      else if p.afterBlank && p.column + 1 = stop then
        (single ++ ['\t'], .behind stop true true)
      else
        ([], { p with
          column := p.column + 1
          afterBlank := true
          waiting := p.waiting ++ [c]
          single := p.single || p.column + 1 == stop })
  else
    let column := if c = '\x08' then p.column - 1 else p.column + 1
    (p.released ++ [c], .behind column false whole)
where
  /-- A tab for the blank that leads to a stop by itself. -/
  single : Chars :=
    if p.single then ['\t'] else []

/-- A text with tabs for its blanks. -/
def TabStops.unexpandText (t : TabStops) (whole : Bool) : BlankPlace → Chars → Chars
  | p, [] => p.released
  | p, c :: s =>
    let (shown, next) := t.unexpandChar whole p c
    shown ++ t.unexpandText whole next s

/-- The numbers that options of one digit each write; a comma stands between two of them. -/
def digitLists (p : Parsed) : Chars :=
  (p.options.filter fun (c, _) => c.isDigit || c == ',').map (·.1)

def unexpand : Program :=
  withOptions
    { letters := txt "a,0123456789F", valued := ['t']
      long := [(txt "all", 'a'), (txt "first-only", 'F'), (txt "tabs", 't')] } 1 fun p =>
    let lists := (p.options.filter (·.1 == 't')).map (·.2) ++ [digitLists p]
    withStops (lists.foldl StopReading.readList {}) fun t => do
      let (text, status) ← gather p.operands unreadable
      emit (t.unexpandText ((p.has 'a' || p.has 't') && !p.has 'F') {} text)
      return status

end Conformance.Host.Utility
