import Conformance.Host.Utility.Expression

/-!
# Scripts that edit lines

A script is a row of commands, each of which is for some lines only. Blocks are marked by commands
for their start and their end, so that a jump may lead anywhere.
-/
namespace Conformance.Host.Sed

open Utility (Regex)

/-- What tells a line from others. -/
inductive Address
  | line (n : Nat)
  | lastLine
  /-- Lines that an expression is found in; without one, that which was used last. -/
  | found (r : Option Regex)
  | each (first step : Nat)
  /-- So many lines after the first one of a range. -/
  | after (lines : Nat)
  /-- The next line whose number is a multiple. -/
  | multiple (n : Nat)

/-- Which lines a command is for. -/
structure Scope where
  first : Option Address := none
  second : Option Address := none
  negated : Bool := false

/-- How letters are written. -/
inductive LetterCase
  | asIs
  | upper
  | lower
deriving DecidableEq

/-- A part of what is put in the place of a match: a text, what a group took, or a change of the
case of the letters that follow, of all or of the next one only. -/
inductive Part
  | text (s : Chars)
  | group (number : Nat)
  | letters (c : LetterCase)
  | nextLetter (c : LetterCase)

/-- Where lines are written to besides the output. -/
inductive Outlet
  | output
  | errors
  | file (name : Chars)
deriving DecidableEq

structure Substitution where
  sought : Option Regex
  parts : List Part
  /-- The match to begin with. -/
  first : Nat := 1
  all : Bool := false
  shown : Bool := false
  /-- The line is run as a command, whose output takes its place. -/
  runs : Bool := false
  /-- The line is shown before it is run. -/
  shownFirst : Bool := false
  outlet : Option Outlet := none

/-- When a jump is taken: always, or if a substitution was done or was not. -/
inductive JumpRule
  | always
  | replaced
  | unreplaced

inductive Edit
  | blockStart
  | blockEnd
  | label (name : Chars)
  | jump (rule : JumpRule) (label : Chars)
  | delete
  | deleteLine
  | showBuffer
  | showLine
  | showEscaped (width : Option Nat)
  | quit (shown : Bool) (status : Nat)
  | number
  | inputName
  | substitute (s : Substitution)
  | exchange (old new : Chars)
  /-- Shows what a command says; without one, the line is the command, and gets what that says. -/
  | run (command : Option Chars)
  | append (s : Chars)
  | insert (s : Chars)
  | change (s : Chars)
  | readFile (name : Chars)
  /-- Shows a file before the first line. -/
  | readFirst (name : Chars)
  | readLine (name : Chars)
  | write (target : Outlet) (lineOnly : Bool)
  | next
  | nextAppended
  | hold (appended : Bool)
  | recall (appended : Bool)
  | swap
  | empty
  | nothing

structure Command where
  /-- Tells commands apart. -/
  number : Nat := 0
  scope : Scope := {}
  edit : Edit

/-- What is done with a line after a substitution, and after it was run if that is asked for. -/
def Substitution.effects (s : Substitution) : List Command :=
  let written := s.outlet.toList.map fun target => { edit := .write target false }
  if s.shown then { edit := .showBuffer } :: written else written

/-- A script with what its first line says of the output. -/
structure Script where
  commands : List Command
  quiet : Bool := false

/-- The commands from a label on; from an empty one there are none. -/
def Script.fromLabel (s : Script) (name : Chars) : Option (List Command) :=
  if name.isEmpty then some []
  else
    let rest := s.commands.dropWhile fun c => match c.edit with
      | .label other => other != name
      | _ => true
    if rest.isEmpty then none else some rest

/-- The commands after the end of a block, in which so many more blocks are open. -/
def afterBlock (depth : Nat) : List Command → List Command
  | [] => []
  | c :: cs =>
    match c.edit with
    | .blockStart => afterBlock (depth + 1) cs
    | .blockEnd => if depth = 0 then cs else afterBlock (depth - 1) cs
    | _ => afterBlock depth cs

/-- The targets of all commands that write. -/
def Script.outlets (s : Script) : List Outlet :=
  s.commands.filterMap fun c => match c.edit with
    | .write target _ => some target
    | .substitute x => x.outlet
    | _ => none

end Conformance.Host.Sed
