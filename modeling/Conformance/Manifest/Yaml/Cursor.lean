import Conformance.Manifest.Yaml.Fault
import Conformance.Text.Lines

/-!
# Scanning characters

The state of a scan: the characters that are left, the place they start at, the columns at which
the open blocks are indented, and for each open bracket, innermost first, the place where a key
may have begun without a mark before it.
-/
namespace Conformance.Manifest.Yaml

inductive Style
  | plain
  | quoted
  | literal
  | folded
deriving DecidableEq, Repr

inductive TokenKind
  | streamStart
  | streamEnd
  | version (major minor : Nat)
  | tagDirective (handle start : String)
  | documentStart
  | documentEnd
  | blockSequenceStart
  | blockMappingStart
  | blockEnd
  | flowSequenceStart
  | flowSequenceEnd
  | flowMappingStart
  | flowMappingEnd
  | blockEntry
  | flowEntry
  | key
  | value
  | aliasOf (name : String)
  | anchor (name : String)
  | tag (handle suffix : String)
  | scalar (text : String) (style : Style)
deriving DecidableEq, Repr

structure Token where
  kind : TokenKind
  start : Mark
  stop : Mark
deriving DecidableEq, Repr

/-- A place where a key may have begun: the number of its first token, and whether there has to be
a key because the line is indented like the block. -/
structure KeyPlace where
  token : Nat
  required : Bool
  mark : Mark
deriving Repr

structure Cursor where
  rest : List Char
  mark : Mark := {}
  indent : Int := -1
  indents : List Int := []
  keyAllowed : Bool := true
  /-- One entry for the block context and one for each open bracket, innermost first. -/
  keys : List (Option KeyPlace) := [none]
  tokens : Array Token := #[]
  ended : Bool := false

abbrev Scan := EStateM Fault Cursor

def isBreak (c : Char) : Bool :=
  c == '\r' || c == '\n' || c == '\u0085' || c == '\u2028' || c == '\u2029'

def isBlank (c : Char) : Bool :=
  c == ' ' || c == '\t'

/-- A line break or the end. -/
def isBreakEnd (c : Option Char) : Bool :=
  (c.map isBreak).getD true

/-- A blank, a line break or the end. -/
def isBlankEnd (c : Option Char) : Bool :=
  (c.map fun c => isBlank c || isBreak c).getD true

/-- The characters of names. -/
def isNameChar (c : Char) : Bool :=
  c.isAlphanum || c == '_' || c == '-'

namespace Scan

/-- The character `n` places ahead; none behind the end. -/
def look (n : Nat) : Scan (Option Char) := do
  return (← get).rest[n]?

def peek : Scan (Option Char) :=
  look 0

def mark : Scan Mark := do
  return (← get).mark

def column : Scan Nat := do
  return (← get).mark.column

def left : Scan Nat := do
  return (← get).rest.length

/-- Whether a bracket is open. -/
def inFlow : Scan Bool := do
  return 1 < (← get).keys.length

/-- Passes over `n` characters of the line. -/
def skip (n : Nat := 1) : Scan Unit :=
  modify fun s =>
    let size := Text.byteLength (s.rest.take n)
    { s with rest := s.rest.drop n
             mark := { s.mark with index := s.mark.index + size, column := s.mark.column + n } }

/-- Takes the characters of the line that satisfy `p`. -/
def takeWhile (p : Char → Bool) : Scan (List Char) := do
  let cs := (← get).rest.takeWhile p
  skip cs.length
  return cs

def skipWhile (p : Char → Bool) : Scan Unit := do
  let _ ← takeWhile p

/-- Passes over a line break of `n` characters. -/
def nextLine (n : Nat) : Scan Unit :=
  modify fun s =>
    let size := Text.byteLength (s.rest.take n)
    { s with rest := s.rest.drop n
             mark := { index := s.mark.index + size, line := s.mark.line + 1, column := 0 } }

/-- Takes a line break, if there is one. Two of the break characters stand for themselves, the
others for a line feed. -/
def takeBreak : Scan (List Char) := do
  match (← get).rest with
  | '\r' :: '\n' :: _ =>
    nextLine 2
    return ['\n']
  | c :: _ =>
    if isBreak c then
      nextLine 1
      return [if c == '\u2028' || c == '\u2029' then c else '\n']
    else return []
  | [] => return []

/-- Passes over blanks, a comment and the line break; false if something else stands there. -/
def lineEnd : Scan Bool := do
  skipWhile isBlank
  if (← peek) = some '#' then skipWhile (! isBreak ·)
  if isBreakEnd (← peek) then
    let _ ← takeBreak
    return true
  else return false

/-- Fails at the present place. -/
def fail {α : Type} (context : Option (Context × Mark)) (problem : Problem) : Scan α := do
  throw (.malformed problem (← mark) context)

/-- Three times `c` at the start of a line, and a blank behind. -/
def isMarker (c : Char) : Scan Bool := do
  let s ← get
  return s.mark.column == 0 && s.rest.take 3 == [c, c, c] && isBlankEnd s.rest[3]?

def isDocumentMarker : Scan Bool := do
  return (← isMarker '-') || (← isMarker '.')

end Scan
end Conformance.Manifest.Yaml
