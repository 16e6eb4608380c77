import Conformance.Manifest.Shape
import Conformance.Text.Utf8

/-!
# Reading bytes

A document is read byte by byte. A fault is placed before the next byte, or behind it when that
byte is at fault; a fault about a whole value is placed where reading has come to when the value
ends. Lines are counted from 1 and columns in bytes from 0.
-/
namespace Conformance.Manifest

/-- A place in a document. -/
structure Position where
  line : Nat
  column : Nat
deriving DecidableEq, Repr

namespace Json

inductive SyntaxFault
  | endInList
  | endInObject
  | endInString
  | endInValue
  | expectedColon
  | expectedListEnd
  | expectedObjectEnd
  | expectedWord
  | expectedValue
  | invalidEscape
  | invalidNumber
  | numberTooLarge
  | controlCharacter
  | keyNoString
  | loneSurrogate
  | trailingComma
  | trailingText
  | brokenPair
deriving DecidableEq, Repr

def SyntaxFault.message : SyntaxFault → String
  | endInList => "EOF while parsing a list"
  | endInObject => "EOF while parsing an object"
  | endInString => "EOF while parsing a string"
  | endInValue => "EOF while parsing a value"
  | expectedColon => "expected `:`"
  | expectedListEnd => "expected `,` or `]`"
  | expectedObjectEnd => "expected `,` or `\x7d`"
  | expectedWord => "expected ident"
  | expectedValue => "expected value"
  | invalidEscape => "invalid escape"
  | invalidNumber => "invalid number"
  | numberTooLarge => "number out of range"
  | controlCharacter => "control character (\\u0000-\\u001F) found while parsing a string"
  | keyNoString => "key must be a string"
  | loneSurrogate => "lone leading surrogate in hex escape"
  | trailingComma => "trailing comma"
  | trailingText => "trailing characters"
  | brokenPair => "unexpected end of hex escape"

inductive Cause
  | wording (fault : SyntaxFault)
  | shape (fault : ShapeFault)
deriving DecidableEq, Repr

def Cause.message : Cause → String
  | wording f => f.message
  | shape f => f.message

/-- A fault of a document; one of a whole value gets its place when the value ends. -/
structure Fault where
  cause : Cause
  position : Option Position := none
deriving DecidableEq, Repr

/-- Places a fault that has no place yet. -/
def Fault.placed (f : Fault) (p : Position) : Fault :=
  match f.position with
  | some _ => f
  | none => { f with position := some p }

structure Cursor where
  rest : Bytes
  position : Position := ⟨1, 0⟩

/-- The place behind a byte. -/
def Position.after (p : Position) (b : UInt8) : Position :=
  if b = 10 then ⟨p.line + 1, 0⟩ else ⟨p.line, p.column + 1⟩

/-- Past the first byte, if there is one. -/
def Cursor.advance (c : Cursor) : Cursor :=
  match c.rest with
  | [] => c
  | b :: rest => ⟨rest, Position.after c.position b⟩

/-- Past the first bytes that satisfy `p`. -/
def Cursor.skip (p : Char → Bool) (position : Position) : Bytes → Cursor
  | [] => ⟨[], position⟩
  | b :: rest =>
    if p (Char.ofNat b.toNat) then skip p (Position.after position b) rest
    else ⟨b :: rest, position⟩

abbrev Reader := EStateM Fault Cursor

/-- The next byte, as the character with its number. -/
def peek : Reader (Option Char) := do
  return (← get).rest.head?.map fun b => Char.ofNat b.toNat

def advance : Reader Unit :=
  modify Cursor.advance

/-- Takes the next byte. -/
def next : Reader (Option Char) := do
  let c ← peek
  advance
  return c

def isSpace (c : Char) : Bool :=
  c == ' ' || c == '\n' || c == '\t' || c == '\r'

/-- The next byte that is no space. -/
def token : Reader (Option Char) := do
  modify fun c => c.rest |> Cursor.skip isSpace c.position
  peek

/-- Fails before the next byte. -/
def fail {α : Type} (f : SyntaxFault) : Reader α := do
  throw { cause := .wording f, position := some (← get).position }

/-- Fails behind the next byte, which is at fault. -/
def failNext {α : Type} (f : SyntaxFault) : Reader α := do
  throw { cause := .wording f, position := some (← get).advance.position }

/-- Fails with a fault of a value whose end is not yet known. -/
def failShape {α : Type} (f : ShapeFault) : Reader α :=
  throw { cause := .shape f }

/-- Places the faults of `r` that have no place where reading has come to. -/
def placed {α : Type} (r : Reader α) : Reader α := fun c =>
  match r c with
  | .ok a c' => .ok a c'
  | .error f c' => .error (f.placed c'.position) c'

/-- Reads on to the end of a value whatever its inside was; a fault of the inside goes first. -/
def closedBy {α : Type} (inside : Reader α) (close : Reader Unit) : Reader α := fun c =>
  match inside c with
  | .ok a c' =>
    match close c' with
    | .ok _ c'' => .ok a c''
    | .error f c'' => .error f c''
  | .error f c' =>
    match close c' with
    | .ok _ c'' => .error f c''
    | .error _ c'' => .error f c''

/-- How many bytes are left: a bound on the steps that take one. -/
def left : Reader Nat := do
  return (← get).rest.length

end Json
end Conformance.Manifest
