import Conformance.Path
import Conformance.Text.Utf8

/-!
# Texts of the host

The programs of the host know bytes only. A text of the host is a list of characters, each of which
stands for the byte with its number, so that the byte texts of scripts can be written and matched
like other texts.
-/
namespace Conformance.Host

/-- Bytes, each written as the character with its number. -/
abbrev Chars := List Char

namespace Chars

def ofBytes (b : Bytes) : Chars :=
  b.map fun x => Char.ofNat x.toNat

def toBytes (s : Chars) : Bytes :=
  s.map fun c => c.toNat.toUInt8

/-- The bytes of a text in UTF-8. -/
def ofText (s : String) : Chars :=
  ofBytes (Text.encode s)

/-- The text that the bytes encode. -/
def toText (s : Chars) : String :=
  Text.decodeLossy (toBytes s)

def toPath (s : Chars) : Path :=
  ⟨toText s⟩

def ofNat (n : Nat) : Chars :=
  (toString n).toList

def ofInt (n : Int) : Chars :=
  (toString n).toList

/-- Parts joined by `separator`. -/
def join (separator : Chars) : List Chars → Chars
  | [] => []
  | [s] => s
  | s :: more => s ++ separator ++ join separator more

/-- The parts of a text, each with the mark that ends it, after a part whose characters so far are
`part`, in reverse. -/
def partsAfter (mark : Char) (part : Chars) : Chars → List Chars
  | [] => if part.isEmpty then [] else [part.reverse]
  | c :: s =>
    if c = mark then (c :: part).reverse :: partsAfter mark [] s
    else partsAfter mark (c :: part) s

/-- The parts of a text, each with the mark that ends it; the last one may have none. -/
def endedParts (mark : Char) (s : Chars) : List Chars :=
  partsAfter mark [] s

/-- The lines of a text, each with the newline that ends it; the last one may have none. -/
def lines (s : Chars) : List Chars :=
  endedParts '\n' s

/-- Without the newline at the end, if there is one. -/
def withoutNewline (line : Chars) : Chars :=
  if line.getLast? = some '\n' then line.dropLast else line

/-- Whether every character is a digit and there is one. -/
def isDigits (s : Chars) : Bool :=
  !s.isEmpty && s.all Char.isDigit

/-- The number that digits write. -/
def natOfDigits (s : Chars) : Nat :=
  s.foldl (fun n c => 10 * n + (c.toNat - '0'.toNat)) 0

/-- The number written by digits alone. -/
def nat? (s : Chars) : Option Nat :=
  if isDigits s then some (natOfDigits s) else none

/-- The number written by digits and at most one sign. -/
def int? : Chars → Option Int
  | '-' :: s => (nat? s).map fun n => -(n : Int)
  | '+' :: s => (nat? s).map (·)
  | s => (nat? s).map (·)

/-- Digits of a number in a base, at least one. -/
def digits (base n : Nat) : Chars :=
  Nat.toDigits base n

end Chars

/-- A text that is given in a definition. -/
def txt (s : String) : Chars :=
  s.toList

end Conformance.Host
