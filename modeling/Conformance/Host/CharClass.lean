import Conformance.Host.Letters

/-!
# Classes of characters

The classes that patterns, expressions and sets of characters name, such as `[:digit:]`. Of the
characters that stand for bytes only those of ASCII belong to a class.
-/
namespace Conformance.Host

/-- A character that parts words. -/
def isSpace (c : Char) : Bool :=
  c == ' ' || (9 ≤ c.toNat && c.toNat ≤ 13)

/-- A character that leaves a gap in a line. -/
def isBlank (c : Char) : Bool :=
  c == ' ' || c == '\t'

/-- A character that stands between the fields of a text. -/
def isFieldBlank (c : Char) : Bool :=
  isBlank c || c == '\n'

/-- A character beyond those of bytes that stands for a letter as asked for. -/
def isFar (member : Nat → Bool) (c : Char) : Bool :=
  0x100 ≤ c.toNat && (Chars.letterNumber? c).any member

/-- A letter of the alphabet. -/
def isAlphabetic (c : Char) : Bool :=
  c.isAlpha || isFar Letter.makesWords c

/-- A character that words are made of. -/
def isWordChar (c : Char) : Bool :=
  c.isDigit || c == '_' || isAlphabetic c

/-- The value of a digit of base 16. -/
def hexDigitValue (c : Char) : Option Nat :=
  if c.isDigit then some (c.toNat - '0'.toNat)
  else if 'a' ≤ c && c ≤ 'f' then some (c.toNat - 'a'.toNat + 10)
  else if 'A' ≤ c && c ≤ 'F' then some (c.toNat - 'A'.toNat + 10)
  else none

/-- The character that a letter behind a backslash stands for. -/
def escapedChar? (c : Char) : Option Char :=
  match c with
  | 'n' => some '\n'
  | 't' => some '\t'
  | 'f' => some '\x0c'
  | 'v' => some '\x0b'
  | 'a' => some '\x07'
  | 'r' => some '\r'
  | _ => none

/-- A character that leaves a mark on paper. -/
def isGraphic (c : Char) : Bool :=
  0x20 < c.toNat && c.toNat < 0x7f

/-- The members of the class of a name. -/
def classMembers (name : Chars) : Option (Char → Bool) :=
  let shown (c : Char) : Bool := isFar (fun n => Letter.shows (Char.ofNat n)) c
  match String.ofList name with
  | "alpha" => some isAlphabetic
  | "digit" => some Char.isDigit
  | "alnum" => some fun c => c.isDigit || isAlphabetic c
  | "upper" => some fun c => c.isUpper || isFar (fun n => (Letter.small? n).isSome) c
  | "lower" => some fun c => c.isLower || isFar (fun n => (Letter.capital? n).isSome) c
  | "space" => some isSpace
  | "blank" => some isBlank
  | "punct" => some fun c => (isGraphic c && !c.isAlphanum) || (shown c && !isAlphabetic c)
  | "print" => some fun c => c == ' ' || isGraphic c || shown c
  | "graph" => some fun c => isGraphic c || shown c
  | "cntrl" => some fun c => c.toNat < 0x20 || c.toNat = 0x7f
  | "xdigit" => some fun c => c.isDigit || "abcdefABCDEF".toList.contains c
  | _ => none

end Conformance.Host
