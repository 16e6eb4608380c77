import Conformance.Text.Lines

/-!
# Paths

A path is a text, and is shown as it was given. Its components are the parts between slashes:
empty parts and dots carry no meaning, but for a dot at the very start. Two paths are the same when
their components are, so `a//b/.` and `a/b` are one path with two spellings.
-/
namespace Conformance

structure Path where
  text : String
deriving DecidableEq, Repr, Inhabited

namespace Path

/-- What a part of a path asks for. -/
inductive Component
  | root
  | here
  | parent
  | name (text : List Char)
deriving DecidableEq, Repr

def chars (p : Path) : List Char :=
  p.text.toList

def ofChars (s : List Char) : Path :=
  ⟨String.ofList s⟩

def isSlash (c : Char) : Bool :=
  c == '/'

/-- The parts between slashes, empty ones among them. -/
def parts (p : Path) : List (List Char) :=
  Text.splitOn isSlash p.chars

def isAbsolute (p : Path) : Bool :=
  p.chars.head? == some '/'

def endsWithSlash (p : Path) : Bool :=
  p.chars.getLast? == some '/'

/-- The component of a part that is not the first. -/
def component? (part : List Char) : Option Component :=
  if part = [] ∨ part = ['.'] then none
  else if part = ['.', '.'] then some .parent
  else some (.name part)

def components (p : Path) : List Component :=
  let first :=
    if p.isAbsolute then [.root]
    else if p.parts.head? = some ['.'] then [.here]
    else []
  first ++ p.parts.filterMap component?

/-- Whether two paths have the same components. -/
def same (p q : Path) : Bool :=
  p.components == q.components

def mem (p : Path) (paths : List Path) : Bool :=
  paths.any p.same

/-- `q` seen from `p`; an absolute `q` stands for itself. -/
def join (p q : Path) : Path :=
  if q.isAbsolute then q
  else if p.chars = [] ∨ p.endsWithSlash then ofChars (p.chars ++ q.chars)
  else ofChars (p.chars ++ '/' :: q.chars)

/-- A reversed text without slashes and dots that stand for nothing at its end. The last `keep`
characters are its beginning and stay. -/
def trimReversed (keep : Nat) : List Char → List Char
  | '/' :: r => if r.length < keep then '/' :: r else trimReversed keep r
  | '.' :: '/' :: r =>
    if r.length + 1 < keep then '.' :: '/' :: r else trimReversed keep ('/' :: r)
  | r => r

/-- The length of a beginning that is a component by itself: a root, or a dot. -/
def leadLength (p : Path) : Nat :=
  if p.isAbsolute then 1 else if p.parts.head? = some ['.'] then 1 else 0

/-- The path up to its last component, if it has one to take away. -/
def parent? (p : Path) : Option Path :=
  let keep := p.leadLength
  let whole := trimReversed keep p.chars.reverse
  if whole = [] then none
  else if whole.length ≤ keep then
    if p.isAbsolute then none else some (ofChars [])
  else
    let rest := whole.drop (whole.takeWhile (! isSlash ·)).length
    some (ofChars (trimReversed keep rest).reverse)

/-- The path up to its last component, or the empty path. -/
def parent (p : Path) : Path :=
  p.parent?.getD ⟨""⟩

/-- The last component, if it is a name. -/
def fileName? (p : Path) : Option (List Char) :=
  match p.components.getLast? with
  | some (.name n) => some n
  | _ => none

/-- A name up to its last dot and what follows the dot; a dot at the start divides nothing. -/
def splitName (name : List Char) : List Char × Option (List Char) :=
  let ending := (name.reverse.takeWhile (· != '.')).reverse
  let before := name.take (name.length - ending.length - 1)
  if name.contains '.' ∧ before ≠ [] then (before, some ending) else (name, none)

def stem? (p : Path) : Option (List Char) :=
  p.fileName?.map fun n => (splitName n).1

def extension? (p : Path) : Option (List Char) :=
  p.fileName?.bind fun n => (splitName n).2

/-- With the extension of its last component, if that is a name, replaced by `ext`. -/
def withExtension (p : Path) (ext : List Char) : Path :=
  match p.fileName? with
  | none => p
  | some n =>
    let whole := trimReversed p.leadLength p.chars.reverse
    let upTo := (whole.drop n.length).reverse ++ (splitName n).1
    ofChars (if ext = [] then upTo else upTo ++ '.' :: ext)

end Path
end Conformance
