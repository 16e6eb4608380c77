import Conformance.Host.CharClass
import Conformance.Host.Scene

/-!
# Patterns

A pattern is a text in which some characters stand for others, unless they are quoted: `?` for any
one, `*` for any number, and a list in brackets for one of its members.
-/
namespace Conformance.Host.Shell

/-- A character of a word, and whether it was quoted. -/
structure Glyph where
  char : Char
  quoted : Bool
deriving DecidableEq

inductive Atom
  | one (c : Char)
  | any
  | many
  | set (negated : Bool) (member : Char → Bool)

/-- Whether a character is in a range of a list, or in a class. -/
def rangesOf : (fuel : Nat) → Chars → Char → Bool
  | 0, _, _ | _, [], _ => false
  | fuel + 1, '[' :: ':' :: s, c =>
    let name := s.takeWhile (· != ':')
    let member : Bool := (classMembers name).any (· c)
    member || rangesOf fuel (s.drop (name.length + 2)) c
  | fuel + 1, a :: '-' :: b :: s, c => (a ≤ c && c ≤ b) || rangesOf fuel s c
  | fuel + 1, a :: s, c => a == c || rangesOf fuel s c

/-- The text of a list up to its closing bracket, and the length of it. A bracket at the start, and
those of a class, are members. -/
def listText : (first : Bool) → List Glyph → Option (Chars × Nat)
  | _, [] => none
  | first, g :: gs =>
    if g.char = ']' && !g.quoted && !first then some ([], 1)
    else if g.char = '[' && (gs.head?.map (·.char)) = some ':' then
      let name := (gs.drop 1).takeWhile (·.char != ':')
      let after := (gs.drop 1).drop name.length
      match after with
      | ⟨':', _⟩ :: ⟨']', _⟩ :: rest =>
        let text := '[' :: ':' :: name.map (·.char) ++ txt ":]"
        if _h : rest.length ≤ gs.length then
          (listText false rest).map fun (t, n) => (text ++ t, n + text.length)
        else none
      | _ => (listText false gs).map fun (t, n) => (g.char :: t, n + 1)
    else (listText false gs).map fun (t, n) => (g.char :: t, n + 1)
termination_by _ gs => gs.length
decreasing_by all_goals simp only [List.length_cons]; omega

def atoms : (fuel : Nat) → List Glyph → List Atom
  | 0, _ | _, [] => []
  | fuel + 1, g :: gs =>
    if g.quoted then .one g.char :: atoms fuel gs
    else
      match g.char with
      | '?' => .any :: atoms fuel gs
      | '*' => .many :: atoms fuel gs
      | '[' =>
        let negated := match gs with
          | ⟨'!', false⟩ :: _ | ⟨'^', false⟩ :: _ => true
          | _ => false
        let gs' := if negated then gs.drop 1 else gs
        match listText true gs' with
        | some (text, n) =>
          .set negated (rangesOf (text.length + 1) text) :: atoms fuel (gs'.drop n)
        | none => .one '[' :: atoms fuel gs
      | '\\' =>
        match gs with
        | [] => [.one '\\']
        | e :: rest => .one e.char :: atoms fuel rest
      | c => .one c :: atoms fuel gs

def Atom.matchesOne : Atom → Char → Bool
  | .one a, c => a == c
  | .any, _ => true
  | .many, _ => false
  | .set negated member, c => member c != negated

/-- Whether a whole text fits a pattern. -/
def fits : List Atom → Chars → Bool
  | [], s => s.isEmpty
  | .many :: as, [] => fits as []
  | .many :: as, c :: s => fits as (c :: s) || fits (.many :: as) s
  | a :: as, c :: s => a.matchesOne c && fits as s
  | _ :: _, [] => false
termination_by as s => (as.length, s.length)

def patternOf (gs : List Glyph) : List Atom :=
  atoms (gs.length + 1) gs

/-- Without the shortest or longest beginning that fits a pattern. -/
def dropFitting (longest : Bool) (as : List Atom) (s : Chars) : Chars :=
  let lengths := List.range (s.length + 1)
  match (if longest then lengths.reverse else lengths).find? fun n => fits as (s.take n) with
  | some n => s.drop n
  | none => s

/-- Without the shortest or longest end that fits a pattern. -/
def dropFittingEnd (longest : Bool) (as : List Atom) (s : Chars) : Chars :=
  let lengths := List.range (s.length + 1)
  match (if longest then lengths.reverse else lengths).find? fun n =>
      fits as (s.drop (s.length - n)) with
  | some n => s.take (s.length - n)
  | none => s

def isSpecial (g : Glyph) : Bool :=
  !g.quoted && (g.char == '*' || g.char == '?' || g.char == '[')

/-- The parts of a word between slashes. -/
def glyphParts : List Glyph → List (List Glyph)
  | [] => [[]]
  | g :: gs =>
    match glyphParts gs with
    | part :: parts => if g.char = '/' then [] :: part :: parts else (g :: part) :: parts
    | [] => [[g]]

def spelled (gs : List Glyph) : Chars :=
  gs.map (·.char)

/-- The files whose paths fit a pattern, in order. `start` is the path so far. -/
def filesFitting (t : FileTree) (start : Chars) : List (List Glyph) → List Chars
  | [] => []
  | part :: parts =>
    let folder := if start.isEmpty then Path.mk "." else Chars.toPath start
    let names : List Chars :=
      if part.any isSpecial then
        match t.find .target folder with
        | .ok (.taken loc .folder) =>
          let hidden := (part.head?.map fun g => g.char == '.').getD false
          ((t.namesIn loc).map Chars.ofText).filter fun n =>
            (hidden || n.head? ≠ some '.') && fits (patternOf part) n
        | _ => []
      else [spelled part]
    let sorted := names.mergeSort fun a b => !decide (b < a)
    if parts.isEmpty then
      (sorted.map (start ++ ·)).filter fun p =>
        (t.find .entry (Chars.toPath p)).toOption.any fun
          | .taken _ _ => true
          | .free _ => false
    else sorted.flatMap fun n => filesFitting t (start ++ n ++ ['/']) parts

/-- The words that a word with special characters stands for: paths of files, or itself. -/
def expandPaths (t : FileTree) (gs : List Glyph) : List Chars :=
  if gs.any isSpecial then
    match filesFitting t [] (glyphParts gs) with
    | [] => [spelled gs]
    | paths => paths
  else [spelled gs]

end Conformance.Host.Shell
