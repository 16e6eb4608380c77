import Conformance.Files.Error
import Conformance.Files.Tree

/-!
# From paths to locations

A path is followed name by name. Every name but the last has to lead to a folder, and links on the
way are replaced by their targets, at most forty of them. What is done with the last name depends on
what the path is followed for. It may be free: then the answer is the place where it would stand.
-/
namespace Conformance

/-- What a path is followed for. -/
inductive Aim
  /-- What has the last name, with or without a slash behind it. -/
  | name
  /-- What has the last name; a slash behind it asks for a folder, to which a link may lead. -/
  | entry
  /-- What a link at the end leads to; a slash asks for a folder. -/
  | target
  /-- Where a file can be written that may be missing; a slash is refused. -/
  | content
deriving DecidableEq, Repr

/-- Whether a link that has the last name is left as it is. -/
def Aim.keepsLink (aim : Aim) (slash : Bool) : Bool :=
  match aim with
  | .name => true
  | .entry => !slash
  | .target | .content => false

/-- Where a path leads. -/
inductive Spot
  | taken (loc : Location) (node : Node)
  | free (loc : Location)
deriving Repr

/-- The location of a spot. -/
def Spot.loc : Spot → Location
  | .taken loc _ | .free loc => loc

namespace FileTree

def maxLinks : Nat := 40
def maxNameBytes : Nat := 255
def maxPathBytes : Nat := 4096

/-- The parts of a path that ask for a step. -/
def steps (p : Path) : List (List Char) :=
  p.parts.filter (· != [])

/-- Follows `names` from `loc`; `slash` says whether one stands behind the last name. -/
def follow (t : FileTree) (aim : Aim) (slash : Bool) (links : Nat) (loc : Location) :
    List (List Char) → Except FileError Spot
  | [] =>
    match t.get? loc with
    | some node =>
      if aim ≠ .name && slash && node != .folder then .error .notFolder else .ok (.taken loc node)
    | none => .error .missing
  | name :: names =>
    if t.get? loc ≠ some .folder then .error .notFolder
    else if name = ['.'] then follow t aim slash links loc names
    else if name = ['.', '.'] then follow t aim slash links loc.dropLast names
    else if aim = .content && slash && names.isEmpty then .error .isFolder
    else if maxNameBytes < Text.byteLength name then .error .nameTooLong
    else
      let next := loc ++ [String.ofList name]
      match t.get? next with
      | none => if names.isEmpty then .ok (.free next) else .error .missing
      | some (.link target) =>
        if names.isEmpty && aim.keepsLink slash then .ok (.taken next (.link target))
        else match links with
          | 0 => .error .tooManyLinks
          | links + 1 =>
            let start := if target.isAbsolute then [] else loc
            follow t aim (slash || (names.isEmpty && target.endsWithSlash)) links start
              (steps target ++ names)
      | some _ => follow t aim slash links next names
termination_by names => (links, names.length)

/-- Where `p` leads. -/
def find (t : FileTree) (aim : Aim) (p : Path) : Except FileError Spot :=
  if p.chars.contains '\x00' then .error .nulInName
  else if p.chars = [] then .error .missing
  else if maxPathBytes ≤ Text.byteLength p.chars then .error .nameTooLong
  else t.follow aim p.endsWithSlash maxLinks (if p.isAbsolute then [] else t.here) (steps p)

/-- What stands at the end of `p`, links followed. -/
def node? (t : FileTree) (p : Path) : Option Node :=
  match t.find .target p with
  | .ok (.taken _ node) => some node
  | _ => none

def isPresent (t : FileTree) (p : Path) : Bool :=
  (t.node? p).isSome

def isFolder (t : FileTree) (p : Path) : Bool :=
  t.node? p == some .folder

def isFile (t : FileTree) (p : Path) : Bool :=
  match t.node? p with
  | some (.file _ _) | some (.program _) => true
  | _ => false

end FileTree
end Conformance
