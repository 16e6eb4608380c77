import Conformance.Files.Resolve

/-!
# The files below a folder

A walk starts at a path, which may be a link to a folder; links below it are not followed. It lists
the regular files in the order of their paths, compared component by component.
-/
namespace Conformance
namespace FileTree

/-- `root` followed by names. -/
def descend (root : Path) (names : Location) : Path :=
  names.foldl (fun p name => p.join ⟨name⟩) root

/-- Whether one list of names comes before another, or is the same. -/
def namesLe (a b : Location) : Bool :=
  !decide (b < a)

def isRegular : Node → Bool
  | .file _ _ | .program _ => true
  | _ => false

/-- The files below `loc`, as seen from `root`. -/
def filesUnder (t : FileTree) (root : Path) (loc : Location) : List Path :=
  let names := ((t.below loc).filter fun e => isRegular e.2).map (·.1)
  (names.mergeSort namesLe).map (descend root)

/-- The regular files that a walk from `root` meets. -/
def walk (t : FileTree) (root : Path) : Except FileError (List Path) :=
  match t.find .entry root with
  | .error e => .error e
  | .ok (.free _) => .error .missing
  | .ok (.taken loc .folder) => .ok (t.filesUnder root loc)
  | .ok (.taken _ (.link _)) =>
    match t.find .target root with
    | .error e => .error e
    | .ok (.free _) => .error .missing
    | .ok (.taken loc .folder) => .ok (t.filesUnder root loc)
    | .ok (.taken _ _) => .ok []
  | .ok (.taken _ node) => .ok (if isRegular node then [root] else [])

end FileTree
end Conformance
