import Conformance.Host.Scene

/-!
# What is known of a file

The kind, mode, size and date of what stands at a location, and how many names it has.
-/
namespace Conformance.Host

structure Attributes where
  location : Location
  node : Node
  mode : Nat
  size : Nat
  /-- How many names it has. -/
  names : Nat
  date : Date

namespace FileView

/-- The mode of what stands at a location. -/
def modeAt (v : FileView) (loc : Location) : Node → Nat
  | .file _ mode => mode
  | .folder => if loc = ["tmp"] then 0o1777 else v.records.folderMode loc
  | .program _ => 0o755
  | .link _ => 0o777
  | .device _ => 0o666

def sizeAt : Node → Nat
  | .file content _ => content.length
  | .link target => Text.byteLength target.chars
  | .folder => 4096
  | .program _ => FileTree.programBytes.length
  | .device _ => 0

/-- How many names there are for what stands at a location; a folder has one in itself and one in
each folder in it. -/
def namesAt (v : FileView) (loc : Location) : Node → Nat
  | .folder =>
    let inner := v.tree.entries.filter fun (l, e) =>
      e == .folder && !l.isEmpty && l.dropLast == loc
    inner.length + 2
  | _ => (v.tree.namesOf loc).length

def attributes (v : FileView) (loc : Location) (node : Node) : Attributes where
  location := loc
  node
  mode := v.modeAt loc node
  size := sizeAt node
  names := v.namesAt loc node
  date := v.records.dateOf loc

/-- What is known of what a path leads to. -/
def attributes? (v : FileView) (aim : Aim) (p : Path) : Except FileError Attributes :=
  match v.tree.find aim p with
  | .ok (.taken loc node) => .ok (v.attributes loc node)
  | .ok (.free _) => .error .missing
  | .error e => .error e

/-- Whether two locations hold one file. -/
def isSame (v : FileView) (a b : Location) : Bool :=
  (v.tree.namesOf a).contains b

end FileView

namespace Attributes

def kind (a : Attributes) : String :=
  match a.node with
  | .file [] _ => "regular empty file"
  | .file _ _ | .program _ => "regular file"
  | .folder => "directory"
  | .link _ => "symbolic link"
  | .device _ => "character special file"

/-- The letter of a kind in front of a mode. -/
def kindMark (a : Attributes) : Char :=
  match a.node with
  | .folder => 'd'
  | .link _ => 'l'
  | .device _ => 'c'
  | .file _ _ | .program _ => '-'

/-- The permissions of a mode as letters. -/
def letters (mode : Nat) : Chars :=
  let letter (i : Nat) (c : Char) : Char := if mode.testBit i then c else '-'
  let last (i special : Nat) (both alone : Char) : Char :=
    if mode.testBit special then (if mode.testBit i then both else alone) else letter i 'x'
  [letter 8 'r', letter 7 'w', last 6 11 's' 'S', letter 5 'r', letter 4 'w', last 3 10 's' 'S',
    letter 2 'r', letter 1 'w', last 0 9 't' 'T']

/-- The mode as letters, behind the one of the kind. -/
def modeLetters (a : Attributes) : Chars :=
  a.kindMark :: letters a.mode

/-- A number that no other file has. -/
def number (v : FileView) (a : Attributes) : Nat :=
  let first := ((v.tree.namesOf a.location).getLast?).getD a.location
  first.foldl (fun n name =>
    name.toList.foldl (fun n c => (n * 257 + c.toNat) % 999983) (n + 1)) 1000000

/-- Whether anyone may run it. -/
def mayRun (a : Attributes) : Bool :=
  a.node == .folder || (Node.mayRun a.mode && !(a.node matches .device _))

end Attributes
end Conformance.Host
