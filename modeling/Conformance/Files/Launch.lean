import Conformance.Files.Access
import Conformance.Text.Blank

/-!
# Files that can be run

A file is run as the installed program that it is. A file of text is run by the interpreter that its
first line names behind `#!`: the interpreter gets the path of the file in front of the arguments.
-/
namespace Conformance

/-- What is run when a file is. -/
structure Launch where
  program : String
  /-- The words that stand for the name of a file that is run by an interpreter. -/
  lead : List Bytes := []
deriving DecidableEq, Repr

namespace Launch

/-- The words of a command, the first of which is a name, as the program gets them. -/
def words {α : Type} (l : Launch) (ofBytes : Bytes → α) (given : List α) : List α :=
  if l.lead.isEmpty then given else l.lead.map ofBytes ++ given.drop 1

/-- How much of a file is looked at to find its interpreter. -/
def headBytes : Nat := 256

def isBlank (b : UInt8) : Bool :=
  b == 0x20 || b == 0x09

def isBlankOrNul (b : UInt8) : Bool :=
  isBlank b || b == 0

/-- The name and the argument in a line behind `#!`. In a line without an end NULs fill what is
looked at, so that blanks before them are kept. -/
def splitLine (line : Bytes) : Bytes × Option Bytes :=
  let line := line.dropWhile isBlank
  let name := line.takeWhile (! isBlankOrNul ·)
  let rest := line.drop name.length
  let argument := rest.dropWhile isBlank
  (name,
    if (rest.head?.any isBlank) && !argument.isEmpty then some (argument.takeWhile (· != 0))
    else none)

/-- The interpreter that a file names in its first line, with the one argument that may follow. A
name that may go on behind what is looked at is none. -/
def interpreter? (content : Bytes) : Option (Bytes × Option Bytes) :=
  match content.take headBytes with
  | 0x23 :: 0x21 :: rest =>
    if (rest.takeWhile (· != 0)).contains 0x0a then
      let line := (rest.takeWhile (· != 0x0a)).reverse.dropWhile isBlank
      if line.isEmpty then none else some (splitLine line.reverse)
    else
      let filled := rest ++ List.replicate (headBytes - 2 - rest.length) 0
      let named := filled.dropWhile isBlank
      if named.any isBlankOrNul then
        some (splitLine (filled.dropLast.reverse.dropWhile isBlank).reverse)
      else none
  | _ => none

/-- How many interpreters may be run by one another. -/
def maxInterpreters : Nat := 5

end Launch

namespace FileTree

/-- What is run at the end of `p`; `depth` interpreters may follow one another. -/
def launchWithin (t : FileTree) : (depth : Nat) → Path → Except FileError Launch
  | depth, p =>
    match t.find .target p with
    | .error e => .error e
    | .ok (.free _) => .error .missing
    | .ok (.taken _ (.program program)) => .ok { program }
    | .ok (.taken _ (.file content mode)) =>
      if !Node.mayRun mode then .error .denied
      else
        match Launch.interpreter? content, depth with
        | none, _ => .error .notProgram
        | some ([], _), _ => .error .denied
        | some _, 0 => .error .tooManyLinks
        | some (interpreter, argument), depth + 1 =>
          (t.launchWithin depth ⟨Text.decodeLossy interpreter⟩).map fun l =>
            { l with lead :=
                l.words id [interpreter] ++ argument.toList ++ [Text.encode p.text] }
    | .ok (.taken _ _) => .error .denied

def launch (t : FileTree) (p : Path) : Except FileError Launch :=
  t.launchWithin Launch.maxInterpreters p

/-- What a name is run as. A name without a slash is looked up among the installed programs. -/
def launchNamed (t : FileTree) (name : String) : Except FileError Launch :=
  if name.toList.contains '/' then t.launch ⟨name⟩
  else if name = "" then .error .missing
  else
    match t.launch ⟨"/usr/bin/" ++ name⟩ with
    | .error .missing => t.launch ⟨"/bin/" ++ name⟩
    | found => found

end FileTree
end Conformance
