import Conformance.Corpus
import Conformance.Discovery

/-!
# Selections

A run is asked for everything in a corpus, for tests and groups by name, or for files and folders
by path. Resolving a selection gives its cases in the order asked for, repeated ones repeated.
-/
namespace Conformance

inductive Selection
  | all
  | names (names : List String)
  | paths (paths : List Path)
deriving DecidableEq, Repr

namespace Selection

/-- The cases that these names stand for, in order; the first unknown name is a fault. -/
def resolveNames (corpus : Corpus) : List String → Except Fault (List TestCase)
  | [] => .ok []
  | name :: others =>
    match corpus.lookup name with
    | none => .error (.selection (.unknownName name false))
    | some (.test i) => (resolveNames corpus others).map (corpus.testsAt [i] ++ ·)
    | some (.group i) => (resolveNames corpus others).map (corpus.expand i ++ ·)

/-- Every test, then the expansion of every group. -/
def resolveAll (corpus : Corpus) : List TestCase :=
  corpus.tests ++ (List.range corpus.groups.length).flatMap corpus.expand

/-- The cases of these paths, in order; the first fault ends it. -/
def resolvePaths (files : FileTree) : List Path → Except Fault (List TestCase)
  | [] => .ok []
  | path :: others =>
    match Discovery.load files path with
    | .error fault => .error fault
    | .ok cases => (resolvePaths files others).map (cases ++ ·)

/-- The positions of named tests and of named groups, each in the order of the names. -/
def splitNames (corpus : Corpus) : List String → Except Fault (List Nat × List Nat)
  | [] => .ok ([], [])
  | name :: others =>
    match corpus.lookup name with
    | none => .error (.selection (.unknownName name true))
    | some (.test i) => (splitNames corpus others).map fun r => (i :: r.1, r.2)
    | some (.group i) => (splitNames corpus others).map fun r => (r.1, i :: r.2)

/-- A list of paths: one on each line, blanks around it put aside, up to the first blank line. -/
def parseList (content : String) : List Path :=
  (((Text.lines content.toList).map Text.trim).takeWhile (· != [])).map Path.ofChars

def readList (files : FileTree) (path : Path) : Except Fault (List Path) :=
  match files.readText path with
  | .error e => .error (.io .readSelection path e)
  | .ok content => .ok (parseList content)

end Selection
end Conformance
