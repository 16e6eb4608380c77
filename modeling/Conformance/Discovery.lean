import Conformance.Annotated.Cases
import Conformance.Files.Walk

/-!
# Discovering tests

A selected path is an annotated file or a folder of them. In a folder the files that a scenario of
another file names as its input are no tests; two spellings of a path count as the same there.
-/
namespace Conformance.Discovery

/-- The regular files that a walk from `root` meets, in order. -/
def testFiles (files : FileTree) (root : Path) : Except Fault (List Path) :=
  match files.walk root with
  | .ok paths => .ok paths
  | .error e => .error { cause := .io (.walk root root e) }

/-- The input files that the scenarios of a file name, if its header can be read. -/
def scenarioInputs (origin : Path) (content : String) : List Path :=
  match Annotated.split content.toList with
  | .error _ => []
  | .ok (h, _) => h.scenarios.map (Annotated.inputPath origin)

/-- The cases of a single file, named after its path. -/
def loadFile (files : FileTree) (path : Path) : Except Fault (List TestCase) :=
  match files.readText path with
  | .error e => .error (.io .readTest path e)
  | .ok content => Annotated.parse files path.text path content

/-- The cases of these files, in order; the first fault ends it. -/
def loadFiles (files : FileTree) : List Path → Except Fault (List TestCase)
  | [] => .ok []
  | path :: paths =>
    match loadFile files path with
    | .error fault => .error fault
    | .ok cases => (loadFiles files paths).map (cases ++ ·)

/-- All scenario inputs that readable files among `paths` name. -/
def inputsOf (files : FileTree) (paths : List Path) : List Path :=
  paths.flatMap fun path =>
    match files.readText path with
    | .error _ => []
    | .ok content => scenarioInputs path content

def loadFolder (files : FileTree) (folder : Path) : Except Fault (List TestCase) :=
  match testFiles files folder with
  | .error fault => .error fault
  | .ok paths =>
    let inputs := inputsOf files paths
    loadFiles files (paths.filter fun path => !path.mem inputs)

/-- The cases of a selected path. -/
def load (files : FileTree) (path : Path) : Except Fault (List TestCase) :=
  if files.isFile path then loadFile files path
  else if files.isFolder path then loadFolder files path
  else .error (.selection (.neitherFileNorFolder path))

end Conformance.Discovery
