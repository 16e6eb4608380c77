import Conformance.Files.Access

/-!
# Artifacts

The intermediate code of a failing test is kept in a file named after the test. Each part of the
name becomes one safe name of bounded length, so a test stays below the artifact folder whatever it
is called. Tests whose names lead to one path are told apart by a number before the extension.
-/
namespace Conformance.Artifact

/-- The extension of intermediate code. -/
def ext : List Char :=
  "icode".toList

/-- The longest name of a part, before the extension and a number. -/
def maxPart : Nat := 200

def isSafe (c : Char) : Bool :=
  (c.isAlphanum) || c == '-' || c == '_' || c == '.'

/-- A file name for one part of a test name. -/
def sanitize (part : List Char) : List Char :=
  match (part.map fun c => if isSafe c then c else '_').dropWhile (· == '.') with
  | [] => ['_']
  | name => name.take maxPart

def isSeparator (c : Char) : Bool :=
  c == '/' || c == '\\'

/-- The parts of a test name that become names. -/
def parts (testName : List Char) : List (List Char) :=
  (Text.splitOn isSeparator testName).filter fun part => part != [] && part != ['.']

/-- The path of a test's artifact when no other test has it. -/
def plainPath (folder : Path) (testName : String) : Path :=
  match ((parts testName.toList).map sanitize).reverse with
  | [] => folder.join (.ofChars ('_' :: '.' :: ext))
  | file :: above =>
    (above.reverse.foldl (fun p part => p.join (.ofChars part)) folder).join
      (.ofChars (file ++ '.' :: ext))

/-- The path with a number before its extension. -/
def numbered (plain : Path) (n : Nat) : Path :=
  plain.withExtension (Nat.toDigits 10 n ++ '.' :: ext)

/-- The first path that is not claimed among those numbered `n`, `n + 1`, …, at most `left` + 1
of them. -/
def firstFree (claimed : List Path) (plain : Path) (n : Nat) : (left : Nat) → Path
  | 0 => numbered plain n
  | left + 1 =>
    if (numbered plain n).mem claimed then firstFree claimed plain (n + 1) left
    else numbered plain n

/-- The path for a test's artifact, numbered from `ordinal` on if another test has the plain one. -/
def claim (claimed : List Path) (folder : Path) (testName : String) (ordinal : Nat) : Path :=
  let plain := plainPath folder testName
  if plain.mem claimed then firstFree claimed plain ordinal claimed.length else plain

/-- Writes an artifact and the folders above it; tells whether the file was written. -/
def save (t : FileTree) (path : Path) (content : Bytes) : FileTree × Bool :=
  let (t', failure) := match path.parent? with
    | none => (t, none)
    | some above => t.makeFolders above
  match failure with
  | some _ => (t', false)
  | none =>
    match t'.write path content with
    | .error _ => (t', false)
    | .ok t'' => (t'', true)

end Conformance.Artifact
