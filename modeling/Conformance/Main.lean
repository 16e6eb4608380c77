import Conformance.Host.Installed
import Conformance.Session

/-!
# The command line

Runs a session on what stands in the current folder. The tools of the session are programs of the
host; what they and the session leave in the folder is written back when the session has ended.
-/
namespace Conformance.CommandLine

/-- What stands in a folder that `list` lists, with its locations below `top`. -/
partial def entriesOf (list : IO (Array IO.FS.DirEntry)) (top : Location) :
    IO (List (Location × Node)) := do
  let mut found := []
  for entry in ← list do
    let loc := top ++ [entry.fileName]
    match (← entry.path.metadata).type with
    | .dir => found := (loc, .folder) :: (← entriesOf entry.path.readDir loc) ++ found
    | .file => found := (loc, .plain (← IO.FS.readBinFile entry.path).toList) :: found
    | .symlink | .other => pure ()
  return found

/-- The path of a location below the current folder. -/
def pathBelow (loc : Location) : String :=
  String.intercalate "/" ("." :: loc)

/-- Writes what is different below the current folder. -/
def writeBack (before after : FileTree) : IO Unit := do
  let old := before.below before.here
  let new := after.below after.here
  let byDepth (entries : List (Location × Node)) :=
    entries.mergeSort fun a b => a.1.length ≤ b.1.length
  for (loc, node) in (byDepth old).reverse do
    if new.lookup loc ≠ some node then
      match node, new.lookup loc with
      | .folder, _ => IO.FS.removeDir (pathBelow loc)
      | _, some (.file _ _) => pure ()
      | _, _ => IO.FS.removeFile (pathBelow loc)
  for (loc, node) in byDepth new do
    if old.lookup loc ≠ some node then
      match node with
      | .folder => IO.FS.createDir (pathBelow loc)
      | .file content _ => IO.FS.writeBinFile (pathBelow loc) ⟨content.toArray⟩
      | .link _ | .program _ | .device _ => pure ()

/-- What is said of a session that did not come to its end. -/
def complaint : SessionEnd → String
  | .listed | .finished _ | .misused .version => ""
  | .refused fault =>
    fault.code ++ ": " ++ fault.display ++ "\n" ++
      match fault.help? with
      | some help => "  help: " ++ help ++ "\n"
      | none => ""
  | .misused fault => fault.kind ++ "\n"
  | .brokenDown => "the time limit cannot be kept\n"

end Conformance.CommandLine

open Conformance in
def main (words : List String) : IO UInt32 := do
  let base := Host.installation
  let own ← CommandLine.entriesOf (do (← IO.currentDir).readDir) base.here
  let files := own.reverse.foldl (fun t e => t.put e.1 e.2) base
  let session := Session.run Host.machine words { surroundings := { files } }
  let out ← IO.getStdout
  let coloured := !words.contains "--no-color" && (← out.isTty)
  out.putStr (Report.Styled.render coloured session.shown)
  (← IO.getStderr).putStr (CommandLine.complaint session.ending)
  CommandLine.writeBack files session.state.files
  return session.exitCode.toUInt32
