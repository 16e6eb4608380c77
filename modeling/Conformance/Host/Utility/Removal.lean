import Conformance.Host.Utility.Folders

/-!
# Programs that remove files

`rm` removes files, and as asked for folders with all they hold. It may ask before it does so.
-/
namespace Conformance.Host.Utility

/-- Asks something; whether the first line of the input agrees. -/
def confirm (question : Chars) : Act Bool := do
  complain question
  let (line, rest) := (← takeFrom 0 (partsEnd? '\n' 1)).splitParts '\n' 1
  giveBack 0 rest
  if line.getLast? ≠ some '\n' then awaitTail rest
  return line.head?.any fun c => c == 'y' || c == 'Y'

/-- Asks something under the name of the program. -/
def confirmed (question : Chars) : Act Bool := do
  confirm ((← self).name ++ txt ": " ++ question ++ txt "? ")

/-! ## Removing -/

/-- How files are removed. -/
structure Removal where
  deep : Bool
  emptyFolders : Bool
  mayBeMissing : Bool
  asks : Bool
  shown : Bool

/-- What has become of a file that was to be removed. -/
inductive Removed
  | gone
  | kept
  | failed
deriving DecidableEq

namespace Removal

def ofOptions (p : Parsed) : Removal where
  deep := p.has 'r' || p.has 'R'
  emptyFolders := p.has 'd'
  mayBeMissing := lastOf p (txt "fi") = some 'f'
  asks := lastOf p (txt "fi") = some 'i'
  shown := p.has 'v'

/-- What a file is called in a question. -/
def kind : Node → String
  | .file [] _ => "regular empty file "
  | .file _ _ | .program _ => "regular file "
  | .folder => "directory "
  | .link _ => "symbolic link "
  | .device _ => "character special file "

/-- Removes what is at a path and all it holds, as far as it is to be removed. -/
def remove (o : Removal) : (depth : Nat) → Chars → Act Removed
  | 0, _ => return .failed
  | depth + 1, s => do
    let path := Chars.toPath s
    let refused (e : FileError) : Act Removed := do
      problem (wish "cannot remove" s ++ txt ": " ++ e.words.toList)
      return .failed
    let agreed (node : Node) : Act Bool :=
      if o.asks then confirmed (txt "remove " ++ (kind node).toList ++ quoted s) else return true
    match (← files).find .entry path with
    | .ok (.taken loc .folder) =>
      let names := (((← files).namesIn loc).map Chars.ofText).mergeSort charsLe
      if !o.deep && !(o.emptyFolders && names.isEmpty) then
        return ← refused (if o.emptyFolders then .notEmpty else .isFolder)
      if o.asks && !names.isEmpty then
        if !(← confirmed (txt "descend into directory " ++ quoted s)) then return .kept
      let start := if s.getLast? = some '/' then s else s ++ ['/']
      let parts ← names.mapM fun n => o.remove depth (start ++ n)
      if parts.contains .failed then return .failed
      if parts.contains .kept then return .kept
      if !(← agreed .folder) then return .kept
      match (← files).removeFolder path with
      | (t', none) =>
        setFiles t'
        announce o.shown (txt "removed directory " ++ quoted s)
        return .gone
      | (_, some e) => refused e
    | .ok (.taken _ node) =>
      if !(← agreed node) then return .kept
      match (← files).removeFile path with
      | .ok t' =>
        setFiles t'
        announce o.shown (txt "removed " ++ quoted s)
        return .gone
      | .error e => refused e
    | .ok (.free _) => if o.mayBeMissing then return .gone else refused .missing
    | .error e =>
      if o.mayBeMissing && (e = .missing || e = .notFolder) then return .gone else refused e

/-- Removes what a name of an argument leads to. -/
def removeNamed (o : Removal) (s : Chars) : Act Bool := do
  let t ← files
  let path := Chars.toPath s
  if o.deep && t.node? path = some .folder then
    if endsInDots path then
      return ← refuse (txt "refusing to remove '.' or '..' directory: skipping " ++ quoted s)
    if path.chars.all (· == '/') then
      problem (txt "it is dangerous to operate recursively on " ++ quoted s)
      return ← refuse (txt "use --no-preserve-root to override this failsafe")
  return (← o.remove (t.entries.length + 1) s) != .failed

end Removal

def rm : Program :=
  withOptions
    { letters := txt "frRivdI", optional := ['J']
      long := [(txt "force", 'f'), (txt "recursive", 'r'), (txt "verbose", 'v'), (txt "dir", 'd'),
        (txt "interactive", 'J'), (txt "one-file-system", 'O'), (txt "preserve-root", 'O')] } 1
    fun p => do
    if p.operands.isEmpty then
      if p.has 'f' then return 0 else misuse (txt "missing operand")
    else eachName (Removal.ofOptions p).removeNamed 0 p.operands

/-- Takes a name from a file. -/
def unlink : Program :=
  withOptions {} 1 fun p => do
    match p.operands with
    | [] => misuse (txt "missing operand")
    | _ :: other :: _ => misuse (txt "extra operand " ++ cited other)
    | [s] =>
      match (← files).removeFile (Chars.toPath s) with
      | .ok t =>
        setFiles t
        return 0
      | .error e =>
        problem (wish "cannot unlink" s ++ txt ": " ++ e.words.toList)
        return 1

end Conformance.Host.Utility
