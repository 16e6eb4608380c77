import Conformance.Host.Attributes
import Conformance.Host.ModeChange
import Conformance.Host.Utility.Folders

/-!
# What is permitted

`chmod` changes the modes of files and folders.
-/
namespace Conformance.Host.Utility

/-- How modes are changed. -/
structure ModeOrder where
  change : ModeChange
  deep : Bool
  /-- What was done is shown. -/
  shown : Bool
  /-- Only what was changed is shown. -/
  changesOnly : Bool
  silent : Bool
  /-- The change was written like an option; then it is told if a mask kept it from being made. -/
  dashed : Bool

/-- Changes the mode of what stands at a location. -/
def setMode (a : Attributes) (mode : Nat) : Act Unit := do
  match a.node with
  | .file content _ =>
    modifyWorld fun w => { w with files := w.files.put a.location (.file content mode) }
  | .folder => modifyRecords (·.withFolderMode a.location mode)
  | .link _ | .program _ | .device _ => return

/-- A mode in digits and in letters. -/
def modeShown (mode : Nat) : Chars :=
  let digits := Chars.digits 8 mode
  List.replicate (4 - digits.length) '0' ++ digits ++ txt " (" ++ Attributes.letters mode ++ [')']

namespace ModeOrder

/-- Changes the mode of a file of some path; whether that was all that was asked for. -/
def changeOne (o : ModeOrder) (path : Chars) (a : Attributes) : Act Bool := do
  let isFolder := a.node == .folder
  let mode := ModeChange.apply o.change isFolder (← self).mask a.mode
  setMode a mode
  if o.shown && !(o.changesOnly && mode = a.mode) then
    emit (txt "mode of " ++ quoted path ++
      (if mode = a.mode then txt " retained as " ++ modeShown mode
       else txt " changed from " ++ modeShown a.mode ++ txt " to " ++ modeShown mode) ++ ['\n'])
  let expected := ModeChange.apply o.change isFolder 0 a.mode
  if o.dashed && mode - (mode &&& expected) != 0 then
    problem (quotedIfNeeded path ++ txt ": new permissions are " ++ Attributes.letters mode ++
      txt ", not " ++ Attributes.letters expected)
    return false
  return true

/-- Changes the modes of all that a folder holds. -/
def changeBelow (o : ModeOrder) : (depth : Nat) → (path : Chars) → Location → Act Bool
  | 0, _, _ => return true
  | depth + 1, path, loc => do
    let v ← view
    let names := ((v.tree.namesIn loc).map Chars.ofText).mergeSort charsLe
    let stem := if path.getLast? = some '/' then path else path ++ ['/']
    let results ← names.mapM fun n => do
      let inner := loc ++ [Chars.toText n]
      match v.tree.get? inner with
      | some (.link _) =>
        if o.shown && !o.changesOnly then
          emit (txt "neither symbolic link " ++ quoted (stem ++ n) ++
            txt " nor referent has been changed\n")
        return true
      | some node =>
        let own ← o.changeOne (stem ++ n) (v.attributes inner node)
        let rest ← if node = .folder then o.changeBelow depth (stem ++ n) inner else pure true
        return own && rest
      | none => return true
    return results.all id

/-- Changes the mode of what a name leads to. -/
def changeNamed (o : ModeOrder) (s : Chars) : Act Bool := do
  let v ← view
  match v.attributes? .target (Chars.toPath s) with
  | .ok a =>
    let own ← o.changeOne s a
    let isLink := v.tree.find .entry (Chars.toPath s) matches .ok (.taken _ (.link _))
    if o.deep && a.node = .folder && !isLink then
      return (← o.changeBelow (v.tree.entries.length + 1) s a.location) && own
    return own
  | .error e =>
    let dangling := v.tree.find .entry (Chars.toPath s) matches .ok (.taken _ (.link _))
    if !o.silent then
      problem
        (if dangling && e = .missing then wish "cannot operate on dangling symlink" s
          else wish "cannot access" s ++ txt ": " ++ e.words.toList)
    if o.shown && !o.changesOnly then emit (quoted s ++ txt " could not be accessed\n")
    return false

end ModeOrder

def chmodOptions : OptionTable where
  letters := txt "Rvcf0123456789,+=P"
  attached := txt "rwxXstugoa"
  valued := ['F']
  long := [(txt "recursive", 'R'), (txt "verbose", 'v'), (txt "changes", 'c'), (txt "quiet", 'f'),
    (txt "silent", 'f'), (txt "preserve-root", 'P'), (txt "no-preserve-root", 'P'),
    (txt "reference", 'F')]

/-- A mode that is written like an option. -/
def dashedMode? (s : Chars) : Option Chars :=
  match s with
  | '-' :: c :: _ => if "rwxXstugoa,+=01234567".toList.contains c then some s else none
  | _ => none

def chmod : Program := do
  let args := (← self).args
  let open_ := args.takeWhile (· != txt "--")
  let dashed := open_.filterMap dashedMode?
  modifySelf fun p =>
    { p with args := open_.filter (fun a => (dashedMode? a).isNone) ++ args.drop open_.length }
  withOptions chmodOptions 1 fun p => do
    let reference := p.value? 'F'
    let dashedChange := if dashed.isEmpty then [] else [Chars.join [','] dashed]
    let words := if reference.isSome then [] :: p.operands else dashedChange ++ p.operands
    match words with
    | [] => misuse (txt "missing operand")
    | [s] =>
      if reference.isSome then misuse (txt "missing operand")
      else misuse (txt "missing operand after " ++ cited s)
    | given :: names =>
      let go (change : ModeChange) : Program :=
        eachName ({ change, deep := p.has 'R', shown := p.has 'v' || p.has 'c'
                    changesOnly := lastOf p ['v', 'c'] = some 'c', silent := p.has 'f'
                    dashed := !dashed.isEmpty } : ModeOrder).changeNamed 0 names
      match reference with
      | some name =>
        match (← view).attributes? .target (Chars.toPath name) with
        | .ok a => go (ModeChange.exactly a.mode)
        | .error e =>
          problem (wish "failed to get attributes of" name ++ txt ": " ++ e.words.toList)
          return 1
      | none =>
        match ModeChange.read? given with
        | some change => go change
        | none => misuse (txt "invalid mode: " ++ cited given)

end Conformance.Host.Utility
