import Conformance.Host.Utility.Batches
import Conformance.Host.Utility.Query
import Conformance.Host.Utility.Removal

/-!
# Files that are found

`find` goes through folders and carries out a query for each file that it comes to.
-/
namespace Conformance.Host.Utility

open Shell

/-- What a search has come to. -/
structure Tour where
  pruned : Bool := false
  ended : Bool := false
  status : Nat := 0
  /-- Files for the commands that are run after the search, the last first. -/
  collected : List (Nat × Chars) := []

abbrev Touring := StateT Tour Act

def Touring.fail (message : Chars) : Touring Unit := do
  problem message
  modify fun x => { x with status := 1 }

/-- Runs a command as a child; whether it succeeded. -/
def runAside (start : Start) (folder : Option Chars) (words : List Chars) : Act Bool := do
  let name := words.head?.getD []
  let status ← withProgram name (cited name) fun launch => do
    let e ← Signal.awaitEnd do
      if let some folder := folder then
        let _ ← enter folder
      startAs start words launch
    return e.status
  return status == 0

/-- Removes a file or an empty folder. -/
def deleteFound (s : Sight) : Touring Bool := do
  if s.path = ['.'] then return true
  let path := Chars.toPath s.path
  let t ← files
  let removed := if s.node = .folder then t.removeEmptyFolder path else t.removeFile path
  match removed with
  | .ok t' =>
    setFiles t'
    return true
  | .error e =>
    Touring.fail (txt "cannot delete " ++ cited s.path ++ txt ": " ++ e.words.toList)
    return false

/-- Shows something on the output, or at the end of a file. -/
def showIn (outlet : Outlet) (content : Chars) : Act Unit := do
  match outlet with
  | none => emit content
  | some file =>
    if let .ok n ← openToWrite file true then
      let _ ← writeOpened n content

/-- Carries out a query for a file; its answer. -/
def Query.answer (start : Start) (s : Sight) : Query → Touring Bool
  | .always holds => return holds
  | .test holds => return holds (← view) s
  | .show outlet ending => do
    showIn outlet (s.path ++ [ending])
    return true
  | .showAs outlet format => do
    showIn outlet (s.filled (← view) (format.length + 1) format)
    return true
  | .tell outlet => do
    showIn outlet (s.told (← view) (← currentDate))
    return true
  | .run asks inFolder words => do
    let file := if inFolder then txt "./" ++ s.name else s.path
    if asks then
      let command := txt "< " ++ words.head?.getD [] ++ txt " ... " ++ s.path ++ txt " > ? "
      if !(← confirm command) then return false
    runAside start (if inFolder then some s.folder else none)
      (words.map fun w => replaceMark (txt "\x7b\x7d") file (w.length + 1) w)
  | .collect number _ => do
    modify fun x => { x with collected := (number, s.path) :: x.collected }
    return true
  | .delete => deleteFound s
  | .prune => do
    modify fun x => { x with pruned := true }
    return true
  | .quit => do
    modify fun x => { x with ended := true }
    return true
  | .opposite q => return !(← q.answer start s)
  | .both a b => do
    if !(← a.answer start s) || (← get).ended then return false
    b.answer start s
  | .either a b => do
    if (← a.answer start s) || (← get).ended then return true
    b.answer start s
  | .last a b => do
    let _ ← a.answer start s
    if (← get).ended then return true
    b.answer start s

/-- Goes through what is at a path and below it. -/
def tour (start : Start) (q : Query) (x : Asked) (root : Chars) :
    (fuel depth : Nat) → (path : Chars) → Touring Unit
  | 0, _, _ => return
  | fuel + 1, depth, path => do
    if (← get).ended then return
    let v ← view
    let t := v.tree
    let found : Except FileError Attributes :=
      match x.followsLinks || (x.followsRoots && depth = 0),
        v.attributes? .target (Chars.toPath path) with
      | true, .ok a => .ok a
      | _, _ => v.attributes? .entry (Chars.toPath path)
    match found with
    | .ok attributes =>
      let s : Sight := { root, path, depth, attributes }
      let own : Touring Unit := do
        if x.shallowest ≤ depth then
          let _ ← q.answer start s
      let names := if s.node = Node.folder && x.deepest.all (depth < ·) then
        ((t.namesIn attributes.location).map Chars.ofText).mergeSort charsLe else []
      let stem := if path.getLast? = some '/' then path else path ++ ['/']
      if x.innerFirst then
        names.forM fun n => tour start q x root fuel (depth + 1) (stem ++ n)
        if !(← get).ended then own
      else
        modify fun y => { y with pruned := false }
        own
        let gone := !(← files).isPresent (Chars.toPath path) && t.isPresent (Chars.toPath path)
        if gone && !names.isEmpty then
          Touring.fail (cited path ++ txt ": " ++ FileError.missing.words.toList)
        else if !(← get).pruned then
          names.forM fun n => tour start q x root fuel (depth + 1) (stem ++ n)
    | .error e => Touring.fail (cited path ++ txt ": " ++ e.words.toList)

/-- Runs the commands for which files were collected. -/
def runCollected (start : Start) (q : Query) : Touring Unit := do
  let collected := (← get).collected.reverse
  q.collectors.forM fun (number, words) => do
    let found := (collected.filter (·.1 == number)).map (·.2)
    if !found.isEmpty then
      if !(← runAside start none (words ++ found)) then modify fun x => { x with status := 1 }

def find (start : Start) : Program := do
  let args := (← self).args
  let isStyle (a : Chars) : Bool := [txt "-L", txt "-P", txt "-H"].contains a
  let styles := args.takeWhile isStyle
  let args := args.drop styles.length
  let roots := args.takeWhile fun a =>
    !(1 < a.length && a.head? = some '-') && a != ['('] && a != ['!']
  match Query.read (← view) (← currentDate) (args.drop roots.length) with
  | .error f =>
    problem f.text
    return 1
  | .ok (q, x) =>
    x.warnings.forM fun w => problem (txt "warning: " ++ w)
    let x :=
      { x with
        followsLinks := x.followsLinks || styles.getLast? = some (txt "-L")
        followsRoots := styles.getLast? = some (txt "-H") }
    let faults ← x.outlets.filterMapM fun file => do
      match ← openToWrite file false with
      | .ok _ => return none
      | .error e => return some (cited file ++ txt ": " ++ e.toList)
    if let some fault := faults.head? then
      problem fault
      return 1
    if x.prunes && x.deletes then
      problem (txt "The -delete action automatically turns on -depth, but -prune does nothing " ++
        txt "when -depth is in effect.  If you want to carry on anyway, just explicitly use the " ++
        txt "-depth option.")
      return 1
    let whole := if q.acts then q else .both q (.show none '\n')
    let fuel := (← files).entries.length + 2
    let search : Touring Unit := do
      (if roots.isEmpty then [['.']] else roots).forM fun root =>
        tour start whole x root fuel 0 root
      runCollected start whole
    let (_, y) ← search.run {}
    return y.status

end Conformance.Host.Utility
