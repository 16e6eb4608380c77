import Conformance.Files.Walk
import Conformance.Host.Utility.Placement

/-!
# Copies

`cp` copies files, links and folders, or makes links in their place.
-/
namespace Conformance.Host.Utility

/-- Whether copies keep mode and date. -/
def keepsAll (p : Parsed) : Bool :=
  p.has 'p' || p.has 'a'

/-- Whether folders are copied with all they hold. -/
def isDeep (p : Parsed) : Bool :=
  p.has 'r' || p.has 'R' || p.has 'a'

/-- With the modes of files below a location as a mask leaves them. -/
def maskedTree (mask : Nat) (new : Location) (t : FileTree) : FileTree :=
  (t.below new).foldl (fun t (loc, node) =>
    match node with
    | .file content mode => t.put (new ++ loc) (.file content (ModeStep.without mode mask))
    | _ => t) t

/-- Copies a folder with all it holds. -/
def copyFolder (p : Parsed) (loc : Location) (s target : Chars) : Act Bool := do
  let t ← files
  if !isDeep p then return ← refuse (txt "-r not specified; omitting directory " ++ quoted s)
  match t.find .target (Chars.toPath target) with
  | .ok (.free new) | .ok (.taken new .folder) =>
    if FileTree.within loc new then
      return ← refuse (txt "cannot copy a directory, " ++ quoted s ++ txt ", into itself, " ++
        quoted target)
    let names := ((t.below loc).map (·.1)).mergeSort FileTree.namesLe
    let shown := if t.get? new = some .folder then names else [] :: names
    shown.forM fun below =>
      let ends := below.flatMap fun n => '/' :: Chars.ofText n
      announce (p.has 'v') (arrow (s ++ ends) (target ++ ends))
    let copied := copyTree t loc new
    let mask := (← self).mask
    setFiles (if keepsAll p then copied else maskedTree mask new copied)
    modifyRecords (·.copied loc new (keepsAll p))
    return true
  | .ok (.taken _ _) =>
    refuse (txt "cannot overwrite non-directory " ++ quoted target ++
      txt " with directory " ++ quoted s)
  | .error e => refuse (wish "cannot create directory" target ++ txt ": " ++ e.words.toList)

/-- The content of what is copied, and its mode. -/
def contentToCopy (s : Chars) : Node → Act (Except String (Chars × Nat))
  | .file content mode => return .ok (Chars.ofBytes content, mode)
  | .program _ => return .ok (Chars.ofBytes FileTree.programBytes, 0o755)
  | .folder | .link _ => return .ok ([], Node.plainMode)
  | .device _ => do
    let supply ← supplyOf s
    match supply.tail with
    | .broken e => return .error e
    | _ =>
      awaitTail supply
      return .ok (supply.content, 0o666)

/-- Makes a hard link or a link by path in the place of a copy. -/
def linkInstead (p : Parsed) (old : Location) (s target : Chars) : Act Bool := do
  let t ← files
  if p.has 's' then
    if s.head? ≠ some '/' && target.contains '/' && folderName target ≠ ['.'] then
      return ← refuse (quotedIfNeeded target ++
        txt ": can make relative symbolic links only in current directory")
    match t.makeLink (Chars.toPath target) (Chars.toPath s) with
    | .ok t' =>
      setFiles t'
      return true
    | .error e =>
      refuse (txt "cannot create symbolic link " ++ quoted target ++ txt " to " ++ quoted s ++
        txt ": " ++ e.words.toList)
  else
    match t.find .name (Chars.toPath target) with
    | .ok (.free new) =>
      setFiles (t.alsoNamed old new)
      return true
    | .ok (.taken _ _) =>
      refuse (txt "cannot create hard link " ++ quoted target ++ txt " to " ++ quoted s ++
        txt ": File exists")
    | .error e =>
      refuse (txt "cannot create hard link " ++ quoted target ++ txt " to " ++ quoted s ++
        txt ": " ++ e.words.toList)

/-- Writes a copy to a path. -/
def writeCopy (p : Parsed) (old : Location) (node : Node) (s target : Chars) : Act Bool := do
  let path := Chars.toPath target
  let cannotCreate (e : FileError) : Act Bool :=
    let e := if e = .isFolder then FileError.notFolder else e
    refuse (wish "cannot create regular file" target ++ txt ": " ++ e.words.toList)
  match node with
  | .link link =>
    let t ← files
    match ((t.removeFile path).toOption.getD t).makeLink path link with
    | .ok t' =>
      setFiles t'
      return true
    | .error e => cannotCreate e
  | _ =>
    match ← contentToCopy s node with
    | .error e => refuse (txt "error reading " ++ quoted s ++ txt ": " ++ e.toList)
    | .ok (content, mode) =>
      let content := if p.has 'E' then [] else content
      match (← files).find .content path with
      | .error e => cannotCreate e
      | .ok (.taken _ (.device _)) =>
        match ← openToWrite target false with
        | .error e => refuse (wish "cannot create regular file" target ++ txt ": " ++ e.toList)
        | .ok n =>
          match ← writeOpened n content with
          | none => return true
          | some e => refuse (txt "error writing " ++ quoted target ++ txt ": " ++ e.toList)
      | .ok spot =>
        let date := (← world).records.dateOf old
        let mask := (← self).mask
        match spot, node with
        | .free loc, .program _ => setFiles ((← files).put loc node)
        | .free loc, _ =>
          putFile loc (Chars.toBytes content)
            (if keepsAll p then mode else ModeStep.without mode mask)
        | .taken loc (.file _ kept), _ =>
          putFile loc (Chars.toBytes content) (if keepsAll p then mode else kept)
        | .taken loc _, _ => putFile loc (Chars.toBytes content) mode
        match spot with
        | .free loc | .taken loc _ =>
          let t ← files
          if keepsAll p then modifyRecords fun r => r.dated (t.namesOf loc) date
        return true

/-- Copies one file, or the link itself that is there. -/
def copyOne (p : Parsed) (old : Location) (node : Node) (s target : Chars) : Act Bool := do
  let v ← view
  let path := Chars.toPath target
  let backups := Backups.ofOptions p
  if leadsTo v .target target old then
    if p.has 'l' then return true
    return ← refuse (quoted s ++ txt " and " ++ quoted target ++ txt " are the same file")
  if v.tree.isFolder path then
    return ← refuse (txt "cannot overwrite directory " ++ quoted target ++
      txt " with non-directory")
  match Overwriting.ofOptions p 'n', v.tree.isPresent path with
  | .never, true => return true
  | .older, true => if !isNewer v s target then return true
  | .asked, true => if !(← confirmed (txt "overwrite " ++ quoted target)) then return false
  | _, _ => pure ()
  let isLink (spot : Except FileError Spot) : Bool := spot matches .ok (.taken _ (.link _))
  let dangling := isLink (v.tree.find .entry path) && !v.tree.isPresent path
  let aside ← backups.setAside target
  if p.has 'D' || ((p.has 's' || p.has 'l') && p.has 'f') then
    let t ← files
    setFiles ((t.removeFile path).toOption.getD t)
  else if dangling && aside.isNone && !(node matches .link _) then
    return ← refuse (txt "not writing through dangling symlink " ++ quoted target)
  let linked := (p.has 's' || p.has 'l') && !(node matches .link _)
  let done ← if linked then linkInstead p old s target
    else writeCopy p old node s target
  if done || linked then announce (p.has 'v') (arrow s target ++ Backups.told aside)
  return done

def copyOptions : OptionTable where
  letters := txt "rRapfviTndPLHulsxbZDEQ"
  valued := txt "tS"
  optional := ['O', 'U', 'B', 'W', 'Z']
  long := [(txt "recursive", 'R'), (txt "archive", 'a'), (txt "no-dereference", 'P'),
    (txt "dereference", 'L'), (txt "preserve", 'p'), (txt "no-preserve", 'O'), (txt "link", 'l'),
    (txt "symbolic-link", 's'), (txt "remove-destination", 'D'), (txt "attributes-only", 'E'),
    (txt "parents", 'Q'), (txt "one-file-system", 'x'), (txt "copy-contents", 'O'),
    (txt "reflink", 'W'), (txt "sparse", 'O')] ++ targetOptions
  choices := ('W', { subject := "--reflink", rows := [["auto"], ["always"], ["never"]] }) ::
    targetChoices

/-- The folders above the last name of a path, as they are made in another one. -/
def makeParents (p : Parsed) (folder s : Chars) : Act Unit := do
  ((pathsAbove s).dropLast).forM fun above => do
    let t ← files
    let new := (if folder.getLast? = some '/' then folder else folder ++ ['/']) ++ above
    match t.makeFolder (Chars.toPath new) with
    | .ok t' =>
      setFiles t'
      if p.has 'v' then emit (above ++ txt " -> " ++ new ++ ['\n'])
    | .error _ => pure ()

def cp : Program :=
  withOptions copyOptions 1 fun p => do
    if p.has 'n' then
      problem (txt "warning: behavior of -n is non-portable and may change in future; " ++
        txt "use --update=none instead")
    let keepsLinks := (lastOf p (txt "PdaLrRH")).any fun c => c != 'L' && c != 'H'
    let parents := p.has 'Q'
    let inside (folder s : Chars) : Chars :=
      if parents then (if folder.getLast? = some '/' then folder else folder ++ ['/']) ++ s
      else pathInside folder s
    let target := p.value? 't' <|> p.operands.getLast?
    if parents && 1 < p.operands.length &&
        !(← files).isFolder (Chars.toPath (target.getD [])) then
      return ← misuse (txt "with --parents, the destination must be a directory")
    withTarget { inside } p fun s place => do
      match (← files).find (if keepsLinks then .entry else .target) (Chars.toPath s) with
      | .error e => refuse (wish "cannot stat" s ++ txt ": " ++ e.words.toList)
      | .ok (.free _) =>
        refuse (wish "cannot stat" s ++ txt ": " ++ FileError.missing.words.toList)
      | .ok (.taken loc node) =>
        if parents then makeParents p (target.getD []) s
        match node with
        | .folder => copyFolder p loc s place
        | node => copyOne p loc node s place

end Conformance.Host.Utility
