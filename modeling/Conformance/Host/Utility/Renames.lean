import Conformance.Host.Utility.Placement

/-!
# New names

`mv` gives files and folders other names, and `ln` gives them more, or makes links to them.
-/
namespace Conformance.Host.Utility

/-! ## Moving -/

/-- Why something cannot take the place of what is there. -/
def placeRefusal? (t : FileTree) (s target : Chars) (node : Node) (new : Location)
    (there : Node) : Option Chars :=
  match node, there with
  | .folder, .folder =>
    if (t.below new).isEmpty then none
    else some (wish "cannot overwrite" target ++ txt ": " ++ FileError.notEmpty.words.toList)
  | .folder, _ =>
    some (txt "cannot overwrite non-directory " ++ quoted target ++ txt " with directory " ++
      quoted s)
  | _, .folder =>
    some (txt "cannot overwrite directory " ++ quoted target ++ txt " with non-directory")
  | _, _ => none

/-- Moves what is at a location to a path. -/
def moveTo (p : Parsed) (s target : Chars) (loc : Location) (node : Node) : Act Bool := do
  let v ← view
  let t := v.tree
  let cannot (reason : String) : Act Bool :=
    refuse (txt "cannot move " ++ quoted s ++ txt " to " ++ quoted target ++ txt ": " ++
      reason.toList)
  let moved (new : Location) (aside : Option Chars) : Act Bool := do
    let t ← files
    if FileTree.within loc new then
      return ← refuse (txt "cannot move " ++ quoted s ++ txt " to a subdirectory of itself, " ++
        quoted target)
    let records := (← world).records
    setFiles (t.moved loc new)
    modifyRecords fun _ => records.moved loc new
    announce (p.has 'v') (txt "renamed " ++ arrow s target ++ Backups.told aside)
    return true
  if endsInDots (Chars.toPath s) then return ← cannot "Device or resource busy"
  match t.find .entry (Chars.toPath target) with
  | .error e => cannot e.words
  | .ok (.free new) =>
    if target.getLast? = some '/' && node ≠ .folder then cannot FileError.notFolder.words
    else moved new none
  | .ok (.taken new there) =>
    if v.isSame loc new then
      return ← refuse (quoted s ++ txt " and " ++ quoted target ++ txt " are the same file")
    match Overwriting.ofOptions p 'n' with
    | .never =>
      return ← if p.has 'n' then refuse (txt "not replacing " ++ quoted target) else pure true
    | .older => if !isNewer v s target then return true
    | .asked => if !(← confirmed (txt "overwrite " ++ quoted target)) then return false
    | .always => pure ()
    match placeRefusal? t s target node new there with
    | some message => refuse message
    | none => moved new (← (Backups.ofOptions p).setAside target)

def mv : Program :=
  withOptions
    { letters := txt "fnviTubZx", valued := txt "tS", optional := ['U', 'B', 'Z']
      long := (txt "no-copy", 'Z') :: targetOptions, choices := targetChoices } 1
    fun p => withTarget {} p fun s target => do
    match (← files).find .entry (Chars.toPath s) with
    | .error e => refuse (wish "cannot stat" s ++ txt ": " ++ e.words.toList)
    | .ok (.free _) =>
      refuse (wish "cannot stat" s ++ txt ": " ++ FileError.missing.words.toList)
    | .ok (.taken loc node) => moveTo p s target loc node

/-! ## Linking -/

/-- The text of a link to a source, as it leads there from where the link stands. -/
def textOfLink (p : Parsed) (t : FileTree) (s target : Chars) : Chars :=
  if !p.has 'r' then s
  else
    relativePath (canonicalText t (folderName target)) (canonicalText t s)

/-- Makes a link at a path, of which `cleared` says whether it was taken before. -/
def linkAt (p : Parsed) (t : FileTree) (aside : Option Chars) (s target : Chars) : Act Bool := do
  let path := Chars.toPath target
  let kind := if p.has 's' then wish "failed to create symbolic link" target
    else wish "failed to create hard link" target
  let leading (e : FileError) : Chars :=
    if e = .present then []
    else if p.has 's' then (if s.isEmpty && !target.isEmpty then txt " -> " ++ quoted s else [])
    else txt " => " ++ quoted s
  let text := textOfLink p t s target
  let aim : Aim := if p.has 'L' then .target else .entry
  let made : Except FileError FileTree :=
    if p.has 's' then
      if s.isEmpty then .error .missing
      else t.makeLink path (Chars.toPath text)
    else
      match t.find aim (Chars.toPath s), t.find .name path with
      | _, .ok (.taken _ _) => .error .present
      | .ok (.taken old _), .ok (.free loc) => .ok (t.alsoNamed old loc)
      | .ok (.free _), _ => .error .missing
      | .error e, _ | _, .error e => .error e
  match made with
  | .ok t' =>
    setFiles t'
    let mark := if p.has 's' then txt " -> " else txt " => "
    let before := (aside.map fun name => quoted name ++ txt " ~ ").getD []
    announce (p.has 'v') (before ++ quoted target ++ mark ++ quoted text)
    return true
  | .error e => refuse (kind ++ leading e ++ txt ": " ++ e.words.toList)

/-- Makes a link, in the place of what is there if that is allowed. -/
def linkTo (p : Parsed) (s target : Chars) : Act Bool := do
  let v ← view
  let t := v.tree
  match p.has 's', t.find .entry (Chars.toPath s) with
  | false, .ok (.free _) =>
    return ← refuse (wish "failed to access" s ++ txt ": " ++ FileError.missing.words.toList)
  | false, .error e =>
    return ← refuse (wish "failed to access" s ++ txt ": " ++ e.words.toList)
  | false, .ok (.taken _ .folder) =>
    return ← refuse (quotedIfNeeded s ++ txt ": hard link not allowed for directory")
  | _, _ => pure ()
  let backups := Backups.ofOptions p
  match lastOf p ['f', 'i'], t.find .name (Chars.toPath target) with
  | choice, .ok (.taken loc _) =>
    let aside? := backups.nameFor t target
    if choice.isNone && aside?.isNone then return ← linkAt p t none s target
    if leadsTo v .entry s loc && (choice.isSome || !p.has 's') then
      return ← refuse (quoted s ++ txt " and " ++ quoted target ++ txt " are the same file")
    if choice = some 'i' then
      if !(← confirmed (txt "replace " ++ quoted target)) then return false
    let aside ← backups.setAside target
    let t ← files
    linkAt p ((t.removeFile (Chars.toPath target)).toOption.getD t) aside s target
  | _, _ => linkAt p t none s target

def ln : Program :=
  withOptions
    { letters := txt "sfnvihTLPbrFd", valued := txt "tS", optional := ['B']
      long := [(txt "symbolic", 's'), (txt "no-dereference", 'n'), (txt "relative", 'r'),
        (txt "logical", 'L'), (txt "physical", 'P'), (txt "directory", 'd')] ++
        targetOptions.filter fun o => o.1 != txt "update" && o.1 != txt "no-clobber" &&
          o.1 != txt "debug" && o.1 != txt "context" && o.1 != txt "strip-trailing-slashes"
      choices := targetChoices } 1
    fun p => do
    if p.has 'r' && !p.has 's' then
      problem (txt "cannot do --relative without --symbolic")
      return 1
    let here := p.operands.length = 1 && !p.has 't' && !p.has 'T'
    let p := { p with options := if here then ('t', ['.']) :: p.options else p.options }
    let unfit (folder : Chars) : Chars := wish "failed to access" folder
    withTarget { linkIsFile := p.has 'n' || p.has 'h', unfit } p (linkTo p)

/-- Gives a file one more name. -/
def link : Program :=
  withOptions {} 1 fun p => do
    match p.operands with
    | [] => misuse (txt "missing operand")
    | [s] => misuse (txt "missing operand after " ++ cited s)
    | _ :: _ :: other :: _ => misuse (txt "extra operand " ++ cited other)
    | [s, target] =>
      let t ← files
      let failed (reason : String) : Program := do
        problem (wish "cannot create link" target ++ txt " to " ++ quoted s ++ txt ": " ++
          reason.toList)
        return 1
      match t.find .entry (Chars.toPath s), t.find .name (Chars.toPath target) with
      | .ok (.free _), _ => failed FileError.missing.words
      | .error e, _ => failed e.words
      | _, .ok (.taken _ _) => failed FileError.present.words
      | .ok (.taken _ .folder), _ => failed "Operation not permitted"
      | _, .error e => failed e.words
      | .ok (.taken old _), .ok (.free new) =>
        if target.getLast? = some '/' then return ← failed FileError.missing.words
        setFiles (t.alsoNamed old new)
        return 0

end Conformance.Host.Utility
