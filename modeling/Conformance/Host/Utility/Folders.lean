import Conformance.Host.Attributes
import Conformance.Host.DateReading
import Conformance.Host.ModeChange
import Conformance.Host.Utility.Lines

/-!
# Programs that work on folders and names
-/
namespace Conformance.Host.Utility

/-- Runs `body` on each name, which tells whether it did what it was to do. -/
def eachName (body : Chars → Act Bool) (status : Nat) : List Chars → Program
  | [] => return status
  | s :: more => do
    let done ← body s
    eachName body (if done then status else 1) more

/-- Runs `body` on each operand; a reason why it could not be done is told. -/
def eachOperand (p : Parsed) (wish : Chars → Chars)
    (body : Chars → Act (Option String)) : Program := do
  if p.operands.isEmpty then misuse (txt "missing operand")
  else
    eachName (fun s => do
      match ← body s with
      | none => return true
      | some reason => refuse (wish s ++ txt ": " ++ reason.toList)) 0 p.operands

/-- The wish to do something with a file, in words. -/
def wish (words : String) (s : Chars) : Chars :=
  words.toList ++ ' ' :: quoted s

/-- Whether the last part of a path is a dot or two. -/
def endsInDots (p : Path) : Bool :=
  match (FileTree.steps p).getLast? with
  | some ['.'] | some ['.', '.'] => true
  | _ => false

/-- Shows a line, if it is asked for. -/
def announce (shown : Bool) (line : Chars) : Act Unit := do
  if shown then
    emit (line ++ ['\n'])

/-! ## Making and removing folders -/

/-- The paths of the folders above a path, the topmost first, and the path itself. -/
def pathsAbove (s : Chars) : List Chars :=
  let cut := Text.dropEndWhile (· == '/') s
  let ends := (List.range cut.length).filter fun n => 0 < n && cut[n]? = some '/'
  (ends ++ [s.length]).map s.take

/-- The date at which a folder was made is known, and its mode if it is not the usual one. -/
def recordMode (loc : Location) (mode : Nat) : Act Unit := do
  if mode ≠ usualFolderMode then modifyRecords (·.withFolderMode loc mode)

/-- Makes a folder, and as asked for those above it. -/
def makeFolder (p : Parsed) (change : ModeChange) (s : Chars) : Act (Option String) := do
  let t ← files
  let (t', failure) ← if p.has 'p' then pure (t.makeFolders (Chars.toPath s))
    else match t.makeFolder (Chars.toPath s) with
      | .ok t' => pure (t', none)
      | .error e => pure (t, some e)
  setFiles t'
  let mask := (← self).mask
  let above := if p.has 'p' then pathsAbove s else [s]
  let made := above.filter fun path =>
    !t.isPresent (Chars.toPath path) && t'.isPresent (Chars.toPath path)
  made.forM fun path => do
    announce (p.has 'v') (txt "mkdir: created directory " ++ quoted path)
    match t'.find .target (Chars.toPath path) with
    | .ok (.taken loc _) =>
      recordMode loc (if path = s then change.apply true mask 0o777 else 0o777 - (0o777 &&& mask))
    | _ => pure ()
  return failure.map (·.words)

def mkdir : Program :=
  withOptions
    { letters := ['p', 'v', 'Z'], valued := ['m']
      long := [(txt "parents", 'p'), (txt "verbose", 'v'), (txt "mode", 'm')] } 1 fun p => do
    if p.operands.isEmpty then return ← misuse (txt "missing operand")
    let usual := ModeChange.exactly (0o777 - (0o777 &&& (← self).mask))
    match (p.value? 'm').elim (some usual) ModeChange.read? with
    | none =>
      problem (txt "invalid mode " ++ cited ((p.value? 'm').getD []))
      return 1
    | some change =>
      eachOperand p (txt "cannot create directory " ++ cited ·) (makeFolder p change)

/-- Removes a folder that is empty, and as asked for also those above it that become so. -/
def removeEmpty (p : Parsed) : (depth : Nat) → Chars → Act (Option String)
  | 0, _ => return none
  | depth + 1, s => do
    let t ← files
    let path := Chars.toPath s
    announce (p.has 'v') (txt "rmdir: removing directory, " ++ quoted s)
    match t.removeEmptyFolder path with
    | .ok t' =>
      setFiles t'
      let next := if p.has 'p' then (path.parent?.filter (·.chars ≠ [])) else none
      match next with
      | some p' => removeEmpty p depth (Chars.ofText p'.text)
      | none => return none
    | .error e =>
      if p.has 'i' && e = .notEmpty then return none
      let isLink := path.endsWithSlash && e == .notFolder && t.isFolder path
      return some (if isLink then "Symbolic link not followed" else e.words)

def rmdir : Program :=
  withOptions
    { letters := ['p', 'v']
      long := [(txt "parents", 'p'), (txt "verbose", 'v'),
        (txt "ignore-fail-on-non-empty", 'i')] } 1
    fun p => eachOperand p (wish "failed to remove") fun s => removeEmpty p (s.length + 1) s

/-- The date that digits write: a month, a day, an hour and a minute, with the year before them and
the seconds behind a point. -/
def stampDate? (now : Date) (s : Chars) : Option Date :=
  let whole := s.takeWhile (· != '.')
  let behind := s.drop whole.length
  let seconds := if behind.isEmpty then some 0
    else if behind.length = 3 then Chars.nat? (behind.drop 1) else none
  let two (i : Nat) : Nat := Chars.natOfDigits ((whole.drop i).take 2)
  let start := whole.length - 8
  let year : Option Int := match start with
    | 0 => some (Moment.ofDate now).year
    | 2 => some (DateParts.fullYear (two 0) 2)
    | 4 => some (Chars.natOfDigits (whole.take 4))
    | _ => none
  match seconds, year with
  | some second, some year =>
    if whole.length < 8 || !Chars.isDigits whole then none
    else
      (({} : DateParts).withDate (some year) (two start) (two (start + 2))).bind fun p =>
        (p.withTime (two (start + 4)) (two (start + 6)) second 0).bind (·.date? now)
  | _, _ => none

/-- Gives a file a date; an empty one is made if there is none. -/
def touchFile (creates : Bool) (date : Option Date) (s : Chars) : Act Bool := do
  let t ← files
  let path := Chars.toPath s
  let now ← currentDate
  let setDate (loc : Location) : Act Unit := do
    let t ← files
    modifyRecords (·.dated (t.namesOf loc) (date.getD now))
  let refused (e : FileError) : Act Bool :=
    refuse (wish "cannot touch" s ++ txt ": " ++ e.words.toList)
  match t.find .content path, t.find .target path with
  | .ok (.taken loc _), _ | .error .isFolder, .ok (.taken loc _) =>
    setDate loc
    return true
  | .ok (.free loc), _ =>
    if creates then
      putFile loc [] (Node.newMode (← self).mask)
      setDate loc
    return true
  | .error .isFolder, found =>
    let e := match found with
      | .error e => e
      | .ok _ => .missing
    if !creates && e = .missing then return true
    refuse (wish "setting times of" s ++ txt ": " ++ e.words.toList)
  | .error e, _ => if !creates && e = .missing then return true else refused e

/-- The date that options give; none if it is the current one. -/
def givenDate (p : Parsed) : Act (Except Chars (Option Date)) := do
  let reference : Except Chars (Option Date) ← match p.value? 'r' with
    | none => pure (.ok none)
    | some name =>
      let aim : Aim := if p.has 'h' then .entry else .target
      match (← view).attributes? aim (Chars.toPath name) with
      | .ok a => pure (.ok (some a.date))
      | .error e =>
        pure (.error (wish "failed to get attributes of" name ++ txt ": " ++ e.words.toList))
  let now ← currentDate
  let improper (s : Chars) : Chars := txt "invalid date format " ++ cited s
  match reference, p.value? 't', p.value? 'd' with
  | .error message, _, _ => return .error message
  | .ok _, some s, _ =>
    return match stampDate? now s with
      | some d => .ok (some d)
      | none => .error (improper s)
  | .ok from_, none, some s =>
    return match Date.read (from_.getD now) s with
      | some d => .ok (some d)
      | none => .error (improper s)
  | .ok from_, none, none => return .ok from_

def touchOptions : OptionTable where
  letters := txt "acmfh"
  valued := txt "drtT"
  long := [(txt "no-create", 'c'), (txt "date", 'd'), (txt "reference", 'r'),
    (txt "no-dereference", 'h'), (txt "time", 'T')]
  choices := [('T', { subject := "--time",
                      rows := [["atime", "access", "use"], ["mtime", "modify"]] })]

def touch : Program :=
  withOptions touchOptions 1 fun p => do
    match ← givenDate p with
    | .error message =>
      problem message
      return 1
    | .ok date =>
      if p.has 't' && (p.has 'd' || p.has 'r') then
        return ← misuse (txt "cannot specify times from more than one source")
      if p.operands.isEmpty then return ← misuse (txt "missing file operand")
      let opensOnly := (p.has 'a' || p.value? 'T' = some (txt "atime")) && !p.has 'm' &&
        p.value? 'T' ≠ some (txt "mtime")
      if opensOnly then
        eachName (fun s => do
          let old := ((← view).attributes? .target (Chars.toPath s)).toOption.map (·.date)
          touchFile (!p.has 'c' && !p.has 'h') old s) 0 p.operands
      else eachName (touchFile (!p.has 'c' && !p.has 'h') date) 0 p.operands

/-! ## Names -/

/-- The last name of a path. -/
def baseName (s : Chars) : Chars :=
  let cut := Text.dropEndWhile (· == '/') s
  if cut.isEmpty then (if s.isEmpty then [] else ['/'])
  else (cut.reverse.takeWhile (· != '/')).reverse

/-- A path without its last name. -/
def folderName (s : Chars) : Chars :=
  let cut := Text.dropEndWhile (· == '/') s
  if cut.isEmpty then (if s.isEmpty then ['.'] else ['/'])
  else if !cut.contains '/' then ['.']
  else
    let above := Text.dropEndWhile (· == '/') (cut.reverse.dropWhile (· != '/')).reverse
    if above.isEmpty then ['/'] else above

/-- A name without an ending, unless it is nothing else. -/
def withoutEnding (ending name : Chars) : Chars :=
  if ending ≠ name && ending.reverse.isPrefixOf name.reverse then
    name.take (name.length - ending.length)
  else name

/-- Texts, each ended by a newline or by a NUL. -/
def endedBy (byNul : Bool) (lines : List Chars) : Chars :=
  lines.flatMap (· ++ [if byNul then '\x00' else '\n'])

def basename : Program :=
  withOptions
    { letters := ['a', 'z'], valued := ['s']
      long := [(txt "multiple", 'a'), (txt "suffix", 's'), (txt "zero", 'z')], leading := true }
    1 fun p => do
    let several := p.has 'a' || p.has 's'
    let shown (ending : Chars) (names : List Chars) : Program :=
      emitOnly (endedBy (p.has 'z') (names.map fun s => withoutEnding ending (baseName s)))
    match p.operands with
    | [] => misuse (txt "missing operand")
    | [s, ending] =>
      if several then shown ((p.value? 's').getD []) [s, ending] else shown ending [s]
    | names =>
      match names.drop 2 with
      | extra :: _ =>
        if several then shown ((p.value? 's').getD []) names
        else misuse (txt "extra operand " ++ cited extra)
      | [] => shown ((p.value? 's').getD []) names

def dirname : Program :=
  withOptions { letters := ['z'], long := [(txt "zero", 'z')] } 1 fun p =>
    if p.operands.isEmpty then misuse (txt "missing operand")
    else emitOnly (endedBy (p.has 'z') (p.operands.map folderName))

/-! ## Where paths lead -/

/-- The whole path of a location. -/
def wholePath (loc : Location) : Chars :=
  '/' :: Chars.join ['/'] (loc.map Chars.ofText)

/-- The whole path of what a path leads to, of which the last name may be free unless `present` is
set. -/
def canonical (t : FileTree) (present : Bool) (s : Chars) : Except FileError Chars :=
  match t.find .target (Chars.toPath s) with
  | .ok (.taken loc _) => .ok (wholePath loc)
  | .ok (.free loc) => if present then .error .missing else .ok (wholePath loc)
  | .error e => .error e

/-- A location with steps taken from it by their names alone. -/
def stepsTaken (loc : Location) (steps : List (List Char)) : Location :=
  steps.foldl (fun l name =>
    if name = ['.'] then l
    else if name = ['.', '.'] then l.dropLast
    else l ++ [String.ofList name]) loc

/-- The location that a path leads to, of which any part may be missing. -/
def locationAround (t : FileTree) (s : Chars) : Location :=
  let path := Chars.toPath s
  let steps := FileTree.steps path
  let rec go : (kept : Nat) → Location
    | 0 => stepsTaken (if path.isAbsolute then [] else t.here) steps
    | kept + 1 =>
      let names := (steps.take (kept + 1)).map fun n => Chars.ofText (String.ofList n)
      let start := Chars.join ['/'] names
      match t.find .target (Chars.toPath (if path.isAbsolute then '/' :: start else start)) with
      | .ok (.taken loc _) => stepsTaken loc (steps.drop (kept + 1))
      | _ => go kept
  go steps.length

/-- The whole path of what a path leads to, of which any part may be missing. -/
def canonicalText (t : FileTree) (s : Chars) : Chars :=
  wholePath (locationAround t s)

/-- The path that leads from one whole path to another one. -/
def relativePath (start path : Chars) : Chars :=
  let names (s : Chars) : List Chars := (Text.splitOn (· == '/') s).filter (!·.isEmpty)
  let rec go : List Chars → List Chars → List Chars
    | a :: as, b :: bs => if a = b then go as bs else (a :: as).map (fun _ => txt "..") ++ b :: bs
    | as, bs => as.map (fun _ => txt "..") ++ bs
  let steps := go (names start) (names path)
  if steps.isEmpty then ['.'] else Chars.join ['/'] steps

/-- What a link leads to as it is written. -/
def linkText (t : FileTree) (s : Chars) : Except FileError Chars :=
  match t.find .entry (Chars.toPath s) with
  | .ok (.taken _ (.link target)) => .ok (Chars.ofText target.text)
  | .ok (.taken _ _) => .error .invalid
  | .ok (.free _) => .error .missing
  | .error e => .error e

def readlink : Program :=
  withOptions
    { letters := txt "femnqsvz"
      long := [(txt "canonicalize", 'f'), (txt "canonicalize-existing", 'e'),
        (txt "canonicalize-missing", 'm'), (txt "no-newline", 'n'), (txt "quiet", 'q'),
        (txt "silent", 's'), (txt "verbose", 'v'), (txt "zero", 'z')] } 1 fun p => do
    if p.operands.isEmpty then return ← misuse (txt "missing operand")
    let t ← files
    let read (s : Chars) : Except FileError Chars :=
      match lastOf p ['f', 'e', 'm'] with
      | some 'm' => if s.isEmpty then .error .missing else .ok (canonicalText t s)
      | some c => canonical t (c = 'e') s
      | none => linkText t s
    let bare := p.has 'n' && p.operands.length = 1
    eachName (fun s => do
      match read s with
      | .ok target =>
        emit (if bare then target else endedBy (p.has 'z') [target])
        return true
      | .error e =>
        if p.has 'v' then problem (quotedIfNeeded s ++ txt ": " ++ e.words.toList)
        return false) 0 p.operands

/-- How whole paths are found. -/
structure PathSearch where
  /-- Everything has to be there, or nothing, or all but the last name. -/
  present : Bool
  missing : Bool
  /-- Links are left as they are. -/
  byNames : Bool
  /-- Two dots take back the name before them, even of a link. -/
  logical : Bool

namespace PathSearch

/-- A path with its dots taken away by names alone, from the root. -/
def plain (t : FileTree) (s : Chars) : Chars :=
  let path := Chars.toPath s
  wholePath (stepsTaken (if path.isAbsolute then [] else t.here) (FileTree.steps path))

def find (q : PathSearch) (t : FileTree) (s : Chars) : Except FileError Chars :=
  if s.isEmpty then .error .missing
  else
    let s := if q.logical || q.byNames then plain t s else s
    if q.missing then .ok (if q.byNames then s else canonicalText t s)
    else (canonical t q.present s).map fun path => if q.byNames then s else path

end PathSearch

def realpathOptions : OptionTable where
  letters := txt "emsqzLP"
  valued := txt "TB"
  long := [(txt "canonicalize-existing", 'e'), (txt "canonicalize-missing", 'm'),
    (txt "strip", 's'), (txt "no-symlinks", 's'), (txt "quiet", 'q'), (txt "zero", 'z'),
    (txt "logical", 'L'), (txt "physical", 'P'), (txt "relative-to", 'T'),
    (txt "relative-base", 'B')]

/-- Whether a whole path is another one or lies below it. -/
def liesBelow (base path : Chars) : Bool :=
  base = ['/'] || path = base || (base ++ ['/']).isPrefixOf path

def realpath : Program :=
  withOptions realpathOptions 1 fun p => do
    if p.operands.isEmpty then return ← misuse (txt "missing operand")
    let t ← files
    let q : PathSearch :=
      { present := lastOf p ['e', 'm'] = some 'e', missing := lastOf p ['e', 'm'] = some 'm'
        byNames := lastOf p ['s', 'L', 'P'] = some 's'
        logical := lastOf p ['L', 'P', 's'] = some 'L' }
    let told (s : Chars) (e : FileError) : Act Bool :=
      refuse (quotedIfNeeded s ++ txt ": " ++ e.words.toList)
    let folder (s : Chars) : Act (Option Chars) := do
      match q.find t s with
      | .ok path =>
        if q.present && !t.isFolder (Chars.toPath s) then
          let _ ← told s .notFolder
          return none
        return some path
      | .error e =>
        let _ ← told s e
        return none
    let given ← (txt "TB").mapM fun c => do
      match p.value? c with
      | none => return some none
      | some s => return (← folder s).map some
    match given with
    | [some start, some base] =>
      let start := start <|> base
      let base := if base.any fun b => !(start.any (liesBelow b)) then none else base
      let isOutside := (p.value? 'B').isSome && base.isNone
      eachName (fun s => do
        match q.find t s with
        | .ok path =>
          let shown := match start with
            | some start =>
              if isOutside || base.any (!liesBelow · path) then path else relativePath start path
            | none => path
          emit (endedBy (p.has 'z') [shown])
          return true
        | .error e => if p.has 'q' then return false else told s e) 0 p.operands
    | _ => return 1

end Conformance.Host.Utility
