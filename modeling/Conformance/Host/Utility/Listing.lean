import Conformance.Host.Shell.Pattern
import Conformance.Host.Utility.ListStyle
import Conformance.Host.Utility.Order

/-!
# Lists of folders

`ls` shows the names in folders, each on a line unless it is told otherwise, and as asked for what
is known of each file.
-/
namespace Conformance.Host.Utility

open Shell (fits patternOf)

/-! ## Options -/

/-- What an option may choose from that says when something is done. -/
def occasions : List (List String) :=
  [["always", "yes", "force"], ["never", "no", "none"], ["auto", "tty", "if-tty"]]

def listOptions : OptionTable where
  letters := txt "1aAbBcCdDfFgGhHiklLmnNopqQrRsStuUvxXZ"
  valued := txt "ITw39JMOVWY"
  optional := txt "FKE"
  long := [(txt "all", 'a'), (txt "almost-all", 'A'), (txt "author", '2'), (txt "escape", 'b'),
    (txt "block-size", '3'), (txt "ignore-backups", 'B'), (txt "directory", 'd'),
    (txt "dired", 'D'), (txt "classify", 'F'), (txt "file-type", '4'), (txt "format", 'O'),
    (txt "full-time", '5'), (txt "group-directories-first", '6'), (txt "no-group", 'G'),
    (txt "human-readable", 'h'), (txt "si", '7'), (txt "dereference-command-line", 'H'),
    (txt "dereference-command-line-symlink-to-dir", '8'), (txt "hide", '9'),
    (txt "hyperlink", 'E'), (txt "indicator-style", 'Y'), (txt "inode", 'i'),
    (txt "ignore", 'I'), (txt "kibibytes", 'k'), (txt "dereference", 'L'),
    (txt "numeric-uid-gid", 'n'), (txt "literal", 'N'), (txt "hide-control-chars", 'q'),
    (txt "show-control-chars", 'j'), (txt "quote-name", 'Q'), (txt "quoting-style", 'V'),
    (txt "reverse", 'r'), (txt "recursive", 'R'), (txt "size", 's'), (txt "sort", 'W'),
    (txt "time", 'M'), (txt "time-style", 'J'), (txt "tabsize", 'T'), (txt "width", 'w'),
    (txt "context", 'Z'), (txt "zero", '0'), (txt "color", 'K')]
  choices := [
    ('F', ⟨"--classify", occasions⟩), ('K', ⟨"--color", occasions⟩),
    ('E', ⟨"--hyperlink", occasions⟩),
    ('O', ⟨"--format", [["verbose", "long"], ["commas"], ["horizontal", "across"], ["vertical"],
      ["single-column"]]⟩),
    ('W', ⟨"--sort", [["none"], ["time"], ["size"], ["extension"], ["version"], ["width"]]⟩),
    ('M', ⟨"--time", [["atime", "access", "use"], ["ctime", "status"],
      ["mtime", "modification"], ["birth", "creation"]]⟩),
    ('V', ⟨"--quoting-style", [["literal"], ["shell"], ["shell-always"], ["shell-escape"],
      ["shell-escape-always"], ["c"], ["c-maybe"], ["escape"], ["locale"], ["clocale"]]⟩),
    ('Y', ⟨"--indicator-style", [["none"], ["slash"], ["file-type"], ["classify"]]⟩)]

/-- What comes of the options in their order. -/
def byOptions {α : Type} (p : Parsed) (start : α) (step : α → Char → String → α) : α :=
  p.options.foldl (fun x o => step x o.1 (String.ofList o.2)) start

/-- How the names are arranged: what tells more of each file is not undone by a list of lines. -/
def arrangementOf (p : Parsed) : Arrangement :=
  let asked := byOptions p none fun (now : Option Arrangement) c value =>
    match c with
    | 'l' | 'g' | 'o' | 'n' | '5' => some .long
    | 'C' => some .down
    | 'x' => some .across
    | 'm' => some .commas
    | '1' | '0' => if now = some .long then now else some .lines
    | 'f' => if now = some .long then none else now
    | 'O' => match value with
      | "verbose" => some .long
      | "commas" => some .commas
      | "horizontal" => some .across
      | "vertical" => some .down
      | _ => some .lines
    | _ => now
  asked.getD .lines

/-- The marks that names have behind them. -/
def marksOf (p : Parsed) : List Char :=
  byOptions p [] fun now c value =>
    match c, value with
    | 'F', "" | 'F', "always" | 'Y', "classify" => ['/', '@', '*']
    | '4', _ | 'Y', "file-type" => ['/', '@']
    | 'p', _ | 'Y', "slash" => ['/']
    | 'Y', _ => []
    | _, _ => now

def nameStyleOf (p : Parsed) : NameStyle :=
  let style := byOptions p NameStyle.literal fun now c value =>
    match c with
    | 'b' => .escaped
    | 'N' | '0' => .literal
    | 'Q' => .quoted
    | 'V' => match value with
      | "shell" | "shell-escape" => .shell
      | "shell-always" | "shell-escape-always" => .shellAlways
      | "c" | "clocale" => .quoted
      | "c-maybe" => .quotedIfNeeded
      | "escape" => .escaped
      | "locale" => .cited
      | _ => .literal
    | _ => now
  if style = .literal && lastOf p (txt "qj0") = some 'q' then .masked else style

/-- The formats of dates that a word stands for: of those long ago, and of others. -/
def dateStyle? (s : Chars) : Option (Chars × Chars) :=
  match s with
  | '+' :: format =>
    match Text.splitOn (· == '\n') format with
    | [old, recent] => some (old, recent)
    | _ => some (format, format)
  | _ =>
    match String.ofList s with
    | "full-iso" => some (fullDate, fullDate)
    | "long-iso" => some (txt "%Y-%m-%d %H:%M", txt "%Y-%m-%d %H:%M")
    | "iso" => some (txt "%Y-%m-%d ", txt "%m-%d %H:%M")
    | "locale" | "posix-full-iso" | "posix-long-iso" | "posix-iso" | "posix-locale" =>
      some (txt "%b %e  %Y", txt "%b %e %H:%M")
    | _ => none

/-- The last style of dates that is asked for. -/
def dateWord (p : Parsed) : Chars :=
  byOptions p (txt "locale") fun now c value =>
    if c = 'J' then value.toList else if c = '5' then txt "full-iso" else now

/-- The units of sizes and those of blocks. -/
def unitsOf (p : Parsed) : Units × Units :=
  byOptions p (.every 1 [], .every 1024 []) fun now c value =>
    match c with
    | 'h' => (.powers 1024, .powers 1024)
    | '7' => (.powers 1000, .powers 1000)
    | '3' => match Units.read? value.toList with
      | some u => (u, u)
      | none => now
    | 'k' => (now.1, .every 1024 [])
    | _ => now

/-- How a list is shown; `columns` is the width that holds for all programs. -/
def listStyle (p : Parsed) (dates : Chars × Chars) (columns : Nat) : ListStyle :=
  let width := ((p.value? 'w').bind Chars.nat?).getD columns
  { arrangement := arrangementOf p
    names := nameStyleOf p
    width := if width = 0 then none else some width
    tabs := ((p.value? 'T').bind Chars.nat?).getD 8
    ending := if p.has '0' then '\x00' else '\n'
    showsSize := (lastOf p ['s', 'f']) = some 's'
    showsNumber := p.has 'i'
    marks := marksOf p
    hasOwner := !p.has 'g'
    hasGroup := !p.has 'o' && !p.has 'G'
    hasAuthor := p.has '2'
    numeric := p.has 'n'
    sizeUnits := (unitsOf p).1
    blockUnits := (unitsOf p).2
    dates }

/-! ## Order -/

/-- What puts names in order. -/
inductive ListKey
  | name
  | none
  | date
  | size
  | ending
  | version
  | width
deriving DecidableEq

def listKey (p : Parsed) : ListKey :=
  let asked := byOptions p Option.none fun (now : Option ListKey) c value =>
    match c with
    | 't' => some .date
    | 'S' => some .size
    | 'X' => some .ending
    | 'v' => some .version
    | 'U' | 'f' => some .none
    | 'W' => match value with
      | "time" => some .date
      | "size" => some .size
      | "extension" => some .ending
      | "version" => some .version
      | "width" => some .width
      | _ => some .none
    | _ => now
  let byDate := (p.has 'c' || p.has 'u' || p.has 'M') && arrangementOf p ≠ .long
  asked.getD (if byDate then .date else .name)

/-- The part of a name from its last dot on. -/
def nameEnding (s : Chars) : Chars :=
  if s.contains '.' then '.' :: (s.reverse.takeWhile (· != '.')).reverse else []

/-- Items in the order that is asked for. -/
def inOrder (p : Parsed) (items : List Listed) : List Listed :=
  let byName := items.mergeSort fun a b => charsLe a.name b.name
  let sorted := match listKey p with
    | .none => items
    | .name => byName
    | .date => byName.mergeSort fun a b => b.attributes.date ≤ a.attributes.date
    | .size => byName.mergeSort fun a b => b.attributes.size ≤ a.attributes.size
    | .ending => byName.mergeSort fun a b => charsLe (nameEnding a.name) (nameEnding b.name)
    | .version => byName.mergeSort fun a b => (compareFileVersions a.name b.name).isLE
    | .width => byName.mergeSort fun a b => a.name.length ≤ b.name.length
  if listKey p = .none then sorted
  else
    let turned := if p.has 'r' then sorted.reverse else sorted
    if p.has '6' then
      turned.filter (·.attributes.node = .folder) ++ turned.filter (·.attributes.node ≠ .folder)
    else turned

/-! ## Folders -/

/-- Whether a name in a folder is shown. -/
def showsName (p : Parsed) (name : Chars) : Bool :=
  let fitsOne (c : Char) : Bool :=
    p.options.any fun o => o.1 == c && fits (patternOf (o.2.map (⟨·, false⟩))) name
  let all := match lastOf p ['a', 'A', 'f'] with
    | some _ => true
    | none => false
  (all || (name.head? ≠ some '.' && !fitsOne '9')) && !fitsOne 'I' &&
    !(p.has 'B' && name.getLast? = some '~')

/-- What stands in a folder, in order. -/
def folderItems (p : Parsed) (v : FileView) (loc : Location) (path : Chars) : List Listed :=
  let start := if path.getLast? = some '/' then path else path ++ ['/']
  let dots := match lastOf p ['a', 'A', 'f'] with
    | some 'A' | none => []
    | some _ => [txt ".", txt ".."]
  let names := dots ++ (v.tree.namesIn loc).map Chars.ofText
  inOrder p ((names.filter (showsName p)).filterMap fun n =>
    let found (aim : Aim) := v.attributes? aim (Chars.toPath (start ++ n))
    let seen := if p.has 'L' then
        match found .target with
        | .ok a => .ok a
        | .error _ => found .entry
      else found .entry
    seen.toOption.map (⟨n, start ++ n, ·⟩))

/-- How folders are listed. -/
structure FolderRun where
  options : Parsed
  style : ListStyle
  view : FileView
  now : Date
  titled : Bool

/-- The texts of a folder and, as asked for, of those in it; a folder in itself is complained of. -/
def FolderRun.texts (r : FolderRun) : (depth : Nat) → (above : List Location) → Chars →
    List (Except Chars Chars)
  | 0, _, _ => []
  | depth + 1, above, path =>
    match r.view.tree.find .target (Chars.toPath path) with
    | .ok (.taken loc .folder) =>
      if above.contains loc then [.error (path ++ txt ": not listing already-listed directory")]
      else
        let deep := r.options.has 'R'
        let items := folderItems r.options r.view loc path
        let title := if r.titled || deep then r.style.name path ++ txt ":\n" else []
        let blocks := items.foldl (fun n i => n + ListStyle.bytesOfBlocks i.attributes) 0
        let total := if r.style.arrangement = .long || r.style.showsSize then
            txt "total " ++ r.style.blockUnits.shown blocks ++ [r.style.ending]
          else []
        let deeper := items.filter fun i =>
          deep && i.attributes.node = .folder && i.name ≠ ['.'] && i.name ≠ txt ".."
        .ok (title ++ total ++ listing r.style r.view r.now items) ::
          deeper.flatMap fun i => r.texts depth (loc :: above) i.path
    | _ => []

/-- How a name that was given is looked at. -/
def givenItem (p : Parsed) (v : FileView) (s : Chars) : Except Chars Listed :=
  let found (aim : Aim) : Except FileError Attributes := v.attributes? aim (Chars.toPath s)
  let followsFolders := !p.has 'd' && !(marksOf p).contains '*' && arrangementOf p ≠ .long
  let outcome : Except FileError Attributes := match lastOf p ['L', 'H', '8'] with
    | some 'L' | some 'H' => found .target
    | last =>
      if last.isSome || followsFolders then
        match found .target with
        | .ok a => if a.node = Node.folder then .ok a else found .entry
        | .error .missing => found .entry
        | .error e => .error e
      else found .entry
  match outcome with
  | .ok a => .ok ⟨s, s, a⟩
  | .error e => .error (txt "cannot access " ++ quoted s ++ txt ": " ++ e.words.toList)

/-- A complaint about the value of an option, if there is one. -/
def listFault? (p : Parsed) : Option Chars :=
  let improper (c : Char) (isGood : Chars → Bool) (message : Chars → Chars) : Option Chars :=
    ((p.options.filter (·.1 == c)).find? fun o => !isGood o.2).map fun o => message o.2
  (improper 'w' (fun s => (Chars.nat? s).isSome) fun s =>
      txt "invalid line width: " ++ cited s).or <|
    (improper 'T' (fun s => (Chars.nat? s).isSome) fun s =>
      txt "invalid tab size: " ++ cited s).or <|
    improper '3' (fun s => (Units.read? s).isSome) fun s =>
      txt "invalid --block-size argument '" ++ s ++ ['\'']

/-- The width of rows that holds for all programs. -/
def rowWidth : Act Nat := do
  match ← valueOf? (txt "COLUMNS") with
  | none | some [] => return 80
  | some s =>
    match Chars.nat? s with
    | some n => return n
    | none =>
      problem (txt "ignoring invalid width in environment variable COLUMNS: " ++ cited s)
      return 80

/-- Lists the files that the options ask for, with their dates in these formats. -/
def listFiles (p : Parsed) (dates : Chars × Chars) : Program := do
  let v ← view
  let now ← currentDate
  let style := listStyle p dates (← rowWidth)
  let results := (if p.operands.isEmpty then [['.']] else p.operands).map (givenItem p v)
  results.forM fun
    | .error message => problem message
    | .ok _ => pure ()
  let items := inOrder p (results.filterMap (·.toOption))
  let isOpened (i : Listed) : Bool := !p.has 'd' && i.attributes.node == Node.folder
  let single := items.filter (!isOpened ·)
  let run : FolderRun := { options := p, style, view := v, now, titled := 1 < results.length }
  let depth := v.tree.entries.length + 2
  let texts := (items.filter isOpened).flatMap fun i => run.texts depth [] i.path
  let parts := (if single.isEmpty then [] else [listing style v now single]) ++
    texts.filterMap (·.toOption)
  texts.forM fun
    | .error message => problem message
    | .ok _ => pure ()
  emit (Chars.join ['\n'] parts)
  return if results.all (·.toOption.isSome) && texts.all (·.toOption.isSome) then 0 else 2

def ls : Program :=
  withOptions listOptions 2 fun p => do
    if let some message := listFault? p then
      problem message
      return 2
    match dateStyle? (dateWord p) with
    | some dates => listFiles p dates
    | none =>
      if arrangementOf p ≠ .long then listFiles p ([], [])
      else
        misuse (txt "invalid argument " ++ cited (dateWord p) ++ txt " for " ++
          cited (txt "time style") ++
          txt "\nValid arguments are:\n  - [posix-]full-iso\n  - [posix-]long-iso\n" ++
          txt "  - [posix-]iso\n  - [posix-]locale\n" ++
          txt "  - +FORMAT (e.g., +%H:%M) for a 'date'-style format") 2

end Conformance.Host.Utility
