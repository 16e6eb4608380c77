import Conformance.Host.Utility.Removal

/-!
# Sources and targets

Programs that copy, move and link files are given some sources and a target, which is a folder to
put things in or the path of one thing. What stands there already may be kept, replaced or set
aside.
-/
namespace Conformance.Host.Utility

/-- The path that something has in a folder. -/
def pathInside (folder source : Chars) : Chars :=
  (if folder.getLast? = some '/' then folder else folder ++ ['/']) ++ baseName source

/-- What is peculiar to a program with sources and a target. -/
structure Targeting where
  /-- A link to a folder is no place to put things in. -/
  linkIsFile : Bool := false
  /-- Why a folder that an option names is none. -/
  unfit : Chars → Chars := fun folder => txt "target directory " ++ quoted folder
  /-- The path of a source in a folder. -/
  inside : Chars → Chars → Chars := pathInside

/-- Goes through the sources of a program, each with its path at the target. -/
def withTarget (g : Targeting) (p : Parsed) (body : Chars → Chars → Act Bool) : Program := do
  let t ← files
  let isFolder (s : Chars) : Bool :=
    let isLink := t.find .entry (Chars.toPath s) matches .ok (.taken _ (.link _))
    t.isFolder (Chars.toPath s) && !(isLink && g.linkIsFile)
  let why (s : Chars) : Chars :=
    (if t.isPresent (Chars.toPath s) then FileError.notFolder else .missing).words.toList
  match p.value? 't', p.operands.reverse with
  | _, [] => misuse (txt "missing file operand")
  | some folder, _ =>
    if !isFolder folder then
      problem (g.unfit folder ++ txt ": " ++ why folder)
      return 1
    eachName (fun s => body s (g.inside folder s)) 0 p.operands
  | none, [s] => misuse (txt "missing destination file operand after " ++ quoted s)
  | none, target :: sources =>
    if p.has 'T' then
      match p.operands.drop 2 with
      | extra :: _ => return ← misuse (txt "extra operand " ++ quoted extra)
      | [] => return ← eachName (fun s => body s target) 0 sources
    if isFolder target then
      eachName (fun s => body s (g.inside target s)) 0 sources.reverse
    else if sources.length = 1 then eachName (fun s => body s target) 0 sources
    else
      problem (txt "target " ++ quoted target ++ txt ": " ++ why target)
      return 1

/-! ## What is there already -/

/-- What becomes of a file that another one takes the place of. -/
inductive Overwriting
  | always
  | never
  | asked
  /-- It is kept if it is no older. -/
  | older
deriving DecidableEq

/-- `never` is the letter that keeps what is there. -/
def Overwriting.ofOptions (p : Parsed) (never : Char) : Overwriting :=
  let update := (p.options.filter fun o => o.1 = 'u' || o.1 = 'U').getLast?
  match lastOf p ['f', 'i', never], update with
  | some c, _ =>
    if c = 'i' then .asked else if c = never then .never else fromUpdate update
  | none, update => fromUpdate update
where
  fromUpdate : Option (Char × Chars) → Overwriting
    | some ('U', value) =>
      if value = txt "none" then .never else if value = txt "all" then .always else .older
    | some _ => .older
    | none => .always

/-- How the name is made under which something is set aside. -/
inductive BackupStyle
  | none
  | simple
  | numbered
  /-- With a number if there is one with a number already. -/
  | asBefore

structure Backups where
  style : BackupStyle
  ending : Chars

namespace Backups

def ofOptions (p : Parsed) : Backups where
  style := match (p.options.filter fun o => "bBS".toList.contains o.1).getLast? with
    | Option.none => .none
    | some _ =>
      match (p.value? 'B').map String.ofList with
      | some "none" => .none
      | some "simple" => .simple
      | some "numbered" => .numbered
      | _ => .asBefore
  ending := match p.value? 'S' with
    | some (c :: s) => c :: s
    | _ => ['~']

/-- The number in the name of something that was set aside. -/
def numberIn (target name : Chars) : Option Nat :=
  let start := target ++ txt ".~"
  if start.isPrefixOf name && name.getLast? = some '~' then
    Chars.nat? ((name.drop start.length).dropLast)
  else Option.none

/-- The name under which the file at a path is set aside. -/
def nameFor (b : Backups) (t : FileTree) (target : Chars) : Option Chars :=
  let names := match t.find .target (Chars.toPath (folderName target)) with
    | .ok (.taken loc .folder) => (t.namesIn loc).map Chars.ofText
    | _ => []
  let numbers := names.filterMap (numberIn (baseName target))
  let numbered : Chars :=
    target ++ txt ".~" ++ Chars.ofNat (numbers.foldl max 0 + 1) ++ ['~']
  match b.style with
  | .none => Option.none
  | .simple => some (target ++ b.ending)
  | .numbered => some numbered
  | .asBefore => some (if numbers.isEmpty then target ++ b.ending else numbered)

/-- Sets aside what stands at a path, if that is asked for; its new name. -/
def setAside (b : Backups) (target : Chars) : Act (Option Chars) := do
  let t ← files
  match t.find .entry (Chars.toPath target), b.nameFor t target with
  | .ok (.taken loc _), some name =>
    match t.find .name (Chars.toPath name) with
    | .ok (.taken new _) | .ok (.free new) =>
      let records := (← world).records
      setFiles (t.moved loc new)
      modifyRecords fun _ => records.moved loc new
      return some name
    | .error _ => return Option.none
  | _, _ => return Option.none

/-- What is told of something set aside. -/
def told : Option Chars → Chars
  | some name => txt " (backup: " ++ quoted name ++ [')']
  | Option.none => []

end Backups

/-- Options for where things go, and for what is there. -/
def targetOptions : List (Chars × Char) :=
  [(txt "target-directory", 't'), (txt "no-target-directory", 'T'), (txt "verbose", 'v'),
    (txt "force", 'f'), (txt "interactive", 'i'), (txt "backup", 'B'), (txt "suffix", 'S'),
    (txt "update", 'U'), (txt "no-clobber", 'n'), (txt "strip-trailing-slashes", 'x'),
    (txt "debug", 'v'), (txt "context", 'Z')]

def targetChoices : List (Char × Choice) :=
  [('B', { subject := "backup type",
           rows := [["none", "off"], ["simple", "never"], ["existing", "nil"],
             ["numbered", "t"]] }),
    ('U', { subject := "--update", rows := [["all"], ["none"], ["older"]] })]

/-- A source and its target, in words. -/
def arrow (source target : Chars) : Chars :=
  quoted source ++ txt " -> " ++ quoted target

/-- Whether a path leads to a location, or to another one of the same file. -/
def leadsTo (v : FileView) (aim : Aim) (s : Chars) (loc : Location) : Bool :=
  match v.tree.find aim (Chars.toPath s) with
  | .ok (.taken found _) => v.isSame loc found
  | _ => false

/-- Whether what is at one path was changed after what is at another one. -/
def isNewer (v : FileView) (a b : Chars) : Bool :=
  match v.attributes? .target (Chars.toPath a), v.attributes? .target (Chars.toPath b) with
  | .ok x, .ok y => y.date < x.date
  | _, _ => true

/-- A copy of a tree of files at another location. -/
def copyTree (t : FileTree) (source target : Location) : FileTree :=
  (t.below source).reverse.foldl (fun t (loc, node) => t.put (target ++ loc) node)
    (match t.get? source with
      | some node => t.put target node
      | none => t)

end Conformance.Host.Utility
