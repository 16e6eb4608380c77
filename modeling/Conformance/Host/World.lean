import Conformance.Files.Launch
import Conformance.Host.Calendar
import Conformance.Host.Pipe
import Conformance.Host.Shell.Script
import Conformance.Time

/-!
# The world of the processes

What the processes of the host share, and what each of them has for itself. A scene is the host as
one of its processes sees it: the world, and the process itself.

Besides what its files hold, the host knows when each of them was changed, and what is permitted for
a folder.
-/
namespace Conformance.Host

/-! ## What is known of files -/

/-- The date at which the host begins. -/
def hostStart : Date := 1767225600000000000

structure Records where
  /-- When files and folders were changed, if they were. -/
  dates : List (Location × Date) := []
  /-- The modes of folders that have not the usual one. -/
  folderModes : List (Location × Nat) := []

/-- The usual mode of a folder. -/
def usualFolderMode : Nat := 0o755

namespace Records

def dateOf (r : Records) (loc : Location) : Date :=
  (r.dates.lookup loc).getD (hostStart - 1000000000)

def folderMode (r : Records) (loc : Location) : Nat :=
  (r.folderModes.lookup loc).getD usualFolderMode

/-- With a date for what stands at some locations. -/
def dated (r : Records) (locs : List Location) (d : Date) : Records :=
  { r with dates := locs.map (·, d) ++ r.dates.filter fun e => !locs.contains e.1 }

def withFolderMode (r : Records) (loc : Location) (mode : Nat) : Records :=
  { r with folderModes := (loc, mode) :: r.folderModes.filter (·.1 != loc) }

/-- Without what is known of locations. -/
def forgetting (r : Records) (gone : Location → Bool) : Records where
  dates := r.dates.filter fun e => !gone e.1
  folderModes := r.folderModes.filter fun e => !gone e.1

/-- With what is known of a location and those below it known of another one. -/
def moved (r : Records) (old new : Location) : Records :=
  let r := r.forgetting (FileTree.within new)
  let place (loc : Location) : Location :=
    if FileTree.within old loc then new ++ loc.drop old.length else loc
  { dates := r.dates.map fun (loc, d) => (place loc, d)
    folderModes := r.folderModes.map fun (loc, m) => (place loc, m) }

/-- With what is known of a location and those below it known of their copies at another one. -/
def copied (r : Records) (old new : Location) (keepsDates : Bool) : Records :=
  let copies {α : Type} (es : List (Location × α)) : List (Location × α) :=
    es.filterMap fun (loc, x) =>
      if FileTree.within old loc then some (new ++ loc.drop old.length, x) else none
  { r with
    dates := if keepsDates then copies r.dates ++ r.dates else r.dates
    folderModes := copies r.folderModes ++ r.folderModes }

/-- The locations that may be changed. -/
def changeable (t : FileTree) : List Location :=
  t.entries.filterMap fun (loc, e) =>
    match e with
    | .program _ | .device _ => none
    | .folder | .file _ | .link _ => some loc

/-- After a tree has become another: what is new has a date, and so has a folder in which something
is new or gone. -/
def after (r : Records) (old new : FileTree) (d : Date) : Records :=
  let before := changeable old
  let now := changeable new
  let fresh := now.filter (!before.contains ·)
  let gone := before.filter (!now.contains ·)
  if fresh.isEmpty && gone.isEmpty then r
  else (r.forgetting gone.contains).dated (fresh ++ (fresh ++ gone).map (·.dropLast)) d

end Records

/-! ## Processes -/

open Shell (Command Word)

inductive Ending
  | code (n : Nat)
  | signal (n : Nat)
deriving DecidableEq, Repr, Inhabited

/-- The number that a shell gives to an ending. -/
def Ending.status : Ending → Nat
  | .code n => n
  | .signal n => 128 + n

/-- What an open description leads to. -/
inductive Channel
  | null
  | zeros
  /-- Gives zeros, and has no room for what is written. -/
  | full
  /-- The end of a pipe that is read from. -/
  | source (pipe : Nat)
  /-- The end of a pipe that is written to. -/
  | sink (pipe : Nat)
  | file (id : FileId) (append : Bool)
  | folder
deriving DecidableEq, Inhabited

structure Opened where
  channel : Channel := .null
  offset : Nat := 0
  /-- It may be read from. -/
  reads : Bool := true
  /-- It may be written to. -/
  writes : Bool := true
deriving Inhabited

/-- A job that a shell remembers under a number. -/
structure JobEntry where
  number : Nat
  /-- The process that the job is known by. -/
  pid : Nat
  /-- Its processes. -/
  pids : List Nat
  /-- Its end was noted. -/
  noted : Bool := false
  /-- Its end was waited for. -/
  waited : Bool := false

/-- A process that has ended. -/
structure Ended where
  pid : Nat
  ending : Ending

/-- A signal on its way. -/
structure Sent where
  receiver : Nat
  number : Nat
deriving DecidableEq

structure Variable where
  value : Option Chars
  exported : Bool := false
  readOnly : Bool := false

structure Process where
  pid : Nat
  /-- The process that began it. -/
  parent : Nat
  /-- The process that `$$` names. -/
  shell : Nat
  /-- The first process of the group. -/
  leader : Nat
  name : Chars := []
  args : List Chars := []
  now : Instant
  /-- When the process began. -/
  begun : Instant
  descriptors : List (Nat × Nat) := []
  /-- Open descriptions that the process keeps besides those behind its descriptors. -/
  aside : List Nat := []
  here : Location := []
  bindings : List (Chars × Variable) := []
  functions : List (Chars × Command) := []
  documents : List (Nat × Word) := []
  /-- What is done at a signal; an empty text is nothing. Zero stands for the end. -/
  traps : List (Nat × Chars) := []
  /-- The process does not mind signals from a keyboard, once it was told so. -/
  deaf : Bool := false
  flags : List Char := []
  status : Nat := 0
  /-- The status of the last script whose output stood for a word of the current command. -/
  wordStatus : Nat := 0
  /-- The jobs that are remembered, the newest first. -/
  jobs : List JobEntry := []
  lastJob : Option Nat := none
  line : Nat := 1
  /-- A failure is looked at and does not end the shell. -/
  guarded : Bool := false
  /-- The process ends with the command that it runs, so that a program may take its place. -/
  last : Bool := false
  /-- How many loops surround the current command. -/
  loops : Nat := 0
  /-- The argument that is read next for options, counted from 1. -/
  optionIndex : Nat := 1
  /-- How much of the argument before it was read, if letters of that are left. -/
  optionPlace : Option Nat := none
  /-- Where programs were found that were looked for by name. -/
  found : List (Chars × Chars) := []
  /-- Words that stand for other texts at the start of a command. -/
  aliases : List (Chars × Chars) := []
  /-- What new files are not permitted. -/
  mask : Nat := 0o022
  /-- What complaints are about: a command of the shell, or the file that commands are taken
  from. -/
  about : Option Chars := none
  /-- The path by which the shell knows the current folder. -/
  folder : Chars := []
  /-- Limits that were changed, by their letters: the one that holds and the one for it. -/
  limits : List (Char × Option Nat × Option Nat) := []
  /-- How many functions are being called. -/
  calls : Nat := 0
  /-- Variables that a function has made its own, as they were before. -/
  locals : List (Chars × Option Variable) := []
  /-- The options of the shell as they were before a function made them its own. -/
  ownFlags : Option (List Char) := none
  /-- Why output was lost that is not told of yet. -/
  unwritten : Option String := none

namespace Process

/-- How many bytes a file may have that the process writes, if there is a limit. -/
def fileLimit? (p : Process) : Option Nat :=
  (p.limits.lookup 'f').bind fun (holding, _) => holding.map (· * 512)

/-- The open descriptions that a process has. -/
def held (p : Process) : List Nat :=
  p.descriptors.map (·.2) ++ p.aside

end Process

structure World where
  files : FileTree := {}
  records : Records := {}
  opened : Array Opened := #[]
  pipes : Array Pipe := #[]
  nextPid : Nat := 4000
  /-- The processes besides the one that is running. -/
  others : List Process := []
  /-- Processes that have ended, the last one first. -/
  ended : List Ended := []
  /-- Signals that were sent and not yet met. -/
  signals : List Sent := []
  /-- Processes that a signal has halted. -/
  halted : List Nat := []

structure Scene where
  world : World
  self : Process

namespace World

/-- How a process has ended, if it has. -/
def endingOf? (w : World) (pid : Nat) : Option Ending :=
  (w.ended.find? (·.pid = pid)).map (·.ending)

/-- How a job has ended, if all its processes have. -/
def endingOfJob? (w : World) (j : JobEntry) : Option Ending :=
  if j.pids.all fun pid => (w.endingOf? pid).isSome then w.endingOf? j.pid else none

/-- Whether a process has something open that leads to a channel. -/
def holds (w : World) (c : Channel) (p : Process) : Bool :=
  p.held.any fun n => w.opened[n]?.any (·.channel == c)

/-- Whether one of some processes can read from a pipe, or somebody outside does. -/
def hasReader (w : World) (pipe : Nat) (ps : List Process) : Bool :=
  w.pipes[pipe]?.any (·.watched) || ps.any (w.holds (.source pipe))

/-- Whether one of some processes can write to a pipe. -/
def hasWriter (w : World) (pipe : Nat) (ps : List Process) : Bool :=
  ps.any (w.holds (.sink pipe))

/-- After the end of a process. -/
def withEnd (w : World) (pid : Nat) (e : Ending) : World :=
  { w with
    ended := ⟨pid, e⟩ :: w.ended
    signals := w.signals.filter (·.receiver != pid)
    halted := w.halted.filter (· != pid) }

end World
end Conformance.Host
