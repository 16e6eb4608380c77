import Conformance.Host.Attributes
import Conformance.Host.Program
import Conformance.Host.Sed.Reader
import Conformance.Host.Sed.Running
import Conformance.Host.Shell.Running

/-!
# `sed`

The program takes its script from options or from the first argument, and edits its inputs as one
text, or each by itself. How it is used is shown on demand, and on the error stream after a
complaint of the arguments.
-/
namespace Conformance.Host.Sed

/-! ## How it is used -/

/-- Where pages about the programs of this family are found. -/
def homeOf (page : String) : String :=
  "<https:" ++ "//www.gnu.org/" ++ page ++ "/>"

/-- How the program is used, under the name that it was started with. -/
def usage (name : Chars) : Chars :=
  txt "Usage: " ++ name ++ (lines.map fun l => l.toList ++ ['\n']).flatten
where
  lines : List String :=
   [" [OPTION]... \x7bscript-only-if-no-other-script\x7d [input-file]...",
    "",
    "  -n, --quiet, --silent",
    "                 suppress automatic printing of pattern space",
    "      --debug",
    "                 annotate program execution",
    "  -e script, --expression=script",
    "                 add the script to the commands to be executed",
    "  -f script-file, --file=script-file",
    "                 add the contents of script-file to the commands to be executed",
    "  --follow-symlinks",
    "                 follow symlinks when processing in place",
    "  -i[SUFFIX], --in-place[=SUFFIX]",
    "                 edit files in place (makes backup if SUFFIX supplied)",
    "  -l N, --line-length=N",
    "                 specify the desired line-wrap length for the \x60l' command",
    "  --posix",
    "                 disable all GNU extensions.",
    "  -E, -r, --regexp-extended",
    "                 use extended regular expressions in the script",
    "                 (for portability use POSIX -E).",
    "  -s, --separate",
    "                 consider files as separate rather than as a single,",
    "                 continuous long stream.",
    "      --sandbox",
    "                 operate in sandbox mode (disable e/r/w commands).",
    "  -u, --unbuffered",
    "                 load minimal amounts of data from the input files and flush",
    "                 the output buffers more often",
    "  -z, --null-data",
    "                 separate lines by NUL characters",
    "      --help     display this help and exit",
    "      --version  output version information and exit",
    "",
    "If no -e, --expression, -f, or --file option is given, then the first",
    "non-option argument is taken as the sed script to interpret.  All",
    "remaining arguments are names of input files; if no input files are",
    "specified, then the standard input is read.",
    "",
    "GNU sed home page: " ++ homeOf "software/sed" ++ ".",
    "General help using GNU software: " ++ homeOf "gethelp" ++ "."]

open Utility
open Shell (Start runCommand)

/-! ## Scripts -/

/-- A part of a script with where it comes from: the number of an option, or a file. -/
structure ScriptPart where
  text : Chars
  file : Option Chars := none

/-- The parts of the script that options give; the name of a file that cannot be read otherwise. -/
def scriptParts : List (Char × Chars) → Act (Except (Chars × String) (List ScriptPart))
  | [] => return .ok []
  | o :: more => do
    if o.1 = 'e' then return (← scriptParts more).map ({ text := o.2 } :: ·)
    else if o.1 = 'f' then
      let s ← if o.2 = ['-'] then drain 0 else supplyOf o.2
      match s.tail with
      | .broken e => return .error (o.2, e)
      | _ =>
        awaitTail s
        let part : ScriptPart := { text := Chars.withoutNewline s.content, file := some o.2 }
        return (← scriptParts more).map (part :: ·)
    else scriptParts more

/-- Where a fault is, in words: `read` characters of all parts were read. -/
def placeShown : (number read : Nat) → List ScriptPart → Chars
  | _, _, [] => []
  | number, read, part :: more =>
    if part.text.length < read && !more.isEmpty then
      placeShown (if part.file.isSome then number else number + 1)
        (read - part.text.length - 1) more
    else
      match part.file with
      | some name =>
        let line := ((part.text.take (read - 1)).filter (· == '\n')).length + 1
        txt "file " ++ name ++ txt " line " ++ Chars.ofNat line
      | none =>
        txt "-e expression #" ++ Chars.ofNat number ++ txt ", char " ++
          Chars.ofNat (min read part.text.length)

/-- Complains of a script. -/
def complainOfScript (parts : List ScriptPart) (length : Nat) (f : ScriptFault) : Program := do
  match f.place with
  | .here =>
    problem (placeShown 1 (length - f.rest) parts ++ txt ": " ++ f.message.toList)
    return 1
  | .start =>
    problem (txt "-e expression #1, char 0: " ++ f.message.toList)
    return 1
  | .none =>
    problem f.message.toList
    return 4

/-! ## Inputs -/

structure EditOptions where
  script : Script
  quiet : Bool
  separate : Bool
  /-- No more of the input is taken than is needed. -/
  unbuffered : Bool
  /-- What a link leads to is edited, and not replaced in its place. -/
  followsLinks : Bool
  mark : Char
  width : Nat

/-- What can be read of the files as they are now. -/
def readable : Act (Chars → Option Chars) := do
  let t ← files
  return fun name => ((t.read (Chars.toPath name)).toOption).map Chars.ofBytes

/-- The setting of a run, as the files are now. -/
def EditOptions.setting (o : EditOptions) : Act Setting := do
  return {
    quiet := o.quiet || o.script.quiet
    mark := o.mark
    width := o.width
    content? := ← readable
    unbuffered := o.unbuffered
    typed := (← drainedInput).content }
where
  /-- The input stream, if the script reads it as a file. -/
  drainedInput : Act Supply := do
    let reads := o.script.commands.any fun c => match c.edit with
      | .readFile name | .readLine name => name == txt "/dev/stdin"
      | _ => false
    if reads then drain 0 else return {}

/-- Writes all of a file; whether that was possible. -/
def writeWhole (name text : Chars) : Act Bool := do
  match ← openToWrite name false with
  | .error _ => return true
  | .ok n =>
    match ← writeOpened n text with
    | none => return true
    | some e => refuse (txt "couldn't flush <unknown>: " ++ e.toList)

/-- Writes for files and for the error stream what a run left, or so much as has got there by now;
whether that was possible. -/
def writeOutlets (e : Editor) (left : Outlet → Chars) : Act Bool := do
  let all ← e.written.mapM fun (target, _) => do
    match target with
    | .output => return true
    | .errors =>
      complain (e.writtenTo .errors)
      return true
    | .file name => writeWhole name (left target)
  return all.all id

/-- The status that a run leaves, after what is said of it. -/
def statusOf (r : RunEnd) : Program := do
  match r with
  | .status n _ => return n
  | .noExpression =>
    problem (txt "-e expression #1, char 0: no previous regular expression")
    return 1
  | .asks _ _ _ | .endless => waitForEver

/-- What is said of an input that cannot be read. -/
def unread (name : Chars) (reason : String) : Act Unit :=
  if reason = FileError.isFolder.words then
    problem (txt "couldn't edit " ++ name ++ txt ": not a regular file")
  else problem (txt "can't read " ++ name ++ txt ": " ++ reason.toList)

/-- What is said of an input that is only read; the status that it leaves. -/
def unreadInput (name : Chars) (reason : String) : Program := do
  if reason = FileError.isFolder.words then
    problem (txt "read error on " ++ (if name = ['-'] then txt "stdin" else name) ++ txt ": " ++
      reason.toList)
    return 4
  unread name reason
  return 2

/-- The lines of inputs by name up to a folder, with the status that those leave which could not be
read. -/
def linesOf (mark : Char) : List Chars → Act (List (List InputLine) × Nat)
  | [] => return ([], 0)
  | name :: more => do
    let s ← if name = ['-'] then drain 0 else supplyOf name
    match s.tail with
    | .broken e =>
      let status ← unreadInput name e
      if status = 4 then return ([], 4)
      let (rest, others) ← linesOf mark more
      return (rest, max status others)
    | _ =>
      awaitTail s
      let (rest, status) ← linesOf mark more
      return (inputLines mark name s.content :: rest, status)

/-- Shows the output of a run and writes to its files. -/
def finish (r : RunEnd × Editor) : Program := do
  emit (r.2.writtenTo .output)
  if !(← writeOutlets r.2 r.2.writtenTo) then return 4
  statusOf r.1

/-! ## Commands of a script -/

/-- How many commands a script may run. -/
def maxErrands : Nat := 1000000

/-- Goes on with a run, for which commands are run as often as it asks for one. Each finds what was
written to files before. -/
def carryOn (start : Start) (x : Setting) (s : Script) : (fuel : Nat) → RunEnd × Editor →
    Act (RunEnd × Editor)
  | 0, r => return r
  | fuel + 1, (.asks errand rest rounds, e) => do
    if !(← writeOutlets e (e.passedTo x)) then return (.status 4 true, e)
    let e := e.forget .errors
    let (said, _) ← Signal.hearChild (runCommand start (txt "sh") (Chars.spelled errand.command))
    let x := { x with content? := ← readable }
    carryOn start x s fuel
      (runRounds x s (rounds + said.length + 2) (some rest) (e.told x errand said))
  | _, r => return r

/-- Edits lines after what was written before, with the commands of the script run. -/
def runOn (start : Start) (o : EditOptions) (written : List (Outlet × Writing))
    (lines : List InputLine) : Act (RunEnd × Editor) := do
  let x ← o.setting
  carryOn start x o.script maxErrands (run x o.script written lines)

/-! ## Editing -/

section

variable (start : Start)

/-- Edits an input that never ends. -/
def editEndless (o : EditOptions) (s : Supply) : Program := do
  let x ← o.setting
  let edited (text : Chars) : RunEnd × Editor := run x o.script [] (inputLines o.mark ['-'] text)
  match edited (s.unroll maxPeriods).content with
  | (.status _ false, _) => emitSupply (s.mapContent fun t => (edited t).2.writtenTo .output)
  | r =>
    finish (← carryOn start x o.script maxErrands r)

/-- Whether a script quits within a text that may go on. One more line stands behind it, so that
none of it is the last. -/
def quits (o : EditOptions) (x : Setting) (text : Chars) : Bool :=
  let ended := Text.dropEndWhile (· != o.mark) text
  let more : InputLine := { space := { text := [], ended := true }, file := ['-'] }
  match run x o.script [] (inputLines o.mark ['-'] ended ++ [more]) with
  | (.status _ true, e) => !e.ahead.isEmpty
  | _ => false

/-- The text of the input stream, or so much of it as was there when the script had enough. -/
def takeInput (o : EditOptions) : Act Supply := do
  let isPipe := (← opened? 0).any fun (_, o) => o.channel matches .source _
  if isPipe && o.script.commands.any (·.edit matches .quit _ _) then
    let x ← o.setting
    takeFrom 0 fun s => if quits o x s then some s.length else none
  else drain 0

/-- Edits all inputs, as one text or each by itself. -/
def editStreams (o : EditOptions) (names : List Chars) : Program := do
  match names with
  | [] | [['-']] =>
    let s ← takeInput o
    match s.tail with
    | .endless _ => editEndless start o s
    | .broken e => unreadInput ['-'] e
    | .closed =>
      let r ← runOn start o [] (inputLines o.mark ['-'] s.content)
      if r.1 matches .status _ true then
        let used := s.content.length - r.2.unreadLength
        leaveUnread (if o.unbuffered then 1 else blockSize) used (s.split used).2
      finish r
  | names =>
    let (inputs, unread) ← linesOf o.mark names
    let status ← if o.separate then eachByItself [] inputs
      else do finish (← runOn start o [] inputs.flatten)
    return max unread status
where
  eachByItself (written : List (Outlet × Writing)) : List (List InputLine) → Program
    | [] => return 0
    | lines :: more => do
      let r ← runOn start o written lines
      let status ← finish r
      match r.1 with
      | .status _ true | .noExpression => return status
      | _ =>
        let lacksEnd := ((r.2.written.lookup .output).getD {}).lacksEnd
        if lacksEnd && !more.isEmpty then emit [o.mark]
        let files := r.2.written.filter fun (target, _) => target matches .file _
        return max status (← eachByItself files more)

/-- The name of the copy that is kept of a file: a star stands for the name. -/
def copyName (suffix name : Chars) : Chars :=
  let own := (name.reverse.takeWhile (· != '/')).reverse
  let folder := name.take (name.length - own.length)
  if suffix.contains '*' then
    let filled := suffix.flatMap fun c => if c = '*' then own else [c]
    if filled.contains '/' then filled else folder ++ filled
  else name ++ suffix

/-- Edits files, each in its place. -/
def editFiles (o : EditOptions) (suffix : Chars) : (status : Nat) →
    (written : List (Outlet × Writing)) → List Chars → Program
  | status, _, [] => return status
  | status, written, name :: more => do
    let t ← files
    match t.read (Chars.toPath name) with
    | .error e =>
      unread name e.words
      editFiles o suffix (max status (if e = .isFolder then 4 else 2)) written more
    | .ok content =>
      let r ← runOn start o written (inputLines o.mark name (Chars.ofBytes content))
      if !suffix.isEmpty then
        let _ ← writeWhole (copyName suffix name) (Chars.ofBytes content)
      let n ← statusOf r.1
      if n = 1 then return 1
      let _ ← writeOutlets r.2 r.2.writtenTo
      let aim : Aim := if o.followsLinks then .target else .entry
      let v ← view
      match v.attributes? .target (Chars.toPath name), v.attributes? aim (Chars.toPath name) with
      | .ok before, .ok place =>
        setFiles ((← files).erase place.location)
        putFile place.location (Chars.toBytes (r.2.writtenTo .output)) before.mode
      | _, _ => pure ()
      match r.1 with
      | .status n true => return n
      | _ =>
        let files := r.2.written.filter fun (target, _) => target matches .file _
        editFiles o suffix status files more

end

/-! ## The program -/

def sedOptions : OptionTable where
  letters := txt "nErsuzb"
  valued := txt "efl"
  attached := ['i']
  long := [(txt "quiet", 'n'), (txt "silent", 'n'), (txt "regexp-extended", 'E'),
    (txt "expression", 'e'), (txt "file", 'f'), (txt "in-place", 'i'), (txt "line-length", 'l'),
    (txt "separate", 's'), (txt "unbuffered", 'u'), (txt "null-data", 'z'),
    (txt "zero-terminated", 'z'), (txt "binary", 'b'), (txt "posix", 'P'),
    (txt "follow-symlinks", 'D'), (txt "sandbox", 'S'), (txt "help", 'h')]

/-- Edits as some options and arguments tell. -/
def sedWith (start : Start) (p : Parsed) : Program := do
  let given := p.has 'e' || p.has 'f'
  let read ← if given then scriptParts p.options
    else pure (.ok ((p.operands.take 1).map ({ text := · })))
  match read with
  | .error (name, e) =>
    problem (txt "couldn't open file " ++ name ++ txt ": " ++ e.toList)
    return 4
  | .ok [] =>
    complain (usage (← self).name)
    return 1
  | .ok parts =>
    let text := Chars.join ['\n'] (parts.map (·.text))
    match Script.read (p.has 'E' || p.has 'r') (p.has 'S') text with
    | .error f => complainOfScript parts text.length f
    | .ok script =>
      match missingLabel? script with
      | some name =>
        problem (txt "can't find label for jump to \x60" ++ Chars.spelled name ++ ['\''])
        return 4
      | none =>
        let names := if given then p.operands else p.operands.drop 1
        let o : EditOptions := {
          script
          quiet := p.has 'n'
          separate := p.has 's'
          unbuffered := p.has 'u'
          followsLinks := p.has 'D'
          mark := if p.has 'z' then '\x00' else '\n'
          width := ((p.value? 'l').bind Chars.nat?).getD 70 }
        o.script.outlets.forM fun
          | .file name => do
            let _ ← writeWhole name []
          | .output | .errors => pure ()
        if p.has 'i' then
          if names.isEmpty then
            problem (txt "no input files")
            return 4
          editFiles start o ((p.value? 'i').getD []) 0 [] names
        else editStreams start o names

def sed (start : Start) : Program := do
  let name := (← self).name
  match sedOptions.parse (← self).args with
  | .ok p =>
    if p.has 'h' then emitOnly (usage name ++ txt "E-mail bug reports to: <bug-sed@gnu.org>.\n")
    else sedWith start p
  | .error message =>
    problem message
    complain (usage name)
    return 1

end Conformance.Host.Sed
