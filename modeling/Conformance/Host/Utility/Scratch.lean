import Conformance.Host.Utility.Folders

/-!
# Files made to measure

`mktemp` makes files with names that no other file has, and `truncate` files of some size.
-/
namespace Conformance.Host.Utility

/-! ## New names -/

/-- A name in which some characters are to be chosen: what is before them, their number, and what is
behind them. -/
structure Template where
  before : Chars
  count : Nat
  after : Chars

/-- The characters of chosen names. -/
def nameAlphabet : Chars :=
  txt "ABCDEFGHIJKLMNOPQRSTUVWXYZabcdefghijklmnopqrstuvwxyz0123456789"

namespace Template

/-- The template that a text writes: the last run of the letter for a choice is taken. -/
def ofText (s suffix : Chars) : Template :=
  let after := (s.reverse.takeWhile (· != 'X')).reverse
  let rest := s.take (s.length - after.length)
  let count := (rest.reverse.takeWhile (· == 'X')).length
  { before := rest.take (rest.length - count), count, after := after ++ suffix }

/-- The name that a number chooses. -/
def name (t : Template) (seed : Nat) : Chars :=
  let letter (i : Nat) : Char :=
    let n := (seed + 1) * Nat.pow 7919 (i + 1) / 31
    (nameAlphabet[n % 62]?).getD 'X'
  t.before ++ (List.range t.count).map letter ++ t.after

/-- The text of the template. -/
def text (t : Template) : Chars :=
  t.before ++ List.replicate t.count 'X' ++ t.after

end Template

def mktempOptions : OptionTable where
  letters := txt "duqt"
  valued := txt "ps"
  optional := ['T']
  long := [(txt "directory", 'd'), (txt "dry-run", 'u'), (txt "quiet", 'q'), (txt "suffix", 's'),
    (txt "tmpdir", 'T')]

/-- Why there is no new name. -/
inductive TemplateFault
  | many
  | mustEnd (s : Chars)
  | suffixHasFolder (s : Chars)
  | tooFew (s : Chars)
  | hasFolder (s : Chars)
  | absolute (s : Chars)

/-- The message of a fault, and whether it tells of help. -/
def TemplateFault.message : TemplateFault → Chars × Bool
  | .many => (txt "too many templates", true)
  | .mustEnd s => (txt "with --suffix, template " ++ cited s ++ txt " must end in X", false)
  | .suffixHasFolder s =>
    (txt "invalid suffix " ++ cited s ++ txt ", contains directory separator", false)
  | .tooFew s => (txt "too few X's in template " ++ cited s, false)
  | .hasFolder s =>
    (txt "invalid template, " ++ cited s ++ txt ", contains directory separator", false)
  | .absolute s =>
    (txt "invalid template, " ++ cited s ++ txt "; with --tmpdir, it may not be absolute", false)

/-- The template that is asked for; `usual` is the folder of temporary files. -/
def askedTemplate (p : Parsed) (usual : Option Chars) : Except TemplateFault Template := do
  if 1 < p.operands.length then throw .many
  let given := p.operands.head?
  let s := given.getD (txt "tmp.XXXXXXXXXX")
  if p.has 's' && s.getLast? ≠ some 'X' then throw (.mustEnd s)
  let t := Template.ofText s ((p.value? 's').getD [])
  if t.after.contains '/' then throw (.suffixHasFolder t.after)
  if t.count < 3 then throw (.tooFew s)
  let named := (p.options.filter fun o => o.1 = 'p' || o.1 = 'T').getLast?.map (·.2)
  let system := (usual.filter (!·.isEmpty)).getD (txt "/tmp")
  if p.has 't' then
    if s.contains '/' then throw (.hasFolder s)
    return { t with before := inFolder ((usual.filter (!·.isEmpty)).getD
      ((named.filter (!·.isEmpty)).getD (txt "/tmp"))) t.before }
  match named with
  | some folder =>
    if s.head? = some '/' then throw (.absolute s)
    return { t with before := inFolder (if folder.isEmpty then system else folder) t.before }
  | none => return if given.isNone then { t with before := inFolder system t.before } else t
where
  inFolder (folder name : Chars) : Chars :=
    (if folder.getLast? = some '/' then folder else folder ++ ['/']) ++ name

/-- Makes a file or a folder whose name a template leaves to choose. -/
def makeNamed (p : Parsed) (t : Template) : Program := do
  let files ← files
  let start := (← world).nextPid
  modifyWorld fun w => { w with nextPid := start + 1 }
  let seeds := (List.range (files.entries.length + 1)).map (start + ·)
  let free := (seeds.map t.name).find? fun name => !files.isPresent (Chars.toPath name)
  let name := free.getD (t.name start)
  let tell : Program := emitOnly (name ++ ['\n'])
  if p.has 'u' then return ← tell
  let kind := if p.has 'd' then "failed to create directory" else "failed to create file"
  let failed (reason : String) : Program := do
    if !p.has 'q' then
      problem (txt kind ++ txt " via template " ++ cited t.text ++ txt ": " ++ reason.toList)
    return 1
  if p.has 'd' then
    match files.makeFolder (Chars.toPath name) with
    | .error e => failed e.words
    | .ok files' =>
      setFiles files'
      if let .ok (.taken loc _) := files'.find .target (Chars.toPath name) then
        recordMode loc 0o700
      tell
  else
    match files.find .content (Chars.toPath name) with
    | .ok (.free loc) =>
      putFile loc [] 0o600
      tell
    | .ok (.taken _ _) => failed FileError.present.words
    | .error e => failed e.words

def mktemp : Program :=
  withOptions mktempOptions 1 fun p => do
    match askedTemplate p (← valueOf? (txt "TMPDIR")) with
    | .ok t => makeNamed p t
    | .error f =>
      let (message, helps) := f.message
      if helps then misuse message
      else
        problem message
        return 1

/-! ## Sizes -/

/-- How a size is made of the one that there is. -/
inductive SizeRule
  | exactly
  | more
  | less
  | atMost
  | atLeast
  | down
  | up
deriving DecidableEq

namespace SizeRule

/-- The rule of the mark in front of a size, and what follows it. -/
def read (s : Chars) : SizeRule × Chars :=
  let rest := s.dropWhile isSpace
  match rest with
  | '+' :: r => (.more, r)
  | '-' :: r => (.less, r)
  | '<' :: r => (.atMost, r)
  | '>' :: r => (.atLeast, r)
  | '/' :: r => (.down, r)
  | '%' :: r => (.up, r)
  | r => (.exactly, r)

def apply (r : SizeRule) (old n : Nat) : Nat :=
  match r with
  | .exactly => n
  | .more => old + n
  | .less => old - n
  | .atMost => min old n
  | .atLeast => max old n
  | .down => old / n * n
  | .up => (old + n - 1) / n * n

end SizeRule

/-- The largest size of a file. -/
def maxFileSize : Nat := 17592186040320

/-- Gives a file a size. -/
def setSize (p : Parsed) (basis : Option Nat) (rule : SizeRule) (n : Nat) (s : Chars) :
    Act Bool := do
  let t ← files
  if p.has 'c' && !t.isPresent (Chars.toPath s) then return true
  match ← openToWrite s true with
  | .error e => refuse (txt "cannot open " ++ quoted s ++ txt " for writing: " ++ e.toList)
  | .ok _ =>
    match (← files).find .target (Chars.toPath s) with
    | .ok (.taken loc (.file content mode)) =>
      let n := if p.has 'o' then n * 4096 else n
      let size := rule.apply (basis.getD content.length) n
      if maxFileSize < size then
        return ← refuse (txt "failed to truncate " ++ quoted s ++ txt " at " ++ Chars.ofNat size ++
          txt " bytes: File too large")
      putFile loc (content.take size ++ List.replicate (size - content.length) 0) mode
      return true
    | _ =>
      refuse (txt "failed to truncate " ++ quoted s ++ txt " at " ++ Chars.ofNat n ++
        txt " bytes: Invalid argument")

def truncate : Program :=
  withOptions
    { letters := txt "co", valued := txt "sr"
      long := [(txt "no-create", 'c'), (txt "io-blocks", 'o'), (txt "size", 's'),
        (txt "reference", 'r')] } 1 fun p => do
    let size := (p.value? 's').map SizeRule.read
    let bad := size.isSome && (size.bind fun (_, s) => count? s).isNone
    if bad then
      problem (txt "Invalid number: " ++ cited ((p.value? 's').getD []))
      return 1
    let n := (size.bind fun (_, s) => count? s).getD 0
    let rule := (size.map (·.1)).getD .exactly
    if (rule = .up || rule = .down) && n = 0 then
      problem (txt "division by zero")
      return 1
    match p.value? 'r', size with
    | none, none => misuse (txt "you must specify either " ++ cited (txt "--size") ++ txt " or " ++
        cited (txt "--reference"))
    | some _, some (.exactly, _) =>
      misuse (txt "you must specify a relative " ++ cited (txt "--size") ++ txt " with " ++
        cited (txt "--reference"))
    | reference, size =>
      if p.has 'o' && size.isNone then
        return ← misuse (txt "'--io-blocks' was specified but '--size' was not")
      if p.operands.isEmpty then return ← misuse (txt "missing file operand")
      match reference with
      | none => eachName (setSize p none rule n) 0 p.operands
      | some s =>
        match (← view).attributes? .target (Chars.toPath s) with
        | .ok a =>
          if size.isNone then eachName (setSize p none .exactly a.size) 0 p.operands
          else eachName (setSize p (some a.size) rule n) 0 p.operands
        | .error e =>
          problem (wish "cannot stat" s ++ txt ": " ++ e.words.toList)
          return 1

end Conformance.Host.Utility
