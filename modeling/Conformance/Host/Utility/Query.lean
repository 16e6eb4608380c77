import Conformance.Host.DateReading
import Conformance.Host.Shell.Pattern
import Conformance.Host.Utility.Search
import Conformance.Host.Utility.Sight

/-!
# Questions about files

A query asks something of a file or does something with it, and has an answer that decides how a
search goes on. It is written as a row of arguments.
-/
namespace Conformance.Host.Utility

open Shell (fits patternOf)

/-- Where something is shown: in a file, if one is named. -/
abbrev Outlet := Option Chars

inductive Query
  | always (holds : Bool)
  | test (holds : FileView → Sight → Bool)
  /-- Shows the path, with this behind it. -/
  | show (outlet : Outlet) (ending : Char)
  | showAs (outlet : Outlet) (format : Chars)
  /-- Shows what is known of the file. -/
  | tell (outlet : Outlet)
  | run (asks inFolder : Bool) (words : List Chars)
  /-- Runs a command with many files at a time, after the search. -/
  | collect (number : Nat) (words : List Chars)
  | delete
  /-- Does not go into the folder. -/
  | prune
  | quit
  | opposite (q : Query)
  | both (a b : Query)
  | either (a b : Query)
  | last (a b : Query)

namespace Query

/-- Whether a query does more than to ask. -/
def acts : Query → Bool
  | .show _ _ | .showAs _ _ | .tell _ | .run _ _ _ | .collect _ _ | .delete | .quit => true
  | .always _ | .test _ | .prune => false
  | .opposite q => q.acts
  | .both a b | .either a b | .last a b => a.acts || b.acts

/-- The commands that are run after the search, with their numbers. -/
def collectors : Query → List (Nat × List Chars)
  | .collect n words => [(n, words)]
  | .opposite q => q.collectors
  | .both a b | .either a b | .last a b => a.collectors ++ b.collectors
  | _ => []

end Query

/-! ## Reading queries -/

/-- Why arguments ask nothing. -/
inductive QueryFault
  | unknown (name : Chars)
  | missing (name : Chars)
  | improper (name value : Chars)
  | message (s : Chars)

def QueryFault.text : QueryFault → Chars
  | unknown name => txt "unknown predicate \x60" ++ name ++ ['\'']
  | missing name => txt "missing argument to \x60" ++ name ++ ['\'']
  | improper name value => txt "invalid argument \x60" ++ value ++ txt "' to \x60" ++ name ++ ['\'']
  | message s => s

/-- What is read of a query, and what all of it says of the search. -/
structure Asked where
  view : FileView
  now : Date
  rest : List Chars
  /-- What is to be told before the search. -/
  warnings : List Chars := []
  /-- The files in which something is shown. -/
  outlets : List Chars := []
  deepest : Option Nat := none
  shallowest : Nat := 0
  /-- What a folder holds comes before it. -/
  innerFirst : Bool := false
  followsLinks : Bool := false
  /-- Links are followed at which the search begins. -/
  followsRoots : Bool := false
  deletes : Bool := false
  prunes : Bool := false
  /-- Expressions are in the extended spelling. -/
  spelling : Bool × Bool := (false, true)
  /-- How many commands are run after the search. -/
  collected : Nat := 0
  /-- The last question. -/
  latest : Chars := []

abbrev Asking := StateT Asked (Except QueryFault)

def failAsking {α : Type} (s : Chars) : Asking α :=
  throw (.message s)

def nextArgument (name : Chars) : Asking Chars := do
  match (← get).rest with
  | [] => throw (.missing name)
  | a :: more =>
    modify fun x => { x with rest := more }
    return a

/-- A number with a sign that tells whether more or fewer are asked for. -/
def compared (value : Chars) : Option (Nat → Bool) :=
  match value with
  | '+' :: s => (Chars.nat? s).map fun n m => n < m
  | '-' :: s => (Chars.nat? s).map fun n m => m < n
  | s => (Chars.nat? s).map fun n m => m == n

/-- A pattern for a whole text. -/
def fitting (folds : Bool) (pattern : Chars) (s : Chars) : Bool :=
  let seen (t : Chars) : Chars := if folds then t.map Char.toLower else t
  fits (patternOf ((seen (Chars.joined pattern)).map (⟨·, false⟩))) (seen (Chars.joined s))

/-- The size of a unit, of which parts count as whole ones. -/
def unitSize? (c : Char) : Option Nat :=
  match c with
  | 'c' => some 1
  | 'w' => some 2
  | 'b' => some 512
  | 'k' => some 1024
  | 'M' => some (1024 * 1024)
  | 'G' => some (1024 * 1024 * 1024)
  | _ => none

/-- A test of the size of a file. -/
def sizeTest (value : Chars) : Asking Query := do
  match value.getLast? with
  | none => failAsking (txt "invalid null argument to -size")
  | some c =>
    let (number, unit) := if c.isDigit then (value, some 512) else (value.dropLast, unitSize? c)
    match unit, compared number with
    | none, _ => failAsking (txt "invalid -size type \x60" ++ [c, '\''])
    | _, none => failAsking (txt "Invalid argument \x60" ++ value ++ txt "' to -size")
    | some unit, some holds =>
      return .test fun _ s => holds ((s.attributes.size + (unit - 1)) / unit)

/-- A test of the mode of a file. -/
def modeTest (value : Chars) : Asking Query := do
  let (kind, given) := match value with
    | '-' :: s => ('-', s)
    | '/' :: s => ('/', s)
    | s => ('=', s)
  match ModeChange.read? given with
  | none => failAsking (txt "invalid mode " ++ cited value)
  | some change =>
    return .test fun _ s =>
      let bits := change.apply (s.node == .folder) 0 0
      let mode := s.attributes.mode
      match kind with
      | '-' => mode &&& bits == bits
      | '/' => bits == 0 || mode &&& bits != 0
      | _ => mode == bits

/-- A test of the time since a file was changed, in units of so many seconds. A part of a unit
counts as a whole one if `roundsUp` is set. -/
def ageTest (name value : Chars) (seconds : Nat) (roundsUp : Bool) : Asking Query := do
  let now := (← get).now
  let (sign, digits) := match value with
    | '+' :: s => ('+', s)
    | '-' :: s => ('-', s)
    | s => ('=', s)
  match Chars.nat? digits with
  | none => throw (.improper name value)
  | some n =>
    return .test fun _ s =>
      let unit : Int := (1000000000 : Int) * seconds
      let age : Int := now - s.attributes.date
      match sign with
      | '-' => age < n * unit
      | '+' => (if roundsUp then n else n + 1) * unit < age
      | _ => if roundsUp then n = age / unit + 1 else n = age / unit

/-- The date of a file. -/
def dateOfFile (file : Chars) : Asking Date := do
  match (← get).view.attributes? .target (Chars.toPath file) with
  | .ok a => return a.date
  | .error e => failAsking (cited file ++ txt ": " ++ e.words.toList)

/-- A question whether a file is newer than a date. -/
def newerTest (bound : Date) : Query :=
  .test fun _ s => bound < s.attributes.date

/-- An expression with its marks turned into those of the extended spelling. -/
def marksTurned : Chars → Chars
  | '\\' :: c :: s =>
    if "()\x7b\x7d|".toList.contains c then c :: marksTurned s else '\\' :: c :: marksTurned s
  | c :: s =>
    if "()\x7b\x7d|".toList.contains c then '\\' :: c :: marksTurned s else c :: marksTurned s
  | [] => []

/-- A test of a whole path by an expression. -/
def expressionTest (folds : Bool) (value : Chars) : Asking Query := do
  let (extended, turned) := (← get).spelling
  let style : RegexStyle := { extended := extended || turned, lenient := true }
  let letters := Chars.joined value
  match Regex.read style (if turned then marksTurned letters else letters) with
  | .error f =>
    failAsking (txt "failed to compile regular expression '" ++ value ++ txt "': "
      ++ f.message.toList)
  | .ok r =>
    let r := wholeLine (if folds then r.ignoringCase else r)
    return .test fun _ s => (r.ofLetters.find? [] (Chars.joined s.path)).isSome

/-- The words of a command up to its end, and whether it takes many files at a time. -/
def commandWords (name : Chars) (asks inFolder : Bool) : Asking Query := do
  let rest := (← get).rest
  let before := rest.takeWhile (· != [';'])
  let many := (List.range before.length).find? fun i =>
    !asks && 0 < i && before[i]? = some ['+'] && before[i - 1]? = some (txt "\x7b\x7d")
  let taken := many.getD before.length
  if many.isNone && before.length = rest.length then throw (.missing name)
  if taken = 0 then throw (.improper name [';'])
  let number := (← get).collected
  modify fun x => { x with rest := rest.drop (taken + 1), collected := number + 1 }
  let words := rest.take taken
  return if many.isSome then .collect number words.dropLast else .run asks inFolder words

/-- A number that is no less than zero. -/
def levelArgument (name : Chars) : Asking Nat := do
  let value ← nextArgument name
  match Chars.nat? value with
  | some n => return n
  | none =>
    failAsking (txt "Expected a positive decimal integer argument to " ++ name ++
      txt ", but got " ++ cited value)

/-- The question about a kind of file. -/
def kindTest (name value : Chars) (aim : Aim) : Asking Query := do
  let isKind (s : Chars) : Bool := (txt "fdlcbpsD").any fun c => s = [c]
  match (Text.splitOn (· == ',') value).find? (!isKind ·) with
  | none =>
    return .test fun v s =>
      let node := if aim = .entry then s.node
        else ((v.attributes? .target (Chars.toPath s.path)).toOption.map (·.node)).getD s.node
      value.contains (kindLetter node)
  | some (c :: _ :: _) =>
    if isKind [c] then
      failAsking (txt "Must separate multiple arguments to " ++ name ++ txt " using: ','")
    else failAsking (txt "Unknown argument to " ++ name ++ txt ": " ++ [c])
  | some [c] => failAsking (txt "Unknown argument to " ++ name ++ txt ": " ++ [c])
  | some [] =>
    if value.isEmpty then
      failAsking (txt "Arguments to " ++ name ++ txt " should contain at least one letter")
    else failAsking (txt "Unknown argument to " ++ name ++ txt ": ,")

/-- Whether a folder holds nothing, or a file is empty. -/
def isEmptyNode (v : FileView) (s : Sight) : Bool :=
  match s.node with
  | .folder => (v.tree.namesIn s.attributes.location).isEmpty
  | .file content _ => content.isEmpty
  | _ => false

/-- The spellings of expressions, by the words that ask for them. -/
def spellings : List (String × Bool × Bool) :=
  [("findutils-default", false, true), ("ed", false, false), ("emacs", false, true),
    ("gnu-awk", true, false), ("grep", false, false), ("posix-awk", true, false),
    ("awk", true, false), ("posix-basic", false, false), ("posix-egrep", true, false),
    ("egrep", true, false), ("posix-extended", true, false),
    ("posix-minimal-basic", false, false), ("sed", false, false)]

/-- An action that shows something by a format. -/
def formatAction (outlet : Outlet) (format : Chars) : Asking Query := do
  match formatWarnings (format.length + 1) format with
  | none => failAsking (txt "error: % at end of format string")
  | some warnings =>
    modify fun x => { x with warnings := x.warnings ++ warnings }
    return .showAs outlet format

/-- The file that is named next, in which something is to be shown. -/
def outletArgument (name : Chars) : Asking Outlet := do
  let file ← nextArgument name
  modify fun x => { x with outlets := x.outlets ++ [file] }
  return some file

/-- The question whether a file is newer, for the letters behind its name. -/
def newerQuestion (name : Chars) : Asking Query := do
  match name.drop 6 with
  | [x, y] =>
    if !"aBcm".toList.contains x || !"aBcmt".toList.contains y then
      failAsking (txt "invalid predicate \x60" ++ name ++ ['\''])
    let value ← nextArgument name
    if y ≠ 't' then return newerTest (← dateOfFile value)
    match Date.read (← get).now value with
    | some d => return newerTest d
    | none =>
      failAsking (txt "I cannot figure out how to interpret " ++ cited value ++
        txt " as a date or time")
  | _ => failAsking (txt "invalid predicate \x60" ++ name ++ ['\''])

/-- The question or the action of a name. -/
def question (name : Chars) : Asking Query := do
  modify fun x => { x with latest := name }
  let value : Asking Chars := nextArgument name
  match String.ofList name with
  | "-true" => return .always true
  | "-false" => return .always false
  | "-print" => return .show none '\n'
  | "-print0" => return .show none '\x00'
  | "-printf" => formatAction none (← value)
  | "-ls" => return .tell none
  | "-fprint" => return .show (← outletArgument name) '\n'
  | "-fprint0" => return .show (← outletArgument name) '\x00'
  | "-fls" => return .tell (← outletArgument name)
  | "-fprintf" =>
    let outlet ← outletArgument name
    formatAction outlet (← value)
  | "-delete" =>
    modify fun x => { x with innerFirst := true, deletes := true }
    return .delete
  | "-prune" =>
    modify fun x => { x with prunes := true }
    return .prune
  | "-quit" => return .quit
  | "-exec" => commandWords name false false
  | "-execdir" => commandWords name false true
  | "-ok" => commandWords name true false
  | "-okdir" => commandWords name true true
  | "-name" => let p ← value; return .test fun _ s => fitting false p s.name
  | "-iname" => let p ← value; return .test fun _ s => fitting true p s.name
  | "-path" | "-wholename" => let p ← value; return .test fun _ s => fitting false p s.path
  | "-ipath" | "-iwholename" => let p ← value; return .test fun _ s => fitting true p s.path
  | "-lname" =>
    let p ← value
    return .test fun _ s => match s.node with
      | .link target => fitting false p (Chars.ofText target.text)
      | _ => false
  | "-regex" => expressionTest false (← value)
  | "-iregex" => expressionTest true (← value)
  | "-regextype" =>
    let kind ← value
    match spellings.lookup (String.ofList kind) with
    | some spelling =>
      modify fun x => { x with spelling }
      return .always true
    | none =>
      let known := Chars.join (txt ", ") (spellings.map fun s => cited s.1.toList)
      failAsking (txt "Unknown regular expression type " ++ cited kind ++
        txt "; valid types are " ++ known ++ ['.'])
  | "-type" => kindTest name (← value) .entry
  | "-xtype" => kindTest name (← value) .target
  | "-empty" => return .test isEmptyNode
  | "-size" => sizeTest (← value)
  | "-perm" => modeTest (← value)
  | "-readable" | "-writable" => return .always true
  | "-executable" => return .test fun _ s => s.attributes.mayRun
  | "-user" | "-group" =>
    let who ← value
    if who = txt "root" then return .always true
    match Chars.nat? who with
    | some n => return .always (n = 0)
    | none =>
      let kind := txt (if name = txt "-user" then "user" else "group")
      failAsking (cited who ++ txt " is not the name of a known " ++ kind)
  | "-nouser" | "-nogroup" => return .always false
  | "-uid" | "-gid" =>
    let n ← value
    match compared n with
    | some holds => return .always (holds 0)
    | none => throw (.improper name n)
  | "-mtime" | "-atime" | "-ctime" => ageTest name (← value) 86400 false
  | "-mmin" | "-amin" | "-cmin" => ageTest name (← value) 60 true
  | "-links" | "-inum" =>
    let n ← value
    match compared n with
    | some holds =>
      return .test fun v s =>
        holds (if name = txt "-links" then s.attributes.names else s.attributes.number v)
    | none => throw (.improper name n)
  | "-newer" | "-anewer" | "-cnewer" => return newerTest (← dateOfFile (← value))
  | "-samefile" =>
    let file ← value
    match (← get).view.attributes? .entry (Chars.toPath file) with
    | .ok a => return .test fun v s => v.isSame a.location s.attributes.location
    | .error e => failAsking (cited file ++ txt ": " ++ e.words.toList)
  | "-fstype" =>
    let kind ← value
    return .always (kind = txt "ext4")
  | "-context" =>
    let _ ← value
    failAsking (txt "invalid predicate -context: SELinux is not enabled.")
  | "-maxdepth" =>
    let n ← levelArgument name
    modify fun x => { x with deepest := some n }
    return .always true
  | "-mindepth" =>
    let n ← levelArgument name
    modify fun x => { x with shallowest := n }
    return .always true
  | "-depth" | "-d" =>
    modify fun x => { x with innerFirst := true }
    return .always true
  | "-follow" =>
    modify fun x => { x with followsLinks := true }
    return .always true
  | "-xdev" | "-mount" | "-noleaf" | "-warn" | "-nowarn" | "-daystart"
  | "-ignore_readdir_race" | "-noignore_readdir_race" => return .always true
  | _ =>
    if (txt "-newer").isPrefixOf name then newerQuestion name
    else throw (.unknown name)

/-- Whether an argument joins two queries. -/
def joins (a : Chars) : Bool :=
  [txt "-o", txt "-or", txt "-a", txt "-and", [',']].contains a

def isNegation (a : Chars) : Bool :=
  a = ['!'] || a = txt "-not"

/-- Takes the next argument if it is one of some. -/
def takesOne (words : List String) : Asking Bool := do
  match (← get).rest with
  | a :: more =>
    if words.contains (String.ofList a) then
      modify fun x => { x with rest := more }
      return true
    else return false
  | [] => return false

/-- How tightly the parts of a query are joined. -/
inductive Joint
  | lists
  | choices
  | chains
  | single

/-- Tells of a path among questions; if there is such a file, a pattern may have become its name. -/
def misplaced {α : Type} (a : Chars) : Asking α := do
  let x ← get
  let message := txt "paths must precede expression: \x60" ++ a ++ ['\'']
  let isPattern := [txt "-name", txt "-iname", txt "-path", txt "-wholename", txt "-regex"].contains
    x.latest
  if isPattern && x.view.tree.isPresent (Chars.toPath a) then
    failAsking (message ++ txt "\nfind: possible unquoted pattern after predicate \x60" ++
      x.latest ++ txt "'?")
  else failAsking message

mutual

/-- A query, in which `before` is the argument that asks for one. -/
def query : (fuel : Nat) → Joint → (before : Chars) → Asking Query
  | 0, _, _ => return .always true
  | fuel + 1, .lists, before => do
    furtherQueries fuel .choices .last [","] (← query fuel .choices before)
  | fuel + 1, .choices, before => do
    furtherQueries fuel .chains .either ["-o", "-or"] (← query fuel .chains before)
  | fuel + 1, .chains, before => do
    chainedQueries fuel (← query fuel .single before)
  | fuel + 1, .single, before => do
    match (← get).rest with
    | [] => failAsking (txt "expected an expression after '" ++ before ++ ['\''])
    | a :: more =>
      modify fun x => { x with rest := more }
      if isNegation a then return .opposite (← query fuel .single a)
      if a = ['('] then
        if (← get).rest.head? = some [')'] then
          failAsking (txt "invalid expression; empty parentheses are not allowed.")
        let q ← query fuel .lists a
        if !(← takesOne [")"]) then
          failAsking (txt "invalid expression; I was expecting to find a ')' somewhere but did " ++
            txt "not see one.")
        return q
      if joins a then
        failAsking (txt "invalid expression; you have used a binary operator '" ++ a ++
          txt "' with nothing before it.")
      if a = [')'] then
        failAsking (txt "invalid expression; expected an expression before ')'.")
      if a.head? != some '-' then misplaced a
      question a

/-- A query with those that marks join to it. -/
def furtherQueries : (fuel : Nat) → Joint → (join : Query → Query → Query) → (marks : List String) →
    Query → Asking Query
  | 0, _, _, _, q => return q
  | fuel + 1, inner, join, marks, q => do
    match (← get).rest with
    | [] => return q
    | a :: more =>
      if !marks.contains (String.ofList a) then return q
      modify fun x => { x with rest := more }
      furtherQueries fuel inner join marks (join q (← query fuel inner a))

/-- A query with those that follow it, all of which have to hold. -/
def chainedQueries : (fuel : Nat) → Query → Asking Query
  | 0, q => return q
  | fuel + 1, q => do
    match (← get).rest with
    | [] => return q
    | a :: more =>
      if a = txt "-a" || a = txt "-and" then
        modify fun x => { x with rest := more }
        chainedQueries fuel (.both q (← query fuel .single a))
      else if joins a || a = [')'] then return q
      else chainedQueries fuel (.both q (← query fuel .single a))

end

/-- The query that arguments write. -/
def Query.read (view : FileView) (now : Date) (args : List Chars) :
    Except QueryFault (Query × Asked) :=
  let start : Asked := { view, now, rest := args }
  if args.isEmpty then .ok (.always true, start)
  else
    match (query (4 * args.length + 8) .lists []).run start with
    | .error e => .error e
    | .ok (q, x) =>
      if x.rest.isEmpty then .ok (q, x) else .error (.message (txt "you have too many ')'"))

end Conformance.Host.Utility
