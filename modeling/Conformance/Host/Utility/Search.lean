import Conformance.Host.Shell.Pattern
import Conformance.Host.Utility.Folders
import Conformance.Host.Utility.Matching

/-!
# Searching for lines

`grep` shows the lines in which an expression is found, and lines around them if it is told to.
-/
namespace Conformance.Host.Utility

/-! ## Inputs -/

/-- The name under which an input is shown. -/
def shownInput (p : Parsed) (name : Chars) : Chars :=
  if name = ['-'] then (p.value? 'O').getD (txt "(standard input)") else name

/-- Numbers that options give. -/
structure SearchLimits where
  before : Option Nat := none
  after : Option Nat := none
  most : Option Nat := none

/-- What a search has come to. -/
structure Findings where
  found : Bool := false
  failed : Bool := false

/-- The widest number in an input, of which the size may be known. -/
def placeWidth (name : Chars) (s : Supply) : Act Nat := do
  let digits (n : Nat) : Nat := if n = 0 then 0 else (Chars.ofNat n).length
  if name ≠ ['-'] then return digits s.content.length
  match ← opened? 0 with
  | some (_, { channel := .file id _, .. }) =>
    return digits ((← world).files.dataOf id).content.length
  | _ => return 19

/-- How an input is shown. -/
def searchLayout (p : Parsed) (limits : SearchLimits) (r : Option Regex) (label : Option Chars)
    (width : Nat) : SearchLayout :=
  let opposite := p.has 'v'
  let paints := p.value? 'N' = some (txt "always")
  { label, numbers := p.has 'n', places := p.has 'b'
    matchesOnly := if p.has 'o' then (if opposite then some (.one '\x00') else r) else none
    before := limits.before.getD 0, after := limits.after.getD 0
    parting :=
      if limits.before.isNone && limits.after.isNone then none
      else match (p.options.filter fun o => o.1 = 'g' || o.1 = 'j').getLast? with
        | some ('g', s) => some s
        | some _ => none
        | none => some (txt "--")
    nulBehindLabel := p.has 'Z'
    numberWidth := if p.has 'T' then some width else none
    painted := if paints && !opposite then r else none
    paintedAround := if paints && opposite then r else none
    paints }

/-- What is done with an input that is no text. -/
inductive BinaryUse
  | told
  | passed
  | shown
deriving DecidableEq

def BinaryUse.ofOptions (p : Parsed) : BinaryUse :=
  match (p.options.filter fun o => (txt "aIQ").contains o.1).getLast? with
  | some ('a', _) => .shown
  | some ('I', _) => .passed
  | some (_, value) =>
    if value = txt "text" then .shown else if value = txt "without-match" then .passed else .told
  | none => .told

/-- Whether a line is asked for. -/
def isAsked (p : Parsed) (r : Option Regex) (line : Chars) : Bool :=
  (r.any (isFoundIn · line)) != p.has 'v'

/-- How many lines are asked for before a search has found enough, if there is such a number. -/
def enoughLines? (p : Parsed) (limits : SearchLimits) : Option Nat :=
  if p.has 'q' || p.has 'l' || p.has 'L' then some 1
  else if limits.after.isSome then none
  else limits.most

/-- Where a text has as many lines that are asked for as are enough. -/
def enoughAt? (p : Parsed) (limits : SearchLimits) (r : Option Regex) (s : Chars) : Option Nat :=
  let mark := if p.has 'z' then '\x00' else '\n'
  let rec go (place : Nat) : (left : Nat) → List Chars → Option Nat
    | 0, _ => some place
    | _, [] => none
    | left + 1, part :: parts =>
      let isHit := part.getLast? = some mark && isAsked p r part.dropLast
      go (place + part.length) (if isHit then left else left + 1) parts
  (enoughLines? p limits).bind fun n => go 0 n (Chars.endedParts mark s)

/-- Takes what a search needs of an input. Nothing is left of it to be read, except of a file after
the last of so many lines. -/
def takeSearched (p : Parsed) (limits : SearchLimits) (r : Option Regex) (input : Nat) :
    Act Supply := do
  match (← world).opened[input]? with
  | some { channel := .file _ _, reads := true, .. } =>
    let s ← drainOf input
    let lines := searchedLines (isAsked p r) limits.most 1 0 (recordsOf (p.has 'z') s.content)
    let hits := lines.filter (·.isHit)
    if let some most := limits.most then
      if most ≤ hits.length && !(p.has 'q' || p.has 'l' || p.has 'L') then
        let used := (hits.getLast?.map fun l => l.place + l.text.length + 1).getD 0
        giveBackTo input (s.split used).2
    return s
  | some { channel := .source pipe, .. } =>
    let s ← takeEnough input (enoughAt? p limits r) maxArrivals []
    modifyPipe pipe fun p => { p.emptied with endless := p.endless }
    return s
  | _ => drainOf input

/-- Searches one input; whether something was found. -/
def searchIn (p : Parsed) (limits : SearchLimits) (r : Option Regex) (labelled : Bool)
    (name : Chars) (s : Supply) : Act Bool := do
  let shownName := shownInput p name
  let label := if labelled then some shownName else none
  let isBinary := BinaryUse.ofOptions p ≠ .shown && !p.has 'z' && s.content.contains '\x00'
  if isBinary && BinaryUse.ofOptions p = .passed then return false
  let lines := searchedLines (isAsked p r) limits.most 1 0 (recordsOf (p.has 'z') s.content)
  let hits := lines.filter (·.isHit)
  let layout := searchLayout p limits r label (← placeWidth name s)
  let ended (shown : List Chars) : Chars :=
    shown.flatMap (· ++ [if p.has 'z' then '\x00' else '\n'])
  let named : Chars := layout.paint "35" shownName ++ [if p.has 'Z' then '\x00' else '\n']
  let isList := p.has 'q' || p.has 'l' || p.has 'L' || p.has 'c'
  let texts := layout.lines false [] 0 lines
  let proper := if BinaryUse.ofOptions p = .shown then texts
    else texts.takeWhile fun s => !(Chars.joined s).any Chars.isStray
  let isBroken := !isList && !isBinary && proper.length < texts.length
  let shown :=
    if p.has 'q' then []
    else if p.has 'L' then if hits.isEmpty then named else []
    else if p.has 'l' then if hits.isEmpty then [] else named
    else if p.has 'c' then layout.named ':' ++ Chars.ofNat hits.length ++ ['\n']
    else if isBinary then []
    else ended proper
  emit shown
  if (isBinary && !hits.isEmpty && !isList) || (isBroken && BinaryUse.ofOptions p = .told) then
    problem (shownName ++ txt ": binary file matches")
  return !hits.isEmpty

/-- Whether a file name is one of those that are searched in folders. -/
def isIncluded (p : Parsed) (name : Chars) : Bool :=
  let fits (c : Char) : List Bool :=
    (p.options.filter (·.1 == c)).map fun o =>
      Shell.fits (Shell.patternOf (o.2.map (⟨·, false⟩))) name
  let wanted := fits 'J'
  (wanted.isEmpty || wanted.any id) && !(fits 'K').any id

/-- The files at a path and below it, by name. -/
def filesBelow (t : FileTree) (p : Parsed) : (depth : Nat) → (top : Bool) → Chars → List Chars
  | 0, _, _ => []
  | depth + 1, top, path =>
    let aim : Aim := if top || p.has 'R' then .target else .entry
    match t.find aim (Chars.toPath (if path.isEmpty then ['.'] else path)) with
    | .ok (.taken loc .folder) =>
      let names := ((t.namesIn loc).map Chars.ofText).mergeSort charsLe
      let start := if path.isEmpty || path.getLast? = some '/' then path else path ++ ['/']
      names.flatMap fun n =>
        let inner := start ++ n
        let skipped := match t.find aim (Chars.toPath inner) with
          | .ok (.taken _ (.file _ _)) | .ok (.taken _ (.program _)) => !isIncluded p n
          | .ok (.taken _ .folder) => p.options.any fun o =>
            o.1 == 'M' && Shell.fits (Shell.patternOf (o.2.map (⟨·, false⟩))) n
          | _ => true
        if skipped then [] else filesBelow t p depth false inner
    | _ => [path]

def grepOptions : OptionTable where
  letters := txt "EFGPHIchilLnoqsuvwxyabrRzZUTNSWj"
  valued := txt "emfABCDXdJKMOQYg"
  optional := ['N']
  long := [(txt "extended-regexp", 'E'), (txt "fixed-strings", 'F'), (txt "fixed-regexp", 'F'),
    (txt "basic-regexp", 'G'), (txt "perl-regexp", 'P'), (txt "with-filename", 'H'),
    (txt "no-filename", 'h'), (txt "count", 'c'), (txt "ignore-case", 'i'),
    (txt "no-ignore-case", 'W'), (txt "files-with-matches", 'l'),
    (txt "files-without-match", 'L'), (txt "line-number", 'n'), (txt "only-matching", 'o'),
    (txt "quiet", 'q'), (txt "silent", 'q'), (txt "no-messages", 's'), (txt "invert-match", 'v'),
    (txt "word-regexp", 'w'), (txt "line-regexp", 'x'), (txt "text", 'a'), (txt "byte-offset", 'b'),
    (txt "recursive", 'r'), (txt "dereference-recursive", 'R'), (txt "null-data", 'z'),
    (txt "null", 'Z'), (txt "regexp", 'e'), (txt "file", 'f'), (txt "max-count", 'm'),
    (txt "after-context", 'A'), (txt "before-context", 'B'), (txt "context", 'C'),
    (txt "include", 'J'), (txt "exclude", 'K'), (txt "exclude-dir", 'M'),
    (txt "exclude-from", 'Y'), (txt "color", 'N'), (txt "colour", 'N'), (txt "label", 'O'),
    (txt "binary-files", 'Q'), (txt "binary", 'U'), (txt "line-buffered", 'S'),
    (txt "group-separator", 'g'), (txt "no-group-separator", 'j'), (txt "directories", 'd'),
    (txt "devices", 'D'), (txt "initial-tab", 'T'), (txt "unix-byte-offsets", 'u')]
  choices := [('d', ⟨"--directories", [["read"], ["recurse"], ["skip"]]⟩)]

def grepUsage : Chars :=
  txt "Usage: grep [OPTION]... PATTERNS [FILE]...\nTry 'grep --help' for more information.\n"

/-- The numbers that options give. -/
def SearchLimits.ofOptions (p : Parsed) : Except Chars SearchLimits := do
  let context (c : Char) : Except Chars (Option Nat) :=
    match p.value? c with
    | none => .ok none
    | some s =>
      match Chars.nat? s with
      | some n => .ok (some n)
      | none => .error (s ++ txt ": invalid context length argument")
  let around ← context 'C'
  let most ← match p.value? 'm' with
    | none => .ok none
    | some s =>
      match Chars.int? s with
      | some n => .ok (if n < 0 then none else some n.toNat)
      | none => .error (txt "invalid max count")
  return { before := (← context 'B') <|> around, after := (← context 'A') <|> around, most }

/-- How the expressions are written that options ask for. -/
def Spelling.ofOptions (p : Parsed) : Except Chars Spelling := do
  let named := p.options.filterMap fun (c, value) =>
    match c with
    | 'E' => some (txt "egrep")
    | 'F' => some (txt "fgrep")
    | 'G' => some (txt "grep")
    | 'P' => some (txt "perl")
    | 'X' => some value
    | _ => none
  let known : List (String × Spelling) :=
    [("grep", .basic), ("egrep", .extended), ("fgrep", .literal), ("awk", .extended),
      ("gawk", .extended), ("posixawk", .extended), ("perl", .withLetters)]
  match named with
  | [] => return .basic
  | first :: others =>
    if let some bad := named.find? fun n => (known.lookup (String.ofList n)).isNone then
      throw (txt "invalid matcher " ++ bad)
    if others.any (· != first) then throw (txt "conflicting matchers specified")
    return (known.lookup (String.ofList first)).getD .basic

/-- A complaint about the word of an option, if there is one. -/
def searchFault? (p : Parsed) : Option Chars :=
  let isOther (c : Char) (words : List String) : Bool :=
    p.options.any fun o => o.1 == c && !(words.contains (String.ofList o.2))
  if isOther 'Q' ["binary", "text", "without-match"] then some (txt "unknown binary-files type")
  else if isOther 'D' ["read", "skip"] then some (txt "unknown devices method")
  else none

/-- The options with the patterns of file names that files hold; or why one is not read. -/
def withPatternFiles (p : Parsed) : Act (Except Chars Parsed) := do
  let rec go : List (Char × Chars) → Act (Except Chars (List (Char × Chars)))
    | [] => return .ok []
    | (c, value) :: more => do
      let own : Except Chars (List (Char × Chars)) ←
        if c ≠ 'Y' then pure (.ok [(c, value)])
        else do
          let s ← if value = ['-'] then drain 0 else supplyOf value
          match s.tail with
          | .broken e => pure (.error (value ++ txt ": " ++ e.toList))
          | _ =>
            awaitTail s
            pure (.ok (((bareLines s.content).filter (!·.isEmpty)).map ('K', ·)))
      match own, ← go more with
      | .ok a, .ok b => return .ok (a ++ b)
      | .error e, _ | _, .error e => return .error e
  return (← go p.options).map fun options => { p with options }

/-- The expressions that options and operands give, and the names of the inputs; nothing if there
is no expression or a file of them cannot be read. -/
def searchInputs (p : Parsed) : Act (Except Chars (List Chars × List Chars)) := do
  let rec fromFiles : List (Char × Chars) → Act (Except Chars (List Chars))
    | [] => return .ok []
    | o :: more => do
      let lines : Except Chars (List Chars) ←
        if o.1 = 'e' then pure (.ok (Text.splitOn (· == '\n') o.2))
        else if o.1 = 'f' then do
          let s ← if o.2 = ['-'] then drain 0 else supplyOf o.2
          match s.tail with
          | .broken e => pure (.error (o.2 ++ txt ": " ++ e.toList))
          | _ => awaitTail s; pure (.ok (bareLines s.content))
        else pure (.ok [])
      match lines, ← fromFiles more with
      | .ok a, .ok b => return .ok (a ++ b)
      | .error e, _ | _, .error e => return .error e
  if p.has 'e' || p.has 'f' then
    return (← fromFiles p.options).map fun patterns => (patterns, p.operands)
  else
    match p.operands with
    | [] => return .error []
    | pattern :: names => return .ok (Text.splitOn (· == '\n') pattern, names)

/-- Whether what is shown would become part of the input. -/
def isOwnOutput (p : Parsed) (limits : SearchLimits) (input : Nat) : Act Bool := do
  if (txt "qlLc").any p.has || limits.most.any (· ≤ 1) then return false
  let file? (o : Option Opened) : Option FileId :=
    match o with
    | some { channel := .file id _, .. } => some id
    | _ => none
  let id? := file? (← world).opened[input]?
  return id?.isSome && id? == file? ((← opened? 1).map (·.2))

/-- Searches inputs by name. -/
def searchEach (p : Parsed) (limits : SearchLimits) (r : Option Regex) (labelled : Bool) :
    Findings → List Chars → Program
  | f, [] =>
    return if f.failed && !(f.found && p.has 'q') then 2 else if f.found then 0 else 1
  | f, name :: more => do
    let input ← openInput name
    let s ← match input with
      | .error e => pure { tail := .broken e }
      | .ok n =>
        if ← isOwnOutput p limits n then pure { tail := .broken "input file is also the output" }
        else takeSearched p limits r n
    let bounded : Supply := { s.unroll maxPeriods with tail := .closed }
    match s.tail with
    | .broken e =>
      let isPassed := e = FileError.isFolder.words && p.value? 'd' = some (txt "skip")
      if !p.has 's' && !isPassed then
        let shown := if name = ['-'] then shownInput p name else name
        problem (shown ++ txt ": " ++ e.toList)
      searchEach p limits r labelled { f with failed := f.failed || !isPassed } more
    | .endless _ =>
      if (enoughLines? p limits).isNone then
        if p.has 'c' then waitForEver
        emitSupply (s.mapContent fun t =>
          ((Chars.lines t).filter fun l => isAsked p r (Chars.withoutNewline l)).flatten)
      else
        if (enoughAt? p limits r bounded.content).isNone then waitForEver
        let here ← searchIn p limits r labelled name bounded
        if here && p.has 'q' then return 0
        searchEach p limits r labelled { f with found := f.found || (here != p.has 'L') } more
    | .closed =>
      let here ← searchIn p limits r labelled name s
      if here && p.has 'q' then return 0
      searchEach p limits r labelled { f with found := f.found || (here != p.has 'L') } more

/-- The digits among the letters of an option are a number of lines around those asked for. -/
def contextArguments : List Chars → List Chars
  | [] => []
  | ['-', '-'] :: more => ['-', '-'] :: more
  | ('-' :: s) :: more =>
    let start := s.takeWhile fun c => c.isDigit || grepOptions.letters.contains c
    let digits := start.filter Char.isDigit
    let rest := start.filter (!·.isDigit) ++ s.drop start.length
    let own := if digits.isEmpty then ['-' :: s]
      else (txt "-C" ++ digits) :: if rest.isEmpty then [] else ['-' :: rest]
    match s.drop start.length, more with
    | [c], value :: more =>
      if grepOptions.valued.contains c then own ++ value :: contextArguments more
      else own ++ contextArguments (value :: more)
    | _, more => own ++ contextArguments more
  | a :: more => a :: contextArguments more

/-- Complains of an option and tells of the usage. -/
def searchMisuse (message : Chars) (status : Nat) : Program := do
  problem message
  complain grepUsage
  return status

/-- The names of the inputs that a search goes through. -/
def searchNames (p : Parsed) (names : List Chars) : Act (List Chars) := do
  let t ← files
  let depth := t.entries.length + 2
  let isWanted (name : Chars) : Bool := name = ['-'] || isIncluded p (baseName name)
  if p.has 'r' || p.has 'R' then
    return if names.isEmpty then filesBelow t p depth true []
      else names.flatMap fun n => if n = ['-'] then [n] else
        (filesBelow t p depth true n).filter fun m => m ≠ n || isWanted n
  else return if names.isEmpty then [['-']] else names.filter isWanted

/-- Searches for what options and operands ask for. -/
def searchFor (p : Parsed) (spelling : Spelling) (limits : SearchLimits) : Program := do
  match ← searchInputs p with
  | .error [] =>
    complain grepUsage
    return 2
  | .error message =>
    problem message
    return 2
  | .ok (patterns, names) =>
    match sought p spelling patterns with
    | .error f =>
      problem f.message.toList
      return 2
    | .ok r =>
      if p.has 'u' then problem (txt "warning: --unix-byte-offsets (-u) is obsolete")
      let isMany := p.has 'r' || p.has 'R' || 1 < names.length
      let labelled := (lastOf p ['H', 'h']).elim isMany (· == 'H')
      searchEach p limits r labelled {} (← searchNames p names)

def grep : Program := do
  match grepOptions.parse (contextArguments (← self).args) with
  | .error message => searchMisuse message 2
  | .ok p =>
    match grepOptions.chosen p with
    | .error message => searchMisuse message 1
    | .ok p =>
      let deep := p.value? 'd' = some (txt "recurse")
      let p := if deep then { p with options := ('r', []) :: p.options } else p
      let words : Except Chars Unit := (searchFault? p).elim (.ok ()) .error
      match words, Spelling.ofOptions p,
        SearchLimits.ofOptions p, ← withPatternFiles p with
      | .ok _, .ok spelling, .ok limits, .ok p => searchFor p spelling limits
      | .error message, _, _, _ | _, .error message, _, _ | _, _, .error message, _
      | _, _, _, .error message =>
        problem message
        return 2

/-- `grep` under a name that stands for one of its options. -/
def grepWith (option : String) : Program := do
  modifySelf fun p => { p with name := txt "grep", args := option.toList :: p.args }
  grep

end Conformance.Host.Utility
