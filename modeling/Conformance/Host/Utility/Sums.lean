import Conformance.Host.Utility.Folders
import Conformance.Host.Utility.Digest

/-!
# Programs that show and check digests

A program for digests shows the one of each input, or compares the digests in a list with those of
the files that it names.
-/
namespace Conformance.Host.Utility

/-- A way to make digests: its name, the number of its digits, and the digest of a text. -/
structure DigestKind where
  name : String
  digits : Nat
  of : Chars → Chars

def digestKinds : List (String × DigestKind) :=
  [("md5", ⟨"MD5", 32, md5⟩), ("sha1", ⟨"SHA1", 40, sha1⟩), ("sha224", ⟨"SHA224", 56, sha224⟩),
    ("sha256", ⟨"SHA256", 64, sha256⟩), ("sha384", ⟨"SHA384", 96, sha384⟩),
    ("sha512", ⟨"SHA512", 128, sha512⟩)]

/-! ## Names -/

/-- A name in one line, and whether that is another text. -/
def nameInLine (name : Chars) : Chars × Bool :=
  let escaped := name.flatMap fun c =>
    match c with
    | '\n' => txt "\\n"
    | '\r' => txt "\\r"
    | '\\' => txt "\\\\"
    | c => [c]
  (escaped, escaped ≠ name)

/-- The name that a text in one line stands for. -/
def nameFromLine : Chars → Option Chars
  | [] => some []
  | ['\\'] => none
  | '\\' :: c :: s =>
    match c with
    | 'n' => (nameFromLine s).map ('\n' :: ·)
    | 'r' => (nameFromLine s).map ('\r' :: ·)
    | '\\' => (nameFromLine s).map ('\\' :: ·)
    | _ => none
  | c :: s => (nameFromLine s).map (c :: ·)

/-! ## Showing -/

/-- Shows something of each input. -/
def showEach (p : Parsed) (shown : Chars → Chars → Chars) : Program :=
  eachInput p.operands unreadable fun _ name s => do
    awaitTail s
    emitOnly (shown name s.content)

/-- The line that shows the digest of an input. -/
def DigestKind.line (k : DigestKind) (tagged binary byNul : Bool) (name text : Chars) : Chars :=
  let (shown, isEscaped) := if byNul then (name, false) else nameInLine name
  let mark := if isEscaped then ['\\'] else []
  let ending := if byNul then '\x00' else '\n'
  if tagged then
    mark ++ txt k.name ++ txt " (" ++ shown ++ txt ") = " ++ k.of text ++ [ending]
  else mark ++ k.of text ++ [' ', if binary then '*' else ' '] ++ shown ++ [ending]

/-! ## Checking -/

/-- A digest that a list gives for a file. -/
structure ListedDigest where
  digest : Chars
  file : Chars

/-- The text behind a name in brackets, which ends at the last one. -/
def bracketed? (s : Chars) : Option (Chars × Chars) :=
  let after := (s.reverse.takeWhile (· != ')')).reverse
  if after.length = s.length then none
  else some (s.take (s.length - after.length - 1), after)

def isDigest (k : DigestKind) (s : Chars) : Bool :=
  s.length = k.digits && s.all fun c => (hexDigitValue c).isSome

/-- The digest and the file of a line. Behind a digest stand a blank and a mark; `bare` tells
whether the mark may be missing, and the last part whether it was. -/
def digestLine? (k : DigestKind) (bare : Option Bool) (line : Chars) :
    Option (ListedDigest × Option Bool) :=
  let s := line.dropWhile isFieldBlank
  let (isEscaped, s) := match s with
    | '\\' :: r => (true, r)
    | r => (false, r)
  let named (digest file : Chars) (bare : Option Bool) : Option (ListedDigest × Option Bool) :=
    (if isEscaped then nameFromLine file else some file).map fun file => (⟨digest, file⟩, bare)
  let behindName := if (txt k.name).isPrefixOf s then s.drop k.name.length else []
  let opened := if behindName.head? = some ' ' then behindName.drop 1 else behindName
  match opened with
  | '(' :: r =>
    (bracketed? r).bind fun (file, after) =>
      match after.dropWhile isFieldBlank with
      | '=' :: r =>
        let digest := r.dropWhile isFieldBlank
        if isDigest k digest then named digest file bare else none
      | _ => none
  | _ =>
    let digest := s.take k.digits
    match s.drop k.digits with
    | blank :: rest =>
      if !isDigest k digest || !isFieldBlank blank || rest.isEmpty then none
      else
        let hasMark := rest.length ≠ 1 && (rest.head? = some ' ' || rest.head? = some '*')
        if !hasMark then if bare = some false then none else named digest rest (some true)
        else if bare = some true then named digest rest bare
        else named digest (rest.drop 1) (some false)
    | [] => none

/-- What a check has come to. -/
structure Verdict where
  proper : Nat := 0
  improper : Nat := 0
  unread : Nat := 0
  unequal : Nat := 0
  equal : Nat := 0

/-- How a check is told. -/
structure Checking where
  kind : DigestKind
  tellsEqual : Bool
  tellsAny : Bool
  warns : Bool
  strict : Bool
  mayBeMissing : Bool

namespace Checking

/-- Compares the digest of a file. -/
def compare (k : Checking) (d : ListedDigest) (v : Verdict) : Act Verdict := do
  let (shown, isEscaped) := nameInLine d.file
  let tell (word : String) : Act Unit := do
    if k.tellsAny then
      emit ((if isEscaped then ['\\'] else []) ++ shown ++ txt ": " ++ txt word ++ ['\n'])
  let v := { v with proper := v.proper + 1 }
  let s ← if d.file = ['-'] then drain 0 else supplyOf d.file
  match s.tail with
  | .broken e =>
    if k.mayBeMissing && e = FileError.missing.words then return v
    unreadable d.file e
    tell "FAILED open or read"
    return { v with unread := v.unread + 1 }
  | _ =>
    awaitTail s
    if k.kind.of s.content = d.digest.map Char.toLower then
      if k.tellsEqual then tell "OK"
      return { v with equal := v.equal + 1 }
    else
      tell "FAILED"
      return { v with unequal := v.unequal + 1 }

/-- Goes through the lines of a list. -/
def lines (k : Checking) (shownName : Chars) : (number : Nat) → (bare : Option Bool) → Verdict →
    List Chars → Act Verdict
  | _, _, v, [] => return v
  | number, bare, v, line :: more => do
    let line := if line.getLast? = some '\r' then line.dropLast else line
    if line.isEmpty || line.head? = some '#' then lines k shownName (number + 1) bare v more
    else
      match digestLine? k.kind bare line with
      | some (d, bare) => lines k shownName (number + 1) bare (← k.compare d v) more
      | none =>
        if k.warns then
          problem (shownName ++ txt ": " ++ Chars.ofNat number ++ txt ": improperly formatted " ++
            txt k.kind.name ++ txt " checksum line")
        lines k shownName (number + 1) bare { v with improper := v.improper + 1 } more

/-- Tells what a check has come to; whether all is well. -/
def conclude (k : Checking) (shownName : Chars) (v : Verdict) : Act Bool := do
  if v.proper = 0 then
    return ← refuse (shownName ++ txt ": no properly formatted checksum lines found")
  let warn (n : Nat) (one many : String) : Act Unit := do
    if n ≠ 0 then
      problem (txt "WARNING: " ++ Chars.ofNat n ++ ' ' :: txt (if n = 1 then one else many))
  if k.tellsAny then
    warn v.improper "line is improperly formatted" "lines are improperly formatted"
    warn v.unread "listed file could not be read" "listed files could not be read"
    warn v.unequal "computed checksum did NOT match" "computed checksums did NOT match"
    if k.mayBeMissing && v.equal = 0 then problem (shownName ++ txt ": no file was verified")
  return (!k.mayBeMissing || v.equal ≠ 0) && v.unread = 0 && v.unequal = 0 &&
    (!k.strict || v.improper = 0)

/-- Checks the digests of a list. -/
def list (k : Checking) (name : Chars) : Act Bool := do
  let s ← if name = ['-'] then drain 0 else supplyOf name
  match s.tail with
  | .broken e =>
    unreadable name e
    return false
  | _ =>
    awaitTail s
    let shownName := if name = ['-'] then quoted (txt "standard input") else quotedIfNeeded name
    k.conclude shownName (← k.lines shownName 1 none {} (bareLines s.content))

end Checking

/-! ## Programs for digests -/

def digestOptions : OptionTable where
  letters := txt "btczw"
  long := [(txt "binary", 'b'), (txt "text", 't'), (txt "check", 'c'), (txt "tag", 'T'),
    (txt "zero", 'z'), (txt "ignore-missing", 'I'), (txt "quiet", 'Q'), (txt "status", 'S'),
    (txt "strict", 'D'), (txt "warn", 'w')]

/-- A complaint about options that do not go together, if there is one. -/
def digestFault? (p : Parsed) : Option String :=
  let checks := p.has 'c'
  let onlyChecking (c : Char) (name : String) : Option String :=
    if p.has c && !checks then
      some ("the --" ++ name ++ " option is meaningful only when verifying checksums")
    else none
  if p.has 'T' && lastOf p ['b', 't', 'T'] = some 't' then
    some "--tag does not support --text mode"
  else if p.has 'z' && checks then
    some "the --zero option is not supported when verifying checksums"
  else if p.has 'T' && checks then
    some "the --tag option is meaningless when verifying checksums"
  else if (p.has 'b' || p.has 't') && checks then
    some "the --binary and --text options are meaningless when verifying checksums"
  else
    (onlyChecking 'I' "ignore-missing").or <| (onlyChecking 'S' "status").or <|
      (onlyChecking 'w' "warn").or <| (onlyChecking 'Q' "quiet").or (onlyChecking 'D' "strict")

/-- Checks the lists that operands name. -/
def checkLists (p : Parsed) (kind : DigestKind) : Program :=
  let mode := lastOf p ['w', 'S', 'Q']
  let k : Checking :=
    { kind, tellsEqual := mode ≠ some 'Q', tellsAny := mode ≠ some 'S', warns := mode = some 'w'
      strict := p.has 'D', mayBeMissing := p.has 'I' }
  eachName k.list 0 (if p.operands.isEmpty then [['-']] else p.operands)

/-- Shows or checks digests of one kind. -/
def digestProgram (kind : String) : Program :=
  withOptions digestOptions 1 fun p => do
    let kind := (digestKinds.lookup kind).getD ⟨"MD5", 32, md5⟩
    match digestFault? p with
    | some message => misuse message.toList
    | none =>
      if p.has 'c' then checkLists p kind
      else
        let isBinary := lastOf p ['b', 't'] = some 'b'
        showEach p (kind.line (p.has 'T') isBinary (p.has 'z'))

/-! ## Checksums -/

/-- The name behind a checksum, if inputs are named. -/
def nameBehind (p : Parsed) (input : Chars) : Chars :=
  if p.operands.isEmpty then [] else ' ' :: input

/-- A turned sum, and how many blocks of 1024 bytes there are. -/
def turnedLine (p : Parsed) (input text : Chars) : Chars :=
  let digits := Chars.ofNat (turnedSum text)
  List.replicate (5 - digits.length) '0' ++ digits ++ ' ' ::
    padLeft 5 (Chars.ofNat ((text.length + 1023) / 1024)) ++ nameBehind p input ++ ['\n']

/-- A folded sum, and how many blocks of 512 bytes there are. -/
def foldedLine (p : Parsed) (input text : Chars) : Chars :=
  Chars.ofNat (foldedSum text) ++ ' ' :: Chars.ofNat ((text.length + 511) / 512) ++
    nameBehind p input ++ ['\n']

/-- A remainder, and how many bytes there are. -/
def remainderLine (p : Parsed) (input text : Chars) : Chars :=
  Chars.ofNat (checksum text) ++ ' ' :: Chars.ofNat text.length ++ nameBehind p input ++
    [if p.has 'z' then '\x00' else '\n']

def sumProgram : Program :=
  withOptions { letters := ['r', 's'], long := [(txt "sysv", 's')] } 1 fun p =>
    showEach p (if lastOf p ['r', 's'] = some 's' then foldedLine p else turnedLine p)

def cksumOptions : OptionTable where
  letters := txt "czwUGNRB"
  valued := txt "al"
  long := [(txt "algorithm", 'a'), (txt "length", 'l'), (txt "untagged", 'U'), (txt "raw", 'R'),
    (txt "base64", 'B'), (txt "debug", 'G')] ++
    digestOptions.long.filter fun o => o.2 != 'b' && o.2 != 't'
  choices := [('a', ⟨"--algorithm", [["bsd"], ["sysv"], ["crc"], ["md5"], ["sha1"], ["sha224"],
    ["sha256"], ["sha384"], ["sha512"], ["blake2b"], ["sm3"]]⟩)]

def cksum : Program :=
  withOptions cksumOptions 1 fun p => do
    if let some message := digestFault? p then return ← misuse message.toList
    let algorithm := ((p.value? 'a').map String.ofList).getD "crc"
    match digestKinds.lookup algorithm, algorithm with
    | some kind, _ =>
      if p.has 'c' then checkLists p kind
      else showEach p (kind.line (!p.has 'U') false (p.has 'z'))
    | none, "bsd" => showEach p (turnedLine p)
    | none, "sysv" => showEach p (foldedLine p)
    | none, _ => showEach p (remainderLine p)

end Conformance.Host.Utility
