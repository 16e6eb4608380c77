import Conformance.Manifest.Yaml.Property
import Conformance.Manifest.Yaml.Scalar

/-!
# Tokens

Tokens are taken from the text one after another. Where a key has no mark, its token and the one
that opens the block are put in front of it when the colon behind it is met; so a token may only be
used once no key can begin at it. A fault withholds the tokens that may not be used yet.
-/
namespace Conformance.Manifest.Yaml

open Scan

def isAllowed (c : Char) : Bool :=
  let n := c.toNat
  n == 0x09 || n == 0x0A || n == 0x0D || (0x20 ≤ n && n ≤ 0x7E) || n == 0x85 ||
    (0xA0 ≤ n && n ≤ 0xD7FF) || (0xE000 ≤ n && n ≤ 0xFFFD) || 0x10000 ≤ n

/-- How many bytes of a text are looked over at once. -/
def stretch : Nat := 16384

/-- The first character that may not stand in a document: its offset, and the part of the text
before the stretch it lies in. `offset` bytes come before the text, of which the whole characters in
`clean`, last first, fill the stretches up to `start`, and those in `recent` the one under way. -/
def controlCharacterFrom (offset start : Nat) (clean recent : List Char) :
    List Char → Option (Nat × List Char)
  | [] => none
  | c :: cs =>
    let next := offset + c.utf8Size
    if start + stretch < next then
      if isAllowed c then controlCharacterFrom next offset (recent ++ clean) [c] cs
      else some (offset, (recent ++ clean).reverse)
    else if isAllowed c then controlCharacterFrom next start clean (c :: recent) cs
    else some (offset, clean.reverse)

def controlCharacter? (text : List Char) : Option (Nat × List Char) :=
  controlCharacterFrom 0 0 [] [] text

namespace Scan

def push (t : Token) : Scan Unit :=
  modify fun s => { s with tokens := s.tokens.push t }

/-- Puts a token in front of the one with this number. -/
def insertAt (n : Nat) (t : Token) : Scan Unit :=
  modify fun s => { s with tokens := s.tokens.insertIdxIfInBounds n t }

/-- A token of `n` characters. -/
def pushMark (kind : TokenKind) (n : Nat := 1) : Scan Unit := do
  let start ← mark
  skip n
  push { kind, start, stop := (← mark) }

def setKeyAllowed (allowed : Bool) : Scan Unit :=
  modify fun s => { s with keyAllowed := allowed }

/-- Gives up the key that may have begun in the innermost context. -/
def dropKey : Scan Unit := do
  match (← get).keys.head? with
  | some (some k) =>
    if k.required then fail (some (.simpleKey, k.mark)) .noColon
  | _ => pure ()
  modify fun s => { s with keys := none :: s.keys.drop 1 }

/-- Notes that a key may begin here. -/
def saveKey : Scan Unit := do
  let s ← get
  if s.keyAllowed then
    let required := s.keys.length ≤ 1 && s.indent == (s.mark.column : Int)
    dropKey
    let place : KeyPlace := { token := s.tokens.size, required, mark := s.mark }
    modify fun s => { s with keys := some place :: s.keys.drop 1 }

/-- The longest key without a mark, in bytes. -/
def maxKeyLength : Nat := 1024

/-- A key has to end in its line, and soon. -/
def isStale (now : Mark) (k : KeyPlace) : Bool :=
  k.mark.line < now.line || k.mark.index + maxKeyLength < now.index

/-- Gives up keys that cannot be keys any more. -/
def dropStaleKeys : Scan Unit := do
  let s ← get
  let stale (k : Option KeyPlace) : Bool := (k.map (isStale s.mark)).getD false
  match s.keys.reverse.find? fun k => stale k && (k.map (·.required)).getD false with
  | some (some k) => fail (some (.simpleKey, k.mark)) .noColon
  | _ =>
    modify fun s => { s with keys := s.keys.map fun k => if stale k then none else k }

/-- Opens a block at a column, unless one is open there; its token goes in front of `number`. -/
def openBlock (column : Nat) (number : Option Nat) (kind : TokenKind) (place : Mark) :
    Scan Unit := do
  let s ← get
  if s.keys.length ≤ 1 ∧ s.indent < column then
    set { s with indents := s.indent :: s.indents, indent := column }
    let t : Token := { kind, start := place, stop := place }
    match number with
    | none => push t
    | some n => insertAt n t

/-- Closes the blocks that are indented further than a column. -/
def closeBlocksFrom (column : Int) : List Int → Scan Unit
  | [] => return ()
  | outer :: outers => do
    let s ← get
    if s.indent > column then
      push { kind := .blockEnd, start := s.mark, stop := s.mark }
      modify fun s => { s with indent := outer, indents := outers }
      closeBlocksFrom column outers

def closeBlocks (column : Int) : Scan Unit := do
  let s ← get
  if s.keys.length ≤ 1 then closeBlocksFrom column s.indents

/-- Passes over blanks, comments and line breaks, and over a byte order mark at the start of a line,
which takes up a column. A line break in the block context allows a key; tabs may not stand where a
key may. -/
def toNextTokenFrom : (steps : Nat) → Scan Unit
  | 0 => return ()
  | steps + 1 => do
    if (← column) = 0 ∧ (← peek) = some '\ufeff' then skip
    let flow ← inFlow
    let tabs := flow || !(← get).keyAllowed
    skipWhile fun c => c == ' ' || (tabs && c == '\t')
    if (← peek) = some '#' then skipWhile (! isBreak ·)
    if ((← peek).map isBreak).getD false then
      let _ ← takeBreak
      if !flow then setKeyAllowed true
      toNextTokenFrom steps

def toNextToken : Scan Unit := do
  toNextTokenFrom ((← left) + 1)

/-! ## One token -/

def fetchEnd : Scan Unit := do
  modify fun s =>
    if s.mark.column = 0 then s
    else { s with mark := { s.mark with line := s.mark.line + 1, column := 0 } }
  closeBlocks (-1)
  dropKey
  setKeyAllowed false
  push { kind := .streamEnd, start := (← mark), stop := (← mark) }
  modify fun s => { s with ended := true }

def fetchDirective : Scan Unit := do
  closeBlocks (-1)
  dropKey
  setKeyAllowed false
  push (← directive)

def fetchDocumentMarker (kind : TokenKind) : Scan Unit := do
  closeBlocks (-1)
  dropKey
  setKeyAllowed false
  pushMark kind 3

def fetchFlowStart (kind : TokenKind) : Scan Unit := do
  saveKey
  modify fun s => { s with keys := none :: s.keys }
  setKeyAllowed true
  pushMark kind

def fetchFlowEnd (kind : TokenKind) : Scan Unit := do
  dropKey
  if ← inFlow then modify fun s => { s with keys := s.keys.drop 1 }
  setKeyAllowed false
  pushMark kind

def fetchFlowEntry : Scan Unit := do
  dropKey
  setKeyAllowed true
  pushMark .flowEntry

/-- Opens a block for a mark that stands by itself. -/
def openAtMark (kind : TokenKind) (refused : Problem) : Scan Unit := do
  if !(← inFlow) then
    if (← get).keyAllowed then openBlock (← column) none kind (← mark)
    else fail none refused

def fetchBlockEntry : Scan Unit := do
  openAtMark .blockSequenceStart .entryHere
  dropKey
  setKeyAllowed true
  pushMark .blockEntry

def fetchKey : Scan Unit := do
  openAtMark .blockMappingStart .keyHere
  dropKey
  setKeyAllowed (!(← inFlow))
  pushMark .key

def fetchValue : Scan Unit := do
  match (← get).keys.head? with
  | some (some k) =>
    insertAt k.token { kind := .key, start := k.mark, stop := k.mark }
    openBlock k.mark.column (some k.token) .blockMappingStart k.mark
    modify fun s => { s with keys := none :: s.keys.drop 1, keyAllowed := false }
  | _ =>
    openAtMark .blockMappingStart .valueHere
    setKeyAllowed (!(← inFlow))
  pushMark .value

/-- A token that may be a key. -/
def fetchContent (t : Scan Token) : Scan Unit := do
  saveKey
  setKeyAllowed false
  push (← t)

def fetchBlockScalar (literal : Bool) : Scan Unit := do
  dropKey
  setKeyAllowed true
  push (← blockScalar literal)

/-- Whether a plain scalar may start with `c` before `d`. -/
def startsPlain (flow : Bool) (c : Char) (d : Option Char) : Bool :=
  if c == '-' then !(d.map isBlank).getD false
  else if c == '?' || c == ':' then !flow && !isBlankEnd d
  else !(isBlank c || isBreak c || ",[]\x7b\x7d#&*!|>'\"%@`".toList.contains c)

/-- Takes the token that starts with `c`. -/
def fetchAt (c : Char) : Scan Unit := do
  let flow ← inFlow
  let d ← look 1
  let marks := isBlankEnd d
  if (← column) = 0 ∧ c = '%' then fetchDirective
  else if ← isMarker '-' then fetchDocumentMarker .documentStart
  else if ← isMarker '.' then fetchDocumentMarker .documentEnd
  else if c = '[' then fetchFlowStart .flowSequenceStart
  else if c = '\x7b' then fetchFlowStart .flowMappingStart
  else if c = ']' then fetchFlowEnd .flowSequenceEnd
  else if c = '\x7d' then fetchFlowEnd .flowMappingEnd
  else if c = ',' then fetchFlowEntry
  else if c = '-' ∧ marks then fetchBlockEntry
  else if c = '?' ∧ (flow || marks) then fetchKey
  else if c = ':' ∧ (flow || marks) then fetchValue
  else if c = '*' then fetchContent (anchor true)
  else if c = '&' then fetchContent (anchor false)
  else if c = '!' then fetchContent tag
  else if c = '|' ∧ !flow then fetchBlockScalar true
  else if c = '>' ∧ !flow then fetchBlockScalar false
  else if c = '\'' then fetchContent (quotedScalar true)
  else if c = '"' then fetchContent (quotedScalar false)
  else if startsPlain flow c d then fetchContent plainScalar
  else fail (some (.nextToken, ← mark)) .noToken

/-- Takes what stands next in the text. -/
def fetch : Scan Unit := do
  toNextToken
  dropStaleKeys
  closeBlocks (← column)
  match ← peek with
  | none => fetchEnd
  | some c => fetchAt c
  dropStaleKeys

end Scan

/-- How many characters are looked at before a token is told from others. -/
def lookahead : Nat := 4

/-- How many tokens may be used: those before the first at which a key may have begun. -/
def Cursor.usable (s : Cursor) : Nat :=
  s.keys.foldl (fun n k => (k.map fun k => min n k.token).getD n) s.tokens.size

/-- The tokens of a text, and the fault that ends them. Where the text goes on behind `cut`, which
cannot be read, no token may touch its end. -/
def tokensFrom (s : Cursor) (cut : Option Fault) : (steps : Nat) → List Token × Option Fault
  | 0 => (s.tokens.toList, none)
  | steps + 1 =>
    let touches (s' : Cursor) (n : Nat) : Bool := cut.isSome && s'.rest.length < n
    match Scan.fetch s with
    | .error fault s' =>
      (s.tokens.toList.take s.usable, if touches s' lookahead then cut else some fault)
    | .ok _ s' =>
      if touches s' 2 then (s.tokens.toList.take s.usable, cut)
      else if touches s' lookahead then (s'.tokens.toList.take s'.usable, cut)
      else if s'.ended then (s'.tokens.toList, none)
      else tokensFrom s' cut steps

/-- All tokens. Each round takes a character or ends. -/
def tokens (text : List Char) : List Token × Option Fault :=
  let start : Token := { kind := .streamStart, start := {}, stop := {} }
  let scanned (text : List Char) (cut : Option Fault) : List Token × Option Fault :=
    tokensFrom { rest := text, tokens := #[start] } cut (text.length + 2)
  match controlCharacter? text with
  | none => scanned text none
  | some (offset, clean) =>
    let fault := Fault.controlCharacter offset
    if clean.isEmpty then ([], some fault) else scanned clean (some fault)

end Conformance.Manifest.Yaml
