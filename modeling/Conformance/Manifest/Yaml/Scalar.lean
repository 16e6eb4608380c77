import Conformance.Manifest.Yaml.Cursor
import Conformance.Text.Quoted

/-!
# Scalars

A scalar is plain, quoted, or a block of lines. In the first two a line break is folded: it stands
for a space, unless empty lines follow, which stand for themselves. In a block the lines share an
indentation; a folded block folds breaks between lines that are not indented further.
-/
namespace Conformance.Manifest.Yaml

open Scan

/-- Blanks and line breaks between two pieces of a scalar. -/
structure Gap where
  blanks : List Char := []
  broken : Bool := false
  first : List Char := []
  more : List Char := []

/-- What folded line breaks stand for. -/
def foldBreaks (first more : List Char) : List Char :=
  if first.head? = some '\n' then (if more.isEmpty then [' '] else more) else first ++ more

def Gap.text (g : Gap) : List Char :=
  if g.broken then foldBreaks g.first g.more else g.blanks

/-- Takes blanks and line breaks. After a break, a tab before the column `indent` is a fault of the
plain scalar that started at `start`. -/
def gapFrom (tabs : Option (Mark × Int)) (g : Gap) : (steps : Nat) → Scan Gap
  | 0 => return g
  | steps + 1 => do
    match ← peek with
    | none => return g
    | some c =>
      if isBlank c then
        if g.broken then
          match tabs with
          | some (start, indent) =>
            if c = '\t' ∧ ((← column) : Int) < indent then
              fail (some (.plainScalar, start)) .tabInText
          | none => pure ()
          skip
          gapFrom tabs g steps
        else
          skip
          gapFrom tabs { g with blanks := g.blanks ++ [c] } steps
      else if isBreak c then
        let b ← takeBreak
        if g.broken then gapFrom tabs { g with more := g.more ++ b } steps
        else gapFrom tabs { broken := true, first := b } steps
      else return g

def gap (tabs : Option (Mark × Int)) (g : Gap) : Scan Gap := do
  gapFrom tabs g (← left)

/-! ## Plain scalars -/

def endsFlowText (c : Char) : Bool :=
  c == ',' || c == '[' || c == ']' || c == '\x7b' || c == '\x7d'

/-- The characters of a plain scalar up to a blank or an indicator. -/
def plainPiece (start : Mark) : (steps : Nat) → Scan (List Char)
  | 0 => return []
  | steps + 1 => do
    let c ← peek
    if isBlankEnd c then return []
    else
      let flow ← inFlow
      let d ← look 1
      if flow && c == some ':' && (d.map fun d => endsFlowText d || d == '?').getD false then
        fail (some (.plainScalar, start)) .colonHere
      else if c == some ':' && isBlankEnd d then return []
      else if flow && (c.map endsFlowText).getD false then return []
      else
        skip
        return c.toList ++ (← plainPiece start steps)

/-- What a plain scalar has come to: its text, where it ends, and whether a line break follows. -/
structure Plain where
  text : List Char := []
  stop : Mark
  broken : Bool := false

def plainFrom (start : Mark) (indent : Int) (p : Plain) (g : Gap) : (steps : Nat) → Scan Plain
  | 0 => return p
  | steps + 1 => do
    if (← isDocumentMarker) || (← peek) == some '#' then return { p with broken := g.broken }
    else
      let piece ← plainPiece start (← left)
      let p' : Plain ←
        if piece.isEmpty then pure { p with broken := g.broken }
        else pure { text := p.text ++ g.text ++ piece, stop := (← mark) }
      let c ← peek
      if !(c.map fun c => isBlank c || isBreak c).getD false then return p'
      else
        let g' ← gap (some (start, indent)) {}
        if !(← inFlow) && ((← column) : Int) < indent then return { p' with broken := g'.broken }
        else plainFrom start indent p' g' steps

/-- A plain scalar. A line break behind it allows a key. -/
def plainScalar : Scan Token := do
  let start ← mark
  let p ← plainFrom start ((← get).indent + 1) { stop := start } {} ((← left) + 1)
  if p.broken then modify fun s => { s with keyAllowed := true }
  return { kind := .scalar (String.ofList p.text) .plain, start, stop := p.stop }

/-! ## Quoted scalars -/

/-- What an escape of one letter stands for. -/
def letterEscape? (c : Char) : Option Char :=
  match c with
  | '0' => some '\x00'
  | 'a' => some '\x07'
  | 'b' => some '\x08'
  | 't' | '\t' => some '\t'
  | 'n' => some '\n'
  | 'v' => some '\x0b'
  | 'f' => some '\x0c'
  | 'r' => some '\r'
  | 'e' => some '\x1b'
  | ' ' => some ' '
  | '"' => some '"'
  | '/' => some '/'
  | '\\' => some '\\'
  | 'N' => some '\u0085'
  | '_' => some '\u00a0'
  | 'L' => some '\u2028'
  | 'P' => some '\u2029'
  | _ => none

/-- How many digits an escape by number has. -/
def escapeDigits? (c : Char) : Option Nat :=
  match c with
  | 'x' => some 2
  | 'u' => some 4
  | 'U' => some 8
  | _ => none

def hexNumber? (cs : List Char) : Option Nat :=
  cs.foldl (fun n c => n.bind fun n => (Text.hexValue? c).map fun d => n * 16 + d) (some 0)

/-- An escape, from its backslash on. -/
def escape (start : Mark) : Scan Char := do
  let context := some (Context.quotedEscape, start)
  let c := (← look 1).getD '\x00'
  match letterEscape? c, escapeDigits? c with
  | some d, _ =>
    skip 2
    return d
  | none, none => fail context .unknownEscape
  | none, some n =>
    skip 2
    let digits := (← get).rest.take n
    match hexNumber? digits with
    | none => fail context .noHexNumber
    | some code =>
      if digits.length < n then fail context .noHexNumber
      else if (0xD800 ≤ code ∧ code ≤ 0xDFFF) ∨ 0x10FFFF < code then fail context .escapeCode
      else
        skip n
        return Char.ofNat code

/-- The characters up to a blank, a break or the closing quote, and whether a line break was
escaped at their end. -/
def quotedPiece (single : Bool) (start : Mark) : (steps : Nat) → Scan (List Char × Bool)
  | 0 => return ([], false)
  | steps + 1 => do
    let c ← peek
    let d ← look 1
    if isBlankEnd c then return ([], false)
    else if single && c == some '\'' && d == some '\'' then
      skip 2
      let (cs, broken) ← quotedPiece single start steps
      return ('\'' :: cs, broken)
    else if c == some (if single then '\'' else '"') then return ([], false)
    else if !single && c == some '\\' then
      if (d.map isBreak).getD false then
        skip
        let _ ← takeBreak
        return ([], true)
      else
        let e ← escape start
        let (cs, broken) ← quotedPiece single start steps
        return (e :: cs, broken)
    else
      skip
      let (cs, broken) ← quotedPiece single start steps
      return (c.toList ++ cs, broken)

def quotedFrom (single : Bool) (start : Mark) (text : List Char) :
    (steps : Nat) → Scan (List Char)
  | 0 => return text
  | steps + 1 => do
    if ← isDocumentMarker then fail (some (.quotedScalar, start)) .markerInQuotes
    else if (← peek).isNone then fail (some (.quotedScalar, start)) .endInQuotes
    else
      let (piece, broken) ← quotedPiece single start (← left)
      if (← peek) = some (if single then '\'' else '"') then
        skip
        return text ++ piece
      else
        let g ← gap none { broken }
        quotedFrom single start (text ++ piece ++ g.text) steps

def quotedScalar (single : Bool) : Scan Token := do
  let start ← mark
  skip
  let text ← quotedFrom single start [] ((← left) + 1)
  return { kind := .scalar (String.ofList text) .quoted, start, stop := (← mark) }

/-! ## Blocks -/

/-- What becomes of the line breaks at the end of a block. -/
inductive Chomping
  | strip
  | clip
  | keep
deriving DecidableEq

def chompingMark : Scan (Option Chomping) := do
  match ← peek with
  | some '+' =>
    skip
    return some .keep
  | some '-' =>
    skip
    return some .strip
  | _ => return none

/-- An indentation given by a digit. -/
def indentDigit (start : Mark) : Scan (Option Nat) := do
  match ← peek with
  | some c =>
    if c = '0' then fail (some (.blockScalar, start)) .zeroIndent
    else if c.isDigit then
      skip
      return some (c.toNat - '0'.toNat)
    else return none
  | none => return none

/-- The marks behind a block's indicator, in either order. -/
def blockHeader (start : Mark) : Scan (Chomping × Option Nat) := do
  match ← chompingMark with
  | some c => return (c, ← indentDigit start)
  | none =>
    match ← indentDigit start with
    | some n => return ((← chompingMark).getD .clip, some n)
    | none => return (.clip, none)

/-- Line breaks and indentation before a line of a block. -/
structure Breaks where
  text : List Char := []
  deepest : Nat := 0
  stop : Mark

/-- Takes indentation and empty lines; without a known indentation all spaces belong to it. -/
def breaksFrom (start : Mark) (indent : Option Nat) (b : Breaks) : (steps : Nat) → Scan Breaks
  | 0 => return b
  | steps + 1 => do
    let s ← get
    let spaces := (s.rest.takeWhile (· == ' ')).length
    skip (match indent with
      | none => spaces
      | some n => min spaces (n - s.mark.column))
    let column ← column
    let b' := { b with deepest := max b.deepest column }
    let c ← peek
    if c == some '\t' && (indent.map fun n => decide (column < n)).getD true then
      fail (some (.blockScalar, start)) .tabInIndent
    else if (c.map isBreak).getD false then
      let br ← takeBreak
      breaksFrom start indent { b' with text := b'.text ++ br, stop := (← mark) } steps
    else return b'

def breaks (start : Mark) (indent : Option Nat) : Scan Breaks := do
  breaksFrom start indent { stop := (← mark) } ((← left) + 1)

/-- The lines read so far, the break behind them, and whether the last one is indented further. -/
structure Block where
  text : List Char := []
  pending : List Char := []
  blank : Bool := false
  after : Breaks

/-- What stands between two lines of a block; `blank` tells that one of them is indented further. -/
def lineGap (literal blank : Bool) (pending more : List Char) : List Char :=
  if !literal && !blank && pending.head? == some '\n' then
    (if more.isEmpty then [' '] else []) ++ more
  else pending ++ more

def linesFrom (literal : Bool) (start : Mark) (indent : Nat) (b : Block) :
    (steps : Nat) → Scan Block
  | 0 => return b
  | steps + 1 => do
    let c ← peek
    if (← column) ≠ indent || c.isNone then return b
    else
      let blank := (c.map isBlank).getD false
      let between := lineGap literal (b.blank || blank) b.pending b.after.text
      let line ← takeWhile (! isBreak ·)
      let pending ← takeBreak
      let after ← breaks start (some indent)
      linesFrom literal start indent
        { text := b.text ++ between ++ line, pending, blank, after } steps

/-- A block of lines, after its indicator. -/
def blockScalar (literal : Bool) : Scan Token := do
  let start ← mark
  skip
  let (chomping, increment) ← blockHeader start
  if !(← lineEnd) then fail (some (.blockScalar, start)) .noLineEnd
  else
    let parent := (← get).indent
    let given := increment.map fun n => (max parent 0).toNat + n
    let first ← breaks start given
    let indent := given.getD (max (max first.deepest (parent + 1).toNat) 1)
    let b ← linesFrom literal start indent { after := first } ((← left) + 1)
    let text := match chomping with
      | .strip => b.text
      | .clip => b.text ++ b.pending
      | .keep => b.text ++ b.pending ++ b.after.text
    let style := if literal then Style.literal else Style.folded
    return { kind := .scalar (String.ofList text) style, start, stop := b.after.stop }

end Conformance.Manifest.Yaml
