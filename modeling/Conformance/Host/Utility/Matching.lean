import Conformance.Host.Utility.Expression
import Conformance.Host.Utility.Lines

/-!
# Lines that match

Lines in which an expression is found, and how they are shown together with the lines around them.
-/
namespace Conformance.Host.Utility

/-! ## What is looked for -/

def wholeLine (r : Regex) : Regex :=
  .both .lineStart (.both r .lineEnd)

/-- A match between characters that belong to no word. -/
def standingAlone (r : Regex) : Regex :=
  .both (.between fun a _ => !a.any isWordChar)
    (.both r (.between fun _ b => !b.any isWordChar))

/-- A text with the letters for digits written out. -/
def digitsWritten : Chars → Chars
  | '\\' :: 'd' :: s => txt "[0-9]" ++ digitsWritten s
  | '\\' :: 'D' :: s => txt "[^0-9]" ++ digitsWritten s
  | '\\' :: c :: s => '\\' :: c :: digitsWritten s
  | c :: s => c :: digitsWritten s
  | [] => []

/-- Why there is nothing to look for. -/
inductive SearchFault
  | expression (f : RegexFault)
  | loneClass

def SearchFault.message : SearchFault → String
  | expression f => f.message
  | loneClass => "POSIX named classes are supported only within a class"

/-- How expressions are written. -/
inductive Spelling
  | basic
  | extended
  | literal
  | withLetters
deriving DecidableEq

/-- What is looked for: any of some expressions, one on each line of a text. -/
def sought (p : Parsed) (spelling : Spelling) (patterns : List Chars) :
    Except SearchFault (Option Regex) := do
  let style : RegexStyle :=
    { extended := spelling = .extended || spelling = .withLetters, lenient := true
      classBrackets := true }
  let read (s : Chars) : Except SearchFault Regex :=
    let s := Chars.joined s
    if spelling = .literal then .ok (.literal s)
    else
      match Regex.read style (if spelling = .withLetters then digitsWritten s else s) with
      | .ok r => .ok r
      | .error f =>
        .error (if spelling = .withLetters && f matches .bareClass then .loneClass
          else .expression f)
  let all ← patterns.mapM read
  let folds := (lastOf p (txt "iyW")).any (· != 'W')
  let adjust (r : Regex) : Regex :=
    let r := r.ofLetters
    let r := if folds then r.ignoringCase else r
    if p.has 'x' then wholeLine r else if p.has 'w' then standingAlone r else r
  return match all.map adjust with
    | [] => none
    | r :: rs => some (rs.foldl .either r)

/-! ## Lines -/

/-- Whether an expression is found in a line. -/
def isFoundIn (r : Regex) (line : Chars) : Bool :=
  (r.find? [] (Chars.joined line)).isSome

/-- The parts of a text of letters that match, without empty ones, each with the place of its
bytes. -/
def matchesFrom (r : Regex) : (fuel place : Nat) → (passed rest : Chars) → List (Chars × Nat)
  | 0, _, _, _ => []
  | fuel + 1, place, passed, rest =>
    match r.find? passed rest with
    | none => []
    | some (start, finish) =>
      let before := Chars.spelled (rest.take (rest.length - start.rest.length))
      let here := place + before.length
      if finish.rest.length < start.rest.length then
        let part := Chars.spelled (start.since finish)
        (part, here) :: matchesFrom r fuel (here + part.length) finish.passed finish.rest
      else
        match finish.rest with
        | [] => []
        | c :: more =>
          matchesFrom r fuel (here + (Chars.spelled [c]).length) (c :: finish.passed) more

/-- The parts of a line that match, without empty ones, each with its place. -/
def matchesIn (r : Regex) (place : Nat) (line : Chars) : List (Chars × Nat) :=
  matchesFrom r (line.length + 1) place [] (Chars.joined line)

/-- A line with its number from 1, the place of its first character, and whether it is asked
for. -/
structure SearchedLine where
  text : Chars
  number : Nat
  place : Nat
  isHit : Bool

/-- The lines of a text; after so many that are asked for none is asked for any more. -/
def searchedLines (isHit : Chars → Bool) (most : Option Nat) (number place : Nat) :
    List Chars → List SearchedLine
  | [] => []
  | line :: lines =>
    let hit := most != some 0 && isHit line
    { text := line, number, place, isHit := hit } ::
      searchedLines isHit (if hit then most.map (· - 1) else most) (number + 1)
        (place + line.length + 1) lines

/-- How output is laid out. -/
structure SearchLayout where
  /-- The name before each line, if there is one. -/
  label : Option Chars := none
  numbers : Bool := false
  places : Bool := false
  matchesOnly : Option Regex := none
  /-- How many lines are shown before and after each line that is asked for. -/
  before : Nat := 0
  after : Nat := 0
  /-- The line between lines that are not next to each other. -/
  parting : Option Chars := none
  /-- A NUL stands behind the name. -/
  nulBehindLabel : Bool := false
  /-- The width of numbers, if the texts of lines stand one below the other. -/
  numberWidth : Option Nat := none
  /-- What is painted in lines that are asked for, and in others. -/
  painted : Option Regex := none
  paintedAround : Option Regex := none
  paints : Bool := false

namespace SearchLayout

/-- A text in a color. -/
def paint (o : SearchLayout) (color : String) (s : Chars) : Chars :=
  if o.paints then txt "\x1b[" ++ txt color ++ txt "m\x1b[K" ++ s ++ txt "\x1b[m\x1b[K" else s

/-- The name of an input, and what is behind it. -/
def named (o : SearchLayout) (mark : Char) : Chars :=
  match o.label with
  | none => []
  | some name =>
    o.paint "35" name ++ if o.nulBehindLabel then ['\x00'] else o.paint "36" [mark]

/-- What stands before a line, or before a part of one. -/
def start (o : SearchLayout) (mark : Char) (number place : Nat) (text : Chars) : Chars :=
  let counted (shown : Bool) (n : Nat) : Chars :=
    if shown then
      o.paint "32" (padLeft (o.numberWidth.getD 0) (Chars.ofNat n)) ++ o.paint "36" [mark]
    else []
  let head := o.named mark ++ counted o.numbers number ++ counted o.places place
  let isAligned := o.numberWidth.isSome && !head.isEmpty && !text.isEmpty
  head ++ if isAligned then ['\t'] else []

/-- A text with the parts in a color that match. -/
def paintMatches (o : SearchLayout) (r : Regex) (text : Chars) : Chars :=
  let parts := matchesIn r 0 text
  let (shown, rest, _) := parts.foldl (fun (shown, rest, place) (part, here) =>
    let before := here - place
    (shown ++ rest.take before ++ o.paint "01;31" part, rest.drop (before + part.length),
      here + part.length)) (([] : Chars), text, 0)
  shown ++ rest

/-- What is shown of a line. -/
def line (o : SearchLayout) (l : SearchedLine) : List Chars :=
  let mark := if l.isHit then ':' else '-'
  match o.matchesOnly with
  | none =>
    let text := match if l.isHit then o.painted else o.paintedAround with
      | some r => o.paintMatches r l.text
      | none => l.text
    [o.start mark l.number l.place l.text ++ text]
  | some r =>
    if !l.isHit then []
    else (matchesIn r l.place l.text).map fun (s, place) =>
      o.start mark l.number place s ++ o.paint "01;31" s

/-- Lines with those around them; a line of its own parts what is not next to each other. `waiting`
are lines before, the last first, and `due` more lines are shown. -/
def lines (o : SearchLayout) (gap : Bool) (waiting : List SearchedLine) (due : Nat) :
    List SearchedLine → List Chars
  | [] => []
  | l :: more =>
    if l.isHit then
      let parted := gap && waiting.length > o.before
      (if parted then (o.parting.map (o.paint "36")).toList else []) ++
        (waiting.take o.before).reverse.flatMap o.line ++ o.line l ++ o.lines true [] o.after more
    else if 0 < due then o.line l ++ o.lines gap [] (due - 1) more
    else o.lines gap (l :: waiting) 0 more

end SearchLayout

end Conformance.Host.Utility
