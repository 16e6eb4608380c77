import Conformance.Host.CharClass

/-!
# Regular expressions

The expressions of `grep` and `sed`, in the basic and the extended spelling. Of all matches that
start at a place the longest counts; of those of one length the one in which what stands further
left takes more.
-/
namespace Conformance.Host.Utility

inductive Regex
  | nothing
  | one (c : Char)
  | any
  | set (negated : Bool) (member : Char → Bool)
  /-- Nothing is taken; the characters before and behind are as asked for. -/
  | between (holds : Option Char → Option Char → Bool)
  /-- What the group with this number took, once more, perhaps in letters of another case. -/
  | again (number : Nat) (folds : Bool)
  | group (number : Nat) (body : Regex)
  | both (first second : Regex)
  | either (first second : Regex)
  | many (body : Regex) (least : Nat) (most : Option Nat)

/-! ## Matching -/

/-- How far a match has come in a line. -/
structure Place where
  /-- What was passed, the last character first. -/
  passed : Chars
  rest : Chars
  groups : List (Nat × Chars) := []
deriving DecidableEq

namespace Place

/-- Past one character that is as asked for. -/
def pass (member : Char → Bool) (p : Place) : List Place :=
  match p.rest with
  | c :: rest => if member c then [{ p with passed := c :: p.passed, rest }] else []
  | [] => []

/-- Past so many characters. -/
def skip (n : Nat) (p : Place) : Place :=
  { p with passed := (p.rest.take n).reverse ++ p.passed, rest := p.rest.drop n }

/-- Past a text, if it comes next. -/
def passText (folds : Bool) (s : Chars) (p : Place) : List Place :=
  let seen (t : Chars) : Chars := if folds then t.map Chars.lowered else t
  if seen s = seen (p.rest.take s.length) then [p.skip s.length] else []

/-- What was passed since an earlier place. -/
def since (start p : Place) : Chars :=
  (p.passed.take (p.passed.length - start.passed.length)).reverse

end Place

/-- The places after a number of steps, the largest numbers first. A step that passes nothing is
not done again. -/
def placesAfter (step : Place → List Place) :
    (fuel least : Nat) → (most : Option Nat) → Place → List Place
  | 0, least, _, p => if least = 0 then [p] else []
  | fuel + 1, least, most, p =>
    let further := if most = some 0 then [] else
      ((step p).filter fun q => least != 0 || q.rest.length < p.rest.length).flatMap
        (placesAfter step fuel (least - 1) (most.map (· - 1)))
    (if least = 0 then further ++ [p] else further).eraseDups

/-- The places after a number of characters that are as asked for, the largest numbers first. -/
def placesPast (member : Char → Bool) (least : Nat) (most : Option Nat) (p : Place) : List Place :=
  let run := (p.rest.takeWhile member).length
  let top := (most.map (min run)).getD run
  if top < least then []
  else (List.range (top + 1 - least)).map fun i => p.skip (top - i)

namespace Regex

/-- Whether a character belongs to what an expression takes, if it always takes one character. -/
def member? : Regex → Option (Char → Bool)
  | .one c => some (· == c)
  | .any => some fun _ => true
  | .set negated member => some fun c => member c != negated
  | _ => none

/-- The places where a match from `p` may end, the preferred ones first. -/
def places : Regex → Place → List Place
  | .nothing, p => [p]
  | .one c, p => p.pass (· == c)
  | .any, p => p.pass fun _ => true
  | .set negated member, p => p.pass fun c => member c != negated
  | .between holds, p => if holds p.passed.head? p.rest.head? then [p] else []
  | .again number folds, p =>
    match p.groups.lookup number with
    | some s => p.passText folds s
    | none => []
  | .group number body, p =>
    (body.places p).map fun q => { q with groups := (number, p.since q) :: q.groups }
  | .both first second, p =>
    match first.places p with
    | [q] => second.places q
    | qs => (qs.flatMap second.places).eraseDups
  | .either first second, p => (first.places p ++ second.places p).eraseDups
  | .many body least most, p =>
    match body.member? with
    | some member => placesPast member least most p
    | none => placesAfter body.places (p.rest.length + least) least most p

/-- The end of the longest match from `p`. -/
def longest? (r : Regex) (p : Place) : Option Place :=
  (r.places p).foldl (fun best q =>
    match best with
    | some b => if q.rest.length < b.rest.length then some q else some b
    | none => some q) none

/-- The first match at or after a place: where it starts and where it ends. -/
def find? (r : Regex) (passed : Chars) : (rest : Chars) → Option (Place × Place)
  | [] => (r.longest? ⟨passed, [], []⟩).map (⟨passed, [], []⟩, ·)
  | c :: rest =>
    match r.longest? ⟨passed, c :: rest, []⟩ with
    | some q => some (⟨passed, c :: rest, []⟩, q)
    | none => r.find? (c :: passed) rest

/-! ## Making expressions -/

/-- The expression that takes a text as it is. -/
def literal : Chars → Regex
  | [] => .nothing
  | c :: s => .both (.one c) (literal s)

def lineStart : Regex :=
  .between fun before _ => before.isNone

def lineEnd : Regex :=
  .between fun _ behind => behind.isNone

/-- The place between a character of a word and one that is none, on the sides asked for. -/
def wordEdge (before behind : Bool) : Regex :=
  .between fun a b => (a.any isWordChar) == before && (b.any isWordChar) == behind

/-- Without regard to the case of letters. -/
def ignoringCase : Regex → Regex
  | .one c => .set false fun d => Chars.lowered d == Chars.lowered c
  | .set negated member => .set negated fun c =>
    member c || member (Chars.lowered c) || member (Chars.raised c)
  | .again number _ => .again number true
  | .group number body => .group number body.ignoringCase
  | .both a b => .both a.ignoringCase b.ignoringCase
  | .either a b => .either a.ignoringCase b.ignoringCase
  | .many body least most => .many body.ignoringCase least most
  | r => r

/-- With bytes that take part in no letter left out of what takes any character, or all but some. -/
def ofLetters : Regex → Regex
  | .any => .set true Chars.isStray
  | .set true member => .set true fun c => member c || Chars.isStray c
  | .group number body => .group number body.ofLetters
  | .both a b => .both a.ofLetters b.ofLetters
  | .either a b => .either a.ofLetters b.ofLetters
  | .many body least most => .many body.ofLetters least most
  | r => r

/-- How many groups there are. -/
def groupCount : Regex → Nat
  | .group _ body => body.groupCount + 1
  | .both a b | .either a b => a.groupCount + b.groupCount
  | .many body _ _ => body.groupCount
  | _ => 0

end Regex

/-! ## Reading -/

/-- Why a text is no expression. -/
inductive RegexFault
  | openBracket
  | loneBracket
  | rangeEnd
  | unordered
  | className
  | bareClass
  | openGroup
  | closedGroup
  | openBounds
  | bounds
  | tooBig
  | nothingBefore
  | backReference
  | backslash

def RegexFault.message : RegexFault → String
  | openBracket => "Unmatched [, [^, [:, [., or [="
  | loneBracket => "Invalid regular expression"
  | rangeEnd => "Invalid range end"
  | unordered => "Invalid collation character"
  | className => "Invalid character class name"
  | bareClass => "character class syntax is [[:space:]], not [:space:]"
  | openGroup => "Unmatched ( or \\("
  | closedGroup => "Unmatched ) or \\)"
  | openBounds => "Unmatched \\\x7b"
  | bounds => "Invalid content of \\\x7b\\\x7d"
  | tooBig => "Regular expression too big"
  | nothingBefore => "Invalid preceding regular expression"
  | backReference => "Invalid back reference"
  | backslash => "Trailing backslash"

/-- The rules of a spelling. -/
structure RegexStyle where
  /-- Operators need no backslash. -/
  extended : Bool := false
  /-- What is out of place as an operator stands for itself or is passed over. -/
  lenient : Bool := false
  /-- Letters behind a backslash may stand for characters that cannot be seen. -/
  escapes : Bool := false
  /-- A class without brackets around it is refused. -/
  classBrackets : Bool := false
  /-- Lines inside of the text have a start and an end too. -/
  multiline : Bool := false

inductive RegexMark
  | item (r : Regex)
  | opening
  | closing
  | bar
  | repeated (least : Nat) (most : Option Nat)

/-- The most that bounds may ask for. -/
def maxRepeats : Nat := 32767

/-- The bounds of an interval, before the character that ends it. -/
def bounds? (s : Chars) : Option (Nat × Option Nat) :=
  let low := s.takeWhile Char.isDigit
  let least := if low.isEmpty then some 0 else Chars.nat? low
  match s.drop low.length with
  | [] => if low.isEmpty then none else least.map fun n => (n, some n)
  | [','] => least.map fun n => (n, none)
  | ',' :: high => least.bind fun n => (Chars.nat? high).map fun m => (n, some m)
  | _ => none

/-- The bounds of an interval that repeats something. -/
def usableBounds (s : Chars) : Except RegexFault (Nat × Option Nat) :=
  match bounds? s with
  | none => .error .bounds
  | some (n, most) =>
    if most.any (· < n) then .error .bounds
    else if maxRepeats < n || most.any (maxRepeats < ·) then .error .tooBig
    else .ok (n, most)

/-- The character that a number or a control letter stands for, behind a backslash and a letter,
with the length of all behind the backslash. -/
def numberedChar? (s : Chars) : Option (Char × Nat) :=
  let digits (most : Nat) (s : Chars) (isDigit : Char → Bool) : Chars :=
    (s.take most).takeWhile isDigit
  let value (base : Nat) (ds : Chars) : Nat :=
    ds.foldl (fun n c => base * n + (if c.isDigit then c.toNat - '0'.toNat
      else c.toLower.toNat - 'a'.toNat + 10)) 0
  let make (base : Nat) (ds : Chars) : Option (Char × Nat) :=
    if ds.isEmpty then none else some (Char.ofNat (value base ds % 256), ds.length + 1)
  match s with
  | 'c' :: x :: _ => some (Char.ofNat (x.toUpper.toNat ^^^ 0x40), 2)
  | 'd' :: r => make 10 (digits 3 r Char.isDigit)
  | 'o' :: r => make 8 (digits 3 r fun c => '0' ≤ c && c ≤ '7')
  | 'x' :: r => make 16 (digits 2 r fun c => c.isDigit || "abcdefABCDEF".toList.contains c)
  | _ => none

/-- One member of a list in brackets and what follows it, if it is no class. -/
def listMember (st : RegexStyle) : Chars → Option (Char × Chars)
  | '[' :: '.' :: c :: '.' :: ']' :: s | '[' :: '=' :: c :: '=' :: ']' :: s => some (c, s)
  | '\\' :: c :: s =>
    match if st.escapes then escapedChar? c else none with
    | some d => some (d, s)
    | none => some ('\\', c :: s)
  | c :: s => some (c, s)
  | [] => none

/-- Whether a character belongs to a list in brackets, and what follows the list. A bracket that
comes first is a member. Letters beyond ASCII have no order, so no range begins or ends with
one. -/
def listMembers (st : RegexStyle) :
    (fuel : Nat) → (first : Bool) → Chars → Except RegexFault ((Char → Bool) × Chars)
  | 0, _, _ | _, _, [] => .error .openBracket
  | fuel + 1, first, c :: s => do
    if c = ']' && !first then return (fun _ => false, s)
    if c = '[' && s.head? = some ':' then
      let name := (s.drop 1).takeWhile fun d => d != ':' && d != ']'
      match s.drop (name.length + 1) with
      | ':' :: ']' :: rest =>
        match classMembers name with
        | none => throw .className
        | some member =>
          if rest.head? = some '-' && rest[1]?.any (· != ']') then throw .rangeEnd
          let (others, rest) ← listMembers st fuel false rest
          return (fun d => member d || others d, rest)
      | _ => throw .openBracket
    match listMember st (c :: s) with
    | none => throw .openBracket
    | some (a, '-' :: b :: rest) =>
      if b = ']' then
        let (others, rest) ← listMembers st fuel false ('-' :: b :: rest)
        return (fun d => a == d || others d, rest)
      match listMember st (b :: rest) with
      | none => throw .openBracket
      | some (b, rest) =>
        if 0x100 ≤ a.toNat || 0x100 ≤ b.toNat then throw .unordered
        if b < a then throw .rangeEnd
        if rest.head? = some '-' && rest[1]?.any (· != ']') then throw .rangeEnd
        let (others, rest) ← listMembers st fuel false rest
        return (fun d => (a ≤ d && d ≤ b) || others d, rest)
    | some (a, rest) =>
      let (others, rest) ← listMembers st fuel false rest
      return (fun d => a == d || others d, rest)

/-- Whether the members of a list look like a class: they stand between colons, and are neither
ranges nor classes. -/
def looksLikeClass (members : Chars) : Bool :=
  members.head? = some ':' && members.getLast? = some ':' && members.any (· != ':') &&
    !members.contains '[' && !(members.drop 1).dropLast.contains '-'

/-- The list in brackets at the start of a text, after the first bracket. -/
def bracketList (st : RegexStyle) (s : Chars) : Except RegexFault (Regex × Chars) := do
  let negated := s.head? = some '^'
  let s' := if negated then s.drop 1 else s
  if s'.isEmpty then throw .loneBracket
  let (member, rest) ← listMembers st (s'.length + 1) true s'
  if st.classBrackets && looksLikeClass (s'.take (s'.length - rest.length - 1)) then
    throw .bareClass
  return (.set negated member, rest)

/-- What a letter behind a backslash asks for in both spellings. -/
def backslashItem? (st : RegexStyle) (c : Char) (s : Chars) : Option (Regex × Chars) :=
  match c with
  | 'w' | 'W' => some (.set (c == 'W') isWordChar, s)
  | 's' | 'S' => some (.set (c == 'S') isSpace, s)
  | '<' => some (.wordEdge false true, s)
  | '>' => some (.wordEdge true false, s)
  | 'b' => some (.either (.wordEdge false true) (.wordEdge true false), s)
  | 'B' => some (.either (.wordEdge true true) (.wordEdge false false), s)
  | '\x60' => some (.lineStart, s)
  | '\'' => some (.lineEnd, s)
  | _ =>
    if '1' ≤ c && c ≤ '9' then some (.again (c.toNat - '0'.toNat) false, s)
    else if st.escapes then
      match escapedChar? c, numberedChar? (c :: s) with
      | some d, _ => some (.one d, s)
      | none, some (d, n) => some (.one d, (c :: s).drop n)
      | none, none => none
    else none

/-- The start or the end of a line, in a text that may have several. -/
def lineEdge (st : RegexStyle) (start : Bool) : Regex :=
  if !st.multiline then (if start then .lineStart else .lineEnd)
  else .between fun a b => let c := if start then a else b; c.isNone || c == some '\n'

/-- The marks of an expression. `start` tells that nothing stands before them in their branch. -/
def marks (st : RegexStyle) :
    (fuel : Nat) → (start : Bool) → Chars → Except RegexFault (List RegexMark)
  | 0, _, _ | _, _, [] => .ok []
  | fuel + 1, start, '\\' :: c :: s =>
    let mark (m : RegexMark) (start : Bool) := (marks st fuel start s).map (m :: ·)
    let plain := (marks st fuel false s).map (.item (.one c) :: ·)
    match backslashItem? st c s with
    | some (r, rest) => (marks st fuel false rest).map (.item r :: ·)
    | none =>
      if st.extended then plain
      else
        match c with
        | '(' => mark .opening true
        | ')' => mark .closing false
        | '|' => mark .bar true
        | '+' => if start then plain else mark (.repeated 1 none) false
        | '?' => if start then plain else mark (.repeated 0 (some 1)) false
        | '\x7b' => do
          if start then throw .nothingBefore
          let inside := s.takeWhile (· != '\\')
          match s.drop inside.length with
          | '\\' :: '\x7d' :: rest =>
            let (n, m) ← usableBounds inside
            return .repeated n m :: (← marks st fuel false rest)
          | [] => throw .openBounds
          | _ => throw .bounds
        | _ => plain
  | _ + 1, _, ['\\'] => .error .backslash
  | fuel + 1, start, c :: s =>
    let item (r : Regex) := (marks st fuel false s).map (.item r :: ·)
    let mark (m : RegexMark) (start : Bool) := (marks st fuel start s).map (m :: ·)
    let repeated (least : Nat) (most : Option Nat) (rest : Chars) :=
      if !start then (marks st fuel false rest).map (.repeated least most :: ·)
      else if st.lenient then marks st fuel true rest
      else .error .nothingBefore
    match c with
    | '.' => item .any
    | '[' => do
      let (r, rest) ← bracketList st s
      return .item r :: (← marks st fuel false rest)
    | '^' =>
      let edge := RegexMark.item (lineEdge st true)
      if st.extended then (marks st fuel true s).map (edge :: ·)
      else if !start then item (.one c)
      else
        match s with
        | '^' :: s => (marks st fuel false s).map fun ms => edge :: .item (.one '^') :: ms
        | s => (marks st fuel true s).map (edge :: ·)
    | '$' =>
      let closes := s.isEmpty || (txt "\\)").isPrefixOf s || (txt "\\|").isPrefixOf s
      if closes || st.extended then item (lineEdge st false) else item (.one c)
    | '*' =>
      if start && !st.extended then item (.one c) else repeated 0 none s
    | _ =>
      if !st.extended then item (.one c)
      else
        match c with
        | '(' => mark .opening true
        | ')' => mark .closing false
        | '|' => mark .bar true
        | '+' => repeated 1 none s
        | '?' => repeated 0 (some 1) s
        | '\x7b' =>
          let inside := s.takeWhile (· != '\x7d')
          let rest := s.drop (inside.length + 1)
          if inside.length = s.length then
            if st.lenient then item (.one c) else .error .openBounds
          else if st.lenient && (bounds? inside).isNone then item (.one c)
          else do
            let (n, m) ← usableBounds inside
            repeated n m rest
        | _ => item (.one c)

/-- A group that is being read: the branches before, and the items of the last one in reverse. -/
structure OpenGroup where
  number : Nat := 0
  branches : Option Regex := none
  items : List Regex := []

namespace OpenGroup

def branch (g : OpenGroup) : Regex :=
  match g.items with
  | [] => .nothing
  | r :: rs => rs.foldl (fun after r => .both r after) r

def regex (g : OpenGroup) : Regex :=
  match g.branches with
  | none => g.branch
  | some r => .either r g.branch

end OpenGroup

/-- Groups that are being read, the innermost first, and the numbers of those that were read. -/
structure OpenGroups where
  inner : OpenGroup := {}
  outer : List OpenGroup := []
  closed : List Nat := []
  count : Nat := 0

/-- The groups with one more item. -/
def OpenGroups.add (g : OpenGroups) (r : Regex) : OpenGroups :=
  { g with inner := { g.inner with items := r :: g.inner.items } }

/-- The expression that marks make, inside of some open groups. -/
def build (lenient : Bool) (g : OpenGroups) : List RegexMark → Except RegexFault Regex
  | [] => if g.outer.isEmpty then .ok g.inner.regex else .error .openGroup
  | .item r :: ms =>
    match r with
    | .again n _ =>
      if g.closed.contains n then build lenient (g.add r) ms else .error .backReference
    | r => build lenient (g.add r) ms
  | .opening :: ms =>
    build lenient
      { g with
        inner := { number := g.count + 1 }
        outer := g.inner :: g.outer
        count := g.count + 1 } ms
  | .closing :: ms =>
    match g.outer with
    | [] => if lenient then build lenient (g.add (.one ')')) ms else .error .closedGroup
    | o :: outer =>
      let n := g.inner.number
      build lenient
        { g with
          inner := { o with items := .group n g.inner.regex :: o.items }
          outer
          closed := n :: g.closed } ms
  | .bar :: ms =>
    build lenient
      { g with inner := { g.inner with branches := some g.inner.regex, items := [] } } ms
  | .repeated least most :: ms =>
    match g.inner.items with
    | [] => .error .nothingBefore
    | r :: rs =>
      build lenient { g with inner := { g.inner with items := .many r least most :: rs } } ms

/-- The expression that a text writes. -/
def Regex.read (st : RegexStyle) (s : Chars) : Except RegexFault Regex := do
  build (st.lenient && st.extended) {} (← marks st (s.length + 1) true s)

end Conformance.Host.Utility
