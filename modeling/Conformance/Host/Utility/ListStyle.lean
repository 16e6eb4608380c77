import Conformance.Host.Attributes
import Conformance.Host.Utility.Status

/-!
# Names in lists

A list shows names on lines, in columns or in rows, and as asked for what is known of each file.
-/
namespace Conformance.Host.Utility

/-- A name in a list, with what stands there. -/
structure Listed where
  name : Chars
  path : Chars
  attributes : Attributes

/-! ## Names -/

/-- How the names of a list are arranged. -/
inductive Arrangement
  | lines
  | down
  | across
  | commas
  | long
deriving DecidableEq

/-- How a name is written. -/
inductive NameStyle
  | literal
  | masked
  | escaped
  | quoted
  | quotedIfNeeded
  | cited
  | shell
  | shellAlways
deriving DecidableEq

/-- The units in which sizes are told. -/
inductive Units
  /-- One unit for all sizes, and what stands behind their numbers. -/
  | every (bytes : Nat) (mark : Chars)
  /-- For each size a power of this number. -/
  | powers (base : Nat)

namespace Units

/-- A size in the largest unit of which there is one, rounded up. -/
def largest (base n : Nat) : Chars :=
  let rec go : (letters : List Char) → (unit : Nat) → Chars
    | [], _ => Chars.ofNat n
    | letter :: more, unit =>
      let tenths := (10 * n + unit - 1) / unit
      let whole := (n + unit - 1) / unit
      if tenths < 100 then
        Chars.ofNat (tenths / 10) ++ '.' :: Chars.ofNat (tenths % 10) ++ [letter]
      else if whole < base || more.isEmpty then Chars.ofNat whole ++ [letter]
      else go more (unit * base)
  if n < base then Chars.ofNat n
  else go [if base = 1000 then 'k' else 'K', 'M', 'G', 'T', 'P'] base

def shown (u : Units) (n : Nat) : Chars :=
  match u with
  | .every bytes mark => Chars.ofNat ((n + bytes - 1) / max 1 bytes) ++ mark
  | .powers base => largest base n

/-- The units that a text asks for: so many bytes, or a letter for a power. -/
def read? (s : Chars) : Option Units :=
  if s = txt "human-readable" then some (.powers 1024)
  else if s = txt "si" then some (.powers 1000)
  else
    let digits := s.takeWhile Char.isDigit
    let mark := s.drop digits.length
    let factor? := match mark with
      | [] => if digits.isEmpty then none else some 1
      | [c] | [c, 'i', 'B'] => power? 1024 c
      | [c, 'B'] => power? 1000 c
      | _ => none
    match factor? with
    | none => none
    | some factor =>
      if digits.isEmpty then some (.every factor mark)
      else
        let bytes := Chars.natOfDigits digits * factor
        if bytes = 0 then none else some (.every bytes [])
where
  power? (base : Nat) (c : Char) : Option Nat :=
    match c with
    | 'K' | 'k' => some base
    | 'M' => some (Nat.pow base 2)
    | 'G' => some (Nat.pow base 3)
    | 'T' => some (Nat.pow base 4)
    | 'P' => some (Nat.pow base 5)
    | _ => none

end Units

/-- How a list is shown. -/
structure ListStyle where
  arrangement : Arrangement
  names : NameStyle
  /-- The most columns of a row, if there is a limit. -/
  width : Option Nat
  /-- The columns between two tabs; zero if there are none. -/
  tabs : Nat
  ending : Char
  showsSize : Bool
  showsNumber : Bool
  /-- What ends a name that tells its kind. -/
  marks : List Char
  hasOwner : Bool
  hasGroup : Bool
  hasAuthor : Bool
  numeric : Bool
  sizeUnits : Units
  blockUnits : Units
  /-- The formats of dates: of those long ago, and of others. -/
  dates : Chars × Chars

namespace ListStyle

/-- The letters of a name that cannot be shown, each as an escape. -/
def escapedName (special : Char → Bool) (s : Chars) : Chars :=
  (Chars.letters s).flatMap fun l =>
    match l.bytes with
    | ['\n'] => txt "\\n"
    | ['\t'] => txt "\\t"
    | ['\r'] => txt "\\r"
    | ['\x08'] => txt "\\b"
    | ['\x07'] => txt "\\a"
    | ['\x0b'] => txt "\\v"
    | ['\x0c'] => txt "\\f"
    | bytes =>
      if bytes.any special then '\\' :: bytes
      else if l.isShown then bytes
      else bytes.flatMap octalEscape

def inQuotes (s : Chars) : Chars :=
  '"' :: escapedName (fun c => c == '"' || c == '\\') s ++ ['"']

def name (l : ListStyle) (s : Chars) : Chars :=
  match l.names with
  | .literal => s
  | .masked => (Chars.letters s).flatMap fun l => if l.isShown then l.bytes else ['?']
  | .escaped => escapedName (fun c => c == ' ' || c == '\\') s
  | .quoted => inQuotes s
  | .quotedIfNeeded =>
    let shown := inQuotes s
    if shown.length = s.length + 2 then s else shown
  | .cited => Host.cited s
  | .shell => quotedIfNeeded s
  | .shellAlways => Host.quoted s

/-- The mark behind a name that tells what it is. -/
def mark (l : ListStyle) (a : Attributes) : Chars :=
  let c? := match a.node with
    | .folder => some '/'
    | .link _ => some '@'
    | .file _ _ | .program _ => if a.mayRun then some '*' else none
    | .device _ => none
  (c?.filter l.marks.contains).toList

/-- How many bytes the blocks of a file have. -/
def bytesOfBlocks (a : Attributes) : Nat :=
  512 * (if a.node = .folder then 8 else blocksOfSize a)

def blocks (l : ListStyle) (a : Attributes) : Chars :=
  l.blockUnits.shown (bytesOfBlocks a)

/-- The size of a file, or the two numbers of a device. -/
def size (l : ListStyle) (a : Attributes) : Chars :=
  match a.node with
  | .device name => txt (match name with
    | "null" => "1, 3"
    | "zero" => "1, 5"
    | "full" => "1, 7"
    | "tty" => "5, 0"
    | _ => "1, 9")
  | _ => l.sizeUnits.shown a.size

/-- A date; one that is not of the last half of a year has another format. -/
def date (l : ListStyle) (now d : Date) : Chars :=
  let recent := now - 15778476000000000 < d && d ≤ now
  d.shown (if recent then l.dates.2 else l.dates.1)

end ListStyle

/-! ## Arranged names -/

/-- The widths of some columns in which items are put one below the other, or one behind the other
if `across` is set; the last column is as wide as its items. -/
def columnWidths (across : Bool) (widths : List Nat) (columns : Nat) : List Nat :=
  let rows := (widths.length + columns - 1) / columns
  let place (i : Nat) : Nat := if across then i % columns else i / rows
  (List.range columns).map fun k =>
    let inColumn := (widths.zipIdx.filter fun (_, i) => place i = k).map (·.1)
    let gap := if k + 1 = columns then 0 else 2
    inColumn.foldl max 1 + gap

/-- As many columns as fit in a width. -/
def fittingColumns (across : Bool) (width : Nat) (widths : List Nat) : List Nat :=
  let most := min (max 1 (width / 3)) widths.length
  let fitting := (List.range most).reverse.find? fun k =>
    (columnWidths across widths (k + 1)).foldl (· + ·) 0 < width
  columnWidths across widths (fitting.getD 0 + 1)

/-- Tabs and blanks from one column to another. -/
def gapBetween (tabs : Nat) : (fuel : Nat) → (column next : Nat) → Chars
  | 0, _, _ => []
  | fuel + 1, column, next =>
    if next ≤ column then []
    else if tabs ≠ 0 && (column + 1) / tabs < next / tabs then
      '\t' :: gapBetween tabs fuel (column + tabs - column % tabs) next
    else ' ' :: gapBetween tabs fuel (column + 1) next

/-- A row of items, each in its column, from one column on. -/
def rowOf (tabs : Nat) : (start : Nat) → List (Chars × Nat) → Chars
  | _, [] => []
  | _, [(s, _)] => s
  | start, (s, width) :: more =>
    let column := start + Chars.columns s
    s ++ gapBetween tabs (width + 1) column (start + width) ++ rowOf tabs (start + width) more

/-- Items in columns. -/
def inColumns (l : ListStyle) (width : Nat) (items : List Chars) : Chars :=
  let across := l.arrangement = .across
  let widths := fittingColumns across width (items.map Chars.columns)
  let columns := widths.length
  let rows := (items.length + columns - 1) / max 1 columns
  let row (r : Nat) : List Chars :=
    (List.range columns).filterMap fun k => items[if across then r * columns + k else k * rows + r]?
  (List.range rows).flatMap fun r => rowOf l.tabs 0 ((row r).zip widths) ++ [l.ending]

/-- Names behind each other in rows; `column` is how far the row has come. -/
def inRows (width column : Nat) : List Chars → Chars
  | [] => []
  | [name] => name
  | name :: next :: more =>
    let column := column + Chars.columns name + 2
    if width = 0 || column + Chars.columns next < width then
      name ++ txt ", " ++ inRows width column (next :: more)
    else name ++ txt ",\n" ++ inRows width 0 (next :: more)

/-- Columns of texts, each as wide as its widest, to the right or to the left. -/
def alignedColumns (rows : List (List (Bool × Chars))) : List Chars :=
  let count := (rows.map List.length).foldl max 0
  let widths := (List.range count).map fun i =>
    (rows.map fun r => ((r[i]?).map (·.2.length)).getD 0).foldl max 0
  rows.map fun r =>
    Chars.join [' '] ((r.zip widths).map fun ((right, s), width) =>
      if right then padLeft width s else s ++ List.replicate (width - s.length) ' ')

/-- What is known of each file of a list, in columns. -/
def longLines (l : ListStyle) (v : FileView) (now : Date) (items : List Listed) : List Chars :=
  let who (s : String) : List (Bool × Chars) :=
    [(l.numeric, txt (if l.numeric then "0" else s))]
  let row (i : Listed) : List (Bool × Chars) :=
    let a := i.attributes
    (if l.showsNumber then [(true, Chars.ofNat (a.number v))] else []) ++
      (if l.showsSize then [(true, l.blocks a)] else []) ++
      [(false, a.modeLetters), (true, Chars.ofNat a.names)] ++
      (if l.hasOwner then who "root" else []) ++ (if l.hasGroup then who "root" else []) ++
      (if l.hasAuthor then who "root" else []) ++
      [(true, l.size a), (false, l.date now a.date)]
  let shownName (i : Listed) : Chars :=
    match i.attributes.node with
    | .link target =>
      let node := (v.attributes? .target (Chars.toPath i.path)).toOption
      l.name i.name ++ txt " -> " ++ l.name (Chars.ofText target.text) ++
        ((node.map l.mark).getD [])
    | _ => l.name i.name ++ l.mark i.attributes
  ((alignedColumns (items.map row)).zip items).map fun (s, i) => s ++ ' ' :: shownName i

/-- The text of a list of names. -/
def listing (l : ListStyle) (v : FileView) (now : Date) (items : List Listed) : Chars :=
  if items.isEmpty then []
  else if l.arrangement = .long then
    (longLines l v now items).flatMap (· ++ [l.ending])
  else
    let before := alignedColumns (items.map fun i =>
      (if l.showsNumber then [(true, Chars.ofNat (i.attributes.number v))] else []) ++
        (if l.showsSize then [(true, l.blocks i.attributes)] else []))
    let names := (before.zip items).map fun (s, i) =>
      (if s.isEmpty then [] else s ++ [' ']) ++ l.name i.name ++ l.mark i.attributes
    match l.arrangement with
    | .commas => inRows (l.width.getD 0) 0 names ++ [l.ending]
    | .down | .across =>
      match l.width with
      | some width => inColumns l width names
      | none => Chars.join (txt "  ") names ++ [l.ending]
    | .lines | .long => names.flatMap (· ++ [l.ending])

end Conformance.Host.Utility
