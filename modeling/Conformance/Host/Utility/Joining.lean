import Conformance.Host.Utility.Lines

/-!
# Lines joined by a field

`join` puts the lines of two inputs together that agree in a field. Both inputs are expected in the
order of that field, so that each is gone through once.
-/
namespace Conformance.Host.Utility

/-! ## What is asked for -/

/-- A field that is shown: the common one, or one of a side. -/
inductive ShownField
  | common
  | ofSide (second : Bool) (index : Nat)

/-- When it is told that lines are out of order. -/
inductive Vigilance
  | ifUnpaired
  | always
  | never
deriving DecidableEq

/-- One for each of the two sides. -/
structure Sides (α : Type) where
  first : α
  second : α

namespace Sides

def get {α : Type} (s : Sides α) (second : Bool) : α :=
  if second then s.second else s.first

def set {α : Type} (s : Sides α) (second : Bool) (a : α) : Sides α :=
  if second then { s with second := a } else { s with first := a }

end Sides

structure Joining where
  /-- The fields by which lines are joined, counted from zero. -/
  keys : Sides (Option Nat) := ⟨none, none⟩
  /-- Whether lines without a partner are shown. -/
  unpaired : Sides Bool := ⟨false, false⟩
  /-- Whether lines with a partner are shown. -/
  paired : Bool := true
  /-- What is shown for a field that is empty or missing. -/
  filler : Option Chars := none
  folds : Bool := false
  shown : List ShownField := []
  /-- Every line is shown with as many fields as the first one has. -/
  even : Bool := false
  /-- What parts fields; a newline if the whole line is one. -/
  mark : Option Char := none
  order : Vigilance := .ifUnpaired
  headed : Bool := false
  byNul : Bool := false

namespace Joining

def key (j : Joining) (second : Bool) : Nat :=
  ((j.keys.get second).getD 0)

/-! ## Options -/

/-- A field by its number, counted from zero. -/
def fieldIndex (s : Chars) : Except Chars Nat :=
  match Chars.nat? (s.dropWhile fun c => c == ' ' || c == '+') with
  | some (n + 1) => .ok n
  | _ => .error (txt "invalid field number: " ++ cited s)

/-- A field that is to be shown. -/
def fieldSpec (s : Chars) : Except Chars ShownField :=
  match s with
  | ['0'] => .ok .common
  | '1' :: '.' :: n => (fieldIndex n).map (.ofSide false)
  | '2' :: '.' :: n => (fieldIndex n).map (.ofSide true)
  | c :: _ =>
    if "012".toList.contains c then .error (txt "invalid field specifier: " ++ cited s)
    else .error (txt "invalid file number in field spec: " ++ cited s)
  | [] => .error (txt "invalid file number in field spec: " ++ cited s)

/-- The fields of a list. -/
def fieldList (s : Chars) : Except Chars (List ShownField) :=
  (Text.splitOn (fun c => c == ',' || isBlank c) s).mapM fieldSpec

/-- Which of the inputs a number names. -/
def side (s : Chars) : Except Chars Bool :=
  match Chars.nat? s with
  | some 1 => .ok false
  | some 2 => .ok true
  | _ => .error (txt "invalid field number: " ++ cited s)

/-- With a field to join by, which must not be another than before. -/
def withKey (j : Joining) (second : Bool) (n : Nat) : Except Chars Joining :=
  match j.keys.get second with
  | some m =>
    if m = n then .ok j
    else .error (txt "incompatible join fields " ++ Chars.ofNat m ++ txt ", " ++ Chars.ofNat n)
  | none => .ok { j with keys := j.keys.set second (some n) }

/-- With what parts fields. -/
def withMark (j : Joining) (s : Chars) : Except Chars Joining := do
  let c ← match s with
    | [] => pure '\n'
    | [c] => pure c
    | ['\\', '0'] => pure '\x00'
    | _ => throw (txt "multi-character tab " ++ cited s)
  if j.mark.any (· != c) then throw (txt "incompatible tabs")
  return { j with mark := some c }

/-- With what an option asks for. -/
def withOption (j : Joining) (letter : Char) (value : Chars) : Except Chars Joining := do
  match letter with
  | 'a' => return { j with unpaired := j.unpaired.set (← side value) true }
  | 'v' => return { j with unpaired := j.unpaired.set (← side value) true, paired := false }
  | 'e' =>
    if j.filler.any (· != value) then throw (txt "conflicting empty-field replacement strings")
    return { j with filler := some value }
  | 'i' => return { j with folds := true }
  | '1' => j.withKey false (← fieldIndex value)
  | '2' => j.withKey true (← fieldIndex value)
  | 'j' =>
    let n ← fieldIndex value
    (← j.withKey false n).withKey true n
  | 'o' =>
    if value = txt "auto" then return { j with even := true }
    return { j with shown := j.shown ++ (← fieldList value) }
  | 't' => j.withMark value
  | 'z' => return { j with byNul := true }
  | 'C' => return { j with order := .always }
  | 'N' => return { j with order := .never }
  | _ => return { j with headed := true }

def options : OptionTable where
  letters := txt "izCNH"
  valued := txt "aev12jot"
  long := [(txt "ignore-case", 'i'), (txt "zero-terminated", 'z'), (txt "check-order", 'C'),
    (txt "nocheck-order", 'N'), (txt "header", 'H')]

/-- Takes arguments in their order. Behind a list of fields may follow more of them, as long as
there are two names left; `lists` tells which of the names so far may be such lists. -/
def ofArguments (j : Joining) (names : List (Chars × Bool)) (mayBeList : Bool) :
    List Argument → Except (Chars × Bool) (Joining × List Chars)
  | [] => .ok (j, names.map (·.1))
  | .option c value :: more =>
    match j.withOption c value with
    | .ok j => j.ofArguments names (c == 'o' && value != txt "auto") more
    | .error e => .error (e, false)
  | .operand s :: more =>
    match names with
    | [a, b] =>
      match if a.2 then some (a, b) else if b.2 then some (b, a) else none with
      | none => .error (txt "extra operand " ++ quoted s, true)
      | some (list, name) =>
        match fieldList list.1 with
        | .ok fields =>
          { j with shown := j.shown ++ fields }.ofArguments [name, (s, mayBeList)] mayBeList more
        | .error e => .error (e, false)
    | _ => j.ofArguments (names ++ [(s, mayBeList)]) mayBeList more

/-! ## Lines -/

/-- Fields between blanks; blanks at the end of a line begin one more. -/
def blankFields : (fuel : Nat) → Chars → List Chars
  | 0, _ => []
  | fuel + 1, s =>
    let field := s.takeWhile (! isFieldBlank ·)
    match s.drop field.length with
    | [] => [field]
    | rest => field :: blankFields fuel (rest.dropWhile isFieldBlank)

/-- The fields of a line. -/
def fieldsOf (j : Joining) (line : Chars) : List Chars :=
  if line.isEmpty then []
  else
    match j.mark with
    | some '\n' => [line]
    | some c => Text.splitOn (· == c) line
    | none =>
      let s := line.dropWhile isFieldBlank
      if s.isEmpty then [] else blankFields (s.length + 1) s

/-- A line with its number and its fields. -/
structure Row where
  number : Nat
  line : Chars
  fields : List Chars

/-- The rows of a text. -/
def rowsOf (j : Joining) (text : Chars) : List Row :=
  (recordsOf j.byNul text).zipIdx.map fun (line, i) => ⟨i + 1, line, j.fieldsOf line⟩

/-- How two lines stand to each other by the fields that join them. -/
def compare (j : Joining) (a b : Row) (ka kb : Nat) : Ordering :=
  let seen (s : Chars) : Chars := if j.folds then s.map Char.toUpper else s
  Ord.compare (seen (a.fields[ka]?.getD [])) (seen (b.fields[kb]?.getD []))

def separator (j : Joining) : Char :=
  j.mark.getD ' '

/-- What is shown for a field. -/
def shownField (j : Joining) (fields : List Chars) (n : Nat) : Chars :=
  match fields[n]? with
  | none | some [] => j.filler.getD []
  | some s => s

/-- What is shown of two lines, one of which may be missing; `widths` are the numbers of fields of
the first lines. -/
def shownPair (j : Joining) (widths : Sides Nat) (a b : Option Row) : Chars :=
  let fields (r : Option Row) : List Chars := (r.map (·.fields)).getD []
  let common : Chars :=
    if a.isSome then j.shownField (fields a) (j.key false)
    else j.shownField (fields b) (j.key true)
  let others (second : Bool) (r : Option Row) : List Chars :=
    let count := if j.even then widths.get second else (fields r).length
    ((List.range count).filter (· != j.key second)).map (j.shownField (fields r))
  let items :=
    if j.shown.isEmpty then common :: others false a ++ others true b
    else j.shown.map fun
      | .common => common
      | .ofSide second n => j.shownField (fields (if second then b else a)) n
  Chars.join [j.separator] items ++ [if j.byNul then '\x00' else '\n']

/-! ## Going through both -/

/-- How far both inputs were gone through. -/
structure Place where
  /-- The lines that were read last. -/
  before : Sides (Option Row) := ⟨none, none⟩
  rest : Sides (List Row)
  /-- What was told of to be out of order. -/
  told : Sides Bool := ⟨false, false⟩
  /-- A line without a partner was seen. -/
  seen : Bool := false

/-- Reads the next line of an input, and tells if it is out of order. -/
def read (j : Joining) (names : Sides Chars) (second : Bool) (p : Place) : Act Place := do
  match p.rest.get second with
  | [] => return p
  | row :: more =>
    let p' := { p with
      rest := p.rest.set second more
      before := p.before.set second (some row) }
    let checked := j.order = .always || (j.order = .ifUnpaired && p.seen)
    match p.before.get second with
    | none => return p'
    | some old =>
      let k := j.key second
      if checked && !p.told.get second && j.compare old row k k == .gt then
        problem (names.get second ++ ':' :: Chars.ofNat row.number ++ txt ": is not sorted: " ++
          row.line)
        if j.order = .always then exitWith (.code 1)
        return { p' with told := p.told.set second true }
      return p'

/-- Reads the lines of an input that go on with the key of `row`; gives them, the next line if
there is one, and the place then. -/
def readGroup (j : Joining) (names : Sides Chars) (second : Bool) (row : Row) :
    (fuel : Nat) → Place → Act (List Row × Option Row × Place)
  | 0, p => return ([], none, p)
  | fuel + 1, p => do
    match p.rest.get second with
    | [] => return ([], none, p)
    | next :: _ =>
      let p ← j.read names second p
      let order := if second then j.compare row next (j.key false) (j.key true)
        else j.compare next row (j.key false) (j.key true)
      if order != .eq then return ([], some next, p)
      let (group, after, p) ← readGroup j names second row fuel p
      return (next :: group, after, p)

/-- Reads an input to its end: its lines are shown, or only looked at. -/
def readTail (j : Joining) (names : Sides Chars) (second : Bool) (show_ : Row → Chars) :
    (fuel : Nat) → Place → Act Place
  | 0, p => return p
  | fuel + 1, p => do
    match p.rest.get second with
    | [] => return p
    | row :: _ =>
      let p ← j.read names second p
      if j.unpaired.get second then emit (show_ row)
      else if p.told.get second then return p
      readTail j names second show_ fuel p

/-- Goes through both inputs, from the lines that were read of each; gives what is left. -/
def merge (j : Joining) (names : Sides Chars) (widths : Sides Nat) :
    (fuel : Nat) → Option Row → Option Row → Place → Act (Option Row × Option Row × Place)
  | 0, a, b, p => return (a, b, p)
  | fuel + 1, some a, some b, p => do
    match j.compare a b (j.key false) (j.key true) with
    | .lt =>
      if j.unpaired.first then emit (j.shownPair widths (some a) none)
      let next := p.rest.first.head?
      let p ← j.read names false p
      merge j names widths fuel next (some b) { p with seen := true }
    | .gt =>
      if j.unpaired.second then emit (j.shownPair widths none (some b))
      let next := p.rest.second.head?
      let p ← j.read names true p
      merge j names widths fuel (some a) next { p with seen := true }
    | .eq =>
      let (as, a', p) ← j.readGroup names false b (p.rest.first.length + 1) p
      let (bs, b', p) ← j.readGroup names true a (p.rest.second.length + 1) p
      if j.paired then
        emit ((a :: as).flatMap fun x => (b :: bs).flatMap fun y =>
          j.shownPair widths (some x) (some y))
      merge j names widths fuel a' b' p
  | _ + 1, a, b, p => return (a, b, p)

/-- Shows and checks what is left of both inputs. -/
def finish (j : Joining) (names : Sides Chars) (widths : Sides Nat) (a b : Option Row)
    (p : Place) : Act Place := do
  let checks := j.order != .never && !(p.told.first && p.told.second)
  let showFirst (row : Row) : Chars := j.shownPair widths (some row) none
  let showSecond (row : Row) : Chars := j.shownPair widths none (some row)
  let p ← match a with
    | none => pure p
    | some row =>
      if j.unpaired.first then emit (showFirst row)
      let p := { p with seen := p.seen || b.isSome }
      if j.unpaired.first || checks then
        j.readTail names false showFirst (p.rest.first.length + 1) p
      else pure p
  match b with
  | none => return p
  | some row =>
    if j.unpaired.second then emit (showSecond row)
    let p := { p with seen := p.seen || a.isSome }
    if j.unpaired.second || checks then
      j.readTail names true showSecond (p.rest.second.length + 1) p
    else return p

/-- Joins the rows of two inputs. -/
def run (j : Joining) (names : Sides Chars) (rows : Sides (List Row)) : Program := do
  let width (rs : List Row) : Nat := ((rs.head?.map (·.fields)).getD []).length
  let widths : Sides Nat := ⟨width rows.first, width rows.second⟩
  let heads := j.headed && !(rows.first.isEmpty && rows.second.isEmpty)
  if heads then emit (j.shownPair widths rows.first.head? rows.second.head?)
  let skip (rs : List Row) : List Row := if heads then rs.drop 1 else rs
  let (first, second) := (skip rows.first, skip rows.second)
  let start : Place :=
    { before := ⟨first.head?, second.head?⟩, rest := ⟨first.drop 1, second.drop 1⟩ }
  let fuel := first.length + second.length + 1
  let (a, b, p) ← j.merge names widths fuel first.head? second.head? start
  let p ← j.finish names widths a b p
  if p.told.first || p.told.second then
    problem (txt "input is not in sorted order")
    return 1
  return 0

end Joining

/-- The rows of an input by its name; why there are none otherwise. -/
def joiningRows (j : Joining) (name : Chars) : Act (Except Chars (List Joining.Row)) := do
  let s ← if name = ['-'] then drain 0 else supplyOf name
  match s.tail with
  | .broken e =>
    return .error (if e = FileError.isFolder.words then txt "read error: " ++ e.toList
      else quotedIfNeeded name ++ txt ": " ++ e.toList)
  | _ =>
    awaitTail s
    return .ok (j.rowsOf s.content)

def join : Program := do
  match Joining.options.arguments (← self).args with
  | .error message => misuse message
  | .ok args =>
    match Joining.ofArguments {} [] false args with
    | .error (message, true) => misuse message
    | .error (message, false) =>
      problem message
      return 1
    | .ok (_, []) => misuse (txt "missing operand")
    | .ok (_, [_]) =>
      misuse (txt "missing operand after " ++ cited ((← self).args.getLast?.getD []))
    | .ok (j, a :: b :: _) =>
      if a = ['-'] && b = ['-'] then
        problem (txt "both files cannot be standard input: No such file or directory")
        return 1
      match ← joiningRows j a with
      | .error message =>
        problem message
        return 1
      | .ok first =>
        match ← joiningRows j b with
        | .error message =>
          problem message
          return 1
        | .ok second => j.run ⟨a, b⟩ ⟨first, second⟩

end Conformance.Host.Utility
