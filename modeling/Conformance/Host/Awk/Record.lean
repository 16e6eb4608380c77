import Conformance.Host.Awk.Pattern
import Conformance.Host.Awk.Value

/-!
# Records and fields

The input is cut into records, and a record into fields, at what separates them. A source keeps what
was read and not taken yet, and reads more when no separator is found in it.
-/
namespace Conformance.Host.Awk

open Utility (Regex)

/-! ## Fields -/

/-- What stands between fields. -/
inductive FieldSeparator
  | blanks
  | nothing
  | one (c : Char)
  | pattern (r : Regex)

/-- What stands between fields, as a text tells. -/
def FieldSeparator.read (s : Chars) : Except PatternFault FieldSeparator :=
  match s with
  | [' '] => .ok .blanks
  | [] => .ok .nothing
  | [c] => .ok (.one c)
  | _ => (readPattern s).map .pattern

/-- The words of a text. -/
def blankFields : (fuel : Nat) → Chars → List Chars
  | 0, _ => []
  | fuel + 1, s =>
    let s := s.dropWhile isFieldBlank
    if s.isEmpty then []
    else
      let field := s.takeWhile (! isFieldBlank ·)
      field :: blankFields fuel (s.drop field.length)

/-- The parts of a text between matches that are not empty. -/
def patternFields (r : Regex) (field : Chars) : Chars → List Chars
  | [] => [field.reverse]
  | c :: s =>
    match r.longest? ⟨[], c :: s, []⟩ with
    | some q =>
      if q.rest.length ≤ s.length then field.reverse :: patternFields r [] q.rest
      else patternFields r (c :: field) s
    | none => patternFields r (c :: field) s
termination_by s => s.length
decreasing_by all_goals simp only [List.length_cons]; omega

/-- The parts of a text. -/
def FieldSeparator.split (sep : FieldSeparator) (s : Chars) : List Chars :=
  if s.isEmpty then []
  else
    match sep with
    | .blanks => blankFields (s.length + 1) s
    | .nothing => s.map fun c => [c]
    | .one c => Text.splitOn (· == c) s
    | .pattern r => patternFields r [] s

/-! ## Records -/

/-- What stands between records. -/
inductive RecordSeparator
  | one (c : Char)
  | emptyLines
  | pattern (r : Regex)

/-- What stands between records, as a text tells. -/
def RecordSeparator.read (s : Chars) : Except PatternFault RecordSeparator :=
  match s with
  | [] => .ok .emptyLines
  | [c] => .ok (.one c)
  | _ => (readPattern s).map .pattern

/-- A record that ends at a separator, and what follows that. -/
def splitAtPattern (r : Regex) (record : Chars) : Chars → Option (Chars × Chars)
  | [] => none
  | c :: s =>
    match r.longest? ⟨[], c :: s, []⟩ with
    | some q =>
      if q.rest.length ≤ s.length then some (record.reverse, q.rest)
      else splitAtPattern r (c :: record) s
    | none => splitAtPattern r (c :: record) s

/-- The lines up to an empty one. -/
def splitAtEmptyLine (record : Chars) : Chars → Option (Chars × Chars)
  | [] => none
  | '\n' :: '\n' :: s => some (record.reverse, s.dropWhile (· == '\n'))
  | c :: s => splitAtEmptyLine (c :: record) s

/-- A record that ends at a separator, and what follows that. -/
def RecordSeparator.cut (sep : RecordSeparator) (s : Chars) : Option (Chars × Chars) :=
  match sep with
  | .one c =>
    let record := s.takeWhile (· != c)
    match s.drop record.length with
    | [] => none
    | _ :: rest => some (record, rest)
  | .emptyLines => splitAtEmptyLine [] s
  | .pattern r => splitAtPattern r [] s

/-- Whether a separator that ends what has arrived may go on in what comes later. -/
def RecordSeparator.mayGoOn : RecordSeparator → Bool
  | .one _ => false
  | .emptyLines | .pattern _ => true

/-- Where records come from. -/
structure Source where
  /-- What is read from. There is nothing more to be read without it. -/
  input : Option Nat
  ready : Chars := []
  /-- What comes again and again after that. -/
  period : Option Chars := none

namespace Source

/-- How much is read at once. -/
def blockSize : Nat := 4096

/-- How much of a source without end is looked through for a separator. -/
def searchedSize : Nat := 1000000

/-- Reads a block at least, and as much as is there already; nothing at the end. -/
def pull (s : Source) : Act (Option Source) := do
  let size := s.ready.length
  match s.period, s.input with
  | some period, _ =>
    if searchedSize < size then waitForEver
    let again := (List.replicate (size / max 1 period.length + 1) period).flatten
    return some { s with ready := s.ready ++ again }
  | none, none => return none
  | none, some n =>
    let wanted := max blockSize size
    let isBlock (s : Chars) : Option Nat := if wanted ≤ s.length then some wanted else none
    let more ← takeEnough n isBlock maxArrivals []
    let ready := s.ready ++ more.content
    match more.tail with
    | .endless period => return some { s with ready, period := some period }
    | .closed | .broken _ =>
      if more.content.length < wanted then
        if more.content.isEmpty then return none else return some { s with ready, input := none }
      else return some { s with ready }

/-- The next record before a separator, or before the end. -/
def nextBefore (sep : RecordSeparator) : (fuel : Nat) → Source → Act (Option Chars × Source)
  | 0, _ => waitForEver
  | fuel + 1, s => do
    let s := match sep with
      | .emptyLines => { s with ready := s.ready.dropWhile (· == '\n') }
      | .one _ | .pattern _ => s
    let found := sep.cut s.ready
    let isSure := match found with
      | some (_, rest) => !(sep.mayGoOn && rest.isEmpty)
      | none => false
    let pulled ← if isSure then pure none else s.pull
    match pulled, found with
    | some s, _ => nextBefore sep fuel s
    | none, some (record, rest) => return (some record, { s with ready := rest })
    | none, none =>
      if s.ready.isEmpty then return (none, s)
      let last := match sep with
        | .emptyLines => Chars.withoutNewline s.ready
        | .one _ | .pattern _ => s.ready
      return (some last, { s with ready := [] })

/-- The next record, if there is one. -/
def next (sep : RecordSeparator) (s : Source) : Act (Option Chars × Source) :=
  nextBefore sep maxArrivals s

end Source
end Conformance.Host.Awk
