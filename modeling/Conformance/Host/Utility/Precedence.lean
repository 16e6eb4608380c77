import Conformance.Host.Utility.Lines

/-!
# An order from pairs

`tsort` reads pairs of names, the first of which comes before the second, and shows all names in an
order that agrees with the pairs. Where the pairs lead back to where they began, one of them is
given up.
-/
namespace Conformance.Host.Utility

/-- Names that are still to be shown, in order, and what is known of their places: pairs of a name
and one that comes after it, the pair that was read last first. -/
structure Precedence where
  names : List Chars
  pairs : List (Chars × Chars)

namespace Precedence

/-- Items two by two; none if one is left alone. -/
def paired : List Chars → Option (List (Chars × Chars))
  | [] => some []
  | [_] => none
  | a :: b :: more => (paired more).map ((a, b) :: ·)

/-- What some pairs say. A pair of a name with itself says only that there is such a name. -/
def ofPairs (ps : List (Chars × Chars)) : Precedence where
  names := ((ps.flatMap fun (a, b) => [a, b]).eraseDups).mergeSort charsLe
  pairs := (ps.filter fun (a, b) => a != b).reverse

/-- Whether nothing comes before a name. -/
def isFree (p : Precedence) (name : Chars) : Bool :=
  !p.pairs.any (·.2 == name)

/-- Items without those that come again further on. -/
def lastOccurrences (items : List Chars) : List Chars :=
  items.reverse.eraseDups.reverse

/-- Shows the names of a queue, and behind them those that become free by that; what is left
then. -/
def serve : (fuel : Nat) → (queue : List Chars) → Precedence → List Chars × Precedence
  | 0, _, p | _, [], p => ([], p)
  | fuel + 1, name :: queue, p =>
    let (own, others) := p.pairs.partition (·.1 == name)
    let next : Precedence := { names := p.names.filter (· != name), pairs := others }
    let freed := (lastOccurrences (own.map (·.2))).filter next.isFree
    let (shown, rest) := serve fuel (queue ++ freed) next
    (name :: shown, rest)

/-- What a walk through the names has found. `trail` leads from name to name, each of which comes
before the one it was found after. -/
inductive Finding
  | trail (names : List Chars)
  | loop (names : List Chars) (givenUp : Chars × Chars)

/-- Goes through names in order and makes a trail longer where one of them comes before its first
name. -/
def follow (p : Precedence) : (trail : List Chars) → List Chars → Finding
  | trail, [] => .trail trail
  | trail, name :: more =>
    if p.isFree name then p.follow trail more
    else
      match trail with
      | [] => p.follow [name] more
      | first :: _ =>
        if !p.pairs.contains (name, first) then p.follow trail more
        else if trail.dropLast.contains name then
          .loop (trail.takeWhile (· != name) ++ [name]) (name, first)
        else p.follow (name :: trail) more

/-- A loop among the names, and a pair without which it is none. -/
def loop? (p : Precedence) : (fuel : Nat) → (trail : List Chars) →
    Option (List Chars × (Chars × Chars))
  | 0, _ => none
  | fuel + 1, trail =>
    match p.follow trail p.names with
    | .trail longer => p.loop? fuel longer
    | .loop names givenUp => some (names, givenUp)

/-- Shows all names, and complains of each loop. -/
def showAll (source : Chars) : (fuel : Nat) → (status : Nat) → Precedence → Program
  | 0, status, _ => return status
  | fuel + 1, status, p => do
    let (shown, rest) := p.serve p.names.length (p.names.filter p.isFree)
    emit (unlines shown)
    if rest.names.isEmpty then return status
    problem (source ++ txt ": input contains a loop:")
    match rest.loop? (rest.names.length + 2) [] with
    | none => return 1
    | some (names, givenUp) =>
      names.forM problem
      showAll source fuel 1 { rest with pairs := rest.pairs.erase givenUp }

end Precedence

/-- Goes on with the name of the only input; the input stream if none is given. -/
def withSingleInput (p : Parsed) (body : Chars → Program) : Program :=
  match p.operands with
  | [] => body ['-']
  | [name] => body name
  | _ :: extra :: _ => misuse (txt "extra operand " ++ cited extra)

def tsort : Program :=
  withOptions {} 1 fun p => withSingleInput p fun name => do
    let unread (name : Chars) (e : String) : Act Unit :=
      unreadable name (if e = FileError.isFolder.words then "read error: " ++ e else e)
    let (text, status) ← gather [name] unread
    if status ≠ 0 then return status
    let words := (Text.splitOn isFieldBlank text).filter (!·.isEmpty)
    let shownName := quotedIfNeeded name
    match Precedence.paired words with
    | none =>
      problem (shownName ++ txt ": input contains an odd number of tokens")
      return 1
    | some pairs => Precedence.showAll shownName (pairs.length + 1) 0 (.ofPairs pairs)

end Conformance.Host.Utility
