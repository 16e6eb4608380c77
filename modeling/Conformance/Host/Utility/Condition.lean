import Conformance.Host.Attributes
import Conformance.Host.Utility.Lines

/-!
# Conditions

The expressions of `test`: tests of texts, numbers and files, joined by "and", "or" and "not". How
an expression is read depends on the number of its arguments, so that texts that look like operators
can be tested too.
-/
namespace Conformance.Host.Utility

inductive Mark
  | unary (c : Char)
  | binary (name : String)
  | conjunction
  | disjunction
  | negation
  | opening
  | closing
deriving DecidableEq

def binaryNames : List String :=
  ["=", "!=", "<", ">", "-eq", "-ne", "-gt", "-ge", "-lt", "-le", "-nt", "-ot", "-ef"]

def mark? (s : Chars) : Option Mark :=
  match s with
  | ['-', 'a'] => some .conjunction
  | ['-', 'o'] => some .disjunction
  | ['!'] => some .negation
  | ['('] => some .opening
  | [')'] => some .closing
  | ['-', c] => if "bcdefghkLnOGprsStuwxz".toList.contains c then some (.unary c) else none
  | _ => (binaryNames.find? (·.toList == s)).map .binary

def isBinary (s : Chars) : Bool :=
  match mark? s with
  | some (.binary _) => true
  | _ => false

/-- The mark at the start of some arguments, unless it stands there as a text. -/
def leadMark : List Chars → Option Mark
  | [] => none
  | s :: rest =>
    match mark? s with
    | some (.unary c) =>
      match rest with
      | [] => none
      | [_] => some (.unary c)
      | next :: _ => if isBinary next then none else some (.unary c)
    | some .opening => if rest.isEmpty then none else some .opening
    | m => m

/-- A number of 64 digits of base 2, with blanks around it. -/
def number? (s : Chars) : Except Chars Int :=
  match Chars.int? (Text.dropEndWhile isSpace (s.dropWhile isSpace)) with
  | some n =>
    if -0x8000000000000000 ≤ n && n ≤ 0x7fffffffffffffff then .ok n
    else .error (txt "Illegal number: " ++ s)
  | none => .error (txt "Illegal number: " ++ s)

/-- Whether something holds of a file. -/
def fileHolds (v : FileView) (c : Char) (name : Chars) : Bool :=
  let keepsLink := c = 'h' || c = 'L'
  match v.attributes? (if keepsLink then .entry else .target) (Chars.toPath name), c with
  | .error _, _ => false
  | .ok a, 'h' | .ok a, 'L' => (a.node matches .link _)
  | .ok a, 'd' => a.node == .folder
  | .ok a, 'f' => (a.node matches .file _ _) || (a.node matches .program _)
  | .ok a, 'c' => (a.node matches .device _)
  | .ok a, 's' => 0 < a.size
  | .ok a, 'x' => a.mayRun
  | .ok a, 'u' => a.mode.testBit 11
  | .ok a, 'g' => a.mode.testBit 10
  | .ok a, 'k' => a.mode.testBit 9
  | .ok _, _ => ['e', 'r', 'w', 'O', 'G'].contains c

def unaryHolds (v : FileView) (c : Char) (s : Chars) : Except Chars Bool :=
  match c with
  | 'z' => .ok s.isEmpty
  | 'n' => .ok (!s.isEmpty)
  | 't' => (number? s).map fun _ => false
  | _ => .ok (fileHolds v c s)

/-- Whether something holds of two files, which both have to be there. -/
def filesHold (v : FileView) (holds : Attributes → Attributes → Bool) (a b : Chars) : Bool :=
  match v.attributes? .target (Chars.toPath a), v.attributes? .target (Chars.toPath b) with
  | .ok x, .ok y => holds x y
  | _, _ => false

def binaryHolds (v : FileView) (name : String) (a b : Chars) : Except Chars Bool := do
  let numbers (f : Int → Int → Bool) : Except Chars Bool := do
    let m ← number? a
    return f m (← number? b)
  match name with
  | "=" => return a == b
  | "!=" => return a != b
  | "<" => return decide (a < b)
  | ">" => return decide (b < a)
  | "-eq" => numbers (· == ·)
  | "-ne" => numbers (· != ·)
  | "-gt" => numbers (· > ·)
  | "-ge" => numbers (· ≥ ·)
  | "-lt" => numbers (· < ·)
  | "-le" => numbers (· ≤ ·)
  | "-nt" => return filesHold v (fun x y => y.date < x.date) a b
  | "-ot" => return filesHold v (fun x y => x.date < y.date) a b
  | _ => return filesHold v (fun x y => v.isSame x.location y.location) a b

mutual

/-- The value of a disjunction, and the arguments from the last one used on. -/
def disjunction (v : FileView) : (fuel : Nat) → Option Mark → List Chars →
    Except Chars (Bool × List Chars)
  | 0, _, args => .ok (false, args)
  | fuel + 1, m, args => do
    let (a, rest) ← conjunction v fuel m args
    if leadMark (rest.drop 1) = some .disjunction then
      let next := rest.drop 2
      let (b, rest) ← disjunction v fuel (leadMark next) next
      return (a || b, rest)
    return (a, rest)

def conjunction (v : FileView) : (fuel : Nat) → Option Mark → List Chars →
    Except Chars (Bool × List Chars)
  | 0, _, args => .ok (false, args)
  | fuel + 1, m, args => do
    let (a, rest) ← negation v fuel m args
    if leadMark (rest.drop 1) = some .conjunction then
      let next := rest.drop 2
      let (b, rest) ← conjunction v fuel (leadMark next) next
      return (a && b, rest)
    return (a, rest)

def negation (v : FileView) : (fuel : Nat) → Option Mark → List Chars →
    Except Chars (Bool × List Chars)
  | 0, _, args => .ok (false, args)
  | fuel + 1, m, args => do
    if m = some .negation then
      let next := args.drop 1
      let (a, rest) ← negation v fuel (leadMark next) next
      return (!a, rest)
    primary v fuel m args

def primary (v : FileView) : (fuel : Nat) → Option Mark → List Chars →
    Except Chars (Bool × List Chars)
  | 0, _, args => .ok (false, args)
  | _, _, [] => .ok (false, [])
  | fuel + 1, m, a :: rest =>
    match m with
    | some .negation => .ok (false, a :: rest)
    | some .opening => do
      if leadMark rest = some .closing then return (false, rest)
      let (value, rest) ← disjunction v fuel (leadMark rest) rest
      if leadMark (rest.drop 1) = some .closing then return (value, rest.drop 1)
      throw (txt "closing paren expected")
    | some (.unary c) =>
      match rest with
      | [] => .error (a ++ txt ": argument expected")
      | s :: _ => (unaryHolds v c s).map (·, rest)
    | _ =>
      match rest with
      | o :: operands =>
        match mark? o with
        | some (.binary name) =>
          match operands with
          | [] => .error (o ++ txt ": argument expected")
          | b :: _ => (binaryHolds v name a b).map (·, operands)
        | _ => .ok (!a.isEmpty, a :: rest)
      | [] => .ok (!a.isEmpty, [a])

end

/-- The value of an expression of any length. -/
def wholeExpression (v : FileView) (m : Option Mark) (args : List Chars) : Except Chars Bool := do
  let (value, rest) ← disjunction v (4 * args.length + 8) m args
  match rest with
  | a :: _ :: _ => throw (a ++ txt ": unexpected operator")
  | _ => return value

/-- The value of the expression that the arguments form; without any it is false. `negated` tells
that a mark before them turns it around, which a second one does not undo. -/
def condition (v : FileView) (negated : Bool) : List Chars → Except Chars Bool
  | [] => .ok negated
  | [a, o, b] =>
    if isBinary o then whole none [a, o, b]
    else if a = ['('] && b = [')'] then whole (leadMark [o]) [o]
    else if a = ['!'] then condition v true [o, b]
    else whole (leadMark [a, o, b]) [a, o, b]
  | [a, o, b, c] =>
    if a = ['('] && c = [')'] then whole (leadMark [o, b]) [o, b]
    else if a = ['!'] then condition v true [o, b, c]
    else whole (leadMark [a, o, b, c]) [a, o, b, c]
  | args => whole (leadMark args) args
where
  whole (m : Option Mark) (args : List Chars) : Except Chars Bool :=
    (wholeExpression v m args).map (· != negated)

/-- Runs `test` under one of its two names. -/
def testWith (complaint : Chars → Act Unit) (bracket : Bool) (args : List Chars) : Program := do
  if bracket && (args.getLast?.bind (·.head?)) ≠ some ']' then
    complaint (txt "missing ]")
    return 2
  match condition (← view) false (if bracket then args.dropLast else args) with
  | .ok true => return 0
  | .ok false => return 1
  | .error message =>
    complaint message
    return 2

end Conformance.Host.Utility
