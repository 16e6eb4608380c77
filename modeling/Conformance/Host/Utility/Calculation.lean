import Conformance.Host.Utility.Expression
import Conformance.Host.Utility.Lines

/-!
# Calculation

`expr` works out an expression whose operators and operands are its arguments. Values are texts;
a text of digits is a number too. What an operator does not need is read and not worked out.
-/
namespace Conformance.Host.Utility

/-- Why an expression has no value. -/
inductive ExprFault
  | unexpected (s : Chars)
  | missing (after : Chars)
  | unclosed (after : Chars)
  | notClosed (here : Chars)
  | closed
  | noInteger
  | zeroDivisor
  | pattern (message : String)

def ExprFault.message : ExprFault → Chars
  | .unexpected s => txt "syntax error: unexpected argument " ++ cited s
  | .missing after => txt "syntax error: missing argument after " ++ cited after
  | .unclosed after => txt "syntax error: expecting ')' after " ++ cited after
  | .notClosed here => txt "syntax error: expecting ')' instead of " ++ cited here
  | .closed => txt "syntax error: unexpected ')'"
  | .noInteger => txt "non-integer argument"
  | .zeroDivisor => txt "division by zero"
  | .pattern message => message.toList

/-- Operators between two values by rising strength. -/
def exprLevels : List (List String) :=
  [["|"], ["&"], ["<", "<=", "=", "==", "!=", ">=", ">"], ["+", "-"], ["*", "/", "%"], [":"]]

/-- Whether a value counts as nothing: it is empty or zero. -/
def isNull (s : Chars) : Bool :=
  let digits := if s.head? = some '-' then s.drop 1 else s
  s.isEmpty || (!digits.isEmpty && digits.all (· == '0'))

def exprInt? (s : Chars) : Option Int :=
  if s.head? = some '+' then none else Chars.int? s

/-- What an expression takes from the start of a text: its first group, or else its length. -/
def exprMatch (s pattern : Chars) : Except ExprFault Chars :=
  let s := Chars.joined s
  match Regex.read {} (Chars.joined pattern) with
  | .error f => .error (.pattern f.message)
  | .ok r =>
    .ok (match r.ofLetters.longest? { passed := [], rest := s } with
      | some p =>
        if 0 < r.groupCount then Chars.spelled ((p.groups.lookup 1).getD [])
        else Chars.ofNat (s.length - p.rest.length)
      | none => if 0 < r.groupCount then [] else ['0'])

def exprApply (o : String) (a b : Chars) : Except ExprFault Chars := do
  let truth (b : Bool) : Chars := if b then ['1'] else ['0']
  let numbers : Except ExprFault (Int × Int) :=
    match exprInt? a, exprInt? b with
    | some m, some n => .ok (m, n)
    | _, _ => .error .noInteger
  let order : Ordering :=
    match exprInt? a, exprInt? b with
    | some m, some n => compare m n
    | _, _ => compare a b
  match o with
  | "|" => return if isNull a then (if isNull b then ['0'] else b) else a
  | "&" => return if isNull a || isNull b then ['0'] else a
  | "<" => return truth order.isLT
  | "<=" => return truth order.isLE
  | "=" | "==" => return truth order.isEq
  | "!=" => return truth order.isNe
  | ">=" => return truth order.isGE
  | ">" => return truth order.isGT
  | "+" => return Chars.ofInt ((← numbers).1 + (← numbers).2)
  | "-" => return Chars.ofInt ((← numbers).1 - (← numbers).2)
  | "*" => return Chars.ofInt ((← numbers).1 * (← numbers).2)
  | ":" => exprMatch a b
  | _ =>
    let (m, n) ← numbers
    if n = 0 then throw .zeroDivisor
    return Chars.ofInt (if o = "/" then m.tdiv n else m.tmod n)

/-- Whether the right side of an operator decides, with `a` on the left. -/
def exprNeeds (o : String) (a : Chars) : Bool :=
  match o with
  | "|" => isNull a
  | "&" => !isNull a
  | _ => true

/-- The part of a text that starts at a place and has some length. -/
def exprPart (s start length : Chars) : Chars :=
  match exprInt? start, exprInt? length with
  | some m, some n =>
    if m ≤ 0 || n ≤ 0 then []
    else Chars.spelled (((Chars.joined s).drop (m.toNat - 1)).take n.toNat)
  | _, _ => []

/-- A value with the argument before what follows it, and that. -/
abbrev ExprResult := Except ExprFault (Chars × Chars × List Chars)

/-- Reads an expression of some strength. `last` is the argument before it, and `live` tells that
the value is needed. -/
def exprAt : (fuel : Nat) → (live : Bool) → List (List String) → (last : Chars) → List Chars →
    ExprResult
  | 0, _, _, last, _ => .error (.missing last)
  | fuel + 1, live, level :: levels, last, args => do
    let (a, last, rest) ← exprAt fuel live levels last args
    more fuel live level levels a last rest
  | _ + 1, _, [], last, [] => .error (.missing last)
  | fuel + 1, live, [], _, s :: rest =>
    match String.ofList s with
    | "+" =>
      match rest with
      | t :: rest => .ok (t, t, rest)
      | [] => .error (.missing s)
    | "length" => do
      let (a, last, rest) ← exprAt fuel live [] s rest
      return (Chars.ofNat (Chars.letters a).length, last, rest)
    | "match" => do
      let (a, last, rest) ← exprAt fuel live [] s rest
      let (b, last, rest) ← exprAt fuel live [] last rest
      let value ← if live then exprMatch a b else .ok a
      return (value, last, rest)
    | "index" => do
      let (a, last, rest) ← exprAt fuel live [] s rest
      let (b, last, rest) ← exprAt fuel live [] last rest
      let marks := Chars.joined b
      let place := ((Chars.joined a).findIdx? (marks.contains ·)).elim 0 (· + 1)
      return (Chars.ofNat place, last, rest)
    | "substr" => do
      let (a, last, rest) ← exprAt fuel live [] s rest
      let (b, last, rest) ← exprAt fuel live [] last rest
      let (c, last, rest) ← exprAt fuel live [] last rest
      return (exprPart a b c, last, rest)
    | "(" => do
      let (a, last, rest) ← exprAt fuel live exprLevels s rest
      match rest with
      | [')'] :: rest => return (a, [')'], rest)
      | t :: _ => throw (.notClosed t)
      | [] => throw (.unclosed last)
    | ")" => .error .closed
    | _ => .ok (s, s, rest)
where
  /-- Operators of one strength from left to right. -/
  more : (fuel : Nat) → Bool → List String → List (List String) → Chars → Chars → List Chars →
      ExprResult
    | 0, _, _, _, a, last, args => .ok (a, last, args)
    | fuel + 1, live, level, levels, a, last, args => do
      match args with
      | o :: rest =>
        if level.contains (String.ofList o) then
          let needed := live && exprNeeds (String.ofList o) a
          let (b, last, rest) ← exprAt fuel needed levels o rest
          let c ← if live then
              if needed then exprApply (String.ofList o) a b
              else .ok (if o = ['|'] then a else ['0'])
            else .ok a
          more fuel live level levels c last rest
        else return (a, last, args)
      | [] => return (a, last, [])

def expr : Program := do
  let args := (← self).args
  let args := if args.head? = some (txt "--") then args.drop 1 else args
  if args.isEmpty then misuse (txt "missing operand") 2
  else
    match exprAt (10 * args.length + 20) true exprLevels [] args with
    | .error e => problem e.message; return 2
    | .ok (value, _, rest) =>
      match rest with
      | s :: _ => problem (ExprFault.unexpected s).message; return 2
      | [] =>
        emit (value ++ ['\n'])
        return if isNull value then 1 else 0

end Conformance.Host.Utility
