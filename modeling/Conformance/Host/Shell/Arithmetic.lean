import Conformance.Host.CharClass
import Conformance.Host.Shell.Variable

/-!
# Arithmetic expressions

Expressions over signed numbers of 64 bits. A variable stands for the number that its value writes,
and may be assigned to. An expression is carried out while it is read, so that what it does before
a fault is done; operands that do not count are only read.
-/
namespace Conformance.Host.Shell

inductive ArithToken
  | number (n : Int)
  | name (s : Chars)
  | operator (s : String)
deriving DecidableEq

/-- What is wrong with an expression. -/
inductive ArithFault
  | expecting (what : String)
  | zeroDivisor
  | illegalNumber (s : Chars)
deriving DecidableEq

def ArithFault.message (expression : Chars) : ArithFault → Chars
  | .expecting what => shown ("expecting " ++ what)
  | .zeroDivisor => shown "division by zero"
  | .illegalNumber s => txt "Illegal number: " ++ s
where
  shown (what : String) : Chars :=
    txt "arithmetic expression: " ++ what.toList ++ txt ": \"" ++ expression ++ ['"']

/-- The number of 64 bits that a number wraps to. -/
def wrap64 (n : Int) : Int :=
  Int.bmod n 0x10000000000000000

/-- The nearest number of 64 bits. -/
def clamp64 (n : Int) : Int :=
  max (-0x8000000000000000) (min 0x7fffffffffffffff n)

/-- The number at the start of a text, and its length. -/
def leadingInteger (s : Chars) : Nat × Nat :=
  match s with
  | '0' :: x :: r =>
    let hex := r.takeWhile fun c => (hexDigitValue c).isSome
    if (x = 'x' || x = 'X') && !hex.isEmpty then
      (hex.foldl (fun n c => 16 * n + (hexDigitValue c).getD 0) 0, hex.length + 2)
    else
      let octal := (x :: r).takeWhile fun c => '0' ≤ c && c ≤ '7'
      (octal.foldl (fun n c => 8 * n + (c.toNat - '0'.toNat)) 0, octal.length + 1)
  | _ =>
    let ds := s.takeWhile Char.isDigit
    (Chars.natOfDigits ds, ds.length)

def arithOperators : List String :=
  ["<<=", ">>=", "<<", ">>", "<=", ">=", "==", "!=", "&&", "||", "+=", "-=", "*=", "/=", "%=",
    "&=", "^=", "|=", "+", "-", "*", "/", "%", "<", ">", "=", "!", "~", "&", "^", "|", "?", ":",
    "(", ")"]

/-- The tokens of an expression; a character that begins none is an operator of its own. -/
def arithTokens : (fuel : Nat) → Chars → List ArithToken
  | 0, _ | _, [] => []
  | fuel + 1, c :: s =>
    if c = ' ' || c = '\t' || c = '\n' then arithTokens fuel s
    else if c.isDigit then
      let (n, length) := leadingInteger (c :: s)
      .number (clamp64 n) :: arithTokens fuel ((c :: s).drop length)
    else if isNameStart c then
      let name := (c :: s).takeWhile isNameChar
      .name name :: arithTokens fuel ((c :: s).drop name.length)
    else
      match arithOperators.find? fun o => o.toList.isPrefixOf (c :: s) with
      | some o => .operator o :: arithTokens fuel ((c :: s).drop o.length)
      | none => .operator (String.ofList [c]) :: arithTokens fuel s

/-- Binary operators by rising strength. -/
def arithLevels : List (List String) :=
  [["|"], ["^"], ["&"], ["==", "!="], ["<=", ">=", "<", ">"], ["<<", ">>"], ["+", "-"],
    ["*", "/", "%"]]

def assignments : List String :=
  ["=", "<<=", ">>=", "+=", "-=", "*=", "/=", "%=", "&=", "^=", "|="]

def arithApply (o : String) (a b : Int) : Except ArithFault Int :=
  let truth (p : Bool) : Except ArithFault Int := .ok (if p then 1 else 0)
  let bits (f : Nat → Nat → Nat) : Except ArithFault Int :=
    .ok (wrap64 (f (a % 0x10000000000000000).toNat (b % 0x10000000000000000).toNat))
  match o with
  | "+" => .ok (wrap64 (a + b))
  | "-" => .ok (wrap64 (a - b))
  | "*" => .ok (wrap64 (a * b))
  | "/" => if b = 0 then .error .zeroDivisor else .ok (wrap64 (a.tdiv b))
  | "%" => if b = 0 then .error .zeroDivisor else .ok (wrap64 (a.tmod b))
  | "<<" => .ok (wrap64 (a * Nat.pow 2 (b % 64).toNat))
  | ">>" => .ok (a.fdiv (Nat.pow 2 (b % 64).toNat))
  | "<" => truth (a < b)
  | ">" => truth (b < a)
  | "<=" => truth (a ≤ b)
  | ">=" => truth (b ≤ a)
  | "==" => truth (a == b)
  | "!=" => truth (a != b)
  | "&" => bits (· &&& ·)
  | "^" => bits (· ^^^ ·)
  | _ => bits (· ||| ·)

/-- The number that the value of a variable writes. -/
def numberOf (s : Chars) : Except ArithFault Int :=
  let t := s.dropWhile isFieldBlank
  let (negative, u) := match t with
    | '-' :: r => (true, r)
    | '+' :: r => (false, r)
    | r => (false, r)
  let (n, length) := leadingInteger u
  if s.isEmpty then .ok 0
  else if length = 0 || !((u.drop length).all isFieldBlank) then
    .error (.illegalNumber s)
  else .ok (clamp64 (if negative then -(n : Int) else n))

/-- Reads and carries out a part of an expression. -/
abbrev Arith := StateT (List ArithToken) (ExceptT ArithFault Act)

def nextIs (os : List String) : Arith (Option String) := do
  match ← get with
  | .operator o :: _ => return if os.contains o then some o else none
  | _ => return none

def skipToken : Arith Unit :=
  modify (·.drop 1)

def currentNumber (x : Chars) : Arith Int := do
  let value : Option Chars ← valueOf? x
  match numberOf (value.getD []) with
  | .ok n => return n
  | .error f => throw f

/-- Assigns a number, or what comes of the old one and it. -/
def assignNumber (x : Chars) (o : Option String) (n : Int) : Arith Int := do
  let result ← match o with
    | none => pure n
    | some o =>
      match arithApply o (← currentNumber x) n with
      | .ok n => pure n
      | .error f => throw f
  assignVariable x (Chars.ofInt result)
  return result

/-- A truth as a number. -/
def truthNumber (b : Bool) : Int :=
  if b then 1 else 0

mutual

/-- An assignment, or a choice; `live` tells that it counts. -/
def arithAssignment (live : Bool) : (fuel : Nat) → Arith Int
  | 0 => throw (.expecting "primary")
  | fuel + 1 => do
    match ← get with
    | .name x :: .operator o :: _ =>
      if assignments.contains o then
        modify (·.drop 2)
        let n ← arithAssignment live fuel
        if !live then return n
        assignNumber x (if o = "=" then none else some (String.ofList o.toList.dropLast)) n
      else arithChoice live fuel
    | _ => arithChoice live fuel

def arithChoice (live : Bool) : (fuel : Nat) → Arith Int
  | 0 => throw (.expecting "primary")
  | fuel + 1 => do
    let c ← arithEither live fuel
    if (← nextIs ["?"]).isNone then return c
    skipToken
    let a ← arithAssignment (live && c != 0) fuel
    if (← nextIs [":"]).isNone then throw (.expecting "':'")
    skipToken
    let b ← arithChoice (live && c == 0) fuel
    return if c ≠ 0 then a else b

def arithEither (live : Bool) : (fuel : Nat) → Arith Int
  | 0 => throw (.expecting "primary")
  | fuel + 1 => do
    let a ← arithBoth live fuel
    if (← nextIs ["||"]).isNone then return a
    skipToken
    let b ← arithEither (live && a == 0) fuel
    return truthNumber (a != 0 || b != 0)

def arithBoth (live : Bool) : (fuel : Nat) → Arith Int
  | 0 => throw (.expecting "primary")
  | fuel + 1 => do
    let a ← arithLevel live fuel arithLevels
    if (← nextIs ["&&"]).isNone then return a
    skipToken
    let b ← arithBoth (live && a != 0) fuel
    return truthNumber (a != 0 && b != 0)

def arithLevel (live : Bool) : (fuel : Nat) → List (List String) → Arith Int
  | 0, _ => throw (.expecting "primary")
  | fuel + 1, [] => arithPrimary live fuel
  | fuel + 1, level :: levels => do
    arithChain live fuel level levels (← arithLevel live fuel levels)

def arithChain (live : Bool) : (fuel : Nat) → List String → List (List String) → Int → Arith Int
  | 0, _, _, a => return a
  | fuel + 1, level, levels, a => do
    match ← nextIs level with
    | none => return a
    | some o =>
      skipToken
      let b ← arithLevel live fuel levels
      if !live then arithChain live fuel level levels b
      else
        match arithApply o a b with
        | .ok n => arithChain live fuel level levels n
        | .error f => throw f

def arithPrimary (live : Bool) : (fuel : Nat) → Arith Int
  | 0 => throw (.expecting "primary")
  | fuel + 1 => do
    match ← get with
    | .number n :: _ =>
      skipToken
      return n
    | .name x :: _ =>
      skipToken
      if live then currentNumber x else return 0
    | .operator o :: _ =>
      if o = "(" then
        skipToken
        let n ← arithAssignment live fuel
        if (← nextIs [")"]).isNone then throw (.expecting "')'")
        skipToken
        return n
      else if o = "+" || o = "-" || o = "!" || o = "~" then
        skipToken
        let n ← arithPrimary live fuel
        return match o with
          | "-" => wrap64 (-n)
          | "!" => truthNumber (n == 0)
          | "~" => -n - 1
          | _ => n
      else throw (.expecting "primary")
    | [] => throw (.expecting "primary")

end

/-- Carries out a whole expression. -/
def arithWhole (tokens : List ArithToken) : Act (Except ArithFault Int) := do
  match ← (arithAssignment true (32 * tokens.length + 64)).run tokens with
  | .error f => return .error f
  | .ok (n, []) => return .ok n
  | .ok (_, _ :: _) => return .error (.expecting "EOF")

/-- The value of the expression that a text writes, or a complaint. -/
def evaluateArith (s : Chars) : Act (Except Chars Int) := do
  match ← arithWhole (arithTokens (s.length + 1) s) with
  | .error f => return .error (f.message s)
  | .ok n => return .ok n

end Conformance.Host.Shell
