import Conformance.Host.Awk.Grammar
import Conformance.Host.Awk.Pattern

/-!
# Reading programs over records

The reader goes down through the levels of binding of the operators. Inside of a `print` statement
a mark for greater begins a destination, unless it stands in parentheses.
-/
namespace Conformance.Host.Awk

abbrev Reader := StateT (List Token) (Except (List Fault))

namespace Reader

def peek : Reader (Option TokenKind) := do
  return (← get).head?.map (·.kind)

def skip : Reader Unit :=
  modify (·.drop 1)

/-- What is wrong with the next token. -/
def refuse {α : Type} : Reader α := do
  match (← get).head? with
  | some t => throw [{ line := t.line, message := txt "syntax error at or near " ++ t.kind.shown }]
  | none => throw [{ line := 0, message := txt "syntax error at or near end of file" }]

def isMark (s : String) : Reader Bool := do
  match ← peek with
  | some (.mark m) => return m == s
  | _ => return false

def isWord (s : String) : Reader Bool := do
  match ← peek with
  | some (.word w) => return w == s
  | _ => return false

/-- What is said of a parenthesis that is not closed. -/
def missingBracket : Chars := txt "missing ) near end of line"

/-- Passes over a mark, if it comes next. -/
def takeMark (s : String) : Reader Bool := do
  let found ← isMark s
  if found then skip
  return found

def takeWord (s : String) : Reader Bool := do
  let found ← isWord s
  if found then skip
  return found

def demand (s : String) : Reader Unit := do
  if !(← takeMark s) then
    match (← get).head? with
    | some { kind := .mark "\x7d", line } =>
      if s == ")" then throw [{ line, message := txt "missing ) near \x7d" }] else refuse
    | none =>
      if s == ")" then throw [{ line := 0, message := missingBracket }] else refuse
    | _ => refuse

def isNewline : Option Token → Bool
  | some { kind := .newline, .. } => true
  | _ => false

def skipNewlines : Reader Unit :=
  modify (·.dropWhile fun t => isNewline (some t))

/-- Passes over marks and line breaks between statements. -/
def skipEnds : Reader Unit :=
  modify (·.dropWhile fun t =>
    match t.kind with
    | .newline | .mark ";" => true
    | _ => false)

def takeName : Reader Chars := do
  match ← peek with
  | some (.name s) =>
    skip
    return s
  | _ => refuse

/-- Tries one way of reading, and then the other from the same place. -/
def orElse {α : Type} (first second : Reader α) : Reader α := fun ts =>
  match first ts with
  | .ok found => .ok found
  | .error _ => second ts

def assignment? : TokenKind → Option (Option Arithmetic)
  | .mark "=" => some none
  | .mark "+=" => some (some .add)
  | .mark "-=" => some (some .subtract)
  | .mark "*=" => some (some .multiply)
  | .mark "/=" => some (some .divide)
  | .mark "%=" => some (some .remainder)
  | .mark "^=" => some (some .power)
  | _ => none

def comparison? (noGreater : Bool) : TokenKind → Option Comparison
  | .mark "<" => some .less
  | .mark "<=" => some .lessEqual
  | .mark "==" => some .equal
  | .mark "!=" => some .unequal
  | .mark ">" => if noGreater then none else some .greater
  | .mark ">=" => some .greaterEqual
  | _ => none

/-- The line of the next token. -/
def line : Reader Nat := do
  return ((← get).head?.map (·.line)).getD 1

/-- How many arguments a function that every program has may get. -/
def arity (name : String) : Nat × Option Nat :=
  match name with
  | "length" | "srand" | "fflush" => (0, some 1)
  | "rand" | "systime" => (0, some 0)
  | "strftime" => (0, some 3)
  | "index" | "atan2" | "match" => (2, some 2)
  | "substr" | "split" | "sub" | "gsub" => (2, some 3)
  | "sprintf" => (1, none)
  | _ => (1, some 1)

/-- Refuses a text that is used as a pattern and is none. -/
def checkPattern (e : Option Expr) : Reader Unit := do
  match e with
  | some (.text s) =>
    match readPattern s with
    | .ok _ => return
    | .error f => throw [{ line := ← line, message := f.message s }]
  | _ => return

/-- The argument that is a pattern, of a function that has one. -/
def patternArgument? (name : String) (args : List Expr) : Option Expr :=
  match name with
  | "sub" | "gsub" => args.head?
  | "match" => args[1]?
  | "split" =>
    match args with
    | [_, _, .text [_]] => none
    | args => args[2]?
  | _ => none

/-- A call of a function that every program has. -/
def builtinCall (name : String) (args : List Expr) : Reader Expr := do
  let (least, most) := arity name
  if args.length < least || (most.map fun m => decide (m < args.length)).getD false then
    throw [{
      line := ← line, message := txt "wrong number of arguments in call to " ++ name.toList }]
  else
    checkPattern (patternArgument? name args)
    return .builtin name args

def isPlace : Expr → Bool
  | .variable _ | .field _ | .element _ _ => true
  | _ => false

/-- Whether a token may begin an operand that is put behind another. -/
def startsOperand : TokenKind → Bool
  | .number _ | .text _ | .pattern _ | .name _ | .call _ | .builtin _ => true
  | .mark s => s == "$" || s == "(" || s == "!" || s == "-" || s == "+" || s == "++" || s == "--"
  | .word _ | .newline => false

/-- Whether a token may begin an operand that is put behind another without a mark between. -/
def continuesText : TokenKind → Bool
  | .mark s => s == "$" || s == "(" || s == "++" || s == "--"
  | k => startsOperand k

/-- A step behind a place. -/
def stepped (e : Expr) : Reader Expr := do
  if !isPlace e then return e
  else if ← takeMark "++" then return .step false true e
  else if ← takeMark "--" then return .step false false e
  else return e

mutual

/-- An expression of any kind. -/
def expression (noGreater : Bool) : (fuel : Nat) → Reader Expr
  | 0 => refuse
  | fuel + 1 => do
    let left ← choice noGreater fuel
    match (← peek).bind assignment? with
    | some operation =>
      if isPlace left then
        skip
        skipNewlines
        return .assign operation left (← expression noGreater fuel)
      else return left
    | none => return left

def choice (noGreater : Bool) : (fuel : Nat) → Reader Expr
  | 0 => refuse
  | fuel + 1 => do
    let condition ← disjunction noGreater fuel
    if ← takeMark "?" then
      skipNewlines
      let yes ← expression noGreater fuel
      skipNewlines
      demand ":"
      skipNewlines
      return .choice condition yes (← expression noGreater fuel)
    else return condition

def disjunction (noGreater : Bool) : (fuel : Nat) → Reader Expr
  | 0 => refuse
  | fuel + 1 => do
    let left ← conjunction noGreater fuel
    if ← takeMark "||" then
      skipNewlines
      return .either left (← disjunction noGreater fuel)
    else return left

def conjunction (noGreater : Bool) : (fuel : Nat) → Reader Expr
  | 0 => refuse
  | fuel + 1 => do
    let left ← membership noGreater fuel
    if ← takeMark "&&" then
      skipNewlines
      return .both left (← conjunction noGreater fuel)
    else return left

def membership (noGreater : Bool) : (fuel : Nat) → Reader Expr
  | 0 => refuse
  | fuel + 1 => do
    membershipFrom fuel (← fitting noGreater fuel)

def membershipFrom : (fuel : Nat) → Expr → Reader Expr
  | 0, e => return e
  | fuel + 1, e => do
    if ← takeWord "in" then membershipFrom fuel (.member [e] (← takeName)) else return e

def fitting (noGreater : Bool) : (fuel : Nat) → Reader Expr
  | 0 => refuse
  | fuel + 1 => do
    fittingFrom noGreater fuel (← comparing noGreater fuel)

def fittingFrom (noGreater : Bool) : (fuel : Nat) → Expr → Reader Expr
  | 0, e => return e
  | fuel + 1, e => do
    let negated ← isMark "!~"
    if negated || (← isMark "~") then
      skip
      let pattern ← comparing noGreater fuel
      checkPattern (some pattern)
      fittingFrom noGreater fuel (.fits negated e pattern)
    else return e

def comparing (noGreater : Bool) : (fuel : Nat) → Reader Expr
  | 0 => refuse
  | fuel + 1 => do
    comparingFrom noGreater fuel (← joining fuel)

def comparingFrom (noGreater : Bool) : (fuel : Nat) → Expr → Reader Expr
  | 0, e => return e
  | fuel + 1, e => do
    match (← peek).bind (comparison? noGreater) with
    | some c =>
      skip
      comparingFrom noGreater fuel (.compare c e (← joining fuel))
    | none => return e

def joining : (fuel : Nat) → Reader Expr
  | 0 => refuse
  | fuel + 1 => do
    joiningFrom fuel (← adding fuel)

def joiningFrom : (fuel : Nat) → Expr → Reader Expr
  | 0, e => return e
  | fuel + 1, e => do
    if ((← peek).map continuesText).getD false then
      joiningFrom fuel (.concat e (← adding fuel))
    else return e

def adding : (fuel : Nat) → Reader Expr
  | 0 => refuse
  | fuel + 1 => do
    addingFrom fuel (← multiplying fuel)

def addingFrom : (fuel : Nat) → Expr → Reader Expr
  | 0, e => return e
  | fuel + 1, e => do
    if ← takeMark "+" then addingFrom fuel (.arithmetic .add e (← multiplying fuel))
    else if ← takeMark "-" then addingFrom fuel (.arithmetic .subtract e (← multiplying fuel))
    else return e

def multiplying : (fuel : Nat) → Reader Expr
  | 0 => refuse
  | fuel + 1 => do
    multiplyingFrom fuel (← signed fuel)

def multiplyingFrom : (fuel : Nat) → Expr → Reader Expr
  | 0, e => return e
  | fuel + 1, e => do
    if ← takeMark "*" then multiplyingFrom fuel (.arithmetic .multiply e (← signed fuel))
    else if ← takeMark "/" then multiplyingFrom fuel (.arithmetic .divide e (← signed fuel))
    else if ← takeMark "%" then multiplyingFrom fuel (.arithmetic .remainder e (← signed fuel))
    else return e

def signed : (fuel : Nat) → Reader Expr
  | 0 => refuse
  | fuel + 1 => do
    if ← takeMark "!" then return .signed .not (← signed fuel)
    else if ← takeMark "-" then return .signed .minus (← signed fuel)
    else if ← takeMark "+" then return .signed .plus (← signed fuel)
    else
      let base ← piped fuel
      if ← takeMark "^" then return .arithmetic .power base (← signed fuel) else return base

/-- An operand, and the lines of it as a command that are taken. -/
def piped : (fuel : Nat) → Reader Expr
  | 0 => refuse
  | fuel + 1 => do
    pipedFrom fuel (← stepped (← operand fuel))

def pipedFrom : (fuel : Nat) → Expr → Reader Expr
  | 0, e => return e
  | fuel + 1, e => do
    match ← get with
    | { kind := .mark "|", .. } :: { kind := .word "getline", .. } :: _ =>
      skip
      skip
      pipedFrom fuel (.getline .command (some e) (← place? fuel))
    | _ => return e

/-- A place that a line is put into. -/
def place? : (fuel : Nat) → Reader (Option Expr)
  | 0 => return none
  | fuel + 1 => do
    match ← peek with
    | some (.name _) | some (.mark "$") => return some (← operand fuel)
    | _ => return none

/-- What is between parentheses or brackets, up to the closing one. -/
def listed (close : String) : (fuel : Nat) → Reader (List Expr)
  | 0 => refuse
  | fuel + 1 => do
    skipNewlines
    if ← takeMark close then return []
    else
      let e ← expression false fuel
      skipNewlines
      if ← takeMark "," then
        skipNewlines
        if ← isMark close then refuse else return e :: (← listed close fuel)
      else
        demand close
        return [e]

def operand : (fuel : Nat) → Reader Expr
  | 0 => refuse
  | fuel + 1 => do
    match ← peek with
    | some (.number x) =>
      skip
      return .number x
    | some (.text s) =>
      skip
      return .text s
    | some (.pattern s) =>
      skip
      return .pattern s
    | some (.name s) =>
      skip
      if ← takeMark "[" then
        let subscripts ← listed "]" fuel
        if subscripts.isEmpty then refuse else return .element s subscripts
      else return .variable s
    | some (.call s) =>
      skip
      demand "("
      return .call s (← listed ")" fuel)
    | some (.builtin s) =>
      skip
      if ← takeMark "(" then builtinCall s (← listed ")" fuel)
      else if s == "length" then return .builtin s []
      else refuse
    | some (.word "getline") =>
      skip
      let place ← place? fuel
      if ← takeMark "<" then
        return .getline .file (some (← stepped (← operand fuel))) place
      else return .getline .input none place
    | some (.mark "$") =>
      skip
      if ← takeMark "++" then return .field (.step true true (← operand fuel))
      else if ← takeMark "--" then return .field (.step true false (← operand fuel))
      else if ← takeMark "-" then return .field (.signed .minus (← operand fuel))
      else return .field (← operand fuel)
    | some (.mark "++") =>
      skip
      stepBefore true fuel
    | some (.mark "--") =>
      skip
      stepBefore false fuel
    | some (.mark "(") =>
      skip
      match ← listed ")" fuel with
      | [] => refuse
      | [e] => return .group e
      | subscripts => if ← takeWord "in" then return .member subscripts (← takeName) else refuse
    | _ => refuse

def stepBefore (up : Bool) : (fuel : Nat) → Reader Expr
  | 0 => refuse
  | fuel + 1 => do
    let e ← operand fuel
    if isPlace e then return .step true up e else refuse

end

/-! ## Statements -/

/-- Where a statement stands. -/
structure Scope where
  /-- In a rule that is applied to records. -/
  perRecord : Bool := false
  inFunction : Bool := false
  inLoop : Bool := false

/-- Takes a word that may stand in some places only. -/
def takeWordWhere (allowed : Bool) (word : String) (complaint : String) : Reader Bool := do
  let line ← line
  let found ← takeWord word
  if found && !allowed then throw [{ line, message := complaint.toList }]
  return found

/-- Whether a simple statement may end before this token. -/
def endsStatement : Option TokenKind → Bool
  | none | some .newline => true
  | some (.mark s) => s == ";" || s == "\x7d"
  | _ => false

/-- The end of a simple statement. -/
def statementEnd : Reader Unit := do
  match ← peek with
  | some (.mark ";") | some .newline => skip
  | some (.mark "\x7d") => pure ()
  | some (.mark ")") =>
    let extra := (← get).takeWhile fun t => t.kind matches .mark ")"
    throw (extra.map fun t => { line := t.line, message := txt "extra ')'" })
  | _ => refuse

def destination? (fuel : Nat) : Reader (Option Destination) := do
  let target ←
    if ← takeMark ">" then pure (some Target.file)
    else if ← takeMark ">>" then pure (some Target.append)
    else if ← takeMark "|" then pure (some Target.command)
    else pure none
  match target with
  | none => return none
  | some target => return some { target, name := ← choice true fuel }

def startsDestination : Option TokenKind → Bool
  | some (.mark s) => s == ">" || s == ">>" || s == "|"
  | _ => false

/-- Values with commas between them. -/
def valuesFrom : (fuel : Nat) → Reader (List Expr)
  | 0 => refuse
  | fuel + 1 => do
    let e ← expression true fuel
    if ← takeMark "," then
      skipNewlines
      return e :: (← valuesFrom fuel)
    else return [e]

/-- The values of a `print` statement; parentheses may stand around all of them. -/
def printed (fuel : Nat) : Reader (List Expr) := do
  let next ← peek
  if endsStatement next || startsDestination next then return []
  else
    let enclosed : Reader (List Expr) := do
      demand "("
      let values ← listed ")" fuel
      let next ← peek
      if endsStatement next || startsDestination next then return values else refuse
    orElse enclosed (valuesFrom fuel)

/-- A statement without others inside of it. -/
def simple (scope : Scope) (fuel : Nat) : Reader Stmt := do
  if ← takeWord "print" then
    let values ← printed fuel
    return .print values (← destination? fuel)
  else if ← takeWord "printf" then
    let values ← printed fuel
    if values.isEmpty then
      throw [{ line := ← line, message := txt "no arguments in call to printf" }]
    else return .printf values (← destination? fuel)
  else if ← takeWord "delete" then
    let name ← takeName
    if ← takeMark "[" then return .delete name (some (← listed "]" fuel))
    else return .delete name none
  else if ← takeWordWhere scope.perRecord "next" "improper use of next" then return .next
  else if ← takeWordWhere scope.perRecord "nextfile" "improper use of nextfile" then
    return .nextFile
  else if ← takeWordWhere scope.inLoop "break" "break statement outside of loop" then
    return .leaveLoop
  else if ← takeWordWhere scope.inLoop "continue" "continue statement outside of loop" then
    return .nextRound
  else if ← takeWord "exit" then
    if endsStatement (← peek) then return .exit none
    else return .exit (some (← expression false fuel))
  else if ← takeWordWhere scope.inFunction "return" "return outside function body" then
    if endsStatement (← peek) then return .giveBack none
    else return .giveBack (some (← expression false fuel))
  else return .expression (← expression false fuel)

/-- Something that may be left out before a mark. -/
def optionalBefore {α : Type} (mark : String) (read : Reader α) : Reader (Option α) := do
  if ← takeMark mark then return none
  else
    let a ← read
    demand mark
    return some a

mutual

def statement (scope : Scope) : (fuel : Nat) → Reader Stmt
  | 0 => refuse
  | fuel + 1 => do
    if ← takeMark "\x7b" then return .block (← body scope fuel)
    else if ← takeMark ";" then return .block []
    else if ← takeWord "if" then
      demand "("
      let condition ← expression false fuel
      demand ")"
      skipNewlines
      let yes ← statement scope fuel
      let rest ← get
      skipEnds
      if ← takeWord "else" then
        skipNewlines
        return .choice condition yes (some (← statement scope fuel))
      else
        set rest
        return .choice condition yes none
    else if ← takeWord "while" then
      demand "("
      let condition ← expression false fuel
      demand ")"
      if ← takeMark ";" then return .loop condition (.block [])
      else
        skipNewlines
        return .loop condition (← statement { scope with inLoop := true } fuel)
    else if ← takeWord "do" then
      skipNewlines
      let inner ← statement { scope with inLoop := true } fuel
      skipEnds
      if ← takeWord "while" then
        demand "("
        let condition ← expression false fuel
        demand ")"
        statementEnd
        return .loopAfter inner condition
      else refuse
    else if ← takeWord "for" then counted { scope with inLoop := true } fuel
    else
      let s ← simple scope fuel
      statementEnd
      return s

/-- A loop that counts, or one over an array, after its first word. -/
def counted (scope : Scope) : (fuel : Nat) → Reader Stmt
  | 0 => refuse
  | fuel + 1 => do
    demand "("
    match ← get with
    | { kind := .name name, .. } :: { kind := .word "in", .. } :: { kind := .name array, .. } ::
        { kind := .mark ")", .. } :: rest =>
      set rest
      skipNewlines
      return .each name array (← statement scope fuel)
    | _ =>
      let start ← optionalBefore ";" (simple scope fuel)
      skipNewlines
      let condition ← optionalBefore ";" (expression false fuel)
      skipNewlines
      let step ← optionalBefore ")" (simple scope fuel)
      if ← takeMark ";" then return .counting start condition step (.block [])
      else
        skipNewlines
        return .counting start condition step (← statement scope fuel)

/-- Statements up to a closing brace. -/
def body (scope : Scope) : (fuel : Nat) → Reader (List Stmt)
  | 0 => refuse
  | fuel + 1 => do
    skipEnds
    if ← takeMark "\x7d" then return []
    else
      let s ← statement scope fuel
      return s :: (← body scope fuel)

end

/-! ## Rules -/

def action (scope : Scope) (fuel : Nat) : Reader (List Stmt) := do
  demand "\x7b"
  body scope fuel

/-- Names with commas between them, up to a parenthesis. -/
def parameters : (fuel : Nat) → Reader (List Chars)
  | 0 => refuse
  | fuel + 1 => do
    if ← takeMark ")" then return []
    else
      let name ← takeName
      let _ ← takeMark ","
      skipNewlines
      return name :: (← parameters fuel)

def function (fuel : Nat) : Reader Function := do
  match ← peek with
  | some (.name name) | some (.call name) =>
    skip
    demand "("
    let parameters ← parameters fuel
    skipNewlines
    return { name, parameters, body := ← action { inFunction := true } fuel }
  | _ => refuse

/-- Refuses a brace that closes nothing. -/
def refuseExtraBrace : Reader Unit := do
  match ← get with
  | { kind := .mark "\x7d", line } :: rest =>
    let near := match rest with
      | t :: _ => t.kind.shown
      | [] => TokenKind.newline.shown
    throw [{ line, message := txt "extra '\x7d'" },
      { line, message := txt "syntax error at or near " ++ near }]
  | _ => return

def rule (fuel : Nat) : Reader Rule := do
  refuseExtraBrace
  if ← takeWord "BEGIN" then return { pattern := .begin, action := some (← action {} fuel) }
  else if ← takeWord "END" then return { pattern := .finish, action := some (← action {} fuel) }
  else
    let act := action { perRecord := true } fuel
    if ← isMark "\x7b" then return { pattern := .always, action := some (← act) }
    else
      let first ← expression false fuel
      let pattern ←
        if ← takeMark "," then
          skipNewlines
          pure (Pattern.between first (← expression false fuel))
        else pure (Pattern.when first)
      if ← isMark "\x7b" then return { pattern, action := some (← act) }
      else return { pattern, action := none }

def script (s : Script) : (fuel : Nat) → Reader Script
  | 0 => return s
  | fuel + 1 => do
    skipEnds
    if (← get).isEmpty then return s
    else if ← takeWord "function" then
      let f ← function fuel
      script { s with functions := s.functions ++ [f] } fuel
    else
      let r ← rule fuel
      script { s with rules := s.rules ++ [r] } fuel

end Reader

/-- How many braces are open at the end of some tokens. -/
def openBraces (ts : List Token) : Int :=
  ts.foldl (fun n t =>
    match t.kind with
    | .mark "\x7b" => n + 1
    | .mark "\x7d" => n - 1
    | _ => n) 0

/-- A pattern in a program that is none. -/
def patternFault? (ts : List Token) : Option Fault :=
  ts.findSome? fun t =>
    match t.kind with
    | .pattern s =>
      match readPattern s with
      | .ok _ => none
      | .error f => some { line := t.line, message := f.message s }
    | _ => none

/-- The functions that are called and not defined, the last one first. -/
def undefined (ts : List Token) (s : Script) : List Chars :=
  (ts.filterMap fun t =>
    match t.kind with
    | .call name => if s.functions.any (·.name == name) then none else some name
    | _ => none).reverse.eraseDups

/-- The variables and functions that a program names. -/
def namesIn (ts : List Token) : List Chars :=
  (ts.filterMap fun t =>
    match t.kind with
    | .name s | .call s => some s
    | _ => none).eraseDups

/-- The script that a text writes, with the names in it. -/
def Script.read (text : Chars) : Except (List Fault) (Script × List Chars) :=
  match tokens (text ++ ['\n']) with
  | .error fault => .error [fault]
  | .ok ts =>
    let last := (text.filter (· == '\n')).length + 2
    match patternFault? ts, (Reader.script {} (8 * ts.length + 64)).run ts with
    | some fault, _ => .error [fault]
    | none, .ok (s, _) =>
      match undefined ts s with
      | [] => .ok (s, namesIn ts)
      | names =>
        .error (names.map fun n =>
          { line := last, message := txt "function " ++ n ++ txt " never defined" })
    | none, .error faults =>
      match faults with
      | [fault] =>
        if fault.line = 0 then
          let unclosed := if fault.message = Reader.missingBracket
            then [{ fault with line := last - 1 }] else []
          if 0 < openBraces ts then
            .error (unclosed ++ [{ line := last, message := txt "missing \x7d near end of file" }])
          else if unclosed.isEmpty then .error [{ fault with line := last }]
          else .error unclosed
        else .error [fault]
      | faults => .error faults

end Conformance.Host.Awk
