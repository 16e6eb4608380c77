import Conformance.Host.Awk.Machine
import Conformance.Host.Awk.Reader
import Conformance.Host.Awk.Pattern
import Conformance.Host.Awk.Format

/-!
# Running programs over records

An expression gives a value and a statement is carried out; both take the evaluator of what is
inside them as an argument.
-/
namespace Conformance.Host.Awk

open Utility (Regex)

/-- What evaluates expressions and carries out statements. -/
structure Evaluator where
  value : Expr → Run Value
  act : Stmt → Run Unit

/-- Something that can be assigned to. -/
inductive Place
  | variable (name : Chars)
  | field (number : Nat)
  | element (array : Nat) (key : Key)

def Place.read : Place → Run Value
  | .variable name => held name
  | .field n => Awk.field n
  | .element i key => do
    match (← get).slots[i]? with
    | some (.table t) =>
      let (v, t) := t.find? key
      match v with
      | some v =>
        setArray i t
        return v
      | none =>
        setArray i (t.insert key .unset)
        return .unset
    | _ =>
      setArray i (({} : Table).insert key .unset)
      return .unset

def Place.assign (p : Place) (v : Value) : Run Unit :=
  match p with
  | .variable name => setVariable name v
  | .field n => setField n v
  | .element i key => do
    match (← get).slots[i]? with
    | some (.table t) => setArray i (t.insert key v)
    | _ => setArray i (({} : Table).insert key v)

/-- The key that a value is. -/
def keyOf (v : Value) : Run Key := do
  match v with
  | .number x => return { text := ← textOf v, counted := x.whole?.isSome }
  | _ => return { text := ← textOf v }

/-- The next of some numbers that look random, and the number between zero and one for it. -/
def nextSeed (seed : Nat) : Nat × Float :=
  let n := (seed * 16807 + 1) % 0x7fffffff
  (n, Float.ofNat n / 0x7fffffff.toFloat)

section

variable (start : Shell.Start) (functions : List Function) (inner : Evaluator)

def valueText (e : Expr) : Run Chars := do
  textOf (← inner.value e)

def valueNumber (e : Expr) : Run Number := do
  return (← inner.value e).toNumber

/-- The key of some subscripts. -/
def subscriptKey (subscripts : List Expr) : Run Key := do
  match subscripts with
  | [e] => keyOf (← inner.value e)
  | _ =>
    let parts ← subscripts.mapM fun e => valueText inner e
    return { text := Chars.join (← textOf (← global "SUBSEP")) parts }

/-- The pattern that an expression stands for. -/
def patternOf (e : Expr) : Run Regex := do
  match e with
  | .pattern s => orFail s (readPattern s)
  | _ =>
    let s ← valueText inner e
    orFail s (readPattern s)

/-- The place that an expression names. -/
def placeOf? (e : Expr) : Run (Option Place) := do
  match e with
  | .variable name => return some (.variable name)
  | .field index => return some (.field (← fieldNumber (← inner.value index)))
  | .element array subscripts =>
    let key ← subscriptKey inner subscripts
    return some (.element (← arrayAt array).1 key)
  | .group (.field index) => return some (.field (← fieldNumber (← inner.value index)))
  | _ => return none

/-- Whether a value fits a pattern. -/
def fitsPattern (v : Value) (r : Regex) : Run Bool := do
  return (r.find? [] (← textOf v)).isSome

/-! ## Functions -/

/-- What a function gets for an argument: an array itself, a value otherwise. -/
def argument (e : Expr) : Run (Sum Nat Slot) := do
  match e with
  | .variable name =>
    match ← slotOf? name with
    | none => return .inr (.value (← held name))
    | some i =>
      match (← get).slots[i]? with
      | some (.table _) => return .inl i
      | some (.unset _) =>
        let s ← get
        let origin ← arraySlot s.slots.size i
        match s.slots[origin]? with
        | some (.table _) => return .inl origin
        | _ => return .inr (.unset (some i))
      | _ => return .inr (.value (← held name))
  | _ => return .inr (.value (← inner.value e))

/-- Gives the parameters of a function their arguments. -/
def bindParameters : List Chars → List (Sum Nat Slot) → Run (List (Chars × Nat))
  | [], _ => return []
  | name :: names, args => do
    let bound ← match args with
      | .inl i :: _ => pure i
      | .inr slot :: _ => fresh slot
      | [] => fresh (.unset none)
    return (name, bound) :: (← bindParameters names (args.drop 1))
where
  fresh (slot : Slot) : Run Nat := do
    let n := (← get).slots.size
    modify fun s => { s with slots := s.slots.push slot }
    return n

/-- How many parameters functions may have at one time that are being called. -/
def maxParameters : Nat := 1007

/-- Calls a function of the program. -/
def callFunction (f : Function) (args : List Expr) : Run Value := do
  let args ← args.mapM fun e => argument inner e
  let before ← get
  let parameters := before.parameters + f.parameters.length
  if maxParameters < parameters then
    throw (.fault (txt "program limit exceeded: eval stack size=1024"))
  let locals ← bindParameters f.parameters args
  modify fun s => { s with locals, parameters }
  let outcome ← catchJump (inner.act (.block f.body))
  modify fun s =>
    { s with
      locals := before.locals
      parameters := before.parameters
      slots := s.slots.take before.slots.size }
  match outcome with
  | .ok _ => return .unset
  | .error (.giveBack v) => return v
  | .error jump => throw jump

/-- Replaces matches in a place. -/
def substituteIn (all : Bool) (pattern form : Expr) (target : Expr) : Run Value := do
  let r ← patternOf inner pattern
  let form ← valueText inner form
  let place ← placeOf? inner target
  let old ← match place with
    | some p => p.read
    | none => inner.value target
  let (new, n) := substituted r form all (← textOf old)
  match place with
  | some p => if n ≠ 0 then p.assign (.text new)
  | none => pure ()
  return .ofNat n

/-- What stands between the parts of a text that is split. -/
def separatorOf (e : Option Expr) : Run FieldSeparator := do
  match e with
  | none => fieldSeparator
  | some (.pattern s) => return .pattern (← orFail s (readPattern s))
  | some e =>
    let s ← valueText inner e
    orFail s (FieldSeparator.read s)

/-- Splits a text into the elements of an array. -/
def splitInto (e array : Expr) (sep : Option Expr) : Run Value := do
  let s ← valueText inner e
  let parts := (← separatorOf inner sep).split s
  match array with
  | .variable name =>
    let (i, _) ← arrayAt name
    setArray i (Table.ofValues (parts.map Value.ofInput))
  | _ => pure ()
  return .ofNat parts.length

/-- A format applied to values, with the format itself. -/
def formatted (es : List Expr) : Run (Chars × Formatted) := do
  let form ← match es.head? with
    | some e => valueText inner e
    | none => pure []
  let values ← (es.drop 1).mapM inner.value
  return (form, format (← textOf (← global "CONVFMT")) form values)

/-- Ends the program if a format could not be applied. -/
def checkFormat (name : String) (form : Chars) (fault : Option FormatFault) : Run Unit := do
  let shown := txt name ++ txt "(\"" ++ form ++ txt "\")"
  match fault with
  | none => return
  | some .missing => fail (txt "not enough arguments passed to " ++ shown)
  | some (.improper n) =>
    fail (txt "improper conversion(number " ++ Chars.ofNat n ++ txt ") in " ++ shown)

/-- The length of a value, or the number of elements of an array. -/
def lengthOfValue (e : Option Expr) : Run Value := do
  match e with
  | none => return .ofNat (← textOf (← get).record).length
  | some (.variable name) =>
    let s ← get
    let (i, t) ← arrayAt name
    match s.slots[i]? with
    | some (.table _) => return .ofNat t.size
    | _ => return .ofNat (← textOf (← held name)).length
  | some e => return .ofNat (← valueText inner e).length

/-- A function that every program has. -/
def callBuiltin (name : String) (args : List Expr) : Run Value := do
  let arg (i : Nat) : Expr := args[i]?.getD (.text [])
  let text (i : Nat) : Run Chars := valueText inner (arg i)
  let number (i : Nat) : Run Number := valueNumber inner (arg i)
  let computed (f : Float → Float) : Run Value := do
    return .number ((← number 0).map f)
  match name with
  | "length" => lengthOfValue inner args.head?
  | "substr" =>
    let s ← text 0
    let first ← number 1
    match args[2]? with
    | none => return .text (partOf s first.whole none)
    | some e =>
      let n ← valueNumber inner e
      return .text (partOf s first.whole (some n.whole))
  | "index" =>
    let s ← text 0
    return .ofNat (placeOf (← text 1) 1 s)
  | "split" => splitInto inner (arg 0) (arg 1) args[2]?
  | "sub" => substituteIn inner false (arg 0) (arg 1) (args[2]?.getD (.field (.number 0)))
  | "gsub" => substituteIn inner true (arg 0) (arg 1) (args[2]?.getD (.field (.number 0)))
  | "match" =>
    let s ← text 0
    let r ← patternOf inner (arg 1)
    let (place, length) : Nat × Int := match firstMatch r s with
      | some (p, n) => (p, n)
      | none => (0, -1)
    setGlobal "RSTART" (.ofNat place)
    setGlobal "RLENGTH" (.ofInt length)
    return .ofNat place
  | "sprintf" =>
    let (form, f) ← formatted inner args
    checkFormat name form f.fault
    return .text f.output
  | "sin" => computed Float.sin
  | "cos" => computed Float.cos
  | "atan2" =>
    let y ← number 0
    return .number (.combine Float.atan2 y (← number 1))
  | "exp" => computed Float.exp
  | "log" => computed Float.log
  | "sqrt" => computed Float.sqrt
  | "int" => return .number (← number 0).truncated
  | "rand" =>
    let (seed, x) := nextSeed (← get).seed
    modify fun s => { s with seed }
    return .number (.ofFloat x)
  | "srand" =>
    let old := (← get).seed
    let new ← if args.isEmpty then pure 0 else do pure (← number 0).whole.natAbs
    modify fun s => { s with seed := new }
    return .ofNat old
  | "systime" => return .ofInt (Int.fdiv (← currentDate) 1000000000)
  | "mktime" => return .ofInt ((secondsOf? (← text 0)).getD (-1))
  | "strftime" =>
    let format ← if args.isEmpty then pure [] else text 0
    let seconds ← if args.length < 2 then pure (Int.fdiv (← currentDate) 1000000000)
      else do pure ((← number 1).wholeBetween (-maxSeconds) maxSeconds)
    let universal ← if args.length < 3 then pure false else do pure (← inner.value (arg 2)).holds
    return .text (timeShown format seconds universal)
  | "tolower" => return .text ((← text 0).map Char.toLower)
  | "toupper" => return .text ((← text 0).map Char.toUpper)
  | "system" =>
    let command ← text 0
    flushAll
    return .ofNat (← awaitCommand (Shell.runCommand start (txt "sh") command))
  | "close" =>
    let name ← text 0
    return .ofInt (← closeNamed name)
  | "fflush" =>
    if args.isEmpty then flushOutput else flushAll
    return .number 0
  | _ => return .unset

/-! ## Lines that are asked for -/

/-- Takes a record and puts it into a place; the value tells whether there was one. -/
def takeLine (origin : Origin) (source place : Option Expr) : Run Value := do
  let name ← match source with
    | some e => valueText inner e
    | none => pure []
  let target ← match place with
    | some e => placeOf? inner e
    | none => pure none
  let found ← match origin with
    | .input => do pure (Except.ok (← nextRecord maxOperands))
    | .file => nextOf start false name
    | .command => nextOf start true name
  match found with
  | .error () => return .ofInt (-1)
  | .ok none => return .number 0
  | .ok (some s) =>
    match target with
    | some p => p.assign (.ofInput s)
    | none => setRecord (.ofInput s)
    return .number 1

/-! ## Expressions -/

/-- Assigns to a place, and gives the value of it. -/
def assignTo (operation : Option Arithmetic) (place value : Expr) : Run Value := do
  match ← placeOf? inner place with
  | none => return .unset
  | some p =>
    let v ← inner.value value
    let new ← match operation with
      | none => pure v
      | some operation => do
        let old ← p.read
        pure (.number (Number.compute operation old.toNumber v.toNumber))
    p.assign new
    return new

/-- Evaluates an expression; `inner` evaluates what is inside of it. -/
def valueStep (e : Expr) : Run Value := do
  match e with
  | .number x => return .number (.ofFloat x)
  | .text s => return .text s
  | .pattern s =>
    let r ← orFail s (readPattern s)
    return .ofBool (← fitsPattern (← get).record r)
  | .variable name => held name
  | .field index => Awk.field (← fieldNumber (← inner.value index))
  | .element array subscripts =>
    let key ← subscriptKey inner subscripts
    Place.read (.element (← arrayAt array).1 key)
  | .assign operation place value => assignTo inner operation place value
  | .choice condition yes no =>
    if (← inner.value condition).holds then inner.value yes else inner.value no
  | .both left right =>
    if (← inner.value left).holds then return .ofBool (← inner.value right).holds
    else return .ofBool false
  | .either left right =>
    if (← inner.value left).holds then return .ofBool true
    else return .ofBool (← inner.value right).holds
  | .arithmetic operation left right =>
    let x ← valueNumber inner left
    return .number (Number.compute operation x (← valueNumber inner right))
  | .compare c left right =>
    let a ← inner.value left
    let b ← inner.value right
    return .ofBool (a.compares (← textOf (← global "CONVFMT")) c b)
  | .concat left right =>
    let s ← valueText inner left
    return .text (s ++ (← valueText inner right))
  | .fits negated value pattern =>
    let v ← inner.value value
    let found ← fitsPattern v (← patternOf inner pattern)
    return .ofBool (found != negated)
  | .member subscripts array =>
    let key ← subscriptKey inner subscripts
    let (i, t) ← arrayAt array
    let (v, t) := t.find? key
    setArray i t
    return .ofBool v.isSome
  | .signed sign value =>
    let v ← inner.value value
    match sign with
    | .plus => return .number v.toNumber
    | .minus => return .number (-v.toNumber)
    | .not => return .ofBool !v.holds
  | .step before up place =>
    match ← placeOf? inner place with
    | none => return .unset
    | some p =>
      let x := (← p.read).toNumber
      let y := if up then x + 1 else x - 1
      p.assign (.number y)
      return .number (if before then y else x)
  | .call name args =>
    match functions.find? (·.name == name) with
    | some f => callFunction inner f args
    | none => return .unset
  | .builtin name args => callBuiltin start inner name args
  | .getline origin source place => takeLine start inner origin source place
  | .group value => inner.value value

/-! ## Statements -/

/-- Where the output of a statement goes. -/
def outputTo (destination : Option Destination) : Run (Chars → Run Unit) := do
  match destination with
  | none => return put
  | some d =>
    let name ← valueText inner d.name
    return putTo start d.target name

/-- The text that a value is printed as. -/
def printedText (v : Value) : Run Chars := do
  match v with
  | .number _ => return v.toText (← textOf (← global "OFMT"))
  | _ => textOf v

/-- Goes through so many rounds of a loop at most, while `round` says so. Each counts as so many as
`weight` tells. -/
def roundsWithin (weight : Nat) (round : Run Bool) : (count : Nat) → Run Unit
  | 0 => (waitForEver : Act Unit)
  | count + 1 => fun s scene =>
    let again (s : State) : Act (Except Jump Unit × State) :=
      if s.roundsLeft = 0 then roundsWithin weight round 0 s else roundsWithin weight round count s
    match round { s with roundsLeft := s.roundsLeft - weight } scene with
    | .done (.ok true, s) scene => again s scene
    | .done (.ok false, s) scene => .done (.ok (), s) scene
    | .done (.error jump, s) scene => .done (.error jump, s) scene
    | .left e scene => .left e scene
    | c => c.andThen fun
      | (.ok true, s) => again s
      | (.ok false, s) => .done (.ok (), s)
      | (.error jump, s) => .done (.error jump, s)

/-- Goes through the rounds of a loop, while `round` says so. Too many rounds, of all loops
together, count as a loop without end. -/
def rounds (weight : Nat) (round : Run Bool) : Run Unit := do
  roundsWithin weight round (← get).roundsLeft

/-- Runs the body of a loop; whether the loop goes on. -/
def roundOf (body : Stmt) : Run Bool := do
  match ← catchJump (inner.act body) with
  | .ok _ | .error .nextRound => return true
  | .error .leaveLoop => return false
  | .error jump => throw jump

def eachKey (name : Chars) (body : Stmt) : List Chars → Run Unit
  | [] => return
  | key :: keys => do
    setVariable name (.text key)
    if ← roundOf inner body then eachKey name body keys else return

/-- Carries out a statement; `inner` carries out what is inside of it. -/
def actStep (s : Stmt) : Run Unit := do
  match s with
  | .expression e =>
    let _ ← inner.value e
    return
  | .print values destination =>
    let shown ← if values.isEmpty then do pure [← textOf (← get).record]
      else values.mapM fun e => do printedText (← inner.value e)
    let output ← outputTo start inner destination
    let separator ← textOf (← global "OFS")
    output (Chars.join separator shown ++ (← textOf (← global "ORS")))
  | .printf values destination =>
    let output ← outputTo start inner destination
    let (form, f) ← formatted inner values
    output f.output
    checkFormat "printf" form f.fault
  | .block body => body.forM inner.act
  | .choice condition yes no =>
    if (← inner.value condition).holds then inner.act yes
    else
      match no with
      | some s => inner.act s
      | none => return
  | .loop condition body =>
    rounds 1 (do
      if (← inner.value condition).holds then roundOf inner body else return false)
  | .loopAfter body condition =>
    rounds 1 (do
      if ← roundOf inner body then return (← inner.value condition).holds else return false)
  | .counting first condition step body =>
    match first with
    | some s => inner.act s
    | none => pure ()
    rounds 1 (do
      let goesOn ← match condition with
        | some e => do pure (← inner.value e).holds
        | none => pure true
      if !goesOn then return false
      if !(← roundOf inner body) then return false
      match step with
      | some s => inner.act s
      | none => pure ()
      return true)
  | .each name array body =>
    let (i, t) ← arrayAt array
    let (keys, t) := t.keys
    setArray i t
    eachKey inner name body keys
  | .delete array subscripts =>
    match subscripts with
    | none =>
      let (i, _) ← arrayAt array
      setArray i {}
    | some subscripts =>
      let key ← subscriptKey inner subscripts
      let (i, t) ← arrayAt array
      setArray i (t.erase key)
  | .leaveLoop => throw .leaveLoop
  | .nextRound => throw .nextRound
  | .next => throw .next
  | .nextFile => throw .nextFile
  | .exit status =>
    match status with
    | some e =>
      let n := (← valueNumber inner e).whole % 256
      modify fun s => { s with status := n.toNat }
    | none => pure ()
    throw .exit
  | .giveBack value =>
    match value with
    | some e => throw (.giveBack (← inner.value e))
    | none => throw (.giveBack .unset)

end

/-- Evaluates up to some depth. -/
def evaluatorWithin (start : Shell.Start) (functions : List Function) : (depth : Nat) → Evaluator
  | 0 =>
    { value := fun _ => (waitForEver : Act Value)
      act := fun _ => (waitForEver : Act Unit) }
  | depth + 1 =>
    let inner := evaluatorWithin start functions depth
    { value := valueStep start functions inner, act := actStep start inner }

def maxDepth : Nat := 20000

/-! ## Rules -/

section

variable (run : Evaluator)

/-- Whether a rule with a number applies to the current record. -/
def applies (number : Nat) (p : Pattern) : Run Bool := do
  match p with
  | .begin | .finish => return false
  | .always => return true
  | .when e => return (← run.value e).holds
  | .between first last =>
    let inside := (← get).between.contains number
    let begins ← if inside then pure true else do pure (← run.value first).holds
    if !begins then return false
    if (← run.value last).holds then
      modify fun s => { s with between := s.between.filter (· != number) }
    else modify fun s => { s with between := number :: s.between.filter (· != number) }
    return true

/-- Carries out what a rule asks for. -/
def actOn (r : Rule) : Run Unit :=
  match r.action with
  | some body => run.act (.block body)
  | none => run.act (.print [] none)

/-- Applies the rules to the current record. -/
def applyRules (rules : List (Rule × Nat)) : Run Unit :=
  rules.forM fun (r, n) => do
    if ← applies run n r.pattern then actOn run r

/-- One record with all rules; whether there was one. -/
def recordRound (rules : List (Rule × Nat)) : Run Bool := do
  match ← nextRecord maxOperands with
  | none => return false
  | some s =>
    setRecord (.ofInput s)
    match ← catchJump (applyRules run rules) with
    | .ok _ | .error .next => return true
    | .error .nextFile =>
      modify fun s => { s with input := none }
      return true
    | .error jump => throw jump

/-- How many rounds of a loop a record counts as. -/
def recordWeight : Nat := 4

/-- Runs a part of a program; whether it asked for the end. -/
def part (body : Run Unit) : Run Bool := do
  match ← catchJump body with
  | .error .exit => return true
  | .error (.fault message) => throw (.fault message)
  | _ => return false

/-- Runs a whole program. -/
def runScript (s : Script) : Run Unit := do
  let rules := s.rules.zipIdx
  let ofKind (p : Pattern → Bool) : List Rule := s.rules.filter (fun r => p r.pattern)
  let openings := ofKind (· matches .begin)
  let closings := ofKind (· matches .finish)
  let ended ← part (openings.forM (actOn run))
  let needsInput := openings.length < s.rules.length
  let _ ← if ended || !needsInput then pure ended
    else part (rounds recordWeight (recordRound run rules))
  let _ ← part (closings.forM (actOn run))

end
end Conformance.Host.Awk
