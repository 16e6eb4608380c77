import Conformance.Manifest.Json.Scalar

/-!
# Values

A value is read against its shape. Values of unknown keys are passed over, with the brackets that
are open on a stack. Reading a shape follows the shape, and its loops take a byte in each round.
-/
namespace Conformance.Manifest.Json

/-! ## Passing over a value -/

inductive Bracket
  | list
  | object
deriving DecidableEq, Repr

/-- The fault of a bracket that is not closed. -/
def Bracket.endFault : Bracket → SyntaxFault
  | list => .endInList
  | object => .endInObject

def Bracket.expectedEnd : Bracket → SyntaxFault
  | list => .expectedListEnd
  | object => .expectedObjectEnd

def Bracket.close : Bracket → Char
  | list => ']'
  | object => '\x7d'

def colon : Reader Unit := do
  match ← token with
  | some ':' => advance
  | some _ => failNext .expectedColon
  | none => failNext .endInObject

/-- Passes over a scalar, or opens a bracket. -/
def passScalar : Reader (Option Bracket) := do
  match ← token with
  | none => failNext .endInValue
  | some c =>
    match c with
    | 'n' => advance; word "ull".toList; return none
    | 't' => advance; word "rue".toList; return none
    | 'f' => advance; word "alse".toList; return none
    | '-' => advance; passNumber; return none
    | '"' => advance; passString; return none
    | '[' => advance; return some .list
    | '\x7b' => advance; return some .object
    | c =>
      if isDigit c then do
        passNumber
        return none
      else failNext .expectedValue

/-- Passes over a key and its colon. -/
def passKey : Reader Unit := do
  match ← token with
  | some '"' => advance
  | some _ => failNext .keyNoString
  | none => failNext .endInObject
  passString
  colon

/-- Closes the brackets that end here, and stops before the next value of an open one; `fresh` says
that the first one was opened just now. What stays open is returned. -/
def closeBrackets (fresh : Bool) : List Bracket → Reader (List Bracket)
  | [] => return []
  | b :: bs => do
    match ← token with
    | none => failNext b.endFault
    | some c =>
      if c = ',' ∧ !fresh then
        advance
        return b :: bs
      else if c = b.close then
        advance
        closeBrackets false bs
      else if fresh then return b :: bs
      else failNext b.expectedEnd

/-- Passes over values until no bracket is open. -/
def passValues (opened : List Bracket) : (steps : Nat) → Reader Unit
  | 0 => return ()
  | steps + 1 => do
    let opened' ← match ← passScalar with
      | some b => closeBrackets true (b :: opened)
      | none => closeBrackets false opened
    match opened' with
    | [] => return ()
    | .list :: _ => passValues opened' steps
    | .object :: _ =>
      passKey
      passValues opened' steps

/-- Passes over one value. -/
def passValue : Reader Unit := do
  passValues [] ((← left) + 1)

/-! ## Reading a value -/

/-- Fails because the value that starts with `c` has another shape than `expected`. Scalars are
taken before, and may be at fault themselves. -/
def wrongType {α : Type} (c : Char) (expected : String) : Reader α := placed do
  let found ← match c with
    | 'n' => advance; word "ull".toList; pure Found.null
    | 't' => advance; word "rue".toList; pure (.truth true)
    | 'f' => advance; word "alse".toList; pure (.truth false)
    | '-' => advance; pure (← number false).found
    | '"' => advance; pure (.text (← string))
    | '[' => pure .list
    | '\x7b' => pure .record
    | c => if isDigit c then pure (← number true).found else failNext .expectedValue
  failShape (.wrongType found expected)

def text : Reader Datum := do
  match ← token with
  | none => failNext .endInValue
  | some '"' =>
    advance
    return .text (← string)
  | some c => wrongType c Shape.text.expected

def codeOf (n : Number) : Reader Datum :=
  match n with
  | .integer n =>
    if fitsCode n then return .code n
    else failShape (.wrongValue (.integer n) Shape.code.expected)
  | .decimal _ => failShape (.wrongType n.found Shape.code.expected)

def code : Reader Datum := do
  match ← token with
  | none => failNext .endInValue
  | some '-' =>
    advance
    placed do codeOf (← number false)
  | some c =>
    if isDigit c then placed do codeOf (← number true)
    else wrongType c Shape.code.expected

/-- Whether a list has another item; `first` if none was read. -/
def anotherItem (first : Bool) : Reader Bool := do
  match ← token with
  | none => failNext .endInList
  | some ']' => return false
  | some c =>
    if first then return true
    else if c = ',' then
      advance
      match ← token with
      | some ']' => failNext .trailingComma
      | some _ => return true
      | none => failNext .endInValue
    else failNext .expectedListEnd

def closeList : Reader Unit := do
  match ← token with
  | some ']' => advance
  | some ',' =>
    advance
    match ← token with
    | some ']' => failNext .trailingComma
    | _ => failNext .trailingText
  | some _ => failNext .trailingText
  | none => failNext .endInList

def closeObject : Reader Unit := do
  match ← token with
  | some '\x7d' => advance
  | some ',' => failNext .trailingComma
  | some _ => failNext .trailingText
  | none => failNext .endInObject

def itemsFrom (item : Reader Datum) (first : Bool) : (steps : Nat) → Reader (List Datum)
  | 0 => return []
  | steps + 1 => do
    if ← anotherItem first then
      let d ← item
      return d :: (← itemsFrom item false steps)
    else return []

def list (item : Reader Datum) (expected : String) : Reader Datum := do
  match ← token with
  | none => failNext .endInValue
  | some '[' => placed do
    advance
    closedBy (do return .list (← itemsFrom item true ((← left) + 1))) closeList
  | some c => wrongType c expected

/-- A field with the reader of its shape. -/
structure FieldReader where
  name : String
  mayLack : Bool
  isOptional : Bool
  read : Reader Datum

/-- The fields of a bare list, in order. -/
def bareFields (record : String) (count : Nat) (index : Nat) :
    List FieldReader → Reader (List (String × Datum))
  | [] => return []
  | f :: fs => do
    let d ←
      if ← anotherItem (index = 0) then f.read
      else if f.mayLack then pure (.list [])
      else failShape (.wrongLength index (Shape.expectedBare record count))
    return (f.name, d) :: (← bareFields record count (index + 1) fs)

/-- The key of the next field, if there is one; `first` if none was read. -/
def anotherKey (first : Bool) : Reader (Option String) := do
  let key : Reader (Option String) := do
    advance
    return some (← string)
  match ← token with
  | none => failNext .endInObject
  | some '\x7d' => return none
  | some c =>
    if first then
      if c = '"' then key else failNext .keyNoString
    else if c = ',' then
      advance
      match ← token with
      | some '"' => key
      | some '\x7d' => failNext .trailingComma
      | some _ => failNext .keyNoString
      | none => failNext .endInValue
    else failNext .expectedObjectEnd

/-- The fields of an object by their keys, after those in `read`. -/
def keyedFrom (fields : List FieldReader) (first : Bool) (read : List (String × Datum)) :
    (steps : Nat) → Reader (List (String × Datum))
  | 0 => return read
  | steps + 1 => do
    match ← anotherKey first with
    | none => return read
    | some key =>
      match fields.find? (·.name == key) with
      | some f =>
        if (read.lookup key).isSome then failShape (.repeatedField key)
        else
          colon
          let d ← f.read
          keyedFrom fields false ((key, d) :: read) steps
      | none =>
        colon
        passValue
        keyedFrom fields false read steps

/-- All fields in order, with what stands for a lacking one. -/
def complete (read : List (String × Datum)) : List FieldReader → Reader (List (String × Datum))
  | [] => return []
  | f :: fs => do
    let d ← match read.lookup f.name with
      | some d => pure d
      | none =>
        if f.mayLack then pure (.list [])
        else if f.isOptional then pure .absent
        else failShape (.missingField f.name)
    return (f.name, d) :: (← complete read fs)

def record (name : String) (fields : List FieldReader) : Reader Datum := do
  match ← token with
  | none => failNext .endInValue
  | some '[' => placed do
    advance
    closedBy (do return .record (← bareFields name fields.length 0 fields)) closeList
  | some '\x7b' => placed do
    advance
    closedBy (do return .record (← complete (← keyedFrom fields true [] ((← left) + 1)) fields))
      closeObject
  | some c => wrongType c (Shape.record name []).expected

def optional (present : Reader Datum) : Reader Datum := do
  match ← token with
  | some 'n' =>
    advance
    word "ull".toList
    return .absent
  | _ => present

mutual

/-- Reads a value of a shape. -/
def read : Shape → Reader Datum
  | .text => text
  | .code => code
  | .optional shape => optional (read shape)
  | .list shape => list (read shape) (Shape.list shape).expected
  | .record name fields => record name (readers fields)

def readers : List Field → List FieldReader
  | [] => []
  | f :: fs => reader f :: readers fs

def reader : Field → FieldReader
  | .mk name mayLack shape =>
    { name, mayLack, read := read shape
      isOptional := match shape with
        | .optional _ => true
        | _ => false }

end

/-- A document: one value and nothing after it. -/
def document (shape : Shape) : Reader Datum := do
  let d ← read shape
  match ← token with
  | some _ => failNext .trailingText
  | none => return d

/-- The value of a document of a shape. -/
def parse (shape : Shape) (content : String) : Except Fault Datum :=
  match document shape { rest := Text.encode content } with
  | .ok d _ => .ok d
  | .error f _ => .error f

/-- What is wrong and where. -/
def Fault.text (f : Fault) : String :=
  match f.position with
  | none => f.cause.message
  | some p =>
    f.cause.message ++ " at line " ++ toString p.line ++ " column " ++ toString p.column

end Conformance.Manifest.Json
