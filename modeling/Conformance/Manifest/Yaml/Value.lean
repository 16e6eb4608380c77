import Conformance.Manifest.Yaml.Event
import Conformance.Manifest.Yaml.Number

/-!
# Documents and values

A document is the list of its events, aliases replaced by the position of what they stand for. A
fault in the text ends the list and is met when reading comes to that point. A text without any
document holds one that is void.

A value is read from the items of a document against its shape. An alias is read at the item that
it stands for. A plain scalar without text is an empty list, a record without fields or nothing.
Faults of the shape get the site of the innermost value around them.
-/
namespace Conformance.Manifest.Yaml

/-! ## Documents -/

inductive Item
  | void
  | aliasOf (target : Nat)
  | scalar (tag : Option String) (text : String) (style : Style)
  | sequenceStart
  | sequenceEnd
  | mappingStart
  | mappingEnd
deriving DecidableEq, Repr

/-- The items of a document with their places, and the positions that aliases stand for. -/
structure Items where
  items : Array (Item × Mark) := #[]
  targets : List (Nat × Nat) := []
  fault : Option Fault := none
  /-- Whether something follows the document. -/
  continued : Bool := false

/-- A document under way. Each anchor has the number of names that were given before it; where two
have one number, the later one counts. -/
structure Loading where
  items : Array (Item × Mark) := #[]
  names : List (String × Nat) := []
  targets : List (Nat × Nat) := []

/-- Adds an item. -/
def Loading.add (l : Loading) (item : Item) (mark : Mark) : Loading :=
  { l with items := l.items.push (item, mark) }

/-- Names the item that comes next. -/
def Loading.anchor (l : Loading) : Option String → Loading
  | none => l
  | some name =>
    let number := l.names.length
    { l with names := (name, number) :: l.names.filter (·.1 != name)
             targets := (number, l.items.size) :: l.targets }

def Loading.finish (l : Loading) (fault : Option Fault) (continued : Bool) : Items :=
  { items := l.items, targets := l.targets, fault, continued }

/-- Whether nothing but the end of the stream follows. -/
def endsStream : List Event → Bool
  | [e] => e.kind = .streamEnd
  | _ => false

/-- The document that the events start with. -/
def Loading.document (l : Loading) (fault : Option Fault) : List Event → Items
  | [] => l.finish fault true
  | e :: es =>
    match e.kind with
    | .documentStart => l.document fault es
    | .documentEnd => l.finish none (!endsStream es)
    | .streamEnd =>
      if l.items.isEmpty then (l.add .void e.mark).finish none false else l.finish none false
    | .aliasOf name =>
      match l.names.lookup name with
      | some number => (l.add (.aliasOf number) e.mark).document fault es
      | none => l.finish (some (.unknownAnchor e.mark)) true
    | .scalar anchor tag text style =>
      ((l.anchor anchor).add (.scalar tag text style) e.mark).document fault es
    | .sequenceStart anchor => ((l.anchor anchor).add .sequenceStart e.mark).document fault es
    | .sequenceEnd => (l.add .sequenceEnd e.mark).document fault es
    | .mappingStart anchor => ((l.anchor anchor).add .mappingStart e.mark).document fault es
    | .mappingEnd => (l.add .mappingEnd e.mark).document fault es

/-- The first document of a text. -/
def firstDocument (text : String) : Items :=
  let (es, fault) := events text.toList
  Loading.document {} fault es

/-! ## Values -/

structure Reading where
  document : Items
  position : Nat := 0
  jumps : Nat := 0

abbrev Reader := EStateM Fault Reading

namespace Reader

def peek : Reader (Item × Mark) := do
  let r ← get
  match r.document.items[r.position]? with
  | some item => return item
  | none => throw (r.document.fault.getD .noDocument)

def skip : Reader Unit :=
  modify fun r => { r with position := r.position + 1 }

def next : Reader (Item × Mark) := do
  let item ← peek
  skip
  return item

/-- How many items are left. -/
def left : Reader Nat := do
  let r ← get
  return r.document.items.size - r.position

/-- How often aliases may be followed, for each item. -/
def jumpsPerItem : Nat := 100

/-- Reads `body` where the alias points, and comes back. -/
def following {α : Type} (number : Nat) (body : Reader α) : Reader α := do
  let r ← get
  if r.document.items.size * jumpsPerItem < r.jumps + 1 then throw .tooManyAliases
  else
    set { r with jumps := r.jumps + 1, position := (r.document.targets.lookup number).getD 0 }
    let a ← body
    modify fun r' => { r' with position := r.position }
    return a

def failShape {α : Type} (fault : ShapeFault) : Reader α :=
  throw (.shape fault none)

/-- Gives the faults of `body` this site, if they have none. -/
def sited {α : Type} (site : Site) (body : Reader α) : Reader α := fun r =>
  match body r with
  | .ok a r' => .ok a r'
  | .error f r' => .error (f.sited site) r'

/-- Takes an item, or the one that an alias stands for, and reads on from there. -/
def node {α : Type} (trail : Trail) (f : Item → Reader α) : Reader α := do
  let (item, mark) ← next
  match item with
  | .aliasOf target =>
    sited { mark, trail } <| following target do
      let (item, mark) ← next
      sited { mark, trail } (f item)
  | item => sited { mark, trail } (f item)

/-! ## Items of another shape -/

def tagOf (name : String) : String :=
  "tag:yaml.org,2002:" ++ name

/-- What a scalar is that has another shape than expected; a tag may be at fault itself. -/
def foundScalar (tag : Option String) (text : String) (style : Style) : Except ShapeFault Found :=
  let s := text.toList
  let mistagged (what : String) : Except ShapeFault Found :=
    .error (.wrongValue (.text text) what)
  let untagged := if style = .plain then plainFound s else .text text
  match tag with
  | none => .ok untagged
  | some tag =>
    if tag = tagOf "bool" then
      match truth? s with
      | some b => .ok (.truth b)
      | none => mistagged "a boolean"
    else if tag = tagOf "int" then
      match wholeNumber? s with
      | some n => .ok n
      | none => mistagged "an integer"
    else if tag = tagOf "float" then
      match decimal? s with
      | some x => .ok (.decimal (Decimal.pointed x))
      | none => mistagged "a float"
    else if tag = tagOf "null" then
      if isNull s then .ok .unit else mistagged "null"
    else if tag.toList.head? = some '!' then .ok untagged
    else .ok (.text text)

def wrongType {α : Type} (expected : String) (item : Item) : Reader α :=
  match item with
  | .scalar tag text style =>
    match foundScalar tag text style with
    | .ok found => failShape (.wrongType found expected)
    | .error fault => failShape fault
  | .sequenceStart => failShape (.wrongType .list expected)
  | .mappingStart => failShape (.wrongType .record expected)
  | .void | .aliasOf _ | .sequenceEnd | .mappingEnd => throw .noDocument

/-! ## Reading a value -/

/-- A plain scalar without text, or no document at all. -/
def isEmpty : Item → Bool
  | .void => true
  | .scalar _ text style => text.isEmpty && style = .plain
  | _ => false

/-- Any scalar is text, as it is written. -/
def string (expected : String) (trail : Trail) : Reader String :=
  node trail fun
    | .scalar _ text _ => return text
    | item => wrongType expected item

def text (trail : Trail) : Reader Datum := do
  return .text (← string Shape.text.expected trail)

/-- Whether a scalar may be a number: plain, or a block with the tag of one. -/
def mayBeNumber (tag : Option String) (style : Style) : Bool :=
  style = .plain || (style = .literal && tag == some (tagOf "int"))

def code (trail : Trail) : Reader Datum :=
  node trail fun item =>
    let number := match item with
      | .scalar tag text style => if mayBeNumber tag style then integer? text.toList else none
      | _ => none
    match number with
    | some n =>
      if fitsCode n then return .code n
      else failShape (.wrongValue (.integer n) Shape.code.expected)
    | none => wrongType Shape.code.expected item

def itemsFrom (item : Trail → Reader Datum) (trail : Trail) (index : Nat) :
    (steps : Nat) → Reader (List Datum)
  | 0 => return []
  | steps + 1 => do
    match (← peek).1 with
    | .sequenceEnd | .void =>
      skip
      return []
    | _ =>
      let d ← item (.item index :: trail)
      return d :: (← itemsFrom item trail (index + 1) steps)

def list (item : Trail → Reader Datum) (expected : String) (trail : Trail) : Reader Datum :=
  node trail fun
    | .sequenceStart => do return .list (← itemsFrom item trail 0 ((← left) + 1))
    | other => if isEmpty other then return .list [] else wrongType expected other

/-- Passes over an item and all that it opens; `depth` collections are open. -/
def passFrom (depth : Nat) : (steps : Nat) → Reader Unit
  | 0 => return ()
  | steps + 1 => do
    let depth := match (← next).1 with
      | .sequenceStart | .mappingStart => depth + 1
      | .sequenceEnd | .mappingEnd => depth - 1
      | .void | .aliasOf _ | .scalar _ _ _ => depth
    if depth = 0 then return () else passFrom depth steps

def pass : Reader Unit := do
  passFrom 0 ((← left) + 1)

/-- A field with the reader of its shape. -/
structure FieldReader where
  name : String
  mayLack : Bool
  isOptional : Bool
  read : Trail → Reader Datum

/-- The fields of a mapping, after those in `read`. -/
def fieldsFrom (fields : List FieldReader) (trail : Trail) (read : List (String × Datum)) :
    (steps : Nat) → Reader (List (String × Datum))
  | 0 => return read
  | steps + 1 => do
    let step ← match (← peek).1 with
      | .mappingEnd | .void =>
        skip
        return read
      | .scalar _ text _ => pure (.key text)
      | _ => pure .unknownKey
    let key ← string "field identifier" trail
    match fields.find? (·.name == key) with
    | some f =>
      if (read.lookup key).isSome then failShape (.repeatedField key)
      else
        let d ← f.read (step :: trail)
        fieldsFrom fields trail ((key, d) :: read) steps
    | none =>
      pass
      fieldsFrom fields trail read steps

/-- All fields in order, with what stands for a lacking one. -/
def complete (read : List (String × Datum)) : List FieldReader → Reader (List (String × Datum))
  | [] => return []
  | f :: fs => do
    let d ← match read.lookup f.name with
      | some d => pure d
      | none =>
        if f.mayLack then pure (.list [])
        else if f.isOptional then pure .absent
        else failShape (.missingField f.name)
    return (f.name, d) :: (← complete read fs)

/-- The fields of a mapping; its end is met after the fields are found complete. -/
def record (name : String) (fields : List FieldReader) (trail : Trail) : Reader Datum :=
  node trail fun
    | .mappingStart => do
      return .record (← complete (← fieldsFrom fields trail [] ((← left) + 1)) fields)
    | other =>
      if isEmpty other then do return .record (← complete [] fields)
      else wrongType (Shape.record name []).expected other

/-- Whether a value is there; a scalar that is tagged as nothing has to be nothing. -/
def isPresent : Item → Reader Bool
  | .scalar tag text style =>
    if style ≠ .plain then return true
    else match tag with
      | some tag =>
        if tag = tagOf "null" then
          if isNull text.toList then return false
          else failShape (.wrongValue (.text text) "null")
        else return true
      | none => return !text.isEmpty && !isNull text.toList
  | .void => return false
  | _ => return true

def present (read : Trail → Reader Datum) (trail : Trail) : Reader Datum := do
  if ← isPresent (← peek).1 then read trail
  else
    skip
    return .absent

def optional (read : Trail → Reader Datum) (trail : Trail) : Reader Datum := do
  match (← peek).1 with
  | .aliasOf target =>
    skip
    following target (present read trail)
  | _ => present read trail

mutual

/-- Reads a value of a shape. -/
def read : Shape → Trail → Reader Datum
  | .text => text
  | .code => code
  | .optional shape => optional (read shape)
  | .list shape => list (read shape) (Shape.list shape).expected
  | .record name fields => record name (readers fields)

def readers : List Field → List FieldReader
  | [] => []
  | f :: fs => reader f :: readers fs

def reader : Field → FieldReader
  | .mk name mayLack shape =>
    { name, mayLack, read := read shape
      isOptional := match shape with
        | .optional _ => true
        | _ => false }

end

end Reader

/-- The value of a document of a shape. Nothing may follow the document. -/
def parse (shape : Shape) (content : String) : Except Fault Datum :=
  let document := firstDocument content
  match Reader.read shape [] { document } with
  | .error f _ => .error f
  | .ok d _ =>
    match document.fault with
    | some f => .error f
    | none => if document.continued then .error .severalDocuments else .ok d

end Conformance.Manifest.Yaml
