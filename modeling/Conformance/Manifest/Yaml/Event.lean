import Conformance.Manifest.Yaml.Token

/-!
# Events

Tokens are grouped into events: the starts and ends of documents and collections, and scalars. The
grammar is walked by a machine with a stack of what is to follow, and with the places at which the
open collections started. A value that is left out is an empty plain scalar.
-/
namespace Conformance.Manifest.Yaml

inductive EventKind
  | documentStart
  | documentEnd
  | streamEnd
  | aliasOf (name : String)
  | scalar (anchor tag : Option String) (text : String) (style : Style)
  | sequenceStart (anchor : Option String)
  | sequenceEnd
  | mappingStart (anchor : Option String)
  | mappingEnd
deriving DecidableEq, Repr

structure Event where
  kind : EventKind
  mark : Mark
deriving DecidableEq, Repr

/-- What the machine expects next. -/
inductive Expect
  | documentStart (first : Bool)
  | documentContent
  | documentEnd
  | blockNode
  | blockSequenceEntry (first : Bool)
  | indentlessEntry
  | blockMappingKey (first : Bool)
  | blockMappingValue
  | flowSequenceEntry (first : Bool)
  | pairKey
  | pairValue
  | pairEnd
  | flowMappingKey (first : Bool)
  | flowMappingValue (empty : Bool)
  | nothing
deriving DecidableEq, Repr

structure Machine where
  tokens : List Token
  /-- What comes when the tokens are used up. -/
  fault : Option Fault
  expect : Expect := .documentStart true
  /-- What is expected after a node, innermost first. -/
  after : List Expect := []
  opened : List Mark := []
  handles : List (String × String) := []

abbrev Walk := EStateM Fault Machine

namespace Walk

def peek : Walk Token := do
  let m ← get
  match m.tokens with
  | t :: _ => return t
  | [] => throw (m.fault.getD .noDocument)

def skip : Walk Unit :=
  modify fun m => { m with tokens := m.tokens.drop 1 }

def next : Walk Token := do
  skip
  peek

def expect (e : Expect) : Walk Unit :=
  modify fun m => { m with expect := e }

/-- `e` is expected after the node that comes now. -/
def push (e : Expect) : Walk Unit :=
  modify fun m => { m with after := e :: m.after }

/-- The node is complete. -/
def pop : Walk Unit :=
  modify fun m => { m with expect := m.after.headD .nothing, after := m.after.drop 1 }

def openAt (mark : Mark) : Walk Unit :=
  modify fun m => { m with opened := mark :: m.opened }

def close : Walk Unit :=
  modify fun m => { m with opened := m.opened.drop 1 }

def fail {α : Type} (problem : Problem) (mark : Mark) (context : Option (Context × Mark)) :
    Walk α :=
  throw (.malformed problem mark context)

/-- Fails inside the innermost open collection. -/
def failInside {α : Type} (context : Context) (problem : Problem) (mark : Mark) : Walk α := do
  fail problem mark (some (context, (← get).opened.headD {}))

/-- A value that is left out. -/
def emptyScalar (mark : Mark) : Walk Event :=
  return { kind := .scalar none none "" .plain, mark }

/-- The end of a collection, and with it of a node. -/
def finish (kind : EventKind) (t : Token) : Walk Event := do
  pop
  close
  skip
  return { kind, mark := t.start }

/-! ## Nodes -/

/-- An anchor and a tag, in either order. -/
structure Properties where
  anchor : Option String := none
  tag : Option (String × String × Mark) := none
  start : Mark

def takeAnchor (p : Properties) : Walk Properties := do
  match (← peek).kind with
  | .anchor name =>
    skip
    return { p with anchor := some name }
  | _ => return p

def takeTag (p : Properties) : Walk Properties := do
  let t ← peek
  match t.kind with
  | .tag handle suffix =>
    skip
    return { p with tag := some (handle, suffix, t.start) }
  | _ => return p

def properties : Walk Properties := do
  let t ← peek
  let p : Properties := { start := t.start }
  match t.kind with
  | .anchor _ => takeTag (← takeAnchor p)
  | .tag _ _ => takeAnchor (← takeTag p)
  | _ => return p

/-- A tag with its handle replaced by what the handle stands for. -/
def resolveTag (p : Properties) : Walk (Option String) := do
  match p.tag with
  | none => return none
  | some ("", suffix, _) => return some suffix
  | some (handle, suffix, mark) =>
    match (← get).handles.lookup handle with
    | some start => return some (start ++ suffix)
    | none => fail .undefinedHandle mark (some (.node, p.start))

/-- A node. In the block context it may be a block, and after a key a list of entries that are not
indented. -/
def node (block indentless : Bool) : Walk Event := do
  let t ← peek
  match t.kind with
  | .aliasOf name =>
    pop
    skip
    return { kind := .aliasOf name, mark := t.start }
  | _ =>
    let p ← properties
    let t ← peek
    let tag ← resolveTag p
    let collection (e : Expect) (kind : EventKind) : Walk Event := do
      expect e
      return { kind, mark := p.start }
    match t.kind, block, indentless with
    | .blockEntry, _, true => collection .indentlessEntry (.sequenceStart p.anchor)
    | .scalar text style, _, _ =>
      pop
      skip
      return { kind := .scalar p.anchor tag text style, mark := p.start }
    | .flowSequenceStart, _, _ => collection (.flowSequenceEntry true) (.sequenceStart p.anchor)
    | .flowMappingStart, _, _ => collection (.flowMappingKey true) (.mappingStart p.anchor)
    | .blockSequenceStart, true, _ =>
      collection (.blockSequenceEntry true) (.sequenceStart p.anchor)
    | .blockMappingStart, true, _ => collection (.blockMappingKey true) (.mappingStart p.anchor)
    | _, _, _ =>
      if p.anchor.isSome || p.tag.isSome then
        pop
        return { kind := .scalar p.anchor tag "" .plain, mark := p.start }
      else fail .noContent t.start (some (if block then .blockNode else .flowNode, p.start))

/-- A node after which `e` is expected. -/
def nodeThen (e : Expect) (block indentless : Bool) : Walk Event := do
  push e
  node block indentless

/-! ## Documents -/

/-- The handles of tags that need no directive. -/
def defaultHandles : List (String × String) :=
  [("!", "!"), ("!!", "tag:yaml.org,2002:")]

def directivesFrom (version : Bool) : (steps : Nat) → Walk Unit
  | 0 => return ()
  | steps + 1 => do
    let t ← peek
    match t.kind with
    | .version major minor =>
      if version then fail .repeatedVersion t.start none
      else if major ≠ 1 ∨ (minor ≠ 1 ∧ minor ≠ 2) then fail .otherVersion t.start none
      else
        skip
        directivesFrom true steps
    | .tagDirective handle start =>
      if ((← get).handles.lookup handle).isSome then fail .repeatedHandle t.start none
      else
        modify fun m => { m with handles := m.handles ++ [(handle, start)] }
        skip
        directivesFrom version steps
    | _ => return ()

def directives : Walk Unit := do
  directivesFrom false ((← get).tokens.length + 1)
  modify fun m => { m with handles := m.handles ++ defaultHandles }

def skipDocumentEnds : (steps : Nat) → Walk Unit
  | 0 => return ()
  | steps + 1 => do
    if (← peek).kind = .documentEnd then
      skip
      skipDocumentEnds steps

def documentStart (first : Bool) : Walk Event := do
  if !first then skipDocumentEnds ((← get).tokens.length + 1)
  let t ← peek
  let start ← match t.kind with
    | .version _ _ | .tagDirective _ _ | .documentStart => pure false
    | .streamEnd =>
      expect .nothing
      return { kind := .streamEnd, mark := t.start }
    | _ => pure first
  directives
  push .documentEnd
  if start then
    expect .blockNode
    return { kind := .documentStart, mark := t.start }
  else
    let s ← peek
    if s.kind = .documentStart then
      expect .documentContent
      skip
      return { kind := .documentStart, mark := t.start }
    else fail .noDocumentStart s.start none

def documentContent : Walk Event := do
  let t ← peek
  match t.kind with
  | .version _ _ | .tagDirective _ _ | .documentStart | .documentEnd | .streamEnd =>
    pop
    emptyScalar t.start
  | _ => node true false

def documentEnd : Walk Event := do
  let t ← peek
  if t.kind = .documentEnd then skip
  modify fun m => { m with handles := [] }
  expect (.documentStart false)
  return { kind := .documentEnd, mark := t.start }

/-! ## Blocks -/

def blockSequenceEntry : Walk Event := do
  let t ← peek
  match t.kind with
  | .blockEntry =>
    match (← next).kind with
    | .blockEntry | .blockEnd =>
      expect (.blockSequenceEntry false)
      emptyScalar t.stop
    | _ => nodeThen (.blockSequenceEntry false) true false
  | .blockEnd => finish .sequenceEnd t
  | _ => failInside .blockSequence .noDash t.start

def indentlessEntry : Walk Event := do
  let t ← peek
  match t.kind with
  | .blockEntry =>
    match (← next).kind with
    | .blockEntry | .key | .value | .blockEnd =>
      expect .indentlessEntry
      emptyScalar t.stop
    | _ => nodeThen .indentlessEntry true false
  | _ =>
    pop
    return { kind := .sequenceEnd, mark := t.start }

/-- What stands behind the mark of a key or a value, before `e`. -/
def afterMark (t : Token) (e : Expect) : Walk Event := do
  match (← next).kind with
  | .key | .value | .blockEnd =>
    expect e
    emptyScalar t.stop
  | _ => nodeThen e true true

def blockMappingKey : Walk Event := do
  let t ← peek
  match t.kind with
  | .key => afterMark t .blockMappingValue
  | .blockEnd => finish .mappingEnd t
  | _ => failInside .blockMapping .noKey t.start

def blockMappingValue : Walk Event := do
  let t ← peek
  match t.kind with
  | .value => afterMark t (.blockMappingKey false)
  | _ =>
    expect (.blockMappingKey false)
    emptyScalar t.start

/-! ## Brackets -/

/-- Passes over the comma before an entry, unless it is the first one or the bracket ends. -/
def separator (first : Bool) (stop : TokenKind) (context : Context) (problem : Problem) :
    Walk Token := do
  let t ← peek
  if first || t.kind = stop then return t
  else if t.kind = .flowEntry then next
  else failInside context problem t.start

def flowSequenceEntry (first : Bool) : Walk Event := do
  let t ← separator first .flowSequenceEnd .flowSequence .noSequenceEnd
  match t.kind with
  | .flowSequenceEnd => finish .sequenceEnd t
  | .key =>
    expect .pairKey
    skip
    return { kind := .mappingStart none, mark := t.start }
  | _ => nodeThen (.flowSequenceEntry false) false false

/-- The key of a pair inside a bracket. A mark that stands in its place is passed over. -/
def pairKey : Walk Event := do
  let t ← peek
  match t.kind with
  | .value | .flowEntry | .flowSequenceEnd =>
    skip
    expect .pairValue
    emptyScalar t.stop
  | _ => nodeThen .pairValue false false

def pairValue : Walk Event := do
  let t ← peek
  let absent (t : Token) : Walk Event := do
    expect .pairEnd
    emptyScalar t.start
  match t.kind with
  | .value =>
    let t ← next
    match t.kind with
    | .flowEntry | .flowSequenceEnd => absent t
    | _ => nodeThen .pairEnd false false
  | _ => absent t

def pairEnd : Walk Event := do
  let t ← peek
  expect (.flowSequenceEntry false)
  return { kind := .mappingEnd, mark := t.start }

def flowMappingKey (first : Bool) : Walk Event := do
  let t ← separator first .flowMappingEnd .flowMapping .noMappingEnd
  match t.kind with
  | .flowMappingEnd => finish .mappingEnd t
  | .key =>
    let t ← next
    match t.kind with
    | .value | .flowEntry | .flowMappingEnd =>
      expect (.flowMappingValue false)
      emptyScalar t.start
    | _ => nodeThen (.flowMappingValue false) false false
  | _ => nodeThen (.flowMappingValue true) false false

def flowMappingValue (empty : Bool) : Walk Event := do
  let t ← peek
  let absent (t : Token) : Walk Event := do
    expect (.flowMappingKey false)
    emptyScalar t.start
  if empty then absent t
  else
    match t.kind with
    | .value =>
      let t ← next
      match t.kind with
      | .flowEntry | .flowMappingEnd => absent t
      | _ => nodeThen (.flowMappingKey false) false false
    | _ => absent t

/-- Notes where a collection starts, and passes over what opens it. -/
def enter (first : Bool) : Walk Unit := do
  if first then
    openAt (← peek).start
    skip

/-- The next event. -/
def event : Walk Event := do
  match (← get).expect with
  | .documentStart first => documentStart first
  | .documentContent => documentContent
  | .documentEnd => documentEnd
  | .blockNode => node true false
  | .blockSequenceEntry first => enter first; blockSequenceEntry
  | .indentlessEntry => indentlessEntry
  | .blockMappingKey first => enter first; blockMappingKey
  | .blockMappingValue => blockMappingValue
  | .flowSequenceEntry first => enter first; flowSequenceEntry first
  | .pairKey => pairKey
  | .pairValue => pairValue
  | .pairEnd => pairEnd
  | .flowMappingKey first => enter first; flowMappingKey first
  | .flowMappingValue empty => flowMappingValue empty
  | .nothing => throw .noDocument

end Walk

/-- The events up to the end of the stream or a fault. -/
def eventsFrom (m : Machine) : (steps : Nat) → List Event × Option Fault
  | 0 => ([], none)
  | steps + 1 =>
    match Walk.event m with
    | .error fault _ => ([], some fault)
    | .ok e m' =>
      if e.kind = .streamEnd then ([e], none)
      else
        let (es, fault) := eventsFrom m' steps
        (e :: es, fault)

/-- The events of a text. Between two tokens there are at most three. -/
def events (text : List Char) : List Event × Option Fault :=
  let (ts, fault) := tokens text
  eventsFrom { tokens := ts.drop 1, fault } (4 * ts.length + 16)

end Conformance.Manifest.Yaml
