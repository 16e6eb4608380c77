import Conformance.Fault
import Conformance.Files.Access
import Conformance.Manifest.Closure
import Conformance.Manifest.Json.Value
import Conformance.Manifest.Shape
import Conformance.Manifest.Yaml.Value

/-!
# From a manifest to a corpus

A manifest lists tests and groups as they were written, before any name in it is looked up and any
file is read. Then each test is read from its file, each name is looked up, and each group is checked
to contain nothing twice. The first rule that is broken is a fault; it points at the first place where
the name it is about is quoted in the manifest.
-/
namespace Conformance.Manifest

open Text (Span)

/-! ## What a manifest says -/

structure TestEntry where
  name : String
  file : String
  description : Option String := none
  input : Option String := none
  compilerCodes : Option (List Int) := none
  interpretCodes : Option (List Int) := none
  required : Option (List String) := none
  forbidden : Option (List String) := none
deriving DecidableEq, Repr

structure GroupEntry where
  name : String
  description : Option String := none
  tests : List String := []
  includes : List String := []
deriving DecidableEq, Repr

structure Document where
  tests : List TestEntry := []
  groups : List GroupEntry := []
deriving DecidableEq, Repr

def TestEntry.shape : Shape :=
  .record "RawTest" [
    .mk "name" false .text,
    .mk "file" false .text,
    .mk "description" false (.optional .text),
    .mk "input" false (.optional .text),
    .mk "compiler-codes" false (.optional (.list .code)),
    .mk "interpret-codes" false (.optional (.list .code)),
    .mk "extensions-must" false (.optional (.list .text)),
    .mk "extensions-cant" false (.optional (.list .text))]

def GroupEntry.shape : Shape :=
  .record "RawGroup" [
    .mk "name" false .text,
    .mk "description" false (.optional .text),
    .mk "tests" true (.list .text),
    .mk "include" true (.list .text)]

def Document.shape : Shape :=
  .record "RawManifest" [
    .mk "tests" false (.list TestEntry.shape),
    .mk "groups" false (.list GroupEntry.shape)]

def TestEntry.ofDatum (d : Datum) : TestEntry where
  name := (d.field "name").asText
  file := (d.field "file").asText
  description := (d.field "description").asText?
  input := (d.field "input").asText?
  compilerCodes := (d.field "compiler-codes").codes?
  interpretCodes := (d.field "interpret-codes").codes?
  required := (d.field "extensions-must").texts?
  forbidden := (d.field "extensions-cant").texts?

def GroupEntry.ofDatum (d : Datum) : GroupEntry where
  name := (d.field "name").asText
  description := (d.field "description").asText?
  tests := (d.field "tests").texts?.getD []
  includes := (d.field "include").texts?.getD []

def Document.ofDatum (d : Datum) : Document where
  tests := ((d.field "tests").items?.getD []).map .ofDatum
  groups := ((d.field "groups").items?.getD []).map .ofDatum

/-! ## Loading -/

/-- The notation of a manifest. -/
inductive Format
  | json
  | yaml
deriving DecidableEq, Repr

def Format.ofPath (p : Path) : Format :=
  match p.extension? with
  | some ext => if ext = "yaml".toList ∨ ext = "yml".toList then .yaml else .json
  | none => .json

/-- A manifest with its name and the folder that its files are seen from. -/
structure Source where
  name : String
  content : String
  folder : Path
deriving DecidableEq, Repr

namespace Source

def faultAt (s : Source) (span : Option Span) (cause : Cause) : Fault :=
  { cause, place := span.map fun span => { source := s.name, span } }

/-- A fault that points at a quoted word. -/
def located (s : Source) (fault : DefinitionFault) (word : String) : Fault :=
  s.faultAt (Span.ofQuoted? s.content.toList word.toList) (.definition fault)

/-- The expectation that a test gives in a field. -/
def codes (s : Source) (field test : String) : Option (List Int) → Except Fault CodeSet
  | none => .ok .success
  | some cs =>
    match CodeSet.ofList? cs with
    | some set => .ok set
    | none => .error (s.located (.noCodes field test) test)

/-- The extensions that a test names. -/
def features (s : Source) (test : String) (names : Option (List String)) :
    Except Fault FeatureSet :=
  match parseFeatures (names.getD []) with
  | .ok set => .ok set
  | .error name => .error (s.located (.unknownFeature name test) name)

/-- The text of a test's file. -/
def program (s : Source) (files : FileTree) (e : TestEntry) : Except Fault String :=
  let path := s.folder.join ⟨e.file⟩
  match files.readText path with
  | .ok text => .ok text
  | .error error => .error (s.located (.unreadableFile path e.name error) e.file)

/-- The case of an entry. -/
def test (s : Source) (files : FileTree) (e : TestEntry) : Except Fault TestCase := do
  let program ← s.program files e
  let compilerCodes ← s.codes "compiler-codes" e.name e.compilerCodes
  let interpretCodes ← s.codes "interpret-codes" e.name e.interpretCodes
  let required ← s.features e.name e.required
  let forbidden ← s.features e.name e.forbidden
  let case : TestCase :=
    { name := e.name, description := e.description, origin := s.folder.join ⟨e.file⟩
      source := program, compilerCodes, interpretCodes, required, forbidden, input := e.input }
  if case.conflicts.isEmpty then .ok case
  else .error (s.located (.conflictIn e.name case.conflicts) e.name)

/-- The cases of the entries, the names before which are `seen`. -/
def tests (s : Source) (files : FileTree) (seen : List String) :
    List TestEntry → Except Fault (List TestCase)
  | [] => .ok []
  | e :: es =>
    if seen.contains e.name then .error (s.located (.repeatedName e.name) e.name)
    else
      match s.test files e with
      | .error fault => .error fault
      | .ok case => (s.tests files (e.name :: seen) es).map (case :: ·)

/-- The first name that repeats an earlier one. -/
def repeated? (seen : List String) : List String → Option String
  | [] => none
  | n :: ns => if seen.contains n then some n else repeated? (n :: seen) ns

/-- The positions of names; the first name that is unknown is a fault. -/
def positions (names : List String) (unknown : String → Fault) :
    List String → Except Fault (List Nat)
  | [] => .ok []
  | n :: ns =>
    match names.idxOf? n with
    | none => .error (unknown n)
    | some i => (positions names unknown ns).map (i :: ·)

/-- The group of an entry, its members looked up. -/
def group (s : Source) (d : Document) (e : GroupEntry) : Except Fault TestGroup := do
  let tests ← positions (d.tests.map (·.name))
    (fun n => s.located (.undefinedTest n e.name) n) e.tests
  let includes ← positions (d.groups.map (·.name))
    (fun n => s.located (.undefinedGroup n e.name) n) e.includes
  return { name := e.name, description := e.description, tests, includes }

/-- What a violation in the closure of a group is called. -/
def violationFault (s : Source) (c : Corpus) (root : Nat) (v : Violation) : Fault :=
  let groupName (i : Nat) := ((c.groups[i]?).map (·.name)).getD ""
  let testName (i : Nat) := ((c.tests[i]?).map (·.name)).getD ""
  match v with
  | .cycle g => s.located (.cyclicGroup (groupName g) (groupName root)) (groupName g)
  | .repeatedGroup g => s.located (.repeatedGroup (groupName g) (groupName root)) (groupName g)
  | .repeatedTest t => s.located (.repeatedTest (testName t) (groupName root)) (testName t)

/-- The fault of the first group whose closure is not well formed. -/
def closureFault? (s : Source) (c : Corpus) : Option Fault :=
  (List.range c.groups.length).findSome? fun root =>
    (violation? c root).map (s.violationFault c root)

/-- The corpus that a document describes. -/
def build (s : Source) (files : FileTree) (d : Document) : Except Fault Corpus := do
  let cases ← s.tests files [] d.tests
  match repeated? (d.tests.reverse.map (·.name)) (d.groups.map (·.name)) with
  | some name => .error (s.located (.repeatedName name) name)
  | none =>
    let groups ← d.groups.mapM (s.group d)
    let corpus : Corpus := { tests := cases, groups }
    match s.closureFault? corpus with
    | some fault => .error fault
    | none => .ok corpus

/-- The document that the content describes in a notation. -/
def document (s : Source) (format : Format) : Except Fault Document :=
  match format with
  | .json =>
    match Json.parse Document.shape s.content with
    | .ok d => .ok (.ofDatum d)
    | .error f =>
      let span := f.position.map fun p => Span.atLineColumn s.content.toList p.line p.column
      .error (s.faultAt span (.manifest f.text))
  | .yaml =>
    match Yaml.parse Document.shape s.content with
    | .ok d => .ok (.ofDatum d)
    | .error f =>
      let span := f.mark?.map fun m =>
        Span.atLineColumn s.content.toList (m.line + 1) (m.column + 1)
      .error (s.faultAt span (.manifest f.text))

def load (s : Source) (files : FileTree) (format : Format) : Except Fault Corpus := do
  s.build files (← s.document format)

end Source

/-- The corpus of the manifest at a path; its files are seen from the folder it is in. -/
def load (files : FileTree) (path : Path) : Except Fault Corpus :=
  match files.readText path with
  | .error e => .error (.io .readDefinition path e)
  | .ok content =>
    Source.load { name := path.text, content, folder := path.parent } files (.ofPath path)

end Conformance.Manifest
