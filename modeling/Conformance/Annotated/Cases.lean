import Conformance.Annotated.Header
import Conformance.Files.Access
import Conformance.TestCase

/-!
# Cases of an annotated file

A file without scenarios yields one case, named after the file. Otherwise there is one case per
scenario, in the order of the header, named after the file and the stem of the scenario's input
file. A scenario without codes of its own takes the expectation of the header, wherever that line
stands.
-/
namespace Conformance.Annotated

open Text (Span)

def faultAt (source : String) (span : Span) (cause : Cause) : Fault :=
  { cause, place := some { source, span } }

/-- The case of the whole file. -/
def baseCase (name : String) (origin : Path) (h : Header) (body : List Char) : TestCase where
  name := name
  origin := origin
  source := String.ofList body
  compilerCodes := h.compiler.getD .success
  interpretCodes := h.interpret.getD .success
  required := h.required.getD .empty
  forbidden := h.forbidden.getD .empty

/-- What a scenario is called: the stem of its input file. -/
def scenarioName (p : ScenarioPragma) : String :=
  match (Path.mk p.inputFile).stem? with
  | some stem => String.ofList stem
  | none => p.inputFile

/-- Where the input of a scenario is read from. -/
def inputPath (origin : Path) (p : ScenarioPragma) : Path :=
  origin.parent.join ⟨p.inputFile⟩

/-- The cases of the scenarios `pragmas`, after scenarios with the names `seen`. -/
def expandAfter (files : FileTree) (source : String) (base : TestCase) (seen : List String) :
    List ScenarioPragma → Except Fault (List TestCase)
  | [] => .ok []
  | p :: pragmas =>
    let path := inputPath base.origin p
    match files.readText path with
    | .error e => .error (faultAt source p.span (.definition (.unreadableInput path e)))
    | .ok input =>
      let name := scenarioName p
      if seen.contains name then
        .error (faultAt source p.span (.definition (.repeatedScenario name)))
      else
        let scenario : Scenario :=
          { name, input, interpretCodes := p.codes.getD base.interpretCodes }
        (expandAfter files source base (name :: seen) pragmas).map (base.forScenario scenario :: ·)

/-- One case per scenario. Scenarios need a program that compiles cleanly. -/
def expand (files : FileTree) (source : String) (base : TestCase) (pragmas : List ScenarioPragma) :
    Except Fault (List TestCase) :=
  match pragmas with
  | [] => .ok [base]
  | p :: _ =>
    if base.compilerCodes.isSuccessOnly then expandAfter files source base [] pragmas
    else .error (faultAt source p.span (.definition (.scenarioCompilerCodes base.compilerCodes)))

/-- The cases of a file with this content, read from `origin` and called `name`. -/
def parse (files : FileTree) (name : String) (origin : Path) (content : String) :
    Except Fault (List TestCase) :=
  let chars := content.toList
  match split chars with
  | .error (fault, span) => .error (faultAt name span (.header fault))
  | .ok (h, body) =>
    if Text.allBlank body then
      .error (faultAt name (.empty (Text.byteLength chars)) (.definition .emptyBody))
    else
      let base := baseCase name origin h body
      if base.conflicts.isEmpty then expand files name base h.scenarios
      else .error (faultAt name (.empty 0) (.definition (.conflict base.conflicts)))

end Conformance.Annotated
