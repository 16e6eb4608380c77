import Conformance.CodeSet
import Conformance.Decimal.Text
import Conformance.Feature
import Conformance.Files.Error
import Conformance.Text.Span
import Conformance.Tool

/-!
# Faults

A fault ends a run before its next step. It has a cause, and a place if it points into a text. The
kinds of faults, their wording and their help lines are functions of the cause.
-/
namespace Conformance

inductive FaultKind
  | manifest
  | header
  | definition
  | selection
  | config
  | io
deriving DecidableEq, Repr

namespace FaultKind

def word : FaultKind → String
  | .manifest => "manifest"
  | .header => "header"
  | .definition => "definition"
  | .selection => "selection"
  | .config => "config"
  | .io => "io"

def heading : FaultKind → String
  | .manifest => "Manifest error"
  | .header => "Malformed header"
  | .definition => "Definition error"
  | .selection => "Selection error"
  | .config => "Configuration error"
  | .io => "I/O error"

end FaultKind

def quote (s : String) : String :=
  "'" ++ s ++ "'"

def knownExtensions : String :=
  "known extensions: " ++ Feature.registryNames

/-- What is wrong with a header of an annotated file. -/
inductive HeaderFault
  | notComment
  | noSeparator
  | repeatedPragma (keyword : String)
  | badCode (code keyword : String)
  | noCode (keyword : String)
  | unknownFeature (name : String)
  | noInputFile
deriving DecidableEq, Repr

namespace HeaderFault

def message : HeaderFault → String
  | .notComment => "header lines must be comments"
  | .noSeparator => "missing header/body separator"
  | .repeatedPragma keyword => "pragma " ++ quote keyword ++ " given more than once"
  | .badCode code keyword =>
    "invalid exit code " ++ quote code ++ " in " ++ quote keyword ++ " pragma"
  | .noCode keyword => quote keyword ++ " pragma expects at least one exit code"
  | .unknownFeature name => "unknown extension " ++ quote name
  | .noInputFile => "scenario pragma needs an input file"

def help? : HeaderFault → Option String
  | .notComment => some "end the header with a line containing only '//'"
  | .noSeparator => some "add a line containing only '//' before the program source"
  | .badCode _ _ => some "exit codes are space separated integers"
  | .unknownFeature _ => some knownExtensions
  | .noInputFile => some "usage: //scenario <input-file> [codes...]"
  | .repeatedPragma _ | .noCode _ => none

end HeaderFault

/-- What is wrong with a definition that can be read. -/
inductive DefinitionFault
  | emptyBody
  | conflict (features : FeatureSet)
  | scenarioCompilerCodes (found : CodeSet)
  | unreadableInput (path : Path) (error : FileError)
  | repeatedScenario (name : String)
  | repeatedName (name : String)
  | unreadableFile (path : Path) (test : String) (error : FileError)
  | noCodes (field test : String)
  | unknownFeature (name test : String)
  | conflictIn (test : String) (features : FeatureSet)
  | undefinedTest (test group : String)
  | undefinedGroup (member group : String)
  | cyclicGroup (member group : String)
  | repeatedGroup (member group : String)
  | repeatedTest (test group : String)
deriving DecidableEq

namespace DefinitionFault

def message : DefinitionFault → String
  | .emptyBody => "test has an empty source body"
  | .conflict features => "extensions " ++ features.text ++ " are both required and forbidden"
  | .scenarioCompilerCodes found =>
    "scenarios require the compiler expectation to be exactly [0], found " ++ found.text
  | .unreadableInput path error =>
    "scenario input file " ++ quote path.text ++ " cannot be read: " ++ error.message
  | .repeatedScenario name => "scenario " ++ quote name ++ " is defined more than once"
  | .repeatedName name => "name " ++ quote name ++ " is defined more than once"
  | .unreadableFile path test error =>
    "file " ++ quote path.text ++ " of test " ++ quote test ++ " cannot be read: " ++ error.message
  | .noCodes field test => quote field ++ " of test " ++ quote test ++ " must not be empty"
  | .unknownFeature name test => "unknown extension " ++ quote name ++ " in test " ++ quote test
  | .conflictIn test features =>
    "test " ++ quote test ++ " both requires and forbids extensions " ++ features.text
  | .undefinedTest test group =>
    "test " ++ quote test ++ " specified in group " ++ quote group ++ " is not defined"
  | .undefinedGroup member group =>
    "group " ++ quote member ++ " included from group " ++ quote group ++ " is not defined"
  | .cyclicGroup member group =>
    "group " ++ quote member ++ " is cyclically included in group " ++ quote group
  | .repeatedGroup member group =>
    "group " ++ quote member ++ " is included multiple times in group " ++ quote group
  | .repeatedTest test group =>
    "test " ++ quote test ++ " is included multiple times in group " ++ quote group

def help? : DefinitionFault → Option String
  | .scenarioCompilerCodes _ =>
    some "scenarios probe runtime behaviour of code that must compile cleanly"
  | .unknownFeature _ _ => some knownExtensions
  | _ => none

end DefinitionFault

/-- What is wrong with a selection. `listing` tells whether only a listing was asked for. -/
inductive SelectionFault
  | unknownName (name : String) (listing : Bool)
  | neitherFileNorFolder (path : Path)
deriving DecidableEq, Repr

namespace SelectionFault

def message : SelectionFault → String
  | .unknownName name _ => "unknown test or group " ++ quote name
  | .neitherFileNorFolder path => quote path.text ++ " is neither a test file nor a directory"

def help? : SelectionFault → Option String
  | .unknownName _ false => some "run with --mode-list to see the available names"
  | _ => none

end SelectionFault

inductive ConfigFault
  | timeoutNotPositive (seconds : String)
  | timeoutTooLong (seconds : String)
  | noTime
  | logIsFolder (path : Path)
  | outputIsFile (path : Path)
  | noCompiler (path : Path)
  | noSupportFile (path : Path)
  | unknownFeature (name : String)
  | unusable (stage : Stage) (fault : ToolFault)
deriving DecidableEq, Repr

namespace ConfigFault

def message : ConfigFault → String
  | .timeoutNotPositive seconds =>
    "invalid timeout " ++ quote seconds ++ ": expected a positive number of seconds"
  | .timeoutTooLong seconds =>
    "invalid timeout " ++ quote seconds ++
      ": cannot convert float seconds to Duration: value is either too big or NaN"
  | .noTime => "timeout must be greater than zero"
  | .logIsFolder path => "log file " ++ quote path.text ++ " is a directory"
  | .outputIsFile path => "output folder " ++ quote path.text ++ " is a file"
  | .noCompiler path => "compiler " ++ quote path.text ++ " does not exist"
  | .noSupportFile path => "support file " ++ quote path.text ++ " does not exist"
  | .unknownFeature name => "unknown extension " ++ quote name
  | .unusable stage fault => stage.tool ++ " cannot be run: " ++ fault.message

/-- The option that names the tool of a stage. -/
def flag : Stage → String
  | .compile => "--compiler"
  | .interpret => "--interpreter"
  | .reference => "--reference-runtime"

def help? : ConfigFault → Option String
  | .noCompiler _ => some "point --compiler at your compiler executable"
  | .noSupportFile _ =>
    some "the reference runtime needs it; pass --support-file or use -C/-I"
  | .unknownFeature _ => some knownExtensions
  | .unusable stage _ => some ("check the path given to " ++ flag stage)
  | _ => none

end ConfigFault

/-- What was done with a file when it failed. -/
inductive FileAction
  | readDefinition
  | readTest
  | readSelection
  | removeLog
  | removeOutput
  | createOutput
  | createLog
  | removeScratch
  | writeLog
  | flushLog
deriving DecidableEq, Repr

def FileAction.text : FileAction → String
  | .readDefinition => "read tests definition"
  | .readTest => "read test file"
  | .readSelection => "read selection file"
  | .removeLog => "remove old log file"
  | .removeOutput => "remove old output folder"
  | .createOutput => "create output folder"
  | .createLog => "create log file"
  | .removeScratch => "remove scratch file"
  | .writeLog => "write log file"
  | .flushLog => "flush log file"

inductive IoFault
  | file (action : FileAction) (path : Path) (reason : String)
  | walk (root place : Path) (error : FileError)
deriving DecidableEq, Repr

def IoFault.message : IoFault → String
  | .file action path reason =>
    "failed to " ++ action.text ++ " " ++ quote path.text ++ ": " ++ reason
  | .walk root place error =>
    "failed to walk directory " ++ quote root.text ++ ": IO error for operation on " ++
      place.text ++
      ": " ++ error.message

inductive Cause
  | manifest (report : String)
  | header (fault : HeaderFault)
  | definition (fault : DefinitionFault)
  | selection (fault : SelectionFault)
  | config (fault : ConfigFault)
  | io (fault : IoFault)
deriving DecidableEq

namespace Cause

def kind : Cause → FaultKind
  | .manifest _ => .manifest
  | .header _ => .header
  | .definition _ => .definition
  | .selection _ => .selection
  | .config _ => .config
  | .io _ => .io

def message : Cause → String
  | .manifest report => report
  | .header f => f.message
  | .definition f => f.message
  | .selection f => f.message
  | .config f => f.message
  | .io f => f.message

def help? : Cause → Option String
  | .header f => f.help?
  | .definition f => f.help?
  | .selection f => f.help?
  | .config f => f.help?
  | .manifest _ | .io _ => none

end Cause

/-- A range of a named text. -/
structure Place where
  source : String
  span : Text.Span
deriving DecidableEq, Repr

structure Fault where
  cause : Cause
  place : Option Place := none
deriving DecidableEq

namespace Fault

def kind (f : Fault) : FaultKind :=
  f.cause.kind

def message (f : Fault) : String :=
  f.cause.message

def help? (f : Fault) : Option String :=
  f.cause.help?

/-- The message under its heading. -/
def display (f : Fault) : String :=
  f.kind.heading ++ ": " ++ f.message

/-- The name under which a diagnostic of this kind is reported. -/
def code (f : Fault) : String :=
  "crosscheck::" ++ f.kind.word

def selection (f : SelectionFault) : Fault :=
  { cause := .selection f }

def config (f : ConfigFault) : Fault :=
  { cause := .config f }

def io (action : FileAction) (path : Path) (error : FileError) : Fault :=
  { cause := .io (.file action path error.message) }

end Fault
end Conformance
