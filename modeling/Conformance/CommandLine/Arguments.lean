import Conformance.Config
import Conformance.Decimal.Reading
import Conformance.Selection

/-!
# Reading a command line

A flag stands alone, an option takes a value. Each has a long name, some have a letter too.

Words are taken from left to right. An option takes the value attached to it or else the next word,
unless that looks like a name. A value is checked when it is complete: when the next name or path
comes, or at the end. What excludes each other is checked at the very end.

Arguments give a configuration, with defaults for what is left out, and a selection: paths if any
are given or listed, else names, else everything.
-/
namespace Conformance.CommandLine

/-! ## Options and flags -/

inductive Flag
  | compileOnly
  | interpretOnly
  | all
  | list
  | verbose
  | quiet
  | noColour
  | help
  | version
deriving DecidableEq, Repr

inductive Opt
  | select
  | selectFile
  | compiler
  | extensions
  | logFile
  | timeout
  | outputFolder
  | definition
  | reference
  | referenceArg
  | interpreter
  | supportFile
  | scratch
deriving DecidableEq, Repr

/-- What a name on the command line stands for. -/
inductive Name
  | flag (f : Flag)
  | opt (o : Opt)
deriving DecidableEq, Repr

/-- Long names, letters and what they stand for. -/
def names : List (String × Option Char × Name) :=
  [("mode-compile-only", some 'C', .flag .compileOnly),
    ("mode-interpret-only", some 'I', .flag .interpretOnly),
    ("mode-all", some 'A', .flag .all),
    ("mode-list", some 'L', .flag .list),
    ("verbose", some 'v', .flag .verbose),
    ("quiet", some 'q', .flag .quiet),
    ("no-color", none, .flag .noColour),
    ("help", some 'h', .flag .help),
    ("version", some 'V', .flag .version),
    ("select", some 's', .opt .select),
    ("select-file", none, .opt .selectFile),
    ("compiler", some 'c', .opt .compiler),
    ("extensions", some 'e', .opt .extensions),
    ("log-file", some 'l', .opt .logFile),
    ("timeout", some 't', .opt .timeout),
    ("output-folder", some 'o', .opt .outputFolder),
    ("tests-definition", none, .opt .definition),
    ("reference-runtime", none, .opt .reference),
    ("reference-arg", none, .opt .referenceArg),
    ("interpreter", none, .opt .interpreter),
    ("support-file", none, .opt .supportFile),
    ("tmp-file", none, .opt .scratch)]

def ofLong? (s : List Char) : Option Name :=
  (names.find? fun n => n.1.toList == s).map (·.2.2)

def ofLetter? (c : Char) : Option Name :=
  (names.find? fun n => n.2.1 == some c).map (·.2.2)

namespace Opt

/-- Whether the option may be given again, each time with more values. -/
def repeats : Opt → Bool
  | select | extensions | referenceArg => true
  | _ => false

/-- Whether commas divide a value into several. -/
def hasList : Opt → Bool
  | select | extensions => true
  | _ => false

/-- Whether any word behind the option is its value, a name of another option too. -/
def takesAny : Opt → Bool
  | referenceArg => true
  | _ => false

/-- Whether a value has to name a path. -/
def isPath : Opt → Bool
  | select | extensions | timeout | referenceArg => false
  | _ => true

end Opt
/-! ## Reading -/

inductive UsageFault
  | unknownArgument
  | conflict
  | invalidValue
  | valueValidation
  | tooManyValues
  | help
  | version
deriving DecidableEq, Repr

/-- The words for the kinds of these faults. -/
def UsageFault.kind : UsageFault → String
  | unknownArgument => "UnknownArgument"
  | conflict => "ArgumentConflict"
  | invalidValue => "InvalidValue"
  | valueValidation => "ValueValidation"
  | tooManyValues => "TooManyValues"
  | help => "DisplayHelp"
  | version => "DisplayVersion"

/-- What was given, in order. -/
structure Arguments where
  flags : List Flag := []
  values : List (Opt × String) := []
  paths : List Path := []
deriving DecidableEq, Repr

namespace Arguments

def has (a : Arguments) (f : Flag) : Bool :=
  a.flags.contains f

def valuesOf (a : Arguments) (o : Opt) : List String :=
  (a.values.filter (·.1 == o)).map (·.2)

def value? (a : Arguments) (o : Opt) : Option String :=
  (a.valuesOf o).head?

/-- How often more detail is asked for, at most 255 times. -/
def verbosity (a : Arguments) : Nat :=
  min (a.flags.filter (· == .verbose)).length 255

/-- Checks a value of an option. -/
def checkValue (o : Opt) (value : String) : Except UsageFault Unit :=
  if o.isPath && value.isEmpty then .error .invalidValue
  else if o = .timeout && (Decimal.float? value.toList).isNone then .error .valueValidation
  else .ok ()

def parts (o : Opt) (value : String) : List String :=
  if o.hasList then (Text.splitOn (· == ',') value.toList).map String.ofList else [value]

def addValue (a : Arguments) (o : Opt) (value : String) : Except UsageFault Arguments := do
  if !o.repeats && (a.value? o).isSome then .error .conflict
  else
    (parts o value).forM (checkValue o)
    return { a with values := a.values ++ (parts o value).map fun v => (o, v) }

def addFlag (a : Arguments) (f : Flag) : Except UsageFault Arguments :=
  match f with
  | .help => .error .help
  | .version => .error .version
  | .verbose => .ok { a with flags := a.flags ++ [f] }
  | f => if a.has f then .error .conflict else .ok { a with flags := a.flags ++ [f] }

def addPaths (a : Arguments) (paths : List String) : Except UsageFault Arguments :=
  if paths.contains "" then .error .invalidValue
  else .ok { a with paths := a.paths ++ paths.map Path.mk }

/-- The modes of which only one can be given. -/
def modes : List Flag :=
  [.compileOnly, .interpretOnly, .all, .list]

/-- Checks what excludes each other: two modes, and names beside paths. -/
def checkConflicts (a : Arguments) : Except UsageFault Unit :=
  let twoModes := 1 < (modes.filter a.has).length
  let namesAndPaths :=
    (a.value? .select).isSome && (!a.paths.isEmpty || (a.value? .selectFile).isSome)
  if twoModes || namesAndPaths then .error .conflict else .ok ()

end Arguments

/-- What was taken and is not complete. -/
inductive Pending
  | nothing
  | opt (o : Opt) (value : Option String)
  | paths (words : List String)

structure Reading where
  arguments : Arguments := {}
  pending : Pending := .nothing

namespace Reading

/-- Completes what is pending. -/
def complete (r : Reading) : Except UsageFault Arguments :=
  match r.pending with
  | .nothing => .ok r.arguments
  | .opt _ none => .error .invalidValue
  | .opt o (some value) => r.arguments.addValue o value
  | .paths words => r.arguments.addPaths words

/-- The option that waits for a value. -/
def awaiting? (r : Reading) : Option Opt :=
  match r.pending with
  | .opt o none => some o
  | _ => none

def path (r : Reading) (word : String) : Except UsageFault Reading := do
  match r.pending with
  | .paths words => return { r with pending := .paths (words ++ [word]) }
  | _ => return { arguments := (← r.complete), pending := .paths [word] }

def flag (r : Reading) (f : Flag) : Except UsageFault Reading := do
  return { arguments := (← (← r.complete).addFlag f) }

/-- An option with its attached value, if it has one. -/
def option (r : Reading) (o : Opt) (attached : Option String) : Except UsageFault Reading := do
  let a ← r.complete
  match attached with
  | some value => return { arguments := (← a.addValue o value) }
  | none => return { arguments := a, pending := .opt o none }

/-- A long name, with a value behind an equals sign. -/
def long (r : Reading) (word : List Char) : Except UsageFault Reading :=
  let name := word.takeWhile (· != '=')
  let attached :=
    if word.contains '=' then some (String.ofList (word.drop (name.length + 1))) else none
  match ofLong? name with
  | none => .error .unknownArgument
  | some (.opt o) => r.option o attached
  | some (.flag f) => if attached.isSome then .error .tooManyValues else r.flag f

/-- A value that follows its letter directly; an equals sign between is dropped. -/
def attachedToLetter : List Char → Option String
  | [] => none
  | '=' :: value => some (String.ofList value)
  | value => some (String.ofList value)

/-- A row of letters, the last of which may be an option. -/
def letters (r : Reading) : List Char → Except UsageFault Reading
  | [] => .ok r
  | c :: cs =>
    match ofLetter? c with
    | none => .error .unknownArgument
    | some (.opt o) => r.option o (attachedToLetter cs)
    | some (.flag f) => do letters (← r.flag f) cs

/-- One word. The second part tells that only paths follow. -/
def word (r : Reading) (w : String) : Except UsageFault (Reading × Bool) := do
  match r.awaiting?, w.toList with
  | some o, cs =>
    if o.takesAny then return ({ r with pending := .opt o (some w) }, false)
    else match cs with
      | ['-', '-'] => return (r, true)
      | '-' :: '-' :: name => return (← r.long name, false)
      | '-' :: c :: cs => return (← r.letters (c :: cs), false)
      | _ => return ({ r with pending := .opt o (some w) }, false)
  | none, ['-', '-'] => return (r, true)
  | none, '-' :: '-' :: name => return (← r.long name, false)
  | none, '-' :: c :: cs => return (← r.letters (c :: cs), false)
  | none, _ => return (← r.path w, false)

/-- The words of a command line; once `onlyPaths` is set they are all paths. -/
def words (r : Reading) (onlyPaths : Bool) : List String → Except UsageFault Arguments
  | [] => r.complete
  | w :: ws => do
    if onlyPaths then words (← r.path w) true ws
    else
      let (r', onlyPaths') ← r.word w
      words r' onlyPaths' ws

end Reading

/-- The arguments that a command line gives. -/
def Arguments.ofWords (ws : List String) : Except UsageFault Arguments := do
  let a ← Reading.words {} false ws
  a.checkConflicts
  return a

/-! ## What is asked for -/

namespace Arguments

def pathOr (a : Arguments) (o : Opt) (default : Path) : Path :=
  ((a.value? o).map Path.mk).getD default

def mode (a : Arguments) : RunMode :=
  if a.has .compileOnly then .compileOnly
  else if a.has .interpretOnly then .interpretOnly
  else .full

/-- The time limit in seconds. -/
def seconds (a : Arguments) : Float :=
  ((a.value? .timeout).bind fun s => Decimal.float? s.toList).getD 5.0

/-- The arguments of the reference runtime; without any, the default ones. -/
def referenceArgs (a : Arguments) (default : List String) : List String :=
  match a.valuesOf .referenceArg with
  | [] => default
  | args => args

def config (a : Arguments) : Except Fault Config := do
  let d : Config := {}
  let timeout ← Config.timeoutOfSeconds a.seconds
  let extensions ← Config.parseExtensions (a.valuesOf .extensions)
  return {
    compiler := a.pathOr .compiler d.compiler
    interpreter := a.pathOr .interpreter d.interpreter
    reference := a.pathOr .reference d.reference
    referenceArgs := a.referenceArgs d.referenceArgs
    supportFile := a.pathOr .supportFile d.supportFile
    scratch := a.pathOr .scratch d.scratch
    timeout
    logFile := a.pathOr .logFile d.logFile
    outputFolder := a.pathOr .outputFolder d.outputFolder
    definition := a.pathOr .definition d.definition
    extensions
    mode := a.mode }

/-- The paths given, and then those that the selection file lists. -/
def allPaths (a : Arguments) (files : FileTree) : Except Fault (List Path) :=
  match a.value? .selectFile with
  | none => .ok a.paths
  | some file => (Selection.readList files ⟨file⟩).map (a.paths ++ ·)

def selection (a : Arguments) (files : FileTree) : Except Fault Selection := do
  let paths ← a.allPaths files
  if !paths.isEmpty || (a.value? .selectFile).isSome then return .paths paths
  else
    match a.valuesOf .select with
    | [] => return .all
    | names => return .names names

/-- Which messages are shown, by the name of the program and the least severity. -/
def directive (a : Arguments) : String :=
  "crosscheck=" ++
    (if a.has .quiet then "error"
      else match a.verbosity with
        | 0 => "warn"
        | 1 => "info"
        | 2 => "debug"
        | _ => "trace")

end Arguments
end Conformance.CommandLine
