import Conformance.Decimal.Reading
import Conformance.Fault
import Conformance.Text.Blank

/-!
# Headers of annotated files

An annotated file starts with comment lines and blank lines, up to a line that holds nothing but
the comment mark. A comment whose text follows the mark directly and starts with a known keyword is
a pragma; every other comment is prose. What follows the separating line is the program.

`split` reads the header and reports the first line that breaks a rule, with the range of that line.
-/
namespace Conformance.Annotated

open Text (Span)

/-- A line by its role in a header, blanks around it put aside. -/
inductive Line
  | blank
  | separator
  | comment (text : List Char)
  | other
deriving DecidableEq, Repr

def Line.ofChars (line : List Char) : Line :=
  match Text.trim line with
  | [] => .blank
  | ['/', '/'] => .separator
  | '/' :: '/' :: text => .comment text
  | _ => .other

/-- The keyword of a comment and the words after it. Prose has none. -/
def pragma? (comment : List Char) : Option (String × List String) :=
  match comment with
  | [] => none
  | c :: _ =>
    if Text.isBlank c then none
    else match Text.words comment with
      | [] => none
      | keyword :: args => some (String.ofList keyword, args.map String.ofList)

structure ScenarioPragma where
  inputFile : String
  codes : Option CodeSet := none
  /-- The line of the pragma. -/
  span : Span
deriving DecidableEq

/-- The pragmas of a header. Each but the scenarios occurs at most once. -/
structure Header where
  compiler : Option CodeSet := none
  interpret : Option CodeSet := none
  required : Option FeatureSet := none
  forbidden : Option FeatureSet := none
  scenarios : List ScenarioPragma := []
deriving DecidableEq

/-- The codes written by `args`, in order until one is no exit code. -/
def readCodes (keyword : String) : List String → Except HeaderFault (List Int)
  | [] => .ok []
  | arg :: args =>
    match Decimal.code? arg.toList with
    | none => .error (.badCode arg keyword)
    | some code => (readCodes keyword args).map (code :: ·)

def codes (keyword : String) (args : List String) : Except HeaderFault CodeSet :=
  match readCodes keyword args with
  | .error fault => .error fault
  | .ok cs =>
    match CodeSet.ofList? cs with
    | some s => .ok s
    | none => .error (.noCode keyword)

def features (args : List String) : Except HeaderFault FeatureSet :=
  match parseFeatures args with
  | .ok s => .ok s
  | .error name => .error (.unknownFeature name)

/-- A slot is filled once. -/
def fill {α : Type} (keyword : String) (slot : Option α) (value : Except HeaderFault α) :
    Except HeaderFault (Option α) :=
  match slot with
  | some _ => .error (.repeatedPragma keyword)
  | none => value.map some

/-- The header with one more pragma, found on the line `span`. Unknown keywords are prose. -/
def Header.add (h : Header) (span : Span) (keyword : String) (args : List String) :
    Except HeaderFault Header :=
  match keyword with
  | "compiler" => (fill keyword h.compiler (codes keyword args)).map ({ h with compiler := · })
  | "interpret" => (fill keyword h.interpret (codes keyword args)).map ({ h with interpret := · })
  | "extensions+" => (fill keyword h.required (features args)).map ({ h with required := · })
  | "extensions-" => (fill keyword h.forbidden (features args)).map ({ h with forbidden := · })
  | "scenario" =>
    match args with
    | [] => .error .noInputFile
    | file :: [] =>
      .ok { h with scenarios := h.scenarios ++ [{ inputFile := file, span := span }] }
    | file :: args =>
      (codes keyword args).map fun s =>
        { h with
          scenarios := h.scenarios ++ [{ inputFile := file, codes := some s, span := span }] }
  | _ => .ok h

/-- Reads on at `lines`, the first of which has the number `n` in `content`. -/
def splitFrom (content : List Char) (n : Nat) (h : Header) :
    List (List Char) → Except (HeaderFault × Span) (Header × List Char)
  | [] => .error (.noSeparator, .empty (Text.byteLength content))
  | line :: lines =>
    match Line.ofChars line with
    | .blank => splitFrom content (n + 1) h lines
    | .separator => .ok (h, lines.flatten)
    | .other => .error (.notComment, .ofLine content n)
    | .comment text =>
      match pragma? text with
      | none => splitFrom content (n + 1) h lines
      | some (keyword, args) =>
        match h.add (.ofLine content n) keyword args with
        | .error fault => .error (fault, .ofLine content n)
        | .ok h' => splitFrom content (n + 1) h' lines

/-- The header of a file and the text after its separating line. -/
def split (content : List Char) : Except (HeaderFault × Span) (Header × List Char) :=
  splitFrom content 1 {} (Text.linesKeepingEnds content)

end Conformance.Annotated
