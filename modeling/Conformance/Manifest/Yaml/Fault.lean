import Conformance.Manifest.Shape

/-!
# Faults of indented documents

A fault of the notation has a problem and the place where it was met, and mostly a context with the
place where that began. A fault of the shape has the place of the value around it and the trail of
keys and positions that leads there.
-/
namespace Conformance.Manifest.Yaml

/-- A place: bytes before it, lines before it, and characters before it in its line. -/
structure Mark where
  index : Nat := 0
  line : Nat := 0
  column : Nat := 0
deriving DecidableEq, Repr, Inhabited

namespace Mark

def isOrigin (m : Mark) : Bool :=
  m.line == 0 && m.column == 0

def samePlace (m n : Mark) : Bool :=
  m.line == n.line && m.column == n.column

def text (m : Mark) : String :=
  "line " ++ toString (m.line + 1) ++ " column " ++ toString (m.column + 1)

/-- The place behind a text, unless it is the start of the document. -/
def suffix (m : Mark) : String :=
  if m.isOrigin then "" else " at " ++ m.text

end Mark

inductive Problem
  | noToken
  | noColon
  | entryHere
  | keyHere
  | valueHere
  | unknownDirective
  | noLineEnd
  | noDirectiveName
  | directiveNameEnd
  | versionPoint
  | versionTooLong
  | noVersion
  | noSpace
  | noSpaceOrLineEnd
  | anchorName
  | noTagClose
  | noTagMark
  | noTagUri
  | noOctet
  | leadingOctet
  | trailingOctet
  | zeroIndent
  | tabInIndent
  | markerInQuotes
  | endInQuotes
  | unknownEscape
  | noHexNumber
  | escapeCode
  | colonHere
  | tabInText
  | noDocumentStart
  | undefinedHandle
  | noContent
  | noDash
  | noKey
  | noSequenceEnd
  | noMappingEnd
  | repeatedVersion
  | otherVersion
  | repeatedHandle
deriving DecidableEq, Repr

def Problem.text : Problem → String
  | noToken => "found character that cannot start any token"
  | noColon => "could not find expected ':'"
  | entryHere => "block sequence entries are not allowed in this context"
  | keyHere => "mapping keys are not allowed in this context"
  | valueHere => "mapping values are not allowed in this context"
  | unknownDirective => "found unknown directive name"
  | noLineEnd => "did not find expected comment or line break"
  | noDirectiveName => "could not find expected directive name"
  | directiveNameEnd => "found unexpected non-alphabetical character"
  | versionPoint => "did not find expected digit or '.' character"
  | versionTooLong => "found extremely long version number"
  | noVersion => "did not find expected version number"
  | noSpace => "did not find expected whitespace"
  | noSpaceOrLineEnd => "did not find expected whitespace or line break"
  | anchorName => "did not find expected alphabetic or numeric character"
  | noTagClose => "did not find the expected '>'"
  | noTagMark => "did not find expected '!'"
  | noTagUri => "did not find expected tag URI"
  | noOctet => "did not find URI escaped octet"
  | leadingOctet => "found an incorrect leading UTF-8 octet"
  | trailingOctet => "found an incorrect trailing UTF-8 octet"
  | zeroIndent => "found an indentation indicator equal to 0"
  | tabInIndent => "found a tab character where an indentation space is expected"
  | markerInQuotes => "found unexpected document indicator"
  | endInQuotes => "found unexpected end of stream"
  | unknownEscape => "found unknown escape character"
  | noHexNumber => "did not find expected hexadecimal number"
  | escapeCode => "found invalid Unicode character escape code"
  | colonHere => "found unexpected ':'"
  | tabInText => "found a tab character that violates indentation"
  | noDocumentStart => "did not find expected <document start>"
  | undefinedHandle => "found undefined tag handle"
  | noContent => "did not find expected node content"
  | noDash => "did not find expected '-' indicator"
  | noKey => "did not find expected key"
  | noSequenceEnd => "did not find expected ',' or ']'"
  | noMappingEnd => "did not find expected ',' or '\x7d'"
  | repeatedVersion => "found duplicate %YAML directive"
  | otherVersion => "found incompatible YAML document"
  | repeatedHandle => "found duplicate %TAG directive"

inductive Context
  | nextToken
  | simpleKey
  | directive
  | versionDirective
  | tagDirective
  | tagDirectiveHandle
  | tagDirectiveMark
  | tagDirectiveUri
  | tag
  | tagUri
  | anchor
  | aliasOf
  | blockScalar
  | quotedScalar
  | quotedEscape
  | plainScalar
  | node
  | blockNode
  | flowNode
  | blockSequence
  | blockMapping
  | flowSequence
  | flowMapping
deriving DecidableEq, Repr

def Context.text : Context → String
  | nextToken => "while scanning for the next token"
  | simpleKey => "while scanning a simple key"
  | directive => "while scanning a directive"
  | versionDirective => "while scanning a %YAML directive"
  | tagDirective => "while scanning a %TAG directive"
  | tagDirectiveHandle => "while scanning a tag directive"
  | tagDirectiveMark => "while parsing a tag directive"
  | tagDirectiveUri => "while parsing a %TAG directive"
  | tag => "while scanning a tag"
  | tagUri => "while parsing a tag"
  | anchor => "while scanning an anchor"
  | aliasOf => "while scanning an alias"
  | blockScalar => "while scanning a block scalar"
  | quotedScalar => "while scanning a quoted scalar"
  | quotedEscape => "while parsing a quoted scalar"
  | plainScalar => "while scanning a plain scalar"
  | node => "while parsing a node"
  | blockNode => "while parsing a block node"
  | flowNode => "while parsing a flow node"
  | blockSequence => "while parsing a block collection"
  | blockMapping => "while parsing a block mapping"
  | flowSequence => "while parsing a flow sequence"
  | flowMapping => "while parsing a flow mapping"

/-- A step from a value to one inside it. -/
inductive Step
  | item (index : Nat)
  | key (name : String)
  | unknownKey
deriving DecidableEq, Repr

/-- The steps to a value, the last one first. -/
abbrev Trail := List Step

/-- What stands before the name of a key. -/
def Trail.dotted (above : Trail) (text : String) : String :=
  if above.isEmpty then "" else text ++ "."

/-- The steps from the whole document, which is a dot by itself. -/
def Trail.text : Trail → String
  | [] => "."
  | .item i :: above => Trail.text above ++ "[" ++ toString i ++ "]"
  | .key name :: above => Trail.dotted above (Trail.text above) ++ name
  | .unknownKey :: above => Trail.dotted above (Trail.text above) ++ "?"

/-- Where a value stands. -/
structure Site where
  mark : Mark
  trail : Trail
deriving DecidableEq, Repr

inductive Fault
  | malformed (problem : Problem) (mark : Mark) (context : Option (Context × Mark))
  | controlCharacter (byte : Nat)
  | unknownAnchor (mark : Mark)
  | shape (fault : ShapeFault) (site : Option Site)
  | tooManyAliases
  | noDocument
  | severalDocuments
deriving DecidableEq, Repr

namespace Fault

def contextText (mark : Mark) : Option (Context × Mark) → String
  | none => ""
  | some (context, start) =>
    ", " ++ context.text ++ (if start.samePlace mark then "" else start.suffix)

/-- What is wrong and where. -/
def text : Fault → String
  | malformed problem mark context => problem.text ++ mark.suffix ++ contextText mark context
  | controlCharacter byte =>
    "control characters are not allowed" ++
      (if byte = 0 then "" else " at position " ++ toString byte)
  | unknownAnchor mark => "unknown anchor" ++ mark.suffix
  | shape fault none => fault.message
  | shape fault (some site) =>
    (if site.trail.isEmpty then "" else Trail.text site.trail ++ ": ") ++ fault.message ++
      site.mark.suffix
  | tooManyAliases => "repetition limit exceeded"
  | noDocument => "EOF while parsing a value"
  | severalDocuments => "deserializing from YAML containing more than one document is not supported"

/-- The place that is pointed at. -/
def mark? : Fault → Option Mark
  | malformed _ mark _ => some mark
  | controlCharacter _ => some {}
  | unknownAnchor mark => some mark
  | shape _ site => site.map (·.mark)
  | tooManyAliases | noDocument | severalDocuments => none

/-- Gives a fault of the shape a site, if it has none. -/
def sited (f : Fault) (site : Site) : Fault :=
  match f with
  | shape fault none => shape fault (some site)
  | f => f

end Fault
end Conformance.Manifest.Yaml
