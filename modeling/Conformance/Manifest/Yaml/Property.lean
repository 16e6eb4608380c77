import Conformance.Manifest.Yaml.Cursor
import Conformance.Text.Quoted
import Conformance.Text.Utf8

/-!
# Anchors, tags and directives
-/
namespace Conformance.Manifest.Yaml

open Scan

/-! ## Anchors -/

/-- What may follow a name without a blank between. -/
def endsName (c : Char) : Bool :=
  "?:,]\x7d%@`".toList.contains c

/-- An anchor, or an alias of one. -/
def anchor (isAlias : Bool) : Scan Token := do
  let start ← mark
  skip
  let name ← takeWhile isNameChar
  let c ← peek
  if name.isEmpty || !(isBlankEnd c || (c.map endsName).getD false) then
    fail (some (if isAlias then .aliasOf else .anchor, start)) .anchorName
  else
    let text := String.ofList name
    return { kind := if isAlias then .aliasOf text else .anchor text, start, stop := (← mark) }

/-! ## Tags -/

/-- A handle: a mark, and name characters that end in a mark if there are any. In a directive it has
to end in one. -/
def tagHandle (inDirective : Bool) (start : Mark) : Scan (List Char) := do
  if (← peek) ≠ some '!' then
    fail (some (if inDirective then .tagDirectiveHandle else .tag, start)) .noTagMark
  else
    skip
    let name ← takeWhile isNameChar
    if (← peek) = some '!' then
      skip
      return '!' :: name ++ ['!']
    else if inDirective && !name.isEmpty then
      fail (some (.tagDirectiveMark, start)) .noTagMark
    else return '!' :: name

def isUriChar (verbatim : Bool) (c : Char) : Bool :=
  isNameChar c || ";/?:@&=+$.%!~*'()".toList.contains c ||
    (verbatim && (c == ',' || c == '[' || c == ']'))

/-- How many bytes a character has that starts with this one. -/
def encodedLength? (byte : Nat) : Option Nat :=
  if byte < 0x80 then some 1
  else if byte / 0x20 = 6 then some 2
  else if byte / 0x10 = 14 then some 3
  else if byte / 0x08 = 30 then some 4
  else none

def octet (context : Option (Context × Mark)) : Scan Nat := do
  match ← peek, (← look 1).bind Text.hexValue?, (← look 2).bind Text.hexValue? with
  | some '%', some a, some b =>
    skip 3
    return a * 16 + b
  | _, _, _ => fail context .noOctet

/-- `n` more bytes of a character. The place of a fault is before the byte. -/
def trailingOctets (context : Option (Context × Mark)) : (n : Nat) → Scan Bytes
  | 0 => return []
  | n + 1 => do
    let place ← mark
    let byte ← octet context
    if byte / 0x40 ≠ 2 then throw (.malformed .trailingOctet place context)
    else return byte.toUInt8 :: (← trailingOctets context n)

/-- A character that is written as bytes. -/
def escapedChar (context : Option (Context × Mark)) : Scan (List Char) := do
  let place ← mark
  let byte ← octet context
  match encodedLength? byte with
  | none => throw (.malformed .leadingOctet place context)
  | some n => return Text.decodeLossyChars (byte.toUInt8 :: (← trailingOctets context (n - 1)))

def uriFrom (verbatim : Bool) (context : Option (Context × Mark)) : (steps : Nat) → Scan (List Char)
  | 0 => return []
  | steps + 1 => do
    match ← peek with
    | none => return []
    | some c =>
      if !isUriChar verbatim c then return []
      else if c = '%' then
        let cs ← escapedChar context
        return cs ++ (← uriFrom verbatim context steps)
      else
        skip
        return c :: (← uriFrom verbatim context steps)

/-- The rest of a tag, after `head`. Only with an empty head it must not be empty. A null character
ends the tag, whatever is written behind it. -/
def tagUri (verbatim inDirective : Bool) (head : List Char) (start : Mark) : Scan (List Char) := do
  let context := some (if inDirective then Context.tagDirectiveUri else Context.tagUri, start)
  let uri ← uriFrom verbatim context (← left)
  if head.isEmpty && uri.isEmpty then fail context .noTagUri
  else return (head.drop 1 ++ uri).takeWhile (· != '\x00')

/-- A handle and a suffix. A lone mark is a suffix without a handle. -/
def shortTag (start : Mark) : Scan (List Char × List Char) := do
  let handle ← tagHandle false start
  if 1 < handle.length && handle.getLast? == some '!' then
    return (handle, ← tagUri false false [] start)
  else
    let suffix ← tagUri false false handle start
    if suffix.isEmpty then return ([], ['!']) else return (['!'], suffix)

/-- A tag in brackets has no handle. -/
def verbatimTag (start : Mark) : Scan (List Char × List Char) := do
  skip 2
  let suffix ← tagUri true false [] start
  if (← peek) ≠ some '>' then fail (some (.tag, start)) .noTagClose
  else
    skip
    return ([], suffix)

def tag : Scan Token := do
  let start ← mark
  let (handle, suffix) ←
    if (← look 1) = some '<' then verbatimTag start else shortTag start
  let c ← peek
  if !((← inFlow) && c == some ',') && !isBlankEnd c then
    fail (some (.tag, start)) .noSpaceOrLineEnd
  else
    return { kind := .tag (String.ofList handle) (String.ofList suffix), start
             stop := (← mark) }

/-! ## Directives -/

/-- A number of at most nine digits. -/
def versionNumber (start : Mark) : Scan Nat := do
  let context := some (Context.versionDirective, start)
  let digits := (← get).rest.takeWhile Char.isDigit
  skip (min digits.length 9)
  if digits.isEmpty then fail context .noVersion
  else if 9 < digits.length then fail context .versionTooLong
  else return digits.foldl (fun n c => n * 10 + (c.toNat - '0'.toNat)) 0

def versionDirective (start : Mark) : Scan TokenKind := do
  skipWhile isBlank
  let major ← versionNumber start
  if (← peek) ≠ some '.' then fail (some (.versionDirective, start)) .versionPoint
  else
    skip
    return .version major (← versionNumber start)

def tagDirective (start : Mark) : Scan TokenKind := do
  skipWhile isBlank
  let handle ← tagHandle true start
  if !((← peek).map isBlank).getD false then fail (some (.tagDirective, start)) .noSpace
  else
    skipWhile isBlank
    let uri ← tagUri true true [] start
    if !isBlankEnd (← peek) then fail (some (.tagDirective, start)) .noSpaceOrLineEnd
    else return .tagDirective (String.ofList handle) (String.ofList uri)

def directive : Scan Token := do
  let start ← mark
  let context := some (Context.directive, start)
  skip
  let name ← takeWhile isNameChar
  if name.isEmpty then fail context .noDirectiveName
  else if !isBlankEnd (← peek) then fail context .directiveNameEnd
  else
    let kind ←
      if name = "YAML".toList then versionDirective start
      else if name = "TAG".toList then tagDirective start
      else fail context .unknownDirective
    let stop ← mark
    if ← lineEnd then return { kind, start, stop } else fail context .noLineEnd

end Conformance.Manifest.Yaml
