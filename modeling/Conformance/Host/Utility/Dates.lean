import Conformance.Host.DateReading
import Conformance.Host.Utility.Folders

/-!
# Dates that are shown

`date` shows the current date or another one in a format.
-/
namespace Conformance.Host.Utility

def dateOptions : OptionTable where
  letters := txt "uRDN"
  valued := txt "dfrs3"
  attached := ['I']
  optional := ['I']
  long := [(txt "date", 'd'), (txt "debug", 'D'), (txt "file", 'f'), (txt "iso-8601", 'I'),
    (txt "reference", 'r'), (txt "resolution", 'N'), (txt "rfc-email", 'R'), (txt "rfc-822", 'R'),
    (txt "rfc-2822", 'R'), (txt "rfc-3339", '3'), (txt "set", 's'), (txt "uct", 'u'),
    (txt "utc", 'u'), (txt "universal", 'u')]
  choices := [
    ('I', ⟨"--iso-8601", [["hours"], ["minutes"], ["date"], ["seconds"], ["ns"]]⟩),
    ('3', ⟨"--rfc-3339", [["date"], ["seconds"], ["ns"]]⟩)]

/-- The format of a date that an option asks for. -/
def dateFormat? (c : Char) (value : Chars) : Option Chars :=
  match c, String.ofList value with
  | 'R', _ => some (txt "%a, %d %b %Y %H:%M:%S %z")
  | 'I', "hours" => some (txt "%Y-%m-%dT%H%:z")
  | 'I', "minutes" => some (txt "%Y-%m-%dT%H:%M%:z")
  | 'I', "seconds" => some (txt "%Y-%m-%dT%H:%M:%S%:z")
  | 'I', "ns" => some (txt "%Y-%m-%dT%H:%M:%S,%N%:z")
  | '3', "seconds" => some (txt "%Y-%m-%d %H:%M:%S%:z")
  | '3', "ns" => some (txt "%Y-%m-%d %H:%M:%S.%N%:z")
  | 'I', _ | '3', _ => some (txt "%Y-%m-%d")
  | 'N', _ => some (txt "%s.%N")
  | _, _ => none

/-- Why no date is shown. -/
inductive DateFault
  | manyFormats
  | manyDates
  | setAndShown
  | further (s : Chars)
  | noFormat (s : Chars)

/-- The message of a fault, and whether it tells of help. -/
def DateFault.message : DateFault → Chars × Bool
  | .manyFormats => (txt "multiple output formats specified", false)
  | .manyDates => (txt "the options to specify dates for printing are mutually exclusive", true)
  | .setAndShown => (txt "the options to print and set the time may not be used together", true)
  | .further s => (txt "extra operand " ++ cited s, true)
  | .noFormat s =>
    (txt "the argument " ++ cited s ++ txt " lacks a leading '+';\n" ++
      txt "when using an option to specify date(s), any non-option\n" ++
      txt "argument must be a format string beginning with '+'", true)

/-- The format that is asked for, and a date that is to be set by digits. -/
def askedFormat (p : Parsed) : Except DateFault (Option Chars × Option Chars) := do
  let formats := p.options.filterMap fun o => if o.1 = 'N' then none else dateFormat? o.1 o.2
  if 1 < formats.length then throw .manyFormats
  let given := (txt "dfrN").filter p.has
  if 1 < given.length then throw .manyDates
  if p.has 's' && !given.isEmpty then throw .setAndShown
  let resolution := if p.has 'N' then dateFormat? 'N' [] else none
  let format := formats.head?.or resolution
  match p.operands with
  | [] => return (format, none)
  | _ :: other :: _ => throw (.further other)
  | [('+' :: s)] => if formats.isEmpty then return (some s, none) else throw .manyFormats
  | [s] => if p.has 's' || !given.isEmpty then throw (.noFormat s) else return (format, some s)

/-- The date that digits write: month, day, hour, and minute, behind which a year may stand, and
seconds. -/
def dateOfDigits? (now : Date) (s : Chars) : Option Date :=
  let digits := s.takeWhile Char.isDigit
  let seconds := match s.drop digits.length with
    | [] => some (txt "00")
    | ['.', a, b] => if a.isDigit && b.isDigit then some [a, b] else none
    | _ => none
  let part (start count : Nat) : Chars := (digits.drop start).take count
  let year? := match digits.length with
    | 8 => some (now.shown (txt "%Y"))
    | 10 => some ((if Chars.natOfDigits (part 8 2) ≤ 68 then txt "20" else txt "19") ++ part 8 2)
    | 12 => some (part 8 4)
    | _ => none
  seconds.bind fun seconds => year?.bind fun year =>
    Date.read now (year ++ '-' :: part 0 2 ++ '-' :: part 2 2 ++ ' ' :: part 4 2 ++ ':' ::
      part 6 2 ++ ':' :: seconds)

def invalidDate (s : Chars) : Act Bool :=
  refuse (txt "invalid date " ++ cited s)

/-- Shows the dates that the lines of a file write. -/
def showDatesIn (name : Chars) (showDate : Date → Act Unit) : Program := do
  let s ← if name = ['-'] then drain 0 else supplyOf name
  match s.tail with
  | .broken e =>
    problem (quotedIfNeeded name ++ txt ": " ++ e.toList)
    return 1
  | _ =>
    awaitTail s
    let now ← currentDate
    eachName (fun line => do
      match Date.read now line with
      | some d =>
        showDate d
        return true
      | none => invalidDate line) 0 (bareLines s.content)

def date : Program :=
  withOptions dateOptions 1 fun p => do
    match askedFormat p with
    | .error f =>
      let (message, helps) := f.message
      if helps then misuse message
      else
        problem message
        return 1
    | .ok (format, digits) =>
      let format := format.getD (txt "%a %b %e %H:%M:%S %Z %Y")
      let showDate (d : Date) : Act Unit := emit (d.shown format ++ ['\n'])
      let now ← currentDate
      let shown (d? : Option Date) (given : Chars) : Program := do
        match d? with
        | some d =>
          showDate d
          return 0
        | none =>
          let _ ← invalidDate given
          return 1
      let setTo (d? : Option Date) (given : Chars) : Program := do
        if d?.isSome then problem (txt "cannot set date: Operation not permitted")
        let _ ← shown d? given
        return 1
      match p.value? 'd', p.value? 'f', p.value? 'r', p.value? 's', digits with
      | some s, _, _, _, _ => shown (Date.read now s) s
      | none, some name, _, _, _ => showDatesIn name showDate
      | none, none, some name, _, _ =>
        match (← view).attributes? .target (Chars.toPath name) with
        | .ok a => shown (some a.date) name
        | .error e =>
          problem (quotedIfNeeded name ++ txt ": " ++ e.words.toList)
          return 1
      | none, none, none, some s, _ => setTo (Date.read now s) s
      | none, none, none, none, some s => setTo (dateOfDigits? now s) s
      | none, none, none, none, none =>
        shown (some (if p.has 'N' then (1 : Int) else now)) []

end Conformance.Host.Utility
