import Conformance.Host.Chars

/-!
# The calendar

Days are numbered from the first of January 1970. Every fourth year has a day more than others, but
of four years that end a century only one has it. A moment is shown by a format, in which letters
behind percent signs stand for parts of its date and time.
-/
namespace Conformance.Host

/-- Nanoseconds since the start of 1970. -/
abbrev Date := Int

namespace Calendar

/-! ## Days -/

def isLeap (year : Int) : Bool :=
  year % 4 == 0 && (year % 100 != 0 || year % 400 == 0)

/-- The days before a month of a year; months count from 1. -/
def daysBeforeMonth (year : Int) (month : Nat) : Nat :=
  let days := [0, 31, 59, 90, 120, 151, 181, 212, 243, 273, 304, 334, 365]
  days.getD (month - 1) 0 + if isLeap year && 2 < month then 1 else 0

def monthLength (year : Int) (month : Nat) : Nat :=
  daysBeforeMonth year (month + 1) - daysBeforeMonth year month

/-- The number of the first day of a year. -/
def firstDay (year : Int) : Int :=
  365 * (year - 1970) + Int.fdiv (year - 1969) 4 - Int.fdiv (year - 1901) 100 +
    Int.fdiv (year - 1601) 400

/-- The year of a day. -/
def yearOf (day : Int) : Int :=
  let guess := 1970 + Int.fdiv (400 * day) 146097
  if day < firstDay guess then guess - 1
  else if firstDay (guess + 1) ≤ day then guess + 1
  else guess

/-- The month of a day of a year that is counted from 0. -/
def monthOf (year : Int) (dayOfYear : Nat) : Nat :=
  ((List.range 12).filter fun m => daysBeforeMonth year (m + 1) ≤ dayOfYear).length

/-- The number of a day of a month. -/
def dayNumber (year : Int) (month day : Nat) : Int :=
  firstDay year + daysBeforeMonth year month + (day : Int) - 1

end Calendar

/-- The parts of a date. -/
structure Moment where
  year : Int
  /-- Counted from 1, like days. -/
  month : Nat
  day : Nat
  hour : Nat
  minute : Nat
  second : Nat
  nanos : Nat
  /-- The day by its number in the calendar. -/
  number : Int
  /-- Seconds since the start of 1970. -/
  seconds : Int

def Moment.ofDate (d : Date) : Moment :=
  let seconds := Int.fdiv d 1000000000
  let number := Int.fdiv seconds 86400
  let rest := (seconds - 86400 * number).toNat
  let year := Calendar.yearOf number
  let dayOfYear := (number - Calendar.firstDay year).toNat
  let month := Calendar.monthOf year dayOfYear
  { year, month
    day := dayOfYear - Calendar.daysBeforeMonth year month + 1
    hour := rest / 3600
    minute := rest / 60 % 60
    second := rest % 60
    nanos := (d - 1000000000 * seconds).toNat
    number, seconds }

namespace Moment

/-- The day of the week, from Sunday on. -/
def weekday (m : Moment) : Nat :=
  ((m.number + 4) % 7).toNat

/-- The day of the year, counted from 0. -/
def dayOfYear (m : Moment) : Nat :=
  (m.number - Calendar.firstDay m.year).toNat

/-- The week of the year; weeks begin with a day of the week. -/
def weekFrom (start : Nat) (m : Moment) : Nat :=
  (m.dayOfYear + 7 - (m.weekday + 7 - start) % 7) / 7

/-- The year that the week of a day belongs to, and its week in it: weeks begin on Mondays and
belong to the year of their Thursday. -/
def weekYear (m : Moment) : Int × Nat :=
  let thursday := m.number + 3 - ((m.weekday + 6) % 7 : Nat)
  let year := Calendar.yearOf thursday
  (year, (thursday - Calendar.firstDay year).toNat / 7 + 1)

end Moment

def weekdayNames : List String :=
  ["Sunday", "Monday", "Tuesday", "Wednesday", "Thursday", "Friday", "Saturday"]

def monthNames : List String :=
  ["January", "February", "March", "April", "May", "June", "July", "August", "September",
    "October", "November", "December"]

/-! ## Formats -/

/-- What a letter of a format stands for. -/
inductive DatePart
  /-- A number, filled up to a width by some character. -/
  | number (width : Nat) (fill : Char) (n : Int)
  | text (s : Chars)
  /-- The first digits of nine behind a point. -/
  | fraction (n : Nat)
  | format (s : Chars)

/-- How formats are read: whether letters are known that stand for parts of seconds and of years,
and the name of the zone. -/
structure DateLetters where
  extended : Bool := true
  zone : String := "UTC"

namespace Moment

def part? (m : Moment) (letters : DateLetters) (c : Char) : Option DatePart :=
  let two (n : Nat) : Option DatePart := some (.number 2 '0' n)
  let name (names : List String) (i : Nat) : Chars := (names.getD i "").toList
  let twelve := if m.hour % 12 = 0 then 12 else m.hour % 12
  match c with
  | 'a' => some (.text ((name weekdayNames m.weekday).take 3))
  | 'A' => some (.text (name weekdayNames m.weekday))
  | 'b' | 'h' => some (.text ((name monthNames (m.month - 1)).take 3))
  | 'B' => some (.text (name monthNames (m.month - 1)))
  | 'c' => some (.format (txt "%a %b %e %H:%M:%S %Y"))
  | 'C' => some (.number 2 '0' (Int.fdiv m.year 100))
  | 'd' => two m.day
  | 'D' | 'x' => some (.format (txt "%m/%d/%y"))
  | 'e' => some (.number 2 ' ' m.day)
  | 'F' => some (.format (txt (if 9999 < m.year then "+%Y-%m-%d" else "%Y-%m-%d")))
  | 'g' => some (.number 2 '0' (m.weekYear.1 % 100))
  | 'G' => some (.number 4 '0' m.weekYear.1)
  | 'H' => two m.hour
  | 'I' => two twelve
  | 'j' => some (.number 3 '0' (m.dayOfYear + 1))
  | 'k' => some (.number 2 ' ' m.hour)
  | 'l' => some (.number 2 ' ' twelve)
  | 'm' => two m.month
  | 'M' => two m.minute
  | 'n' => some (.text ['\n'])
  | 'N' => if letters.extended then some (.fraction m.nanos) else none
  | 'p' => some (.text (txt (if m.hour < 12 then "AM" else "PM")))
  | 'P' => some (.text (txt (if m.hour < 12 then "am" else "pm")))
  | 'q' =>
    if letters.extended then some (.number 1 '0' ((m.month - 1) / 3 + 1 : Nat)) else none
  | 'r' => some (.format (txt "%I:%M:%S %p"))
  | 'R' => some (.format (txt "%H:%M"))
  | 's' => some (.number 1 '0' m.seconds)
  | 'S' => two m.second
  | 't' => some (.text ['\t'])
  | 'T' | 'X' => some (.format (txt "%H:%M:%S"))
  | 'u' => some (.number 1 '0' ((m.weekday + 6) % 7 + 1 : Nat))
  | 'U' => two (m.weekFrom 0)
  | 'V' => two m.weekYear.2
  | 'w' => some (.number 1 '0' m.weekday)
  | 'W' => two (m.weekFrom 1)
  | 'y' => some (.number 2 '0' (m.year % 100))
  | 'Y' => some (.number 4 '0' m.year)
  | 'z' => some (.text (txt "+0000"))
  | 'Z' => some (.text (txt letters.zone))
  | '%' => some (.text ['%'])
  | _ => none

/-- How a part is to be shown: what the flags ask for, and the width. -/
structure Style where
  fill : Option Char := none
  bare : Bool := false
  upper : Bool := false
  opposite : Bool := false
  width : Option Nat := none

def Style.withFlag (s : Style) (c : Char) : Style :=
  match c with
  | '_' => { s with fill := some ' ', bare := false }
  | '0' | '+' => { s with fill := some '0', bare := false }
  | '-' => { s with bare := true }
  | '^' => { s with upper := true }
  | _ => { s with opposite := true }

def Style.fillTo (s : Style) (width : Nat) (usual : Char) (text : Chars) : Chars :=
  if s.bare then text
  else
    let fill := s.fill.getD usual
    let gap := List.replicate (s.width.getD width - text.length) fill
    match fill, text with
    | '0', '-' :: digits => '-' :: (gap ++ digits)
    | _, _ => gap ++ text

/-- The nine digits of a fraction as far as they are asked for. -/
def Style.fraction (s : Style) (n : Nat) : Chars :=
  let digits := Chars.ofNat n
  let nine := List.replicate (9 - digits.length) '0' ++ digits
  match s.width with
  | none => nine
  | some w =>
    let shown := nine.take w ++ List.replicate (w - 9) '0'
    let kept := (shown.reverse.dropWhile (· == '0')).reverse
    if s.bare then (if kept.isEmpty then shown.take 1 else kept)
    else if s.fill = some ' ' then kept ++ List.replicate (w - kept.length) ' '
    else shown

def flagsOfDates : Chars := txt "_-0+^#"

/-- A moment in a format. -/
def shown (m : Moment) (known : DateLetters) : (fuel : Nat) → Chars → Chars
  | 0, _ | _, [] => []
  | fuel + 1, '%' :: s =>
    let flags := s.takeWhile flagsOfDates.contains
    let afterFlags := s.drop flags.length
    let digits := afterFlags.takeWhile Char.isDigit
    let letters := (afterFlags.drop digits.length).dropWhile fun c => c == 'E' || c == 'O'
    let style := flags.foldl Style.withFlag
      { width := if digits.isEmpty then none else some (Chars.natOfDigits digits) }
    let raised (t : Chars) : Chars := if style.upper then t.map Char.toUpper else t
    match if known.extended then zone? letters else none with
    | some (t, rest) => style.fillTo 0 '0' t ++ m.shown known fuel rest
    | none =>
      match letters with
      | [] => '%' :: m.shown known fuel s
      | c :: rest =>
        let text : Chars :=
          match if c = '%' && s.head? ≠ some '%' then none else m.part? known c with
          | none => '%' :: s.take (s.length - rest.length)
          | some (.number width fill n) => style.fillTo width fill (Chars.ofInt n)
          | some (.fraction n) => style.fraction n
          | some (.format f) => raised (style.fillTo 0 ' ' (m.shown known fuel f))
          | some (.text t) =>
            let turned :=
              if !style.opposite then raised t
              else if c = 'p' || c = 'Z' then t.map Char.toLower
              else t.map Char.toUpper
            style.fillTo 0 ' ' turned
        text ++ m.shown known fuel rest
  | fuel + 1, c :: s => c :: m.shown known fuel s
where
  /-- The zone in one of its longer spellings. -/
  zone? : Chars → Option (Chars × Chars)
    | ':' :: 'z' :: rest => some (txt "+00:00", rest)
    | ':' :: ':' :: 'z' :: rest => some (txt "+00:00:00", rest)
    | ':' :: ':' :: ':' :: 'z' :: rest => some (txt "+00", rest)
    | _ => none

end Moment

/-- A date in a format. -/
def Date.shown (d : Date) (format : Chars) : Chars :=
  (Moment.ofDate d).shown {} (format.length + 30) format

end Conformance.Host
