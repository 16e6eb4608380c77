import Conformance.Host.Calendar
import Conformance.Host.CharClass
import Conformance.Text.Blank

/-!
# Dates in words

A date may be written in many ways: by numbers, with the name of a month or of a day of the week, or
as so much later or earlier than another date. What is written is read item by item; every item adds
to the parts of the date.
-/
namespace Conformance.Host

/-! ## Words and numbers -/

inductive DateToken
  | word (s : Chars)
  /-- A number with as many digits, and the nanoseconds behind its point. -/
  | number (n : Nat) (digits : Nat)
  | decimal (n nanos : Nat)
  /-- A number behind a sign. -/
  | signed (negative : Bool) (n digits : Nat)
  | mark (c : Char)

namespace DateToken

/-- The nanoseconds that digits behind a point write. -/
def nanosOf (digits : Chars) : Nat :=
  Chars.natOfDigits (digits.take 9) * Nat.pow 10 (9 - (digits.take 9).length)

def readAll : (fuel : Nat) → Chars → List DateToken
  | 0, _ | _, [] => []
  | fuel + 1, c :: s =>
    if isSpace c then readAll fuel s
    else if c.isAlpha then
      let letters := (c :: s).takeWhile fun c => c.isAlpha || c == '.'
      .word ((letters.filter (· != '.')).map Char.toLower) ::
        readAll fuel ((c :: s).drop letters.length)
    else
      let sign := c == '-' || c == '+'
      let body := if sign then s.dropWhile isSpace else c :: s
      let digits := body.takeWhile Char.isDigit
      let rest := body.drop digits.length
      if digits.isEmpty then
        if sign then readAll fuel body else .mark c :: readAll fuel s
      else
        let n := Chars.natOfDigits digits
        if sign then .signed (c == '-') n digits.length :: readAll fuel rest
        else
          match rest with
          | p :: d :: more =>
            if (p = '.' || p = ',') && d.isDigit then
              let behind := (d :: more).takeWhile Char.isDigit
              .decimal n (nanosOf behind) :: readAll fuel ((d :: more).drop behind.length)
            else .number n digits.length :: readAll fuel rest
          | _ => .number n digits.length :: readAll fuel rest

end DateToken

/-- The place in a list of the one name that a word is, or that it shortens to three letters. -/
def placeAmong (names : List String) (more : List (String × Nat)) (w : Chars) : Option Nat :=
  match names.findIdx? fun name => (name.toList.map Char.toLower) == w ||
      (name.toList.take 3).map Char.toLower == w with
  | some i => some i
  | none => more.lookup (String.ofList w)

def monthNamed? (w : Chars) : Option Nat :=
  (placeAmong monthNames [("sept", 8)] w).map (· + 1)

def weekdayNamed? (w : Chars) : Option Nat :=
  placeAmong weekdayNames [("tues", 2), ("wednes", 3), ("thur", 4), ("thurs", 4)] w

/-- A unit of time, with how many of a smaller one it has. -/
inductive DateUnit
  | years
  | months
  | days (n : Nat)
  | seconds (n : Nat)

def dateUnit? (w : Chars) : Option DateUnit :=
  let single := if w.getLast? = some 's' then w.dropLast else w
  match String.ofList single with
  | "year" => some .years
  | "month" => some .months
  | "fortnight" => some (.days 14)
  | "week" => some (.days 7)
  | "day" => some (.days 1)
  | "hour" => some (.seconds 3600)
  | "minute" | "min" => some (.seconds 60)
  | "second" | "sec" => some (.seconds 1)
  | _ => none

/-- Words that stand for numbers before units and days. -/
def ordinal? (w : Chars) : Option Int :=
  match String.ofList w with
  | "last" => some (-1)
  | "this" => some 0
  | "next" | "first" => some 1
  | "third" => some 3
  | "fourth" => some 4
  | "fifth" => some 5
  | "sixth" => some 6
  | "seventh" => some 7
  | "eighth" => some 8
  | "ninth" => some 9
  | "tenth" => some 10
  | "eleventh" => some 11
  | "twelfth" => some 12
  | _ => none

/-- How many minutes a zone is ahead. -/
def zoneNamed? (w : Chars) : Option Int :=
  match String.ofList w with
  | "utc" | "gmt" | "ut" | "z" | "wet" => some 0
  | "west" | "bst" | "cet" | "met" => some 60
  | "cest" | "mest" | "eet" => some 120
  | "eest" | "msk" => some 180
  | "ist" => some 330
  | "jst" => some 540
  | "est" | "cdt" => some (-300)
  | "edt" => some (-240)
  | "cst" | "mdt" => some (-360)
  | "mst" | "pdt" => some (-420)
  | "pst" => some (-480)
  | _ => none

/-! ## Items -/

/-- What was read of a date. -/
structure DateParts where
  /-- Year, month and day; the year may be missing. -/
  date : Option (Option Int × Nat × Nat) := none
  /-- Hours, minutes, seconds and nanoseconds. -/
  time : Option (Nat × Nat × Nat × Nat) := none
  /-- How many minutes the zone is ahead. -/
  zone : Option Int := none
  /-- A day of the week, and which of them. -/
  weekday : Option (Int × Nat) := none
  years : Int := 0
  months : Int := 0
  days : Int := 0
  seconds : Int := 0
  nanos : Int := 0
  /-- Something is told as later or earlier. -/
  shifted : Bool := false

namespace DateParts

def withDate (p : DateParts) (year : Option Int) (month day : Nat) : Option DateParts :=
  if p.date.isSome then none else some { p with date := some (year, month, day) }

def withTime (p : DateParts) (h m s nanos : Nat) : Option DateParts :=
  if p.time.isSome || 23 < h || 59 < m || 59 < s then none
  else some { p with time := some (h, m, s, nanos) }

def withZone (p : DateParts) (minutes : Int) : Option DateParts :=
  if p.zone.isSome then none else some { p with zone := some minutes }

def withWeekday (p : DateParts) (which : Int) (day : Nat) : Option DateParts :=
  if p.weekday.isSome then none else some { p with weekday := some (which, day) }

def shift (p : DateParts) (n : Int) (unit : DateUnit) : DateParts :=
  let p := { p with shifted := true }
  match unit with
  | .years => { p with years := p.years + n }
  | .months => { p with months := p.months + n }
  | .days k => { p with days := p.days + n * k }
  | .seconds k => { p with seconds := p.seconds + n * k }

/-- The year that digits write; two digits leave out the century. -/
def fullYear (n digits : Nat) : Int :=
  if digits = 2 then (if n < 69 then n + 2000 else n + 1900) else n

/-- The hour of twelve that a word puts in a half of the day. -/
def meridian? (w : Chars) (hour : Nat) : Option Nat :=
  if hour = 0 || 12 < hour then none
  else
    match String.ofList w with
    | "am" => some (hour % 12)
    | "pm" => some (hour % 12 + 12)
    | _ => none

/-- The minutes of a zone that a signed number writes, of hours or of hours and minutes. -/
def zoneMinutes (negative : Bool) (n digits : Nat) (minutes : Option Nat) : Int :=
  let m : Int := match minutes with
    | some k => n * 60 + k
    | none => if digits ≤ 2 then n * 60 else (n / 100) * 60 + n % 100
  if negative then -m else m

/-- A zone behind a time. -/
def zoneBehind (p : DateParts) : List DateToken → Option (DateParts × List DateToken)
  | .signed negative n digits :: .mark ':' :: .number k _ :: rest =>
    (p.withZone (zoneMinutes negative n digits (some k))).map (·, rest)
  | .signed negative n digits :: rest =>
    (p.withZone (zoneMinutes negative n digits none)).map (·, rest)
  | rest => some (p, rest)

/-- A time of which hours, minutes and seconds were read, in a half of the day or in a zone. -/
def timeBehind (p : DateParts) (h m s nanos : Nat) :
    List DateToken → Option (DateParts × List DateToken)
  | .word w :: rest =>
    if w = txt "am" || w = txt "pm" then
      (meridian? w h).bind fun h => (p.withTime h m s nanos).map (·, rest)
    else (p.withTime h m s nanos).map (·, .word w :: rest)
  | rest => (p.withTime h m s nanos).bind (·.zoneBehind rest)

/-- A number by itself: a year, a whole date, or a time. -/
def withNumber (p : DateParts) (n digits : Nat) : Option DateParts :=
  match p.date with
  | some (none, month, day) =>
    if !p.shifted && (p.time.isSome || 2 < digits) then
      some { p with date := some (some (fullYear n digits), month, day) }
    else general
  | _ => general
where
  general : Option DateParts :=
    if 4 < digits then
      p.withDate (some (fullYear (n / 10000) (digits - 4))) (n / 100 % 100) (n % 100)
    else if digits ≤ 2 then p.withTime n 0 0 0
    else p.withTime (n / 100) (n % 100) 0 0

/-- Reads one item. -/
def item (p : DateParts) : List DateToken → Option (DateParts × List DateToken)
  | .number h _ :: .mark ':' :: .number m _ :: .mark ':' :: .number s _ :: rest =>
    p.timeBehind h m s 0 rest
  | .number h _ :: .mark ':' :: .number m _ :: .mark ':' :: .decimal s nanos :: rest =>
    p.timeBehind h m s nanos rest
  | .number h _ :: .mark ':' :: .number m _ :: rest => p.timeBehind h m 0 0 rest
  | .number a digits :: .mark '/' :: .number b _ :: .mark '/' :: .number c last :: rest =>
    let found := if 4 ≤ digits then p.withDate (some (fullYear a digits)) b c
      else p.withDate (some (fullYear c last)) a b
    found.map (·, rest)
  | .number a _ :: .mark '/' :: .number b _ :: rest => (p.withDate none a b).map (·, rest)
  | .number y digits :: .signed true m _ :: .signed true d _ :: rest =>
    (p.withDate (some (fullYear y digits)) m d).map (·, afterDate rest)
  | .number n digits :: .word w :: rest =>
    match monthNamed? w, weekdayNamed? w, dateUnit? w with
    | some month, _, _ =>
      match rest with
      | .signed true y d :: rest => (p.withDate (some (fullYear y d)) month n).map (·, rest)
      | .number y d :: rest =>
        if rest.head? matches some (.mark ':') then
          (p.withDate none month n).map (·, .number y d :: rest)
        else (p.withDate (some (fullYear y d)) month n).map (·, rest)
      | rest => (p.withDate none month n).map (·, rest)
    | none, some day, _ => (p.withWeekday n day).map (·, rest)
    | none, none, some unit => some (shiftedBy p n unit rest)
    | none, none, none =>
      if w = txt "am" || w = txt "pm" then
        (meridian? w n).bind fun h => (p.withTime h 0 0 0).map (·, rest)
      else (p.withNumber n digits).map (·, .word w :: rest)
  | .number n digits :: rest => (p.withNumber n digits).map (·, rest)
  | .decimal n nanos :: .word w :: rest =>
    match dateUnit? w with
    | some (.seconds 1) =>
      some (shiftedBy { p with nanos := p.nanos + nanos } n (.seconds 1) rest)
    | _ => none
  | .decimal _ _ :: _ => none
  | .signed negative n _ :: .word w :: rest =>
    (dateUnit? w).map fun unit => shiftedBy p (if negative then -n else n) unit rest
  | .signed _ _ _ :: _ => none
  | .word w :: rest =>
    match monthNamed? w, weekdayNamed? w, dateUnit? w, ordinal? w with
    | some month, _, _, _ => monthFirst month rest
    | none, some day, _, _ =>
      let rest := match rest with
        | .mark ',' :: more => more
        | _ => rest
      (p.withWeekday 0 day).map (·, rest)
    | none, none, some unit, _ => some (shiftedBy p 1 unit rest)
    | none, none, none, some n =>
      match rest with
      | .word v :: rest =>
        match weekdayNamed? v, dateUnit? v with
        | some day, _ => (p.withWeekday n day).map (·, rest)
        | none, some unit => some (shiftedBy p n unit rest)
        | none, none => none
      | _ => none
    | none, none, none, none =>
      match String.ofList w with
      | "now" | "today" => some ({ p with shifted := true }, rest)
      | "tomorrow" => some (p.shift 1 (.days 1), rest)
      | "yesterday" => some (p.shift (-1) (.days 1), rest)
      | _ => (zoneNamed? w).bind fun minutes => (p.withZone minutes).map (·, rest)
  | .mark _ :: _ | [] => none
where
  /-- A letter may stand between a date and a time. -/
  afterDate : List DateToken → List DateToken
    | .word ['t'] :: rest => rest
    | rest => rest
  /-- A date that begins with the month. -/
  monthFirst (month : Nat) : List DateToken → Option (DateParts × List DateToken)
    | .number d _ :: .mark ',' :: .number y digits :: rest =>
      (p.withDate (some (fullYear y digits)) month d).map (·, rest)
    | .number d _ :: rest => (p.withDate none month d).map (·, rest)
    | .signed true d _ :: .signed true y digits :: rest =>
      (p.withDate (some (fullYear y digits)) month d).map (·, rest)
    | _ => none
  /-- So much later, or earlier if that is said. -/
  shiftedBy (p : DateParts) (n : Int) (unit : DateUnit) :
      List DateToken → DateParts × List DateToken
    | .word w :: rest =>
      if w = txt "ago" then (p.shift (-n) unit, rest)
      else if w = txt "hence" then (p.shift n unit, rest)
      else (p.shift n unit, .word w :: rest)
    | rest => (p.shift n unit, rest)

/-- Reads all items. -/
def items : (fuel : Nat) → DateParts → List DateToken → Option DateParts
  | _, p, [] => some p
  | 0, _, _ => none
  | fuel + 1, p, ts => (p.item ts).bind fun (p, rest) => items fuel p rest

/-- The date that was read; what it leaves open is as it is `now`. -/
def date? (p : DateParts) (now : Date) : Option Date :=
  let m := Moment.ofDate now
  let (year, month, day) := match p.date with
    | some (y, month, day) => (y.getD m.year, month, day)
    | none => (m.year, m.month, m.day)
  let asNow := p.date.isNone && p.weekday.isNone && p.shifted
  let (h, min, s, nanos) := match p.time with
    | some t => t
    | none => if asNow then (m.hour, m.minute, m.second, m.nanos) else (0, 0, 0, 0)
  let isDay := 1 ≤ month && month ≤ 12 && 1 ≤ day && day ≤ Calendar.monthLength year month
  if !isDay then none
  else
    let start := Calendar.dayNumber year month day
    let weekdayShift : Int := match p.weekday, p.date with
      | some (which, wanted), none =>
        let today := ((start + 4) % 7).toNat
        (((wanted + 7 - today) % 7 : Nat) : Int) +
          7 * (which - if 0 < which && today ≠ wanted then 1 else 0)
      | _, _ => 0
    let months := (month : Int) - 1 + p.months
    let number := Calendar.dayNumber (year + p.years + Int.fdiv months 12)
        ((months % 12).toNat + 1) 1 + (day : Int) - 1 + weekdayShift + p.days
    let seconds := number * 86400 + (h * 3600 + min * 60 + s : Nat) - 60 * p.zone.getD 0 + p.seconds
    some (seconds * 1000000000 + nanos + p.nanos)

end DateParts

/-- The date that a text writes. -/
def Date.read (now : Date) (s : Chars) : Option Date :=
  match s.dropWhile isSpace with
  | '@' :: r =>
    let (negative, body) := match r with
      | '-' :: r => (true, r)
      | '+' :: r => (false, r)
      | r => (false, r)
    let trimmed := Text.dropEndWhile isSpace (body.dropWhile isSpace)
    let digits := trimmed.takeWhile Char.isDigit
    let behind := match trimmed.drop digits.length with
      | [] => some 0
      | p :: more =>
        if (p = '.' || p = ',') && Chars.isDigits more then some (DateToken.nanosOf more) else none
    if digits.isEmpty then none
    else
      behind.map fun nanos =>
        let size : Int := Chars.natOfDigits digits * 1000000000 + nanos
        if negative then -size else size
  | _ => (DateParts.items (s.length + 1) {} (DateToken.readAll (s.length + 1) s)).bind (·.date? now)

end Conformance.Host
