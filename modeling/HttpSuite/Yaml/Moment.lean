import HttpSuite.Number.Numeral

/-!
# Dates and times

A moment is a date, or a date with a time of day and perhaps the distance of its zone from universal
time. Two times with zones are the same moment if they are the same in universal time.

- `MomentParts.read?`: the parts of a written moment.
- `MomentParts.moment`: the moment that they denote, if there is such a date and time.
- `Moment.shown`: a moment as messages show it.
-/

namespace HttpSuite.Yaml

/-- A day of the calendar. -/
structure Date where
  year : Nat
  month : Nat
  day : Nat
  deriving DecidableEq, Repr

/-- A time of day. -/
structure Clock where
  hour : Nat
  minute : Nat
  second : Nat
  micro : Nat
  deriving DecidableEq, Repr

/-- A date, or a date and a time of day; a zone is given by its distance in minutes. -/
inductive Moment
  | date (date : Date)
  | time (date : Date) (clock : Clock) (zone : Option Int)
  deriving DecidableEq, Repr

/-- Why numbers are no date or time. -/
inductive CalendarFault
  | year (year : Nat)
  | month
  | day
  | hour
  | minute
  | second
  /-- A zone that is a day or more away, by its minutes. -/
  | zone (minutes : Int)
  deriving DecidableEq, Repr

/-- A duration of whole minutes as messages show it: days, and the seconds that are left. -/
def shownDuration (minutes : Int) : String :=
  let days := minutes.fdiv 1440
  let seconds := minutes.fmod 1440 * 60
  let parts := (if days = 0 then [] else ["days=" ++ toString days]) ++
    (if seconds = 0 then [] else ["seconds=" ++ toString seconds])
  "datetime.timedelta(" ++ (if parts.isEmpty then "0" else ", ".intercalate parts) ++ ")"

/-- The wording of a fault. -/
def CalendarFault.message : CalendarFault → String
  | .year given => "year " ++ toString given ++ " is out of range"
  | .month => "month must be in 1..12"
  | .day => "day is out of range for month"
  | .hour => "hour must be in 0..23"
  | .minute => "minute must be in 0..59"
  | .second => "second must be in 0..59"
  | .zone minutes =>
    "offset must be a timedelta strictly between -timedelta(hours=24) and timedelta(hours=24), not " ++
      shownDuration minutes ++ "."

/-! ## The calendar -/

/-- Whether a year has a leap day. -/
def isLeapYear (year : Nat) : Bool :=
  year % 4 == 0 && (year % 100 != 0 || year % 400 == 0)

/-- The number of days of a month. -/
def daysInMonth (year month : Nat) : Nat :=
  if month = 2 then if isLeapYear year then 29 else 28
  else if [4, 6, 9, 11].contains month then 30
  else 31

/-- The number of a day, counted from the first day of the first year. -/
def Date.ordinal (date : Date) : Nat :=
  let past := date.year - 1
  let months := (List.range (date.month - 1)).map fun n => daysInMonth date.year (n + 1)
  365 * past + past / 4 - past / 100 + past / 400 + months.foldl (· + ·) 0 + date.day

/-- A date, if there is one with these numbers. -/
def Date.check (date : Date) : Except CalendarFault Date :=
  if date.year = 0 then .error (.year date.year)
  else if date.month = 0 || 12 < date.month then .error .month
  else if date.day = 0 || daysInMonth date.year date.month < date.day then .error .day
  else .ok date

/-- A time of day, if there is one with these numbers. -/
def Clock.check (clock : Clock) : Except CalendarFault Clock :=
  if 23 < clock.hour then .error .hour
  else if 59 < clock.minute then .error .minute
  else if 59 < clock.second then .error .second
  else .ok clock

/-! ## Moments -/

/-- A time in universal time: minutes from the start of the calendar, seconds and microseconds. -/
def instant (date : Date) (clock : Clock) (zone : Int) : Int × Nat × Nat :=
  (((date.ordinal * 24 + clock.hour) * 60 + clock.minute : Nat) - zone, clock.second, clock.micro)

/-- Whether two moments are the same. A time with a zone is never the same as one without. -/
def Moment.same : Moment → Moment → Bool
  | .date d, .date d' => d == d'
  | .time d c none, .time d' c' none => d == d' && c == c'
  | .time d c (some z), .time d' c' (some z') => instant d c z == instant d' c' z'
  | _, _ => false

/-- A zone as messages show it. -/
def shownZone (minutes : Int) : String :=
  if minutes = 0 then "datetime.timezone.utc"
  else "datetime.timezone(" ++ shownDuration minutes ++ ")"

/-- A moment as messages show it: seconds and microseconds only as far as they are not zero. -/
def Moment.shown : Moment → String
  | .date d =>
    "datetime.date(" ++ ", ".intercalate ([d.year, d.month, d.day].map toString) ++ ")"
  | .time d c zone =>
    let numbers := [d.year, d.month, d.day, c.hour, c.minute] ++
      (if c.micro ≠ 0 then [c.second, c.micro] else if c.second ≠ 0 then [c.second] else [])
    let parts := numbers.map toString ++ match zone with
      | none => []
      | some minutes => ["tzinfo=" ++ shownZone minutes]
    "datetime.datetime(" ++ ", ".intercalate parts ++ ")"

/-! ## Written moments -/

/-- The written parts of a moment, all of them digits but for the sign of a zone. -/
structure MomentParts where
  year : List Char
  month : List Char
  day : List Char
  clock : Option (List Char × List Char × List Char) := none
  fraction : List Char := []
  /-- The sign, the hours and the minutes of a zone. -/
  zone : Option (Char × List Char × List Char) := none

/-- Split digits off a text, between a least and a greatest number of them. -/
def digitsBetween (least greatest : Nat) (cs : List Char) : Option (List Char × List Char) :=
  let digits := (cs.takeWhile Char.isDigit).take greatest
  if digits.length < least then none else some (digits, cs.drop digits.length)

/-- Pass one character. -/
def pass (c : Char) (cs : List Char) : Option (List Char) :=
  if cs.head? == some c then some (cs.drop 1) else none

/-- The zone at the end of a time. -/
def readZone (cs : List Char) : Option (Option (Char × List Char × List Char)) := do
  match cs.dropWhile fun c => c == ' ' || c == '\t' with
  | [] => if cs.isEmpty then some none else none
  | ['Z'] => some (some ('+', ['0'], ['0']))
  | sign :: rest =>
    if sign != '+' && sign != '-' then none
    else
      let (hours, rest) ← digitsBetween 1 2 rest
      if rest.isEmpty then some (some (sign, hours, ['0']))
      else
        let (minutes, rest) ← digitsBetween 2 2 (← pass ':' rest)
        if rest.isEmpty then some (some (sign, hours, minutes)) else none

/-- A time of day and what follows it, after a date. -/
def readClock (date : MomentParts) (cs : List Char) : Option MomentParts := do
  let afterSeparator ←
    if cs.head? == some 'T' || cs.head? == some 't' then some (cs.drop 1)
    else
      let rest := cs.dropWhile fun c => c == ' ' || c == '\t'
      if rest.length < cs.length then some rest else none
  let (hour, rest) ← digitsBetween 1 2 afterSeparator
  let (minute, rest) ← digitsBetween 2 2 (← pass ':' rest)
  let (second, rest) ← digitsBetween 2 2 (← pass ':' rest)
  let (fraction, rest) := match rest with
    | '.' :: rest => (rest.takeWhile Char.isDigit, rest.dropWhile Char.isDigit)
    | rest => ([], rest)
  let zone ← readZone rest
  return { date with clock := some (hour, minute, second), fraction, zone }

/-- The parts of a written moment. -/
def MomentParts.read? (cs : List Char) : Option MomentParts := do
  let (year, rest) ← digitsBetween 4 4 cs
  let (month, rest) ← digitsBetween 1 2 (← pass '-' rest)
  let (day, rest) ← digitsBetween 1 2 (← pass '-' rest)
  if rest.isEmpty then some { year, month, day } else readClock { year, month, day } rest

/-- Whether a moment is recognised without being marked as one: a date by itself has two digits for
month and day. -/
def MomentParts.isEvident (parts : MomentParts) : Bool :=
  parts.clock.isSome || (parts.month.length = 2 && parts.day.length = 2)

/-- The zone of a moment in minutes, if it is less than a day away. -/
def MomentParts.zoneMinutes (parts : MomentParts) : Except CalendarFault (Option Int) :=
  match parts.zone with
  | none => .ok none
  | some (sign, hours, minutes) =>
    let distance := 60 * Number.digitsValue hours + Number.digitsValue minutes
    let distance := Number.signed (sign == '-') distance
    if distance.natAbs < 1440 then .ok (some distance) else .error (.zone distance)

/-- The moment that written parts denote. Microseconds are the first six digits of the fraction. -/
def MomentParts.moment (parts : MomentParts) : Except CalendarFault Moment := do
  let date : Date :=
    ⟨Number.digitsValue parts.year, Number.digitsValue parts.month, Number.digitsValue parts.day⟩
  match parts.clock with
  | none => return .date (← date.check)
  | some (hour, minute, second) =>
    let zone ← parts.zoneMinutes
    let date ← date.check
    let micros := parts.fraction.take 6 ++ List.replicate (6 - parts.fraction.length) '0'
    let clock ← (Clock.mk (Number.digitsValue hour) (Number.digitsValue minute)
      (Number.digitsValue second) (Number.digitsValue micros)).check
    return .time date clock zone

end HttpSuite.Yaml
