/-!
Days and instants of the calendar.
-/

namespace DeclGraph

structure Date where
  year : Nat
  month : Nat
  day : Nat
deriving DecidableEq, Repr

/-- An instant, with its distance from universal time in minutes if that is known. -/
structure Instant where
  date : Date
  hour : Nat
  minute : Nat
  second : Nat
  microsecond : Nat
  offset : Option Int
deriving DecidableEq, Repr

namespace Calendar

def padded (width n : Nat) : String :=
  let digits := toString n
  String.ofList (List.replicate (width - digits.length) '0') ++ digits

def isLeap (year : Nat) : Bool := year % 4 == 0 && (year % 100 != 0 || year % 400 == 0)

def daysIn (year month : Nat) : Nat :=
  if month = 2 then if isLeap year then 29 else 28
  else if [4, 6, 9, 11].contains month then 30 else 31

/-- Days from the first day of the calendar to the first day of a year. -/
def daysBeforeYear (year : Nat) : Nat :=
  let past := year - 1
  365 * past + past / 4 - past / 100 + past / 400

/-- Days of a year before a month. -/
def daysBeforeMonth (year month : Nat) : Nat :=
  (List.range (month - 1)).foldl (fun days i => days + daysIn year (i + 1)) 0

/-- The text of a length of time, which is counted in whole days and the seconds of a further one. -/
def durationQuoted (minutes : Int) : String :=
  let part (name : String) (n : Int) : List String := if n = 0 then [] else [name ++ "=" ++ toString n]
  let parts := part "days" (minutes.fdiv 1440) ++ part "seconds" (minutes.fmod 1440 * 60)
  "datetime.timedelta(" ++ (if parts.isEmpty then "0" else ", ".intercalate parts) ++ ")"

end Calendar

open Calendar

namespace Date

/-- Why a date is not in the calendar, if it is not. -/
def problem? (d : Date) : Option String :=
  if d.year = 0 then some "year 0 is out of range"
  else if d.month = 0 ∨ 12 < d.month then some "month must be in 1..12"
  else if d.day = 0 ∨ daysIn d.year d.month < d.day then some "day is out of range for month"
  else none

def dayNumber (d : Date) : Nat := daysBeforeYear d.year + daysBeforeMonth d.year d.month + d.day

def text (d : Date) : String := padded 4 d.year ++ "-" ++ padded 2 d.month ++ "-" ++ padded 2 d.day

def fields (d : Date) : List String := [toString d.year, toString d.month, toString d.day]

def quoted (d : Date) : String := "datetime.date(" ++ ", ".intercalate d.fields ++ ")"

end Date

namespace Instant

/-- A zone lies less than a day from universal time. -/
def zoneProblem? (minutes : Int) : Option String :=
  if minutes.natAbs < 1440 then none
  else
    some ("offset must be a timedelta strictly between -timedelta(hours=24) and " ++
      "timedelta(hours=24), not " ++ durationQuoted minutes ++ ".")

/-- Why an instant is not in the calendar, if it is not. Its zone is looked at first. -/
def problem? (t : Instant) : Option String :=
  (t.offset.bind zoneProblem?).orElse fun _ => t.date.problem?.orElse fun _ =>
    if 23 < t.hour then some "hour must be in 0..23"
    else if 59 < t.minute then some "minute must be in 0..59"
    else if 59 < t.second then some "second must be in 0..59"
    else none

def offsetText (minutes : Int) : String :=
  (if minutes < 0 then "-" else "+") ++ padded 2 (minutes.natAbs / 60) ++ ":" ++
    padded 2 (minutes.natAbs % 60)

def text (t : Instant) : String :=
  t.date.text ++ " " ++ padded 2 t.hour ++ ":" ++ padded 2 t.minute ++ ":" ++ padded 2 t.second ++
    (if t.microsecond = 0 then "" else "." ++ padded 6 t.microsecond) ++
    (t.offset.map offsetText).getD ""

def zoneQuoted (minutes : Int) : String :=
  if minutes = 0 then "datetime.timezone.utc"
  else "datetime.timezone(" ++ durationQuoted minutes ++ ")"

/-- The minute of the calendar in universal time, if the zone is known. -/
def universalMinute? (t : Instant) : Option Int :=
  t.offset.map fun offset =>
    (t.date.dayNumber : Int) * 1440 + (t.hour * 60 + t.minute : Nat) - offset

/-- Instants of known zones are the same if they are so in universal time. -/
def same (a b : Instant) : Bool :=
  a == b || (a.universalMinute?.isSome && a.universalMinute? == b.universalMinute? &&
    a.second == b.second && a.microsecond == b.microsecond)

def quoted (t : Instant) : String :=
  let fine :=
    if t.microsecond ≠ 0 then [toString t.second, toString t.microsecond]
    else if t.second ≠ 0 then [toString t.second] else []
  let zone := (t.offset.map fun minutes => "tzinfo=" ++ zoneQuoted minutes).toList
  "datetime.datetime(" ++ ", ".intercalate
    (t.date.fields ++ [toString t.hour, toString t.minute] ++ fine ++ zone) ++ ")"

end Instant

end DeclGraph
