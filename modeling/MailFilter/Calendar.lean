import MailFilter.Text.Basic

/-!
# Dates and moments

A date is a day of the Gregorian calendar in the years 1 to 9999. A moment adds a time of day and
may add the distance of its clock from universal time.
-/
namespace MailFilter

structure Date where
  year : Nat
  month : Nat
  day : Nat
  deriving DecidableEq, Repr

namespace Date

def isLeap (year : Nat) : Bool :=
  year % 4 == 0 && (year % 100 != 0 || year % 400 == 0)

def daysInMonth (year month : Nat) : Nat :=
  if month == 2 then if isLeap year then 29 else 28
  else if month == 4 || month == 6 || month == 9 || month == 11 then 30
  else 31

/-- The date exists. -/
def isValid (d : Date) : Bool :=
  1 ≤ d.year && d.year ≤ 9999 && 1 ≤ d.month && d.month ≤ 12 && 1 ≤ d.day
    && d.day ≤ daysInMonth d.year d.month

/-- The number of days from the first day of year 1. -/
def ordinal (d : Date) : Nat :=
  let y := d.year - 1
  let months := (List.range (d.month - 1)).map fun i => daysInMonth d.year (i + 1)
  365 * y + y / 4 - y / 100 + y / 400 + months.foldl (· + ·) 0 + d.day - 1

/-- Year, month and day with hyphens. -/
def text (d : Date) : Text :=
  Text.padded 4 d.year ++ ['-'] ++ Text.padded 2 d.month ++ ['-'] ++ Text.padded 2 d.day

def fields (d : Date) : List Text := [Text.ofNat d.year, Text.ofNat d.month, Text.ofNat d.day]

/-- The form that names every field. -/
def display (d : Date) : Text :=
  "datetime.date(".toList ++ Text.join ", ".toList d.fields ++ [')']

end Date

/-- A moment. The zone is the number of seconds that its clock is ahead of universal time. -/
structure Moment where
  date : Date
  hour : Nat
  minute : Nat
  second : Nat
  microsecond : Nat
  zone : Option Int
  deriving DecidableEq, Repr

namespace Moment

def daySeconds : Nat := 86400

/-- The moment exists, and its zone is less than a day from universal time. -/
def isValid (m : Moment) : Bool :=
  m.date.isValid && m.hour < 24 && m.minute < 60 && m.second < 60 && m.microsecond < 1000000
    && match m.zone with
      | none => true
      | some z => z.natAbs < daySeconds

/-- Microseconds from the start of year 1, by universal time when the zone is known. -/
def instant (m : Moment) : Int :=
  let seconds : Int :=
    m.date.ordinal * daySeconds + m.hour * 3600 + m.minute * 60 + m.second - m.zone.getD 0
  seconds * 1000000 + m.microsecond

/-- Both moments have a zone and are the same instant, or neither has one and they read the
same. -/
def same (a b : Moment) : Bool := a.zone.isSome == b.zone.isSome && a.instant == b.instant

def zoneText (z : Int) : Text :=
  (if z < 0 then '-' else '+') :: Text.padded 2 (z.natAbs / 3600) ++ [':'] ++
    Text.padded 2 (z.natAbs / 60 % 60)

/-- Date, time, fraction if there is one, and zone if it is known. -/
def text (m : Moment) : Text :=
  m.date.text ++ [' '] ++ Text.padded 2 m.hour ++ [':'] ++ Text.padded 2 m.minute ++ [':'] ++
    Text.padded 2 m.second ++
    (if m.microsecond == 0 then [] else '.' :: Text.padded 6 m.microsecond) ++
    (m.zone.map zoneText).getD []

/-- The zone in the form that names every field: a distance is whole days and the seconds that
remain. -/
def zoneDisplay (z : Int) : Text :=
  if z == 0 then "datetime.timezone.utc".toList
  else
    let days := z.fdiv daySeconds
    let rest := Text.ofInt (z.fmod daySeconds)
    let day := if days == 0 then [] else ["days=".toList ++ Text.ofInt days]
    let seconds := if z.fmod daySeconds == 0 then [] else ["seconds=".toList ++ rest]
    "datetime.timezone(datetime.timedelta(".toList ++ Text.join ", ".toList (day ++ seconds) ++
      "))".toList

/-- The form that names every field. Seconds and their fraction are left out from the end when
they are zero. -/
def display (m : Moment) : Text :=
  let small :=
    if m.microsecond != 0 then [Text.ofNat m.second, Text.ofNat m.microsecond]
    else if m.second != 0 then [Text.ofNat m.second] else []
  let zone := (m.zone.map fun z => "tzinfo=".toList ++ zoneDisplay z).toList
  "datetime.datetime(".toList ++
    Text.join ", ".toList
      (m.date.fields ++ [Text.ofNat m.hour, Text.ofNat m.minute] ++ small ++ zone) ++
    [')']

end Moment

end MailFilter
