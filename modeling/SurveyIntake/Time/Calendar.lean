import SurveyIntake.Time.Instant

/-!
# SurveyIntake.Time.Calendar

Dates of the Gregorian calendar, and instants as texts.

* `Date.ofDays`  — the date some days after the first of January 1970.
* `Date.daysIn`  — the number of days of a month.
* `Instant.text` — date and time of day in UTC, with milliseconds where there are any.

Dates are counted in cycles of 400 years, which have 146097 days each and begin with the first of March.
-/

namespace SurveyIntake

structure Date where
  year : Int
  month : Nat
  day : Nat
  deriving DecidableEq

namespace Date

def cycleDays : Nat := 146097

/-- The days from the first of March of the year 0 to the first of January 1970. -/
def epochDay : Nat := 719468

/-- The year of a day of a cycle: every fourth year is one day longer, save three of the hundredths. -/
def yearOfCycle (day : Nat) : Nat := (day - day / 1460 + day / 36524 - day / 146096) / 365

def ofDays (days : Int) : Date :=
  let shifted := days + epochDay
  let cycle := shifted.fdiv cycleDays
  let day := (shifted.fmod cycleDays).toNat
  let year := yearOfCycle day
  let dayOfYear := day - (365 * year + year / 4 - year / 100)
  let month := (5 * dayOfYear + 2) / 153
  { year := cycle * 400 + year + (if month < 10 then 0 else 1)
    month := if month < 10 then month + 3 else month - 9
    day := dayOfYear - (153 * month + 2) / 5 + 1 }

def isLeap (year : Nat) : Bool := year % 4 == 0 && (year % 100 != 0 || year % 400 == 0)

def daysIn (year month : Nat) : Nat :=
  if month = 2 then if isLeap year then 29 else 28
  else if month = 4 ∨ month = 6 ∨ month = 9 ∨ month = 11 then 30
  else 31

end Date

/-- A number with zeros before it up to a width. -/
def padded (width n : Nat) : String :=
  let digits := toString n
  String.ofList (List.replicate (width - digits.length) '0') ++ digits

/-- Four digits, or a sign and at least four. -/
def yearText (year : Int) : String :=
  if 0 ≤ year ∧ year ≤ 9999 then padded 4 year.toNat
  else (if 0 ≤ year then "+" else "-") ++ padded 4 year.natAbs

namespace Instant

def dayMillis : Nat := 86400000

def text (i : Instant) : String :=
  let date := Date.ofDays (i.millis.fdiv dayMillis)
  let time := (i.millis.fmod dayMillis).toNat
  let fraction := time % 1000
  yearText date.year ++ "-" ++ padded 2 date.month ++ "-" ++ padded 2 date.day ++ "T" ++
    padded 2 (time / 3600000) ++ ":" ++ padded 2 (time / 60000 % 60) ++ ":" ++
    padded 2 (time / 1000 % 60) ++ (if fraction = 0 then "" else "." ++ padded 3 fraction) ++ "Z"

end Instant
end SurveyIntake
