/-!
# Calendar dates

Dates of the proleptic Gregorian calendar and their day numbers, day zero being the first of January
1970. Years are counted from March inside this file, so that the leap day is the last of its year.
-/

set_option autoImplicit false

namespace PipeQuery

/-- A date of the proleptic Gregorian calendar. Months and days count from one. -/
structure Date where
  year : Int
  month : Nat
  day : Nat
deriving DecidableEq, Repr

namespace Date

def isLeapYear (year : Int) : Bool :=
  year % 4 == 0 && (year % 100 != 0 || year % 400 == 0)

def daysInMonth (year : Int) (month : Nat) : Nat :=
  if month == 2 then (if isLeapYear year then 29 else 28)
  else if month == 4 || month == 6 || month == 9 || month == 11 then 30
  else if 1 ≤ month && month ≤ 12 then 31
  else 0

def firstYear : Int := -262143

def lastYear : Int := 262142

def ofFields? (year : Int) (month day : Nat) : Option Date :=
  if firstYear ≤ year ∧ year ≤ lastYear ∧ 1 ≤ day ∧ day ≤ daysInMonth year month then
    some ⟨year, month, day⟩
  else none

/-- The number of days from the first of March of year zero to that of the given year. -/
def marchStart (year : Int) : Int :=
  365 * year + year / 4 - year / 100 + year / 400

/-- The number of days from the first of March to the first of a month, which is counted from March. -/
def monthStart (month : Nat) : Nat :=
  (153 * month + 2) / 5

def epochShift : Int := 719468

/-- The number of days since the first of January 1970. -/
def dayNumber (date : Date) : Int :=
  let (year, month) :=
    if date.month > 2 then (date.year, date.month - 3) else (date.year - 1, date.month + 9)
  marchStart year + monthStart month + (date.day - 1 : Int) - epochShift

/-- The year, counted from March, that a distance from the first of March of year zero falls in. The
mean length of a year gives a guess that is off by at most one. -/
def marchYear (distance : Int) : Int :=
  let guess := distance * 400 / 146097
  if marchStart (guess + 1) ≤ distance then guess + 1
  else if distance < marchStart guess then guess - 1
  else guess

def ofDayNumber (number : Int) : Date :=
  let distance := number + epochShift
  let year := marchYear distance
  let dayOfYear := (distance - marchStart year).toNat
  let month := (5 * dayOfYear + 2) / 153
  let day := dayOfYear - monthStart month + 1
  if month < 10 then ⟨year, month + 3, day⟩ else ⟨year + 1, month - 9, day⟩

/-- The day of the week, from Sunday as zero. -/
def weekday (number : Int) : Nat :=
  ((number + 4) % 7).toNat

def isKept (number : Int) : Bool :=
  dayNumber ⟨firstYear, 1, 1⟩ ≤ number && number ≤ dayNumber ⟨lastYear, 12, 31⟩

end Date

end PipeQuery
