import PipeQuery.Calendar.Date
import PipeQuery.Text.Digits

/-!
# Instants

Points in time in UTC, with nanoseconds. A leap second is counted on top of the second before it, so
its nanoseconds reach beyond a whole second.
-/

set_option autoImplicit false

namespace PipeQuery

structure Instant where
  /-- Whole seconds since the first of January 1970, leap seconds not counted. -/
  seconds : Int
  /-- Nanoseconds into the second; from `10 ^ 9` up to below twice that inside a leap second. -/
  nanos : Nat
deriving DecidableEq, Repr

/-- A date and a time of day as they are written down, with the distance from UTC in seconds. -/
structure WrittenTime where
  year : Int
  month : Nat
  day : Nat
  hour : Nat
  minute : Nat
  second : Nat
  nanos : Nat
  offset : Int

namespace Instant

def daySeconds : Int := 86400

def nanosPerSecond : Nat := 10 ^ 9

/-- The instant of a written time, if its fields are in range, the offset is less than a day and the
date in UTC has a year that is kept. A second sixty is accepted in every minute. -/
def ofWritten? (written : WrittenTime) : Option Instant := do
  let date ← Date.ofFields? written.year written.month written.day
  let inRange : Bool := written.hour ≤ 23 && written.minute ≤ 59 && written.second ≤ 60
    && written.nanos < nanosPerSecond && written.offset.natAbs < daySeconds.natAbs
  let second := min written.second 59
  let leap := if written.second = 60 then nanosPerSecond else 0
  let timeOfDay : Int := written.hour * 3600 + written.minute * 60 + second
  let seconds := date.dayNumber * daySeconds + timeOfDay - written.offset
  if inRange && Date.isKept (seconds / daySeconds) then some ⟨seconds, written.nanos + leap⟩ else none

def millis (instant : Instant) : Int :=
  instant.seconds * 1000 + (instant.nanos / 10 ^ 6 : Nat)

def ofMillis? (millis : Int) : Option Instant :=
  let seconds := millis / 1000
  if Date.isKept (seconds / daySeconds) then
    some ⟨seconds, (millis % 1000).toNat * 10 ^ 6⟩
  else none

/-- The year with four digits, or with a sign and at least four digits outside of zero to 9999. -/
def yearText (year : Int) : List Char :=
  let digits := Text.paddedDigits 4 year.natAbs
  if 0 ≤ year ∧ year ≤ 9999 then digits
  else if year < 0 then '-' :: digits
  else '+' :: digits

/-- The fraction of a second with three, six or nine digits, as few as are exact, and none for zero. -/
def fractionText (nanos : Nat) : List Char :=
  if nanos = 0 then []
  else if nanos % 10 ^ 6 = 0 then '.' :: Text.paddedDigits 3 (nanos / 10 ^ 6)
  else if nanos % 10 ^ 3 = 0 then '.' :: Text.paddedDigits 6 (nanos / 10 ^ 3)
  else '.' :: Text.paddedDigits 9 nanos

def text (instant : Instant) : List Char :=
  let date := Date.ofDayNumber (instant.seconds / daySeconds)
  let timeOfDay := (instant.seconds % daySeconds).toNat
  let leap := if nanosPerSecond ≤ instant.nanos then 1 else 0
  let two (value : Nat) := Text.paddedDigits 2 value
  yearText date.year ++ '-' :: two date.month ++ '-' :: two date.day
    ++ 'T' :: two (timeOfDay / 3600) ++ ':' :: two (timeOfDay / 60 % 60)
    ++ ':' :: two (timeOfDay % 60 + leap)
    ++ fractionText (instant.nanos - leap * nanosPerSecond) ++ ['Z']

end Instant

end PipeQuery
