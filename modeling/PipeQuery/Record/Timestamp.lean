import PipeQuery.Calendar.Instant

/-!
# Timestamps

Points in time as signed 64-bit counts of milliseconds, which is how records hold them.
-/

set_option autoImplicit false

namespace PipeQuery

/-- Milliseconds since the first of January 1970. -/
structure Timestamp where
  millis : Int64
deriving DecidableEq

namespace Timestamp

/-- The timestamp nearest to a number of milliseconds. -/
def ofMillis (millis : Int) : Timestamp :=
  ⟨Int64.ofInt (max (-(2 ^ 63)) (min millis (2 ^ 63 - 1)))⟩

def ofSeconds (seconds : Int64) : Timestamp :=
  ofMillis (seconds.toInt * 1000)

/-- The timestamp of an instant, rounded down to a millisecond. -/
def ofInstant (instant : Instant) : Timestamp :=
  ofMillis instant.millis

def seconds (timestamp : Timestamp) : Int :=
  timestamp.millis.toInt.tdiv 1000

def toInstant? (timestamp : Timestamp) : Option Instant :=
  Instant.ofMillis? timestamp.millis.toInt

def compare (left right : Timestamp) : Ordering :=
  Ord.compare left.millis.toInt right.millis.toInt

end Timestamp

end PipeQuery
