/-
This file holds instants of universal time with nanoseconds. The nanoseconds of a leap second run
from one to two thousand million behind the second before it.
-/

import WorkflowEngine.Time.Calendar
import WorkflowEngine.Time.Duration

namespace WorkflowEngine.Time

/-- The fraction of a leap second is not below 10^9. -/
structure Timestamp where
  seconds : Int
  fraction : Nat
  deriving DecidableEq, Repr, Inhabited

namespace Timestamp

/-- The number of nanoseconds of a second. -/
def billion : Nat := 1000000000

def secondOfDay (time : Timestamp) : Int :=
  time.seconds % 86400

/-- Timestamps are ordered by second and then by fraction. -/
def le (left right : Timestamp) : Bool :=
  left.seconds < right.seconds || (left.seconds = right.seconds && left.fraction ≤ right.fraction)

def compare (left right : Timestamp) : Ordering :=
  (Ord.compare left.seconds right.seconds).then (Ord.compare left.fraction right.fraction)

/-- A timestamp inside a leap second leaves it with its fraction. -/
def addSeconds (time : Timestamp) (count : Nat) : Timestamp :=
  if count = 0 then time else ⟨time.seconds + count, time.fraction % billion⟩

/-- A leap second counts between two times of day if the earlier time of day lies in it. -/
def leapBetween (later earlier : Timestamp) : Int :=
  if earlier.secondOfDay < later.secondOfDay then (if billion ≤ earlier.fraction then 1 else 0)
  else if later.secondOfDay < earlier.secondOfDay then (if billion ≤ later.fraction then -1 else 0)
  else 0

def since (later earlier : Timestamp) : Int :=
  (later.seconds - earlier.seconds + leapBetween later earlier) * billion +
    ((later.fraction : Int) - earlier.fraction)

/-- A negative time counts as zero. -/
def durationSince (later earlier : Timestamp) : Duration :=
  ⟨(later.since earlier).toNat⟩

def addMicroseconds (time : Timestamp) (count : Nat) : Timestamp :=
  let total := time.fraction + count * 1000
  ⟨time.seconds + total / billion, total % billion⟩

/-- The start of 2000, from which a database counts its times. -/
def databaseEpoch : Timestamp := ⟨946684800, 0⟩

/-- A database keeps the whole microseconds of a time from its epoch. -/
def truncated (time : Timestamp) : Timestamp :=
  let microseconds := (time.since databaseEpoch).tdiv 1000
  ⟨databaseEpoch.seconds + microseconds / 1000000, (microseconds % 1000000).toNat * 1000⟩

end Timestamp

end WorkflowEngine.Time
