/-
This file holds spans of time and their texts.
-/

namespace WorkflowEngine.Time

/-- A duration is a number of nanoseconds. -/
structure Duration where
  nanoseconds : Nat
  deriving DecidableEq, Repr, Inhabited

namespace Duration

def ofMilliseconds (count : Nat) : Duration :=
  ⟨count * 1000000⟩

def ofSeconds (count : Nat) : Duration :=
  ⟨count * 1000000000⟩

def seconds (duration : Duration) : Nat :=
  duration.nanoseconds / 1000000000

def subsecond (duration : Duration) : Nat :=
  duration.nanoseconds % 1000000000

/-- A part of a second counts as a whole one. -/
def secondsRoundedUp (duration : Duration) : Nat :=
  duration.seconds + (if 0 < duration.subsecond then 1 else 0)

def digits : Nat → Nat → List Char
  | 0, _ => []
  | count + 1, value => digits count (value / 10) ++ [Char.ofNat (48 + value % 10)]

def fraction (places value : Nat) : List Char :=
  let kept := ((digits places value).reverse.dropWhile fun c => c == '0').reverse
  if kept.isEmpty then [] else '.' :: kept

/-- The unit is the largest of which the duration holds at least one. -/
def text (duration : Duration) : String :=
  let count := duration.nanoseconds
  let written (places : Nat) (unit : String) : String :=
    toString (count / Nat.pow 10 places) ++ String.ofList (fraction places (count % Nat.pow 10 places)) ++ unit
  if 1000000000 ≤ count then written 9 "s"
  else if 1000000 ≤ count then written 6 "ms"
  else if 1000 ≤ count then written 3 "µs"
  else written 0 "ns"

end Duration

end WorkflowEngine.Time
