/-
This file finds the shortest decimal that reads back as a given binary number, and among the
shortest ones the nearest.
-/

import WorkflowEngine.Number.Binary64

namespace WorkflowEngine.Number

/-- A decimal is a natural number times a power of ten. -/
structure Decimal where
  digits : Nat
  exponent : Int
  deriving DecidableEq, Repr

namespace ShortestDecimal

/-- The bounds of the rounding interval have one denominator. -/
structure Interval where
  value : Nat
  lower : Nat
  upper : Nat
  denominator : Nat
  closed : Bool

/-- The lower gap is half as wide at a power of two. -/
def interval (number : Binary64) : Interval :=
  let narrow := number.significand = Nat.pow 2 52 ∧ Binary64.leastExponent < number.exponent
  let below := if narrow then 1 else 2
  let up := if 0 ≤ number.exponent then Nat.pow 2 number.exponent.toNat else 1
  let down := if 0 ≤ number.exponent then 1 else Nat.pow 2 (-number.exponent).toNat
  { value := 4 * number.significand * up
    lower := (4 * number.significand - below) * up
    upper := (4 * number.significand + 2) * up
    denominator := 4 * down
    closed := number.significand % 2 = 0 }

/-- A power of ten becomes the unit of the grid. -/
def Interval.rescaled (range : Interval) (exponent : Int) : Interval :=
  if 0 ≤ exponent then { range with denominator := range.denominator * Nat.pow 10 exponent.toNat }
  else
    let factor := Nat.pow 10 (-exponent).toNat
    { range with
      value := range.value * factor
      lower := range.lower * factor
      upper := range.upper * factor }

def Interval.holds (range : Interval) (candidate : Nat) : Bool :=
  let scaled := candidate * range.denominator
  if range.closed then range.lower ≤ scaled && scaled ≤ range.upper
  else range.lower < scaled && scaled < range.upper

/-- A neighbour of the value is chosen only inside the interval. -/
def Interval.nearestInside (range : Interval) : Option Nat :=
  let floor := range.value / range.denominator
  let toFloor := range.value - floor * range.denominator
  let toCeiling := (floor + 1) * range.denominator - range.value
  match range.holds floor && 0 < floor, range.holds (floor + 1) with
  | true, true =>
    if toFloor < toCeiling then some floor
    else if toCeiling < toFloor then some (floor + 1)
    else some (floor + floor % 2)
  | true, false => some floor
  | false, true => some (floor + 1)
  | false, false => none

/-- Each grid is ten times finer than the one before. -/
def search (range : Interval) : Nat → Int → Decimal
  | 0, exponent => ⟨range.value / range.denominator, exponent⟩
  | tries + 1, exponent =>
    match (range.rescaled exponent).nearestInside with
    | some digits => ⟨digits, exponent⟩
    | none => search range tries (exponent - 1)

/-- The estimate is never too small. -/
def leadingExponent (number : Binary64) : Int :=
  ((number.significand.log2 + 1 : Int) + number.exponent) * 30103 / 100000 + 1

def ofBinary (number : Binary64) : Decimal :=
  if number.significand = 0 then ⟨0, 0⟩ else search (interval number) 20 (leadingExponent number)

end ShortestDecimal

end WorkflowEngine.Number
