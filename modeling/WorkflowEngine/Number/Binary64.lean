/-
This file holds the finite numbers of the 64-bit binary floating format. Every operation computes
the exact rational result and rounds it once, to the nearest number and on a tie to the even one.
-/

namespace WorkflowEngine.Number

/-- The significand is below 2^53, and the exponent not below -1074. -/
structure Binary64 where
  negative : Bool
  significand : Nat
  exponent : Int
  deriving DecidableEq, Repr, Inhabited

namespace Binary64

/-- The least exponent of the format. -/
def leastExponent : Int := -1074

/-- The greatest exponent of the format. -/
def greatestExponent : Int := 971

def zero : Binary64 := ⟨false, 0, leastExponent⟩

def negate (value : Binary64) : Binary64 :=
  { value with negative := !value.negative }

/-- A tie goes to the even quotient. -/
def roundedQuotient (numerator denominator : Nat) : Nat :=
  let quotient := numerator / denominator
  let rest := 2 * (numerator % denominator)
  if rest < denominator then quotient
  else if denominator < rest then quotient + 1
  else quotient + quotient % 2

def ratioLog (numerator denominator : Nat) : Int :=
  let estimate : Int := (numerator.log2 : Int) - denominator.log2
  let reached :=
    if 0 ≤ estimate then decide (denominator * Nat.pow 2 estimate.toNat ≤ numerator)
    else decide (denominator ≤ numerator * Nat.pow 2 (-estimate).toNat)
  if reached then estimate else estimate - 1

/-- The denominator is positive, and `none` is an overflow. -/
def nearest? (numerator denominator : Nat) : Option Binary64 :=
  if numerator = 0 then some zero
  else
    let exponent := max leastExponent (ratioLog numerator denominator - 52)
    let significand :=
      if 0 ≤ exponent then roundedQuotient numerator (denominator * Nat.pow 2 exponent.toNat)
      else roundedQuotient (numerator * Nat.pow 2 (-exponent).toNat) denominator
    let carried : Nat × Int :=
      if significand = Nat.pow 2 53 then (Nat.pow 2 52, exponent + 1) else (significand, exponent)
    if greatestExponent < carried.2 then none else some ⟨false, carried.1, carried.2⟩

def ratio (value : Binary64) : Nat × Nat :=
  if 0 ≤ value.exponent then (value.significand * Nat.pow 2 value.exponent.toNat, 1)
  else (value.significand, Nat.pow 2 (-value.exponent).toNat)

def product? (left right : Binary64) : Option Binary64 :=
  nearest? (left.ratio.1 * right.ratio.1) (left.ratio.2 * right.ratio.2)

def quotient? (left right : Binary64) : Option Binary64 :=
  nearest? (left.ratio.1 * right.ratio.2) (left.ratio.2 * right.ratio.1)

/-- The nearest number need not be exact. -/
def powerOfTen (exponent : Nat) : Binary64 :=
  (nearest? (Nat.pow 10 exponent) 1).getD zero

/-- The steps are of 10^308 and stop early at zero. -/
def scaleDown (value : Binary64) (steps rest : Nat) : Option Binary64 :=
  if value.significand = 0 then some value
  else match steps with
    | 0 => value.quotient? (powerOfTen rest)
    | steps + 1 =>
      match value.quotient? (powerOfTen 308) with
      | some smaller => scaleDown smaller steps rest
      | none => none

/-- The significand is rounded first and then scaled. -/
def ofDecimal? (significand : Nat) (exponent : Int) : Option Binary64 :=
  match nearest? significand 1 with
  | none => none
  | some value =>
    if value.significand = 0 then some value
    else if 0 ≤ exponent then
      if 308 < exponent then none else value.product? (powerOfTen exponent.toNat)
    else
      let size := (-exponent).toNat
      let steps := (size - 1) / 308
      scaleDown value steps (size - 308 * steps)

end Binary64

end WorkflowEngine.Number
