/-!
Binary floating-point numbers of 64 bits, kept exactly as a sign, a significand and a power of two.
A decimal number is rounded to the nearest of them, and a tie goes to the even significand. All
arithmetic is on integers, so the numbers compare with integers of any size without loss.
-/

namespace ClusterTopology

inductive Binary64 where
  | nan
  | infinity (negative : Bool)
  /-- The number `significand * 2 ^ exponent`, with the sign applied. -/
  | finite (negative : Bool) (significand : Nat) (exponent : Int)
  deriving DecidableEq

namespace Binary64

def leastExponent : Int := -1074

def greatestExponent : Int := 971

def leastNormal : Nat := 0x10000000000000

def zero (negative : Bool) : Binary64 := .finite negative 0 leastExponent

def powerOfTwo (exponent : Int) : Nat × Nat :=
  (Nat.pow 2 exponent.toNat, Nat.pow 2 (-exponent).toNat)

/-- The least exponent at which the ratio of two positive numbers is below `2 ^ 53`. -/
def exponentFor (numerator denominator : Nat) : Int :=
  let estimate : Int := (numerator.log2 : Int) - denominator.log2 - 53
  let (up, down) := powerOfTwo (estimate + 53)
  max leastExponent
    (if numerator * down < denominator * up then estimate else estimate + 1)

def divideToEven (numerator denominator : Nat) : Nat :=
  let quotient := numerator / denominator
  let rest := numerator % denominator
  if 2 * rest < denominator then quotient
  else if denominator < 2 * rest then quotient + 1
  else quotient + quotient % 2

def ofRatio (negative : Bool) (numerator denominator : Nat) : Binary64 :=
  let exponent := exponentFor numerator denominator
  let (up, down) := powerOfTwo exponent
  let significand := divideToEven (numerator * down) (denominator * up)
  let (significand, exponent) :=
    if significand = 2 * leastNormal then (leastNormal, exponent + 1) else (significand, exponent)
  if greatestExponent < exponent then .infinity negative
  else .finite negative significand exponent

/-- The nearest number to `digits * 10 ^ exponent`, where `digits` has at most `width` digits.
Beyond the bounds tested first, every number is infinite or zero. -/
def ofDecimal (negative : Bool) (digits width : Nat) (exponent : Int) : Binary64 :=
  if digits = 0 || (width : Int) + exponent < -330 then zero negative
  else if 310 + (width : Int) < exponent then .infinity negative
  else ofRatio negative (digits * Nat.pow 10 exponent.toNat) (Nat.pow 10 (-exponent).toNat)

def units? : Binary64 → Option Int
  | .finite negative significand exponent =>
    let size : Int := (significand * Nat.pow 2 (exponent - leastExponent).toNat : Nat)
    some (if negative then -size else size)
  | _ => none

def unitsOfInt (z : Int) : Int := z * (Nat.pow 2 (-leastExponent).toNat : Nat)

def truncate? : Binary64 → Option Int
  | .finite negative significand exponent =>
    let (up, down) := powerOfTwo exponent
    let size : Int := (significand * up / down : Nat)
    some (if negative then -size else size)
  | _ => none

end Binary64
end ClusterTopology
