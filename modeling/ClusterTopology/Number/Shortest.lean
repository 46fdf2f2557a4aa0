import ClusterTopology.Number.Binary64
import ClusterTopology.Text.Basic

/-!
The shortest decimal form of a floating-point number. Among the decimals that round to the number,
those with the fewest digits are taken, and of these the one nearest to the number. The search asks
for each count of digits whether one of the two neighbours of the number on the decimal grid of
that count rounds to it.
-/

namespace ClusterTopology.Binary64

structure Decimal where
  digits : Nat
  exponent : Int
  deriving DecidableEq

/-- The interval of reals that round to a positive number, with the number itself, all over one
denominator. Its ends belong to it when `closed`. -/
structure Interval where
  low : Nat
  value : Nat
  high : Nat
  denominator : Nat
  closed : Bool

/-- Below a power of two the numbers lie twice as dense, so the lower end is nearer there. -/
def interval (significand : Nat) (exponent : Int) : Interval :=
  let (up, down) := powerOfTwo exponent
  let lowGap := if significand = leastNormal && leastExponent < exponent then 1 else 2
  ⟨(4 * significand - lowGap) * up, 4 * significand * up, (4 * significand + 2) * up, 4 * down,
    significand % 2 = 0⟩

def Interval.holds (i : Interval) (numerator denominator : Nat) : Bool :=
  let scaled := numerator * i.denominator
  (i.low * denominator < scaled && scaled < i.high * denominator)
    || (i.closed && (scaled = i.low * denominator || scaled = i.high * denominator))

/-- The position of the decimal point before the first digit that is not zero: the greatest power
of ten that is at most the value is one below it. -/
def pointPosition (numerator denominator : Nat) : Int :=
  if denominator ≤ numerator then ((Nat.toDigits 10 (numerator / denominator)).length : Int)
  else
    let shifts := List.range 400
    1 - ((shifts.find? fun shift => denominator ≤ numerator * Nat.pow 10 shift).getD 400 : Nat)

/-- The better of the two neighbours of the value on the grid of `10 ^ exponent`, if one of them is
in the interval; a tie goes to the even neighbour. -/
def Interval.nearestOn? (i : Interval) (exponent : Int) : Option Decimal :=
  let up := Nat.pow 10 exponent.toNat
  let down := Nat.pow 10 (-exponent).toNat
  let below := i.value * down / (i.denominator * up)
  let above := below + 1
  let belowFits := 0 < below && i.holds (below * up) down
  let aboveFits := i.holds (above * up) down
  let gapBelow := i.value * down - below * up * i.denominator
  let gapAbove := above * up * i.denominator - i.value * down
  let takeBelow : Bool :=
    belowFits && (!aboveFits || gapBelow < gapAbove || (gapBelow = gapAbove && below % 2 = 0))
  if takeBelow then some ⟨below, exponent⟩
  else if aboveFits then some ⟨above, exponent⟩
  else none

/-- The shortest decimal of a positive number; seventeen digits always suffice. -/
def shortest (significand : Nat) (exponent : Int) : Decimal :=
  let i := interval significand exponent
  let point := pointPosition i.value i.denominator
  ((List.range 17).findSome? fun count => i.nearestOn? (point - (count + 1 : Nat))).getD ⟨0, 0⟩

/-- How a number is laid out: between which positions of the decimal point it is written without an
exponent, and how the numbers that have no digits are called. -/
structure Layout where
  lowestPoint : Int
  highestPoint : Int
  nan : Text
  infinity : Text

def writePositional (digits : Text) (point : Int) : Text :=
  if point ≤ 0 then "0." ++ List.replicate (-point).toNat (CodePoint.ofChar '0') ++ digits
  else if point < digits.length then
    digits.take point.toNat ++ "." ++ digits.drop point.toNat
  else digits ++ List.replicate (point - digits.length).toNat (CodePoint.ofChar '0') ++ ".0"

def writeScientific (digits : Text) (point : Int) : Text :=
  let fraction : Text := if digits.length ≤ 1 then [] else "." ++ digits.drop 1
  let power := point - 1
  let sign : Text := if power < 0 then "-" else "+"
  let size := Text.ofNat power.natAbs
  let padding : Text := if size.length < 2 then "0" else []
  digits.take 1 ++ fraction ++ "e" ++ sign ++ padding ++ size

def Layout.writeMagnitude (layout : Layout) (significand : Nat) (exponent : Int) : Text :=
  if significand = 0 then "0.0"
  else
    let decimal := shortest significand exponent
    let written := Text.ofNat decimal.digits
    let point := decimal.exponent + written.length
    let digits := (written.reverse.dropWhile fun c : CodePoint => c = '0').reverse
    if layout.lowestPoint ≤ point && point ≤ layout.highestPoint then writePositional digits point
    else writeScientific digits point

def Layout.write (layout : Layout) : Binary64 → Text
  | .nan => layout.nan
  | .infinity negative => (if negative then "-" else "") ++ layout.infinity
  | .finite negative significand exponent =>
    (if negative then "-" else "") ++ layout.writeMagnitude significand exponent

end ClusterTopology.Binary64
