/-!
# Shortest decimals

A binary64 number stands for all reals that round to it.  Its shortest decimal
is the one with the fewest digits among those reals, the nearest to the number
where several have that length, and the larger of two that are equally near.
All comparisons are between natural numbers over one denominator.
-/

namespace FacetElements

namespace Decimal

/-- A positive binary64 number `mantissa * 2 ^ exponent`.  `belowIsCloser` says
that the next smaller number is half as far away as the next larger one. -/
structure Binary where
  mantissa : Nat
  exponent : Int
  belowIsCloser : Bool

/-- The magnitude written in the low sixty-three bits of a finite number. -/
def Binary.ofBits (bits : Nat) : Binary :=
  let biased : Nat := (bits >>> 52) &&& 0x7ff
  let fraction : Nat := bits &&& 0xfffffffffffff
  if biased = 0 then ⟨fraction, -1074, false⟩
  else ⟨fraction + 0x10000000000000, (biased : Int) - 1075, fraction = 0 ∧ 1 < biased⟩

/-- A value between two bounds, all three over a common denominator. -/
structure Interval where
  low : Nat
  value : Nat
  high : Nat
  denominator : Nat
  closed : Bool

/-- The reals that round to a binary number: half a step to either side, ends
included where the mantissa is even. -/
def Binary.interval (b : Binary) : Interval :=
  let numerator := Nat.pow 2 (b.exponent - 2).toNat
  { low := (4 * b.mantissa - if b.belowIsCloser then 1 else 2) * numerator
    value := 4 * b.mantissa * numerator
    high := (4 * b.mantissa + 2) * numerator
    denominator := Nat.pow 2 (2 - b.exponent).toNat
    closed := b.mantissa % 2 = 0 }

/-- The same interval in units of `10 ^ place`. -/
def Interval.inUnits (v : Interval) (place : Int) : Interval :=
  let up := Nat.pow 10 (-place).toNat
  { v with
    low := v.low * up
    value := v.value * up
    high := v.high * up
    denominator := v.denominator * Nat.pow 10 place.toNat }

/-- The whole number `n` lies in the interval. -/
def Interval.Contains (v : Interval) (n : Nat) : Prop :=
  if v.closed then v.low ≤ n * v.denominator ∧ n * v.denominator ≤ v.high
  else v.low < n * v.denominator ∧ n * v.denominator < v.high

instance (v : Interval) (n : Nat) : Decidable (v.Contains n) := by
  unfold Interval.Contains
  infer_instance

/-- The whole number in the interval that is nearest to the value. -/
def Interval.nearest? (v : Interval) : Option Nat :=
  let below := v.value / v.denominator
  if v.Contains below ∧ v.Contains (below + 1) then
    if 2 * v.value < (2 * below + 1) * v.denominator then some below else some (below + 1)
  else if v.Contains below then some below
  else if v.Contains (below + 1) then some (below + 1)
  else none

def digitCount (n : Nat) : Nat :=
  (Nat.toDigits 10 n).length

/-- The place of the leading digit of the value. -/
def Interval.leadingPlace (v : Interval) : Int :=
  if v.denominator ≤ v.value then (digitCount (v.value / v.denominator) : Int) - 1
  else -(digitCount ((v.denominator - 1) / v.value) : Int)

/-- A coefficient and the place of its last digit. -/
structure Scientific where
  coefficient : Nat
  place : Int
  deriving DecidableEq, Repr

/-- The shortest decimal that reads back as a positive binary number.  With
seventeen digits some decimal always does. -/
def shortest (b : Binary) : Scientific :=
  let v := b.interval
  let attempt (digits : Nat) : Option Scientific :=
    let place := v.leadingPlace - digits
    ((v.inUnits place).nearest?).map (⟨·, place⟩)
  ((List.range 17).findSome? attempt).getD ⟨0, 0⟩

end Decimal

end FacetElements
