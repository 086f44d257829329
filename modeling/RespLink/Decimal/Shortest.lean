/-!
# Shortest decimals — the fewest digits that read back

A binary number stands for every real that rounds to it, and those form an interval around its
value. Written in decimal, the number needs only as many digits as it takes to land in that
interval. `Decimal.shortest` tries one digit, two, three and so on: on each grid only the two
points next to the value can be nearest, so the first grid of which one of them lies inside gives
the answer. If both do, the nearer is taken, and the upper one when they are equally near.

All of it is exact arithmetic on natural numbers.
-/

namespace RespLink
namespace Decimal

/-- The reals that round to one binary number, over a common denominator: its value, and the ends
    of the interval, which belong to it only if `closed`. -/
structure Rounding where
  low : Nat
  value : Nat
  high : Nat
  denominator : Nat
  closed : Bool
  deriving Repr

namespace Rounding

/-- The interval of `significand · 2 ^ scale`, up to half way to its neighbours. The lower
    neighbour is only half as far at a power of two (`narrow`). The ends round to the even
    significand. -/
def ofBinary (significand : Nat) (scale : Int) (narrow : Bool) : Rounding :=
  let quarter := 1 <<< (scale - 2).toNat
  { low := (4 * significand - if narrow then 1 else 2) * quarter
    value := 4 * significand * quarter
    high := (4 * significand + 2) * quarter
    denominator := 1 <<< (2 - scale).toNat
    closed := significand % 2 = 0 }

/-- `point · 10 ^ exponent` and `x / denominator`, both multiplied by the same number. -/
def common (r : Rounding) (point : Nat) (exponent : Int) (x : Nat) : Nat × Nat :=
  (point * Nat.pow 10 exponent.toNat * r.denominator, x * Nat.pow 10 (-exponent).toNat)

/-- Whether `point · 10 ^ exponent` rounds to the number. -/
def contains (r : Rounding) (point : Nat) (exponent : Int) : Bool :=
  let (p, low) := r.common point exponent r.low
  let (_, high) := r.common point exponent r.high
  if r.closed then low ≤ p && p ≤ high else low < p && p < high

/-- How far `point · 10 ^ exponent` lies from the value, in a unit that depends on `exponent`
    alone. -/
def distance (r : Rounding) (point : Nat) (exponent : Int) : Nat :=
  let (p, v) := r.common point exponent r.value
  (p - v) + (v - p)

/-- The number of zeros between the point and the first digit of `value / denominator`, which is
    less than one tenth as long as there is one more. -/
def zeros : (fuel value denominator : Nat) → Nat
  | 0, _, _ => 0
  | fuel + 1, value, denominator =>
    if denominator ≤ value * 10 then 0 else zeros fuel (value * 10) denominator + 1

/-- The number of digits before the point; negative when zeros follow the point. -/
def position (r : Rounding) : Int :=
  if r.denominator ≤ r.value then ((Nat.toDigits 10 (r.value / r.denominator)).length : Int)
  else -(zeros 400 r.value r.denominator : Int)

/-- The nearest point of the grid `10 ^ exponent` that rounds to the number. -/
def nearest? (r : Rounding) (exponent : Int) : Option Nat :=
  let below := r.value * Nat.pow 10 (-exponent).toNat / (r.denominator * Nat.pow 10 exponent.toNat)
  let above := below + 1
  match r.contains below exponent, r.contains above exponent with
  | true, true =>
    some (if r.distance below exponent < r.distance above exponent then below else above)
  | true, false => some below
  | false, true => some above
  | false, false => none

/-- The first of the grids of `count`, `count + 1`, … digits that has a point in the interval:
    the point and the grid's exponent. -/
def search (r : Rounding) : (fuel count : Nat) → Nat × Int
  | 0, count => (r.value / r.denominator, count)
  | fuel + 1, count =>
    let exponent := r.position - count
    match r.nearest? exponent with
    | some point => (point, exponent)
    | none => search r fuel (count + 1)

end Rounding

/-- A decimal with few digits, `point · 10 ^ exponent`, that rounds to the number. Seventeen
    digits always suffice for 53 bits. -/
def shortest (r : Rounding) : Nat × Int := r.search 18 1

/-- The digits of a positive `point`, without the zeros at its end. -/
def significantDigits (point : Nat) : List Char :=
  ((Nat.toDigits 10 point).reverse.dropWhile (· = '0')).reverse

/-- `point · 10 ^ exponent` in positional notation, however large or small. -/
def positional (point : Nat) (exponent : Int) : List Char :=
  let digits := significantDigits point
  let dropped := (Nat.toDigits 10 point).length - digits.length
  let exponent := exponent + dropped
  let before : Int := digits.length + exponent
  if 0 ≤ exponent then digits ++ List.replicate exponent.toNat '0'
  else if 0 < before then digits.take before.toNat ++ '.' :: digits.drop before.toNat
  else '0' :: '.' :: List.replicate (-before).toNat '0' ++ digits

end Decimal
end RespLink
