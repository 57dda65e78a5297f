import DesiredState.Number.Binary64

/-!
# Shortest decimals

The text of a binary64 number is made from the fewest decimal digits that read
back to it.  This module selects those digits by exact arithmetic on naturals.

A finite number stands for the interval of reals that round to it.  For one,
two, … digits the two decimals next to the number on that decimal grid are
tested against the interval; the first grid with a hit wins, and of two hits
the nearer one.  Which of two equally near ones is taken is up to the format.

## Main definitions

* `Decimal` — `digits · 10 ^ exponent`.
* `RoundingInterval` — the reals that round to a number, and
  `RoundingInterval.covers`, the exact test of a decimal against them.
* `shortestDecimal` — the digits selected.
-/

namespace DesiredState

/-- The decimal number `digits · 10 ^ exponent`. -/
structure Decimal where
  digits : Nat
  exponent : Int
  deriving DecidableEq, Repr

/-- Which of two equally near decimals a format takes. -/
inductive Tie where
  /-- The one with the even last digit. -/
  | even
  /-- The greater one. -/
  | up
  deriving DecidableEq, Repr

/-- The reals that round to a positive binary64 number: `value`, and the ends
of the interval, all in units of `2 ^ scale`. -/
structure RoundingInterval where
  low : Nat
  value : Nat
  high : Nat
  scale : Int
  /-- Whether the ends themselves round to the number. -/
  closed : Bool
  deriving DecidableEq, Repr

/-- Compares `a · 10 ^ i` with `n · 2 ^ j`. -/
def compareScaled (a : Nat) (i : Int) (n : Nat) (j : Int) : Ordering :=
  compare ((a * Nat.pow 10 i.toNat) <<< (-j).toNat) ((n <<< j.toNat) * Nat.pow 10 (-i).toNat)

namespace RoundingInterval

/-- The interval of `mantissa · 2 ^ exponent`.  An end lies halfway to the
neighbour on its side; below a power of two the neighbour is half as far. -/
def ofFinite (mantissa : Nat) (exponent : Int) : RoundingInterval where
  low :=
    if mantissa = 1 <<< 52 ∧ exponent ≠ Binary64.minExponent then 4 * mantissa - 1
    else 4 * mantissa - 2
  value := 4 * mantissa
  high := 4 * mantissa + 2
  scale := exponent - 2
  closed := mantissa % 2 == 0

/-- Whether a decimal lies in the interval. -/
def covers (r : RoundingInterval) (d : Decimal) : Bool :=
  let low := compareScaled d.digits d.exponent r.low r.scale
  let high := compareScaled d.digits d.exponent r.high r.scale
  (low == .gt || (r.closed && low == .eq)) && (high == .lt || (r.closed && high == .eq))

/-- The number of digits before the decimal point of the value: the least `k`
for which the value is below `10 ^ k`. -/
def pointPosition (r : RoundingInterval) : Int :=
  let estimate : Int := ((r.value.log2 : Int) + r.scale) * 1233 / 4096
  if compareScaled 1 estimate r.value r.scale == .gt then estimate
  else if compareScaled 1 (estimate + 1) r.value r.scale == .gt then estimate + 1
  else estimate + 2

/-- The value in units of `10 ^ exponent`, rounded down. -/
def floorAt (r : RoundingInterval) (exponent : Int) : Nat :=
  ((r.value <<< r.scale.toNat) * Nat.pow 10 (-exponent).toNat) /
    (Nat.pow 10 exponent.toNat <<< (-r.scale).toNat)

/-- The decimal of the interval on the grid of `10 ^ exponent` that is nearest
to the value, if there is one. -/
def nearestAt (r : RoundingInterval) (tie : Tie) (exponent : Int) : Option Decimal :=
  let below : Decimal := ⟨r.floorAt exponent, exponent⟩
  let above : Decimal := ⟨r.floorAt exponent + 1, exponent⟩
  match r.covers below, r.covers above with
  | true, true =>
      -- Twice the value against the sum of the two neighbours.
      match compareScaled (below.digits + above.digits) exponent (2 * r.value) r.scale with
      | .gt => some below
      | .lt => some above
      | .eq =>
          match tie with
          | .up => some above
          | .even => some (if below.digits % 2 = 0 then below else above)
  | true, false => some below
  | false, true => some above
  | false, false => none

end RoundingInterval

namespace Decimal

/-- Moves trailing zeros of the digits into the exponent, at most `fuel` of
them. -/
def dropZeros : Nat → Decimal → Decimal
  | 0, d => d
  | fuel + 1, d =>
      if d.digits % 10 = 0 ∧ d.digits ≠ 0 then dropZeros fuel ⟨d.digits / 10, d.exponent + 1⟩
      else d

/-- The decimal without trailing zeros in its digits. -/
def normalize (d : Decimal) : Decimal := dropZeros (d.digits.log2 + 1) d

/-- The exact decimal value of `mantissa · 2 ^ exponent`. -/
def ofFinite (mantissa : Nat) (exponent : Int) : Decimal :=
  if exponent < 0 then ⟨mantissa * Nat.pow 5 exponent.natAbs, exponent⟩
  else ⟨mantissa <<< exponent.natAbs, 0⟩

end Decimal

/-- The fewest digits that read back to the positive number
`mantissa · 2 ^ exponent`, the nearest to it of these, and its exact value if
seventeen digits were not enough. -/
def shortestDecimal (tie : Tie) (mantissa : Nat) (exponent : Int) : Decimal :=
  let r := RoundingInterval.ofFinite mantissa exponent
  let point := r.pointPosition
  let found := (List.range 17).findSome? fun (n : Nat) =>
    r.nearestAt tie (point - ((n : Int) + 1))
  (found.getD (Decimal.ofFinite mantissa exponent)).normalize

end DesiredState
