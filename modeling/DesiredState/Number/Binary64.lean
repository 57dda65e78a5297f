/-!
# Binary64 numbers

A floating-point number of a desired state is a binary64 number.  It is kept
as what it denotes: not a number, an infinity, or `± mantissa · 2 ^ exponent`
in its one canonical form.  No runtime float operation is involved, so every
definition below can be evaluated and reasoned about.

All arithmetic goes through one function, `ofQuotient`: the exact result is
written as a quotient of naturals and rounded once, to nearest with ties to
even.

## Main definitions

* `Binary64` — the numbers, one constructor per kind, and `same`, the
  comparison by value under which the zeros agree and no not-a-number does.
* `Binary64.ofQuotient` — the number nearest to a quotient.
* `Binary64.ofNat`, `Binary64.ofInt`, `Binary64.ofDecimal` — the number
  nearest to an integer or to `digits · 10 ^ exponent`.
* `Binary64.scaleUp`, `Binary64.scaleDown` — one rounded multiplication or
  division by a rounded power of ten.
-/

namespace DesiredState

namespace Binary64

/-- The exponent of the least positive number, and of every number too small
to have a full mantissa. -/
def minExponent : Int := -1074

/-- The exponent of the greatest finite numbers. -/
def maxExponent : Int := 971

/-- A mantissa and an exponent are canonical when the mantissa is full (53
bits), or the exponent is the least one and the mantissa is not full. -/
def IsCanonical (mantissa : Nat) (exponent : Int) : Prop :=
  minExponent ≤ exponent ∧ exponent ≤ maxExponent ∧ mantissa < 1 <<< 53 ∧
    (1 <<< 52 ≤ mantissa ∨ exponent = minExponent)

instance (mantissa : Nat) (exponent : Int) :
    Decidable (IsCanonical mantissa exponent) := by
  unfold IsCanonical; infer_instance

end Binary64

/-- A binary64 number. -/
inductive Binary64 where
  /-- Not a number. -/
  | nan
  /-- An infinity. -/
  | infinite (negative : Bool)
  /-- The number `± mantissa · 2 ^ exponent`. -/
  | finite (negative : Bool) (mantissa : Nat) (exponent : Int)
      (canonical : Binary64.IsCanonical mantissa exponent)
  deriving DecidableEq

namespace Binary64

/-- Zero, with its sign. -/
def zero (negative : Bool) : Binary64 :=
  .finite negative 0 minExponent (by decide)

/-- The finite number with this mantissa and exponent; an infinity when they
are beyond the finite numbers. -/
def ofCanonical (negative : Bool) (mantissa : Nat) (exponent : Int) : Binary64 :=
  if h : IsCanonical mantissa exponent then .finite negative mantissa exponent h
  else .infinite negative

/-- Comparison by value: the two zeros are the same number, and not a number
is not the same as anything, itself included. -/
def same : Binary64 → Binary64 → Bool
  | .infinite s, .infinite t => s == t
  | .finite s m e _, .finite t n f _ =>
      m == n && e == f && (s == t || m == 0)
  | _, _ => false

/-- Whether the number is an infinity. -/
def isInfinite : Binary64 → Bool
  | .infinite _ => true
  | _ => false

/-- The number of opposite sign. -/
def neg : Binary64 → Binary64
  | .nan => .nan
  | .infinite s => .infinite (!s)
  | .finite s m e h => .finite (!s) m e h

/-! ## Rounding -/

/-- The quotient `num / den` in units of `2 ^ exponent`: the whole number of
units, and the remainder and divisor that are left. -/
def unitsOf (num den : Nat) (exponent : Int) : Nat × Nat × Nat :=
  let num := if exponent < 0 then num <<< exponent.natAbs else num
  let den := if exponent < 0 then den else den <<< exponent.natAbs
  (num / den, num % den, den)

/-- The exponent at which `num / den` has a full mantissa, or the least
exponent when the quotient is too small for one. -/
def exponentOf (num den : Nat) : Int :=
  let estimate : Int := (num.log2 : Int) - (den.log2 : Int) - 52
  let exact := if (unitsOf num den estimate).1 < 1 <<< 52 then estimate - 1 else estimate
  max minExponent exact

/-- The number nearest to `num / den`, of the even one of two equally near,
and an infinity from half a unit above the greatest finite number on. -/
def ofQuotient (negative : Bool) (num den : Nat) : Binary64 :=
  if num = 0 then zero negative
  else
    let exponent := exponentOf num den
    let (units, rest, den) := unitsOf num den exponent
    let mantissa :=
      if 2 * rest < den then units
      else if den < 2 * rest then units + 1
      else if units % 2 = 0 then units else units + 1
    if mantissa = 1 <<< 53 then ofCanonical negative (1 <<< 52) (exponent + 1)
    else ofCanonical negative mantissa exponent

/-- The number nearest to a natural number. -/
def ofNat (n : Nat) : Binary64 := ofQuotient false n 1

/-- The number nearest to an integer. -/
def ofInt (i : Int) : Binary64 := ofQuotient (decide (i < 0)) i.natAbs 1

/-- The number nearest to `± digits · 10 ^ exponent`.  Exponents far beyond the
finite numbers are answered without computing the power. -/
def ofDecimal (negative : Bool) (digits : Nat) (exponent : Int) : Binary64 :=
  if digits = 0 then zero negative
  else
    let magnitude : Int := exponent + digits.log2 / 3
    if exponent > 400 then .infinite negative
    else if magnitude < -800 then zero negative
    else if exponent < 0 then ofQuotient negative digits (Nat.pow 10 exponent.natAbs)
    else ofQuotient negative (digits * Nat.pow 10 exponent.natAbs) 1

/-! ## Scaling by powers of ten -/

/-- The number nearest to `10 ^ k`. -/
def tenPow (k : Nat) : Binary64 := ofQuotient false (Nat.pow 10 k) 1

/-- The exact magnitude of a finite number as a quotient. -/
def quotientOf (mantissa : Nat) (exponent : Int) : Nat × Nat :=
  if exponent < 0 then (mantissa, 1 <<< exponent.natAbs)
  else (mantissa <<< exponent.natAbs, 1)

/-- The product with the number nearest to `10 ^ k`, rounded once. -/
def scaleUp (x : Binary64) (k : Nat) : Binary64 :=
  match x, tenPow k with
  | .finite s m e _, .finite _ n f _ =>
      let (num, den) := quotientOf m e
      let (num', den') := quotientOf n f
      ofQuotient s (num * num') (den * den')
  | .finite s _ _ _, _ => .infinite s
  | x, _ => x

/-- The quotient by the number nearest to `10 ^ k`, rounded once. -/
def scaleDown (x : Binary64) (k : Nat) : Binary64 :=
  match x, tenPow k with
  | .finite s m e _, .finite _ n f _ =>
      let (num, den) := quotientOf m e
      let (num', den') := quotientOf n f
      ofQuotient s (num * den') (den * num')
  | .finite s _ _ _, _ => zero s
  | x, _ => x

end Binary64

end DesiredState
