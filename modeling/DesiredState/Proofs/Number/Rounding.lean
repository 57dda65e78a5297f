import DesiredState.Number.Binary64
import Mathlib.Algebra.Order.Field.Power
import Mathlib.Data.Rat.Cast.Order
import Mathlib.Tactic.FieldSimp
import Mathlib.Tactic.Linarith
import Mathlib.Tactic.NormNum
import Mathlib.Tactic.Positivity
import Mathlib.Tactic.Ring

/-!
# Rounding to binary64

A quotient of naturals is rounded in two steps.  First an exponent is chosen under which the
quotient has a full mantissa, or the least exponent if there is no such one.  Then the
quotient, in units of that power of two, is rounded to the nearest natural, of two equally
near ones to the even.

The reals that come out as one number form an interval around it.  At a power of two the
interval has two halves of different size: the reals below it have the next smaller exponent,
and so they are rounded in smaller units.  A quotient there has 53 full bits before it is
rounded, and the carry takes it to the power of two.

## Main definitions

* `Binary64.halfEven` — a quotient rounded to a natural.
* `Binary64.RoundsTo` — the reals that come out as a number.
* `Binary64.val?` — the rational that a number denotes.

## Main results

* `Binary64.halfEven_eq_iff` — which quotients are rounded to a natural.
* `Binary64.exponentOf_eq` — under which exponent a quotient is rounded.
* `Binary64.ofQuotient_of_roundsTo` — a quotient in the interval of a number comes out as this
  number.
-/

namespace DesiredState

namespace Binary64

/-- The rational that a number denotes, if it is finite. -/
def val? : Binary64 → Option ℚ
  | .finite negative mantissa exponent _ =>
      some ((if negative then -1 else 1) * (mantissa * 2 ^ exponent))
  | _ => none

/-! ## The nearest natural -/

/-- The natural nearest to a quotient, and of two equally near ones the even one. -/
def halfEven (num den : Nat) : Nat :=
  if 2 * (num % den) < den then num / den
  else if den < 2 * (num % den) then num / den + 1
  else if num / den % 2 = 0 then num / den else num / den + 1

/-- Whether a quotient is at most half a unit away from a natural, and less if that is odd. -/
def IsNearest (num den m : Nat) : Prop :=
  2 * num ≤ (2 * m + 1) * den ∧ 2 * m * den ≤ 2 * num + den ∧
    (m % 2 = 1 → 2 * num < (2 * m + 1) * den ∧ 2 * m * den < 2 * num + den)

theorem isNearest_halfEven {den : Nat} (hden : 0 < den) (num : Nat) :
    IsNearest num den (halfEven num den) := by
  have hdiv := Nat.div_add_mod num den
  have hmod := Nat.mod_lt num hden
  unfold IsNearest halfEven
  generalize num / den = u at *
  generalize num % den = r at *
  have hnext : 2 * (u + 1) * den = 2 * (den * u) + 2 * den := by ring
  have hthis : 2 * u * den = 2 * (den * u) := by ring
  have hhigh : (2 * u + 1) * den = 2 * (den * u) + den := by ring
  have hhigh' : (2 * (u + 1) + 1) * den = 2 * (den * u) + 3 * den := by ring
  split_ifs with hless hgreater heven
  · omega
  · omega
  · omega
  · omega

/-- Of two naturals that are nearest neither is greater: they would be neighbours, and both would
have to be even. -/
theorem IsNearest.le {num den k m : Nat} (hden : 0 < den) (hk : IsNearest num den k)
    (hm : IsNearest num den m) : k ≤ m := by
  obtain ⟨-, hge, hodd⟩ := hk
  obtain ⟨hle, -, hodd'⟩ := hm
  by_contra hlt
  have hnear : 2 * k * den ≤ (2 * m + 2) * den := by linarith [Nat.add_mul (2 * m + 1) 1 den]
  have hkm := Nat.le_of_mul_le_mul_right hnear hden
  obtain rfl : k = m + 1 := by omega
  have hmiddle : 2 * (m + 1) * den = (2 * m + 1) * den + den := by ring
  rcases (by omega : m % 2 = 1 ∨ (m + 1) % 2 = 1) with h | h
  · have := (hodd' h).1
    omega
  · have := (hodd h).2
    omega

/-- The natural nearest to a quotient is the only one. -/
theorem halfEven_eq_iff {num den m : Nat} (hden : 0 < den) :
    halfEven num den = m ↔ IsNearest num den m := by
  have hnearest := isNearest_halfEven hden num
  constructor
  · rintro rfl
    exact hnearest
  · intro h
    exact Nat.le_antisymm (hnearest.le hden h) (h.le hden hnearest)

/-! ## Units of a power of two -/

theorem two_zpow_pos (e : Int) : 0 < (2 : ℚ) ^ e := zpow_pos (by norm_num) e

theorem two_zpow_add (e f : Int) : (2 : ℚ) ^ (e + f) = 2 ^ e * 2 ^ f :=
  zpow_add₀ (by norm_num) e f

/-- Numerator and denominator in units of a power of two. -/
def scaled (num den : Nat) (exponent : Int) : Nat × Nat :=
  (if exponent < 0 then num <<< exponent.natAbs else num,
    if exponent < 0 then den else den <<< exponent.natAbs)

theorem unitsOf_eq (num den : Nat) (exponent : Int) :
    unitsOf num den exponent =
      ((scaled num den exponent).1 / (scaled num den exponent).2,
        (scaled num den exponent).1 % (scaled num den exponent).2,
        (scaled num den exponent).2) := rfl

theorem scaled_pos {den : Nat} (hden : 0 < den) (num : Nat) (exponent : Int) :
    0 < (scaled num den exponent).2 := by
  unfold scaled
  dsimp only
  split
  · exact hden
  · rw [Nat.shiftLeft_eq]
    positivity

/-- The quotient in units of a power of two. -/
theorem scaled_div (num den : Nat) (exponent : Int) :
    ((scaled num den exponent).1 : ℚ) / (scaled num den exponent).2 =
      num / den / 2 ^ exponent := by
  unfold scaled
  by_cases hneg : exponent < 0
  · obtain ⟨n, hn⟩ : ∃ n : Nat, exponent = -(n : Int) := ⟨exponent.natAbs, by omega⟩
    have habs : exponent.natAbs = n := by omega
    rw [if_pos hneg, if_pos hneg, habs, hn, zpow_neg, zpow_natCast, Nat.shiftLeft_eq]
    push_cast
    rw [div_inv_eq_mul, div_mul_eq_mul_div]
  · obtain ⟨n, hn⟩ : ∃ n : Nat, exponent = n := ⟨exponent.natAbs, by omega⟩
    have habs : exponent.natAbs = n := by omega
    rw [if_neg hneg, if_neg hneg, habs, hn, zpow_natCast, Nat.shiftLeft_eq]
    push_cast
    rw [div_div]

/-- A quotient has a number of whole units if it is at least as large. -/
theorem le_unitsOf_iff {num den : Nat} (hden : 0 < den) (exponent : Int) (units : Nat) :
    units ≤ (unitsOf num den exponent).1 ↔ (units : ℚ) * 2 ^ exponent ≤ num / den := by
  have hpos := scaled_pos hden num exponent
  have hposQ : (0 : ℚ) < (scaled num den exponent).2 := by exact_mod_cast hpos
  rw [unitsOf_eq, Nat.le_div_iff_mul_le hpos, ← le_div_iff₀ (two_zpow_pos exponent),
    ← scaled_div, le_div_iff₀ hposQ]
  exact_mod_cast Iff.rfl

/-! ## The exponent -/

theorem log2_bounds {n : Nat} (hn : 0 < n) :
    (2 : ℚ) ^ (n.log2 : Int) ≤ n ∧ (n : ℚ) < 2 ^ (n.log2 : Int) * 2 := by
  have hlow := Nat.log2_self_le (Nat.pos_iff_ne_zero.1 hn)
  have hhigh := Nat.lt_log2_self (n := n)
  rw [pow_succ] at hhigh
  rw [zpow_natCast]
  constructor
  · exact_mod_cast hlow
  · exact_mod_cast hhigh

/-- The quotient of the leading bits is right, or too large by one. -/
theorem quotient_bounds {num den : Nat} (hnum : 0 < num) (hden : 0 < den) {k : Int}
    (hk : (num.log2 : Int) - den.log2 - 52 = k) :
    (2 : ℚ) ^ 51 * 2 ^ k < num / den ∧ (num : ℚ) / den < 2 ^ 53 * 2 ^ k := by
  obtain ⟨hnumLow, hnumHigh⟩ := log2_bounds hnum
  obtain ⟨hdenLow, hdenHigh⟩ := log2_bounds hden
  have hdenQ : (0 : ℚ) < den := by exact_mod_cast hden
  have hkpos := two_zpow_pos k
  have hpow : (2 : ℚ) ^ (num.log2 : Int) = 2 ^ (den.log2 : Int) * (2 ^ 52 * 2 ^ k) := by
    rw [show (num.log2 : Int) = den.log2 + 52 + k by omega, two_zpow_add, two_zpow_add]
    norm_num
    ring
  constructor
  · rw [lt_div_iff₀ hdenQ]
    calc (2 : ℚ) ^ 51 * 2 ^ k * den
        < 2 ^ 51 * 2 ^ k * (2 ^ (den.log2 : Int) * 2) := by gcongr
      _ = (2 : ℚ) ^ (den.log2 : Int) * (2 ^ 52 * 2 ^ k) := by ring
      _ ≤ num := hpow ▸ hnumLow
  · rw [div_lt_iff₀ hdenQ]
    calc (num : ℚ) < 2 ^ (den.log2 : Int) * (2 ^ 52 * 2 ^ k) * 2 := hpow ▸ hnumHigh
      _ = 2 ^ 53 * 2 ^ k * 2 ^ (den.log2 : Int) := by ring
      _ ≤ 2 ^ 53 * 2 ^ k * den := by gcongr

/-- The exponent is the one of a full mantissa, but not less than the least exponent. -/
theorem exponentOf_spec {num den : Nat} (hnum : 0 < num) (hden : 0 < den) :
    ∃ k : Int, exponentOf num den = max minExponent k ∧
      (2 : ℚ) ^ 52 * 2 ^ k ≤ num / den ∧ (num : ℚ) / den < 2 ^ 53 * 2 ^ k := by
  generalize hestimate : (num.log2 : Int) - (den.log2 : Int) - 52 = k
  obtain ⟨hlow, hhigh⟩ := quotient_bounds hnum hden hestimate
  have hfull := @le_unitsOf_iff num den hden k (2 ^ 52)
  unfold exponentOf
  dsimp only
  rw [hestimate, Nat.one_shiftLeft]
  by_cases hunits : (unitsOf num den k).1 < 2 ^ 52
  · have hless : (num : ℚ) / den < 2 ^ 52 * 2 ^ k := by
      have := mt hfull.2 (Nat.not_le.2 hunits)
      push_cast at this
      linarith
    have hhalf : (2 : ℚ) ^ k = 2 ^ (k - 1) * 2 := by
      rw [show k = k - 1 + 1 by omega, two_zpow_add]
      norm_num
    refine ⟨k - 1, by rw [if_pos hunits], ?_, ?_⟩
    · rw [hhalf] at hlow
      linarith
    · rw [hhalf] at hless
      linarith
  · have hmore := hfull.1 (Nat.not_lt.1 hunits)
    push_cast at hmore
    exact ⟨k, by rw [if_neg hunits], hmore, hhigh⟩

/-- The exponent under which a quotient is rounded: it has a full mantissa under it, or less
than a full one if the exponent is the least one. -/
theorem exponentOf_eq {num den : Nat} (hnum : 0 < num) (hden : 0 < den) {e : Int}
    (hmin : minExponent ≤ e) (hlow : (2 : ℚ) ^ 52 * 2 ^ e ≤ num / den ∨ e = minExponent)
    (hhigh : (num : ℚ) / den < 2 ^ 53 * 2 ^ e) : exponentOf num den = e := by
  obtain ⟨k, hk, hkLow, hkHigh⟩ := exponentOf_spec hnum hden
  have hbelow : ∀ a b : Int, (2 : ℚ) ^ 52 * 2 ^ a < 2 ^ 53 * 2 ^ b → a ≤ b := by
    intro a b h
    have hab : (2 : ℚ) ^ a < 2 ^ (b + 1) := by
      rw [two_zpow_add]
      norm_num at h ⊢
      linarith
    have := (zpow_lt_zpow_iff_right₀ (by norm_num : (1 : ℚ) < 2)).1 hab
    omega
  have hke : k ≤ e := hbelow k e (lt_of_le_of_lt hkLow hhigh)
  rw [hk]
  rcases hlow with hlow | rfl
  · have hek : e ≤ k := hbelow e k (lt_of_le_of_lt hlow hkHigh)
    omega
  · omega

/-! ## The reals that come out as a number -/

/-- Whether a positive real is rounded to a positive number: it is at most half a unit away,
and less if the mantissa is odd.  Below a power of two the units are half as large. -/
structure RoundsTo (mantissa : Nat) (exponent : Int) (q : ℚ) : Prop where
  le : q ≤ (mantissa + 1 / 2) * 2 ^ exponent
  ge : (mantissa - 1 / 2) * 2 ^ exponent ≤ q
  odd : mantissa % 2 = 1 →
    q < (mantissa + 1 / 2) * 2 ^ exponent ∧ (mantissa - 1 / 2) * 2 ^ exponent < q
  ge_power : mantissa = 2 ^ 52 → exponent ≠ minExponent →
    (mantissa - 1 / 4) * 2 ^ exponent ≤ q

/-- A quotient is rounded in units of the power of two. -/
theorem ofQuotient_eq {num : Nat} (hnum : 0 < num) (negative : Bool) (den : Nat) {e : Int}
    (he : exponentOf num den = e) :
    ofQuotient negative num den =
      if halfEven (scaled num den e).1 (scaled num den e).2 = 2 ^ 53 then
        ofCanonical negative (2 ^ 52) (e + 1)
      else ofCanonical negative (halfEven (scaled num den e).1 (scaled num den e).2) e := by
  rw [ofQuotient, if_neg (Nat.pos_iff_ne_zero.1 hnum), he]
  rfl

/-- Nearness in units of a power of two. -/
theorem isNearest_scaled_iff {num den : Nat} (hden : 0 < den) (e : Int) (m : Nat) :
    IsNearest (scaled num den e).1 (scaled num den e).2 m ↔
      (num : ℚ) / den ≤ (m + 1 / 2) * 2 ^ e ∧ (m - 1 / 2) * 2 ^ e ≤ (num : ℚ) / den ∧
        (m % 2 = 1 → (num : ℚ) / den < (m + 1 / 2) * 2 ^ e ∧
          (m - 1 / 2) * 2 ^ e < (num : ℚ) / den) := by
  have hpos : (0 : ℚ) < (scaled num den e).2 := by exact_mod_cast scaled_pos hden num e
  have hquotient : (num : ℚ) / den =
      (scaled num den e).1 / (scaled num den e).2 * 2 ^ e := by
    rw [scaled_div, div_mul_cancel₀ _ (two_zpow_pos e).ne']
  rw [hquotient]
  generalize (scaled num den e).1 = n at *
  generalize (scaled num den e).2 = d at *
  have he := two_zpow_pos e
  rw [mul_le_mul_iff_left₀ he, mul_le_mul_iff_left₀ he, mul_lt_mul_iff_left₀ he,
    mul_lt_mul_iff_left₀ he, div_le_iff₀ hpos, le_div_iff₀ hpos, div_lt_iff₀ hpos,
    lt_div_iff₀ hpos, IsNearest]
  have h1 : 2 * n ≤ (2 * m + 1) * d ↔ (n : ℚ) ≤ (m + 1 / 2) * d := by
    rw [← Nat.cast_le (α := ℚ)]
    push_cast
    constructor <;> intro h <;> linarith
  have h2 : 2 * m * d ≤ 2 * n + d ↔ ((m : ℚ) - 1 / 2) * d ≤ n := by
    rw [← Nat.cast_le (α := ℚ)]
    push_cast
    constructor <;> intro h <;> linarith
  have h3 : 2 * n < (2 * m + 1) * d ↔ (n : ℚ) < (m + 1 / 2) * d := by
    rw [← Nat.cast_lt (α := ℚ)]
    push_cast
    constructor <;> intro h <;> linarith
  have h4 : 2 * m * d < 2 * n + d ↔ ((m : ℚ) - 1 / 2) * d < n := by
    rw [← Nat.cast_lt (α := ℚ)]
    push_cast
    constructor <;> intro h <;> linarith
  rw [h1, h2, h3, h4]

theorem ofCanonical_of_isCanonical {mantissa : Nat} {exponent : Int}
    (h : IsCanonical mantissa exponent) (negative : Bool) :
    ofCanonical negative mantissa exponent = .finite negative mantissa exponent h := dif_pos h

/-- A quotient in the interval of a positive number comes out as this number. -/
theorem ofQuotient_of_roundsTo {mantissa : Nat} {exponent : Int}
    (h : IsCanonical mantissa exponent) (hm : 0 < mantissa) {num den : Nat} (hnum : 0 < num)
    (hden : 0 < den) (hq : RoundsTo mantissa exponent (num / den)) (negative : Bool) :
    ofQuotient negative num den = .finite negative mantissa exponent h := by
  obtain ⟨hmin, -, hlt, hfull⟩ := h
  have he := two_zpow_pos exponent
  have hltQ : (mantissa : ℚ) + 1 ≤ 2 ^ 53 := by exact_mod_cast hlt
  by_cases hinside : (2 : ℚ) ^ 52 * 2 ^ exponent ≤ num / den ∨ exponent = minExponent
  · have hhigh : (num : ℚ) / den < 2 ^ 53 * 2 ^ exponent :=
      lt_of_le_of_lt hq.le ((mul_lt_mul_iff_left₀ he).2 (by linarith))
    have hnearest : halfEven (scaled num den exponent).1 (scaled num den exponent).2 = mantissa :=
      (halfEven_eq_iff (scaled_pos hden num exponent)).2
        ((isNearest_scaled_iff hden exponent mantissa).2 ⟨hq.le, hq.ge, hq.odd⟩)
    rw [ofQuotient_eq hnum negative den (exponentOf_eq hnum hden hmin hinside hhigh), hnearest,
      if_neg (by omega)]
    exact ofCanonical_of_isCanonical _ negative
  · -- the quotient is below the power of two that the mantissa is: a carry makes it that
    obtain ⟨hbelow, hne⟩ := not_or.1 hinside
    rw [not_le] at hbelow
    have hpower : mantissa = 2 ^ 52 := by
      refine le_antisymm ?_ (hfull.resolve_right hne)
      by_contra hmore
      have hmoreQ : (2 : ℚ) ^ 52 + 1 ≤ mantissa := by exact_mod_cast Nat.not_le.1 hmore
      have hge : (2 : ℚ) ^ 52 * 2 ^ exponent ≤ num / den :=
        le_trans ((mul_le_mul_iff_left₀ he).2 (by linarith)) hq.ge
      linarith
    have hge := hq.ge_power hpower hne
    have hhalf : (2 : ℚ) ^ exponent = 2 ^ (exponent - 1) * 2 := by
      rw [show exponent = exponent - 1 + 1 by omega, two_zpow_add]
      norm_num
    have hhalfpos := two_zpow_pos (exponent - 1)
    rw [hhalf] at hbelow hge
    rw [hpower] at hge
    push_cast at hge
    have hnearest : halfEven (scaled num den (exponent - 1)).1 (scaled num den (exponent - 1)).2 =
        2 ^ 53 := by
      refine (halfEven_eq_iff (scaled_pos hden num _)).2 ((isNearest_scaled_iff hden _ _).2 ?_)
      push_cast
      refine ⟨by linarith, by linarith, fun hodd => absurd hodd (by decide)⟩
    have hexponent : exponentOf num den = exponent - 1 := by
      refine exponentOf_eq hnum hden (by omega) (.inl ?_) ?_
      · linarith
      · linarith
    subst hpower
    rw [ofQuotient_eq hnum negative den hexponent, hnearest, if_pos rfl]
    have hcarry : exponent - 1 + 1 = exponent := by omega
    rw [hcarry]
    exact ofCanonical_of_isCanonical _ negative

end Binary64

end DesiredState
