import DesiredState.Number.Shortest
import DesiredState.Proofs.Number.Rounding

/-!
# Shortest decimals are in the interval

The digits of a number are searched for on one decimal grid after the other, and a decimal is
taken only if it is in the interval of the reals that are rounded to the number.  If there is
none on seventeen grids, the exact value is taken.  Trailing zeros are moved into the exponent,
and this keeps the value.  So whatever the search finds is rounded to the number again.

Decimals are compared with the ends of the interval by multiplying out.  Here they are rational
numbers, and the comparison is the one of these.

## Main definitions

* `Decimal.val` — the rational that a decimal denotes.

## Main results

* `compareScaled_eq` — the comparison is that of rationals.
* `roundsTo_of_covers` — a decimal that passes the test is rounded to the number.
* `roundsTo_shortestDecimal` — the digits that are selected are rounded to the number.
* `Binary64.ofDecimal_of_roundsTo` — a decimal in the interval of a number is read as it.
-/

namespace DesiredState

/-- The rational that a decimal denotes. -/
def Decimal.val (d : Decimal) : ℚ := d.digits * 10 ^ d.exponent

/-! ## Comparisons -/

/-- A power with an integer exponent, without its negative part. -/
theorem zpow_mul_toNat {a : ℚ} (ha : 0 < a) (i : Int) :
    a ^ i * a ^ (-i).toNat = a ^ i.toNat := by
  rw [← zpow_natCast, ← zpow_natCast, ← zpow_add₀ ha.ne']
  congr 1
  omega

theorem compareScaled_eq (a : Nat) (i : Int) (n : Nat) (j : Int) :
    compareScaled a i n j = compare ((a : ℚ) * 10 ^ i) (n * 2 ^ j) := by
  have hten := zpow_mul_toNat (by norm_num : (0 : ℚ) < 10) i
  have htwo := zpow_mul_toNat (by norm_num : (0 : ℚ) < 2) j
  -- both sides times the negative parts of both powers
  have hpos : (0 : ℚ) < 10 ^ (-i).toNat * 2 ^ (-j).toNat := by positivity
  have hleft : ((a * 10 ^ i.toNat * 2 ^ (-j).toNat : Nat) : ℚ) =
      a * 10 ^ i * (10 ^ (-i).toNat * 2 ^ (-j).toNat) := by
    push_cast
    rw [← hten]
    ring
  have hright : ((n * 2 ^ j.toNat * 10 ^ (-i).toNat : Nat) : ℚ) =
      n * 2 ^ j * (10 ^ (-i).toNat * 2 ^ (-j).toNat) := by
    push_cast
    rw [← htwo]
    ring
  have hlt : a * 10 ^ i.toNat * 2 ^ (-j).toNat < n * 2 ^ j.toNat * 10 ^ (-i).toNat ↔
      (a : ℚ) * 10 ^ i < n * 2 ^ j := by
    rw [← Nat.cast_lt (α := ℚ), hleft, hright, mul_lt_mul_iff_left₀ hpos]
  have heq : a * 10 ^ i.toNat * 2 ^ (-j).toNat = n * 2 ^ j.toNat * 10 ^ (-i).toNat ↔
      (a : ℚ) * 10 ^ i = n * 2 ^ j := by
    rw [← Nat.cast_inj (R := ℚ), hleft, hright, mul_left_inj' hpos.ne']
  unfold compareScaled
  simp only [Nat.pow_eq, Nat.shiftLeft_eq]
  rcases lt_trichotomy ((a : ℚ) * 10 ^ i) (n * 2 ^ j) with h | h | h
  · rw [compare_lt_iff_lt.2 h, compare_lt_iff_lt.2 (hlt.2 h)]
  · rw [compare_eq_iff_eq.2 h, compare_eq_iff_eq.2 (heq.2 h)]
  · have hgt : ¬ a * 10 ^ i.toNat * 2 ^ (-j).toNat < n * 2 ^ j.toNat * 10 ^ (-i).toNat :=
      fun h' => absurd (hlt.1 h') (not_lt.2 h.le)
    have hne : a * 10 ^ i.toNat * 2 ^ (-j).toNat ≠ n * 2 ^ j.toNat * 10 ^ (-i).toNat :=
      fun h' => absurd (heq.1 h') h.ne'
    rw [compare_gt_iff_gt.2 h, compare_gt_iff_gt.2 (by omega)]

/-! ## The interval -/

/-- The ends of the interval of a positive number, in whole units. -/
theorem ofFinite_ends {mantissa : Nat} (hm : 0 < mantissa) (exponent : Int) :
    ((RoundingInterval.ofFinite mantissa exponent).high : ℚ) * 2 ^ (exponent - 2) =
        (mantissa + 1 / 2) * 2 ^ exponent ∧
      ((RoundingInterval.ofFinite mantissa exponent).low : ℚ) * 2 ^ (exponent - 2) =
        (if mantissa = 2 ^ 52 ∧ exponent ≠ Binary64.minExponent then (mantissa - 1 / 4 : ℚ)
          else mantissa - 1 / 2) * 2 ^ exponent := by
  have hquarter : (2 : ℚ) ^ exponent = 2 ^ (exponent - 2) * 4 := by
    rw [show exponent = exponent - 2 + 2 by omega, Binary64.two_zpow_add]
    norm_num
  rw [hquarter]
  unfold RoundingInterval.ofFinite
  dsimp only
  rw [Nat.one_shiftLeft]
  constructor
  · push_cast
    ring
  · split
    · rw [Nat.cast_sub (by omega)]
      push_cast
      ring
    · rw [Nat.cast_sub (by omega)]
      push_cast
      ring

/-- A decimal that passes the test is rounded to the number. -/
theorem roundsTo_of_covers {mantissa : Nat} (hm : 0 < mantissa) {exponent : Int} {d : Decimal}
    (h : (RoundingInterval.ofFinite mantissa exponent).covers d = true) :
    Binary64.RoundsTo mantissa exponent d.val := by
  obtain ⟨hhigh, hlow⟩ := ofFinite_ends hm exponent
  have hscale : (RoundingInterval.ofFinite mantissa exponent).scale = exponent - 2 := rfl
  have hclosed : (RoundingInterval.ofFinite mantissa exponent).closed = (mantissa % 2 == 0) := rfl
  rw [RoundingInterval.covers, compareScaled_eq, compareScaled_eq, hscale, hclosed, hhigh, hlow,
    ← Decimal.val] at h
  simp only [Bool.and_eq_true, Bool.or_eq_true, beq_iff_eq, compare_gt_iff_gt, compare_eq_iff_eq,
    compare_lt_iff_lt] at h
  obtain ⟨hge, hle⟩ := h
  have hpos := Binary64.two_zpow_pos exponent
  have hfloor : (mantissa - 1 / 2 : ℚ) * 2 ^ exponent ≤
      (if mantissa = 2 ^ 52 ∧ exponent ≠ Binary64.minExponent then (mantissa - 1 / 4 : ℚ)
        else mantissa - 1 / 2) * 2 ^ exponent := by
    refine (mul_le_mul_iff_left₀ hpos).2 ?_
    split <;> linarith
  have hgeLow : (if mantissa = 2 ^ 52 ∧ exponent ≠ Binary64.minExponent then (mantissa - 1 / 4 : ℚ)
      else mantissa - 1 / 2) * 2 ^ exponent ≤ d.val := by
    rcases hge with hge | ⟨-, hge⟩
    · exact hge.le
    · exact hge.ge
  have hleHigh : d.val ≤ (mantissa + 1 / 2) * 2 ^ exponent := by
    rcases hle with hle | ⟨-, hle⟩
    · exact hle.le
    · exact hle.le
  refine ⟨hleHigh, hfloor.trans hgeLow, fun hodd => ?_, fun hpower hne => ?_⟩
  · have hopen : ¬ mantissa % 2 = 0 := by omega
    have hge' := hge.resolve_right fun h => hopen h.1
    exact ⟨hle.resolve_right fun h => hopen h.1, lt_of_le_of_lt hfloor hge'⟩
  · rwa [if_pos ⟨hpower, hne⟩] at hgeLow

/-- The value of a number is in its own interval. -/
theorem roundsTo_self (mantissa : Nat) (exponent : Int) :
    Binary64.RoundsTo mantissa exponent (mantissa * 2 ^ exponent) := by
  have hpos := Binary64.two_zpow_pos exponent
  constructor
  · exact (mul_le_mul_iff_left₀ hpos).2 (by linarith)
  · exact (mul_le_mul_iff_left₀ hpos).2 (by linarith)
  · intro _
    exact ⟨(mul_lt_mul_iff_left₀ hpos).2 (by linarith), (mul_lt_mul_iff_left₀ hpos).2 (by linarith)⟩
  · intro _ _
    exact (mul_le_mul_iff_left₀ hpos).2 (by linarith)

/-! ## The search -/

theorem covers_of_nearestAt {r : RoundingInterval} {tie : Tie} {exponent : Int} {d : Decimal}
    (h : r.nearestAt tie exponent = some d) : r.covers d = true := by
  unfold RoundingInterval.nearestAt at h
  dsimp only at h
  split at h
  · next hbelow habove =>
    split at h
    · rwa [← Option.some.inj h]
    · rwa [← Option.some.inj h]
    · cases tie with
      | up => rwa [← Option.some.inj h]
      | even =>
          rw [← Option.some.inj h]
          split
          · exact hbelow
          · exact habove
  · next hbelow _ => rwa [← Option.some.inj h]
  · next _ habove => rwa [← Option.some.inj h]
  · cases h

theorem val_ofFinite (mantissa : Nat) (exponent : Int) :
    (Decimal.ofFinite mantissa exponent).val = mantissa * 2 ^ exponent := by
  unfold Decimal.ofFinite Decimal.val
  by_cases hneg : exponent < 0
  · obtain ⟨n, hn⟩ : ∃ n : Nat, exponent = -(n : Int) := ⟨exponent.natAbs, by omega⟩
    have habs : exponent.natAbs = n := by omega
    have hten : (10 : ℚ) ^ n = 5 ^ n * 2 ^ n := by
      rw [← mul_pow]
      norm_num
    rw [if_pos hneg, habs, hn, Nat.pow_eq]
    dsimp only
    push_cast
    rw [zpow_neg, zpow_neg, zpow_natCast, zpow_natCast, hten]
    field_simp
  · obtain ⟨n, hn⟩ : ∃ n : Nat, exponent = n := ⟨exponent.natAbs, by omega⟩
    have habs : exponent.natAbs = n := by omega
    rw [if_neg hneg, habs, hn, Nat.shiftLeft_eq]
    dsimp only
    push_cast
    rw [mul_one, zpow_natCast]

/-- Zeros at the end of the digits are as good in the exponent. -/
theorem val_dropZeros (fuel : Nat) (d : Decimal) : (d.dropZeros fuel).val = d.val := by
  induction fuel generalizing d with
  | zero => rfl
  | succ fuel ih =>
      unfold Decimal.dropZeros
      split
      · next h =>
        obtain ⟨n, hn⟩ : ∃ n, d.digits = n * 10 := ⟨d.digits / 10, by omega⟩
        have hdiv : d.digits / 10 = n := by omega
        rw [ih, hdiv, Decimal.val, Decimal.val, hn, zpow_add₀ (by norm_num)]
        push_cast
        ring
      · rfl

/-- The digits that are selected for a positive number are rounded to it. -/
theorem roundsTo_shortestDecimal {mantissa : Nat} (hm : 0 < mantissa) (tie : Tie)
    (exponent : Int) :
    Binary64.RoundsTo mantissa exponent (shortestDecimal tie mantissa exponent).val := by
  unfold shortestDecimal Decimal.normalize
  dsimp only
  rw [val_dropZeros]
  cases hfound : (List.range 17).findSome? fun n : Nat =>
      (RoundingInterval.ofFinite mantissa exponent).nearestAt tie
        ((RoundingInterval.ofFinite mantissa exponent).pointPosition - ((n : Int) + 1)) with
  | none =>
      rw [Option.getD_none, val_ofFinite]
      exact roundsTo_self mantissa exponent
  | some d =>
      obtain ⟨n, -, hn⟩ := List.exists_of_findSome?_eq_some hfound
      exact roundsTo_of_covers hm (covers_of_nearestAt hn)

/-! ## Reading a decimal -/

namespace Binary64

theorem half_two_zpow (e : Int) : 1 / 2 * (2 : ℚ) ^ (e + 1) = 2 ^ e := by
  rw [two_zpow_add, zpow_one]
  ring

theorem two_pow_lt_ten_pow {i j : Nat} (h : 2 ^ i < 10 ^ j) :
    (2 : ℚ) ^ (i : Int) < 10 ^ (j : Int) := by
  rw [zpow_natCast, zpow_natCast]
  exact_mod_cast h

/-- The interval of a number is between a power of ten and another. -/
theorem RoundsTo.bounds {mantissa : Nat} {exponent : Int} {q : ℚ} (h : RoundsTo mantissa exponent q)
    (hcanonical : IsCanonical mantissa exponent) (hm : 0 < mantissa) :
    (10 : ℚ) ^ (-800 : Int) < q ∧ q < 10 ^ (400 : Int) := by
  obtain ⟨hmin, hmax, hlt, -⟩ := hcanonical
  have hmQ : (1 : ℚ) ≤ mantissa := by exact_mod_cast hm
  have hltQ : (mantissa : ℚ) + 1 ≤ 2 ^ 53 := by exact_mod_cast hlt
  have hsmall : (2 : ℚ) ^ (-1074 : Int) ≤ 2 ^ exponent :=
    zpow_le_zpow_right₀ (by norm_num) hmin
  have hgreat : (2 : ℚ) ^ exponent ≤ 2 ^ (971 : Int) := zpow_le_zpow_right₀ (by norm_num) hmax
  have hpos := two_zpow_pos exponent
  have hleast : (10 : ℚ) ^ (-800 : Int) < 2 ^ (-1075 : Int) := by
    rw [zpow_neg, zpow_neg]
    refine (inv_lt_inv₀ (zpow_pos (by norm_num) _) (two_zpow_pos _)).2 ?_
    exact two_pow_lt_ten_pow (i := 1075) (j := 800) (by decide +kernel)
  have hmost : (2 : ℚ) ^ (1024 : Int) < 10 ^ (400 : Int) :=
    two_pow_lt_ten_pow (i := 1024) (j := 400) (by decide +kernel)
  constructor
  · calc (10 : ℚ) ^ (-800 : Int) < 2 ^ (-1075 : Int) := hleast
      _ = 1 / 2 * 2 ^ (-1074 : Int) := (half_two_zpow (-1075)).symm
      _ ≤ (mantissa - 1 / 2) * 2 ^ exponent :=
          mul_le_mul (by linarith only [hmQ]) hsmall (two_zpow_pos _).le (by linarith only [hmQ])
      _ ≤ q := h.ge
  · have hfull : (mantissa : ℚ) + 1 / 2 ≤ 2 ^ (53 : Int) := by
      norm_num at hltQ ⊢
      linarith only [hltQ]
    calc q ≤ (mantissa + 1 / 2) * 2 ^ exponent := h.le
      _ ≤ 2 ^ (53 : Int) * 2 ^ (971 : Int) :=
          mul_le_mul hfull hgreat hpos.le (two_zpow_pos 53).le
      _ = 2 ^ (1024 : Int) := (two_zpow_add 53 971).symm
      _ < 10 ^ (400 : Int) := hmost

/-- The digits of a decimal have three bits each, or more. -/
theorem val_lt (d : Decimal) : d.val < 10 ^ (d.exponent + d.digits.log2 / 3 + 1) := by
  obtain ⟨t, ht⟩ : ∃ t, d.digits.log2 / 3 = t := ⟨_, rfl⟩
  have hlog := Nat.lt_log2_self (n := d.digits)
  have hnat : d.digits < 10 ^ (t + 1) := by
    calc d.digits < 2 ^ (d.digits.log2 + 1) := hlog
      _ ≤ 2 ^ (3 * (t + 1)) := Nat.pow_le_pow_right (by norm_num) (by omega)
      _ = 8 ^ (t + 1) := by rw [pow_mul]; norm_num
      _ ≤ 10 ^ (t + 1) := Nat.pow_le_pow_left (by norm_num) _
  have hcast : (d.digits : ℚ) < 10 ^ (t + 1) := by exact_mod_cast hnat
  have hsplit :
      d.exponent + (d.digits.log2 : Int) / 3 + 1 = ((t + 1 : Nat) : Int) + d.exponent := by
    omega
  rw [hsplit, zpow_add₀ (by norm_num), zpow_natCast, Decimal.val]
  exact (mul_lt_mul_iff_left₀ (zpow_pos (by norm_num) _)).2 hcast

/-- A decimal in the interval of a positive number is read as this number. -/
theorem ofDecimal_of_roundsTo {mantissa : Nat} {exponent : Int}
    (h : IsCanonical mantissa exponent) (hm : 0 < mantissa) {d : Decimal}
    (hd : RoundsTo mantissa exponent d.val) (negative : Bool) :
    ofDecimal negative d.digits d.exponent = .finite negative mantissa exponent h := by
  obtain ⟨hsmall, hgreat⟩ := hd.bounds h hm
  have hpos : 0 < d.val := lt_trans (zpow_pos (by norm_num) _) hsmall
  have hdigits : 0 < d.digits := by
    rcases Nat.eq_zero_or_pos d.digits with hzero | hdigits
    · rw [Decimal.val, hzero] at hpos
      simp at hpos
    · exact hdigits
  have hdigitsQ : (1 : ℚ) ≤ d.digits := by exact_mod_cast hdigits
  have hbelow : ∀ a b : Int, (10 : ℚ) ^ a < 10 ^ b → a < b := fun a b =>
    (zpow_lt_zpow_iff_right₀ (by norm_num : (1 : ℚ) < 10)).1
  have hmost : d.exponent < 400 := by
    refine hbelow _ _ (lt_of_le_of_lt ?_ hgreat)
    rw [Decimal.val]
    exact le_mul_of_one_le_left (zpow_pos (by norm_num) _).le hdigitsQ
  have hleast : -800 < d.exponent + d.digits.log2 / 3 + 1 :=
    hbelow _ _ (hsmall.trans (val_lt d))
  rw [ofDecimal, if_neg (by omega)]
  dsimp only
  rw [if_neg (by omega), if_neg (by omega)]
  have hround := fun num den hnum hden hq => @ofQuotient_of_roundsTo _ _ h hm num den
    hnum hden hq negative
  by_cases hneg : d.exponent < 0
  · obtain ⟨n, hn⟩ : ∃ n : Nat, d.exponent = -(n : Int) := ⟨d.exponent.natAbs, by omega⟩
    have habs : d.exponent.natAbs = n := by omega
    rw [if_pos hneg, habs, Nat.pow_eq]
    refine hround _ _ hdigits (by positivity) ?_
    rw [Decimal.val, hn, zpow_neg, zpow_natCast, ← div_eq_mul_inv] at hd
    push_cast
    exact hd
  · obtain ⟨n, hn⟩ : ∃ n : Nat, d.exponent = n := ⟨d.exponent.natAbs, by omega⟩
    have habs : d.exponent.natAbs = n := by omega
    rw [if_neg hneg, habs, Nat.pow_eq]
    refine hround _ _ (by positivity) one_pos ?_
    rw [Decimal.val, hn, zpow_natCast] at hd
    push_cast
    rwa [div_one]

end Binary64

end DesiredState
