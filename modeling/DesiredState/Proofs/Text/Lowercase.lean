import DesiredState.Text.Lowercase
import Mathlib.Data.List.Basic

/-!
# Lower case twice

A text in lower case is its own lower-case form.  Only two characters depend on what stands
around them or become two characters, and neither of them is left.  Every other character is
moved out of all the runs that have a lower-case form: the table is compared with itself, run
against run, and not character against character.

## Main definitions

* `IsLower` — a character that has no other lower-case form, whatever stands around it.

## Main results

* `isLower_lowercaseChar` — what is left is in lower case.
* `lowercase_lowercase` — lower case twice is lower case.
-/

namespace DesiredState

/-- Whether a character is its own lower-case form wherever it stands. -/
def IsLower (c : Char) : Prop := c ≠ 'Σ' ∧ c ≠ 'İ' ∧ lowercaseChar c = c

instance (c : Char) : Decidable (IsLower c) := inferInstanceAs (Decidable (_ ∧ _ ∧ _))

/-! ## The table of runs -/

/-- Whether every `step`-th number from `low` to `high` is outside a run: before it, behind it,
or between its characters. -/
def isApart (low high step : Nat) (run : Nat × Nat × Nat × Int) : Bool :=
  Nat.blt high run.1 || (Nat.blt run.2.1 low ||
    ((Nat.beq (step % 2) 0 || Nat.beq low high) &&
      (Nat.beq (run.2.2.1 % 2) 0 && Nat.beq ((low + run.1) % 2) 1)))

/-- Whether the numbers from `low` to `high` are those of characters, and in lower case if
they are in ASCII.  The dotted capital I is not among them. -/
def areLowerIfShort (low high : Nat) : Bool :=
  (Nat.ble 0x80 low || (Nat.ble 97 low && Nat.ble high 122)) &&
    ((Nat.blt high 0x130 || Nat.blt 0x130 low) &&
      (Nat.blt high 0xD800 || (Nat.blt 0xDFFF low && Nat.blt high 0x110000)))

/-- Whether a run is moved out of all runs. -/
def isMovedOut (run : Nat × Nat × Nat × Int) : Bool :=
  let low := ((run.1 : Int) + run.2.2.2).toNat
  let high := ((run.2.1 : Int) + run.2.2.2).toNat
  areLowerIfShort low high && lowercaseRuns.all (isApart low high run.2.2.1)

theorem isMovedOut_runs : lowercaseRuns.all isMovedOut = true := by decide +kernel

/-- Whether a character with this number is in a run. -/
def isInRun (n : Nat) : Nat × Nat × Nat × Int → Bool := fun (first, last, step, _) =>
  first ≤ n && n ≤ last && (n - first) % step == 0

theorem isInRun_eq_false_of_isApart {low high step n : Nat} {run : Nat × Nat × Nat × Int}
    (h : isApart low high step run = true) (hlow : low ≤ n) (hhigh : n ≤ high)
    (hstep : (n - low) % step = 0) : isInRun n run = false := by
  obtain ⟨first, last, stride, shift⟩ := run
  simp only [isApart, Bool.or_eq_true, Bool.and_eq_true, Nat.blt_eq, Nat.beq_eq] at h
  by_contra hin
  simp only [isInRun, Bool.not_eq_false, Bool.and_eq_true, decide_eq_true_eq, beq_iff_eq] at hin
  obtain ⟨⟨hfirst, hlast⟩, hstride⟩ := hin
  rcases h with hbefore | hbehind | ⟨heven, hparity, hodd⟩
  · omega
  · omega
  · -- the numbers have the parity of `low`, and those of the run the other one
    have hrun : (n - first) % 2 = 0 := by
      rw [← Nat.mod_mod_of_dvd (n - first) (Nat.dvd_of_mod_eq_zero hparity), hstride]
    have hsame : (n - low) % 2 = 0 := by
      rcases heven with heven | rfl
      · rw [← Nat.mod_mod_of_dvd (n - low) (Nat.dvd_of_mod_eq_zero heven), hstep]
      · omega
    omega

/-- A character of a run is moved out of all runs. -/
theorem lowercase_run {n : Nat} {run : Nat × Nat × Nat × Int} (hmem : run ∈ lowercaseRuns)
    (hin : isInRun n run = true) :
    areLowerIfShort ((n : Int) + run.2.2.2).toNat ((n : Int) + run.2.2.2).toNat = true ∧
      ∀ other ∈ lowercaseRuns, isInRun ((n : Int) + run.2.2.2).toNat other = false := by
  have hmoved := List.all_eq_true.1 isMovedOut_runs run hmem
  obtain ⟨first, last, step, shift⟩ := run
  simp only [isInRun, Bool.and_eq_true, decide_eq_true_eq, beq_iff_eq] at hin
  obtain ⟨⟨hfirst, hlast⟩, hstep⟩ := hin
  simp only [isMovedOut, areLowerIfShort, Bool.and_eq_true, Bool.or_eq_true, Nat.ble_eq, Nat.blt_eq,
    List.all_eq_true] at hmoved ⊢
  obtain ⟨⟨hascii, hdotted, hscalar⟩, hapart⟩ := hmoved
  have hlow : ((first : Int) + shift).toNat ≤ ((n : Int) + shift).toNat := by omega
  have hhigh : ((n : Int) + shift).toNat ≤ ((last : Int) + shift).toNat := by omega
  have hoffset : ((n : Int) + shift).toNat - ((first : Int) + shift).toNat = n - first := by omega
  refine ⟨by omega, fun other hother => ?_⟩
  exact isInRun_eq_false_of_isApart (hapart other hother) hlow hhigh (by rw [hoffset, hstep])

/-! ## Characters -/

theorem lowercaseChar_of_not_ascii {c : Char} (h : ¬ c.toNat < 0x80) :
    lowercaseChar c = match lowercaseRuns.find? (isInRun c.toNat) with
      | some (_, _, _, shift) => Char.ofNat ((c.toNat : Int) + shift).toNat
      | none => c := by
  rw [lowercaseChar, if_neg h]
  rfl

/-- A character beyond ASCII that is in no run has no other form. -/
theorem isLower_of_not_isInRun {c : Char} (hdotted : c.toNat ≠ 0x130)
    (hruns : ∀ run ∈ lowercaseRuns, isInRun c.toNat run = false) (hascii : ¬ c.toNat < 0x80) :
    IsLower c := by
  refine ⟨?_, ?_, ?_⟩
  · rintro rfl
    have hsigma : (0x3A3, 0x3AB, 1, 32) ∈ lowercaseRuns := by decide +kernel
    exact absurd (hruns _ hsigma) (by decide +kernel)
  · rintro rfl
    exact hdotted rfl
  · have hnone : lowercaseRuns.find? (isInRun c.toNat) = none := by
      rw [List.find?_eq_none]
      exact fun run hmem => by rw [hruns run hmem]; exact Bool.false_ne_true
    rw [lowercaseChar_of_not_ascii hascii, hnone]

theorem isLower_lowercaseChar_ascii :
    ∀ n < 0x80, IsLower (lowercaseChar (Char.ofNat n)) := by decide +kernel

theorem isLower_ascii : ∀ n < 0x80, 97 ≤ n → n ≤ 122 → IsLower (Char.ofNat n) := by
  decide +kernel

/-- What is left of a character is in lower case, except for the two that have a form of
their own. -/
theorem isLower_lowercaseChar {c : Char} (hsigma : c ≠ 'Σ') (hdotted : c ≠ 'İ') :
    IsLower (lowercaseChar c) := by
  by_cases hascii : c.toNat < 0x80
  · rw [← Char.ofNat_toNat c]
    exact isLower_lowercaseChar_ascii c.toNat hascii
  rw [lowercaseChar_of_not_ascii hascii]
  cases hfind : lowercaseRuns.find? (isInRun c.toNat) with
  | none =>
      have hself : lowercaseChar c = c := by rw [lowercaseChar_of_not_ascii hascii, hfind]
      exact ⟨hsigma, hdotted, hself⟩
  | some run =>
      obtain ⟨hbounds, houtside⟩ :=
        lowercase_run (List.mem_of_find?_eq_some hfind) (List.find?_some hfind)
      dsimp only
      generalize ((c.toNat : Int) + run.2.2.2).toNat = n at hbounds houtside
      simp only [areLowerIfShort, Bool.and_eq_true, Bool.or_eq_true, Nat.ble_eq,
        Nat.blt_eq] at hbounds
      obtain ⟨hshort, hne, hscalar⟩ := hbounds
      have hvalid : n.isValidChar := by rw [Nat.isValidChar]; omega
      have hn : (Char.ofNat n).toNat = n := by rw [Char.ofNat, dif_pos hvalid]; rfl
      by_cases hlow : n < 0x80
      · exact isLower_ascii n hlow (by omega) (by omega)
      · refine isLower_of_not_isInRun ?_ ?_ ?_
        · rw [hn]; omega
        · rw [hn]; exact houtside
        · rw [hn]; exact hlow

/-! ## Texts -/

theorem isLower_of_mem_lowercaseAfter {before cs : List Char} {c : Char}
    (h : c ∈ lowercaseAfter before cs) : IsLower c := by
  induction cs generalizing before with
  | nil => cases h
  | cons d rest ih =>
      rw [lowercaseAfter] at h
      rcases List.mem_append.1 h with hfirst | hrest
      · split at hfirst
        · split at hfirst <;> rw [List.mem_singleton.1 hfirst] <;> decide +kernel
        · next hsigma =>
          split at hfirst
          · rcases List.mem_pair.1 hfirst with rfl | rfl <;> decide +kernel
          · next hdotted =>
            rw [List.mem_singleton.1 hfirst]
            exact isLower_lowercaseChar hsigma hdotted
      · exact ih hrest

/-- A text in lower case stays as it is, whatever stands before it. -/
theorem lowercaseAfter_of_isLower {cs : List Char} (h : ∀ c ∈ cs, IsLower c)
    (before : List Char) : lowercaseAfter before cs = cs := by
  induction cs generalizing before with
  | nil => rfl
  | cons c rest ih =>
      obtain ⟨⟨hsigma, hdotted, hself⟩, hrest⟩ := List.forall_mem_cons.1 h
      rw [lowercaseAfter, ih hrest, if_neg hsigma, if_neg hdotted, hself]
      rfl

/-- Lower case twice is lower case. -/
theorem lowercase_lowercase (text : String) : lowercase (lowercase text) = lowercase text := by
  rw [lowercase, lowercase, String.toList_ofList]
  exact congrArg String.ofList
    (lowercaseAfter_of_isLower (fun c hc => isLower_of_mem_lowercaseAfter hc) [])

end DesiredState
