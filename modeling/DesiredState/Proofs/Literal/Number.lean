import DesiredState.Number.Layout
import DesiredState.Proofs.Literal.Syntax

/-!
# Numbers as literals

The text of a number is made of characters of numbers only, so the reader of
literals takes it as a whole.  The text of an integer has neither a point nor
the mark of an exponent, and that of a finite floating-point number has one of
them, so the two are never taken for each other.

## Main results

* `isNumberChar_of_mem_writeInt`, `isNumberChar_of_mem_write` — texts of numbers
  hold characters of numbers.
* `not_isFractional_writeInt`, `isFractional_write` — the text shows which of
  the two kinds a number is.
-/

namespace DesiredState

namespace Literal

/-- Whether a text has a point or an exponent. -/
def isFractional (cs : List Char) : Bool := cs.any fun c => c == '.' || c == 'e'

theorem isNumberChar_of_isDigit {c : Char} (h : c.isDigit = true) : isNumberChar c = true := by
  simp [isNumberChar, h]

/-! ## Integers -/

theorem isDigit_of_mem_writeNat {n : Nat} {c : Char} (h : c ∈ writeNat n) : c.isDigit = true :=
  Nat.isDigit_of_mem_toDigits (by decide) (by decide) h

theorem writeNat_ne_nil (n : Nat) : writeNat n ≠ [] := Nat.toDigits_ne_nil

/-- The text of an integer is one of digits, behind a minus sign or none. -/
theorem mem_writeInt {i : Int} {c : Char} (h : c ∈ writeInt i) :
    c = '-' ∨ c.isDigit = true := by
  unfold writeInt at h
  split at h
  · rcases List.mem_cons.1 h with rfl | h
    · exact .inl rfl
    · exact .inr (isDigit_of_mem_writeNat h)
  · exact .inr (isDigit_of_mem_writeNat h)

theorem writeInt_ne_nil (i : Int) : writeInt i ≠ [] := by
  unfold writeInt
  split
  · simp
  · exact writeNat_ne_nil _

theorem isNumberChar_of_mem_writeInt {i : Int} {c : Char} (h : c ∈ writeInt i) :
    isNumberChar c = true := by
  rcases mem_writeInt h with rfl | h
  · rfl
  · exact isNumberChar_of_isDigit h

theorem not_isFractional_writeInt (i : Int) : isFractional (writeInt i) = false := by
  rw [isFractional, List.any_eq_false]
  intro c hc
  rcases mem_writeInt hc with rfl | h
  · decide
  · have hpoint : c ≠ '.' := by rintro rfl; simp at h
    have hmark : c ≠ 'e' := by rintro rfl; simp at h
    simp [hpoint, hmark]

/-! ## Floating-point numbers -/

theorem isNumberChar_of_mem_plain {digits : List Char} (hdigits : ∀ c ∈ digits, c.isDigit = true)
    (lead : Int) {c : Char} (h : c ∈ Layout.plain digits lead) : isNumberChar c = true := by
  have hdigit : ∀ c ∈ digits, isNumberChar c = true :=
    fun c hc => isNumberChar_of_isDigit (hdigits c hc)
  unfold Layout.plain at h
  dsimp only at h
  split at h
  · simp only [List.mem_append, List.mem_replicate, List.mem_cons, List.not_mem_nil, or_false] at h
    rcases h with (h | ⟨-, rfl⟩) | rfl | rfl
    · exact hdigit c h
    all_goals rfl
  · split at h
    · rcases List.mem_append.1 h with h | h
      · exact hdigit c (List.mem_of_mem_take h)
      · rcases List.mem_cons.1 h with rfl | h
        · rfl
        · exact hdigit c (List.mem_of_mem_drop h)
    · simp only [List.mem_cons, List.mem_append, List.mem_replicate] at h
      rcases h with rfl | rfl | ⟨-, rfl⟩ | h
      · rfl
      · rfl
      · rfl
      · exact hdigit c h

theorem isNumberChar_of_mem_scientific {digits : List Char}
    (hdigits : ∀ c ∈ digits, c.isDigit = true) (hasPlus : Bool) (lead : Int) {c : Char}
    (h : c ∈ Layout.scientific hasPlus digits lead) : isNumberChar c = true := by
  have hdigit : ∀ c ∈ digits, isNumberChar c = true :=
    fun c hc => isNumberChar_of_isDigit (hdigits c hc)
  simp only [Layout.scientific, List.append_assoc, List.cons_append, List.mem_append,
    List.mem_cons] at h
  rcases h with h | h | rfl | h | h
  · exact hdigit c (List.mem_of_mem_take h)
  · split at h
    · simp at h
    · next rest hrest =>
      rcases List.mem_cons.1 h with rfl | h
      · rfl
      · exact hdigit c (List.mem_of_mem_drop h)
  · rfl
  · split at h
    · obtain rfl := List.mem_singleton.1 h
      rfl
    · simp at h
  · exact isNumberChar_of_mem_writeInt h

theorem isNumberChar_of_mem_writeFinite (l : Layout) (mantissa : Nat) (exponent : Int) {c : Char}
    (h : c ∈ l.writeFinite mantissa exponent) : isNumberChar c = true := by
  unfold Layout.writeFinite at h
  split at h
  · simp only [List.mem_cons, List.not_mem_nil, or_false] at h
    rcases h with rfl | rfl | rfl <;> rfl
  · have hdigits : ∀ c ∈ writeNat (shortestDecimal l.tie mantissa exponent).digits,
        c.isDigit = true := fun c hc => isDigit_of_mem_writeNat hc
    dsimp only at h
    split at h
    · exact isNumberChar_of_mem_plain hdigits _ h
    · exact isNumberChar_of_mem_scientific hdigits _ _ h

/-- A positional text has a point, and every other one an exponent. -/
theorem isFractional_writeFinite (l : Layout) (mantissa : Nat) (exponent : Int) :
    isFractional (l.writeFinite mantissa exponent) = true := by
  rw [isFractional, List.any_eq_true]
  unfold Layout.writeFinite
  split
  · exact ⟨'.', by simp, rfl⟩
  · dsimp only
    split
    · refine ⟨'.', ?_, rfl⟩
      unfold Layout.plain
      dsimp only
      split
      · simp
      · split <;> simp
    · exact ⟨'e', by simp [Layout.scientific], rfl⟩

/-- The text of a finite number holds characters of numbers. -/
theorem isNumberChar_of_mem_write (l : Layout) (negative : Bool) (mantissa : Nat) (exponent : Int)
    (canonical : Binary64.IsCanonical mantissa exponent) {c : Char}
    (h : c ∈ l.write (.finite negative mantissa exponent canonical)) : isNumberChar c = true := by
  rcases List.mem_append.1 h with h | h
  · split at h
    · obtain rfl := List.mem_singleton.1 h
      rfl
    · simp at h
  · exact isNumberChar_of_mem_writeFinite l mantissa exponent h

/-- The text of a finite number has a point or an exponent. -/
theorem isFractional_write (l : Layout) (negative : Bool) (mantissa : Nat) (exponent : Int)
    (canonical : Binary64.IsCanonical mantissa exponent) :
    isFractional (l.write (.finite negative mantissa exponent canonical)) = true := by
  have h := isFractional_writeFinite l mantissa exponent
  rw [isFractional] at h ⊢
  rw [Layout.write, List.any_append, h, Bool.or_true]

end Literal

end DesiredState
