import DesiredState.Proofs.Number.ReadBack
import DesiredState.Yaml.Scheme

/-!
# Numbers are what their texts spell

A document spells an integer or a floating-point number in many ways, and one of them is the
text that is written for it.  That text is neither null nor a truth value, as it starts with a
digit, a minus sign or a point.  The text of an integer has no leading zero, so it does not spell
a text either; that of a floating-point number has a point or an exponent, and so it does not
spell an integer.

## Main results

* `writeNat_leading` — the digits of a natural have no leading zero.
* `Yaml.ofPlain?_writeInt`, `Yaml.ofPlain?_writeFloat` — the text of a number spells it.
-/

namespace DesiredState

/-! ## Digits -/

/-- Only zero is written with a zero in front. -/
theorem writeNat_leading {n : Nat} {rest : List Char} (h : writeNat n = '0' :: rest) :
    rest = [] := by
  induction n using Nat.strongRecOn generalizing rest with
  | ind n ih =>
      unfold writeNat at h
      by_cases hsmall : n < 10
      · rw [Nat.toDigits_of_lt_base hsmall] at h
        exact (List.cons.inj h).2.symm
      · have hsplit := Nat.toDigits_of_base_le (show 1 < 10 by decide) (Nat.not_lt.1 hsmall)
        rw [h] at hsplit
        have hfront : writeNat (n / 10) ≠ [] := Literal.writeNat_ne_nil _
        cases hdigits : writeNat (n / 10) with
        | nil => exact absurd hdigits hfront
        | cons first more =>
            unfold writeNat at hdigits
            rw [hdigits, List.cons_append] at hsplit
            obtain ⟨rfl, -⟩ := List.cons.inj hsplit
            obtain rfl := ih (n / 10) (by omega) hdigits
            -- what is in front of the last digit would be zero
            have hvalue := digitsValue_writeNat (n / 10)
            rw [writeNat, hdigits] at hvalue
            have : n / 10 = 0 := hvalue.symm
            omega

/-- Letters have no value in base ten. -/
theorem isDigit_of_digitValue? {c : Char} {n : Nat} (h : digitValue? 10 c = some n) :
    c.isDigit = true := by
  unfold digitValue? at h
  dsimp only at h
  split at h
  · next hdigit =>
    rw [Char.isDigit, Bool.and_eq_true, decide_eq_true_eq, decide_eq_true_eq]
    exact hdigit
  · split at h
    · next hsmall =>
      have hlow : 97 ≤ c.toNat := hsmall.1
      obtain ⟨hvalue, hless⟩ := Option.filter_eq_some_iff.1 h
      obtain rfl := Option.some.inj hvalue
      have := of_decide_eq_true hless
      omega
    · split at h
      · next hcapital =>
        have hlow : 65 ≤ c.toNat := hcapital.1
        obtain ⟨hvalue, hless⟩ := Option.filter_eq_some_iff.1 h
        obtain rfl := Option.some.inj hvalue
        have := of_decide_eq_true hless
        omega
      · cases h

/-- Only digits have a value. -/
theorem isDigit_of_digitsFrom? {cs : List Char} {acc n : Nat}
    (h : digitsFrom? 10 acc cs = some n) : ∀ c ∈ cs, c.isDigit = true := by
  induction cs generalizing acc with
  | nil => exact List.forall_mem_nil _
  | cons c rest ih =>
      rw [digitsFrom?] at h
      split at h
      · next d hd => exact List.forall_mem_cons.2 ⟨isDigit_of_digitValue? hd, ih h⟩
      · cases h

/-- A text with a point or an exponent is no string of digits. -/
theorem exists_not_isDigit {cs : List Char} (h : Literal.isFractional cs = true) :
    ∃ c ∈ cs, c.isDigit = false := by
  obtain ⟨c, hc, hmark⟩ := List.any_eq_true.1 h
  refine ⟨c, hc, ?_⟩
  rcases Bool.or_eq_true_iff.1 hmark with hmark | hmark
  · rw [beq_iff_eq.1 hmark]
    rfl
  · rw [beq_iff_eq.1 hmark]
    rfl

theorem digitsValue?_of_isFractional {cs : List Char} (h : Literal.isFractional cs = true) :
    digitsValue? 10 cs = none := by
  obtain ⟨c, hc, hdigit⟩ := exists_not_isDigit h
  cases hvalue : digitsValue? 10 cs with
  | none => rfl
  | some n =>
      cases cs with
      | nil => cases hc
      | cons first rest =>
          rw [digitsValue?] at hvalue
          · rw [isDigit_of_digitsFrom? hvalue c hc] at hdigit
            cases hdigit
          · exact List.cons_ne_nil first rest

/-! ## Words and numbers -/

/-- Whether a text starts with a minus sign or a digit. -/
def startsNumber (cs : List Char) : Bool := cs.head?.any fun c => c == '-' || c.isDigit

section Words

variable {cs : List Char} (h : startsNumber cs = true)

include h

/-- A text that starts like a number is not one that starts otherwise. -/
theorem beq_word (word : String) (hword : startsNumber word.toList = false) :
    (String.ofList cs == word) = false := by
  rw [beq_eq_false_iff_ne]
  rintro rfl
  rw [String.toList_ofList, h] at hword
  cases hword

theorem isNullText_eq_false : isNullText (String.ofList cs) = false := by
  rw [isNullText, beq_word h "null" (by decide), beq_word h "Null" (by decide),
    beq_word h "NULL" (by decide), beq_word h "~" (by decide)]
  rfl

theorem boolOfText?_eq_none : boolOfText? (String.ofList cs) = none := by
  rw [boolOfText?, beq_word h "true" (by decide), beq_word h "True" (by decide),
    beq_word h "TRUE" (by decide), beq_word h "false" (by decide), beq_word h "False" (by decide),
    beq_word h "FALSE" (by decide)]
  rfl

theorem isNanText_eq_false : isNanText (String.ofList cs) = false := by
  rw [isNanText, beq_word h ".nan" (by decide), beq_word h ".NaN" (by decide),
    beq_word h ".NAN" (by decide)]
  rfl

theorem isInfinityText_eq_false : isInfinityText (String.ofList cs) = false := by
  rw [isInfinityText, beq_word h ".inf" (by decide), beq_word h ".Inf" (by decide),
    beq_word h ".INF" (by decide)]
  rfl

/-- What starts like a number is an integer, or a floating-point number, or a text. -/
theorem Yaml.ofPlain?_of_startsNumber : Yaml.ofPlain? (String.ofList cs) =
    match IntegerText.read cs with
    | .fits i => some (.int i)
    | .wide => none
    | .other =>
        if hasLeadingZero cs then some (.string (String.ofList cs))
        else
          match floatOfText? (String.ofList cs) with
          | some x => some (.float x)
          | none => some (.string (String.ofList cs)) := by
  have hempty : (String.ofList cs).isEmpty = false := by
    cases cs with
    | nil => cases h
    | cons c rest => simp
  rw [Yaml.ofPlain?, hempty, isNullText_eq_false h, boolOfText?_eq_none h, String.toList_ofList]
  rfl

end Words

theorem startsNumber_writeNat (n : Nat) : startsNumber (writeNat n) = true := by
  cases hcs : writeNat n with
  | nil => exact absurd hcs (Literal.writeNat_ne_nil n)
  | cons c rest =>
      have hc : c.isDigit = true := Literal.isDigit_of_mem_writeNat (n := n) (by simp [hcs])
      simp [startsNumber, hc]

/-! ## Integers -/

/-- Digits have no mark of a base in front. -/
theorem basedValue?_eq_none {cs : List Char}
    (h : ∀ c ∈ cs, c ≠ 'x' ∧ c ≠ 'o' ∧ c ≠ 'b') : basedValue? cs = none := by
  unfold basedValue?
  split
  · exact absurd rfl (h 'x' (by simp)).1
  · exact absurd rfl (h 'o' (by simp)).2.1
  · exact absurd rfl (h 'b' (by simp)).2.2
  · rfl

theorem hasLeadingZero_writeInt (i : Int) : hasLeadingZero (writeInt i) = false := by
  unfold hasLeadingZero
  rw [splitSign_writeInt]
  split
  · next rest hdigits => rw [writeNat_leading hdigits]; rfl
  · rfl

/-- The integers that a document can hold. -/
def InRange (i : Int) : Prop := -2 ^ 63 ≤ i ∧ i < 2 ^ 64

theorem IntegerText.inRange_of_ofValue {isNegative : Bool} {magnitude : Nat} {i : Int}
    (h : ofValue isNegative magnitude = .fits i) : InRange i := by
  unfold ofValue at h
  unfold InRange
  split at h
  · split at h
    · cases h
      omega
    · split at h <;> cases h
  · split at h
    · cases h
      omega
    · split at h <;> cases h

theorem IntegerText.inRange_of_read {cs : List Char} {i : Int} (h : read cs = .fits i) :
    InRange i := by
  unfold read at h
  dsimp only at h
  split at h
  · exact inRange_of_ofValue h
  · split at h
    · cases h
    · split at h
      · exact inRange_of_ofValue h
      · cases h

/-- A plain scalar spells an integer that a document can hold, or a text as it is. -/
theorem Yaml.ofPlain?_cases {text : String} {y : Yaml} (h : Yaml.ofPlain? text = some y) :
    (∀ s, y = .string s → s = text) ∧ ∀ i, y = .int i → InRange i := by
  unfold Yaml.ofPlain? at h
  split at h
  · cases h; exact ⟨nofun, nofun⟩
  · split at h
    · cases h; exact ⟨nofun, nofun⟩
    · split at h
      · next i hread =>
        cases h
        refine ⟨nofun, fun j hj => ?_⟩
        obtain rfl := Yaml.int.inj hj
        exact IntegerText.inRange_of_read hread
      · cases h
      · split at h
        · cases h
          exact ⟨fun s hs => (Yaml.string.inj hs).symm, nofun⟩
        · split at h
          · cases h; exact ⟨nofun, nofun⟩
          · cases h
            exact ⟨fun s hs => (Yaml.string.inj hs).symm, nofun⟩

/-- The text of an integer of a document spells it. -/
theorem Yaml.ofPlain?_writeInt {i : Int} (hi : InRange i) :
    Yaml.ofPlain? (String.ofList (writeInt i)) = some (.int i) := by
  obtain ⟨hlow, hhigh⟩ := hi
  have hstart : startsNumber (writeInt i) = true := by
    unfold writeInt
    split
    · rfl
    · exact startsNumber_writeNat _
  have hbase : basedValue? (writeNat i.natAbs) = none := by
    refine basedValue?_eq_none fun c hc => ?_
    have hdigit := Literal.isDigit_of_mem_writeNat hc
    refine ⟨?_, ?_, ?_⟩ <;> rintro rfl <;> exact absurd hdigit (by decide)
  have hread : IntegerText.read (writeInt i) = .fits i := by
    unfold IntegerText.read
    rw [splitSign_writeInt, hasLeadingZero_writeInt]
    dsimp only
    rw [hbase, digitsValue?_writeNat]
    show IntegerText.ofValue (decide (i < 0)) i.natAbs = .fits i
    unfold IntegerText.ofValue
    by_cases hneg : i < 0
    · have hvalue : -(i.natAbs : Int) = i := by omega
      rw [if_pos (decide_eq_true hneg), if_pos (by omega), hvalue]
    · have hvalue : (i.natAbs : Int) = i := by omega
      rw [if_neg (by simpa using hneg), if_pos (by omega), hvalue]
  rw [Yaml.ofPlain?_of_startsNumber hstart, hread]

/-! ## Floating-point numbers -/

namespace Layout

variable (l : Layout) (negative : Bool) {mantissa : Nat} {exponent : Int}
  (h : Binary64.IsCanonical mantissa exponent)

theorem startsNumber_write :
    startsNumber (l.write (.finite negative mantissa exponent h)) = true := by
  obtain ⟨c, rest, htext, hc⟩ := exists_digit_of_writeFinite l mantissa exponent
  rw [write, htext]
  cases negative with
  | true => rfl
  | false => simp [startsNumber, hc]

/-- A zero in front has a point or an exponent behind it. -/
theorem hasLeadingZero_write :
    hasLeadingZero (l.write (.finite negative mantissa exponent h)) = false := by
  unfold hasLeadingZero
  rw [splitSign_write]
  split
  · next rest htext =>
    obtain ⟨c, hc, hdigit⟩ :=
      exists_not_isDigit (Literal.isFractional_writeFinite l mantissa exponent)
    have htext : l.writeFinite mantissa exponent = '0' :: rest := htext
    rw [htext] at hc
    rcases List.mem_cons.1 hc with rfl | hc
    · cases hdigit
    · rw [Bool.and_eq_false_iff, List.all_eq_false]
      exact .inr ⟨c, hc, by simp [hdigit]⟩
  · rfl

/-- The text of a floating-point number spells no integer. -/
theorem integerText_write :
    IntegerText.read (l.write (.finite negative mantissa exponent h)) = .other := by
  have hbase : basedValue? (l.writeFinite mantissa exponent) = none := by
    refine basedValue?_eq_none fun c hc => ?_
    have hchar := Literal.isNumberChar_of_mem_writeFinite l mantissa exponent hc
    refine ⟨?_, ?_, ?_⟩ <;> rintro rfl <;> exact absurd hchar (by decide)
  unfold IntegerText.read
  rw [splitSign_write, hasLeadingZero_write]
  dsimp only
  rw [hbase, digitsValue?_of_isFractional (Literal.isFractional_writeFinite l mantissa exponent)]
  rfl

theorem floatOfText?_write :
    floatOfText? (String.ofList (l.write (.finite negative mantissa exponent h))) =
      some (.finite negative mantissa exponent h) := by
  have hstart := l.startsNumber_write negative h
  have hparse := l.parse?_write negative h
  have hword := isInfinityText_eq_false hstart
  have hmagnitude : isInfinityText (String.ofList (l.writeFinite mantissa exponent)) = false :=
    isInfinityText_eq_false (l.startsNumber_write false h)
  rw [floatOfText?, isNanText_eq_false hstart, String.toList_ofList]
  cases negative with
  | true =>
      have htext : l.write (.finite true mantissa exponent h) =
          '-' :: l.writeFinite mantissa exponent := rfl
      rw [htext] at hparse ⊢
      rw [if_neg Bool.false_ne_true, hparse]
      show (if isInfinityText (String.ofList (l.writeFinite mantissa exponent)) = true then _
        else _) = _
      rw [hmagnitude]
      rfl
  | false =>
      obtain ⟨c, rest, htext, hc⟩ := exists_digit_of_writeFinite l mantissa exponent
      have hdigit : l.write (.finite false mantissa exponent h) = c :: rest := htext
      rw [if_neg Bool.false_ne_true, hword]
      split
      · next heq => rw [hdigit] at heq; simp [(List.cons.inj heq).1] at hc
      · next heq => rw [hdigit] at heq; simp [(List.cons.inj heq).1] at hc
      · rw [if_neg Bool.false_ne_true, hparse]
        rfl

end Layout

/-- The text of a floating-point number spells it. -/
theorem Yaml.ofPlain?_writeFloat (x : Binary64) :
    Yaml.ofPlain? (String.ofList (Yaml.floatLayout.write x)) = some (.float x) := by
  cases x with
  | nan => rfl
  | infinite negative => cases negative <;> rfl
  | finite negative mantissa exponent h =>
      rw [Yaml.ofPlain?_of_startsNumber (Layout.startsNumber_write _ negative h),
        Layout.integerText_write, Layout.hasLeadingZero_write, Layout.floatOfText?_write]
      rfl

end DesiredState
