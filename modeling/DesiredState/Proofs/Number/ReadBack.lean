import DesiredState.Proofs.Literal.RoundTrip
import DesiredState.Proofs.Number.Decimal
import DesiredState.Proofs.Text.Runs

/-!
# Numbers are read back from their texts

A format lays out the digits that were selected for a number: with zeros behind them, with a
point in between, with zeros in front of them, or with an exponent.  However it does so, the
text has the digits in front of the point and behind it, and an exponent that may be zero.
Reading takes all these digits as one natural and corrects the exponent by those behind the
point.  So what is read is a decimal with the value of the selected one.

That decimal is in the interval of the number.  Hence every number is read back from its text,
in every layout, and two numbers never have the same text.

## Main results

* `Binary64.readDecimal?_pointed`, `Binary64.readDecimal?_unpointed` — the decimal of a text.
* `Layout.isPointed_plain` — where the point stands, and what the digits around it stand for.
* `Layout.exists_read_plain`, `Layout.exists_read_scientific` — what is read from the two
  layouts of digits.
* `Layout.parse?_write` — a number is read back from its text.
* `Binary64.readsBack` — so it is from its literal in a script.
-/

namespace DesiredState

/-! ## Digits as one natural -/

theorem foldl_digits (cs : List Char) (acc : Nat) :
    cs.foldl (fun acc c => acc * 10 + (c.toNat - 48)) acc = Nat.ofDigitChars 10 cs acc := by
  induction cs generalizing acc with
  | nil => rfl
  | cons c rest ih =>
      rw [List.foldl_cons, ih, Nat.ofDigitChars_cons, Nat.mul_comm acc]
      rfl

theorem digitsValue_writeNat (n : Nat) : digitsValue (writeNat n) = n := by
  rw [digitsValue, foldl_digits, writeNat, Nat.ofDigitChars_ten_toDigits]

/-- Zeros behind the digits count as factors of ten. -/
theorem digitsValue_zeros (cs : List Char) (count : Nat) :
    digitsValue (cs ++ List.replicate count '0') = digitsValue cs * 10 ^ count := by
  induction count with
  | zero => simp
  | succ count ih =>
      have hone : digitsValue (cs ++ List.replicate count '0' ++ ['0']) =
          digitsValue (cs ++ List.replicate count '0') * 10 := by
        simp [digitsValue, List.foldl_append]
      rw [List.replicate_succ', ← List.append_assoc, hone, ih, pow_succ, Nat.mul_assoc]

/-- Zeros in front of the digits do not count. -/
theorem digitsValue_zeros_append (count : Nat) (cs : List Char) :
    digitsValue (List.replicate count '0' ++ cs) = digitsValue cs := by
  induction count with
  | zero => rfl
  | succ count ih =>
      rw [List.replicate_succ, List.cons_append]
      exact ih

theorem isDigit_of_mem_zeros {count : Nat} {c : Char} (h : c ∈ List.replicate count '0') :
    c.isDigit = true := by
  rw [List.eq_of_mem_replicate h]
  rfl

/-! ## The decimal of a text -/

namespace Binary64

theorem stops_of_readExponent? {back : List Char} {exponent : Int}
    (h : readExponent? back = some exponent) : Stops Char.isDigit back := by
  intro c hc
  cases back with
  | nil => cases hc
  | cons mark rest =>
      obtain rfl := Option.some.inj hc
      rw [readExponent?] at h
      split at h
      · next hmark => rcases hmark with rfl | rfl <;> rfl
      · cases h

/-- A text with a point: the digits on both sides are one natural. -/
theorem readDecimal?_pointed (whole fraction back : List Char) (hne : whole ≠ [])
    (hwhole : ∀ c ∈ whole, c.isDigit = true) (hfraction : ∀ c ∈ fraction, c.isDigit = true)
    {exponent : Int} (hback : readExponent? back = some exponent) (negative : Bool) :
    readDecimal? negative (whole ++ '.' :: (fraction ++ back)) =
      some (ofDecimal negative (digitsValue (whole ++ fraction)) (exponent - fraction.length)) := by
  have hpoint : Stops Char.isDigit ('.' :: (fraction ++ back)) := by
    intro c hc
    obtain rfl := Option.some.inj hc
    rfl
  have hstop := stops_of_readExponent? hback
  have hempty : (whole.isEmpty && fraction.isEmpty) = false := by
    simp [List.isEmpty_iff, hne]
  simp only [readDecimal?, hpoint.takeWhile hwhole, hpoint.dropWhile hwhole,
    hstop.takeWhile hfraction, hstop.dropWhile hfraction, hempty, hback]
  rfl

/-- A text without a point. -/
theorem readDecimal?_unpointed (whole back : List Char) (hne : whole ≠ [])
    (hwhole : ∀ c ∈ whole, c.isDigit = true) {exponent : Int}
    (hback : readExponent? back = some exponent)
    (hpoint : back.head? ≠ some '.') (negative : Bool) :
    readDecimal? negative (whole ++ back) =
      some (ofDecimal negative (digitsValue whole) exponent) := by
  have hstop := stops_of_readExponent? hback
  unfold readDecimal?
  rw [hstop.takeWhile hwhole, hstop.dropWhile hwhole]
  cases back with
  | nil => simp [hne, hback]
  | cons mark rest =>
      have hmark : mark ≠ '.' := fun heq => hpoint (congrArg some heq)
      simp [hne, hmark, hback]

/-- An exponent is read back, with a plus sign in front of it or without. -/
theorem readExponent?_write (hasPlus : Bool) (lead : Int) :
    readExponent? ('e' :: ((if hasPlus && 0 < lead then ['+'] else []) ++ writeInt lead)) =
      some lead := by
  have hvalue : (if decide (lead < 0) then -(lead.natAbs : Int) else lead.natAbs) = lead := by
    split
    · next h =>
      have := of_decide_eq_true h
      omega
    · next h =>
      have := of_decide_eq_false (Bool.eq_false_iff.2 h)
      omega
  have hsplit : splitSign ((if hasPlus && 0 < lead then ['+'] else []) ++ writeInt lead) =
      (decide (lead < 0), writeNat lead.natAbs) := by
    by_cases hplus : (hasPlus && 0 < lead) = true
    · have hpos : ¬ lead < 0 := by simp at hplus; omega
      rw [if_pos hplus, writeInt, if_neg hpos]
      simp [splitSign, hpos]
    · rw [if_neg hplus, List.nil_append, splitSign_writeInt]
  rw [readExponent?, if_pos (.inl rfl), hsplit]
  dsimp only
  rw [digitsValue?_writeNat]
  exact congrArg some hvalue

end Binary64

/-! ## The two layouts -/

namespace Layout

/-- Whether a text is digits with a point between them that stand for a value. -/
def IsPointed (cs : List Char) (value : ℚ) : Prop :=
  ∃ whole fraction : List Char, cs = whole ++ '.' :: fraction ∧ whole ≠ [] ∧
    (∀ c ∈ whole ++ fraction, c.isDigit = true) ∧
      digitsValue (whole ++ fraction) * 10 ^ (0 - (fraction.length : Int)) = value

section Pointed

variable {digits : List Char} (hdigits : ∀ c ∈ digits, c.isDigit = true)

include hdigits

/-- The point stands behind the digits and the zeros that are filled in. -/
theorem isPointed_behind (hne : digits ≠ []) (count : Nat) :
    IsPointed (digits ++ List.replicate count '0' ++ ['.', '0'])
      (digitsValue digits * 10 ^ (count : Int)) := by
  refine ⟨digits ++ List.replicate count '0', ['0'], rfl, by simp [hne], ?_, ?_⟩
  · intro c hc
    rw [List.append_assoc, ← List.replicate_succ'] at hc
    exact (List.mem_append.1 hc).elim (hdigits c) isDigit_of_mem_zeros
  · rw [List.append_assoc, ← List.replicate_succ', digitsValue_zeros]
    push_cast
    rw [pow_succ, zpow_natCast]
    norm_num [zpow_neg]
    ring

/-- The point stands between the digits. -/
theorem isPointed_between {point : Nat} (hpos : 0 < point) (hlt : point < digits.length) :
    IsPointed (digits.take point ++ '.' :: digits.drop point)
      (digitsValue digits * 10 ^ ((point : Int) - digits.length)) := by
  refine ⟨digits.take point, digits.drop point, rfl, ?_, ?_, ?_⟩
  · rw [← List.length_pos_iff, List.length_take]
    omega
  · rwa [List.take_append_drop]
  · have hplace : (0 : Int) - (digits.length - point : Nat) = point - digits.length := by omega
    rw [List.take_append_drop, List.length_drop, hplace]

/-- The point stands in front of the digits and of the zeros that are filled in. -/
theorem isPointed_front (count : Nat) :
    IsPointed ('0' :: '.' :: (List.replicate count '0' ++ digits))
      (digitsValue digits * 10 ^ (-(count : Int) - digits.length)) := by
  have hzeros : ['0'] ++ (List.replicate count '0' ++ digits) =
      List.replicate (count + 1) '0' ++ digits := by
    rw [List.replicate_succ]
    rfl
  refine ⟨['0'], List.replicate count '0' ++ digits, rfl, by simp, ?_, ?_⟩
  · intro c hc
    rw [hzeros] at hc
    exact (List.mem_append.1 hc).elim isDigit_of_mem_zeros (hdigits c)
  · have hplace : (0 : Int) - (count + digits.length : Nat) = -count - digits.length := by omega
    rw [hzeros, digitsValue_zeros_append, List.length_append, List.length_replicate, hplace]

/-- Wherever the point stands, the digits have their place. -/
theorem isPointed_plain (hne : digits ≠ []) (lead : Int) :
    IsPointed (plain digits lead) (digitsValue digits * 10 ^ (lead + 1 - digits.length)) := by
  unfold plain
  dsimp only
  by_cases hbehind : (digits.length : Int) ≤ lead + 1
  · obtain ⟨count, hcount⟩ : ∃ count : Nat, lead + 1 = digits.length + count :=
      ⟨(lead + 1 - digits.length).toNat, by omega⟩
    have hfill : (lead + 1).toNat - digits.length = count := by omega
    have hplace : lead + 1 - digits.length = (count : Int) := by omega
    rw [if_pos hbehind, hfill, hplace]
    exact isPointed_behind hdigits hne count
  · rw [if_neg hbehind]
    by_cases hbetween : 0 < lead + 1
    · obtain ⟨point, hpoint⟩ : ∃ point : Nat, lead + 1 = point := ⟨(lead + 1).toNat, by omega⟩
      rw [if_pos hbetween, hpoint, Int.toNat_natCast]
      exact isPointed_between hdigits (by omega) (by omega)
    · obtain ⟨count, hcount⟩ : ∃ count : Nat, -(lead + 1) = count :=
        ⟨(-(lead + 1)).toNat, by omega⟩
      have hplace : lead + 1 - digits.length = -(count : Int) - digits.length := by omega
      rw [if_neg hbetween, hcount, Int.toNat_natCast, hplace]
      exact isPointed_front hdigits count

end Pointed

/-- Digits with a point: what is read has their value. -/
theorem exists_read_plain (n : Nat) (lead : Int) (negative : Bool) : ∃ d : Decimal,
    Binary64.readDecimal? negative (plain (writeNat n) lead) =
        some (Binary64.ofDecimal negative d.digits d.exponent) ∧
      d.val = n * 10 ^ (lead + 1 - (writeNat n).length) := by
  obtain ⟨whole, fraction, htext, hne, hdigits, hvalue⟩ :=
    isPointed_plain (fun c hc => Literal.isDigit_of_mem_writeNat hc)
      (Literal.writeNat_ne_nil n) lead
  obtain ⟨hwhole, hfraction⟩ := List.forall_mem_append.1 hdigits
  have hread := Binary64.readDecimal?_pointed whole fraction [] hne hwhole hfraction rfl negative
  refine ⟨⟨digitsValue (whole ++ fraction), 0 - fraction.length⟩, ?_, ?_⟩
  · rw [htext]
    rwa [List.append_nil] at hread
  · rw [Decimal.val, hvalue, digitsValue_writeNat]

/-- Digits with an exponent: what is read has their value. -/
theorem exists_read_scientific (hasPlus : Bool) (n : Nat) (lead : Int) (negative : Bool) :
    ∃ d : Decimal,
      Binary64.readDecimal? negative (scientific hasPlus (writeNat n) lead) =
          some (Binary64.ofDecimal negative d.digits d.exponent) ∧
        d.val = n * 10 ^ (lead + 1 - (writeNat n).length) := by
  have hdigits : ∀ c ∈ writeNat n, c.isDigit = true := fun c hc =>
    Literal.isDigit_of_mem_writeNat hc
  have hvalue := digitsValue_writeNat n
  have hexponent := Binary64.readExponent?_write hasPlus lead
  cases hcs : writeNat n with
  | nil => exact absurd hcs (Literal.writeNat_ne_nil n)
  | cons first rest =>
      rw [hcs] at hdigits hvalue
      obtain ⟨hfirst, hrest⟩ := List.forall_mem_cons.1 hdigits
      unfold scientific
      cases rest with
      | nil =>
          refine ⟨⟨digitsValue [first], lead⟩, ?_, ?_⟩
          · exact Binary64.readDecimal?_unpointed [first] _ (by simp) (by simpa using hfirst)
              hexponent (by simp) negative
          · rw [Decimal.val, hvalue]
            simp
      | cons second more =>
          refine ⟨⟨digitsValue ([first] ++ second :: more), lead - (second :: more).length⟩, ?_, ?_⟩
          · have hread := Binary64.readDecimal?_pointed [first] _ _ (by simp)
              (by simpa using hfirst) hrest hexponent negative
            simpa using hread
          · rw [Decimal.val, List.singleton_append, hvalue]
            congr 2
            simp only [List.length_cons]
            push_cast
            omega

/-! ## Numbers are read back -/

/-- The text of a magnitude starts with a digit. -/
theorem exists_digit_of_plain {digits : List Char} (hdigits : ∀ c ∈ digits, c.isDigit = true)
    (hne : digits ≠ []) (lead : Int) :
    ∃ c rest, plain digits lead = c :: rest ∧ c.isDigit = true := by
  obtain ⟨whole, fraction, htext, hwhole, hall, -⟩ := isPointed_plain hdigits hne lead
  cases whole with
  | nil => exact absurd rfl hwhole
  | cons c rest => exact ⟨c, _, htext, hall c List.mem_cons_self⟩

theorem exists_digit_of_writeFinite (l : Layout) (mantissa : Nat) (exponent : Int) :
    ∃ c rest, l.writeFinite mantissa exponent = c :: rest ∧ c.isDigit = true := by
  unfold writeFinite
  split
  · exact ⟨'0', _, rfl, rfl⟩
  · have hdigits : ∀ c ∈ writeNat (shortestDecimal l.tie mantissa exponent).digits,
        c.isDigit = true := fun c hc => Literal.isDigit_of_mem_writeNat hc
    have hne := Literal.writeNat_ne_nil (shortestDecimal l.tie mantissa exponent).digits
    dsimp only
    split
    · exact exists_digit_of_plain hdigits hne _
    · cases hcs : writeNat (shortestDecimal l.tie mantissa exponent).digits with
      | nil => exact absurd hcs hne
      | cons c rest => exact ⟨c, _, rfl, hdigits c (by simp [hcs])⟩

/-- The text of a magnitude is read as the number that has it. -/
theorem readDecimal?_writeFinite (l : Layout) {mantissa : Nat} {exponent : Int}
    (h : Binary64.IsCanonical mantissa exponent) (negative : Bool) :
    Binary64.readDecimal? negative (l.writeFinite mantissa exponent) =
      some (.finite negative mantissa exponent h) := by
  unfold writeFinite
  by_cases hzero : mantissa = 0
  · subst hzero
    have hleast : exponent = Binary64.minExponent := by
      rcases h with ⟨-, -, -, hfull | hleast⟩
      · omega
      · exact hleast
    subst hleast
    rfl
  · have hpos : 0 < mantissa := Nat.pos_of_ne_zero hzero
    rw [if_neg hzero]
    have hrounds := roundsTo_shortestDecimal hpos l.tie exponent
    generalize shortestDecimal l.tie mantissa exponent = d at hrounds ⊢
    have hplace : d.exponent + (writeNat d.digits).length - 1 + 1 - (writeNat d.digits).length =
        d.exponent := by omega
    dsimp only
    split
    · obtain ⟨read, hread, hval⟩ := exists_read_plain d.digits
        (d.exponent + (writeNat d.digits).length - 1) negative
      rw [hplace, ← Decimal.val] at hval
      rw [hread, Binary64.ofDecimal_of_roundsTo h hpos (hval ▸ hrounds)]
    · obtain ⟨read, hread, hval⟩ := exists_read_scientific l.hasPlus d.digits
        (d.exponent + (writeNat d.digits).length - 1) negative
      rw [hplace, ← Decimal.val] at hval
      rw [hread, Binary64.ofDecimal_of_roundsTo h hpos (hval ▸ hrounds)]

theorem splitSign_digit {c : Char} (hc : c.isDigit = true) (rest : List Char) :
    splitSign (c :: rest) = (false, c :: rest) := by
  unfold splitSign
  split
  · next heq => simp [(List.cons.inj heq).1] at hc
  · next heq => simp [(List.cons.inj heq).1] at hc
  · rfl

theorem toLower_digit {c : Char} (hc : c.isDigit = true) : c.toLower = c := by
  unfold Char.toLower
  simp only [Char.isDigit, Bool.and_eq_true, decide_eq_true_eq] at hc
  rw [dif_neg]
  rintro ⟨h, -⟩
  exact absurd (UInt32.le_trans h hc.2) (by decide)

/-- The sign of a number is in front of its magnitude. -/
theorem splitSign_write (l : Layout) (negative : Bool) {mantissa : Nat} {exponent : Int}
    (h : Binary64.IsCanonical mantissa exponent) :
    splitSign (l.write (.finite negative mantissa exponent h)) =
      (negative, l.writeFinite mantissa exponent) := by
  obtain ⟨c, rest, htext, hc⟩ := exists_digit_of_writeFinite l mantissa exponent
  rw [write, htext]
  cases negative with
  | true => rfl
  | false => exact splitSign_digit hc rest

/-- A finite number is read back from its text, whatever the choices of the format. -/
theorem parse?_write (l : Layout) (negative : Bool) {mantissa : Nat} {exponent : Int}
    (h : Binary64.IsCanonical mantissa exponent) :
    Binary64.parse? (l.write (.finite negative mantissa exponent h)) =
      some (.finite negative mantissa exponent h) := by
  obtain ⟨c, rest, htext, hc⟩ := exists_digit_of_writeFinite l mantissa exponent
  have hname : ∀ (letter : Char) (letters : List Char), letter.isDigit = false →
      String.ofList ((l.writeFinite mantissa exponent).map Char.toLower) ≠
        String.ofList (letter :: letters) := by
    intro letter letters hletter heq
    rw [String.ofList_inj, htext, List.map_cons, List.cons.injEq, toLower_digit hc] at heq
    rw [← heq.1, hc] at hletter
    cases hletter
  rw [Binary64.parse?, splitSign_write]
  dsimp only
  split
  · next heq => exact absurd heq (hname 'i' ['n', 'f'] rfl)
  · next heq => exact absurd heq (hname 'i' ['n', 'f', 'i', 'n', 'i', 't', 'y'] rfl)
  · next heq => exact absurd heq (hname 'n' ['a', 'n'] rfl)
  · exact readDecimal?_writeFinite l h negative

end Layout

/-- So the literal of every number is read back. -/
theorem Binary64.readsBack (x : Binary64) : x.ReadsBack := by
  cases x with
  | nan => trivial
  | infinite negative => trivial
  | finite negative mantissa exponent h => exact Layout.parse?_write _ negative h

end DesiredState
