import DesiredState.Proofs.Json.Syntax
import DesiredState.Proofs.Text.Runs

/-!
# The spelling of JSON

A text is JSON if it is spelled by the tokens of a syntax tree, with blanks between them.
A token is a mark, a string in double quotes, one of three words, or a number.  The
reader takes exactly these texts, each with the value of its tree.

That a text is read as it is spelled goes by induction on the spelling, with any text
behind a string, and with a text behind a word or a number that does not go on with one
of their characters.  That nothing else is read follows the steps of the reader.

## Main definitions

* `StringPiece.Spelled`, `Json.NumberParts.Spelled`, `JsonToken.WordSpelled` — the texts
  of the parts of tokens.
* `JsonToken.Spelled` — the texts of tokens.
* `Json.IsScalar` — null, truth values and numbers.
* `Json.Spelled` — the texts of a value.

## Main results

* `StringPiece.readPieces?_eq_some_iff`, `Json.splitNumber?_eq_some_iff`,
  `JsonToken.scan?_eq_some_iff` — strings, numbers and tokens are read exactly as they are
  spelled.
* `Json.read?_eq_some_iff` — a text is read exactly as the values that it spells.
-/

namespace DesiredState

/-! ## Strings -/

namespace StringPiece

/-- Whether a piece of a string has this text: a character that stands for itself, a
letter behind a backslash, or a 16-bit unit in four hexadecimal digits. -/
inductive Spelled : StringPiece → List Char → Prop
  | char {c : Char} (hcontrol : 0x20 ≤ c.toNat) (hquote : c ≠ '"') (hbackslash : c ≠ '\\') :
      Spelled (.char c) [c]
  | escape {letter c : Char} (h : escapedChar? letter = some c) :
      Spelled (.char c) ['\\', letter]
  | unit {a b c d : Char} {n : Nat} (h : digitsValue? 16 [a, b, c, d] = some n) :
      Spelled (.unit n) ['\\', 'u', a, b, c, d]

variable {pieces : List StringPiece} {cs rest : List Char}

/-- The pieces of a string are read behind each other, whatever follows the string. -/
theorem readPieces?_of_spelled {texts : List (List Char)}
    (h : List.Forall₂ Spelled pieces texts) :
    readPieces? (texts.flatten ++ '"' :: rest) = some (pieces, rest) := by
  induction h with
  | nil => exact readPieces?.eq_2 rest
  | @cons piece text pieces texts hfirst _ ih =>
      rw [List.flatten_cons, List.append_assoc]
      cases hfirst with
      | @char c hcontrol hquote hbackslash =>
          have hplain : ¬ (c.toNat < 0x20 ∨ c = '\\') := by
            rintro (h | h)
            · omega
            · exact hbackslash h
          rw [List.singleton_append, readPieces?.eq_5 c _ hquote
            (fun _ _ _ _ _ hc => absurd hc hbackslash) (fun _ _ hc => absurd hc hbackslash),
            if_neg hplain, ih]
          rfl
      | @escape letter c h =>
          have hunit : letter ≠ 'u' := by
            rintro rfl
            cases h
          change readPieces? ('\\' :: letter :: (texts.flatten ++ '"' :: rest)) = _
          rw [readPieces?.eq_4 letter _ (fun _ _ _ _ _ hletter => absurd hletter hunit), h, ih]
          rfl
      | @unit a b c d n h =>
          change readPieces? ('\\' :: 'u' :: a :: b :: c :: d :: (texts.flatten ++ '"' :: rest)) = _
          rw [readPieces?.eq_3, h, ih]
          rfl

/-- One more piece in front of what was read. -/
theorem spelled_cons {piece : StringPiece} {text more : List Char} (hpiece : Spelled piece text)
    (ih : ∀ {pieces}, readPieces? more = some (pieces, rest) →
      ∃ texts, List.Forall₂ Spelled pieces texts ∧ more = texts.flatten ++ '"' :: rest)
    (h : (readPieces? more).map (fun (pieces, rest) => (piece :: pieces, rest)) =
      some (pieces, rest)) :
    ∃ texts, List.Forall₂ Spelled pieces texts ∧ text ++ more = texts.flatten ++ '"' :: rest := by
  obtain ⟨⟨others, behind⟩, hothers, heq⟩ := Option.map_eq_some_iff.1 h
  obtain ⟨rfl, rfl⟩ := Prod.mk.inj heq
  obtain ⟨texts, htexts, rfl⟩ := ih hothers
  exact ⟨text :: texts, .cons hpiece htexts, (List.append_assoc ..).symm⟩

/-- What is read as the rest of a string is the text of its pieces and a quote. -/
theorem spelled_of_readPieces? (h : readPieces? cs = some (pieces, rest)) :
    ∃ texts, List.Forall₂ Spelled pieces texts ∧ cs = texts.flatten ++ '"' :: rest := by
  induction cs using readPieces?.induct generalizing pieces with
  | case1 => cases h
  | case2 more =>
      rw [readPieces?.eq_2] at h
      obtain ⟨rfl, rfl⟩ := Prod.mk.inj (Option.some.inj h)
      exact ⟨[], .nil, rfl⟩
  | case3 a b c d more n hunit ih =>
      rw [readPieces?.eq_3, hunit] at h
      exact spelled_cons (.unit hunit) ih h
  | case4 a b c d more hunit =>
      rw [readPieces?.eq_3, hunit] at h
      cases h
  | case5 letter more hplain c hletter ih =>
      rw [readPieces?.eq_4 letter more hplain, hletter] at h
      exact spelled_cons (.escape hletter) ih h
  | case6 letter more hplain hletter =>
      rw [readPieces?.eq_4 letter more hplain, hletter] at h
      cases h
  | case7 c more hquote hunit hletter hcontrol =>
      rw [readPieces?.eq_5 c more hquote hunit hletter, if_pos hcontrol] at h
      cases h
  | case8 c more hquote hunit hletter hcontrol ih =>
      rw [readPieces?.eq_5 c more hquote hunit hletter, if_neg hcontrol] at h
      obtain ⟨hgreat, hbackslash⟩ := not_or.1 hcontrol
      exact spelled_cons (.char (Nat.le_of_not_lt hgreat) hquote hbackslash) ih h

/-- The rest of a string is read exactly as it is spelled. -/
theorem readPieces?_eq_some_iff : readPieces? cs = some (pieces, rest) ↔
    ∃ texts, List.Forall₂ Spelled pieces texts ∧ cs = texts.flatten ++ '"' :: rest := by
  constructor
  · exact spelled_of_readPieces?
  · rintro ⟨texts, htexts, rfl⟩
    exact readPieces?_of_spelled htexts

end StringPiece

/-! ## Numbers -/

namespace Json

/-- One decimal digit or more. -/
def IsDigits (cs : List Char) : Prop := cs ≠ [] ∧ ∀ c ∈ cs, c.isDigit = true

namespace NumberParts

/-- The text of a sign. -/
def signText (isNegative : Bool) : List Char := if isNegative then ['-'] else []

/-- The text of a fraction, if there is one. -/
def fractionText : Option (List Char) → List Char
  | none => []
  | some digits => '.' :: digits

/-- Whether an exponent, if there is one, has this text.  A plus sign may be left out. -/
inductive ExponentSpelled : Option (Bool × List Char) → List Char → Prop
  | none : ExponentSpelled none []
  | unsigned {mark : Char} {digits : List Char} (hmark : mark = 'e' ∨ mark = 'E')
      (hdigits : IsDigits digits) : ExponentSpelled (some (false, digits)) (mark :: digits)
  | plus {mark : Char} {digits : List Char} (hmark : mark = 'e' ∨ mark = 'E')
      (hdigits : IsDigits digits) : ExponentSpelled (some (false, digits)) (mark :: '+' :: digits)
  | minus {mark : Char} {digits : List Char} (hmark : mark = 'e' ∨ mark = 'E')
      (hdigits : IsDigits digits) : ExponentSpelled (some (true, digits)) (mark :: '-' :: digits)

/-- Whether a number of these parts has this text: no zero in front of the whole part, and
at least one digit in each part that is there. -/
structure Spelled (p : NumberParts) (cs : List Char) : Prop where
  whole : IsDigits p.whole
  whole_zero : p.whole.head? = some '0' → p.whole = ['0']
  fraction : ∀ digits, p.fraction = some digits → IsDigits digits
  text : ∃ exponent, ExponentSpelled p.exponent exponent ∧
    cs = signText p.isNegative ++ (p.whole ++ (fractionText p.fraction ++ exponent))

theorem isDigits_iff {cs : List Char} :
    IsDigits cs ↔ (cs.isEmpty || !cs.all Char.isDigit) = false := by
  rw [IsDigits, Bool.or_eq_false_iff, Bool.not_eq_false', List.all_eq_true, ne_eq,
    ← List.isEmpty_iff, Bool.eq_false_iff]

theorem splitSign_of_isDigits {cs : List Char} (h : IsDigits cs) : splitSign cs = (false, cs) := by
  rw [splitSign.eq_def]
  split
  · next rest => exact absurd (h.2 '-' List.mem_cons_self) (by decide)
  · next rest => exact absurd (h.2 '+' List.mem_cons_self) (by decide)
  · rfl

theorem splitExponent?_of_spelled {exponent : Option (Bool × List Char)} {cs : List Char}
    (h : ExponentSpelled exponent cs) : splitExponent? cs = some exponent := by
  cases h with
  | none => rfl
  | @unsigned mark digits hmark hdigits =>
      rw [splitExponent?, if_pos hmark, splitSign_of_isDigits hdigits]
      simp [isDigits_iff.1 hdigits]
  | @plus mark digits hmark hdigits =>
      rw [splitExponent?, if_pos hmark, splitSign]
      simp [isDigits_iff.1 hdigits]
  | @minus mark digits hmark hdigits =>
      rw [splitExponent?, if_pos hmark, splitSign]
      simp [isDigits_iff.1 hdigits]

theorem spelled_of_splitExponent? {exponent : Option (Bool × List Char)} {cs : List Char}
    (h : splitExponent? cs = some exponent) : ExponentSpelled exponent cs := by
  cases cs with
  | nil =>
      obtain rfl := Option.some.inj h
      exact .none
  | cons mark rest =>
      rw [splitExponent?] at h
      split at h
      · next hmark =>
        dsimp only at h
        split at h
        · cases h
        · next hdigits =>
          obtain rfl := Option.some.inj h
          have hall := isDigits_iff.2 (Bool.eq_false_iff.2 hdigits)
          rw [splitSign.eq_def] at hall ⊢
          split at hall
          · exact .minus hmark hall
          · exact .plus hmark hall
          · exact .unsigned hmark hall
      · cases h

/-- An exponent starts with its mark. -/
theorem ExponentSpelled.head {exponent : Option (Bool × List Char)} {cs : List Char}
    (h : ExponentSpelled exponent cs) {c : Char} (hc : cs.head? = some c) : c = 'e' ∨ c = 'E' := by
  cases h with
  | none => cases hc
  | unsigned hmark _ => exact Option.some.inj hc ▸ hmark
  | plus hmark _ => exact Option.some.inj hc ▸ hmark
  | minus hmark _ => exact Option.some.inj hc ▸ hmark

theorem ExponentSpelled.stops {exponent : Option (Bool × List Char)} {cs : List Char}
    (h : ExponentSpelled exponent cs) : Stops Char.isDigit cs := by
  intro c hc
  rcases h.head hc with rfl | rfl <;> decide

/-- A sign is told apart from the first digit. -/
theorem head?_signText {isNegative : Bool} {cs back : List Char} (h : IsDigits cs) :
    ((signText isNegative ++ (cs ++ back)).head? == some '-') = isNegative := by
  cases isNegative with
  | true => rfl
  | false =>
      obtain ⟨hne, hall⟩ := h
      cases cs with
      | nil => exact absurd rfl hne
      | cons c rest =>
          have hc : c ≠ '-' := by
            rintro rfl
            exact absurd (hall '-' List.mem_cons_self) (by decide)
          simpa [signText] using hc

theorem splitNumber?_of_spelled {p : NumberParts} {cs : List Char} (h : p.Spelled cs) :
    splitNumber? cs = some p := by
  obtain ⟨⟨hne, hwhole⟩, hzero, hfraction, exponent, hexponent, rfl⟩ := h
  obtain ⟨isNegative, whole, fraction, exponent?⟩ := p
  dsimp only at hne hwhole hzero hfraction hexponent ⊢
  have hstops : Stops Char.isDigit (fractionText fraction ++ exponent) := by
    cases fraction with
    | none => exact hexponent.stops
    | some digits =>
        intro c hc
        obtain rfl := Option.some.inj hc
        decide
  have hbody : (if isNegative then (signText isNegative ++ (whole ++ (fractionText fraction ++
      exponent))).drop 1 else signText isNegative ++ (whole ++ (fractionText fraction ++
        exponent))) = whole ++ (fractionText fraction ++ exponent) := by
    cases isNegative <;> rfl
  have hleading : (whole.isEmpty || (whole.head? == some '0' && whole.length != 1)) = false := by
    have hempty : whole.isEmpty = false := by simpa using hne
    rw [hempty, Bool.false_or, Bool.and_eq_false_imp]
    intro hhead
    rw [hzero (beq_iff_eq.1 hhead)]
    rfl
  unfold splitNumber?
  dsimp only
  rw [head?_signText ⟨hne, hwhole⟩, hbody, hstops.takeWhile hwhole, hstops.dropWhile hwhole,
    if_neg (Bool.eq_false_iff.1 hleading)]
  cases fraction with
  | some digits =>
      obtain ⟨hdigits, hall⟩ := hfraction digits rfl
      have hmore : digits.isEmpty = false := by simpa using hdigits
      simp only [fractionText, List.cons_append, hexponent.stops.takeWhile hall,
        hexponent.stops.dropWhile hall, hmore, splitExponent?_of_spelled hexponent]
      rfl
  | none =>
      rw [fractionText, List.nil_append]
      split
      · next more =>
        rcases hexponent.head (c := '.') rfl with hdot | hdot <;> exact absurd hdot (by decide)
      · rw [splitExponent?_of_spelled hexponent]
        rfl

/-- A sign, if there is one, and the text behind it. -/
theorem exists_signText (cs : List Char) : ∃ isNegative body,
    (cs.head? == some '-') = isNegative ∧ (if isNegative then cs.drop 1 else cs) = body ∧
      cs = signText isNegative ++ body := by
  refine ⟨_, _, rfl, rfl, ?_⟩
  cases cs with
  | nil => rfl
  | cons c rest =>
      by_cases hc : c = '-'
      · simp [hc, signText]
      · simp [hc, signText]

/-- No zero stands in front of a whole part that is taken. -/
theorem eq_zero_of_head? {whole : List Char}
    (h : (whole.head? == some '0' && whole.length != 1) = false)
    (hhead : whole.head? = some '0') : whole = ['0'] := by
  have hlength : whole.length = 1 := by simpa [hhead] using h
  obtain ⟨c, rfl⟩ := List.length_eq_one_iff.1 hlength
  rw [Option.some.inj hhead]

theorem spelled_of_splitNumber? {p : NumberParts} {cs : List Char}
    (h : splitNumber? cs = some p) : p.Spelled cs := by
  unfold splitNumber? at h
  dsimp only at h
  obtain ⟨isNegative, body, hsign, hbody, rfl⟩ := exists_signText cs
  rw [hsign, hbody] at h
  obtain ⟨whole, behind, htake, hdrop, rfl, hwhole⟩ := exists_run Char.isDigit body
  rw [htake, hdrop] at h
  split at h
  · cases h
  · next hleading =>
    obtain ⟨hempty, hzero⟩ := Bool.or_eq_false_iff.1 (Bool.eq_false_iff.2 hleading)
    have hdigits : IsDigits whole := ⟨by simpa using hempty, hwhole⟩
    split at h
    · next more =>
      obtain ⟨fraction, behind, htake, hdrop, rfl, hfraction⟩ := exists_run Char.isDigit more
      rw [htake, hdrop] at h
      split at h
      · cases h
      · next hsome =>
        obtain ⟨exponent, hexponent, rfl⟩ := Option.map_eq_some_iff.1 h
        have hne : fraction ≠ [] := by simpa using hsome
        refine ⟨hdigits, eq_zero_of_head? hzero, ?_, behind,
          spelled_of_splitExponent? hexponent, rfl⟩
        intro digits hdigits
        obtain rfl := Option.some.inj hdigits
        exact ⟨hne, hfraction⟩
    · obtain ⟨exponent, hexponent, rfl⟩ := Option.map_eq_some_iff.1 h
      refine ⟨hdigits, eq_zero_of_head? hzero, ?_, behind,
        spelled_of_splitExponent? hexponent, rfl⟩
      intro digits hdigits
      cases hdigits

/-- A number starts with its sign or a digit. -/
theorem Spelled.head {p : NumberParts} {cs : List Char} (h : p.Spelled cs) :
    ∃ c rest, cs = c :: rest ∧ (c = '-' ∨ c.isDigit = true) := by
  obtain ⟨⟨hne, hwhole⟩, -, -, exponent, -, rfl⟩ := h
  obtain ⟨c, rest, hcons⟩ := List.exists_cons_of_ne_nil hne
  rw [hcons] at hwhole ⊢
  cases p.isNegative with
  | true => exact ⟨'-', _, rfl, .inl rfl⟩
  | false => exact ⟨c, _, rfl, .inr (hwhole c List.mem_cons_self)⟩

end NumberParts

/-- A number is split exactly into the parts that spell it. -/
theorem splitNumber?_eq_some_iff {p : NumberParts} {cs : List Char} :
    splitNumber? cs = some p ↔ p.Spelled cs :=
  ⟨NumberParts.spelled_of_splitNumber?, NumberParts.splitNumber?_of_spelled⟩

end Json

/-! ## Tokens -/

namespace JsonToken

/-- Whether a word or a number has this text. -/
inductive WordSpelled : JsonToken → List Char → Prop
  | nullWord : WordSpelled (.scalar (some .null)) ['n', 'u', 'l', 'l']
  | trueWord : WordSpelled (.scalar (some (.bool true))) ['t', 'r', 'u', 'e']
  | falseWord : WordSpelled (.scalar (some (.bool false))) ['f', 'a', 'l', 's', 'e']
  | number {p : Json.NumberParts} {cs : List Char} (h : p.Spelled cs) :
      WordSpelled (.scalar p.value?) cs

theorem ofWord?_eq_some_iff {word : List Char} {token : JsonToken} :
    ofWord? word = some token ↔ WordSpelled token word := by
  rw [ofWord?]
  constructor
  · intro h
    split at h
    · next hnull =>
      obtain rfl := Option.some.inj h
      obtain rfl := String.ofList_injective hnull
      exact .nullWord
    · next htrue =>
      obtain rfl := Option.some.inj h
      obtain rfl := String.ofList_injective htrue
      exact .trueWord
    · next hfalse =>
      obtain rfl := Option.some.inj h
      obtain rfl := String.ofList_injective hfalse
      exact .falseWord
    · obtain ⟨value, hvalue, rfl⟩ := Option.map_eq_some_iff.1 h
      obtain ⟨p, hp, rfl⟩ := Option.map_eq_some_iff.1 hvalue
      exact .number (Json.splitNumber?_eq_some_iff.1 hp)
  · intro h
    cases h with
    | nullWord => rfl
    | trueWord => rfl
    | falseWord => rfl
    | @number p cs h =>
        obtain ⟨c, rest, rfl, hc⟩ := h.head
        have hletter : c ≠ 'n' ∧ c ≠ 't' ∧ c ≠ 'f' := by
          refine ⟨?_, ?_, ?_⟩ <;> (rintro rfl; revert hc; decide)
        split
        · next hnull => exact absurd (List.cons.inj (String.ofList_injective hnull)).1 hletter.1
        · next htrue => exact absurd (List.cons.inj (String.ofList_injective htrue)).1 hletter.2.1
        · next hfalse =>
          exact absurd (List.cons.inj (String.ofList_injective hfalse)).1 hletter.2.2
        · rw [Json.readNumber?, Json.splitNumber?_eq_some_iff.2 h]
          rfl

theorem isWordChar_of_isDigit {c : Char} (h : c.isDigit = true) : isWordChar c = true := by
  simp [isWordChar, Char.isAlphanum, h]

theorem isWordChar_of_exponent {exponent : Option (Bool × List Char)} {cs : List Char}
    (h : Json.NumberParts.ExponentSpelled exponent cs) : ∀ c ∈ cs, isWordChar c = true := by
  have hmark : ∀ {c : Char}, c = 'e' ∨ c = 'E' → isWordChar c = true := by
    rintro c (rfl | rfl) <;> decide
  have hall : ∀ {digits : List Char}, Json.IsDigits digits → ∀ c ∈ digits, isWordChar c = true :=
    fun h c hc => isWordChar_of_isDigit (h.2 c hc)
  have hplus : isWordChar '+' = true := by decide
  have hminus : isWordChar '-' = true := by decide
  cases h with
  | none => exact fun _ hc => absurd hc List.not_mem_nil
  | unsigned hm hd => exact List.forall_mem_cons.2 ⟨hmark hm, hall hd⟩
  | plus hm hd => exact List.forall_mem_cons.2 ⟨hmark hm, List.forall_mem_cons.2 ⟨hplus, hall hd⟩⟩
  | minus hm hd => exact List.forall_mem_cons.2 ⟨hmark hm, List.forall_mem_cons.2 ⟨hminus, hall hd⟩⟩

theorem isWordChar_of_spelled {p : Json.NumberParts} {cs : List Char} (h : p.Spelled cs) :
    ∀ c ∈ cs, isWordChar c = true := by
  obtain ⟨⟨-, hwhole⟩, -, hfraction, exponent, hexponent, rfl⟩ := h
  have hsign : ∀ c ∈ Json.NumberParts.signText p.isNegative, isWordChar c = true := by
    cases p.isNegative with
    | true => exact List.all_eq_true.1 (by decide)
    | false => exact List.all_eq_true.1 (by decide)
  have hpoint : ∀ c ∈ Json.NumberParts.fractionText p.fraction, isWordChar c = true := by
    cases hp : p.fraction with
    | none => exact fun _ hc => absurd hc List.not_mem_nil
    | some digits =>
        have hall := (hfraction digits hp).2
        exact List.forall_mem_cons.2 ⟨by decide, fun c hc => isWordChar_of_isDigit (hall c hc)⟩
  simp only [List.forall_mem_append]
  exact ⟨hsign, fun c hc => isWordChar_of_isDigit (hwhole c hc), hpoint,
    isWordChar_of_exponent hexponent⟩

/-- A word is not empty, and all of its characters can belong to one. -/
theorem WordSpelled.chars {token : JsonToken} {word : List Char} (h : WordSpelled token word) :
    word ≠ [] ∧ ∀ c ∈ word, isWordChar c = true := by
  cases h with
  | nullWord => exact ⟨List.cons_ne_nil _ _, List.all_eq_true.1 (by decide)⟩
  | trueWord => exact ⟨List.cons_ne_nil _ _, List.all_eq_true.1 (by decide)⟩
  | falseWord => exact ⟨List.cons_ne_nil _ _, List.all_eq_true.1 (by decide)⟩
  | number h =>
      obtain ⟨c, rest, hcons, -⟩ := h.head
      exact ⟨hcons ▸ List.cons_ne_nil c rest, isWordChar_of_spelled h⟩

/-- Whether a text is spelled by these tokens, with blanks between them.  A word or a
number ends where no character that can belong to one follows. -/
inductive Spelled : List JsonToken → List Char → Prop
  | nil : Spelled [] []
  | space {c : Char} {tokens : List JsonToken} {cs : List Char} (hc : isSpace c = true)
      (h : Spelled tokens cs) : Spelled tokens (c :: cs)
  | mark {c : Char} {token : JsonToken} {tokens : List JsonToken} {cs : List Char}
      (hc : ofChar? c = some token) (h : Spelled tokens cs) : Spelled (token :: tokens) (c :: cs)
  | string {pieces : List StringPiece} {texts : List (List Char)} {tokens : List JsonToken}
      {cs : List Char} (hpieces : List.Forall₂ StringPiece.Spelled pieces texts)
      (h : Spelled tokens cs) :
      Spelled (.string ((joinPieces? pieces).map String.ofList) :: tokens)
        ('"' :: (texts.flatten ++ '"' :: cs))
  | word {token : JsonToken} {word : List Char} {tokens : List JsonToken} {cs : List Char}
      (hword : WordSpelled token word) (hend : Stops isWordChar cs) (h : Spelled tokens cs) :
      Spelled (token :: tokens) (word ++ cs)

theorem ofChar?_cases {c : Char} {token : JsonToken} (h : ofChar? c = some token) :
    isSpace c = false ∧ c ≠ '"' ∧ isWordChar c = false := by
  rw [ofChar?.eq_def] at h
  split at h <;> first | decide | cases h

theorem isWordChar_cases {c : Char} (h : isWordChar c = true) :
    isSpace c = false ∧ c ≠ '"' ∧ ofChar? c = none := by
  refine ⟨?_, ?_, ?_⟩
  · by_contra hspace
    simp only [isSpace, Bool.not_eq_false, Bool.or_eq_true, beq_iff_eq] at hspace
    rcases hspace with ((rfl | rfl) | rfl) | rfl <;> exact absurd h (by decide)
  · rintro rfl
    exact absurd h (by decide)
  · by_contra hmark
    obtain ⟨token, htoken⟩ := Option.ne_none_iff_exists'.1 hmark
    exact absurd h (Bool.eq_false_iff.1 (ofChar?_cases htoken).2.2)

/-- Spelled tokens are scanned, in as many steps as there are characters. -/
theorem scanFrom?_of_spelled {tokens : List JsonToken} {cs : List Char} (h : Spelled tokens cs) :
    ∀ fuel, cs.length ≤ fuel → scanFrom? fuel cs = some tokens := by
  induction h with
  | nil =>
      intro fuel _
      cases fuel <;> rfl
  | @space c tokens cs hc _ ih =>
      intro fuel hfuel
      obtain ⟨fuel, rfl⟩ := Nat.exists_eq_add_of_lt hfuel
      rw [scanFrom?, if_pos hc]
      exact ih _ (by omega)
  | @mark c token tokens cs hc _ ih =>
      intro fuel hfuel
      obtain ⟨fuel, rfl⟩ := Nat.exists_eq_add_of_lt hfuel
      obtain ⟨hspace, hquote, -⟩ := ofChar?_cases hc
      rw [scanFrom?, if_neg (Bool.eq_false_iff.1 hspace), if_neg hquote, hc]
      dsimp only
      rw [ih _ (by omega), Option.map_some]
  | @string pieces texts tokens cs hpieces _ ih =>
      intro fuel hfuel
      obtain ⟨fuel, rfl⟩ := Nat.exists_eq_add_of_lt hfuel
      have hspace : isSpace '"' = false := by decide
      simp only [List.length_cons, List.length_append] at hfuel
      rw [scanFrom?, if_neg (Bool.eq_false_iff.1 hspace), if_pos rfl,
        StringPiece.readPieces?_eq_some_iff.2 ⟨texts, hpieces, rfl⟩]
      change (scanFrom? _ cs >>= _) = _
      rw [ih _ (by simp only [List.length_cons, List.length_append]; omega)]
      rfl
  | @word token word tokens cs hword hend _ ih =>
      intro fuel hfuel
      obtain ⟨hne, hall⟩ := hword.chars
      have htake := hend.takeWhile hall
      obtain ⟨c, rest, rfl⟩ := List.exists_cons_of_ne_nil hne
      obtain ⟨hspace, hquote, hmark⟩ := isWordChar_cases (hall c List.mem_cons_self)
      rw [List.length_append, List.length_cons] at hfuel
      obtain ⟨fuel, rfl⟩ : ∃ n, fuel = n + 1 := ⟨fuel - 1, by omega⟩
      rw [List.cons_append] at htake ⊢
      rw [scanFrom?, if_neg (Bool.eq_false_iff.1 hspace), if_neg hquote, hmark]
      dsimp only
      rw [htake, ofWord?_eq_some_iff.2 hword, ← List.cons_append, List.drop_left]
      change (scanFrom? fuel cs >>= _) = _
      rw [ih fuel (by omega)]
      rfl

/-- What is scanned is spelled by the tokens. -/
theorem spelled_of_scanFrom? {fuel : Nat} {tokens : List JsonToken} {cs : List Char}
    (h : scanFrom? fuel cs = some tokens) : Spelled tokens cs := by
  induction fuel generalizing cs tokens with
  | zero =>
      cases cs with
      | nil => exact Option.some.inj h ▸ .nil
      | cons c rest => cases h
  | succ fuel ih =>
      cases cs with
      | nil => exact Option.some.inj h ▸ .nil
      | cons c rest =>
          rw [scanFrom?] at h
          split at h
          · next hspace => exact .space hspace (ih h)
          · split at h
            · next hquote =>
              obtain ⟨⟨pieces, behind⟩, hpieces, h⟩ := Option.bind_eq_some_iff.1 h
              obtain ⟨others, hothers, h⟩ := Option.bind_eq_some_iff.1 h
              obtain rfl := Option.some.inj h
              obtain ⟨texts, htexts, rfl⟩ := StringPiece.readPieces?_eq_some_iff.1 hpieces
              rw [hquote]
              exact .string htexts (ih hothers)
            · split at h
              · next token hmark =>
                obtain ⟨others, hothers, rfl⟩ := Option.map_eq_some_iff.1 h
                exact .mark hmark (ih hothers)
              · obtain ⟨token, htoken, h⟩ := Option.bind_eq_some_iff.1 h
                obtain ⟨others, hothers, h⟩ := Option.bind_eq_some_iff.1 h
                obtain rfl := Option.some.inj h
                have hword := ofWord?_eq_some_iff.1 htoken
                have hends : Stops isWordChar ((c :: rest).dropWhile isWordChar) := by
                  intro d hd
                  have hnot := List.head?_dropWhile_not isWordChar (c :: rest)
                  rw [hd] at hnot
                  exact hnot
                have hdrop : (c :: rest).drop ((c :: rest).takeWhile isWordChar).length =
                    (c :: rest).dropWhile isWordChar :=
                  (congrArg _ List.takeWhile_append_dropWhile.symm).trans List.drop_left
                rw [hdrop] at hothers
                have hspelled := Spelled.word hword hends (ih hothers)
                rwa [List.takeWhile_append_dropWhile] at hspelled

/-- A text is scanned exactly as the tokens that spell it. -/
theorem scan?_eq_some_iff {tokens : List JsonToken} {cs : List Char} :
    scan? cs = some tokens ↔ Spelled tokens cs :=
  ⟨spelled_of_scanFrom?, fun h => scanFrom?_of_spelled h _ (Nat.le_refl _)⟩

end JsonToken

/-! ## Scalars -/

/-- Whether a value is null, a truth value or a number. -/
def Json.IsScalar : Json → Prop
  | null | bool _ | int _ | float _ => True
  | _ => False

/-- The text of a number has the value of a number, if it has one. -/
theorem Json.NumberParts.isScalar_value? {p : Json.NumberParts} {value : Json}
    (h : p.value? = some value) : value.IsScalar := by
  unfold value? at h
  dsimp only at h
  by_cases hinteger : (p.fraction.isNone && p.exponent.isNone &&
      if p.isNegative then digitsValue p.whole != 0 && digitsValue p.whole ≤ 1 <<< 63
      else digitsValue p.whole ≤ maxWord) = true
  · rw [if_pos hinteger] at h
    exact Option.some.inj h ▸ trivial
  · rw [if_neg hinteger] at h
    obtain ⟨x, -, rfl⟩ := Option.map_eq_some_iff.1 h
    trivial

namespace JsonToken

/-- Whether a token that stands for a value stands for a scalar. -/
def IsPlain : JsonToken → Prop
  | scalar (some value) => value.IsScalar
  | _ => True

theorem WordSpelled.isPlain {token : JsonToken} {word : List Char} (h : WordSpelled token word) :
    token.IsPlain := by
  cases h with
  | nullWord => trivial
  | trueWord => trivial
  | falseWord => trivial
  | @number p cs h =>
      cases hvalue : p.value? with
      | none => trivial
      | some number => exact Json.NumberParts.isScalar_value? hvalue

theorem isPlain_ofChar? {c : Char} {token : JsonToken} (h : ofChar? c = some token) :
    token.IsPlain := by
  rw [ofChar?.eq_def] at h
  split at h <;> first | exact Option.some.inj h ▸ trivial | cases h

/-- The tokens of a text stand for scalars, if they stand for values. -/
theorem Spelled.isPlain {tokens : List JsonToken} {cs : List Char} (h : Spelled tokens cs) :
    ∀ token ∈ tokens, token.IsPlain := by
  induction h with
  | nil => exact fun _ htoken => absurd htoken List.not_mem_nil
  | space _ _ ih => exact ih
  | mark hc _ ih => exact List.forall_mem_cons.2 ⟨isPlain_ofChar? hc, ih⟩
  | string _ _ ih => exact List.forall_mem_cons.2 ⟨trivial, ih⟩
  | word hword _ _ ih => exact List.forall_mem_cons.2 ⟨hword.isPlain, ih⟩

end JsonToken

/-- A scalar of a member that was read is null, a truth value or a number. -/
theorem JsonSyntax.isScalar_of_member {cs : List Char}
    {members : List (Option String × JsonSyntax)} (h : JsonSyntax.read? cs = some (.object members))
    {key : Option String} {value : Json} (hmem : (key, .scalar (some value)) ∈ members) :
    value.IsScalar := by
  have hspelled := JsonToken.scan?_eq_some_iff.1 (JsonSyntax.read?_eq_some_iff.1 h)
  refine hspelled.isPlain (.scalar (some value)) ?_
  rw [JsonSyntax.tokens_object]
  refine List.mem_cons_of_mem _ (List.mem_append_left _ ?_)
  exact JsonSyntax.mem_intercalate (List.mem_map_of_mem hmem) (by simp [JsonSyntax.tokensOfMember,
    JsonSyntax.tokens])

/-! ## Values -/

namespace Json

/-- Whether a text is a text of this value: its tokens are those of a syntax tree that has
the value.  No part of a value stands in more than 127 arrays and objects. -/
def Spelled (v : Json) (cs : List Char) : Prop :=
  ∃ s : JsonSyntax, JsonToken.Spelled s.tokens cs ∧ s.toJson? jsonDepth = some v

/-- A text is read exactly as the values that it spells. -/
theorem read?_eq_some_iff {cs : List Char} {v : Json} : read? cs = some v ↔ v.Spelled cs := by
  rw [read?, Spelled]
  constructor
  · intro h
    obtain ⟨s, hs, hv⟩ := Option.bind_eq_some_iff.1 h
    exact ⟨s, JsonToken.scan?_eq_some_iff.1 (JsonSyntax.read?_eq_some_iff.1 hs), hv⟩
  · rintro ⟨s, hspelled, hv⟩
    have hs := JsonSyntax.read?_eq_some_iff.2 (JsonToken.scan?_eq_some_iff.2 hspelled)
    exact Option.bind_eq_some_iff.2 ⟨s, hs, hv⟩

end Json

end DesiredState
