import DesiredState.Proofs.Yaml.Numerals
import DesiredState.Proofs.Yaml.SecretLine
import DesiredState.Script.Statement

/-!
# Secrets that look like numbers

The tag of secrets may stand in front of a text that spells a number.  The secret is then the
text which a document writes for that number, and not the one in the document.  A number has
many spellings and one text, so only this one is kept: a trailing zero, a plus sign, or another
base than ten is lost.  All texts that spell no number are kept.

## Main results

* `Value.secretOfYaml_eq_ok` — the plaintext of a tagged value.
* `Properties.plaintext_eq_iff` — when the plaintext is the text in the document.
-/

namespace DesiredState

/-- A secret is the text behind the tag, or the text of the number behind it. -/
theorem Value.secretOfYaml_eq_ok {y : Yaml} {v : Value} (h : secretOfYaml y = .ok v) :
    ∃ plaintext, v = .secret plaintext ∧
      (y = .string plaintext ∨ y.writeNumber? = some plaintext.toList) := by
  unfold secretOfYaml at h
  split at h
  · next s =>
    cases h
    exact ⟨s, rfl, .inl rfl⟩
  · split at h
    · next cs hnumber =>
      cases h
      exact ⟨String.ofList cs, rfl, .inr (by rw [hnumber, String.toList_ofList])⟩
    · cases h

namespace Properties

variable {text plaintext : String} {y : Yaml}

/-- The plaintext is the text that spells a value exactly if this is a text, or the text is that
of the number. -/
theorem plaintext_eq_iff_of_ofPlain? (hy : Yaml.ofPlain? text = some y)
    (hplaintext : y = .string plaintext ∨ y.writeNumber? = some plaintext.toList) :
    plaintext = text ↔ y = .string text ∨ (∃ i, InRange i ∧ text.toList = writeInt i) ∨
      ∃ x, text.toList = Yaml.floatLayout.write x := by
  have hspelled : ∀ {z : Yaml} {cs : List Char}, text.toList = cs →
      Yaml.ofPlain? (String.ofList cs) = some z → z.writeNumber? = some cs → plaintext = text := by
    intro z cs htext hz hnumber
    rw [← htext, String.ofList_toList, hy] at hz
    obtain rfl := Option.some.inj hz
    rcases hplaintext with rfl | hplaintext
    · cases hnumber
    · rw [hnumber, ← htext] at hplaintext
      exact (String.toList_injective (Option.some.inj hplaintext)).symm
  constructor
  · rintro rfl
    rcases hplaintext with h | h
    · exact .inl h
    · right
      cases y with
      | int i => exact .inl ⟨i, (Yaml.ofPlain?_cases hy).2 i rfl, (Option.some.inj h).symm⟩
      | float x => exact .inr ⟨x, (Option.some.inj h).symm⟩
      | _ => cases h
  · rintro (rfl | ⟨i, hi, htext⟩ | ⟨x, htext⟩)
    · rcases hplaintext with h | h
      · exact (Yaml.string.inj h).symm
      · cases h
    · exact hspelled htext (Yaml.ofPlain?_writeInt hi) rfl
    · exact hspelled htext (Yaml.ofPlain?_writeFloat x) rfl

/-- The plaintext of a secret, and so the password of a credential that has it, is the text in
the document if and only if this spells a text, or is the text of an integer or of a
floating-point number. -/
theorem plaintext_eq_iff {p : Properties} (h : IsPlainLine text.toList)
    (hread : Properties.read (secretLine text) = .ok p) :
    ∃ plaintext, p.entries = [("k", .secret plaintext)] ∧
      (plaintext = text ↔ Yaml.ofPlain? text = some (.string text) ∨
        (∃ i, InRange i ∧ text.toList = writeInt i) ∨
          ∃ x, text.toList = Yaml.floatLayout.write x) ∧
      ∀ property user, Credential.ofValue property
        (.map [("user", .string user), ("password", .secret plaintext)]) =
          .ok ⟨user, plaintext⟩ := by
  rw [read_secretLine h] at hread
  cases hy : Yaml.ofPlain? text with
  | none =>
      rw [hy] at hread
      cases hread
  | some y =>
      rw [hy] at hread
      dsimp only at hread
      cases hv : Value.secretOfYaml y with
      | error e =>
          rw [hv] at hread
          cases hread
      | ok v =>
          rw [hv] at hread
          cases hread
          obtain ⟨plaintext, rfl, hplaintext⟩ := Value.secretOfYaml_eq_ok hv
          refine ⟨plaintext, rfl, ?_, fun property user => rfl⟩
          rw [plaintext_eq_iff_of_ofPlain? hy hplaintext, Option.some_inj]

/-- A password with blanks, a number sign and a colon is the one in the document. -/
theorem plaintext_of_password : ∃ p plaintext, Properties.read (secretLine "p#1 :x a:b") = .ok p ∧
    p.entries = [("k", .secret plaintext)] ∧ plaintext = "p#1 :x a:b" := by
  have hline : IsPlainLine "p#1 :x a:b".toList := by decide
  have hspelled : Yaml.ofPlain? "p#1 :x a:b" = some (.string "p#1 :x a:b") := by rfl
  have hread : Properties.read (secretLine "p#1 :x a:b") =
      .ok (Fields.ofPairs [("k", .secret "p#1 :x a:b")]) := by
    rw [read_secretLine hline, hspelled]
    rfl
  obtain ⟨plaintext, hentries, hkept, -⟩ := plaintext_eq_iff hline hread
  exact ⟨_, plaintext, hread, hentries, hkept.2 (.inl hspelled)⟩

/-- A trailing zero is lost. -/
theorem not_forall_plaintext_eq : ¬ ∀ (text : String) (p : Properties), IsPlainLine text.toList →
    Properties.read (secretLine text) = .ok p → p.entries = [("k", .secret text)] := by
  intro h
  have hline : IsPlainLine "1.10".toList := by decide
  have hspelled : Yaml.ofPlain? "1.10" = some (.float (.ofDecimal false 110 (-2))) := by rfl
  have hread : Properties.read (secretLine "1.10") =
      .ok (Fields.ofPairs [("k", .secret "1.1")]) := by
    rw [read_secretLine hline, hspelled]
    rfl
  have hentries : [("k", Value.secret "1.1")] = [("k", Value.secret "1.10")] :=
    h "1.10" _ hline hread
  simp at hentries

end Properties

end DesiredState
