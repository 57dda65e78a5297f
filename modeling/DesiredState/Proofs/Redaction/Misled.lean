import DesiredState.Proofs.Redaction.Literals

/-!
# Texts that mislead the search

The redacted copy of a text shows where the search found matches.  A match that is
opened at a quote behind the flag puts a hash behind that quote when it is completed,
and leaves the text when it is not.  A match inside a literal keeps the flag in the
copy.

## Main results

* `redact_flag_ne` — the copies of two texts differ, if only one of them completes a
  match that is opened at the same place.
* `passwordFlag_infix_redact` — a match of the first pass leaves the flag.
* `exists_redact_literal` — a literal without a marker keeps its first character.
-/

namespace DesiredState

namespace Redaction

open SingleQuoted (escape)

/-! ## What the copy shows -/

/-- At a quote the second pass either replaces, or keeps the quote. -/
theorem redactMarked_quote (rest : List Char) :
    (∃ more, redactMarked ('\'' :: rest) = '\'' :: '#' :: more) ∨
      (restLength? rest = none ∧ redactMarked ('\'' :: rest) = '\'' :: redactMarked rest) := by
  rw [redactMarked_eq, replaceFrom]
  cases hmatch : markedMatch? ('\'' :: rest) with
  | some found =>
      obtain ⟨length, text⟩ := found
      obtain ⟨n, -, heq⟩ := Option.map_eq_some_iff.1 hmatch
      obtain ⟨-, rfl⟩ := Prod.mk.inj heq
      exact .inl ⟨_, rfl⟩
  | none =>
      rw [markedMatch?, sensitiveLength?, Option.map_eq_none_iff, Option.map_eq_none_iff] at hmatch
      exact .inr ⟨hmatch, rfl⟩

/-- Where no match ends behind it, the second pass keeps a quote. -/
theorem redactMarked_quote_of_none {rest : List Char} (h : restLength? rest = none) :
    redactMarked ('\'' :: rest) = '\'' :: redactMarked rest := by
  have hmatch : markedMatch? ('\'' :: rest) = none := by
    rw [markedMatch?, sensitiveLength?, h]
    rfl
  rw [redactMarked_eq, replaceFrom, hmatch]
  rfl

theorem redactMarked_cons_of_ne {c : Char} (hc : c ≠ '\'') (rest : List Char) :
    redactMarked (c :: rest) = c :: redactMarked rest := by
  have happend : redactMarked ([c] ++ rest) = [c] ++ redactMarked rest :=
    redactMarked_append_of_not_mem (by simpa using Ne.symm hc) rest
  exact happend

/-- A match that is opened behind the flag and completed shows in the copy. -/
theorem redact_flag_of_isSome {rest : List Char} (h : (restLength? rest).isSome = true) :
    ∃ more, redact (passwordFlag ++ '\'' :: rest) = passwordFlag ++ '\'' :: '#' :: more := by
  have hmatch : passwordMatch? (passwordFlag ++ '\'' :: rest) ≠ none := by
    rw [passwordMatch?, if_pos (by simp), List.drop_left, sensitiveLength?]
    obtain ⟨length, hlength⟩ := Option.isSome_iff_exists.1 h
    simp [hlength]
  rw [redact]
  rcases redactPasswords_cons '-' (passwordFlag.tail ++ '\'' :: rest) with
    ⟨more, -, heq⟩ | ⟨hnone, -⟩
  · rw [show passwordFlag ++ '\'' :: rest = '-' :: (passwordFlag.tail ++ '\'' :: rest) from rfl,
      heq, List.append_assoc, redactMarked_append_of_not_mem quote_not_mem_passwordFlag]
    rcases redactMarked_quote (redactedLiteral.tail ++ more) with ⟨last, hlast⟩ | ⟨-, hlast⟩
    · exact ⟨last, congrArg (passwordFlag ++ ·) hlast⟩
    · have hhash : redactMarked (redactedLiteral.tail ++ more) =
          '#' :: redactMarked (redactedLiteral.tail.tail ++ more) :=
        redactMarked_cons_of_ne (by decide) _
      rw [hhash] at hlast
      exact ⟨_, congrArg (passwordFlag ++ ·) hlast⟩
  · exact absurd hnone hmatch

/-- A match that is opened behind the flag and not completed leaves the text. -/
theorem redact_flag_of_none {c : Char} {rest : List Char} (hhyphen : c ≠ '-') (hquote : c ≠ '\'')
    (h : restLength? (c :: rest) = none) :
    ∃ more, redact (passwordFlag ++ '\'' :: c :: rest) = passwordFlag ++ '\'' :: c :: more := by
  have hnone : passwordMatch? (passwordFlag ++ '\'' :: c :: rest) = none := by
    rw [passwordMatch?, if_pos (by simp), List.drop_left, sensitiveLength?, h]
    rfl
  have hfirst : redactPasswords (passwordFlag ++ '\'' :: c :: rest) =
      passwordFlag ++ '\'' :: c :: redactPasswords rest := by
    have htail : '-' ∉ passwordFlag.tail := by decide
    rcases redactPasswords_cons '-' (passwordFlag.tail ++ '\'' :: c :: rest) with
      ⟨more, hsome, -⟩ | ⟨-, heq⟩
    · exact absurd hnone hsome
    · have hquoted : redactPasswords ('\'' :: c :: rest) = '\'' :: redactPasswords (c :: rest) :=
        redactPasswords_cons_of_ne (by decide) _
      rw [redactPasswords_append_of_not_mem htail, hquoted,
        redactPasswords_cons_of_ne hhyphen] at heq
      exact heq
  have hclosed : restLength? (c :: redactPasswords rest) = none := by
    rw [← redactPasswords_cons_of_ne hhyphen]
    exact restLength?_redactPasswords h
  rw [redact, hfirst, redactMarked_append_of_not_mem quote_not_mem_passwordFlag,
    redactMarked_quote_of_none hclosed, redactMarked_cons_of_ne hquote]
  exact ⟨_, rfl⟩

/-- So the copies of two texts differ, if only one of them completes a match that is
opened at the same place. -/
theorem redact_flag_ne {c : Char} (hhyphen : c ≠ '-') (hquote : c ≠ '\'') (hhash : c ≠ '#')
    {one other : List Char} (honeOpen : restLength? ('\'' :: c :: one) = none)
    (hotherOpen : restLength? ('\'' :: c :: other) = none)
    (hone : (restLength? (c :: one)).isSome = true) (hother : restLength? (c :: other) = none)
    (front : List Char) :
    redact (front ++ (passwordFlag ++ '\'' :: c :: one)) ≠
      redact (front ++ (passwordFlag ++ '\'' :: c :: other)) := by
  have hcalm : ∀ rest, restLength? ('\'' :: rest) = none → Calm (passwordFlag ++ '\'' :: rest) := by
    intro rest hrest
    refine ⟨guards_cons (by decide) _, ?_⟩
    rw [restLength?_append_of_not_mem quote_not_mem_passwordFlag, hrest]
    rfl
  obtain ⟨more, hmore⟩ := redact_flag_of_isSome hone
  obtain ⟨less, hless⟩ := redact_flag_of_none hhyphen hquote hother
  rw [redact_append (hcalm _ honeOpen), redact_append (hcalm _ hotherOpen), hmore, hless]
  intro h
  have hback := List.append_cancel_left (List.append_cancel_left h)
  exact hhash (List.cons.inj (List.cons.inj hback).2).1.symm

/-- A match of the first pass leaves the flag in the copy. -/
theorem passwordFlag_infix_redact {cs part : List Char} (hpart : part <:+ cs)
    (h : passwordMatch? part ≠ none) : passwordFlag <:+: redact cs := by
  have hfirst : ∃ front more,
      redactPasswords cs = front ++ (passwordFlag ++ (redactedLiteral ++ more)) := by
    induction cs with
    | nil =>
        obtain rfl := List.suffix_nil.1 hpart
        exact absurd rfl h
    | cons c rest ih =>
        rcases redactPasswords_cons c rest with ⟨more, -, heq⟩ | ⟨hnone, heq⟩
        · exact ⟨[], more, by rw [heq, List.append_assoc]; rfl⟩
        · rcases List.suffix_cons_iff.1 hpart with rfl | hpart
          · exact absurd hnone h
          · obtain ⟨front, more, hrest⟩ := ih hpart
            exact ⟨c :: front, more, by rw [heq, hrest]; rfl⟩
  obtain ⟨front, more, hfirst⟩ := hfirst
  have hcalm : Calm (passwordFlag ++ (redactedLiteral ++ more)) := by
    refine ⟨guards_cons (by decide) _, ?_⟩
    rw [restLength?_append_of_not_mem quote_not_mem_passwordFlag]
    rfl
  rw [redact, hfirst, redactMarked_append hcalm,
    redactMarked_append_of_not_mem quote_not_mem_passwordFlag]
  exact ⟨_, _, List.append_assoc _ _ _⟩

/-- A secret with the flag, a quote and the marker has a match inside its literal. -/
theorem exists_passwordMatch?_of_flags {cs : List Char} (h : flags cs = true) (back : List Char) :
    ∃ part, part <:+ escape cs ++ '\'' :: back ∧ passwordMatch? part ≠ none := by
  induction cs with
  | nil => cases h
  | cons c rest ih =>
      rw [flags, Bool.or_eq_true, Bool.and_eq_true] at h
      rcases h with ⟨hflag, hmarks⟩ | hrest
      · obtain ⟨more, hmore⟩ := List.isPrefixOf_iff_prefix.1 hflag
        rw [← hmore, List.drop_left] at hmarks
        have hescape : escape openedFlag = passwordFlag ++ ['\'', '\''] := by decide
        refine ⟨_, List.suffix_refl _, ?_⟩
        obtain ⟨length, hlength⟩ :=
          Option.isSome_iff_exists.1 (restLength?_literal_isSome hmarks back)
        rw [← hmore, escape_append, hescape, List.append_assoc, List.append_assoc, passwordMatch?,
          if_pos (by simp), List.drop_left, List.cons_append, List.cons_append, List.nil_append,
          sensitiveLength?, hlength]
        simp
      · obtain ⟨part, hpart, hmatch⟩ := ih hrest
        refine ⟨part, hpart.trans ?_, hmatch⟩
        by_cases hc : c = '\''
        · subst hc
          exact ⟨['\'', '\''], rfl⟩
        · exact ⟨[c], by rw [escape_of_ne hc]; rfl⟩

/-- What was found before more text is found again. -/
theorem restLength?_isSome_append {front : List Char} (h : (restLength? front).isSome = true)
    (back : List Char) : (restLength? (front ++ back)).isSome = true := by
  fun_induction restLength? front with
  | case1 rest ih =>
      rw [Option.isSome_map] at h
      rw [List.cons_append, List.cons_append, restLength?, Option.isSome_map]
      exact ih h
  | case2 rest hnext hmarker =>
      have hstart := List.isPrefixOf_iff_prefix.1 hmarker
      have hhead : (rest ++ back).head? ≠ some '\'' := by
        obtain ⟨more, rfl⟩ := hstart
        simp [markerTail_eq]
      rw [List.cons_append, restLength?_quote hhead,
        if_pos (List.isPrefixOf_iff_prefix.2 (hstart.trans (List.prefix_append _ _)))]
      rfl
  | case3 => cases h
  | case4 c rest _ hc ih =>
      rw [Option.isSome_map] at h
      rw [List.cons_append, restLength?_of_ne hc, Option.isSome_map]
      exact ih h
  | case5 => cases h

/-! ## Literals that are kept -/

theorem exists_redactPasswords_cons (c : Char) (rest : List Char) :
    ∃ more, redactPasswords (c :: rest) = c :: more := by
  rcases redactPasswords_cons c rest with ⟨more, hmatch, heq⟩ | ⟨-, heq⟩
  · by_cases hc : c = '-'
    · subst hc
      exact ⟨_, heq⟩
    · exact ⟨_, redactPasswords_cons_of_ne hc rest⟩
  · exact ⟨_, heq⟩

theorem exists_redactMarked_cons (c : Char) (rest : List Char) :
    ∃ more, redactMarked (c :: rest) = c :: more := by
  by_cases hc : c = '\''
  · subst hc
    rcases redactMarked_quote rest with ⟨more, heq⟩ | ⟨-, heq⟩
    · exact ⟨_, heq⟩
    · exact ⟨_, heq⟩
  · exact ⟨_, redactMarked_cons_of_ne hc rest⟩

/-- A search that starts at the opening quote of a literal stops behind its closing
one. -/
theorem restLength?_escape {back : List Char} (h : restLength? ('\'' :: back) = none)
    (cs : List Char) : restLength? (escape cs ++ '\'' :: back) = none := by
  induction cs with
  | nil => exact h
  | cons c rest ih =>
      by_cases hc : c = '\''
      · subst hc
        rw [escape_quote, List.cons_append, List.cons_append, restLength?, ih]
        rfl
      · rw [escape_of_ne hc, List.cons_append, restLength?_of_ne hc, ih]
        rfl

/-- A literal without a marker keeps its first character, or its closing quote if it is
empty. -/
theorem exists_redact_literal {lead back : List Char} (hquote : '\'' ∉ lead) (hhyphen : '-' ∉ lead)
    (h : restLength? ('\'' :: back) = none) (cs : List Char) :
    ∃ more, redact (lead ++ '\'' :: (escape cs ++ '\'' :: back)) =
      lead ++ '\'' :: cs.headD '\'' :: more := by
  have hhead : ∃ rest, escape cs ++ '\'' :: back = cs.headD '\'' :: rest := by
    cases cs with
    | nil => exact ⟨back, rfl⟩
    | cons c rest =>
        by_cases hc : c = '\''
        · subst hc
          exact ⟨_, rfl⟩
        · exact ⟨_, by rw [escape_of_ne hc]; rfl⟩
  have hclosed := restLength?_redactPasswords (restLength?_escape h cs)
  obtain ⟨rest, hrest⟩ := hhead
  obtain ⟨first, hfirst⟩ := exists_redactPasswords_cons (cs.headD '\'') rest
  obtain ⟨more, hmore⟩ := exists_redactMarked_cons (cs.headD '\'') first
  rw [hrest, hfirst] at hclosed
  refine ⟨more, ?_⟩
  rw [redact, redactPasswords_append_of_not_mem hhyphen, redactPasswords_cons_of_ne (by decide),
    hrest, hfirst, redactMarked_append_of_not_mem hquote, redactMarked_quote_of_none hclosed, hmore]

end Redaction

end DesiredState
