import DesiredState.Proofs.Redaction.Pieces
import Mathlib.Data.List.Infix

/-!
# Masked scripts

The masked text of a script is written like the script, but for its sensitive
literals: each of them is written, with its marker, as the text that stands for
redacted ones.  It knows which literals are sensitive.  The search of the redaction
does not; it finds exactly these, if no text in the script has the marker in it and no
name has a quote.

A quote starts a match only if the marker is further on.  So a literal without the
marker is left alone, and what stands in front of it, and of what was copied so far,
does not reach into it.

## Main definitions

* `Untouched` — texts in which no match starts.
* `Copied` — a calm text with its redacted copy.
* `Marked`, `Piece.Unmarked` — texts with the marker, and pieces without it.
* `Script.masked` — the script with its sensitive literals redacted.

## Main results

* `redact_eq_self` — an untouched text stays as it is.
* `untouched_write_text` — the literal of a text without the marker is untouched.
* `Piece.Unmarked.fits_copied` — a piece without the marker is copied as it is, and a
  sensitive one as the redacted literal.
* `Script.redacted_of_unmarked` — the redacted copy is the masked text.
-/

namespace DesiredState

namespace Redaction

open SingleQuoted (escape)

/-! ## Untouched texts -/

/-- A text in which no match starts: from no quote on, a search finds an end. -/
def Untouched (cs : List Char) : Prop := ∀ rest, '\'' :: rest <:+ cs → restLength? rest = none

theorem Untouched.suffix {cs part : List Char} (h : Untouched cs) (hpart : part <:+ cs) :
    Untouched part := fun rest hrest => h rest (hrest.trans hpart)

/-- No match starts in characters other than quotes in front. -/
theorem Untouched.append {lead cs : List Char} (h : Untouched cs) (hlead : '\'' ∉ lead) :
    Untouched (lead ++ cs) := by
  induction lead with
  | nil => exact h
  | cons c lead ih =>
      rw [List.mem_cons, not_or] at hlead
      intro rest hrest
      rcases List.suffix_cons_iff.1 hrest with heq | hrest
      · exact absurd (List.cons.inj heq).1 hlead.1
      · exact ih hlead.2 rest hrest

theorem untouched_of_not_mem {cs : List Char} (h : '\'' ∉ cs) : Untouched cs :=
  fun _ hrest => absurd (hrest.subset List.mem_cons_self) h

/-- Without the marker a search finds no end. -/
theorem restLength?_of_not_isInfix {cs : List Char} (h : ¬ markerTail <:+: cs) :
    restLength? cs = none := by
  fun_induction restLength? cs with
  | case1 _ ih =>
      rw [ih fun hrest => h (List.infix_cons (List.infix_cons hrest))]
      rfl
  | case2 rest _ hmarker =>
      have hprefix : markerTail <+: rest := List.isPrefixOf_iff_prefix.1 hmarker
      exact absurd (List.infix_cons hprefix.isInfix) h
  | case3 => rfl
  | case4 _ _ _ _ ih =>
      rw [ih fun hrest => h (List.infix_cons hrest)]
      rfl
  | case5 => rfl

theorem untouched_of_not_isInfix {cs : List Char} (h : ¬ markerTail <:+: cs) : Untouched cs :=
  fun _ hrest => restLength?_of_not_isInfix fun hmarker =>
    h ((List.infix_cons hmarker).trans hrest.isInfix)

theorem Untouched.sensitiveLength?_eq_none {cs : List Char} (h : Untouched cs) :
    sensitiveLength? cs = none := by
  unfold sensitiveLength?
  split
  · next rest => rw [h rest List.suffix_rfl]; rfl
  · rfl

/-- A text in which nothing is found stays as it is. -/
theorem replaceFrom_eq_self {match? : List Char → Option (Nat × List Char)} {cs : List Char}
    (h : ∀ part, part <:+ cs → match? part = none) : replaceFrom match? 0 cs = cs := by
  induction cs with
  | nil => rfl
  | cons c rest ih =>
      rw [replaceFrom, h (c :: rest) List.suffix_rfl]
      exact congrArg (c :: ·) (ih fun part hpart => h part (hpart.trans (List.suffix_cons c rest)))

/-- An untouched text stays as it is. -/
theorem redact_eq_self {cs : List Char} (h : Untouched cs) : redact cs = cs := by
  have hpasswords : redactPasswords cs = cs := by
    refine replaceFrom_eq_self fun part hpart => ?_
    rw [(h.suffix ((List.drop_suffix _ part).trans hpart)).sensitiveLength?_eq_none]
    exact ite_self _
  have hmarked : redactMarked cs = cs := by
    refine replaceFrom_eq_self fun part hpart => ?_
    rw [(h.suffix hpart).sensitiveLength?_eq_none]
    rfl
  rw [redact, hpasswords, hmarked]

/-! ## Texts without the marker -/

/-- Whether a text has the marker in it. -/
def Marked (cs : List Char) : Prop := Expr.sensitiveMarker.toList <:+: cs

instance (cs : List Char) : Decidable (Marked cs) :=
  inferInstanceAs (Decidable (_ <:+: _))

theorem marked_of_isInfix {cs : List Char} (h : markerTail <:+: cs) : Marked cs :=
  (List.suffix_cons ' ' _).isInfix.trans h

theorem marks_of_not_marked {cs : List Char} (h : ¬ Marked cs) : marks cs = false := by
  induction cs with
  | nil => rfl
  | cons c rest ih =>
      have hrest : ¬ Marked rest := fun hmarked => h (List.infix_cons hmarked)
      by_cases hc : c = '\''
      · subst hc
        exact ih hrest
      · rw [marks_of_ne hc, ← Bool.not_eq_true, List.isPrefixOf_iff_prefix]
        exact fun hprefix => h (marked_of_isInfix hprefix.isInfix)

theorem flags_of_not_marked {cs : List Char} (h : ¬ Marked cs) : flags cs = false := by
  induction cs with
  | nil => rfl
  | cons c rest ih =>
      have hbehind : marks ((c :: rest).drop openedFlag.length) = false :=
        marks_of_not_marked fun hmarked => h (hmarked.trans (List.drop_suffix _ _).isInfix)
      rw [flags, hbehind, ih fun hmarked => h (List.infix_cons hmarked), Bool.and_false]
      rfl

/-- A word without quotes inside of a literal is inside of its text. -/
theorem infix_of_infix_escape {word cs : List Char} (hword : '\'' ∉ word)
    (h : word <:+: escape cs ++ ['\'']) : word <:+: cs := by
  have hquote : ∀ rest, word <+: '\'' :: rest → word = [] := by
    intro rest hprefix
    cases word with
    | nil => rfl
    | cons w word =>
        rw [List.cons_prefix_cons] at hprefix
        exact absurd hprefix.1.symm (List.ne_of_not_mem_cons hword)
  induction cs with
  | nil =>
      rcases List.infix_cons_iff.1 h with hprefix | hrest
      · exact (hquote [] hprefix) ▸ List.nil_infix
      · exact hrest
  | cons c rest ih =>
      by_cases hc : c = '\''
      · subst hc
        rw [escape_quote, List.cons_append, List.cons_append, List.infix_cons_iff,
          List.infix_cons_iff] at h
        rcases h with hprefix | hprefix | hrest
        · exact (hquote _ hprefix) ▸ List.nil_infix
        · exact (hquote _ hprefix) ▸ List.nil_infix
        · exact List.infix_cons (ih hrest)
      · have hboth := h
        rw [escape_of_ne hc, List.cons_append, List.infix_cons_iff, ← List.cons_append,
          ← escape_of_ne hc, prefix_escape_iff hword] at hboth
        rcases hboth with hprefix | hrest
        · exact hprefix.isInfix
        · exact List.infix_cons (ih hrest)

/-- The literal of a text without the marker is untouched. -/
theorem untouched_write_text {s : String} (h : ¬ Marked s.toList) :
    Untouched (Expr.text s).write := by
  refine untouched_of_not_isInfix fun hinfix => ?_
  rw [write_text, List.infix_cons_iff] at hinfix
  rcases hinfix with hprefix | hinfix
  · exact absurd hprefix (by simp [markerTail])
  · exact h (marked_of_isInfix (infix_of_infix_escape quote_not_mem_markerTail hinfix))

/-! ## Copied texts -/

/-- A calm text with its redacted copy. -/
structure Copied (cs copy : List Char) : Prop where
  calm : Calm cs
  redact_eq : redact cs = copy

/-- What is put in front is copied on its own. -/
theorem Copied.front {cs copy front mask : List Char} (h : Copied cs copy) (hfront : Front front)
    (hmask : redact front = mask) : Copied (front ++ cs) (mask ++ copy) :=
  ⟨hfront.calm h.calm, by rw [redact_append h.calm, hmask, h.redact_eq]⟩

theorem stable_copied : Stable Copied := fun _ _ _ hlead hcopied =>
  hcopied.front hlead.toFront (redact_eq_self (untouched_of_not_mem hlead.plain))

/-- An untouched word in which no match ends is copied as it is. -/
theorem keeps_copied {word : List Char} (hclosed : restLength? word = none)
    (h : Untouched word) : Keeps Copied word := fun _ _ _ hlead hcopied =>
  hcopied.front (hlead.front hclosed) (redact_eq_self (h.append hlead.plain))

end Redaction

open Redaction

/-- A piece without the marker, or a name without a quote. -/
def Piece.Unmarked : Piece → Prop
  | name s => '\'' ∉ s.toList
  | text s => ¬ Marked s.toList
  | secret s => ¬ Marked s.toList
  | password s => ¬ Marked s.toList

instance : (p : Piece) → Decidable p.Unmarked
  | .name s => inferInstanceAs (Decidable ('\'' ∉ s.toList))
  | .text s => inferInstanceAs (Decidable (¬ Marked s.toList))
  | .secret s => inferInstanceAs (Decidable (¬ Marked s.toList))
  | .password s => inferInstanceAs (Decidable (¬ Marked s.toList))

/-- A piece without the marker is copied as it is, and a sensitive one as the redacted
literal. -/
theorem Piece.Unmarked.fits_copied {p : Piece} (h : p.Unmarked) :
    p.Fits Copied (fun s => (Expr.sensitive s).write) (fun _ => redactedLiteral) := by
  cases p with
  | name s => exact keeps_copied (restLength?_of_not_mem h) (untouched_of_not_mem h)
  | text s =>
      exact keeps_copied (restLength?_write_text (marks_of_not_marked h)) (untouched_write_text h)
  | secret s =>
      intro lead first second hlead hhyphen hcopied
      refine hcopied.front (hlead.front (restLength?_write_sensitive (marks_of_not_marked h))) ?_
      exact redact_sensitive hlead.plain hhyphen (flags_of_not_marked h)
  | password s =>
      intro first second hcopied
      have hopening : Opening (' ' :: passwordFlag) :=
        .of_guards (by decide) (by decide) (by decide)
      refine hcopied.front (hopening.front (restLength?_write_sensitive (marks_of_not_marked h))) ?_
      exact redact_password s

namespace Script

/-- The text of a script with the redacted literal in the place of every sensitive
one. -/
def masked (s : Script) : String := String.ofList (s.writeWith fun _ => redactedLiteral)

theorem untouched_preamble : Untouched preamble :=
  untouched_of_not_isInfix (by decide +kernel)

theorem untouched_postscript : Untouched postscript :=
  untouched_of_not_isInfix (by decide +kernel)

/-- The redacted copy of a script is its masked text, if no text in it has the marker
and no name has a quote. -/
theorem redacted_of_unmarked (s : Script) (h : ∀ p ∈ s.pieces, p.Unmarked) :
    s.redacted = s.masked := by
  have hend : Copied postscript postscript :=
    ⟨calm_postscript, redact_eq_self untouched_postscript⟩
  have hlines := s.related_lines stable_copied (fun p hp => (h p hp).fits_copied) hend
  rw [redacted, masked, ← writeWith_sensitive, writeWith_eq, writeWith_eq, List.append_assoc,
    List.append_assoc, redact_append hlines.calm, redact_eq_self untouched_preamble,
    hlines.redact_eq]

end Script

end DesiredState
