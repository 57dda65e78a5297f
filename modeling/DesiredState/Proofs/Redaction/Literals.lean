import DesiredState.Proofs.Redaction.Scanning

/-!
# Literals in redacted texts

A literal doubles the quotes of its text.  So a search that starts at its opening
quote follows it to its end, and a search that comes from outside stops at its
first odd run of quotes, which is right behind the quotes that the text starts
with.  What stands there decides whether the search has found the end of a match.

A text that starts with the marker behind such quotes ends the match of a search
from outside.  A secret that has the password flag and a quote in front of such a
text starts a match of its own in the middle of the literal.  Without these two,
a literal with the marker is redacted as a whole, whatever stands in front of it.

## Main definitions

* `marks`, `flags` — the two kinds of texts that mislead the search.
* `Opening`, `Front` — what may stand in front of a literal, and of anything.
* `Alike` — calm texts with the same redacted copy.

## Main results

* `restLength?_literal` — a search from outside runs through a literal.
* `redact_sensitive`, `redact_password` — a marked literal is redacted as a whole.
* `Alike.same`, `Alike.sensitive`, `Alike.password` — texts stay alike when the
  same text, or two secrets, are put in front of them.
-/

namespace DesiredState

namespace Redaction

open SingleQuoted (escape)

/-! ## Texts that mislead the search -/

/-- Whether a text starts with the marker, apart from quotes. -/
def marks : List Char → Bool
  | '\'' :: rest => marks rest
  | cs => markerTail.isPrefixOf cs

/-- Whether the flag with a quote is somewhere in a text, and the marker, apart from
quotes, behind it. -/
def flags : List Char → Bool
  | [] => false
  | c :: rest =>
      openedFlag.isPrefixOf (c :: rest) && marks ((c :: rest).drop openedFlag.length) ||
        flags rest

theorem marks_of_ne {c : Char} (h : c ≠ '\'') (rest : List Char) :
    marks (c :: rest) = markerTail.isPrefixOf (c :: rest) := by
  rw [marks]
  intro other hother
  exact h (List.cons.inj hother).1

theorem escape_quote (rest : List Char) : escape ('\'' :: rest) = '\'' :: '\'' :: escape rest :=
  rfl

theorem escape_of_ne {c : Char} (h : c ≠ '\'') (rest : List Char) :
    escape (c :: rest) = c :: escape rest := by
  rw [escape, if_neg h]

theorem escape_append (front back : List Char) :
    escape (front ++ back) = escape front ++ escape back := by
  induction front with
  | nil => rfl
  | cons c rest ih =>
      by_cases hc : c = '\''
      · subst hc
        simp only [List.cons_append, escape_quote, ih]
      · simp only [List.cons_append, escape_of_ne hc, ih]

/-- A word without quotes starts a literal behind its opening quote exactly when it
starts the text. -/
theorem prefix_escape_iff {word : List Char} (hword : '\'' ∉ word) (cs back : List Char) :
    word <+: escape cs ++ '\'' :: back ↔ word <+: cs := by
  induction word generalizing cs with
  | nil => simp
  | cons w rest ih =>
      rw [List.mem_cons, not_or] at hword
      cases cs with
      | nil =>
          rw [escape, List.nil_append, List.cons_prefix_cons]
          exact ⟨fun h => absurd h.1.symm hword.1, fun h => (by simp at h)⟩
      | cons c tail =>
          by_cases hc : c = '\''
          · subst hc
            rw [escape_quote, List.cons_append, List.cons_prefix_cons, List.cons_prefix_cons]
            exact ⟨fun h => absurd h.1.symm hword.1, fun h => absurd h.1.symm hword.1⟩
          · rw [escape_of_ne hc, List.cons_append, List.cons_prefix_cons, List.cons_prefix_cons,
              ih hword.2]

theorem quote_not_mem_markerTail : '\'' ∉ markerTail := by decide

theorem quote_not_mem_passwordFlag : '\'' ∉ passwordFlag := by decide

/-! ## A search through a text without quotes, and through a literal -/

theorem restLength?_append_of_not_mem {front : List Char} (h : '\'' ∉ front) (back : List Char) :
    restLength? (front ++ back) = (restLength? back).map (· + front.length) := by
  induction front with
  | nil => simp
  | cons c rest ih =>
      rw [List.mem_cons, not_or] at h
      rw [List.cons_append, restLength?_of_ne (fun hc => h.1 hc.symm), ih h.2, Option.map_map,
        List.length_cons]
      rfl

theorem restLength?_of_not_mem {cs : List Char} (h : '\'' ∉ cs) : restLength? cs = none := by
  have happend := restLength?_append_of_not_mem h []
  rwa [List.append_nil] at happend

/-- A search that comes to a literal ends in it, or behind quotes in front of it, if
the text of the literal starts with the marker behind quotes. -/
theorem restLength?_literal_isSome {cs : List Char} (h : marks cs = true) (back : List Char) :
    (restLength? ('\'' :: (escape cs ++ '\'' :: back))).isSome = true := by
  induction cs with
  | nil => exact absurd h (by decide)
  | cons c rest ih =>
      by_cases hc : c = '\''
      · subst hc
        rw [escape_quote, List.cons_append, List.cons_append, restLength?, Option.isSome_map]
        exact ih h
      · rw [marks_of_ne hc, List.isPrefixOf_iff_prefix] at h
        have hprefix := (prefix_escape_iff quote_not_mem_markerTail (c :: rest) back).2 h
        have hhead : (escape (c :: rest) ++ '\'' :: back).head? ≠ some '\'' := by
          simp [escape_of_ne hc, hc]
        rw [restLength?_quote hhead, if_pos (List.isPrefixOf_iff_prefix.2 hprefix)]
        rfl

/-- A search that comes to any other literal does not end in it; it may run on behind
it. -/
theorem restLength?_literal {cs back : List Char} (h : marks cs = false)
    (hback : restLength? back = none) :
    restLength? ('\'' :: (escape cs ++ '\'' :: back)) = none := by
  induction cs with
  | nil =>
      rw [escape, List.nil_append, restLength?, hback]
      rfl
  | cons c rest ih =>
      by_cases hc : c = '\''
      · subst hc
        rw [escape_quote, List.cons_append, List.cons_append, restLength?, ih h]
        rfl
      · rw [marks_of_ne hc, ← Bool.not_eq_true, List.isPrefixOf_iff_prefix] at h
        have hprefix := mt (prefix_escape_iff quote_not_mem_markerTail (c :: rest) back).1 h
        have hhead : (escape (c :: rest) ++ '\'' :: back).head? ≠ some '\'' := by
          simp [escape_of_ne hc, hc]
        rw [restLength?_quote hhead, if_neg (mt List.isPrefixOf_iff_prefix.1 hprefix)]

/-- A search that starts at the opening quote of a literal with the marker ends behind
the marker. -/
theorem restLength?_sensitive (cs back : List Char) :
    restLength? (escape cs ++ '\'' :: (markerTail ++ back)) =
      some ((escape cs).length + (markerTail.length + 1)) := by
  induction cs with
  | nil => simp [escape, markerTail_eq, restLength?]
  | cons c rest ih =>
      by_cases hc : c = '\''
      · subst hc
        rw [escape_quote, List.cons_append, List.cons_append, restLength?, ih]
        simp only [Option.map_some, List.length_cons, Option.some.injEq]
        omega
      · rw [escape_of_ne hc, List.cons_append, restLength?_of_ne hc, ih]
        simp only [Option.map_some, List.length_cons, Option.some.injEq]
        omega

theorem write_sensitive (s : String) :
    (Expr.sensitive s).write = '\'' :: (escape s.toList ++ '\'' :: markerTail) := by
  change '\'' :: (escape s.toList ++ ['\'']) ++ markerTail = _
  rw [List.cons_append, List.append_assoc]
  rfl

theorem write_text (s : String) :
    (Expr.text s).write = '\'' :: (escape s.toList ++ ['\'']) := rfl

theorem restLength?_write_text {s : String} (h : marks s.toList = false) :
    restLength? (Expr.text s).write = none := by
  rw [write_text]
  exact restLength?_literal h rfl

theorem restLength?_write_sensitive {s : String} (h : marks s.toList = false) :
    restLength? (Expr.sensitive s).write = none := by
  rw [write_sensitive]
  exact restLength?_literal h (restLength?_of_not_mem quote_not_mem_markerTail)

theorem sensitiveLength?_write_sensitive (s : String) (back : List Char) :
    sensitiveLength? ((Expr.sensitive s).write ++ back) =
      some (Expr.sensitive s).write.length := by
  rw [write_sensitive, List.cons_append, List.append_assoc, List.cons_append, sensitiveLength?,
    restLength?_sensitive]
  simp only [Option.map_some, List.length_cons, List.length_append]

/-! ## The redaction of one literal -/

/-- Characters other than quotes stay in the second pass. -/
theorem redactMarked_append_of_not_mem {front : List Char} (h : '\'' ∉ front)
    (back : List Char) : redactMarked (front ++ back) = front ++ redactMarked back := by
  induction front with
  | nil => rfl
  | cons c rest ih =>
      rw [List.mem_cons, not_or] at h
      have hnone : markedMatch? (c :: (rest ++ back)) = none := by
        rw [markedMatch?, sensitiveLength?]
        · rfl
        · intro other hother
          exact h.1 (List.cons.inj hother).1.symm
      rw [redactMarked_eq, List.cons_append, replaceFrom, hnone, ← redactMarked_eq, ih h.2]
      rfl

theorem replaceFrom_length (find : List Char → Option (Nat × List Char)) (cs : List Char) :
    replaceFrom find cs.length cs = [] := by
  induction cs with
  | nil => rfl
  | cons c rest ih => exact ih

theorem redactMarked_sensitive (s : String) :
    redactMarked (Expr.sensitive s).write = redactedLiteral := by
  have hmatch := sensitiveLength?_write_sensitive s []
  rw [List.append_nil] at hmatch
  rw [write_sensitive] at hmatch ⊢
  rw [redactMarked_eq, replaceFrom, markedMatch?, hmatch, Option.map_some]
  simp only [List.length_cons, Nat.add_sub_cancel]
  rw [replaceFrom_length, List.append_nil]

/-- A search behind the flag finds nothing in a literal, if the flag of its text has
no quote and marker behind it. -/
theorem passwordMatch?_escape {cs : List Char} (h : flags cs = false) :
    passwordMatch? (escape cs ++ '\'' :: markerTail) = none := by
  rw [passwordMatch?]
  split
  · next hflag =>
    rw [List.isPrefixOf_iff_prefix, prefix_escape_iff quote_not_mem_passwordFlag] at hflag
    obtain ⟨rest, rfl⟩ := hflag
    have hescape : escape passwordFlag = passwordFlag := by decide
    rw [escape_append, hescape, List.append_assoc, List.drop_left]
    cases rest with
    | nil => rw [sensitiveLength?.eq_def]; rfl
    | cons c rest =>
        by_cases hc : c = '\''
        · subst hc
          have hmarks : marks rest = false := by
            have hopened : openedFlag.isPrefixOf (openedFlag ++ rest) = true := by simp
            rw [show passwordFlag ++ '\'' :: rest = openedFlag ++ rest by simp [openedFlag]] at h
            rw [show openedFlag ++ rest = '-' :: (openedFlag.tail ++ rest) from rfl, flags,
              Bool.or_eq_false_iff] at h
            have hfirst := h.1
            rw [← List.cons_append, show '-' :: openedFlag.tail = openedFlag from rfl, hopened,
              List.drop_left, Bool.true_and] at hfirst
            exact hfirst
          rw [escape_quote, List.cons_append, sensitiveLength?, List.cons_append,
            restLength?_literal hmarks (restLength?_of_not_mem quote_not_mem_markerTail)]
          rfl
        · rw [escape_of_ne hc, List.cons_append, sensitiveLength?]
          · rfl
          · intro other hother
            exact hc (List.cons.inj hother).1
  · rfl

/-- The first pass leaves such a literal as it is. -/
theorem redactPasswords_escape {cs : List Char} (h : flags cs = false) :
    redactPasswords (escape cs ++ '\'' :: markerTail) = escape cs ++ '\'' :: markerTail := by
  induction cs with
  | nil => decide
  | cons c rest ih =>
      have hrest : flags rest = false := by
        rw [flags, Bool.or_eq_false_iff] at h
        exact h.2
      by_cases hc : c = '\''
      · subst hc
        rw [escape_quote, List.cons_append, List.cons_append,
          redactPasswords_cons_of_ne (by decide), redactPasswords_cons_of_ne (by decide), ih hrest]
      · have hnone := passwordMatch?_escape h
        rw [escape_of_ne hc, List.cons_append] at hnone ⊢
        rcases redactPasswords_cons c (escape rest ++ '\'' :: markerTail) with
          ⟨more, hsome, -⟩ | ⟨-, heq⟩
        · exact absurd hnone hsome
        · rw [heq, ih hrest]

/-- A marked literal is redacted as a whole. -/
theorem redact_sensitive {lead : List Char} (hquote : '\'' ∉ lead) (hhyphen : '-' ∉ lead)
    {s : String} (h : flags s.toList = false) :
    redact (lead ++ (Expr.sensitive s).write) = lead ++ redactedLiteral := by
  have hsame : redactPasswords (Expr.sensitive s).write = (Expr.sensitive s).write := by
    rw [write_sensitive, redactPasswords_cons_of_ne (by decide), redactPasswords_escape h]
  rw [redact, redactPasswords_append_of_not_mem hhyphen, hsame,
    redactMarked_append_of_not_mem hquote, redactMarked_sensitive]

/-- Behind the flag it is redacted as a whole, whatever the text is. -/
theorem redact_password (s : String) :
    redact (' ' :: passwordFlag ++ (Expr.sensitive s).write) =
      ' ' :: passwordFlag ++ redactedLiteral := by
  have hmatch : passwordMatch? (passwordFlag ++ (Expr.sensitive s).write) =
      some ((passwordFlag ++ (Expr.sensitive s).write).length,
        passwordFlag ++ redactedLiteral) := by
    have hlength := sensitiveLength?_write_sensitive s []
    rw [List.append_nil] at hlength
    rw [passwordMatch?, if_pos (by simp), List.drop_left, hlength, List.length_append]
    rfl
  have hfirst : redactPasswords (passwordFlag ++ (Expr.sensitive s).write) =
      passwordFlag ++ redactedLiteral := by
    rw [show passwordFlag ++ (Expr.sensitive s).write =
      '-' :: (passwordFlag.tail ++ (Expr.sensitive s).write) from rfl] at hmatch ⊢
    rw [redactPasswords_eq, replaceFrom, hmatch]
    simp only [List.length_cons, Nat.add_sub_cancel]
    rw [replaceFrom_length, List.append_nil]
  rw [redact, List.cons_append, redactPasswords_cons_of_ne (by decide), hfirst]
  decide

/-! ## What stands in front -/

/-- A text that nothing in front of it is continued by, and that has no quote: what
stands in front of a literal. -/
structure Opening (cs : List Char) : Prop where
  guards : ∀ back, guards (cs ++ back) = true
  plain : '\'' ∉ cs

/-- A text that nothing in front of it is continued by, and in which no match ends. -/
structure Front (cs : List Char) : Prop where
  guards : ∀ back, guards (cs ++ back) = true
  closed : restLength? cs = none

/-- The first two characters tell. -/
theorem guards_append {cs : List Char} (h : guards cs = true) (hlength : 2 ≤ cs.length)
    (back : List Char) : guards (cs ++ back) = true := by
  rw [guards, List.all_eq_true] at h ⊢
  intro start hstart
  have hshort : ∀ start ∈ straddles, start.length ≤ 2 := by decide
  have hown := h start hstart
  rw [Bool.not_eq_true', ← Bool.not_eq_true, List.isPrefixOf_iff_prefix] at hown ⊢
  intro hprefix
  have hle := hshort start hstart
  exact hown (List.prefix_of_prefix_length_le hprefix (List.prefix_append cs back) (by omega))

/-- One character is enough, if no part of the marker or of the flag starts with it. -/
theorem guards_cons {c : Char} (h : ∀ start ∈ straddles, start.head? ≠ some c)
    (back : List Char) : guards (c :: back) = true := by
  rw [guards, List.all_eq_true]
  intro start hstart
  rw [Bool.not_eq_true', ← Bool.not_eq_true, List.isPrefixOf_iff_prefix]
  intro hprefix
  have hne : ∀ start ∈ straddles, start ≠ [] := by decide
  obtain ⟨d, rest, rfl⟩ := List.exists_cons_of_ne_nil (hne start hstart)
  rw [List.cons_prefix_cons] at hprefix
  exact h _ hstart (congrArg some hprefix.1)

theorem Opening.of_guards {cs : List Char} (h : Redaction.guards cs = true)
    (hlength : 2 ≤ cs.length) (hplain : '\'' ∉ cs) : Opening cs :=
  ⟨guards_append h hlength, hplain⟩

theorem Opening.of_head {c : Char} (h : ∀ start ∈ straddles, start.head? ≠ some c)
    {rest : List Char} (hplain : '\'' ∉ c :: rest) : Opening (c :: rest) :=
  ⟨fun back => guards_cons h (rest ++ back), hplain⟩

/-- An opening may be continued by characters other than quotes. -/
theorem Opening.append {lead cs : List Char} (h : Opening lead) (hplain : '\'' ∉ cs) :
    Opening (lead ++ cs) := by
  refine ⟨fun back => ?_, fun hmem => (List.mem_append.1 hmem).elim h.plain hplain⟩
  rw [List.append_assoc]
  exact h.guards (cs ++ back)

/-- Behind an opening there may be any text in which no match ends. -/
theorem Opening.front {lead cs : List Char} (h : Opening lead) (hclosed : restLength? cs = none) :
    Front (lead ++ cs) := by
  refine ⟨fun back => ?_, ?_⟩
  · rw [List.append_assoc]
    exact h.guards (cs ++ back)
  · rw [restLength?_append_of_not_mem h.plain, hclosed]
    rfl

theorem Opening.toFront {lead : List Char} (h : Opening lead) : Front lead :=
  ⟨h.guards, restLength?_of_not_mem h.plain⟩

theorem Front.calm {front back : List Char} (h : Front front) (hback : Calm back) :
    Calm (front ++ back) := by
  refine ⟨h.guards back, ?_⟩
  rw [restLength?_append hback.guards hback.closed]
  exact h.closed

/-! ## Alike texts -/

/-- Two calm texts with the same redacted copy. -/
structure Alike (first second : List Char) : Prop where
  calm_first : Calm first
  calm_second : Calm second
  redact_eq : redact first = redact second

theorem alike_nil : Alike [] [] := ⟨⟨rfl, rfl⟩, ⟨rfl, rfl⟩, rfl⟩

namespace Alike

variable {first second : List Char} (h : Alike first second)

include h

/-- The same text may be put in front. -/
theorem same {front : List Char} (hfront : Front front) :
    Alike (front ++ first) (front ++ second) := by
  refine ⟨hfront.calm h.calm_first, hfront.calm h.calm_second, ?_⟩
  rw [redact_append h.calm_first, redact_append h.calm_second, h.redact_eq]

/-- Different texts with the same redacted copy may be put in front. -/
theorem replaced {one other : List Char} (hone : Front one) (hother : Front other)
    (heq : redact one = redact other) : Alike (one ++ first) (other ++ second) := by
  refine ⟨hone.calm h.calm_first, hother.calm h.calm_second, ?_⟩
  rw [redact_append h.calm_first, redact_append h.calm_second, h.redact_eq, heq]

/-- Two marked literals may be put in front, if they do not mislead the search. -/
theorem sensitive {lead : List Char} (hlead : Opening lead) (hhyphen : '-' ∉ lead) {s t : String}
    (hs : marks s.toList = false) (ht : marks t.toList = false)
    (hsflags : flags s.toList = false) (htflags : flags t.toList = false) :
    Alike (lead ++ (Expr.sensitive s).write ++ first)
      (lead ++ (Expr.sensitive t).write ++ second) := by
  refine h.replaced (hlead.front (restLength?_write_sensitive hs))
    (hlead.front (restLength?_write_sensitive ht)) ?_
  rw [redact_sensitive hlead.plain hhyphen hsflags, redact_sensitive hlead.plain hhyphen htflags]

/-- Two passwords may be put in front, if they do not end a match. -/
theorem password {s t : String} (hs : marks s.toList = false) (ht : marks t.toList = false) :
    Alike (' ' :: passwordFlag ++ (Expr.sensitive s).write ++ first)
      (' ' :: passwordFlag ++ (Expr.sensitive t).write ++ second) := by
  have hopening : Opening (' ' :: passwordFlag) :=
    .of_guards (by decide) (by decide) (by decide)
  refine h.replaced (hopening.front (restLength?_write_sensitive hs))
    (hopening.front (restLength?_write_sensitive ht)) ?_
  rw [redact_password, redact_password]

end Alike

end Redaction

end DesiredState
