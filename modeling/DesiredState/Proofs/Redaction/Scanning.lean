import DesiredState.Script.Redaction

/-!
# Searching a text in two parts

The search for marked literals knows nothing of the literals of a script.  It
starts a match at every quote, and follows it to the end of the first run of
quotes of odd length.  So a match can start at a quote that closes a literal, and
run into the literals behind it.

This module says when that does not happen at a place of the text: when what
follows can not be the end of a match, and does not extend what stands in front
of it by a quote or by a part of the marker.  Then the text is redacted in two
parts that do not know of each other.

## Main definitions

* `guards` — a text does not continue a marker or a flag in front of it.
* `Calm` — a text behind which no match is left open, and in which none ends.

## Main results

* `restLength?_append` — the search inside a text stops at a calm one behind it.
* `redactPasswords_append`, `redactMarked_append`, `redact_append` — the two parts
  are redacted on their own.
* `Calm.redactPasswords` — the first pass leaves a calm text calm.
-/

namespace DesiredState

namespace Redaction

/-! ## Continuing a marker -/

/-- The first two characters of every part of the marker that ends it, and of every
proper part of the flag with a quote that ends that. -/
def straddles : List (List Char) :=
  [[' ', '<'], ['<', '#'], ['#', ' '], [' ', 'S'], ['S', 'e'], ['e', 'n'], ['n', 's'],
    ['s', 'i'], ['i', 't'], ['t', 'i'], ['i', 'v'], ['v', 'e'], ['e', ' '], [' ', '#'],
    ['#', '>'], ['>'], ['P', 'a'], ['a', 's'], ['s', 's'], ['s', 'w'], ['w', 'o'],
    ['o', 'r'], ['r', 'd'], ['d', ' '], [' ', '\''], ['\'']]

/-- Whether a text does not continue a marker or a flag that is cut off in front of
it.  The first two characters tell. -/
def guards (cs : List Char) : Bool := straddles.all fun start => !start.isPrefixOf cs

/-- The flag with the quote that opens a password. -/
def openedFlag : List Char := passwordFlag ++ ['\'']

theorem markerTail_eq : markerTail =
    [' ', '<', '#', ' ', 'S', 'e', 'n', 's', 'i', 't', 'i', 'v', 'e', ' ', '#', '>'] := rfl

theorem passwordFlag_eq : passwordFlag =
    ['-', 'P', 'a', 's', 's', 'w', 'o', 'r', 'd', ' '] := rfl

/-- The parts that end a marker or a flag start in one of the listed ways. -/
theorem take_two_mem_straddles {part : List Char} (hne : part ≠ [])
    (h : part <:+ markerTail ∨ part <:+ openedFlag.tail) : part.take 2 ∈ straddles := by
  have hpos := List.length_pos_iff.2 hne
  rcases h with h | h
  · have hmarker : ∀ k < 16, (markerTail.drop k).take 2 ∈ straddles := by decide
    have hle : part.length ≤ 16 := h.length_le
    rw [List.suffix_iff_eq_drop.1 h]
    exact hmarker (16 - part.length) (by omega)
  · have hflag : ∀ k < 10, (openedFlag.tail.drop k).take 2 ∈ straddles := by decide
    have hle : part.length ≤ 10 := h.length_le
    rw [List.suffix_iff_eq_drop.1 h]
    exact hflag (10 - part.length) (by omega)

/-- A guarding text does not go on with a part that ends a marker or a flag. -/
theorem not_prefix_of_guards {part cs : List Char} (hguards : guards cs = true) (hne : part ≠ [])
    (h : part <:+ markerTail ∨ part <:+ openedFlag.tail) : ¬ part <+: cs := by
  intro hprefix
  have hstart := List.all_eq_true.1 hguards _ (take_two_mem_straddles hne h)
  have htake : part.take 2 <+: cs := (List.take_prefix 2 part).trans hprefix
  rw [← List.isPrefixOf_iff_prefix] at htake
  rw [htake] at hstart
  cases hstart

/-- A text at the start of two texts is at the start of the first one, or reaches into
the second one. -/
theorem prefix_append_cases {part front back : List Char} (h : part <+: front ++ back) :
    part <+: front ∨ ∃ rest, rest ≠ [] ∧ part = front ++ rest ∧ rest <+: back := by
  rcases List.prefix_or_prefix_of_prefix h (List.prefix_append front back) with hfront | hfront
  · exact .inl hfront
  · obtain ⟨rest, rfl⟩ := hfront
    by_cases hne : rest = []
    · subst hne
      exact .inl (by simp)
    · exact .inr ⟨rest, hne, rfl, (List.prefix_append_right_inj front).1 h⟩

theorem head?_ne_quote_of_guards {cs : List Char} (h : guards cs = true) :
    cs.head? ≠ some '\'' := by
  cases cs with
  | nil => simp
  | cons c rest =>
      intro hc
      obtain rfl : c = '\'' := by simpa using hc
      have hstart := List.all_eq_true.1 h ['\''] (by decide)
      simp at hstart

/-- A marker in front of a guarding text ends in front of it. -/
theorem markerTail_isPrefixOf_append {front back : List Char} (h : guards back = true) :
    markerTail.isPrefixOf (front ++ back) = markerTail.isPrefixOf front := by
  rw [Bool.eq_iff_iff, List.isPrefixOf_iff_prefix, List.isPrefixOf_iff_prefix]
  refine ⟨fun hprefix => ?_, fun hprefix => hprefix.trans (List.prefix_append _ _)⟩
  rcases prefix_append_cases hprefix with hfront | ⟨rest, hne, heq, hrest⟩
  · exact hfront
  · exact absurd hrest (not_prefix_of_guards h hne (.inl ⟨front, heq.symm⟩))

/-! ## The search for the end of a match -/

theorem restLength?_quote {rest : List Char} (h : rest.head? ≠ some '\'') :
    restLength? ('\'' :: rest) =
      if markerTail.isPrefixOf rest then some (markerTail.length + 1) else none := by
  cases rest with
  | nil => rfl
  | cons c rest =>
      have hc : c ≠ '\'' := by simpa using h
      rw [restLength?]
      intro other hother
      exact hc (List.cons.inj hother).1

theorem restLength?_of_ne {c : Char} (h : c ≠ '\'') (rest : List Char) :
    restLength? (c :: rest) = (restLength? rest).map (· + 1) := by
  rw [restLength?]
  · intro other hc
    exact absurd hc h
  · exact h

/-- A match ends within the text. -/
theorem restLength?_le {cs : List Char} {length : Nat} (h : restLength? cs = some length) :
    length ≤ cs.length := by
  fun_induction restLength? cs generalizing length with
  | case1 rest ih =>
      obtain ⟨n, hn, rfl⟩ := Option.map_eq_some_iff.1 h
      have := ih hn
      simp only [List.length_cons]
      omega
  | case2 rest _ hmarker =>
      have := (List.isPrefixOf_iff_prefix.1 hmarker).length_le
      obtain rfl := Option.some.inj h
      simp only [List.length_cons]
      omega
  | case3 => cases h
  | case4 c rest _ _ ih =>
      obtain ⟨n, hn, rfl⟩ := Option.map_eq_some_iff.1 h
      have := ih hn
      simp only [List.length_cons]
      omega
  | case5 => cases h

/-- A search inside a text is not helped by a text behind it that guards, and in
which no open match ends. -/
theorem restLength?_append {back : List Char} (hguards : guards back = true)
    (hback : restLength? back = none) (front : List Char) :
    restLength? (front ++ back) = restLength? front := by
  have hhead : ∀ rest, (∀ other, rest = '\'' :: other → False) →
      (rest ++ back).head? ≠ some '\'' := by
    intro rest hrest
    cases rest with
    | nil => exact head?_ne_quote_of_guards hguards
    | cons c rest =>
        intro hc
        obtain rfl : c = '\'' := by simpa using hc
        exact hrest rest rfl
  fun_induction restLength? front with
  | case1 rest ih => simp [restLength?, ih]
  | case2 rest hnext hmarker =>
      rw [List.cons_append, restLength?_quote (hhead rest hnext),
        markerTail_isPrefixOf_append hguards, if_pos hmarker]
  | case3 rest hnext hmarker =>
      rw [List.cons_append, restLength?_quote (hhead rest hnext),
        markerTail_isPrefixOf_append hguards, if_neg hmarker]
  | case4 c rest _ hc ih => rw [List.cons_append, restLength?_of_ne hc, ih]
  | case5 => exact hback

/-! ## The two passes -/

/-- The match of the first pass at the start of a text. -/
def passwordMatch? (cs : List Char) : Option (Nat × List Char) :=
  if passwordFlag.isPrefixOf cs then
    (sensitiveLength? (cs.drop passwordFlag.length)).map fun length =>
      (passwordFlag.length + length, passwordFlag ++ redactedLiteral)
  else none

/-- The match of the second pass at the start of a text. -/
def markedMatch? (cs : List Char) : Option (Nat × List Char) :=
  (sensitiveLength? cs).map fun length => (length, redactedLiteral)

theorem redactPasswords_eq (cs : List Char) :
    redactPasswords cs = replaceFrom passwordMatch? 0 cs := rfl

theorem redactMarked_eq (cs : List Char) :
    redactMarked cs = replaceFrom markedMatch? 0 cs := rfl

/-- A search that treats every end of a text alike, whether or not another text
follows, works on the two texts one after the other. -/
theorem replaceFrom_append {match? : List Char → Option (Nat × List Char)} {back : List Char}
    {front : List Char}
    (hsame : ∀ part, part <:+ front → part ≠ [] → match? (part ++ back) = match? part)
    (hinside : ∀ part length text, match? part = some (length, text) → length ≤ part.length)
    {skip : Nat} (hskip : skip ≤ front.length) :
    replaceFrom match? skip (front ++ back) =
      replaceFrom match? skip front ++ replaceFrom match? 0 back := by
  induction front generalizing skip with
  | nil =>
      obtain rfl : skip = 0 := by simpa using hskip
      simp [replaceFrom]
  | cons c rest ih =>
      have hrest : ∀ part, part <:+ rest → part ≠ [] → match? (part ++ back) = match? part :=
        fun part hpart => hsame part (hpart.trans (List.suffix_cons c rest))
      cases skip with
      | succ skip =>
          rw [List.cons_append, replaceFrom, replaceFrom]
          exact ih hrest (by simpa using hskip)
      | zero =>
          have hhere := hsame (c :: rest) (List.suffix_refl _) (by simp)
          rw [List.cons_append] at hhere
          rw [List.cons_append, replaceFrom, replaceFrom, hhere]
          cases hmatch : match? (c :: rest) with
          | none =>
              simp only [List.cons_append]
              rw [ih hrest (Nat.zero_le _)]
          | some found =>
              obtain ⟨length, text⟩ := found
              have hlength := hinside _ _ _ hmatch
              simp only [List.length_cons] at hlength
              simp only
              rw [ih hrest (by omega), List.append_assoc]

/-! ## Calm texts -/

/-- A text that does not continue what stands in front of it, and in which no match
ends that was left open in front of it. -/
structure Calm (cs : List Char) : Prop where
  guards : guards cs = true
  closed : restLength? cs = none

section Calm

variable {back : List Char} (hback : Calm back)

include hback

theorem Calm.sensitiveLength?_append (part : List Char) :
    sensitiveLength? (part ++ back) = sensitiveLength? part := by
  cases part with
  | nil =>
      have hhead := head?_ne_quote_of_guards hback.guards
      cases back with
      | nil => rfl
      | cons c rest =>
          have hc : c ≠ '\'' := by simpa using hhead
          simp [sensitiveLength?, hc]
  | cons c rest =>
      by_cases hc : c = '\''
      · subst hc
        simp only [List.cons_append, sensitiveLength?]
        rw [restLength?_append hback.guards hback.closed]
      · simp [sensitiveLength?, hc]

theorem Calm.markedMatch?_append (part : List Char) :
    markedMatch? (part ++ back) = markedMatch? part := by
  rw [markedMatch?, markedMatch?, hback.sensitiveLength?_append]

/-- A flag that ends inside a calm text has no password behind it. -/
theorem Calm.passwordMatch?_append {part : List Char} (hpart : part ≠ []) :
    passwordMatch? (part ++ back) = passwordMatch? part := by
  by_cases hflag : passwordFlag <+: part
  · obtain ⟨rest, rfl⟩ := hflag
    have hboth : passwordFlag.isPrefixOf (passwordFlag ++ (rest ++ back)) = true := by simp
    have hown : passwordFlag.isPrefixOf (passwordFlag ++ rest) = true := by simp
    rw [List.append_assoc, passwordMatch?, passwordMatch?, if_pos hboth, if_pos hown,
      List.drop_left, List.drop_left, hback.sensitiveLength?_append]
  · have hnone : passwordMatch? part = none := by
      rw [passwordMatch?, if_neg (by rwa [List.isPrefixOf_iff_prefix])]
    rw [hnone, passwordMatch?]
    split
    · next hboth =>
      rw [List.isPrefixOf_iff_prefix] at hboth
      rcases prefix_append_cases hboth with hfront | ⟨rest, hne, heq, hrest⟩
      · exact absurd hfront hflag
      · obtain ⟨behind, rfl⟩ := hrest
        rw [heq, ← List.append_assoc, List.drop_left]
        -- a quote behind the flag would end the part of the flag that is inside `back`
        have hquote : behind.head? ≠ some '\'' := by
          intro hhead
          obtain ⟨more, rfl⟩ := List.head?_eq_some_iff.1 hhead
          have hsuffix : rest ++ ['\''] <:+ openedFlag.tail := by
            obtain ⟨c, tail, rfl⟩ := List.exists_cons_of_ne_nil hpart
            exact ⟨tail, by rw [openedFlag, heq]; simp⟩
          refine not_prefix_of_guards hback.guards (by simp) (.inr hsuffix) ?_
          exact ⟨more, by simp⟩
        cases behind with
        | nil => rfl
        | cons c more =>
            have hc : c ≠ '\'' := by simpa using hquote
            simp [sensitiveLength?, hc]
    · rfl

end Calm

theorem sensitiveLength?_le {cs : List Char} {length : Nat}
    (h : sensitiveLength? cs = some length) : length ≤ cs.length := by
  unfold sensitiveLength? at h
  split at h
  · obtain ⟨n, hn, rfl⟩ := Option.map_eq_some_iff.1 h
    have := restLength?_le hn
    simp only [List.length_cons]
    omega
  · cases h

theorem markedMatch?_le {cs text : List Char} {length : Nat}
    (h : markedMatch? cs = some (length, text)) : length ≤ cs.length := by
  obtain ⟨n, hn, heq⟩ := Option.map_eq_some_iff.1 h
  obtain ⟨rfl, -⟩ := Prod.mk.inj heq
  exact sensitiveLength?_le hn

theorem passwordMatch?_le {cs text : List Char} {length : Nat}
    (h : passwordMatch? cs = some (length, text)) : length ≤ cs.length := by
  unfold passwordMatch? at h
  split at h
  · next hflag =>
    obtain ⟨n, hn, heq⟩ := Option.map_eq_some_iff.1 h
    obtain ⟨rfl, -⟩ := Prod.mk.inj heq
    have hrest := sensitiveLength?_le hn
    have hlength := (List.isPrefixOf_iff_prefix.1 hflag).length_le
    rw [List.length_drop] at hrest
    omega
  · cases h

theorem redactMarked_append {back : List Char} (hback : Calm back) (front : List Char) :
    redactMarked (front ++ back) = redactMarked front ++ redactMarked back :=
  replaceFrom_append (fun part _ _ => hback.markedMatch?_append part)
    (fun _ _ _ => markedMatch?_le) (Nat.zero_le _)

theorem redactPasswords_append {back : List Char} (hback : Calm back) (front : List Char) :
    redactPasswords (front ++ back) = redactPasswords front ++ redactPasswords back :=
  replaceFrom_append (fun _ _ hne => hback.passwordMatch?_append hne)
    (fun _ _ _ => passwordMatch?_le) (Nat.zero_le _)

/-! ## What the first pass leaves -/

/-- The first pass writes the flag back, so a text changes behind its first hyphen
only. -/
theorem redactPasswords_cons (c : Char) (rest : List Char) :
    (∃ more, passwordMatch? (c :: rest) ≠ none ∧
        redactPasswords (c :: rest) = passwordFlag ++ redactedLiteral ++ more) ∨
      (passwordMatch? (c :: rest) = none ∧
        redactPasswords (c :: rest) = c :: redactPasswords rest) := by
  rw [redactPasswords_eq, replaceFrom]
  cases hmatch : passwordMatch? (c :: rest) with
  | none => exact .inr ⟨rfl, rfl⟩
  | some found =>
      obtain ⟨length, text⟩ := found
      have htext : text = passwordFlag ++ redactedLiteral := by
        unfold passwordMatch? at hmatch
        split at hmatch
        · obtain ⟨n, -, heq⟩ := Option.map_eq_some_iff.1 hmatch
          exact (Prod.mk.inj heq).2.symm
        · cases hmatch
      subst htext
      exact .inl ⟨_, by simp, rfl⟩

/-- Nothing is replaced at a character other than a hyphen. -/
theorem redactPasswords_cons_of_ne {c : Char} (hc : c ≠ '-') (rest : List Char) :
    redactPasswords (c :: rest) = c :: redactPasswords rest := by
  rcases redactPasswords_cons c rest with ⟨more, hmatch, -⟩ | ⟨-, heq⟩
  · refine absurd ?_ hmatch
    rw [passwordMatch?, if_neg]
    rw [List.isPrefixOf_iff_prefix, passwordFlag_eq, List.cons_prefix_cons]
    exact fun h => hc h.1.symm
  · exact heq

theorem redactPasswords_append_of_not_mem {front : List Char} (h : '-' ∉ front)
    (back : List Char) : redactPasswords (front ++ back) = front ++ redactPasswords back := by
  induction front with
  | nil => rfl
  | cons c rest ih =>
      rw [List.mem_cons, not_or] at h
      rw [List.cons_append, redactPasswords_cons_of_ne (fun hc => h.1 hc.symm), ih h.2]
      rfl

/-- A word without hyphens at the start of a text that the first pass gave was
there before. -/
theorem prefix_of_prefix_redactPasswords {word cs : List Char} (hword : '-' ∉ word)
    (h : word <+: redactPasswords cs) : word <+: cs := by
  induction word generalizing cs with
  | nil => exact List.nil_prefix
  | cons w rest ih =>
      rw [List.mem_cons, not_or] at hword
      cases cs with
      | nil => exact h
      | cons c tail =>
          rcases redactPasswords_cons c tail with ⟨more, -, heq⟩ | ⟨-, heq⟩
          · rw [heq, passwordFlag_eq] at h
            exact absurd (List.cons_prefix_cons.1 h).1.symm hword.1
          · rw [heq, List.cons_prefix_cons] at h
            exact List.cons_prefix_cons.2 ⟨h.1, ih hword.2 h.2⟩

/-- The first two characters stay. -/
theorem guards_redactPasswords {cs : List Char} (h : guards cs = true) :
    guards (redactPasswords cs) = true := by
  rw [guards, List.all_eq_true] at h ⊢
  intro start hstart
  have hhyphen : ∀ start ∈ straddles, '-' ∉ start := by decide
  have := h start hstart
  rw [Bool.not_eq_true', ← Bool.not_eq_true, List.isPrefixOf_iff_prefix] at this ⊢
  exact fun hprefix => this (prefix_of_prefix_redactPasswords (hhyphen start hstart) hprefix)

/-- No match ends in what the first pass leaves, if none did before: a literal that
was put in is followed by no marker. -/
theorem restLength?_redactPasswords {cs : List Char} (h : restLength? cs = none) :
    restLength? (redactPasswords cs) = none := by
  fun_induction restLength? cs with
  | case1 rest ih =>
      rw [redactPasswords_cons_of_ne (by decide), redactPasswords_cons_of_ne (by decide),
        restLength?, ih (Option.map_eq_none_iff.1 h)]
      rfl
  | case2 => cases h
  | case3 rest hnext hmarker =>
      have hhead : (redactPasswords rest).head? ≠ some '\'' := by
        intro hhead
        obtain ⟨more, hmore⟩ := List.head?_eq_some_iff.1 hhead
        have hquote : ['\''] <+: rest :=
          prefix_of_prefix_redactPasswords (by decide) ⟨more, by rw [hmore]; rfl⟩
        obtain ⟨other, hother⟩ := hquote
        exact hnext other hother.symm
      rw [redactPasswords_cons_of_ne (by decide), restLength?_quote hhead, if_neg]
      rw [List.isPrefixOf_iff_prefix] at hmarker ⊢
      exact fun hprefix => hmarker (prefix_of_prefix_redactPasswords (by decide) hprefix)
  | case4 c rest _ hc ih =>
      rcases redactPasswords_cons c rest with ⟨more, -, heq⟩ | ⟨-, heq⟩
      · rw [heq]
        rfl
      · rw [heq, restLength?_of_ne hc, ih (Option.map_eq_none_iff.1 h)]
        rfl
  | case5 => rfl

theorem Calm.redactPasswords {cs : List Char} (h : Calm cs) : Calm (redactPasswords cs) :=
  ⟨guards_redactPasswords h.guards, restLength?_redactPasswords h.closed⟩

/-- A text is redacted in two parts, if the second one is calm. -/
theorem redact_append {back : List Char} (hback : Calm back) (front : List Char) :
    redact (front ++ back) = redact front ++ redact back := by
  rw [redact, redactPasswords_append hback, redactMarked_append hback.redactPasswords]
  rfl

end Redaction

end DesiredState
