import DesiredState.Proofs.Text.Runs
import DesiredState.Yaml.Token
import Mathlib.Data.List.Chain

/-!
# Plain scalars on one line

A text can stand without quotes on one line if neither its start nor two neighbours in it mean
something else: a colon in front of a blank ends a key, and a number sign behind a blank starts
a comment.  At its end it has neither a blank nor a colon.

The words and blanks of such a text are read one after another.  As no line ends in it, nothing
is folded, and the scalar has the text as it is written.

## Main definitions

* `IsPlainLine` — the texts that can stand without quotes on one line.

## Main results

* `YamlCursor.plain?_line` — such a text is read as it is written.
-/

namespace DesiredState

/-- The characters that mean something else at the start of a scalar. -/
def indicators : List Char := "-?:,[]\x7b\x7d#&*!|>'\"%@`".toList

/-- Whether two characters can be neighbours in a plain scalar. -/
def PlainNeighbours (c d : Char) : Prop :=
  ¬ (c = ':' ∧ isGap d = true) ∧ ¬ (isGap c = true ∧ d = '#')

instance (c d : Char) : Decidable (PlainNeighbours c d) :=
  inferInstanceAs (Decidable (_ ∧ _))

/-- Whether a text can go on a plain scalar to the end of the text. -/
structure IsPlainRest (cs : List Char) : Prop where
  chars : ∀ c ∈ cs, isDocumentChar c = true ∧ isLineEnd c = false
  neighbours : cs.IsChain PlainNeighbours
  last : ∀ c ∈ cs.getLast?, isGap c = false ∧ c ≠ ':'

/-- Whether a text can stand without quotes on one line. -/
structure IsPlainLine (cs : List Char) : Prop extends IsPlainRest cs where
  /-- It starts with a character that means nothing else, or with a dash, a question mark or a
  colon in front of a character that is no blank. -/
  starts : ∃ c ∈ cs.head?, isGap c = false ∧
    (c ∈ indicators → (c = '-' ∨ c = '?' ∨ c = ':') ∧ ∃ d ∈ cs[1]?, isGap d = false)

-- Each check runs over the characters that are there; the instances are named because there
-- is another one, over all characters.
instance (cs : List Char) : Decidable (IsPlainRest cs) :=
  have := List.decidableBAll (fun c => isDocumentChar c = true ∧ isLineEnd c = false) cs
  have := Option.decidableForallMem (p := fun c => isGap c = false ∧ c ≠ ':') cs.getLast?
  decidable_of_iff ((∀ c ∈ cs, isDocumentChar c = true ∧ isLineEnd c = false) ∧
      cs.IsChain PlainNeighbours ∧ ∀ c ∈ cs.getLast?, isGap c = false ∧ c ≠ ':')
    ⟨fun h => ⟨h.1, h.2.1, h.2.2⟩, fun h => ⟨h.chars, h.neighbours, h.last⟩⟩

instance (cs : List Char) : Decidable (IsPlainLine cs) :=
  have := Option.decidableExistsMem (p := fun d => isGap d = false) cs[1]?
  have := Option.decidableExistsMem (p := fun c => isGap c = false ∧
    (c ∈ indicators → (c = '-' ∨ c = '?' ∨ c = ':') ∧ ∃ d ∈ cs[1]?, isGap d = false)) cs.head?
  decidable_of_iff (IsPlainRest cs ∧ ∃ c ∈ cs.head?, isGap c = false ∧
      (c ∈ indicators → (c = '-' ∨ c = '?' ∨ c = ':') ∧ ∃ d ∈ cs[1]?, isGap d = false))
    ⟨fun h => ⟨h.1, h.2⟩, fun h => ⟨h.toIsPlainRest, h.starts⟩⟩

namespace IsPlainRest

/-- What is left of a text behind a part of it. -/
theorem back {front back : List Char} (h : IsPlainRest (front ++ back)) (hne : back ≠ []) :
    IsPlainRest back where
  chars c hc := h.chars c (List.mem_append_right _ hc)
  neighbours := (List.isChain_append.1 h.neighbours).2.1
  last c hc := h.last c (by rwa [List.getLast?_append_of_ne_nil _ hne])

/-- Behind a word there are blanks, and another word behind those. -/
theorem exists_blanks {cs word more : List Char} {y : Char} (h : IsPlainRest cs)
    (hcs : cs = word ++ y :: more) (hy : isGap y = true) : ∃ blanks tail,
      (∀ c ∈ blanks, isGap c = true) ∧ tail ≠ [] ∧ y :: more = blanks ++ tail ∧
        ∃ z ∈ tail.head?, isGap z = false ∧ z ≠ '#' := by
  obtain ⟨blanks, tail, htake, hdrop, hsplit, hblanks⟩ := exists_run isGap (y :: more)
  have hnonempty : blanks ≠ [] := by
    rw [← htake, List.takeWhile_cons, if_pos hy]
    simp
  have hlast : blanks.getLast? = some (blanks.getLast hnonempty) :=
    List.getLast?_eq_some_getLast hnonempty
  have hgap : isGap (blanks.getLast hnonempty) = true := hblanks _ (List.getLast_mem hnonempty)
  cases tail with
  | nil =>
      rw [List.append_nil] at hsplit
      have hend : cs.getLast? = some (blanks.getLast hnonempty) := by
        rw [hcs, hsplit, List.getLast?_append_of_ne_nil _ hnonempty, hlast]
      rw [(h.last _ hend).1] at hgap
      cases hgap
  | cons z rest =>
      have hz : isGap z = false := by
        have := List.head?_dropWhile_not isGap (y :: more)
        rw [hdrop] at this
        simpa using this
      have hneighbours := h.neighbours
      rw [hcs, hsplit, ← List.append_assoc, List.isChain_append] at hneighbours
      have hpair := hneighbours.2.2 (blanks.getLast hnonempty)
        (by rw [List.getLast?_append_of_ne_nil _ hnonempty, hlast]; rfl) z rfl
      exact ⟨blanks, z :: rest, hblanks, by simp, hsplit, z, rfl, hz,
        fun heq => hpair.2 ⟨hgap, heq⟩⟩

end IsPlainRest

/-- Neither a blank nor a comment nor the end of a line is at the start of a plain scalar. -/
theorem IsPlainLine.exists_head {cs : List Char} (h : IsPlainLine cs) :
    ∃ x ∈ cs.head?, isGap x = false ∧ x ≠ '#' ∧ isLineEnd x = false := by
  obtain ⟨x, hx, hgap, hindicator⟩ := h.starts
  refine ⟨x, hx, hgap, ?_, (h.chars x (List.mem_of_mem_head? hx)).2⟩
  rintro rfl
  have := (hindicator (by decide)).1
  revert this
  decide

namespace YamlCursor

/-! ## Steps of a cursor -/

variable (c : YamlCursor)

@[simp] theorem rest_skip (n : Nat) : (c.skip n).rest = c.rest.drop n := rfl

@[simp] theorem column_skip (n : Nat) : (c.skip n).column = c.column + n := rfl

@[simp] theorem steps_skip (n : Nat) : (c.skip n).steps = c.steps := rfl

@[simp] theorem skip_zero : c.skip 0 = c := by simp [skip, octetCount]

theorem octetCount_append (cs others : List Char) :
    octetCount (cs ++ others) = octetCount cs + octetCount others := by
  induction cs with
  | nil => rw [List.nil_append, octetCount, Nat.zero_add]
  | cons x rest ih => rw [List.cons_append, octetCount, octetCount, ih, Nat.add_assoc]

/-- Skipping characters at once or in two steps is the same. -/
theorem skip_skip (m n : Nat) : (c.skip m).skip n = c.skip (m + n) := by
  have hcount : octetCount (c.rest.take (m + n)) =
      octetCount (c.rest.take m) + octetCount ((c.rest.drop m).take n) := by
    rw [List.take_add, octetCount_append]
  unfold skip
  simp only [List.drop_drop, hcount, Nat.add_assoc]

/-- Inside of a line there is no mark of a document. -/
theorem isAtDocumentMark_of_column (h : 0 < c.column) : c.isAtDocumentMark = false := by
  have hcolumn : (c.column == 0) = false := by
    rw [beq_eq_false_iff_ne]
    omega
  simp [isAtDocumentMark, isAtMark, hcolumn]

variable {c}

/-! ## Words and blanks -/

/-- A word of a plain scalar goes up to the next blank. -/
theorem plainWord?_rest {cs : List Char} (h : IsPlainRest cs) :
    plainWord? false cs = some (cs.takeWhile fun c => !isGap c) := by
  induction cs with
  | nil => rfl
  | cons x rest ih =>
      have hline : isLineEnd x = false := (h.chars x List.mem_cons_self).2
      by_cases hgap : isGap x = true
      · simp [plainWord?, hgap]
      · have hcolon : (x == ':' && endsWord rest.head?) = false := by
          by_cases hx : x = ':'
          · subst hx
            cases rest with
            | nil => exact absurd rfl (h.last ':' rfl).2
            | cons y more =>
                have hy : isGap y = false := by
                  have := (List.isChain_cons_cons.1 h.neighbours).1.1
                  simpa using this
                have hyline : isLineEnd y = false := (h.chars y (by simp)).2
                simp [endsWord, hy, hyline]
          · simp [hx]
        have hrest : plainWord? false rest = some (rest.takeWhile fun c => !isGap c) := by
          cases rest with
          | nil => rfl
          | cons y more => exact ih ((show IsPlainRest ([x] ++ y :: more) from h).back (by simp))
        simp [plainWord?, hgap, hline, hcolon, hrest]

/-- The blanks between two words are read up to the next word. -/
theorem gapFrom?_blanks {blanks rest : List Char} (hblanks : ∀ c ∈ blanks, isGap c = true)
    (hrest : Stops (fun c => isGap c || isLineEnd c) rest) (indent : Nat) {fuel : Nat}
    (hfuel : blanks.length < fuel) (g : Gap) (hg : g.isBroken = false)
    (hc : c.rest = blanks ++ rest) :
    gapFrom? indent fuel g c =
      some ({ g with blanks := g.blanks ++ blanks }, c.skip blanks.length) := by
  induction blanks generalizing fuel g c with
  | nil =>
      obtain ⟨fuel, rfl⟩ : ∃ n, fuel = n + 1 := ⟨fuel - 1, by simp at hfuel; omega⟩
      rw [gapFrom?]
      cases hnext : c.next? with
      | none => simp
      | some x =>
          have hx := hrest x (by rw [← List.nil_append rest, ← hc]; exact hnext)
          rw [Bool.or_eq_false_iff] at hx
          simp [hx]
  | cons blank more ih =>
      obtain ⟨fuel, rfl⟩ : ∃ n, fuel = n + 1 := ⟨fuel - 1, by simp at hfuel; omega⟩
      obtain ⟨hblank, hmore⟩ := List.forall_mem_cons.1 hblanks
      have hnext : c.next? = some blank := by rw [next?, hc]; rfl
      have hskipped : (c.skip 1).rest = more ++ rest := by rw [rest_skip, hc]; rfl
      rw [gapFrom?, hnext]
      simp only [hblank, hg, if_true, Bool.false_eq_true, if_false]
      rw [ih hmore (by simpa using hfuel) _ rfl hskipped, skip_skip, List.length_cons,
        Nat.add_comm 1]
      simp

theorem gap?_blanks {blanks rest : List Char} (hblanks : ∀ c ∈ blanks, isGap c = true)
    (hrest : Stops (fun c => isGap c || isLineEnd c) rest) (indent : Nat)
    (hsteps : blanks.length < c.steps) (hc : c.rest = blanks ++ rest) :
    c.gap? indent .none = some (⟨false, blanks, [], []⟩, c.skip blanks.length) :=
  gapFrom?_blanks hblanks hrest indent hsteps .none rfl hc

/-- A text that starts with no blank starts with a word. -/
theorem exists_word {cs : List Char} (h : IsPlainRest cs)
    (hstart : ∃ x ∈ cs.head?, isGap x = false) : ∃ word back,
      cs = word ++ back ∧ word ≠ [] ∧ plainWord? false cs = some word ∧
        Stops (fun c => !isGap c) back := by
  obtain ⟨word, back, htake, hdrop, hcs, -⟩ := exists_run (fun c => !isGap c) cs
  refine ⟨word, back, hcs, ?_, by rw [plainWord?_rest h, htake], ?_⟩
  · obtain ⟨x, hx, hgap⟩ := hstart
    rw [← htake]
    cases cs with
    | nil => cases hx
    | cons y rest =>
        obtain rfl := Option.some.inj hx
        simp [hgap]
  · intro y hy
    have := List.head?_dropWhile_not (fun c => !isGap c) cs
    rw [hdrop, hy] at this
    simpa using this

section Step

variable {word : List Char} (hmark : c.isAtDocumentMark = false) (hcomment : c.next? ≠ some '#')
  (hword : plainWord? false c.rest = some word) (hne : word ≠ [])

include hmark hcomment hword hne

/-- A plain scalar ends with a word at the end of the text. -/
theorem plainFrom?_last (hend : (c.skip word.length).next? = none) (indent fuel : Nat) (g : Gap) :
    plainFrom? false indent (fuel + 1) g c = some (g.fold ++ word, c.skip word.length, false) := by
  have hgap : (c.skip word.length).isAtGap = false := by rw [isAtGap, hend]; rfl
  have hline : (c.skip word.length).isAtLineEnd = false := by rw [isAtLineEnd, hend]; rfl
  simp [plainFrom?, hmark, hcomment, hword, hne, hgap, hline]

/-- A plain scalar goes on behind a word and the blanks behind it. -/
theorem plainFrom?_more (hgap : (c.skip word.length).isAtGap = true) {indent : Nat} {next : Gap}
    {after : YamlCursor} (hnext : (c.skip word.length).gap? indent .none = some (next, after))
    (hindent : indent ≤ after.column) (fuel : Nat) (g : Gap) :
    plainFrom? false indent (fuel + 1) g c = (plainFrom? false indent fuel next after).map
      fun (rest, last, isBroken) => (g.fold ++ word ++ rest, last, isBroken) := by
  have hdeep : ¬ after.column < indent := Nat.not_lt.2 hindent
  rw [plainFrom?, hmark, hword]
  simp only [Bool.false_or, beq_iff_eq, if_neg hcomment, Option.bind_eq_bind, Option.bind_some,
    List.isEmpty_iff, if_neg hne, hgap, Bool.true_or, Bool.not_true, Bool.false_eq_true, if_false,
    hnext, Bool.not_false, Bool.true_and, decide_eq_true_eq, if_neg hdeep]
  cases plainFrom? false indent fuel next after with
  | none => rfl
  | some read => rfl

end Step

/-- The words and blanks of a plain scalar are read to the end of the text.  The recursion takes
a word and the blanks behind it. -/
theorem plainFrom?_rest {cs : List Char} (h : IsPlainRest cs)
    (hstart : ∃ x ∈ cs.head?, isGap x = false ∧ x ≠ '#') {indent fuel : Nat} {g : Gap}
    (hg : g.isBroken = false) (hc : c.rest = cs) (hfuel : cs.length ≤ fuel)
    (hsteps : cs.length < c.steps) (hcolumn : 0 < c.column) (hindent : indent ≤ c.column) :
    plainFrom? false indent fuel g c = some (g.blanks ++ cs, c.skip cs.length, false) := by
  induction fuel generalizing cs g c with
  | zero =>
      obtain ⟨x, hx, -⟩ := hstart
      rw [List.length_eq_zero_iff.1 (Nat.le_zero.1 hfuel)] at hx
      cases hx
  | succ fuel ih =>
      obtain ⟨x, hx, hgap, hsharp⟩ := hstart
      obtain ⟨word, back, hcs, hne, hword, hback⟩ := exists_word h ⟨x, hx, hgap⟩
      have hmark := isAtDocumentMark_of_column c hcolumn
      have hcomment : c.next? ≠ some '#' := by
        rw [next?, hc, hx]
        exact fun heq => hsharp (Option.some.inj heq)
      have hskipped : (c.skip word.length).rest = back := by
        rw [rest_skip, hc, hcs, List.drop_left]
      have hfold : g.fold = g.blanks := by rw [Gap.fold, hg]; rfl
      rw [← hc] at hword
      cases back with
      | nil =>
          have hend : (c.skip word.length).next? = none := by rw [next?, hskipped]; rfl
          rw [plainFrom?_last hmark hcomment hword hne hend, hfold, hcs, List.append_nil]
      | cons y more =>
          have hy : isGap y = true := by simpa using hback y rfl
          have hgapAt : (c.skip word.length).isAtGap = true := by
            rw [isAtGap, next?, hskipped]
            exact hy
          obtain ⟨blanks, tail, hblanks, htail, hsplit, z, hz, hzgap, hzsharp⟩ :=
            h.exists_blanks hcs hy
          have hrest : IsPlainRest tail := by
            rw [hcs, hsplit, ← List.append_assoc] at h
            exact h.back htail
          have hstop : Stops (fun c => isGap c || isLineEnd c) tail := by
            intro x hx
            obtain rfl := Option.some.inj (hz.symm.trans hx)
            simp [hzgap, (hrest.chars z (List.mem_of_mem_head? hz)).2]
          have hlength : cs.length = word.length + (blanks.length + tail.length) := by
            rw [hcs, hsplit, List.length_append, List.length_append]
          have hwordPos : 0 < word.length := List.length_pos_iff.2 hne
          have hnext := gap?_blanks hblanks hstop indent (by rw [steps_skip]; omega)
            (hskipped.trans hsplit)
          have hafter : ((c.skip word.length).skip blanks.length).rest = tail := by
            rw [rest_skip, hskipped, hsplit, List.drop_left]
          have hdeep : indent ≤ ((c.skip word.length).skip blanks.length).column := by
            rw [column_skip, column_skip]
            omega
          have hread := ih (g := ⟨false, blanks, [], []⟩) hrest ⟨z, hz, hzgap, hzsharp⟩ rfl hafter
            (by omega) (by rw [steps_skip, steps_skip]; omega)
            (by rw [column_skip, column_skip]; omega) hdeep
          rw [plainFrom?_more hmark hcomment hword hne hgapAt hnext hdeep, hread, hfold, skip_skip,
            skip_skip, ← hlength, Option.map_some]
          simp only [hcs, hsplit, List.append_assoc]

/-- A text that can stand without quotes on one line is read as it is written. -/
theorem plain?_line {cs : List Char} (h : IsPlainLine cs) {indent : Nat} (hc : c.rest = cs)
    (hsteps : cs.length < c.steps) (hcolumn : 0 < c.column) (hindent : indent ≤ c.column) :
    c.plain? false indent = some (cs, c.skip cs.length, false) := by
  obtain ⟨x, hx, hgap, hsharp, -⟩ := h.exists_head
  exact plainFrom?_rest h.toIsPlainRest ⟨x, hx, hgap, hsharp⟩ rfl hc hsteps.le hsteps hcolumn
    hindent

end YamlCursor

end DesiredState
