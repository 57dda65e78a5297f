import DesiredState.Text.SingleQuoted
import Mathlib.Data.List.Infix

/-!
# Typographic quotes

The interpreter of a script takes five characters for a quote when it is inside of a
literal: the plain single quote and four typographic ones.  Two of them in a row stand
for one character, the second; a quote on its own ends the literal, whichever of the
five it is.

A literal is written with its plain quotes doubled.  The typographic ones are written
as they are, so each of them counts as one quote where two would be needed.  Counting
shows that no text with such a quote is read back: reading a text takes two quotes off
the literal for each quote it yields, and one to close it.

## Main definitions

* `SingleQuoted.isQuote` — the characters that count as a quote.
* `SingleQuoted.read?` — the text of the literal at the start of a script, and what
  follows the literal.
* `SingleQuoted.Plain` — texts without typographic quotes.

## Main results

* `SingleQuoted.countP_readRest?` — how many quotes a literal takes.
* `SingleQuoted.read?_write_append_iff` — the literal of a text is read back where it
  stands, exactly if the text is plain.
-/

namespace DesiredState.SingleQuoted

/-- The quotes that only count as such inside of a literal. -/
def typographicQuotes : List Char := ['\u2018', '\u2019', '\u201a', '\u201b']

/-- Whether the interpreter takes a character for a quote inside of a literal. -/
def isQuote (c : Char) : Bool := c == '\'' || typographicQuotes.contains c

/-- The content of a literal behind its opening quote, and what follows the closing one. -/
def readRest? : List Char → Option (List Char × List Char)
  | [] => none
  | [c] => if isQuote c then some ([], []) else none
  | c :: d :: rest =>
      if isQuote c then
        if isQuote d then (readRest? rest).map fun (content, back) => (d :: content, back)
        else some ([], d :: rest)
      else (readRest? (d :: rest)).map fun (content, back) => (c :: content, back)

/-- The text of the literal that a script starts with, and what follows the literal. -/
def read? : List Char → Option (String × List Char)
  | '\'' :: rest => (readRest? rest).map fun (content, back) => (String.ofList content, back)
  | _ => none

/-- Whether a text has no typographic quotes. -/
def Plain (s : String) : Prop := ∀ c ∈ s.toList, c ∉ typographicQuotes

instance (s : String) : Decidable (Plain s) := List.decidableBAll _ s.toList

/-- What follows a literal does not start with a quote, and can not be taken for a part
of it. -/
def StartsApart (back : List Char) : Prop := ∀ c, back.head? = some c → isQuote c = false

instance (back : List Char) : Decidable (StartsApart back) :=
  match back with
  | [] => .isTrue (by simp [StartsApart])
  | c :: rest => decidable_of_iff (isQuote c = false) (by simp [StartsApart])

theorem plain_append {front back : String} : Plain (front ++ back) ↔ Plain front ∧ Plain back := by
  rw [Plain, String.toList_append, List.forall_mem_append]
  exact Iff.rfl

/-! ## Counting quotes -/

/-- A literal takes two quotes for each quote of its text, and one to end. -/
theorem countP_readRest? {cs content back : List Char}
    (h : readRest? cs = some (content, back)) :
    cs.countP isQuote = 2 * content.countP isQuote + 1 + back.countP isQuote := by
  fun_induction readRest? cs generalizing content back with
  | case1 => cases h
  | case2 c hc =>
      obtain ⟨rfl, rfl⟩ := Prod.mk.inj (Option.some.inj h)
      simp [hc]
  | case3 => cases h
  | case4 c d rest hc hd ih =>
      obtain ⟨⟨inner, behind⟩, hrest, heq⟩ := Option.map_eq_some_iff.1 h
      obtain ⟨rfl, rfl⟩ := Prod.mk.inj heq
      have hcount := ih hrest
      simp only [List.countP_cons, hc, hd, if_true]
      omega
  | case5 c d rest hc hd =>
      obtain ⟨rfl, rfl⟩ := Prod.mk.inj (Option.some.inj h)
      simp only [List.countP_cons, List.countP_nil, hc, hd, if_true]
      simp
      omega
  | case6 c d rest hc ih =>
      obtain ⟨⟨inner, behind⟩, hrest, heq⟩ := Option.map_eq_some_iff.1 h
      obtain ⟨rfl, rfl⟩ := Prod.mk.inj heq
      have hcount := ih hrest
      rw [List.countP_cons_of_neg hc, List.countP_cons_of_neg hc, hcount]

/-- Writing adds one quote for each plain one. -/
theorem countP_escape (cs : List Char) :
    (escape cs).countP isQuote = cs.countP isQuote + cs.count '\'' := by
  induction cs with
  | nil => rfl
  | cons c rest ih =>
      by_cases hc : c = '\''
      · subst hc
        have hquote : isQuote '\'' = true := rfl
        rw [escape, if_pos rfl, List.countP_cons_of_pos hquote, List.countP_cons_of_pos hquote,
          List.countP_cons_of_pos hquote, List.count_cons_self, ih]
        omega
      · rw [escape, if_neg hc, List.countP_cons, List.countP_cons, List.count_cons_of_ne hc, ih]
        omega

/-- All quotes of a text are plain ones, if they are as many. -/
theorem plain_of_countP_le {s : String} (h : s.toList.countP isQuote ≤ s.toList.count '\'') :
    Plain s := by
  intro c hc htypographic
  obtain ⟨front, back, hsplit⟩ := List.append_of_mem hc
  have hsub : ∀ cs : List Char, cs.count '\'' ≤ cs.countP isQuote := by
    intro cs
    rw [List.count]
    refine List.countP_mono_left fun d _ hd => ?_
    rw [beq_iff_eq] at hd
    subst hd
    rfl
  have hquote : isQuote c = true := by simp [isQuote, htypographic]
  have hne : c ≠ '\'' := by
    rintro rfl
    exact absurd htypographic (by decide)
  have hfront := hsub front
  have hback := hsub back
  rw [hsplit, List.countP_append, List.count_append, List.countP_cons_of_pos hquote,
    List.count_cons_of_ne hne] at h
  omega

/-! ## Reading a literal back -/

theorem readRest?_quote {back : List Char} (h : StartsApart back) :
    readRest? ('\'' :: back) = some ([], back) := by
  cases back with
  | nil => rfl
  | cons d rest =>
      have hd : isQuote d = false := h d rfl
      have hquote : isQuote '\'' = true := rfl
      simp [readRest?, hquote, hd]

theorem readRest?_of_not_isQuote {c : Char} (hc : isQuote c = false) (rest : List Char) :
    readRest? (c :: rest) =
      (readRest? rest).map fun (content, back) => (c :: content, back) := by
  cases rest with
  | nil => simp [readRest?, hc]
  | cons d rest => simp [readRest?, hc]

/-- A text without typographic quotes is read back from its literal. -/
theorem readRest?_escape {cs back : List Char} (hcs : ∀ c ∈ cs, c ∉ typographicQuotes)
    (h : StartsApart back) : readRest? (escape cs ++ '\'' :: back) = some (cs, back) := by
  induction cs with
  | nil => exact readRest?_quote h
  | cons c rest ih =>
      obtain ⟨hfirst, hrest⟩ := List.forall_mem_cons.1 hcs
      by_cases hc : c = '\''
      · subst hc
        have hquote : isQuote '\'' = true := rfl
        simp only [escape, if_true, List.cons_append, readRest?, hquote, ih hrest,
          Option.map_some]
      · have hplain : isQuote c = false := by simp [isQuote, hc, hfirst]
        rw [escape, if_neg hc, List.cons_append, readRest?_of_not_isQuote hplain, ih hrest]
        rfl

theorem read?_write_append (s : String) (back : List Char) :
    read? (write s ++ back) = (readRest? (escape s.toList ++ '\'' :: back)).map
      fun (content, back) => (String.ofList content, back) := by
  rw [write, List.cons_append, List.append_assoc, read?]
  rfl

/-- The literal of a text is read back where it stands, exactly if the text has no
typographic quotes. -/
theorem read?_write_append_iff (s : String) {back : List Char} (h : StartsApart back) :
    read? (write s ++ back) = some (s, back) ↔ Plain s := by
  rw [read?_write_append]
  constructor
  · intro hread
    obtain ⟨⟨content, behind⟩, hrest, heq⟩ := Option.map_eq_some_iff.1 hread
    obtain ⟨hcontent, rfl⟩ := Prod.mk.inj heq
    have hcs : content = s.toList := by rw [← hcontent, String.toList_ofList]
    subst hcs
    -- both sides of the count are known: the written literal, and what was read
    have hcount := countP_readRest? hrest
    rw [List.countP_append, countP_escape, List.countP_cons_of_pos (by rfl)] at hcount
    exact plain_of_countP_le (by omega)
  · intro hplain
    rw [readRest?_escape hplain h]
    simp

/-- With a typographic quote in it, a text ends its own literal. -/
theorem not_forall_read?_write : ¬ ∀ s, read? (write s) = some (s, []) := by
  intro h
  have hinjected : read? (write "\u2019; Restart-Computer #") =
      some ("", "; Restart-Computer #'".toList) := by decide +kernel
  rw [h] at hinjected
  exact absurd hinjected (by decide +kernel)

end DesiredState.SingleQuoted
