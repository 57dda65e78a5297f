import DesiredState.Script.Expr

/-!
# Reading literals

The literals of a script have a grammar of their own: constants, names of the
special numbers, decimal numbers, texts between single quotes with an optional
marker, arrays, arrays of instances behind their type, and tables.  This module
reads that grammar.  The result is a syntax tree, which keeps everything that
the text shows: the characters of a number, the marker, the type, and the order
of the entries.

A tree is read back from what is written for it, whatever follows, as long as
the text that follows can not extend a literal.  So a tree has one text, and
two trees never share one.

## Main definitions

* `Literal`, `Literal.write` — syntax trees, and their texts.
* `Literal.Proper` — the trees that stand for a text of the grammar.
* `readTree?`, `Literal.read?` — the tree at the start of a text, and of a
  whole text.

## Main results

* `readTree?_write` — a tree is read back, and the reader stops behind it.
* `Literal.write_injective` — different trees have different texts.
-/

namespace DesiredState

/-- A literal of a script. -/
inductive Literal where
  | null
  | bool (b : Bool)
  /-- A number that is written by its name. -/
  | special (x : Binary64)
  /-- A number that is written with digits. -/
  | number (cs : List Char)
  | text (s : String)
  /-- A text with the marker behind it. -/
  | sensitive (s : String)
  | array (items : List Literal)
  /-- A literal behind the type of arrays of instances. -/
  | cast (inner : Literal)
  | table (entries : List (String × Literal))

namespace Literal

/-- The type of arrays of instances in front of a literal. -/
def castToken : List Char := '[' :: (instanceArrayType.toList ++ [']'])

/-- The marker with the blank in front of it. -/
def markerToken : List Char := ' ' :: Expr.sensitiveMarker.toList

/-- What stands between the key of an entry and its value. -/
def assignToken : List Char := [' ', '=', ' ']

mutual

/-- The text of a literal. -/
def write : Literal → List Char
  | null => ['$', 'n', 'u', 'l', 'l']
  | bool true => ['$', 't', 'r', 'u', 'e']
  | bool false => ['$', 'f', 'a', 'l', 's', 'e']
  | special x => Expr.floatLayout.write x
  | number cs => cs
  | text s => SingleQuoted.write s
  | sensitive s => SingleQuoted.write s ++ markerToken
  | array items => '@' :: '(' :: writeItems items
  | cast inner => castToken ++ write inner
  | table entries => '@' :: '\x7b' :: writeEntries entries

/-- The items of an array with the bracket behind them. -/
def writeItems : List Literal → List Char
  | [] => [')']
  | item :: rest => write item ++ writeMoreItems rest

/-- The items behind the first one. -/
def writeMoreItems : List Literal → List Char
  | [] => [')']
  | item :: rest => ',' :: ' ' :: (write item ++ writeMoreItems rest)

/-- The entries of a table with the bracket behind them. -/
def writeEntries : List (String × Literal) → List Char
  | [] => ['\x7d']
  | (key, value) :: rest =>
      SingleQuoted.write key ++ (assignToken ++ (write value ++ writeMoreEntries rest))

/-- The entries behind the first one. -/
def writeMoreEntries : List (String × Literal) → List Char
  | [] => ['\x7d']
  | (key, value) :: rest =>
      ';' :: ' ' ::
        (SingleQuoted.write key ++ (assignToken ++ (write value ++ writeMoreEntries rest)))

end

/-! ## The reader -/

/-- Takes a token off the front of a text. -/
def eat? (token cs : List Char) : Option (List Char) :=
  if token.isPrefixOf cs then some (cs.drop token.length) else none

/-- Whether a character can belong to a number. -/
def isNumberChar (c : Char) : Bool :=
  c.isDigit || c == '-' || c == '+' || c == '.' || c == 'e'

/-- The words of the grammar. -/
def words : List (List Char × Literal) :=
  [ ("$null".toList, null),
    ("$true".toList, bool true),
    ("$false".toList, bool false),
    ("[double]::NaN".toList, special .nan),
    ("[double]::PositiveInfinity".toList, special (.infinite false)),
    ("[double]::NegativeInfinity".toList, special (.infinite true)) ]

/-- The word at the start of a text, and the text behind it. -/
def readWord? (cs : List Char) : Option (Literal × List Char) :=
  words.findSome? fun (word, t) => (eat? word cs).map (t, ·)

/-- The characters of a text behind its opening quote, and what follows its
closing one. -/
def readQuoted? : List Char → Option (List Char × List Char)
  | '\'' :: '\'' :: rest => (readQuoted? rest).map fun (cs, rest) => ('\'' :: cs, rest)
  | '\'' :: rest => some ([], rest)
  | c :: rest => (readQuoted? rest).map fun (cs, rest) => (c :: cs, rest)
  | [] => none

/-- A text with an optional marker, behind its opening quote. -/
def readText? (cs : List Char) : Option (Literal × List Char) := do
  let (content, rest) ← readQuoted? cs
  match eat? markerToken rest with
  | some rest => pure (sensitive (String.ofList content), rest)
  | none => pure (text (String.ofList content), rest)

/-- The key of an entry, up to the value. -/
def readKey? (cs : List Char) : Option (String × List Char) := do
  let rest ← eat? ['\''] cs
  let (content, rest) ← readQuoted? rest
  let rest ← eat? assignToken rest
  pure (String.ofList content, rest)

/-- A number: as many characters of numbers as there are, but at least one. -/
def readNumber? (cs : List Char) : Option (Literal × List Char) :=
  if (cs.takeWhile isNumberChar).isEmpty then none
  else some (number (cs.takeWhile isNumberChar), cs.dropWhile isNumberChar)

mutual

/-- The literal at the start of a text, and what follows it.  Each of the
readers takes a character or hands the text on to one that does, so two steps
for each character are enough. -/
def readTree? : Nat → List Char → Option (Literal × List Char)
  | 0, _ => none
  | fuel + 1, cs =>
      match readWord? cs with
      | some result => some result
      | none =>
        match eat? castToken cs with
        | some rest => (readTree? fuel rest).map fun (inner, rest) => (cast inner, rest)
        | none =>
          match eat? ['\''] cs with
          | some rest => readText? rest
          | none =>
            match eat? ['@', '('] cs with
            | some rest =>
                match eat? [')'] rest with
                | some rest => some (array [], rest)
                | none => (readItems? fuel rest).map fun (items, rest) => (array items, rest)
            | none =>
              match eat? ['@', '\x7b'] cs with
              | some rest =>
                  match eat? ['\x7d'] rest with
                  | some rest => some (table [], rest)
                  | none =>
                      (readEntries? fuel rest).map fun (entries, rest) => (table entries, rest)
              | none => readNumber? cs

/-- The items of an array that has some, and what follows its bracket. -/
def readItems? : Nat → List Char → Option (List Literal × List Char)
  | 0, _ => none
  | fuel + 1, cs =>
      (readTree? fuel cs).bind fun (item, rest) =>
        match eat? [')'] rest with
        | some rest => some ([item], rest)
        | none =>
            (eat? [',', ' '] rest).bind fun rest =>
              (readItems? fuel rest).map fun (items, rest) => (item :: items, rest)

/-- The entries of a table that has some, and what follows its bracket. -/
def readEntries? : Nat → List Char → Option (List (String × Literal) × List Char)
  | 0, _ => none
  | fuel + 1, cs =>
      (readKey? cs).bind fun (key, rest) =>
        (readTree? fuel rest).bind fun (value, rest) =>
          match eat? ['\x7d'] rest with
          | some rest => some ([(key, value)], rest)
          | none =>
              (eat? [';', ' '] rest).bind fun rest =>
                (readEntries? fuel rest).map fun (entries, rest) =>
                  ((key, value) :: entries, rest)

end

/-- The literal that a whole text is. -/
def read? (cs : List Char) : Option Literal :=
  match readTree? (2 * cs.length) cs with
  | some (t, []) => some t
  | _ => none

/-! ## The trees of the grammar -/

/-- The trees that stand for a text of the grammar: numbers by name have one,
and the other numbers have characters, all of them characters of numbers. -/
inductive Proper : Literal → Prop
  | null : Proper null
  | bool (b : Bool) : Proper (bool b)
  | nan : Proper (special .nan)
  | infinite (negative : Bool) : Proper (special (.infinite negative))
  | number {cs : List Char} (hne : cs ≠ []) (hchars : ∀ c ∈ cs, isNumberChar c = true) :
      Proper (number cs)
  | text (s : String) : Proper (text s)
  | sensitive (s : String) : Proper (sensitive s)
  | array {items : List Literal} (h : ∀ item ∈ items, Proper item) : Proper (array items)
  | cast {inner : Literal} (h : Proper inner) : Proper (cast inner)
  | table {entries : List (String × Literal)} (h : ∀ entry ∈ entries, Proper entry.2) :
      Proper (table entries)

/-- Whether a text can not extend a literal in front of it: it is empty, or
starts with a separator or a closing bracket. -/
def Stops : List Char → Prop
  | [] => True
  | c :: _ => c = ')' ∨ c = '\x7d' ∨ c = ',' ∨ c = ';'

/-! ## Tokens are read back -/

@[simp] theorem eat?_append (token rest : List Char) : eat? token (token ++ rest) = some rest := by
  simp [eat?]

theorem eat?_of_head_ne {c d : Char} (h : c ≠ d) (token rest : List Char) :
    eat? (c :: token) (d :: rest) = none := by
  simp [eat?, h]

theorem eat?_of_head?_ne {c : Char} {rest : List Char} (h : rest.head? ≠ some c) :
    eat? [c] rest = none := by
  cases rest with
  | nil => rfl
  | cons d rest => exact eat?_of_head_ne (by simpa [eq_comm] using h) _ _

/-- No literal is followed by the marker by accident. -/
theorem eat?_marker_of_stops {rest : List Char} (h : Stops rest) :
    eat? markerToken rest = none := by
  cases rest with
  | nil => rfl
  | cons c rest =>
      refine eat?_of_head_ne ?_ _ _
      rcases h with rfl | rfl | rfl | rfl <;> decide

/-- Words and types start with a dollar sign or a bracket. -/
theorem readWord?_of_head {c : Char} (hdollar : c ≠ '$') (hbracket : c ≠ '[') (rest : List Char) :
    readWord? (c :: rest) = none := by
  have hheads : ∀ entry ∈ words, entry.1.head? = some '$' ∨ entry.1.head? = some '[' := by
    simp [words]
  rw [readWord?, List.findSome?_eq_none_iff]
  rintro ⟨word, t⟩ hmem
  have hhead := hheads _ hmem
  cases word with
  | nil => simp at hhead
  | cons d word =>
      have hne : d ≠ c := by
        rintro rfl
        simp at hhead
        exact hhead.elim hdollar hbracket
      simp [eat?_of_head_ne hne]

theorem eat?_cast_of_head {c : Char} (h : c ≠ '[') (rest : List Char) :
    eat? castToken (c :: rest) = none :=
  eat?_of_head_ne h.symm _ _

/-- A quoted text is read back when no quote follows it. -/
theorem readQuoted?_escape (cs : List Char) {rest : List Char} (h : rest.head? ≠ some '\'') :
    readQuoted? (SingleQuoted.escape cs ++ '\'' :: rest) = some (cs, rest) := by
  induction cs with
  | nil =>
      cases rest with
      | nil => rfl
      | cons c rest =>
          have hc : c ≠ '\'' := by simpa using h
          simp [SingleQuoted.escape, readQuoted?, hc]
  | cons c cs ih =>
      by_cases hc : c = '\''
      · subst hc
        simp [SingleQuoted.escape, readQuoted?, ih]
      · simp [SingleQuoted.escape, readQuoted?, hc, ih]

theorem readText?_write (s : String) {rest : List Char} (h : Stops rest) :
    readText? (SingleQuoted.escape s.toList ++ '\'' :: rest) = some (text s, rest) := by
  have hhead : rest.head? ≠ some '\'' := by
    cases rest with
    | nil => simp
    | cons c rest => rcases h with rfl | rfl | rfl | rfl <;> simp
  simp [readText?, readQuoted?_escape _ hhead, eat?_marker_of_stops h]

theorem readText?_write_marker (s : String) (rest : List Char) :
    readText? (SingleQuoted.escape s.toList ++ '\'' :: (markerToken ++ rest)) =
      some (sensitive s, rest) := by
  have hhead : (markerToken ++ rest).head? ≠ some '\'' := by simp [markerToken]
  simp [readText?, readQuoted?_escape _ hhead]

theorem readKey?_write (key : String) (rest : List Char) :
    readKey? (SingleQuoted.write key ++ (assignToken ++ rest)) = some (key, rest) := by
  have hhead : (assignToken ++ rest).head? ≠ some '\'' := by simp [assignToken]
  have hopen : eat? ['\''] (SingleQuoted.write key ++ (assignToken ++ rest)) =
      some (SingleQuoted.escape key.toList ++ '\'' :: (assignToken ++ rest)) := by
    simp [eat?, SingleQuoted.write]
  simp only [readKey?, hopen, readQuoted?_escape _ hhead, eat?_append, Option.bind_eq_bind,
    Option.bind_some, Option.pure_def, String.ofList_toList]

/-- The characters of a number end where the literal ends. -/
theorem readNumber?_append {cs : List Char} (hne : cs ≠ [])
    (hchars : ∀ c ∈ cs, isNumberChar c = true) {rest : List Char} (h : Stops rest) :
    readNumber? (cs ++ rest) = some (number cs, rest) := by
  have hstop : ∀ c, rest.head? = some c → isNumberChar c = false := by
    intro c hc
    cases rest with
    | nil => simp at hc
    | cons d rest =>
        obtain rfl : d = c := by simpa using hc
        rcases h with rfl | rfl | rfl | rfl <;> decide
  have htake : rest.takeWhile isNumberChar = [] := by
    cases rest with
    | nil => rfl
    | cons c rest => simp [hstop c rfl]
  have hdrop : rest.dropWhile isNumberChar = rest := by
    cases rest with
    | nil => rfl
    | cons c rest => simp [hstop c rfl]
  simp [readNumber?, List.takeWhile_append_of_pos hchars, List.dropWhile_append_of_pos hchars,
    htake, hdrop, hne]

/-! ## Trees are read back

The three readers are followed through the three kinds of lists at once.  The
fuel is measured by the text of the tree alone, so what follows it may be of
any length.
-/

theorem write_length_pos {t : Literal} (ht : t.Proper) : 0 < t.write.length := by
  cases ht with
  | bool b => cases b <;> decide
  | infinite negative => cases negative <;> decide
  | number hne hchars => exact List.length_pos_iff.2 hne
  | cast h => simp [write, castToken]
  | null => decide
  | nan => decide
  | _ => simp [write, SingleQuoted.write]

/-- A quote opens a text. -/
theorem readTree?_quote (fuel : Nat) (rest : List Char) :
    readTree? (fuel + 1) ('\'' :: rest) = readText? rest := by
  rw [readTree?, readWord?_of_head (by decide) (by decide), eat?_cast_of_head (by decide)]
  rfl

/-- A type stands in front of a literal. -/
theorem readTree?_cast (fuel : Nat) (rest : List Char) :
    readTree? (fuel + 1) (castToken ++ rest) =
      (readTree? fuel rest).map fun (inner, rest) => (cast inner, rest) := by
  have hword : readWord? (castToken ++ rest) = none := rfl
  rw [readTree?, hword, eat?_append]

/-- What follows the bracket of an array is its items, unless it closes at once. -/
theorem readTree?_items (fuel : Nat) {rest : List Char} (h : rest.head? ≠ some ')') :
    readTree? (fuel + 1) ('@' :: '(' :: rest) =
      (readItems? fuel rest).map fun (items, rest) => (array items, rest) := by
  have hclose : eat? [')'] rest = none := eat?_of_head?_ne h
  rw [readTree?, readWord?_of_head (by decide) (by decide), eat?_cast_of_head (by decide),
    eat?_of_head_ne (by decide), show eat? ['@', '('] ('@' :: '(' :: rest) = some rest from rfl]
  simp only [hclose]

/-- What follows the bracket of a table is its entries, unless it closes at once. -/
theorem readTree?_entries (fuel : Nat) {rest : List Char} (h : rest.head? ≠ some '\x7d') :
    readTree? (fuel + 1) ('@' :: '\x7b' :: rest) =
      (readEntries? fuel rest).map fun (entries, rest) => (table entries, rest) := by
  have hclose : eat? ['\x7d'] rest = none := eat?_of_head?_ne h
  rw [readTree?, readWord?_of_head (by decide) (by decide), eat?_cast_of_head (by decide),
    eat?_of_head_ne (by decide), show eat? ['@', '('] ('@' :: '\x7b' :: rest) = none from rfl,
    show eat? ['@', '\x7b'] ('@' :: '\x7b' :: rest) = some rest from rfl]
  simp only [hclose]

/-- Characters of numbers are a number. -/
theorem readTree?_number (fuel : Nat) {c : Char} {cs : List Char}
    (hchars : ∀ d ∈ c :: cs, isNumberChar d = true) {rest : List Char} (hrest : Stops rest) :
    readTree? (fuel + 1) (c :: cs ++ rest) = some (number (c :: cs), rest) := by
  have hc := hchars c (by simp)
  have hother : ∀ d, isNumberChar d = false → d ≠ c := by
    rintro d hd rfl
    simp [hd] at hc
  rw [readTree?, List.cons_append, readWord?_of_head (hother _ (by decide)).symm
      (hother _ (by decide)).symm, eat?_cast_of_head (hother _ (by decide)).symm,
    eat?_of_head_ne (hother _ (by decide)), eat?_of_head_ne (hother _ (by decide)),
    eat?_of_head_ne (hother _ (by decide))]
  exact readNumber?_append (by simp) hchars hrest

/-- The text of a tree does not start with a closing bracket. -/
theorem head?_write {t : Literal} (ht : t.Proper) (rest : List Char) :
    (t.write ++ rest).head? ≠ some ')' := by
  cases ht with
  | null => show some '$' ≠ some ')'; decide
  | bool b => cases b <;> (show some '$' ≠ some ')'; decide)
  | nan => show some '[' ≠ some ')'; decide
  | infinite negative => cases negative <;> (show some '[' ≠ some ')'; decide)
  | @number cs hne hchars =>
      obtain ⟨c, cs, rfl⟩ := List.exists_cons_of_ne_nil hne
      have hc := hchars c (by simp)
      simp only [write, List.cons_append, List.head?_cons]
      rintro ⟨rfl⟩
      simp [isNumberChar] at hc
  | text s => show some '\'' ≠ some ')'; decide
  | sensitive s => show some '\'' ≠ some ')'; decide
  | array h => show some '@' ≠ some ')'; decide
  | cast h => show some '[' ≠ some ')'; decide
  | table h => show some '@' ≠ some ')'; decide

/-- Whether a tree is read back, whatever follows its text. -/
def ReadsBack (t : Literal) : Prop :=
  ∀ fuel rest, 2 * t.write.length ≤ fuel → Stops rest →
    readTree? fuel (t.write ++ rest) = some (t, rest)

/-- The items of an array are read back when each of them is. -/
theorem readItems?_write (item : Literal) (items : List Literal)
    (hproper : ∀ t ∈ item :: items, t.Proper) (hback : ∀ t ∈ item :: items, t.ReadsBack)
    (fuel : Nat) (rest : List Char) (hfuel : 2 * (writeItems (item :: items)).length ≤ fuel) :
    readItems? fuel (writeItems (item :: items) ++ rest) = some (item :: items, rest) := by
  induction items generalizing item fuel with
  | nil =>
      have hpos := write_length_pos (hproper item (by simp))
      simp only [writeItems, writeMoreItems, List.length_append, List.length_cons,
        List.length_nil] at hfuel
      obtain ⟨fuel, rfl⟩ : ∃ n, fuel = n + 1 := ⟨fuel - 1, by omega⟩
      have hitem := hback item (by simp) fuel (')' :: rest) (by omega) (by simp [Stops])
      simp only [writeItems, writeMoreItems, List.append_assoc, List.cons_append,
        List.nil_append, readItems?, hitem]
      rfl
  | cons next items ih =>
      have hpos := write_length_pos (hproper item (by simp))
      simp only [writeItems, writeMoreItems, List.length_append, List.length_cons] at hfuel
      obtain ⟨fuel, rfl⟩ : ∃ n, fuel = n + 1 := ⟨fuel - 1, by omega⟩
      have hitem := hback item (by simp) fuel (',' :: ' ' :: (writeItems (next :: items) ++ rest))
        (by omega) (by simp [Stops])
      have htail := ih next (fun t ht => hproper t (by simp [List.mem_cons.1 ht]))
        (fun t ht => hback t (by simp [List.mem_cons.1 ht])) fuel
        (by simp only [writeItems, List.length_append]; omega)
      have hshape : writeItems (item :: next :: items) ++ rest =
          item.write ++ (',' :: ' ' :: (writeItems (next :: items) ++ rest)) := by
        simp [writeItems, writeMoreItems]
      rw [hshape, readItems?, hitem, Option.bind_some]
      simp [eat?, htail]

/-- The entries of a table are read back when each value is. -/
theorem readEntries?_write (key : String) (value : Literal) (entries : List (String × Literal))
    (hproper : ∀ e ∈ (key, value) :: entries, e.2.Proper)
    (hback : ∀ e ∈ (key, value) :: entries, e.2.ReadsBack) (fuel : Nat) (rest : List Char)
    (hfuel : 2 * (writeEntries ((key, value) :: entries)).length ≤ fuel) :
    readEntries? fuel (writeEntries ((key, value) :: entries) ++ rest) =
      some ((key, value) :: entries, rest) := by
  induction entries generalizing key value fuel with
  | nil =>
      have hpos : 0 < value.write.length := write_length_pos (hproper (key, value) (by simp))
      simp only [writeEntries, writeMoreEntries, List.length_append, List.length_cons,
        List.length_nil] at hfuel
      obtain ⟨fuel, rfl⟩ : ∃ n, fuel = n + 1 := ⟨fuel - 1, by omega⟩
      have hback : value.ReadsBack := hback (key, value) (by simp)
      have hvalue := hback fuel ('\x7d' :: rest) (by omega) (by simp [Stops])
      simp only [writeEntries, writeMoreEntries, List.append_assoc, List.cons_append,
        List.nil_append, readEntries?, readKey?_write, Option.bind_some, hvalue]
      rfl
  | cons entry entries ih =>
      obtain ⟨next, nextValue⟩ := entry
      have hpos : 0 < value.write.length := write_length_pos (hproper (key, value) (by simp))
      simp only [writeEntries, writeMoreEntries, List.length_append, List.length_cons] at hfuel
      obtain ⟨fuel, rfl⟩ : ∃ n, fuel = n + 1 := ⟨fuel - 1, by omega⟩
      have hhead : value.ReadsBack := hback (key, value) (by simp)
      have hvalue := hhead fuel
        (';' :: ' ' :: (writeEntries ((next, nextValue) :: entries) ++ rest))
        (by omega) (by simp [Stops])
      have htail := ih next nextValue (fun e he => hproper e (List.mem_cons_of_mem _ he))
        (fun e he => hback e (List.mem_cons_of_mem _ he)) fuel
        (by simp only [writeEntries, List.length_append]; omega)
      have hshape : writeEntries ((key, value) :: (next, nextValue) :: entries) ++ rest =
          SingleQuoted.write key ++ (assignToken ++ (value.write ++
            (';' :: ' ' :: (writeEntries ((next, nextValue) :: entries) ++ rest)))) := by
        simp [writeEntries, writeMoreEntries]
      rw [hshape, readEntries?, readKey?_write, Option.bind_some]
      simp only [hvalue, Option.bind_some]
      simp [eat?, htail]

/-- The text of a tree is not empty, so the reader has a step for it. -/
theorem readsBack_of_step {t : Literal} (ht : t.Proper)
    (h : ∀ fuel rest, 2 * t.write.length ≤ fuel + 1 → Stops rest →
      readTree? (fuel + 1) (t.write ++ rest) = some (t, rest)) : t.ReadsBack := by
  intro fuel rest hfuel hrest
  have hpos := write_length_pos ht
  obtain ⟨fuel, rfl⟩ : ∃ n, fuel = n + 1 := ⟨fuel - 1, by omega⟩
  exact h fuel rest hfuel hrest

/-- A tree is read back from its text, and the reader stops behind it. -/
theorem readTree?_write {t : Literal} (ht : t.Proper) : t.ReadsBack := by
  induction ht with
  | null => exact readsBack_of_step .null fun _ _ _ _ => rfl
  | bool b => exact readsBack_of_step (.bool b) fun _ _ _ _ => by cases b <;> rfl
  | nan => exact readsBack_of_step .nan fun _ _ _ _ => rfl
  | infinite negative =>
      exact readsBack_of_step (.infinite negative) fun _ _ _ _ => by cases negative <;> rfl
  | @number cs hne hchars =>
      refine readsBack_of_step (.number hne hchars) fun fuel rest _ hrest => ?_
      obtain ⟨c, cs, rfl⟩ := List.exists_cons_of_ne_nil hne
      exact readTree?_number fuel hchars hrest
  | text s =>
      refine readsBack_of_step (.text s) fun fuel rest _ hrest => ?_
      simp only [write, SingleQuoted.write, List.cons_append, List.append_assoc,
        List.nil_append, readTree?_quote]
      exact readText?_write s hrest
  | sensitive s =>
      refine readsBack_of_step (.sensitive s) fun fuel rest _ _ => ?_
      simp only [write, SingleQuoted.write, List.cons_append, List.append_assoc,
        List.nil_append, readTree?_quote]
      exact readText?_write_marker s rest
  | @array items h ih =>
      refine readsBack_of_step (.array h) fun fuel rest hfuel _ => ?_
      cases items with
      | nil => rfl
      | cons item items =>
          have hhead : (writeItems (item :: items) ++ rest).head? ≠ some ')' := by
            rw [writeItems, List.append_assoc]
            exact head?_write (h item (by simp)) _
          have hlength : 2 * (writeItems (item :: items)).length ≤ fuel := by
            simp only [write, List.length_cons] at hfuel
            omega
          rw [write, List.cons_append, List.cons_append, readTree?_items _ hhead,
            readItems?_write item items h ih fuel rest hlength]
          rfl
  | @cast inner h ih =>
      refine readsBack_of_step (.cast h) fun fuel rest hfuel hrest => ?_
      have hlength : 2 * inner.write.length ≤ fuel := by
        simp only [write, castToken, List.length_append, List.length_cons] at hfuel
        omega
      rw [write, List.append_assoc, readTree?_cast, ih fuel rest hlength hrest]
      rfl
  | @table entries h ih =>
      refine readsBack_of_step (.table h) fun fuel rest hfuel _ => ?_
      cases entries with
      | nil => rfl
      | cons entry entries =>
          obtain ⟨key, value⟩ := entry
          have hhead : (writeEntries ((key, value) :: entries) ++ rest).head? ≠
              some '\x7d' := by
            simp [writeEntries, SingleQuoted.write]
          have hlength : 2 * (writeEntries ((key, value) :: entries)).length ≤ fuel := by
            simp only [write, List.length_cons] at hfuel
            omega
          rw [write, List.cons_append, List.cons_append, readTree?_entries _ hhead,
            readEntries?_write key value entries h ih fuel rest hlength]
          rfl

/-- A tree is read back from its text. -/
theorem read?_write {t : Literal} (ht : t.Proper) : read? t.write = some t := by
  have h := readTree?_write ht (2 * t.write.length) [] (Nat.le_refl _) trivial
  rw [List.append_nil] at h
  simp [read?, h]

/-- Different trees have different texts. -/
theorem write_injective {t u : Literal} (ht : t.Proper) (hu : u.Proper)
    (h : t.write = u.write) : t = u := by
  have hread := read?_write ht
  rw [h, read?_write hu] at hread
  exact (Option.some.inj hread).symm

end Literal

end DesiredState
