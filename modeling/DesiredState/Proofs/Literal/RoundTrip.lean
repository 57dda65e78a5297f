import DesiredState.Number.Reading
import DesiredState.Proofs.Literal.Form
import Mathlib.Algebra.Group.Nat.Defs

/-!
# Reading values back from their literals

The literal of a value can be read as a value again.  What comes back is the
value without its secrecy: a secret is a text like any other.  The type in front
of an array of instances is dropped, and a table is an instance when it has the
key of the class.

For that last reason a value must not use this key itself: the table of a map
with a class entry is the table of an instance.  Nothing else of a value is
lost, whatever characters its texts and keys are made of, and the order of items
and of entries is kept.

## Main definitions

* `readInteger?`, `Literal.value?` — the number of a text, and the value of a
  syntax tree.
* `Value.read?` — the value of a whole text.
* `Value.plain` — the value with its secrets as texts.

## Main results

* `Value.read?_literal` — the literal of a value is read back as the plain value.
-/

namespace DesiredState

/-! ## The value of a syntax tree -/

/-- A decimal integer with an optional sign, if it has 64 bits. -/
def readInteger? (cs : List Char) : Option Int :=
  let (negative, digits) := splitSign cs
  (digitsValue? 10 digits).bind fun n =>
    let i : Int := if negative then -n else n
    if FitsWord i then some i else none

/-- The value of a table: an instance if the key of the class holds a text, a map
if there is no such key. -/
def Value.ofTable? (entries : List (String × Value)) : Option Value :=
  match Entries.get? entries classKey with
  | some (.string className) => some (.instanceOf className (Entries.erase entries classKey))
  | some _ => none
  | none => some (.map entries)

namespace Literal

mutual

/-- The value of a syntax tree.  Of entries with one key the last is taken. -/
def value? : Literal → Option Value
  | null => some .null
  | bool b => some (.bool b)
  | special x => some (.float x)
  | number cs =>
      if isFractional cs then (Binary64.parse? cs).map .float else (readInteger? cs).map .int
  | text s => some (.string s)
  | sensitive s => some (.string s)
  | array items => (itemValues? items).map .array
  | cast inner => value? inner
  | table entries =>
      (entryValues? entries).bind fun entries => Value.ofTable? (Entries.ofPairs entries)

/-- The values of the items of an array. -/
def itemValues? : List Literal → Option (List Value)
  | [] => some []
  | item :: rest =>
      (value? item).bind fun value => (itemValues? rest).map fun values => value :: values

/-- The values of the entries of a table. -/
def entryValues? : List (String × Literal) → Option (List (String × Value))
  | [] => some []
  | (key, tree) :: rest =>
      (value? tree).bind fun value =>
        (entryValues? rest).map fun entries => (key, value) :: entries

end

end Literal

namespace Value

/-- The value of a whole text. -/
def read? (text : String) : Option Value := (Literal.read? text.toList).bind Literal.value?

mutual

/-- The value with its secrets as texts. -/
def plain : Value → Value
  | secret s => string s
  | array items => array (plainItems items)
  | map entries => map (plainEntries entries)
  | instanceOf className properties => instanceOf className (plainEntries properties)
  | v => v

/-- The items of an array with their secrets as texts. -/
def plainItems : List Value → List Value
  | [] => []
  | item :: rest => plain item :: plainItems rest

/-- The entries of a map with their secrets as texts. -/
def plainEntries : List (String × Value) → List (String × Value)
  | [] => []
  | (key, value) :: rest => (key, plain value) :: plainEntries rest

end

theorem plainEntries_eq (entries : List (String × Value)) :
    plainEntries entries = entries.map fun entry => (entry.1, plain entry.2) := by
  induction entries with
  | nil => rfl
  | cons entry rest ih => rw [plainEntries, ih, List.map_cons]

/-- Secrecy is no matter of keys. -/
theorem names_plainEntries (entries : List (String × Value)) :
    Entries.names (plainEntries entries) = Entries.names entries := by
  rw [plainEntries_eq, Entries.names, List.map_map]
  rfl

end Value

/-! ## Integers are read back -/

theorem digitValue?_of_isDigit {c : Char} (h : c.isDigit = true) :
    digitValue? 10 c = some (c.toNat - 48) := by
  have hdigit : '0' ≤ c ∧ c ≤ '9' := by
    rw [Char.isDigit, Bool.and_eq_true, decide_eq_true_eq, decide_eq_true_eq] at h
    exact h
  have hbound : c.toNat - 48 < 10 := by
    have : c.toNat ≤ 57 := hdigit.2
    omega
  rw [digitValue?, if_pos hdigit]
  simp [hbound]

/-- Digits are read with the most significant one first. -/
theorem digitsFrom?_of_isDigit {cs : List Char} (h : ∀ c ∈ cs, c.isDigit = true) (acc : Nat) :
    digitsFrom? 10 acc cs = some (Nat.ofDigitChars 10 cs acc) := by
  induction cs generalizing acc with
  | nil => rfl
  | cons c rest ih =>
      obtain ⟨hc, hrest⟩ := List.forall_mem_cons.1 h
      simp only [digitsFrom?, digitValue?_of_isDigit hc]
      rw [ih hrest, Nat.ofDigitChars_cons, Nat.mul_comm acc]
      rfl

/-- The digits of a number are read back. -/
theorem digitsValue?_writeNat (n : Nat) : digitsValue? 10 (writeNat n) = some n := by
  have hdigits : digitsFrom? 10 0 (writeNat n) = _ :=
    digitsFrom?_of_isDigit (fun c hc => Literal.isDigit_of_mem_writeNat hc) 0
  rw [writeNat, Nat.ofDigitChars_ten_toDigits, ← writeNat] at hdigits
  cases hcs : writeNat n with
  | nil => exact absurd hcs (Literal.writeNat_ne_nil n)
  | cons c rest => rw [digitsValue?, ← hcs, hdigits]; simp

/-- Digits have no sign in front of them. -/
theorem splitSign_writeNat (n : Nat) : splitSign (writeNat n) = (false, writeNat n) := by
  cases hcs : writeNat n with
  | nil => exact absurd hcs (Literal.writeNat_ne_nil n)
  | cons c rest =>
      have hc : c.isDigit = true := Literal.isDigit_of_mem_writeNat (n := n) (by simp [hcs])
      unfold splitSign
      split
      · next h => simp only [List.cons.injEq] at h; rw [h.1] at hc; exact absurd hc (by decide)
      · next h => simp only [List.cons.injEq] at h; rw [h.1] at hc; exact absurd hc (by decide)
      · rfl

theorem splitSign_writeInt (i : Int) :
    splitSign (writeInt i) = (decide (i < 0), writeNat i.natAbs) := by
  by_cases hneg : i < 0
  · simp [writeInt, hneg, splitSign]
  · simp [writeInt, hneg, splitSign_writeNat]

/-- An integer of 64 bits is read back. -/
theorem readInteger?_writeInt {i : Int} (h : FitsWord i) : readInteger? (writeInt i) = some i := by
  have habs : (if decide (i < 0) then -(i.natAbs : Int) else i.natAbs) = i := by
    by_cases hneg : i < 0
    · rw [if_pos (by simpa using hneg)]
      omega
    · rw [if_neg (by simpa using hneg)]
      omega
  rw [readInteger?, splitSign_writeInt]
  dsimp only
  rw [digitsValue?_writeNat, Option.bind_some, habs, if_pos h]

/-! ## Values are read back -/

/-- The text of the number is read back as the number.  A number that is written
by its name is not read as a number. -/
def Binary64.ReadsBack (x : Binary64) : Prop :=
  match x with
  | .finite _ _ _ _ => Binary64.parse? (Expr.floatLayout.write x) = some x
  | _ => True

/-- The number 1.5. -/
def oneAndHalf : Binary64 := .finite false (3 * 2 ^ 51) (-52) (by decide)

namespace Value

theorem value?_floatForm {x : Binary64} (h : x.ReadsBack) :
    (floatForm x).value? = some (.float x) := by
  cases x with
  | nan => rfl
  | infinite negative => rfl
  | finite negative mantissa exponent canonical =>
      have hmark := Literal.isFractional_write Expr.floatLayout negative mantissa exponent canonical
      have hparse : Binary64.parse? _ = some _ := h
      rw [floatForm, Literal.value?, if_pos hmark, hparse]
      rfl

theorem itemValues?_itemForms {items : List Value}
    (h : ∀ item ∈ items, item.form.value? = some item.plain) :
    Literal.itemValues? (itemForms items) = some (plainItems items) := by
  induction items with
  | nil => rfl
  | cons item rest ih =>
      obtain ⟨hitem, hrest⟩ := List.forall_mem_cons.1 h
      simp [itemForms, Literal.itemValues?, plainItems, hitem, ih hrest]

theorem entryValues?_entryForms {entries : List (String × Value)}
    (h : ∀ entry ∈ entries, entry.2.form.value? = some entry.2.plain) :
    Literal.entryValues? (entryForms entries) = some (plainEntries entries) := by
  induction entries with
  | nil => rfl
  | cons entry rest ih =>
      obtain ⟨hentry, hrest⟩ := List.forall_mem_cons.1 h
      simp [entryForms, Literal.entryValues?, plainEntries, hentry, ih hrest]

/-- Without the key of the class a table is a map. -/
theorem ofTable?_map {entries : List (String × Value)}
    (h : Entries.get? entries classKey = none) : ofTable? entries = some (.map entries) := by
  rw [ofTable?, h]

/-- Led by the class, a table is an instance. -/
theorem ofTable?_instanceOf (className : String) (properties : List (String × Value)) :
    ofTable? ((classKey, .string className) :: properties) =
      some (.instanceOf className properties) := by
  simp [ofTable?, Entries.get?, Entries.erase]

/-- The tree of a value has the plain value. -/
theorem value?_form {v : Value} (hvalid : v.Valid) (hclass : v.ClassFree)
    (hfloat : ∀ x, .float x ∈ v.parts → x.ReadsBack) : v.form.value? = some v.plain := by
  induction v using Value.induct with
  | null => rfl
  | bool b => rfl
  | int i =>
      have hi : FitsWord i := hvalid.wellFormed
      have hmark := Literal.not_isFractional_writeInt i
      simp [form, Literal.value?, hmark, readInteger?_writeInt hi, plain]
  | float x => exact value?_floatForm (hfloat x (by simp [parts]))
  | string s => rfl
  | secret s => rfl
  | array items ih =>
      have hitems : (Literal.array (itemForms items)).value? = some (array items).plain := by
        rw [Literal.value?, itemValues?_itemForms]
        · rfl
        · intro item hitem
          have hchild : item ∈ (array items).children := hitem
          exact ih item hitem (hvalid.child hchild) (hclass.child hchild) fun x hx =>
            hfloat x (mem_parts_of_child hchild hx)
      rw [form]
      split
      · rw [Literal.value?, hitems]
      · exact hitems
  | map entries ih =>
      have hentries : Literal.entryValues? (entryForms entries) = some (plainEntries entries) := by
        refine entryValues?_entryForms fun entry hentry => ?_
        have hchild := mem_children_map hentry
        exact ih entry hentry (hvalid.child hchild) (hclass.child hchild) fun x hx =>
          hfloat x (mem_parts_of_child hchild hx)
      have hnodup : (Entries.names (plainEntries entries)).Nodup := by
        rw [names_plainEntries]
        exact hvalid.wellFormed
      have hkey : Entries.get? (plainEntries entries) classKey = none := by
        rw [Entries.get?_eq_none_iff, names_plainEntries, ← Entries.get?_eq_none_iff]
        exact hclass.get?_classKey
      rw [form, Literal.value?, hentries, Option.bind_some, Entries.ofPairs_eq_self hnodup,
        ofTable?_map hkey]
      rfl
  | instanceOf className properties ih =>
      have hproperties : Literal.entryValues? (entryForms properties) =
          some (plainEntries properties) := by
        refine entryValues?_entryForms fun entry hentry => ?_
        have hchild := mem_children_instanceOf className hentry
        exact ih entry hentry (hvalid.child hchild) (hclass.child hchild) fun x hx =>
          hfloat x (mem_parts_of_child hchild hx)
      have hnodup : (Entries.names
          ((classKey, .string className) :: plainEntries properties)).Nodup := by
        have hnew : classKey ∉ Entries.names properties :=
          (Entries.get?_eq_none_iff _ _).1 hclass.get?_classKey
        rw [← names_plainEntries] at hnew
        refine List.nodup_cons.2 ⟨hnew, ?_⟩
        have hold : (Entries.names properties).Nodup := hvalid.wellFormed
        rwa [← names_plainEntries] at hold
      rw [form, Literal.value?, Literal.entryValues?, hproperties, Literal.value?,
        Option.bind_some, Option.map_some, Option.bind_some, Entries.ofPairs_eq_self hnodup,
        ofTable?_instanceOf]
      rfl

/-- The literal of a value is read back to its end, and gives the value with its
secrets as texts. -/
theorem read?_literal {v : Value} (hvalid : v.Valid) (hclass : v.ClassFree)
    (hfloat : ∀ x, .float x ∈ v.parts → x.ReadsBack) : read? v.literal = some v.plain := by
  have hchars : v.literal.toList = v.form.write := by
    rw [write_form, literal, Expr.render, String.toList_ofList]
  rw [read?, hchars, Literal.read?_write (proper_form v), Option.bind_some]
  exact value?_form hvalid hclass hfloat

/-- Quotes, separators, the marker and an array of instances in one value. -/
theorem read?_literal_settings :
    read? (map [("it's = @\x7b", array [null, bool true, int (-5), float oneAndHalf, float .nan]),
        ("$null; ", array [instanceOf "Rule" [("key", secret "' <# Sensitive #>, "),
          ("", map [])]])]).literal =
      some (map [("it's = @\x7b", array [null, bool true, int (-5), float oneAndHalf, float .nan]),
        ("$null; ", array [instanceOf "Rule" [("key", string "' <# Sensitive #>, "),
          ("", map [])]])]) := by
  refine read?_literal ?_ ?_ ?_
  · have hfits : FitsWord (-5) := by decide
    simp [Valid, parts, itemParts, entryParts, WellFormed, Entries.names, hfits]
  · simp [ClassFree, parts, itemParts, entryParts, get?, Entries.get?, classKey]
  · have hfinite : Binary64.parse? (Expr.floatLayout.write oneAndHalf) = some oneAndHalf := by
      decide +kernel
    simpa [parts, itemParts, entryParts, Binary64.ReadsBack, oneAndHalf] using hfinite

end Value

end DesiredState
