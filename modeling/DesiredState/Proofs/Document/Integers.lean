import DesiredState.Proofs.Document.Conversion
import DesiredState.Proofs.Literal.Identity
import DesiredState.Proofs.Yaml.Numerals

/-!
# Integers of a document in a literal

A document holds integers from `-2 ^ 63` up to `2 ^ 64`.  The lower three quarters of them are
integers of the script as well.  A greater one becomes the nearest floating-point number, which
has the same value only if the last eleven bits of the integer are zero.

A place is a value with a hole.  The literal of a document value has a place for each place of
the document value outside of tags, which is reached by the same steps, and does not depend on
the integer that stands there.  So the literals of two document values that only differ in one
integer only differ in its numeral.

## Main definitions

* `Yaml.Place`, `Literal.Place` — places in a document value and in a literal.
* `Literal.number?` — the number that a literal denotes.

## Main results

* `Binary64.exists_val?_ofInt` — how great integers are rounded.
* `Value.exists_place` — the place in the literal.
* `Value.exists_number?_ofInteger`, `Value.form_ofInteger_eq_iff` — what the numeral of an
  integer denotes, and when two numerals are the same.
* `Value.integers_in_literal` — both for an integer at a place of a document value.
-/

namespace DesiredState

/-! ## Great integers -/

namespace Binary64

/-- The number nearest to an integer from `2 ^ 63` up to `2 ^ 64`: its last eleven bits are
rounded. -/
theorem exists_val?_ofInt {i : Int} (hlow : 2 ^ 63 ≤ i) (hhigh : i < 2 ^ 64) : ∃ units : Int,
    (ofInt i).val? = some (2048 * (units : ℚ)) ∧ |2048 * units - i| ≤ 1024 := by
  obtain ⟨n, rfl⟩ := Int.eq_ofNat_of_zero_le (show 0 ≤ i by omega)
  have hnum : 0 < n := by omega
  have hlowQ : (2 : ℚ) ^ 63 ≤ n := by exact_mod_cast hlow
  have hhighQ : (n : ℚ) < 2 ^ 64 := by exact_mod_cast hhigh
  have hexponent : exponentOf n 1 = 11 := by
    apply exponentOf_eq hnum one_pos (by decide)
    · left
      norm_num at hlowQ ⊢
      exact hlowQ
    · norm_num at hhighQ ⊢
      exact hhighQ
  obtain ⟨hle, hge, -⟩ := (isNearest_scaled_iff one_pos 11 _).1
    (isNearest_halfEven (scaled_pos one_pos n 11) (scaled n 1 11).1)
  have hmade := ofQuotient_eq hnum false 1 hexponent
  generalize halfEven (scaled n 1 11).1 (scaled n 1 11).2 = m at hle hge hmade
  norm_num at hle hge
  have hnear : |2048 * (m : Int) - n| ≤ 1024 := by
    rw [abs_le]
    constructor
    · have : (n : ℚ) ≤ ((2048 * m + 1024 : Int) : ℚ) := by
        push_cast
        linarith
      have := Int.cast_le.1 (show ((n : Int) : ℚ) ≤ _ from this)
      omega
    · have : ((2048 * m - 1024 : Int) : ℚ) ≤ n := by
        push_cast
        linarith
      have := Int.cast_le.1 (show _ ≤ ((n : Int) : ℚ) from this)
      omega
  refine ⟨m, ?_, hnear⟩
  have hm : 2 ^ 52 ≤ m ∧ m ≤ 2 ^ 53 := by
    rw [abs_le] at hnear
    omega
  have hsign : decide ((n : Int) < 0) = false := by simp
  rw [ofInt, hsign, Int.natAbs_natCast, hmade]
  split
  · next hcarry =>
    rw [ofCanonical_of_isCanonical (by decide), val?, hcarry]
    norm_num
  · next hcarry =>
    have hcanonical : IsCanonical m 11 := ⟨by decide, by decide, by omega, .inl hm.1⟩
    rw [ofCanonical_of_isCanonical hcanonical, val?]
    norm_num [mul_comm]

end Binary64

/-! ## Places -/

/-- A step to a value directly inside of another: the number of an item, or the key of an
entry. -/
inductive Step where
  | item (index : Nat)
  | entry (key : String)
  deriving DecidableEq

/-- A place in a document value that is not behind a tag: a document value with a hole. -/
inductive Yaml.Place where
  | here
  | item (before : List Yaml) (inner : Yaml.Place) (after : List Yaml)
  | entry (before : List (Yaml × Yaml)) (key : String) (inner : Yaml.Place)
      (after : List (Yaml × Yaml))

/-- A place in a literal: a literal with a hole. -/
inductive Literal.Place where
  | here
  | item (before : List Literal) (inner : Literal.Place) (after : List Literal)
  | cast (inner : Literal.Place)
  | entry (before : List (String × Literal)) (key : String) (inner : Literal.Place)
      (after : List (String × Literal))

namespace Yaml.Place

/-- The document value with another one at the place. -/
def fill : Yaml.Place → Yaml → Yaml
  | here, y => y
  | item before inner after, y => .sequence (before ++ inner.fill y :: after)
  | entry before key inner after, y => .mapping (before ++ (.string key, inner.fill y) :: after)

/-- The steps to the place. -/
def path : Yaml.Place → List Step
  | here => []
  | item before inner _ => .item before.length :: inner.path
  | entry _ key inner _ => .entry key :: inner.path

end Yaml.Place

namespace Literal.Place

/-- The literal with another one at the place. -/
def fill : Literal.Place → Literal → Literal
  | here, t => t
  | item before inner after, t => .array (before ++ inner.fill t :: after)
  | cast inner, t => .cast (inner.fill t)
  | entry before key inner after, t => .table (before ++ (key, inner.fill t) :: after)

/-- The steps to the place.  The type in front of an array is none. -/
def path : Literal.Place → List Step
  | here => []
  | item before inner _ => .item before.length :: inner.path
  | cast inner => inner.path
  | entry _ key inner _ => .entry key :: inner.path

/-- A place in an array, which may have the type of arrays of instances in front of it. -/
def inItems (typed : Bool) (before : List Literal) (inner : Literal.Place)
    (after : List Literal) : Literal.Place :=
  if typed then .cast (.item before inner after) else .item before inner after

theorem path_inItems (typed : Bool) (before : List Literal) (inner : Literal.Place)
    (after : List Literal) :
    (inItems typed before inner after).path = .item before.length :: inner.path := by
  cases typed <;> rfl

/-- What is at the place is told apart. -/
theorem fill_inj (place : Literal.Place) {s t : Literal} :
    place.fill s = place.fill t ↔ s = t := by
  induction place with
  | here => rfl
  | item before inner after ih => simp [fill, ih]
  | cast inner ih => simp [fill, ih]
  | entry before key inner after ih => simp [fill, ih]

end Literal.Place

/-! ## The literal of an integer -/

namespace Value

/-- The value of an integer of a document. -/
def ofInteger (i : Int) : Value := if i ≤ maxInt then .int i else .float (.ofInt i)

theorem form_ofInteger (i : Int) :
    (ofInteger i).form =
      if i ≤ maxInt then .number (writeInt i) else floatForm (.ofInt i) := by
  rw [ofInteger]
  split
  · rfl
  · rfl

/-- Lists are related around an element if they are in front of it, at it and behind it. -/
theorem forall₂_append_cons_left_iff {α β : Type} {R : α → β → Prop} {before after : List α}
    {a : α} {bs : List β} :
    List.Forall₂ R (before ++ a :: after) bs ↔ ∃ front b back,
      List.Forall₂ R before front ∧ R a b ∧ List.Forall₂ R after back ∧
        bs = front ++ b :: back := by
  constructor
  · induction before generalizing bs with
    | nil =>
        intro h
        obtain ⟨b, back, hab, hback, rfl⟩ := List.forall₂_cons_left_iff.1 h
        exact ⟨[], b, back, .nil, hab, hback, rfl⟩
    | cons first rest ih =>
        intro h
        obtain ⟨other, others, hfirst, hrest, rfl⟩ := List.forall₂_cons_left_iff.1 h
        obtain ⟨front, b, back, hfront, hab, hback, rfl⟩ := ih hrest
        exact ⟨other :: front, b, back, .cons hfirst hfront, hab, hback, rfl⟩
  · rintro ⟨front, b, back, hfront, hab, hback, rfl⟩
    exact List.rel_append hfront (.cons hab hback)

end Value

namespace Entries

variable {α : Type} {key name : String}

theorem get?_replace (hkey : key ≠ name) (front back : List (String × α)) (a b : α) :
    get? (front ++ (key, a) :: back) name = get? (front ++ (key, b) :: back) name := by
  rw [get?_append, get?_append, get?, get?, if_neg hkey, if_neg hkey]

/-- Leaving out the entry of a name does not touch an entry of another name. -/
theorem exists_erase_eq (hkey : key ≠ name) (front back : List (String × α)) :
    ∃ before after, ∀ a, erase (front ++ (key, a) :: back) name = before ++ (key, a) :: after := by
  induction front with
  | nil => exact ⟨[], erase back name, fun a => if_neg hkey⟩
  | cons entry rest ih =>
      obtain ⟨other, value⟩ := entry
      by_cases hother : other = name
      · exact ⟨rest, back, fun a => if_pos hother⟩
      · obtain ⟨before, after, herase⟩ := ih
        refine ⟨(other, value) :: before, after, fun a => ?_⟩
        rw [List.cons_append, erase, if_neg hother, herase, List.cons_append]

end Entries

namespace Value

theorem entryForms_append_cons (front back : List (String × Value)) (key : String) (v : Value) :
    entryForms (front ++ (key, v) :: back) =
      entryForms front ++ (key, v.form) :: entryForms back := by
  simp [entryForms_eq]

/-- The keys of a mapping become the names of its entries. -/
theorem nodup_of_entriesOfYaml {entries : List (Yaml × Yaml)} {fields : List (String × Value)}
    (hkeys : Yaml.keysDiffer entries = true) (h : entriesOfYaml entries = .ok fields) :
    (Entries.names fields).Nodup := by
  refine Yaml.nodup_of_keysDiffer hkeys ?_
  rw [entriesOfYaml_eq_ok_iff] at h
  clear hkeys
  induction h with
  | nil => rfl
  | cons hentry _ ih =>
      rw [List.map_cons, hentry.1, ih]
      rfl

/-- Replacing a value of a mapping that is no text replaces it in the literal. -/
theorem exists_table_of_ofEntries {front back : List (String × Value)} {key : String}
    {u v : Value} (hnodup : (Entries.names (front ++ (key, u) :: back)).Nodup)
    (hu : ∀ s, u ≠ .string s) (h : ofEntries (front ++ (key, u) :: back) = .ok v) :
    ∃ before after, ∀ w, ∃ made, ofEntries (front ++ (key, w) :: back) = .ok made ∧
      made.form = .table (before ++ (key, w.form) :: after) ∧ made.isInstance = v.isInstance ∧
        ∀ s, made ≠ .string s := by
  have hkey : key ≠ classKey := by
    rintro rfl
    have hget := Entries.get?_of_mem hnodup (List.mem_append_right _ List.mem_cons_self)
    rw [ofEntries, hget] at h
    cases u with
    | string s => exact hu s rfl
    | _ => cases h
  unfold ofEntries at h
  split at h
  · next hclass =>
    cases h
    refine ⟨entryForms front, entryForms back, fun w => ⟨.map (front ++ (key, w) :: back), ?_⟩⟩
    rw [ofEntries, Entries.get?_replace hkey front back w u, hclass, form, entryForms_append_cons]
    exact ⟨rfl, rfl, rfl, fun s hs => by cases hs⟩
  · next className hclass =>
    cases h
    obtain ⟨before, after, herase⟩ := Entries.exists_erase_eq (α := Value) hkey front back
    refine ⟨(classKey, .text className) :: entryForms before, entryForms after, fun w =>
      ⟨.instanceOf className (before ++ (key, w) :: after), ?_⟩⟩
    rw [ofEntries, Entries.get?_replace hkey front back w u, hclass, form, entryForms_append_cons]
    exact ⟨by rw [← herase], rfl, rfl, fun s hs => by cases hs⟩
  · cases h

theorem isInstance_ofInteger (i : Int) : (ofInteger i).isInstance = false := by
  rw [ofInteger]
  split
  · rfl
  · rfl

theorem ofInteger_ne_string (i : Int) (s : String) : ofInteger i ≠ .string s := by
  rw [ofInteger]
  split
  · nofun
  · nofun

/-- An item is written at its place in the array.  The type in front of the array depends on
whether the item is an instance. -/
theorem form_array_append_cons {front back : List Value} {w : Value} {inner : Literal.Place}
    {t : Literal} (h : w.form = inner.fill t) :
    (array (front ++ w :: back)).form =
      (Literal.Place.inItems ((front ++ w :: back).all isInstance) (itemForms front) inner
        (itemForms back)).fill t := by
  have hforms : itemForms (front ++ w :: back) =
      itemForms front ++ inner.fill t :: itemForms back := by
    simp [itemForms_eq, h]
  have hnonempty : (front ++ w :: back).isEmpty = false := by simp
  rw [form, hnonempty, hforms]
  cases (front ++ w :: back).all isInstance with
  | true => rfl
  | false => rfl

/-- An item of a sequence is converted apart from the others. -/
theorem exists_of_ofYaml_item {before after : List Yaml} {y : Yaml} {v : Value}
    (h : ofYaml (.sequence (before ++ y :: after)) = .ok v) : ∃ front u back,
      front.length = before.length ∧ ofYaml y = .ok u ∧ v = .array (front ++ u :: back) ∧
        ∀ z w, ofYaml z = .ok w →
          ofYaml (.sequence (before ++ z :: after)) = .ok (.array (front ++ w :: back)) := by
  rw [ofYaml, bind_eq_ok_iff] at h
  obtain ⟨values, hitems, hv⟩ := h
  rw [itemsOfYaml_eq_ok_iff, forall₂_append_cons_left_iff] at hitems
  obtain ⟨front, u, back, hfront, hu, hback, rfl⟩ := hitems
  refine ⟨front, u, back, hfront.length_eq.symm, hu, (Except.ok.inj hv).symm, fun z w hw => ?_⟩
  have hvalues : itemsOfYaml (before ++ z :: after) = .ok (front ++ w :: back) := by
    rw [itemsOfYaml_eq_ok_iff, forall₂_append_cons_left_iff]
    exact ⟨front, w, back, hfront, hw, hback, rfl⟩
  rw [ofYaml, hvalues]
  rfl

/-- An entry of a mapping is converted apart from the others. -/
theorem exists_of_ofYaml_entry {before after : List (Yaml × Yaml)} {key : String} {y : Yaml}
    {v : Value} (hkeys : Yaml.keysDiffer (before ++ (.string key, y) :: after) = true)
    (h : ofYaml (.mapping (before ++ (.string key, y) :: after)) = .ok v) : ∃ front u back,
      (Entries.names (front ++ (key, u) :: back)).Nodup ∧ ofYaml y = .ok u ∧
        ofEntries (front ++ (key, u) :: back) = .ok v ∧
          ∀ z w, ofYaml z = .ok w → ofYaml (.mapping (before ++ (.string key, z) :: after)) =
            ofEntries (front ++ (key, w) :: back) := by
  rw [ofYaml, bind_eq_ok_iff] at h
  obtain ⟨fields, hentries, hv⟩ := h
  have hnodup := nodup_of_entriesOfYaml hkeys hentries
  rw [Entries.ofPairs_eq_self hnodup] at hv
  rw [entriesOfYaml_eq_ok_iff, forall₂_append_cons_left_iff] at hentries
  obtain ⟨front, ⟨name, u⟩, back, hfront, ⟨hname, hu⟩, hback, rfl⟩ := hentries
  obtain rfl : key = name := Yaml.string.inj hname
  refine ⟨front, u, back, hnodup, hu, hv, fun z w hw => ?_⟩
  have hvalues : entriesOfYaml (before ++ (.string key, z) :: after) =
      .ok (front ++ (key, w) :: back) := by
    rw [entriesOfYaml_eq_ok_iff, forall₂_append_cons_left_iff]
    exact ⟨front, (key, w), back, hfront, ⟨rfl, hw⟩, hback, rfl⟩
  have hnames : (Entries.names (front ++ (key, w) :: back)).Nodup := by
    simpa [Entries.names] using hnodup
  exact ofYaml_mapping hvalues hnames

/-- The literal of a document value has a place for each place of the document value, and what
is written there for an integer is the literal of this integer. -/
theorem exists_place {i : Int} (place : Yaml.Place) {v : Value}
    (hkeys : (place.fill (.int i)).DistinctKeys) (h : ofYaml (place.fill (.int i)) = .ok v) :
    ∃ inLiteral : Literal.Place, inLiteral.path = place.path ∧ ∀ j, ∃ w,
      ofYaml (place.fill (.int j)) = .ok w ∧ w.form = inLiteral.fill (ofInteger j).form ∧
        w.isInstance = v.isInstance ∧ ∀ s, w ≠ .string s := by
  induction place generalizing v with
  | here =>
      cases h
      refine ⟨.here, rfl, fun j => ⟨ofInteger j, rfl, rfl, ?_, ofInteger_ne_string j⟩⟩
      exact (isInstance_ofInteger j).trans (isInstance_ofInteger i).symm
  | item before inner after ih =>
      obtain ⟨front, u, back, hlength, hu, rfl, hmade⟩ := exists_of_ofYaml_item h
      have hinner := hkeys.child (List.mem_append_right before List.mem_cons_self)
      obtain ⟨inLiteral, hpath, hfill⟩ := ih hinner hu
      refine ⟨.inItems ((front ++ u :: back).all isInstance) (itemForms front) inLiteral
        (itemForms back), ?_, fun j => ?_⟩
      · rw [Literal.Place.path_inItems, Yaml.Place.path, hpath, itemForms_eq, List.length_map,
          hlength]
      · obtain ⟨w, hw, hform, hinstance, -⟩ := hfill j
        have hall : (front ++ w :: back).all isInstance = (front ++ u :: back).all isInstance := by
          simp [hinstance]
        refine ⟨.array (front ++ w :: back), hmade _ w hw, ?_, rfl, fun s => nofun⟩
        rw [form_array_append_cons hform, hall]
  | entry before key inner after ih =>
      obtain ⟨front, u, back, hnodup, hu, hv, hmade⟩ :=
        exists_of_ofYaml_entry (Yaml.distinctKeys_iff.1 hkeys).1 h
      have hinner := hkeys.child (Yaml.mem_children_mapping
        (List.mem_append_right before List.mem_cons_self)).2
      obtain ⟨inLiteral, hpath, hfill⟩ := ih hinner hu
      have htext : ∀ s, u ≠ .string s := by
        obtain ⟨w, hw, -, -, hw'⟩ := hfill i
        rwa [Except.ok.inj (hw.symm.trans hu)] at hw'
      obtain ⟨ahead, behind, htable⟩ := exists_table_of_ofEntries hnodup htext hv
      refine ⟨.entry ahead key inLiteral behind, ?_, fun j => ?_⟩
      · rw [Literal.Place.path, Yaml.Place.path, hpath]
      · obtain ⟨w, hw, hform, -, -⟩ := hfill j
        obtain ⟨made, hofEntries, hmadeForm, hrest⟩ := htable w
        refine ⟨made, (hmade _ w hw).trans hofEntries, ?_, hrest⟩
        rw [hmadeForm, hform, Literal.Place.fill]

/-! ## What the literal of an integer denotes -/

end Value

/-- The number that a literal denotes, if it is one of a finite number. -/
def Literal.number? (t : Literal) : Option ℚ :=
  match t.value? with
  | some (.int i) => some i
  | some (.float x) => x.val?
  | _ => none

namespace Value

theorem number?_int {i : Int} (h : FitsWord i) : (Value.int i).form.number? = some (i : ℚ) := by
  have hmark := Literal.not_isFractional_writeInt i
  simp [form, Literal.number?, Literal.value?, hmark, readInteger?_writeInt h]

theorem number?_float (x : Binary64) : (Value.float x).form.number? = x.val? := by
  rw [form, Literal.number?, value?_floatForm x.readsBack]

/-- The literal of an integer denotes the integer, if this is not too great for an integer of
the script or the last eleven bits of it are zero.  Else it denotes a number nearby. -/
theorem exists_number?_ofInteger {i : Int} (hi : InRange i) : ∃ r : ℚ,
    (ofInteger i).form.number? = some r ∧ |r - i| ≤ 1024 ∧ (r = i ↔ i ≤ maxInt ∨ 2048 ∣ i) := by
  obtain ⟨hlow, hhigh⟩ := hi
  have hmax : maxInt = 2 ^ 63 - 1 := rfl
  rw [ofInteger, hmax]
  by_cases hfits : i ≤ 2 ^ 63 - 1
  · rw [if_pos hfits, number?_int ⟨hlow, by omega⟩]
    refine ⟨i, rfl, ?_, ?_⟩
    · simp
    · exact iff_of_true rfl (.inl hfits)
  · obtain ⟨units, hval, hnear⟩ := Binary64.exists_val?_ofInt (i := i) (by omega) hhigh
    rw [if_neg hfits, number?_float]
    refine ⟨2048 * units, hval, ?_, ?_⟩
    · exact_mod_cast hnear
    · constructor
      · intro h
        have : 2048 * units = i := by exact_mod_cast h
        exact .inr ⟨units, this.symm⟩
      · rintro (h | ⟨k, rfl⟩)
        · exact absurd h hfits
        · rw [abs_le] at hnear
          obtain rfl : units = k := by omega
          push_cast
          rfl

theorem floatForm_inj {x y : Binary64} : floatForm x = floatForm y ↔ x = y := by
  constructor
  · intro h
    have hx := value?_floatForm x.readsBack
    rw [h, value?_floatForm y.readsBack] at hx
    exact (Value.float.inj (Option.some.inj hx)).symm
  · rintro rfl
    rfl

/-- Two integers have the same literal only if they are equal, or both become the same
floating-point number. -/
theorem form_ofInteger_eq_iff {i j : Int} :
    (ofInteger i).form = (ofInteger j).form ↔
      i = j ∨ maxInt < i ∧ maxInt < j ∧ Binary64.ofInt i = Binary64.ofInt j := by
  rw [form_ofInteger, form_ofInteger]
  by_cases hi : i ≤ maxInt
  · by_cases hj : j ≤ maxInt
    · rw [if_pos hi, if_pos hj]
      constructor
      · intro h
        exact .inl (writeInt_injective (Literal.number.inj h))
      · rintro (rfl | ⟨h, -⟩)
        · rfl
        · omega
    · rw [if_pos hi, if_neg hj]
      constructor
      · intro h
        exact absurd h.symm (floatForm_ne_int _ i)
      · rintro (h | ⟨h, -⟩) <;> omega
  · by_cases hj : j ≤ maxInt
    · rw [if_neg hi, if_pos hj]
      constructor
      · intro h
        exact absurd h (floatForm_ne_int _ j)
      · rintro (h | ⟨-, h, -⟩) <;> omega
    · rw [if_neg hi, if_neg hj, floatForm_inj]
      constructor
      · intro h
        exact .inr ⟨by omega, by omega, h⟩
      · rintro (rfl | ⟨-, -, h⟩)
        · rfl
        · exact h

/-! ## Integers in a script -/

/-- An integer at a place of a document value is written at the same place of the literal.
What is written there denotes the integer, if it is at most the greatest integer of the script
or its last eleven bits are zero, and else a number that is at most 1024 away.  Two document
values that only differ in an integer have the same literal only if both integers become the
same floating-point number. -/
theorem integers_in_literal {place : Yaml.Place} {i : Int} {v : Value}
    (hkeys : (place.fill (.int i)).DistinctKeys) (h : ofYaml (place.fill (.int i)) = .ok v) :
    ∃ inLiteral : Literal.Place, inLiteral.path = place.path ∧
      (∀ j, InRange j → ∃ w numeral r, ofYaml (place.fill (.int j)) = .ok w ∧
        Literal.read? w.literal.toList = some (inLiteral.fill numeral) ∧
          numeral.number? = some r ∧ |r - j| ≤ 1024 ∧ (r = j ↔ j ≤ maxInt ∨ 2048 ∣ j)) ∧
      ∀ j w, ofYaml (place.fill (.int j)) = .ok w → (w.literal = v.literal ↔
        j = i ∨ maxInt < j ∧ maxInt < i ∧ Binary64.ofInt j = Binary64.ofInt i) := by
  obtain ⟨inLiteral, hpath, hfill⟩ := exists_place place hkeys h
  have hform : ∀ j w, ofYaml (place.fill (.int j)) = .ok w →
      w.form = inLiteral.fill (ofInteger j).form := by
    intro j w hw
    obtain ⟨made, hmade, hmadeForm, -⟩ := hfill j
    rwa [Except.ok.inj (hmade.symm.trans hw)] at hmadeForm
  refine ⟨inLiteral, hpath, fun j hj => ?_, fun j w hw => ?_⟩
  · obtain ⟨w, hw, hwform, -⟩ := hfill j
    obtain ⟨r, hr, hnear, hexact⟩ := exists_number?_ofInteger hj
    refine ⟨w, _, r, hw, ?_, hr, hnear, hexact⟩
    rw [literal, Expr.render, String.toList_ofList, ← write_form,
      Literal.read?_write (proper_form w), hwform]
  · rw [literal_eq_iff, hform j w hw, hform i v h, Literal.Place.fill_inj, form_ofInteger_eq_iff]

/-- The second port of a site. -/
def secondPort : Yaml.Place :=
  .entry [] "Site" (.entry [(.string classKey, .string "WebSite")] "Ports"
    (.item [.int 80] .here []) []) []

/-- At a port of a site each integer up to the greatest one of the script is written as
itself, and the next but one is not. -/
theorem integers_in_literal_port :
    ((secondPort.fill (.int 443)).DistinctKeys ∧ ofYaml (secondPort.fill (.int 443)) =
      .ok (.map [("Site", .instanceOf "WebSite" [("Ports", .array [.int 80, .int 443])])])) ∧
      ∃ inLiteral : Literal.Place,
        inLiteral.path = [.entry "Site", .entry "Ports", .item 1] ∧
          (∃ w numeral, ofYaml (secondPort.fill (.int maxInt)) = .ok w ∧
            Literal.read? w.literal.toList = some (inLiteral.fill numeral) ∧
              numeral.number? = some (2 ^ 63 - 1 : ℚ)) ∧
          ∃ w numeral r, ofYaml (secondPort.fill (.int (2 ^ 63 + 1))) = .ok w ∧
            Literal.read? w.literal.toList = some (inLiteral.fill numeral) ∧
              numeral.number? = some r ∧ r ≠ 2 ^ 63 + 1 := by
  have hkeys : (secondPort.fill (.int 443)).DistinctKeys := by decide
  have hmade : ofYaml (secondPort.fill (.int 443)) =
      .ok (.map [("Site", .instanceOf "WebSite" [("Ports", .array [.int 80, .int 443])])]) := rfl
  obtain ⟨inLiteral, hpath, hdenotes, -⟩ := integers_in_literal hkeys hmade
  refine ⟨⟨hkeys, hmade⟩, inLiteral, hpath, ?_, ?_⟩
  · obtain ⟨w, numeral, r, hw, hread, hr, -, hexact⟩ :=
      hdenotes maxInt ⟨by decide, by decide⟩
    have hvalue : r = 2 ^ 63 - 1 := by
      rw [hexact.2 (.inl (le_refl _)), maxInt]
      norm_num
    exact ⟨w, numeral, hw, hread, hvalue ▸ hr⟩
  · obtain ⟨w, numeral, r, hw, hread, hr, -, hexact⟩ :=
      hdenotes (2 ^ 63 + 1) ⟨by decide, by decide⟩
    refine ⟨w, numeral, r, hw, hread, hr, fun heq => ?_⟩
    have := hexact.1 (by rw [heq]; norm_num)
    revert this
    decide

/-- The integer behind `2 ^ 63` is written like `2 ^ 63`, and its literal denotes that. -/
theorem not_forall_integers_in_literal :
    (∃ v, ofYaml (.int (2 ^ 63 + 1)) = .ok v ∧ v.literal = "9.223372036854776e18" ∧
      v.form.number? = some (2 ^ 63 : ℚ)) ∧
      ¬ ∀ (place : Yaml.Place) (i j : Int) (v w : Value), InRange i → InRange j →
        (place.fill (.int i)).DistinctKeys → ofYaml (place.fill (.int i)) = .ok v →
          ofYaml (place.fill (.int j)) = .ok w → v.literal = w.literal → i = j := by
  have hround : Binary64.ofInt (2 ^ 63 + 1) = Binary64.ofInt (2 ^ 63) := by decide +kernel
  have hval : (Binary64.ofInt (2 ^ 63)).val? = some (2 ^ 63) := by
    have hpower : Binary64.ofInt (2 ^ 63) = .finite false (2 ^ 52) 11 (by decide) := by
      decide +kernel
    rw [hpower, Binary64.val?]
    norm_num
  constructor
  · refine ⟨.float (.ofInt (2 ^ 63 + 1)), rfl, ?_, ?_⟩
    · decide +kernel
    · rw [number?_float, hround, hval]
  · intro h
    have heq := h .here (2 ^ 63 + 1) (2 ^ 63) (.float (.ofInt (2 ^ 63 + 1)))
      (.float (.ofInt (2 ^ 63))) ⟨by decide, by decide⟩ ⟨by decide, by decide⟩
      (Yaml.distinctKeys_of_children rfl) rfl rfl (by rw [hround])
    revert heq
    decide

end Value

end DesiredState
