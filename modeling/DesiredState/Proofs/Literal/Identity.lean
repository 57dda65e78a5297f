import DesiredState.Proofs.Literal.RoundTrip

/-!
# Literals tell values apart

Two values without the key of the class have the same literal only if they are the same
value: a secret is not a text, an integer is not a number with a fraction, an array of
instances is not another array, and an instance is not a map.  Floating-point numbers are
the same if their texts are; that different ones have different texts is taken as given
for those that occur.

The equality is that of the values as they are, with maps in their order.  It can be
decided, so values can be counted.

## Main definitions

* `Value.identical` — the decision of equality.

## Main results

* `Value.identical_iff` — values are identical if they are equal.
* `writeInt_injective` — integers have different texts.
* `Value.eq_of_literal_eq` — values with the same literal are equal.
-/

namespace DesiredState

namespace Value

/-! ## Equality is decidable -/

mutual

/-- Whether two values are equal. -/
def identical : Value → Value → Bool
  | null, null => true
  | bool a, bool b => a == b
  | int a, int b => a == b
  | float a, float b => a == b
  | string a, string b => a == b
  | secret a, secret b => a == b
  | array a, array b => identicalItems a b
  | map a, map b => identicalEntries a b
  | instanceOf c a, instanceOf d b => c == d && identicalEntries a b
  | _, _ => false

/-- Whether two lists of values are equal. -/
def identicalItems : List Value → List Value → Bool
  | [], [] => true
  | a :: as, b :: bs => identical a b && identicalItems as bs
  | _, _ => false

/-- Whether two lists of entries are equal. -/
def identicalEntries : List (String × Value) → List (String × Value) → Bool
  | [], [] => true
  | (key, a) :: as, (other, b) :: bs => key == other && identical a b && identicalEntries as bs
  | _, _ => false

end

theorem identicalItems_iff {items : List Value}
    (h : ∀ item ∈ items, ∀ w, identical item w = true ↔ item = w) (others : List Value) :
    identicalItems items others = true ↔ items = others := by
  induction items generalizing others with
  | nil => cases others <;> simp [identicalItems]
  | cons item rest ih =>
      obtain ⟨hitem, hrest⟩ := List.forall_mem_cons.1 h
      cases others with
      | nil => simp [identicalItems]
      | cons other others => simp [identicalItems, hitem, ih hrest]

theorem identicalEntries_iff {entries : List (String × Value)}
    (h : ∀ entry ∈ entries, ∀ w, identical entry.2 w = true ↔ entry.2 = w)
    (others : List (String × Value)) :
    identicalEntries entries others = true ↔ entries = others := by
  induction entries generalizing others with
  | nil => cases others <;> simp [identicalEntries]
  | cons entry rest ih =>
      obtain ⟨hentry, hrest⟩ := List.forall_mem_cons.1 h
      cases others with
      | nil => simp [identicalEntries]
      | cons other others => simp [identicalEntries, hentry, ih hrest, Prod.ext_iff]

/-- Values are identical if they are equal. -/
theorem identical_iff (v w : Value) : v.identical w = true ↔ v = w := by
  induction v using Value.induct generalizing w with
  | array items ih => cases w <;> simp [identical, identicalItems_iff ih]
  | map entries ih => cases w <;> simp [identical, identicalEntries_iff ih]
  | instanceOf className properties ih => cases w <;> simp [identical, identicalEntries_iff ih]
  | _ => cases w <;> simp [identical]

instance : DecidableEq Value := fun v w => decidable_of_iff _ (identical_iff v w)

end Value

deriving instance DecidableEq for Instance

/-! ## Numbers have different texts -/

theorem writeNat_injective {m n : Nat} (h : writeNat m = writeNat n) : m = n := by
  have hm := digitsValue?_writeNat m
  rw [h, digitsValue?_writeNat] at hm
  exact (Option.some.inj hm).symm

/-- Integers have different texts. -/
theorem writeInt_injective {i j : Int} (h : writeInt i = writeInt j) : i = j := by
  have hsplit := splitSign_writeInt i
  rw [h, splitSign_writeInt] at hsplit
  obtain ⟨hsign, hdigits⟩ := Prod.mk.inj hsplit
  have habs := writeNat_injective hdigits
  simp only [decide_eq_decide] at hsign
  omega

/-! ## Values have different literals -/

namespace Value

/-- The text of a floating-point number is not that of an integer. -/
theorem floatForm_ne_int (x : Binary64) (i : Int) : floatForm x ≠ .number (writeInt i) := by
  cases x with
  | finite negative mantissa exponent canonical =>
      intro h
      have hmark := Literal.isFractional_write Expr.floatLayout negative mantissa exponent canonical
      rw [Literal.number.inj h, Literal.not_isFractional_writeInt] at hmark
      exact absurd hmark (by decide)
  | _ => simp [floatForm]

/-- Lists of which the elements are told apart by a function are told apart. -/
theorem eq_of_map_eq {α β : Type} {f : α → β} {as bs : List α}
    (h : ∀ a ∈ as, ∀ b ∈ bs, f a = f b → a = b) (heq : as.map f = bs.map f) : as = bs := by
  induction as generalizing bs with
  | nil => exact (List.map_eq_nil_iff.1 heq.symm).symm
  | cons a as ih =>
      obtain ⟨b, bs, rfl, hab, hrest⟩ := List.map_eq_cons_iff.1 heq.symm
      rw [h a List.mem_cons_self b List.mem_cons_self hab.symm,
        ih (fun a ha b hb => h a (List.mem_cons_of_mem _ ha) b (List.mem_cons_of_mem _ hb))
          hrest.symm]

/-- Whether the floating-point numbers in two values are told apart by their texts. -/
def FloatsDiffer (v w : Value) : Prop :=
  ∀ x y, float x ∈ v.parts → float y ∈ w.parts →
    Expr.floatLayout.write x = Expr.floatLayout.write y → x = y

theorem FloatsDiffer.children {v w : Value} (h : v.FloatsDiffer w) {child other : Value}
    (hchild : child ∈ v.children) (hother : other ∈ w.children) : child.FloatsDiffer other :=
  fun x y hx hy => h x y (mem_parts_of_child hchild hx) (mem_parts_of_child hother hy)

/-- Values with the same tree are equal. -/
theorem eq_of_form_eq {v w : Value} (hv : v.ClassFree) (hw : w.ClassFree)
    (hfloats : v.FloatsDiffer w) (h : v.form = w.form) : v = w := by
  have hentries : ∀ {entries others : List (String × Value)}, (∀ entry ∈ entries,
      ∀ other ∈ others, entry.2.form = other.2.form → entry.2 = other.2) →
      entryForms entries = entryForms others → entries = others := by
    intro entries others hvalues heq
    rw [entryForms_eq, entryForms_eq] at heq
    refine eq_of_map_eq (fun entry hentry other hother hboth => ?_) heq
    obtain ⟨hkey, hform⟩ := Prod.mk.inj hboth
    exact Prod.ext hkey (hvalues entry hentry other hother hform)
  induction v using Value.induct generalizing w with
  | null =>
      cases w with
      | null => rfl
      | _ => grind [form, floatForm_cases, form_array_cases]
  | bool b =>
      cases w with
      | bool c => exact congrArg bool (Literal.bool.inj h)
      | _ => grind [form, floatForm_cases, form_array_cases]
  | int i =>
      cases w with
      | int j => exact congrArg int (writeInt_injective (Literal.number.inj h))
      | float y => exact absurd h.symm (floatForm_ne_int y i)
      | _ => grind [form, floatForm_cases, form_array_cases]
  | float x =>
      cases w with
      | int j => exact absurd h (floatForm_ne_int x j)
      | float y =>
          have htexts := congrArg Literal.write h
          rw [form, form, write_floatForm, write_floatForm] at htexts
          exact congrArg float (hfloats x y (by simp [parts]) (by simp [parts]) htexts)
      | _ => grind [form, floatForm_cases, form_array_cases]
  | string s =>
      cases w with
      | string t => exact congrArg string (Literal.text.inj h)
      | _ => grind [form, floatForm_cases, form_array_cases]
  | secret s =>
      cases w with
      | secret t => exact congrArg secret (Literal.sensitive.inj h)
      | _ => grind [form, floatForm_cases, form_array_cases]
  | array items ih =>
      cases w with
      | array others =>
          have hforms : itemForms items = itemForms others := by
            grind [form_array_cases]
          rw [itemForms_eq, itemForms_eq] at hforms
          refine congrArg array (eq_of_map_eq (fun item hitem other hother => ?_) hforms)
          exact ih item hitem (hv.child hitem) (hw.child hother) (hfloats.children hitem hother)
      | _ => grind [form, floatForm_cases, form_array_cases]
  | map entries ih =>
      cases w with
      | map others =>
          refine congrArg map (hentries (fun entry hentry other hother => ?_)
            (Literal.table.inj h))
          have hmine := mem_children_map hentry
          have hyours := mem_children_map hother
          exact ih entry hentry (hv.child hmine) (hw.child hyours) (hfloats.children hmine hyours)
      | instanceOf className properties =>
          exact absurd h (form_map_ne hv.get?_classKey className properties)
      | _ => grind [form, floatForm_cases, form_array_cases]
  | instanceOf className properties ih =>
      cases w with
      | map others => exact absurd h.symm (form_map_ne hw.get?_classKey className properties)
      | instanceOf otherName others =>
          obtain ⟨hclass, hproperties⟩ := List.cons.inj (Literal.table.inj h)
          obtain rfl : className = otherName := Literal.text.inj (Prod.mk.inj hclass).2
          refine congrArg (instanceOf className)
            (hentries (fun entry hentry other hother => ?_) hproperties)
          have hmine := mem_children_instanceOf className hentry
          have hyours := mem_children_instanceOf className hother
          exact ih entry hentry (hv.child hmine) (hw.child hyours) (hfloats.children hmine hyours)
      | _ => grind [form, floatForm_cases, form_array_cases]

/-- Values with the same literal are equal. -/
theorem eq_of_literal_eq {v w : Value} (hv : v.ClassFree) (hw : w.ClassFree)
    (hfloats : v.FloatsDiffer w) (h : v.literal = w.literal) : v = w :=
  eq_of_form_eq hv hw hfloats (literal_eq_iff.1 h)

end Value

end DesiredState
