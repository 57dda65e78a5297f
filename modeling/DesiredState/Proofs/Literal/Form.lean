import DesiredState.Proofs.Literal.Number
import DesiredState.Proofs.Value

/-!
# The syntax trees of values

The literal of a value is the text of a syntax tree.  A value and the tree of
its literal have the same shape; the tree forgets what no text shows, such as
whether a table stands for a map with a class entry or for an instance.

Since a tree has one text, two values have the same literal exactly when they
have the same tree.  Every comparison of texts in a script is therefore a
comparison of trees.

## Main definitions

* `Value.form` — the tree of the literal of a value.

## Main results

* `Value.write_form`, `Value.proper_form` — the tree is one of the grammar, and
  its text is the literal.
* `Value.literal_eq_iff` — literals agree exactly when trees do.
-/

namespace DesiredState

namespace Value

/-- The tree of a floating-point number: by its name if it has one. -/
def floatForm : Binary64 → Literal
  | .nan => .special .nan
  | .infinite negative => .special (.infinite negative)
  | .finite negative mantissa exponent canonical =>
      .number (Expr.floatLayout.write (.finite negative mantissa exponent canonical))

mutual

/-- The tree of the literal of a value. -/
def form : Value → Literal
  | null => .null
  | bool b => .bool b
  | int i => .number (writeInt i)
  | float x => floatForm x
  | string s => .text s
  | secret s => .sensitive s
  | array items =>
      if !items.isEmpty && items.all isInstance then .cast (.array (itemForms items))
      else .array (itemForms items)
  | map entries => .table (entryForms entries)
  | instanceOf className properties => .table ((classKey, .text className) :: entryForms properties)

/-- The trees of the items of an array. -/
def itemForms : List Value → List Literal
  | [] => []
  | item :: rest => form item :: itemForms rest

/-- The trees of the entries of a map. -/
def entryForms : List (String × Value) → List (String × Literal)
  | [] => []
  | (key, value) :: rest => (key, form value) :: entryForms rest

end

theorem itemForms_eq (items : List Value) : itemForms items = items.map form := by
  induction items with
  | nil => rfl
  | cons item rest ih => rw [itemForms, ih, List.map_cons]

theorem entryForms_eq (entries : List (String × Value)) :
    entryForms entries = entries.map fun entry => (entry.1, form entry.2) := by
  induction entries with
  | nil => rfl
  | cons entry rest ih => rw [entryForms, ih, List.map_cons]

theorem itemsToExpr_eq (items : List Value) : itemsToExpr items = items.map toExpr := by
  induction items with
  | nil => rfl
  | cons item rest ih => rw [itemsToExpr, ih, List.map_cons]

theorem entriesToExpr_eq (entries : List (String × Value)) :
    entriesToExpr entries = entries.map fun entry => (.quoted entry.1, toExpr entry.2) := by
  induction entries with
  | nil => rfl
  | cons entry rest ih => rw [entriesToExpr, ih, List.map_cons]

/-- A floating-point number is written by its name or with digits. -/
theorem floatForm_cases (x : Binary64) :
    floatForm x = .special x ∨ ∃ cs, floatForm x = .number cs := by
  cases x with
  | finite negative mantissa exponent canonical => exact .inr ⟨_, rfl⟩
  | _ => exact .inl rfl

/-- An array is written with the type of arrays of instances in front of it, or not. -/
theorem form_array_cases (items : List Value) :
    (array items).form = .cast (.array (itemForms items)) ∨
      (array items).form = .array (itemForms items) := by
  rw [form]
  split
  · exact .inl rfl
  · exact .inr rfl

/-- The tree of a map without the key of the class is not that of an instance. -/
theorem form_map_ne {entries : List (String × Value)} (h : Entries.get? entries classKey = none)
    (className : String) (properties : List (String × Value)) :
    (map entries).form ≠ (instanceOf className properties).form := by
  intro heq
  have hnames := congrArg (List.map Prod.fst) (Literal.table.inj heq)
  rw [entryForms_eq entries, List.map_map] at hnames
  have hkey : Entries.names entries = classKey :: _ := hnames
  exact (Entries.get?_eq_none_iff _ _).1 h (hkey ▸ List.mem_cons_self)

/-- Only a text has the tree of a text. -/
theorem eq_string_of_form {v : Value} {s : String} (h : v.form = .text s) : v = string s := by
  cases v with
  | string t => exact congrArg string (Literal.text.inj h)
  | _ => grind [form, floatForm_cases, form_array_cases]

/-- Only a secret has the tree of a marked text. -/
theorem eq_secret_of_form {v : Value} {s : String} (h : v.form = .sensitive s) :
    v = secret s := by
  cases v with
  | secret t => exact congrArg secret (Literal.sensitive.inj h)
  | _ => grind [form, floatForm_cases, form_array_cases]

/-! ## The tree is one of the grammar -/

theorem proper_floatForm (x : Binary64) : (floatForm x).Proper := by
  cases x with
  | nan => exact .nan
  | infinite negative => exact .infinite negative
  | finite negative mantissa exponent canonical =>
      refine .number ?_ fun c hc =>
        Literal.isNumberChar_of_mem_write _ negative mantissa exponent canonical hc
      intro hnil
      have hmark := Literal.isFractional_write Expr.floatLayout negative mantissa exponent canonical
      rw [hnil] at hmark
      exact absurd hmark (by decide)

/-- The tree of a value stands for a text of the grammar. -/
theorem proper_form (v : Value) : v.form.Proper := by
  induction v using Value.induct with
  | null => exact .null
  | bool b => exact .bool b
  | int i =>
      exact .number (Literal.writeInt_ne_nil i) fun c hc => Literal.isNumberChar_of_mem_writeInt hc
  | float x => exact proper_floatForm x
  | string s => exact .text s
  | secret s => exact .sensitive s
  | array items ih =>
      have hitems : (Literal.array (itemForms items)).Proper := by
        refine .array ?_
        rw [itemForms_eq, List.forall_mem_map]
        exact ih
      rw [form]
      split
      · exact .cast hitems
      · exact hitems
  | map entries ih =>
      refine .table ?_
      rw [entryForms_eq, List.forall_mem_map]
      exact ih
  | instanceOf className properties ih =>
      refine .table (List.forall_mem_cons.2 ⟨.text className, ?_⟩)
      rw [entryForms_eq, List.forall_mem_map]
      exact ih

/-! ## The text of the tree is the literal -/

theorem intercalate_cons (sep first : List Char) (rest : List (List Char)) :
    List.intercalate sep (first :: rest) = first ++ rest.flatMap (sep ++ ·) := by
  induction rest generalizing first with
  | nil => simp
  | cons next rest ih =>
      rw [List.intercalate_cons_cons, ih, List.flatMap_cons]
      simp only [List.append_assoc]

theorem writeMoreItems_eq (items : List Literal) :
    Literal.writeMoreItems items =
      (items.map Literal.write).flatMap ([',', ' '] ++ ·) ++ [')'] := by
  induction items with
  | nil => rfl
  | cons item rest ih => simp [Literal.writeMoreItems, ih]

theorem writeMoreEntries_eq (entries : List (String × Literal)) :
    Literal.writeMoreEntries entries =
      (entries.map fun entry => SingleQuoted.write entry.1 ++
        (Literal.assignToken ++ entry.2.write)).flatMap ([';', ' '] ++ ·) ++ ['\x7d'] := by
  induction entries with
  | nil => rfl
  | cons entry rest ih => simp [Literal.writeMoreEntries, ih]

/-- The items of an array, separated and closed. -/
theorem writeItems_eq (items : List Literal) :
    Literal.writeItems items =
      List.intercalate [',', ' '] (items.map Literal.write) ++ [')'] := by
  cases items with
  | nil => rfl
  | cons item rest =>
      rw [Literal.writeItems, writeMoreItems_eq, List.map_cons, intercalate_cons,
        List.append_assoc]

/-- The entries of a table, separated and closed. -/
theorem writeEntries_eq (entries : List (String × Literal)) :
    Literal.writeEntries entries =
      List.intercalate [';', ' '] (entries.map fun entry =>
        SingleQuoted.write entry.1 ++ (Literal.assignToken ++ entry.2.write)) ++ ['\x7d'] := by
  cases entries with
  | nil => rfl
  | cons entry rest =>
      rw [Literal.writeEntries, writeMoreEntries_eq, List.map_cons, intercalate_cons]
      simp only [List.append_assoc]

end Value

namespace Expr

theorem writeItems_eq (items : List Expr) : writeItems items = items.map write := by
  induction items with
  | nil => rfl
  | cons item rest ih => rw [List.map_cons, ← ih]; rfl

theorem writeEntries_eq (entries : List (Key × Expr)) :
    writeEntries entries =
      entries.map fun entry => writeKey entry.1 ++ " = ".toList ++ write entry.2 := by
  induction entries with
  | nil => rfl
  | cons entry rest ih => rw [List.map_cons, ← ih]; rfl

theorem write_array (items : List Expr) :
    write (.array items) =
      '@' :: '(' :: (List.intercalate ", ".toList (items.map write) ++ [')']) := by
  rw [← writeItems_eq]; rfl

theorem write_cast (typeName : String) (inner : Expr) :
    write (.cast typeName inner) = '[' :: (typeName.toList ++ ']' :: write inner) := rfl

theorem write_table (entries : List (Key × Expr)) :
    write (.table entries) =
      '@' :: '\x7b' :: (List.intercalate "; ".toList
        (entries.map fun entry => writeKey entry.1 ++ " = ".toList ++ write entry.2) ++
          ['\x7d']) := by
  rw [← writeEntries_eq]; rfl

end Expr

namespace Value

theorem write_floatForm (x : Binary64) : (floatForm x).write = Expr.floatLayout.write x := by
  cases x <;> rfl

/-- The text of an array of trees is that of an array of expressions with the
same texts. -/
theorem write_array_form {items : List Value}
    (h : ∀ item ∈ items, item.form.write = item.toExpr.write) :
    (Literal.array (itemForms items)).write = (Expr.array (itemsToExpr items)).write := by
  have hmap : (items.map form).map Literal.write = (items.map toExpr).map Expr.write := by
    simpa using h
  rw [Literal.write, writeItems_eq, itemForms_eq, itemsToExpr_eq, Expr.write_array, hmap]
  rfl

theorem write_entries_form {entries : List (String × Value)}
    (h : ∀ entry ∈ entries, entry.2.form.write = entry.2.toExpr.write) :
    ((entryForms entries).map fun entry =>
        SingleQuoted.write entry.1 ++ (Literal.assignToken ++ entry.2.write)) =
      (entriesToExpr entries).map fun entry =>
        Expr.writeKey entry.1 ++ " = ".toList ++ entry.2.write := by
  rw [entryForms_eq, entriesToExpr_eq, List.map_map, List.map_map, List.map_inj_left]
  intro entry hmem
  simp only [Function.comp_apply, h entry hmem, List.append_assoc]
  rfl

/-- The text of the tree of a value is the literal of the value. -/
theorem write_form (v : Value) : v.form.write = v.toExpr.write := by
  induction v using Value.induct with
  | null => rfl
  | bool b => cases b <;> rfl
  | int i => rfl
  | float x => exact write_floatForm x
  | string s => rfl
  | secret s => rfl
  | array items ih =>
      have hitems := write_array_form ih
      rw [form, toExpr]
      split
      · rw [Literal.write, hitems, Expr.write_cast]
        rfl
      · exact hitems
  | map entries ih =>
      rw [form, toExpr, Literal.write, writeEntries_eq, Expr.write_table, write_entries_form ih]
      rfl
  | instanceOf className properties ih =>
      rw [form, toExpr, Literal.write, writeEntries_eq, Expr.write_table, List.map_cons,
        List.map_cons, write_entries_form ih, List.append_assoc]
      rfl

/-- Two values have the same literal exactly when they have the same tree. -/
theorem write_toExpr_eq_iff {v w : Value} :
    v.toExpr.write = w.toExpr.write ↔ v.form = w.form := by
  rw [← write_form, ← write_form]
  exact ⟨Literal.write_injective (proper_form v) (proper_form w), fun h => by rw [h]⟩

/-- Two values have the same literal exactly when they have the same tree. -/
theorem literal_eq_iff {v w : Value} : v.literal = w.literal ↔ v.form = w.form := by
  rw [← write_toExpr_eq_iff, literal, literal, Expr.render, Expr.render, String.ofList_inj]

end Value

end DesiredState
