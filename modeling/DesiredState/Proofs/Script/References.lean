import DesiredState.Proofs.Literal.Form

/-!
# References of expressions

An expression refers to variables where they stand for expressions that were
built before.  The expression of a value refers to none: it is a literal through
and through.

## Main definitions

* `Expr.nodes` — an expression and all expressions inside it.
* `Expr.references` — the names an expression refers to, in the order of the
  text.

## Main results

* `Expr.induct` — induction over expressions.
* `Value.references_toExpr` — the expression of a value has no references.
-/

namespace DesiredState

namespace Expr

/-- Induction over expressions: the cases of arrays and tables get the statement
for all items and for the values of all entries. -/
@[elab_as_elim]
theorem induct {motive : Expr → Prop} (null : motive .null) (bool : ∀ b, motive (.bool b))
    (int : ∀ i, motive (.int i)) (float : ∀ x, motive (.float x)) (text : ∀ s, motive (.text s))
    (sensitive : ∀ s, motive (.sensitive s))
    (array : ∀ items, (∀ item ∈ items, motive item) → motive (.array items))
    (cast : ∀ typeName inner, motive inner → motive (.cast typeName inner))
    (table : ∀ entries, (∀ entry ∈ entries, motive entry.2) → motive (.table entries))
    (variableRef : ∀ name, motive (.variableRef name)) (e : Expr) : motive e :=
  @Expr.rec motive (fun items => ∀ item ∈ items, motive item)
    (fun entries => ∀ entry ∈ entries, motive entry.2) (fun entry => motive entry.2)
    null bool int float text sensitive array cast table variableRef
    (by simp) (fun _ _ head tail => List.forall_mem_cons.2 ⟨head, tail⟩)
    (by simp) (fun _ _ head tail => List.forall_mem_cons.2 ⟨head, tail⟩)
    (fun _ _ value => value) e

mutual

/-- An expression and all expressions inside it, outer ones first. -/
def nodes : Expr → List Expr
  | array items => array items :: itemNodes items
  | cast typeName inner => cast typeName inner :: nodes inner
  | table entries => table entries :: entryNodes entries
  | e => [e]

/-- The expressions in the items of an array. -/
def itemNodes : List Expr → List Expr
  | [] => []
  | item :: rest => nodes item ++ itemNodes rest

/-- The expressions in the values of entries. -/
def entryNodes : List (Key × Expr) → List Expr
  | [] => []
  | (_, value) :: rest => nodes value ++ entryNodes rest

end

theorem nodes_array (items : List Expr) :
    (array items).nodes = array items :: items.flatMap nodes := by
  rw [nodes]
  congr 1
  induction items with
  | nil => rfl
  | cons item rest ih => rw [itemNodes, ih, List.flatMap_cons]

theorem nodes_table (entries : List (Key × Expr)) :
    (table entries).nodes = table entries :: entries.flatMap fun entry => entry.2.nodes := by
  rw [nodes]
  congr 1
  induction entries with
  | nil => rfl
  | cons entry rest ih => rw [entryNodes, ih, List.flatMap_cons]

mutual

/-- The names that an expression refers to. -/
def references : Expr → List String
  | array items => itemReferences items
  | cast _ inner => references inner
  | table entries => entryReferences entries
  | variableRef name => [name]
  | _ => []

/-- The names that the items of an array refer to. -/
def itemReferences : List Expr → List String
  | [] => []
  | item :: rest => references item ++ itemReferences rest

/-- The names that the values of entries refer to. -/
def entryReferences : List (Key × Expr) → List String
  | [] => []
  | (_, value) :: rest => references value ++ entryReferences rest

end

theorem references_array (items : List Expr) :
    (array items).references = items.flatMap references := by
  rw [references]
  induction items with
  | nil => rfl
  | cons item rest ih => rw [itemReferences, ih, List.flatMap_cons]

theorem references_table (entries : List (Key × Expr)) :
    (table entries).references = entries.flatMap fun entry => entry.2.references := by
  rw [references]
  induction entries with
  | nil => rfl
  | cons entry rest ih => rw [entryReferences, ih, List.flatMap_cons]

/-- What an item of an array refers to, the array does. -/
theorem mem_references_array {items : List Expr} {item : Expr} (hitem : item ∈ items)
    {name : String} (hname : name ∈ item.references) : name ∈ (array items).references := by
  rw [references_array]
  exact List.mem_flatMap.2 ⟨item, hitem, hname⟩

/-- What a value of a table refers to, the table does. -/
theorem mem_references_table {entries : List (Key × Expr)} {entry : Key × Expr}
    (hentry : entry ∈ entries) {name : String} (hname : name ∈ entry.2.references) :
    name ∈ (table entries).references := by
  rw [references_table]
  exact List.mem_flatMap.2 ⟨entry, hentry, hname⟩

theorem references_array_eq_nil {items : List Expr} :
    (array items).references = [] ↔ ∀ item ∈ items, item.references = [] := by
  rw [references_array, List.flatMap_eq_nil_iff]

theorem references_table_eq_nil {entries : List (Key × Expr)} :
    (table entries).references = [] ↔ ∀ entry ∈ entries, entry.2.references = [] := by
  rw [references_table, List.flatMap_eq_nil_iff]

end Expr

namespace Value

theorem references_entriesToExpr {entries : List (String × Value)}
    (h : ∀ entry ∈ entries, entry.2.toExpr.references = []) :
    ∀ entry ∈ entriesToExpr entries, entry.2.references = [] := by
  rw [entriesToExpr_eq, List.forall_mem_map]
  exact h

/-- The expression of a value has no references. -/
theorem references_toExpr (v : Value) : v.toExpr.references = [] := by
  induction v using Value.induct with
  | array items ih =>
      have hitems : (Expr.array (itemsToExpr items)).references = [] := by
        rw [Expr.references_array_eq_nil, itemsToExpr_eq, List.forall_mem_map]
        exact ih
      rw [toExpr]
      split
      · rw [Expr.references, hitems]
      · exact hitems
  | map entries ih =>
      rw [toExpr, Expr.references_table_eq_nil]
      exact references_entriesToExpr ih
  | instanceOf className properties ih =>
      rw [toExpr, Expr.references_table_eq_nil]
      exact List.forall_mem_cons.2 ⟨rfl, references_entriesToExpr ih⟩
  | _ => rfl

end Value

end DesiredState
