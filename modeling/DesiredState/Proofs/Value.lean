import DesiredState.Proofs.Fields
import DesiredState.Script.Expr
import Mathlib.Algebra.Group.Int.Defs

/-!
# The parts of a value

A value is a tree, and many properties of a value are properties of all values
in that tree.  This module gives the induction over values, the list of the
values in a value, and two such properties: that the value is one which the
formats can hold, and that no key in it is the one that marks the table of an
instance.

## Main definitions

* `Value.parts` — a value and all values inside it.
* `Value.Valid` — keys are distinct and integers have 64 bits, everywhere.
* `Value.ClassFree` — the key of the class is not used by a map or an instance.

## Main results

* `Value.induct`, `Value.induct_children` — induction over values.
* `Value.forall_parts_iff` — a property of all parts is one of the value and of
  all parts of its children.
-/

namespace DesiredState

/-- Whether an integer has 64 bits. -/
def FitsWord (i : Int) : Prop := -2 ^ 63 ≤ i ∧ i < 2 ^ 63

instance (i : Int) : Decidable (FitsWord i) := inferInstanceAs (Decidable (_ ∧ _))

namespace Value

/-- Induction over values: the cases of arrays, maps and instances get the
statement for all values inside. -/
@[elab_as_elim]
theorem induct {motive : Value → Prop} (null : motive .null)
    (bool : ∀ b, motive (.bool b)) (int : ∀ i, motive (.int i)) (float : ∀ x, motive (.float x))
    (string : ∀ s, motive (.string s)) (secret : ∀ s, motive (.secret s))
    (array : ∀ items, (∀ item ∈ items, motive item) → motive (.array items))
    (map : ∀ entries, (∀ entry ∈ entries, motive entry.2) → motive (.map entries))
    (instanceOf : ∀ className properties, (∀ entry ∈ properties, motive entry.2) →
      motive (.instanceOf className properties))
    (v : Value) : motive v :=
  @Value.rec motive (fun items => ∀ item ∈ items, motive item)
    (fun entries => ∀ entry ∈ entries, motive entry.2) (fun entry => motive entry.2)
    null bool int float string secret array map instanceOf
    (by simp) (fun _ _ head tail => List.forall_mem_cons.2 ⟨head, tail⟩)
    (by simp) (fun _ _ head tail => List.forall_mem_cons.2 ⟨head, tail⟩)
    (fun _ _ value => value) v

/-! ## Parts -/

mutual

/-- A value and all values inside it, outer ones first. -/
def parts : Value → List Value
  | array items => array items :: itemParts items
  | map entries => map entries :: entryParts entries
  | instanceOf className properties => instanceOf className properties :: entryParts properties
  | v => [v]

/-- The parts of the items of an array. -/
def itemParts : List Value → List Value
  | [] => []
  | item :: rest => parts item ++ itemParts rest

/-- The parts of the values of entries. -/
def entryParts : List (String × Value) → List Value
  | [] => []
  | (_, value) :: rest => parts value ++ entryParts rest

end

theorem itemParts_eq (items : List Value) : itemParts items = items.flatMap parts := by
  induction items with
  | nil => rfl
  | cons item rest ih => rw [itemParts, ih, List.flatMap_cons]

theorem entryParts_eq (entries : List (String × Value)) :
    entryParts entries = (Entries.values entries).flatMap parts := by
  induction entries with
  | nil => rfl
  | cons entry rest ih =>
      rw [entryParts, ih, Entries.values, Entries.values, List.map_cons, List.flatMap_cons]

/-- The parts of a value are the value and the parts of its children. -/
theorem parts_eq (v : Value) : v.parts = v :: v.children.flatMap parts := by
  cases v with
  | array items => rw [parts, itemParts_eq]; rfl
  | map entries => rw [parts, entryParts_eq]; rfl
  | instanceOf className properties => rw [parts, entryParts_eq]; rfl
  | _ => rfl

/-- A property of all parts is one of the value and of the parts of its
children. -/
theorem forall_parts_iff {P : Value → Prop} {v : Value} :
    (∀ w ∈ v.parts, P w) ↔ P v ∧ ∀ child ∈ v.children, ∀ w ∈ child.parts, P w := by
  rw [parts_eq, List.forall_mem_cons]
  refine and_congr_right fun _ => ⟨fun h child hchild w hw => ?_, fun h w hw => ?_⟩
  · exact h w (List.mem_flatMap.2 ⟨child, hchild, hw⟩)
  · obtain ⟨child, hchild, hw⟩ := List.mem_flatMap.1 hw
    exact h child hchild w hw

theorem mem_parts_of_child {v child w : Value} (hchild : child ∈ v.children)
    (hw : w ∈ child.parts) : w ∈ v.parts := by
  rw [parts_eq]
  exact List.mem_cons_of_mem _ (List.mem_flatMap.2 ⟨child, hchild, hw⟩)

theorem mem_children_map {entries : List (String × Value)} {entry : String × Value}
    (h : entry ∈ entries) : entry.2 ∈ (map entries).children := List.mem_map_of_mem h

theorem mem_children_instanceOf (className : String) {properties : List (String × Value)}
    {entry : String × Value} (h : entry ∈ properties) :
    entry.2 ∈ (instanceOf className properties).children := List.mem_map_of_mem h

/-- Induction over values, with the statement for all values directly inside. -/
theorem induct_children {motive : Value → Prop}
    (step : ∀ v, (∀ child ∈ v.children, motive child) → motive v) (v : Value) : motive v := by
  induction v using Value.induct with
  | array items ih => exact step _ ih
  | map entries ih => exact step _ (List.forall_mem_map.2 ih)
  | instanceOf className properties ih => exact step _ (List.forall_mem_map.2 ih)
  | _ => exact step _ fun _ hchild => absurd hchild List.not_mem_nil

/-- The parts of a part are parts. -/
theorem mem_parts_trans {u v w : Value} (hw : w ∈ u.parts) (hu : u ∈ v.parts) : w ∈ v.parts := by
  induction v using induct_children with
  | step v ih =>
      rw [parts_eq] at hu
      rcases List.mem_cons.1 hu with rfl | hu
      · exact hw
      · obtain ⟨child, hchild, hu⟩ := List.mem_flatMap.1 hu
        exact mem_parts_of_child hchild (ih child hchild hu)

/-! ## Values that the formats can hold -/

/-- Whether a value, taken without the values inside it, is one that the formats
can hold: an integer has 64 bits, and the keys of a table are distinct. -/
def WellFormed : Value → Prop
  | int i => FitsWord i
  | map entries => (Entries.names entries).Nodup
  | instanceOf _ properties => (Entries.names properties).Nodup
  | _ => True

/-- All parts of the value are such that the formats can hold them. -/
def Valid (v : Value) : Prop := ∀ w ∈ v.parts, w.WellFormed

theorem Valid.wellFormed {v : Value} (h : v.Valid) : v.WellFormed := (forall_parts_iff.1 h).1

theorem Valid.child {v : Value} (h : v.Valid) {child : Value} (hchild : child ∈ v.children) :
    child.Valid := (forall_parts_iff.1 h).2 child hchild

/-! ## Values without the key of the class -/

/-- No map and no instance in the value has the key that carries the class in
the table of an instance. -/
def ClassFree (v : Value) : Prop := ∀ w ∈ v.parts, w.get? classKey = none

theorem ClassFree.get?_classKey {v : Value} (h : v.ClassFree) : v.get? classKey = none :=
  (forall_parts_iff.1 h).1

theorem ClassFree.part {v w : Value} (h : v.ClassFree) (hw : w ∈ v.parts) : w.ClassFree :=
  fun u hu => h u (mem_parts_trans hu hw)

theorem ClassFree.child {v : Value} (h : v.ClassFree) {child : Value}
    (hchild : child ∈ v.children) : child.ClassFree := (forall_parts_iff.1 h).2 child hchild

end Value

end DesiredState
