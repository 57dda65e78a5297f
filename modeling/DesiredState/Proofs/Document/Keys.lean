import DesiredState.Proofs.Document.Secrets
import Mathlib.Data.List.Basic

/-!
# Keys of a document

A document is read only if the keys of each of its mappings differ in content.  This holds
of the mappings inside of it as well, in values, in keys and behind tags.

## Main definitions

* `Yaml.parts` — a document value and everything inside of it.
* `Yaml.DistinctKeys` — no mapping in a document value has two keys of the same content.

## Main results

* `Yaml.forall_parts_iff` — what holds of all parts.
* `Yaml.nodup_of_keysDiffer` — keys that are texts of different content are different.
* `Yaml.distinctKeys_of_read?` — the keys of a document that was read differ.
-/

namespace DesiredState

namespace Yaml

/-! ## Parts -/

mutual

/-- A document value and all values inside of it, keys included, outer ones first. -/
def parts : Yaml → List Yaml
  | sequence items => sequence items :: itemParts items
  | mapping entries => mapping entries :: entryParts entries
  | tagged tag value => tagged tag value :: parts value
  | y => [y]

/-- The parts of the items of a sequence. -/
def itemParts : List Yaml → List Yaml
  | [] => []
  | item :: rest => parts item ++ itemParts rest

/-- The parts of the keys and of the values of a mapping. -/
def entryParts : List (Yaml × Yaml) → List Yaml
  | [] => []
  | (key, value) :: rest => parts key ++ parts value ++ entryParts rest

end

/-- The values directly inside of a document value. -/
def children : Yaml → List Yaml
  | sequence items => items
  | mapping entries => entries.flatMap fun entry => [entry.1, entry.2]
  | tagged _ value => [value]
  | _ => []

theorem itemParts_eq (items : List Yaml) : itemParts items = items.flatMap parts := by
  induction items with
  | nil => rfl
  | cons item rest ih => rw [itemParts, ih, List.flatMap_cons]

theorem entryParts_eq (entries : List (Yaml × Yaml)) :
    entryParts entries = (mapping entries).children.flatMap parts := by
  induction entries with
  | nil => rfl
  | cons entry rest ih =>
      obtain ⟨key, value⟩ := entry
      rw [entryParts, ih]
      simp [children]

/-- The parts of a value are the value and the parts of its children. -/
theorem parts_eq (y : Yaml) : y.parts = y :: y.children.flatMap parts := by
  cases y with
  | sequence items => rw [parts, itemParts_eq]; rfl
  | mapping entries => rw [parts, entryParts_eq]
  | tagged tag value => simp [parts, children]
  | _ => rfl

/-- A property of all parts is one of the value and of the parts of its children. -/
theorem forall_parts_iff {P : Yaml → Prop} {y : Yaml} :
    (∀ part ∈ y.parts, P part) ↔ P y ∧ ∀ child ∈ y.children, ∀ part ∈ child.parts, P part := by
  rw [parts_eq, List.forall_mem_cons, List.forall_mem_flatMap]

theorem mem_children_mapping {entries : List (Yaml × Yaml)} {entry : Yaml × Yaml}
    (h : entry ∈ entries) :
    entry.1 ∈ (mapping entries).children ∧ entry.2 ∈ (mapping entries).children :=
  ⟨List.mem_flatMap.2 ⟨entry, h, List.mem_cons_self⟩,
    List.mem_flatMap.2 ⟨entry, h, List.mem_cons_of_mem _ List.mem_cons_self⟩⟩

theorem forall_children_mapping {P : Yaml → Prop} {entries : List (Yaml × Yaml)} :
    (∀ child ∈ (mapping entries).children, P child) ↔
      ∀ entry ∈ entries, P entry.1 ∧ P entry.2 := by
  rw [children, List.forall_mem_flatMap]
  refine forall₂_congr fun entry _ => ?_
  rw [List.forall_mem_cons, List.forall_mem_singleton]

/-! ## Different keys -/

/-- Whether the keys of a mapping differ, without regard to what is inside of them. -/
def ownKeysDiffer : Yaml → Bool
  | mapping entries => keysDiffer entries
  | _ => true

/-- No mapping in the value has two keys of the same content. -/
def DistinctKeys (y : Yaml) : Prop := ∀ part ∈ y.parts, part.ownKeysDiffer = true

instance (y : Yaml) : Decidable y.DistinctKeys :=
  inferInstanceAs (Decidable (∀ part ∈ y.parts, part.ownKeysDiffer = true))

theorem distinctKeys_iff {y : Yaml} :
    y.DistinctKeys ↔ y.ownKeysDiffer = true ∧ ∀ child ∈ y.children, child.DistinctKeys :=
  forall_parts_iff

theorem DistinctKeys.child {y : Yaml} (h : y.DistinctKeys) {child : Yaml}
    (hchild : child ∈ y.children) : child.DistinctKeys := (distinctKeys_iff.1 h).2 child hchild

/-- Keys that are texts, and differ in content, are different. -/
theorem nodup_of_keysDiffer {entries : List (Yaml × Yaml)} {names : List String}
    (hkeys : keysDiffer entries = true)
    (hnames : entries.map Prod.fst = names.map string) : names.Nodup := by
  induction entries generalizing names with
  | nil =>
      have hnil : names = [] := List.map_eq_nil_iff.1 hnames.symm
      rw [hnil]
      exact .nil
  | cons entry rest ih =>
      obtain ⟨key, value⟩ := entry
      cases names with
      | nil => cases hnames
      | cons name others =>
          obtain ⟨hkey, hothers⟩ := List.cons.inj hnames
          obtain rfl : key = string name := hkey
          rw [keysDiffer, Bool.and_eq_true, Bool.not_eq_true', List.any_eq_false] at hkeys
          obtain ⟨hfresh, hrest⟩ := hkeys
          refine List.nodup_cons.2 ⟨fun hmem => ?_, ih hrest hothers⟩
          have hkey : string name ∈ rest.map Prod.fst := by
            rw [hothers]
            exact List.mem_map_of_mem hmem
          obtain ⟨other, hother, heq⟩ := List.mem_map.1 hkey
          have hsame : same (string name) other.1 = true := by
            rw [heq]
            simp [same]
          exact hfresh other hother hsame

/-! ## Documents that were read -/

theorem distinctKeys_withTag (tag? : Option (List Char)) {y : Yaml} (h : y.DistinctKeys) :
    (withTag tag? y).DistinctKeys := by
  rw [withTag]
  split
  · exact distinctKeys_iff.2 ⟨rfl, by simpa [children] using h⟩
  · exact h

/-- A value without children has no keys. -/
theorem distinctKeys_of_children {y : Yaml} (h : y.children = []) : y.DistinctKeys := by
  rw [distinctKeys_iff, h]
  refine ⟨?_, List.forall_mem_nil _⟩
  cases y with
  | mapping entries =>
      cases entries with
      | nil => rfl
      | cons entry rest => cases h
  | _ => rfl

/-- A plain scalar has no children, whatever it stands for. -/
theorem children_ofPlain? {text : String} {y : Yaml} (h : ofPlain? text = some y) :
    y.children = [] := by
  rw [ofPlain?] at h
  split at h
  · cases h; rfl
  split at h
  · cases h; rfl
  split at h
  · cases h; rfl
  · cases h
  split at h
  · cases h; rfl
  split at h
  · cases h; rfl
  · cases h; rfl

theorem children_ofStyled? {style : ScalarStyle} {text : String} {y : Yaml}
    (h : ofStyled? style text = some y) : y.children = [] := by
  rw [ofStyled?] at h
  split at h
  · exact children_ofPlain? h
  · cases h; rfl

theorem distinctKeys_ofScalar? {tag? : Option (List Char)} {style : ScalarStyle} {text : String}
    {y : Yaml} (h : ofScalar? tag? style text = some y) : y.DistinctKeys := by
  cases tag? with
  | none => exact distinctKeys_of_children (children_ofStyled? h)
  | some tag =>
      dsimp only [ofScalar?] at h
      split at h
      · obtain ⟨z, hz, rfl⟩ := Option.map_eq_some_iff.1 h
        exact distinctKeys_withTag _ (distinctKeys_of_children (children_ofStyled? hz))
      refine distinctKeys_of_children ?_
      split at h
      · obtain ⟨b, -, rfl⟩ := Option.map_eq_some_iff.1 h
        rfl
      split at h
      · rw [intOfText?] at h
        split at h
        · cases h; rfl
        · cases h
      split at h
      · obtain ⟨x, -, rfl⟩ := Option.map_eq_some_iff.1 h
        rfl
      split at h
      · split at h
        · cases h; rfl
        · cases h
      · cases h; rfl

end Yaml

namespace YamlDocument

/-- Whether all that a reading gives has a property. -/
def Reading.Gives {α : Type} (x : Reading α) (P : α → Prop) : Prop :=
  ∀ followed a after, x.run followed = some (a, after) → P a

namespace Reading.Gives

variable {α β : Type} {P : α → Prop} {Q : β → Prop} {x : Reading α} {f : α → Reading β}

theorem pure {a : α} (h : P a) : Gives (Pure.pure a) P := by
  intro followed b after hrun
  cases hrun
  exact h

theorem failure : Gives (failure : Reading α) P := by
  intro followed a after hrun
  cases hrun

theorem bind (hx : x.Gives P) (hf : ∀ a, P a → (f a).Gives Q) : Gives (x >>= f) Q := by
  intro followed b after hrun
  rw [StateT.run_bind] at hrun
  obtain ⟨⟨a, between⟩, ha, hb⟩ := Option.bind_eq_some_iff.1 hrun
  exact hf a (hx _ _ _ ha) _ _ _ hb

/-- Nothing is said about what a reading gives. -/
theorem trivial (x : Reading α) : x.Gives fun _ => True := fun _ _ _ _ => True.intro

/-- What is given for each element has the property. -/
theorem mapM {g : β → Reading α} {xs : List β} (h : ∀ b, (g b).Gives P) :
    Gives (xs.mapM g) fun as => ∀ a ∈ as, P a := by
  induction xs with
  | nil =>
      rw [List.mapM_nil]
      exact pure (List.forall_mem_nil _)
  | cons b rest ih =>
      rw [List.mapM_cons]
      exact (h b).bind fun a ha => ih.bind fun as has => pure (List.forall_mem_cons.2 ⟨ha, has⟩)

end Reading.Gives

end YamlDocument

namespace Yaml

open YamlDocument (Reading)

theorem distinctKeys_mapping {entries : List (Yaml × Yaml)} (hkeys : keysDiffer entries = true)
    (h : ∀ entry ∈ entries, entry.1.DistinctKeys ∧ entry.2.DistinctKeys) :
    (mapping entries).DistinctKeys :=
  distinctKeys_iff.2 ⟨hkeys, forall_children_mapping.2 h⟩

theorem gives_ofScalar? (tag? : Option (List Char)) (style : ScalarStyle) (text : String) :
    (ofNode.liftOption (ofScalar? tag? style text)).Gives DistinctKeys := by
  cases h : ofScalar? tag? style text with
  | none => exact .failure
  | some y => exact .pure (distinctKeys_ofScalar? h)

/-- The keys of what is read from a node differ.  How deep collections may be nested is what
the reading goes down by. -/
theorem gives_ofNode (document : YamlDocument) (depth : Nat) (node : YamlNode) :
    (ofNode document depth node).Gives DistinctKeys := by
  induction depth generalizing node with
  | zero =>
      rw [ofNode]
      refine (Reading.Gives.trivial _).bind fun found _ => ?_
      cases found with
      | scalar tag? style text => exact gives_ofScalar? tag? style text
      | _ => exact .failure
  | succ depth ih =>
      rw [ofNode]
      refine (Reading.Gives.trivial _).bind fun found _ => ?_
      cases found with
      | scalar tag? style text => exact gives_ofScalar? tag? style text
      | sequence tag? items =>
          refine (Reading.Gives.mapM ih).bind fun values hvalues => .pure ?_
          exact distinctKeys_withTag tag? (distinctKeys_iff.2 ⟨rfl, hvalues⟩)
      | mapping tag? entries =>
          have hentry : ∀ entry : YamlNode × YamlNode,
              Reading.Gives (do
                return (← ofNode document depth entry.1, ← ofNode document depth entry.2))
              fun pair => pair.1.DistinctKeys ∧ pair.2.DistinctKeys :=
            fun entry => (ih entry.1).bind fun key hkey =>
              (ih entry.2).bind fun value hvalue => .pure ⟨hkey, hvalue⟩
          refine (Reading.Gives.mapM hentry).bind fun pairs hpairs => ?_
          split
          · next hkeys =>
            exact .pure (distinctKeys_withTag tag? (distinctKeys_mapping hkeys hpairs))
          · exact .failure
      | _ => exact .failure

/-- The keys of a document that was read differ. -/
theorem distinctKeys_of_read? {cs : List Char} {y : Yaml} (h : read? cs = some y) :
    y.DistinctKeys := by
  obtain ⟨document, -, hread⟩ := Option.bind_eq_some_iff.1 h
  rw [YamlDocument.readAll?] at hread
  split at hread
  · cases hread
    exact distinctKeys_of_children rfl
  · obtain ⟨⟨z, followed⟩, hrun, rfl⟩ := Option.map_eq_some_iff.1 hread
    exact gives_ofNode document yamlDepth _ _ _ _ hrun

end Yaml

end DesiredState
