import DesiredState.Document.State
import DesiredState.Proofs.Literal.Form
import Mathlib.Algebra.GroupWithZero.Nat
import Mathlib.Data.List.Basic

/-!
# Secrets of a document

In a document, a text directly behind the tag of secrets is a secret.  Until the values
of the document are converted it is a text like any other, so a message that shows a
value of the document shows the secrets in it.

A renaming puts other texts in the place of the secrets, also of those in the keys of
mappings.  Two documents are alike if they differ in their secrets only.

## Main definitions

* `Yaml.mapSecrets` — a document value with other secrets.
* `Yaml.secrets` — the secrets of a document value.
* `Yaml.Alike` — values that differ in their secrets only.

## Main results

* `Yaml.length_describe_mapSecrets` — a message that shows a value gets longer with each
  secret in it.
* `Yaml.Alike.eq_of_secrets_eq_nil` — what is like a value without secrets is that value.
-/

namespace DesiredState

namespace Yaml

/-- Induction over document values: the case of mappings gets the statement for the keys
and for the values of all entries. -/
@[elab_as_elim]
theorem induct {motive : Yaml → Prop} (null : motive .null) (bool : ∀ b, motive (.bool b))
    (int : ∀ i, motive (.int i)) (float : ∀ x, motive (.float x))
    (string : ∀ s, motive (.string s))
    (sequence : ∀ items, (∀ item ∈ items, motive item) → motive (.sequence items))
    (mapping : ∀ entries, (∀ entry ∈ entries, motive entry.1 ∧ motive entry.2) →
      motive (.mapping entries))
    (tagged : ∀ tag value, motive value → motive (.tagged tag value)) (y : Yaml) : motive y :=
  @Yaml.rec motive (fun items => ∀ item ∈ items, motive item)
    (fun entries => ∀ entry ∈ entries, motive entry.1 ∧ motive entry.2)
    (fun entry => motive entry.1 ∧ motive entry.2)
    null bool int float string sequence mapping tagged
    (by simp) (fun _ _ head tail => List.forall_mem_cons.2 ⟨head, tail⟩)
    (by simp) (fun _ _ head tail => List.forall_mem_cons.2 ⟨head, tail⟩)
    (fun _ _ key value => ⟨key, value⟩) y

/-! ## Renaming secrets -/

/-- What stands directly behind a tag, with another text if the tag is that of secrets. -/
def mapTagged (f : String → String) (tag : String) : Yaml → Yaml
  | string s => .string (if tagName tag = secretTag then f s else s)
  | y => y

mutual

/-- A document value with other secrets. -/
def mapSecrets (f : String → String) : Yaml → Yaml
  | sequence items => .sequence (itemsMapSecrets f items)
  | mapping entries => .mapping (entriesMapSecrets f entries)
  | tagged tag value => .tagged tag (mapTagged f tag (mapSecrets f value))
  | y => y

/-- The items of a sequence with other secrets. -/
def itemsMapSecrets (f : String → String) : List Yaml → List Yaml
  | [] => []
  | item :: rest => mapSecrets f item :: itemsMapSecrets f rest

/-- The entries of a mapping with other secrets. -/
def entriesMapSecrets (f : String → String) : List (Yaml × Yaml) → List (Yaml × Yaml)
  | [] => []
  | (key, value) :: rest => (mapSecrets f key, mapSecrets f value) :: entriesMapSecrets f rest

end

theorem mapSecrets_sequence (f : String → String) (items : List Yaml) :
    (sequence items).mapSecrets f = .sequence (items.map (mapSecrets f)) := by
  rw [mapSecrets]
  congr 1
  induction items with
  | nil => rfl
  | cons item rest ih => rw [itemsMapSecrets, ih, List.map_cons]

theorem mapSecrets_mapping (f : String → String) (entries : List (Yaml × Yaml)) :
    (mapping entries).mapSecrets f =
      .mapping (entries.map fun entry => (entry.1.mapSecrets f, entry.2.mapSecrets f)) := by
  rw [mapSecrets]
  congr 1
  induction entries with
  | nil => rfl
  | cons entry rest ih => rw [entriesMapSecrets, ih, List.map_cons]

/-- Behind any other tag a text stays as it is. -/
theorem mapTagged_of_ne (f : String → String) {tag : String} (h : tagName tag ≠ secretTag)
    (y : Yaml) : mapTagged f tag y = y := by
  cases y with
  | string s => rw [mapTagged, if_neg h]
  | _ => rfl

/-- Two renamings are one renaming. -/
theorem mapSecrets_mapSecrets (f g : String → String) (y : Yaml) :
    (y.mapSecrets f).mapSecrets g = y.mapSecrets fun s => g (f s) := by
  induction y using Yaml.induct with
  | sequence items ih =>
      rw [mapSecrets_sequence, mapSecrets_sequence, mapSecrets_sequence, List.map_map]
      exact congrArg Yaml.sequence (List.map_congr_left ih)
  | mapping entries ih =>
      rw [mapSecrets_mapping, mapSecrets_mapping, mapSecrets_mapping, List.map_map]
      refine congrArg Yaml.mapping (List.map_congr_left fun entry hentry => ?_)
      exact Prod.ext (ih entry hentry).1 (ih entry hentry).2
  | tagged tag value ih =>
      rw [mapSecrets, mapSecrets, mapSecrets, ← ih]
      congr 1
      cases value.mapSecrets f with
      | string s =>
          change string _ = string _
          by_cases htag : tagName tag = secretTag
          · simp only [if_pos htag]
          · simp only [if_neg htag]
      | _ => rfl
  | _ => rfl

/-! ## The secrets -/

/-- The secret that stands directly behind a tag. -/
def taggedSecret (tag : String) : Yaml → List String
  | string s => if tagName tag = secretTag then [s] else []
  | _ => []

mutual

/-- The secrets of a document value. -/
def secrets : Yaml → List String
  | sequence items => itemSecrets items
  | mapping entries => entrySecrets entries
  | tagged tag value => taggedSecret tag value ++ secrets value
  | _ => []

/-- The secrets of the items of a sequence. -/
def itemSecrets : List Yaml → List String
  | [] => []
  | item :: rest => secrets item ++ itemSecrets rest

/-- The secrets of the entries of a mapping. -/
def entrySecrets : List (Yaml × Yaml) → List String
  | [] => []
  | (key, value) :: rest => secrets key ++ secrets value ++ entrySecrets rest

end

theorem secrets_sequence (items : List Yaml) :
    (sequence items).secrets = items.flatMap secrets := by
  rw [secrets]
  induction items with
  | nil => rfl
  | cons item rest ih => rw [itemSecrets, ih, List.flatMap_cons]

theorem secrets_mapping (entries : List (Yaml × Yaml)) :
    (mapping entries).secrets =
      entries.flatMap fun entry => entry.1.secrets ++ entry.2.secrets := by
  rw [secrets]
  induction entries with
  | nil => rfl
  | cons entry rest ih => rw [entrySecrets, ih, List.flatMap_cons]

/-- The secrets are what is renamed. -/
theorem secrets_mapSecrets (f : String → String) (y : Yaml) :
    (y.mapSecrets f).secrets = y.secrets.map f := by
  induction y using Yaml.induct with
  | sequence items ih =>
      rw [mapSecrets_sequence, secrets_sequence, secrets_sequence, List.flatMap_map,
        List.map_flatMap]
      exact List.flatMap_congr ih
  | mapping entries ih =>
      rw [mapSecrets_mapping, secrets_mapping, secrets_mapping, List.flatMap_map,
        List.map_flatMap]
      refine List.flatMap_congr fun entry hentry => ?_
      rw [(ih entry hentry).1, (ih entry hentry).2, List.map_append]
  | tagged tag value ih =>
      rw [mapSecrets, secrets, secrets, List.map_append, ← ih]
      cases value with
      | string s =>
          have htext : (string s).mapSecrets f = .string s := rfl
          rw [htext, mapTagged, taggedSecret, taggedSecret]
          split <;> rfl
      | _ => rfl
  | _ => rfl

/-- A value without secrets stays as it is. -/
theorem mapSecrets_of_secrets_eq_nil (f : String → String) {y : Yaml} (h : y.secrets = []) :
    y.mapSecrets f = y := by
  induction y using Yaml.induct with
  | sequence items ih =>
      rw [secrets_sequence, List.flatMap_eq_nil_iff] at h
      rw [mapSecrets_sequence]
      refine congrArg Yaml.sequence ((List.map_congr_left (g := id) ?_).trans (List.map_id _))
      exact fun item hitem => ih item hitem (h item hitem)
  | mapping entries ih =>
      rw [secrets_mapping, List.flatMap_eq_nil_iff] at h
      rw [mapSecrets_mapping]
      refine congrArg Yaml.mapping ((List.map_congr_left (g := id) ?_).trans (List.map_id _))
      intro entry hentry
      obtain ⟨hkey, hvalue⟩ := List.append_eq_nil_iff.1 (h entry hentry)
      exact Prod.ext ((ih entry hentry).1 hkey) ((ih entry hentry).2 hvalue)
  | tagged tag value ih =>
      obtain ⟨htagged, hvalue⟩ := List.append_eq_nil_iff.1 h
      rw [mapSecrets, ih hvalue]
      cases value with
      | string s =>
          by_cases htag : tagName tag = secretTag
          · rw [taggedSecret, if_pos htag] at htagged
            cases htagged
          · rw [mapTagged_of_ne f htag]
      | _ => rfl
  | _ => rfl

/-! ## Secrets in messages -/

/-- A renaming that makes each secret longer. -/
def lengthen (s : String) : String := s ++ "x"

theorem length_write_lengthen (s : String) :
    (Quoted.write (lengthen s)).length = (Quoted.write s).length + 1 := by
  have hletter : Quoted.writeChar 'x' = ['x'] := by decide +kernel
  simp [Quoted.write, lengthen, String.toList_append, hletter]

/-- Joined texts get longer as the texts do. -/
theorem length_intercalate_map {α : Type} {long short : α → List Char} {more : α → Nat}
    (separator : List Char) {xs : List α}
    (h : ∀ x ∈ xs, (long x).length = (short x).length + more x) :
    (List.intercalate separator (xs.map long)).length =
      (List.intercalate separator (xs.map short)).length + (xs.map more).sum := by
  have hbehind : ∀ xs : List α, (∀ x ∈ xs, (long x).length = (short x).length + more x) →
      ((xs.map long).flatMap (separator ++ ·)).length =
        ((xs.map short).flatMap (separator ++ ·)).length + (xs.map more).sum := by
    intro xs h
    induction xs with
    | nil => rfl
    | cons x rest ih =>
        obtain ⟨hfirst, hrest⟩ := List.forall_mem_cons.1 h
        have htail := ih hrest
        simp only [List.map_cons, List.flatMap_cons, List.length_append, List.sum_cons]
        omega
  cases xs with
  | nil => rfl
  | cons x rest =>
      obtain ⟨hfirst, hrest⟩ := List.forall_mem_cons.1 h
      have htail := hbehind rest hrest
      rw [List.map_cons, List.map_cons, Value.intercalate_cons, Value.intercalate_cons,
        List.length_append, List.length_append, List.map_cons, List.sum_cons]
      omega

theorem describeItems_eq (items : List Yaml) : describeItems items = items.map describe := by
  induction items with
  | nil => rfl
  | cons item rest ih => rw [describeItems, ih, List.map_cons]

theorem describeEntries_eq (entries : List (Yaml × Yaml)) :
    describeEntries entries = entries.map fun entry =>
      (bareKey? entry.1).getD (describe entry.1) ++ ": ".toList ++ describe entry.2 := by
  induction entries with
  | nil => rfl
  | cons entry rest ih => rw [describeEntries, ih, List.map_cons]

theorem describe_sequence (items : List Yaml) :
    (sequence items).describe =
      "Sequence [".toList ++ List.intercalate ", ".toList (items.map describe) ++ [']'] := by
  rw [← describeItems_eq]; rfl

theorem describe_mapping (entries : List (Yaml × Yaml)) :
    (mapping entries).describe =
      "Mapping \x7b".toList ++ List.intercalate ", ".toList (entries.map fun entry =>
        (bareKey? entry.1).getD (describe entry.1) ++ ": ".toList ++ describe entry.2) ++
          ['\x7d'] := by
  rw [← describeEntries_eq]; rfl

theorem describe_tagged (tag : String) (value : Yaml) :
    (tagged tag value).describe = "TaggedValue \x7b tag: ".toList ++ (writeTag tag).toList ++
      ", value: ".toList ++ value.describe ++ " \x7d".toList := rfl

theorem length_describe_string (s : String) :
    (string s).describe.length = (Quoted.write s).length + 8 := by
  have hdescribe : (string s).describe = "String(".toList ++ Quoted.write s ++ [')'] := rfl
  simp [hdescribe]

/-- A bare key is no secret. -/
theorem length_key_mapSecrets {key : Yaml}
    (h : (key.mapSecrets lengthen).describe.length = key.describe.length + key.secrets.length) :
    ((bareKey? (key.mapSecrets lengthen)).getD (key.mapSecrets lengthen).describe).length =
      ((bareKey? key).getD key.describe).length + key.secrets.length := by
  cases key with
  | sequence items => exact h
  | mapping entries => exact h
  | tagged tag value => exact h
  | _ => rfl

/-- A message that shows a value gets longer with each secret in it. -/
theorem length_describe_mapSecrets (y : Yaml) :
    (y.mapSecrets lengthen).describe.length = y.describe.length + y.secrets.length := by
  induction y using Yaml.induct with
  | sequence items ih =>
      have hitems := length_intercalate_map ", ".toList ih
      rw [mapSecrets_sequence, describe_sequence, describe_sequence, List.map_map,
        secrets_sequence, List.length_flatMap]
      simp only [List.length_append, Function.comp_def] at hitems ⊢
      omega
  | mapping entries ih =>
      have hentry : ∀ entry ∈ entries,
          ((bareKey? (entry.1.mapSecrets lengthen)).getD (entry.1.mapSecrets lengthen).describe ++
            ": ".toList ++ (entry.2.mapSecrets lengthen).describe).length =
          ((bareKey? entry.1).getD entry.1.describe ++ ": ".toList ++ entry.2.describe).length +
            (entry.1.secrets ++ entry.2.secrets).length := by
        intro entry hentry
        have hkey := length_key_mapSecrets (ih entry hentry).1
        have hvalue := (ih entry hentry).2
        simp only [List.length_append]
        omega
      have hentries := length_intercalate_map ", ".toList hentry
      rw [mapSecrets_mapping, describe_mapping, describe_mapping, List.map_map,
        secrets_mapping, List.length_flatMap]
      simp only [List.length_append, Function.comp_def] at hentries ⊢
      omega
  | tagged tag value ih =>
      have hvalue : (mapTagged lengthen tag (value.mapSecrets lengthen)).describe.length =
          value.describe.length + (taggedSecret tag value ++ value.secrets).length := by
        cases value with
        | string s =>
            have hwrite := length_write_lengthen s
            have htext : (string s).mapSecrets lengthen = .string s := rfl
            have hsecrets : (string s).secrets = [] := rfl
            rw [htext, hsecrets, mapTagged, taggedSecret]
            split
            · rw [length_describe_string, length_describe_string, hwrite]
              rfl
            · rfl
        | _ => exact ih
      rw [mapSecrets, describe_tagged, describe_tagged, secrets]
      simp only [List.length_append] at hvalue ⊢
      omega
  | _ => rfl

/-! ## Alike documents -/

/-- A document value with all its secrets blotted out. -/
def hideSecrets (y : Yaml) : Yaml := y.mapSecrets fun _ => ""

/-- Values that differ in their secrets only. -/
def Alike (y z : Yaml) : Prop := y.hideSecrets = z.hideSecrets

theorem alike_mapSecrets (f : String → String) (y : Yaml) : y.Alike (y.mapSecrets f) := by
  rw [Alike, hideSecrets, hideSecrets, mapSecrets_mapSecrets]

/-- What is like a value without secrets is that value. -/
theorem Alike.eq_of_secrets_eq_nil {y z : Yaml} (h : y.Alike z) (hsecrets : y.secrets = []) :
    z = y := by
  have hother : z.secrets = [] := by
    have hnone : z.hideSecrets.secrets = [] := by
      rw [← h, hideSecrets, mapSecrets_of_secrets_eq_nil _ hsecrets, hsecrets]
    rwa [hideSecrets, secrets_mapSecrets, List.map_eq_nil_iff] at hnone
  rw [Alike, hideSecrets, hideSecrets, mapSecrets_of_secrets_eq_nil _ hsecrets,
    mapSecrets_of_secrets_eq_nil _ hother] at h
  exact h.symm

end Yaml

end DesiredState
