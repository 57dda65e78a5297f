import DesiredState.Proofs.Document.Keys
import DesiredState.Proofs.Script.Block
import DesiredState.Proofs.Value

/-!
# Conversion of documents

A document value is converted to a value of the same shape: items and entries keep their
order, a tag of secrets goes over into the secret, and the class of an instance is taken out
of its properties.  `Yaml.Mirrors` says this of two values without regard to how the one is
made from the other.

Three things can go wrong: a key is no text, a class is no text, and a tag is not that of
secrets or not directly in front of a text or a number.  A conversion checks for them in
depth-first order from left to right.  It checks a key before the value, and the class of a
mapping after all entries.  The first check that does not pass is the failure.

## Main definitions

* `Yaml.Supported` — a node without any of these faults.
* `Yaml.Mirrors` — a value of the same shape as a document value.
* `Yaml.Check`, `Yaml.checks` — what is checked, in order.
* `Yaml.FirstFails` — the failure of the first check that does not pass.

## Main results

* `Yaml.forall_checks_iff` — all checks pass exactly if all nodes are supported.
* `Value.agrees_ofYaml` — what a conversion gives, and how it fails.
* `Value.ofYaml_of_mirrors` — there is only one value of the same shape.
* `Value.classFree_ofYaml` — no table in the value has the key of the class.
* `Value.conversion_exact` — all this of documents with different keys.
-/

namespace DesiredState

namespace Yaml

/-! ## What can be converted -/

/-- Whether a node can be converted, if what is inside of it can: the keys of a mapping are
texts, its class is a text, and a tag is that of secrets and directly in front of a text or a
number. -/
def Supported : Yaml → Prop
  | mapping entries =>
      (∀ entry ∈ entries, ∃ key, entry.1 = string key) ∧
        ∀ value, (string classKey, value) ∈ entries → ∃ className, value = string className
  | tagged tag value =>
      tagName tag = secretTag ∧
        ((∃ s, value = string s) ∨ (∃ i, value = int i) ∨ ∃ x, value = float x)
  | _ => True

mutual

/-- Whether a value has the shape of a document value.  Integers that are too great become
numbers of the nearest kind. -/
inductive Mirrors : Yaml → Value → Prop
  | null : Mirrors .null .null
  | bool {b : Bool} : Mirrors (.bool b) (.bool b)
  | int {i : Int} (h : i ≤ maxInt) : Mirrors (.int i) (.int i)
  | greatInt {i : Int} (h : maxInt < i) : Mirrors (.int i) (.float (.ofInt i))
  | float {x : Binary64} : Mirrors (.float x) (.float x)
  | string {s : String} : Mirrors (.string s) (.string s)
  | array {items : List Yaml} {values : List Value} (h : List.Forall₂ Mirrors items values) :
      Mirrors (.sequence items) (.array values)
  | map {entries : List (Yaml × Yaml)} {fields : List (String × Value)}
      (h : List.Forall₂ MirrorsEntry entries fields) (hclass : classKey ∉ Entries.names fields) :
      Mirrors (.mapping entries) (.map fields)
  /-- The entry of the class is left out, and the others keep their order. -/
  | instanceOf {front back : List (Yaml × Yaml)} {before after : List (String × Value)}
      {className : String} (hfront : List.Forall₂ MirrorsEntry front before)
      (hback : List.Forall₂ MirrorsEntry back after) :
      Mirrors (.mapping (front ++ (.string classKey, .string className) :: back))
        (.instanceOf className (before ++ after))
  | secretText {tag s : String} (h : tagName tag = secretTag) :
      Mirrors (.tagged tag (.string s)) (.secret s)
  | secretInt {tag : String} {i : Int} (h : tagName tag = secretTag) :
      Mirrors (.tagged tag (.int i)) (.secret (String.ofList (writeInt i)))
  | secretFloat {tag : String} {x : Binary64} (h : tagName tag = secretTag) :
      Mirrors (.tagged tag (.float x)) (.secret (String.ofList (floatLayout.write x)))

/-- Whether an entry has the shape of an entry of a mapping. -/
inductive MirrorsEntry : Yaml × Yaml → String × Value → Prop
  | mk {key : String} {y : Yaml} {v : Value} (h : Mirrors y v) :
      MirrorsEntry (.string key, y) (key, v)

end

/-! ## What is checked -/

/-- What a conversion checks. -/
inductive Check where
  /-- A key of a mapping. -/
  | key (key : Yaml)
  /-- The value under the key of the class. -/
  | className (value : Yaml)
  /-- A tag, and what is behind it. -/
  | tag (tag : String) (value : Yaml)

namespace Check

/-- Whether a check finds what it wants. -/
def Passes : Check → Prop
  | key k => ∃ s, k = .string s
  | className value => ∃ s, value = .string s
  | tag name value => (tagged name value).Supported

/-- The failure that a check finds.  A class is shown as it was converted, all else as it is
in the document. -/
inductive Fails : Check → Error → Prop
  | key {k : Yaml} (h : ∀ s, k ≠ .string s) :
      Fails (.key k) (.unsupportedValue "mapping key" (String.ofList k.describe))
  | className {value : Yaml} {v : Value} (hmirrors : Mirrors value v) (h : ∀ s, value ≠ .string s) :
      Fails (.className value) (.unsupportedValue "cim_instance_type" (String.ofList v.describe))
  | tag {tag : String} {value : Yaml} (h : tagName tag ≠ secretTag) :
      Fails (.tag tag value) (.unsupportedValue (writeTag tag) (String.ofList value.describe))
  | secret {tag : String} {value : Yaml} (htag : tagName tag = secretTag)
      (h : ¬ (tagged tag value).Supported) :
      Fails (.tag tag value) (.unsupportedValue "!Sensitive" "non-scalar sensitive value")

/-- A check does not both pass and fail. -/
theorem Fails.not_passes {c : Check} {e : Error} (h : c.Fails e) : ¬ c.Passes := by
  cases h with
  | key h =>
      rintro ⟨s, hs⟩
      exact h s hs
  | className _ h =>
      rintro ⟨s, hs⟩
      exact h s hs
  | tag h => exact fun hpasses => h hpasses.1
  | secret _ h => exact h

end Check

/-- The check for the class that an entry of a mapping gives, if it does. -/
def classCheck? : Yaml × Yaml → Option Check
  | (string key, value) => if key = classKey then some (.className value) else none
  | _ => none

mutual

/-- All checks for a document value, in the order in which a conversion makes them. -/
def checks : Yaml → List Check
  | sequence items => itemChecks items
  | mapping entries => entryChecks entries ++ entries.filterMap classCheck?
  | tagged tag value => .tag tag value :: checks value
  | _ => []

/-- The checks for the items of a sequence. -/
def itemChecks : List Yaml → List Check
  | [] => []
  | item :: rest => checks item ++ itemChecks rest

/-- The checks for the entries of a mapping, but for the class. -/
def entryChecks : List (Yaml × Yaml) → List Check
  | [] => []
  | (key, value) :: rest => .key key :: (checks key ++ checks value) ++ entryChecks rest

end

/-- Whether `e` is the failure of the first check that does not pass. -/
def FirstFails (checks : List Check) (e : Error) : Prop :=
  ∃ before c after, checks = before ++ c :: after ∧ (∀ b ∈ before, b.Passes) ∧ c.Fails e

namespace FirstFails

variable {front back : List Check} {e : Error}

theorem append_left (h : FirstFails front e) (back : List Check) :
    FirstFails (front ++ back) e := by
  obtain ⟨before, c, after, rfl, hbefore, hc⟩ := h
  exact ⟨before, c, after ++ back, List.append_assoc _ _ _, hbefore, hc⟩

theorem append_right (hfront : ∀ c ∈ front, c.Passes) (h : FirstFails back e) :
    FirstFails (front ++ back) e := by
  obtain ⟨before, c, after, rfl, hbefore, hc⟩ := h
  refine ⟨front ++ before, c, after, (List.append_assoc _ _ _).symm, ?_, hc⟩
  exact List.forall_mem_append.2 ⟨hfront, hbefore⟩

/-- If a check fails, not all pass. -/
theorem not_forall_passes {checks : List Check} (h : FirstFails checks e) :
    ¬ ∀ c ∈ checks, c.Passes := by
  obtain ⟨before, c, after, rfl, -, hc⟩ := h
  intro hall
  have hmem : c ∈ before ++ c :: after := List.mem_append_right _ List.mem_cons_self
  exact hc.not_passes (hall c hmem)

end FirstFails

theorem itemChecks_eq (items : List Yaml) : itemChecks items = items.flatMap checks := by
  induction items with
  | nil => rfl
  | cons item rest ih => rw [itemChecks, ih, List.flatMap_cons]

theorem entryChecks_eq (entries : List (Yaml × Yaml)) :
    entryChecks entries = entries.flatMap fun entry =>
      .key entry.1 :: (entry.1.checks ++ entry.2.checks) := by
  induction entries with
  | nil => rfl
  | cons entry rest ih => rw [entryChecks, ih, List.flatMap_cons]

theorem classCheck?_eq_some_iff {entry : Yaml × Yaml} {c : Check} :
    classCheck? entry = some c ↔ ∃ value, entry = (string classKey, value) ∧
      c = .className value := by
  obtain ⟨key, value⟩ := entry
  cases key with
  | string key =>
      by_cases hkey : key = classKey
      · simp [classCheck?, hkey, eq_comm]
      · simp [classCheck?, hkey]
  | _ => simp [classCheck?]

/-- The class of a mapping passes if it is a text. -/
theorem forall_classChecks_iff {entries : List (Yaml × Yaml)} :
    (∀ c ∈ entries.filterMap classCheck?, c.Passes) ↔
      ∀ value, (string classKey, value) ∈ entries → ∃ className, value = string className := by
  constructor
  · intro h value hmem
    exact h (.className value)
      (List.mem_filterMap.2 ⟨_, hmem, classCheck?_eq_some_iff.2 ⟨value, rfl, rfl⟩⟩)
  · intro h c hc
    obtain ⟨entry, hmem, hentry⟩ := List.mem_filterMap.1 hc
    obtain ⟨value, rfl, rfl⟩ := classCheck?_eq_some_iff.1 hentry
    exact h value hmem

/-- All checks pass exactly if all nodes are supported. -/
theorem forall_checks_iff (y : Yaml) :
    (∀ c ∈ y.checks, c.Passes) ↔ ∀ part ∈ y.parts, part.Supported := by
  induction y using Yaml.induct with
  | sequence items ih =>
      have hitems : (∀ item ∈ items, ∀ c ∈ item.checks, c.Passes) ↔
          ∀ item ∈ items, ∀ part ∈ item.parts, part.Supported := forall₂_congr ih
      rw [checks, itemChecks_eq, List.forall_mem_flatMap, forall_parts_iff, hitems]
      exact (and_iff_right True.intro).symm
  | mapping entries ih =>
      have hentry : ∀ entry ∈ entries,
          (∀ c ∈ Check.key entry.1 :: (entry.1.checks ++ entry.2.checks), c.Passes) ↔
            (∃ key, entry.1 = string key) ∧ (∀ part ∈ entry.1.parts, part.Supported) ∧
              ∀ part ∈ entry.2.parts, part.Supported := by
        intro entry hmem
        rw [List.forall_mem_cons, List.forall_mem_append, (ih entry hmem).1, (ih entry hmem).2,
          Check.Passes]
      rw [checks, entryChecks_eq, List.forall_mem_append, List.forall_mem_flatMap,
        forall_classChecks_iff, forall_parts_iff, forall_children_mapping, forall₂_congr hentry,
        Supported, forall₂_and]
      tauto
  | tagged tag value ih =>
      rw [checks, List.forall_mem_cons, ih, forall_parts_iff (y := .tagged tag value)]
      refine and_congr Iff.rfl ?_
      rw [children, List.forall_mem_singleton]
  | _ =>
      rw [forall_parts_iff]
      simp [checks, children, Supported]

end Yaml

namespace Value

open Yaml (Mirrors MirrorsEntry Check FirstFails)

/-! ## What a conversion gives -/

theorem itemsOfYaml_eq_ok_iff {items : List Yaml} {values : List Value} :
    itemsOfYaml items = .ok values ↔
      List.Forall₂ (fun y v => ofYaml y = .ok v) items values := by
  induction items generalizing values with
  | nil =>
      rw [itemsOfYaml, List.forall₂_nil_left_iff]
      exact ⟨fun h => (Except.ok.inj h).symm, fun h => by rw [h]⟩
  | cons item rest ih =>
      rw [itemsOfYaml, bind₂_eq_ok_iff, List.forall₂_cons_left_iff]
      constructor
      · rintro ⟨v, others, hv, hothers, rfl⟩
        exact ⟨v, others, hv, ih.1 hothers, rfl⟩
      · rintro ⟨v, others, hv, hothers, rfl⟩
        exact ⟨v, others, hv, ih.2 hothers, rfl⟩

theorem entriesOfYaml_eq_ok_iff {entries : List (Yaml × Yaml)} {fields : List (String × Value)} :
    entriesOfYaml entries = .ok fields ↔
      List.Forall₂ (fun entry field => entry.1 = .string field.1 ∧ ofYaml entry.2 = .ok field.2)
        entries fields := by
  induction entries generalizing fields with
  | nil =>
      rw [entriesOfYaml, List.forall₂_nil_left_iff]
      exact ⟨fun h => (Except.ok.inj h).symm, fun h => by rw [h]⟩
  | cons entry rest ih =>
      obtain ⟨key, y⟩ := entry
      rw [List.forall₂_cons_left_iff]
      cases key with
      | string key =>
          rw [entriesOfYaml, bind₂_eq_ok_iff]
          constructor
          · rintro ⟨v, others, hv, hothers, rfl⟩
            exact ⟨(key, v), others, ⟨rfl, hv⟩, ih.1 hothers, rfl⟩
          · rintro ⟨⟨name, v⟩, others, ⟨hname, hv⟩, hothers, rfl⟩
            obtain rfl : key = name := Yaml.string.inj hname
            exact ⟨v, others, hv, ih.2 hothers, rfl⟩
      | _ =>
          constructor
          · intro h
            cases h
          · rintro ⟨field, others, ⟨hname, -⟩, -, -⟩
            cases hname

/-- A mapping with different keys is converted as its entries are. -/
theorem ofYaml_mapping {entries : List (Yaml × Yaml)} {fields : List (String × Value)}
    (hfields : entriesOfYaml entries = .ok fields) (hnodup : (Entries.names fields).Nodup) :
    ofYaml (.mapping entries) = ofEntries fields := by
  rw [ofYaml, hfields]
  exact congrArg ofEntries (Entries.ofPairs_eq_self hnodup)

/-! ## Checks in order -/

/-- A conversion gives a value of the same shape after all checks have passed, and fails as
the first check that does not pass. -/
structure Agrees (y : Yaml) : Prop where
  ok : ∀ v, ofYaml y = .ok v → (∀ c ∈ y.checks, c.Passes) ∧ Mirrors y v
  error : ∀ e, ofYaml y = .error e → FirstFails y.checks e

theorem agrees_items {items : List Yaml} (ih : ∀ item ∈ items, Agrees item) :
    (∀ values, itemsOfYaml items = .ok values →
      (∀ c ∈ Yaml.itemChecks items, c.Passes) ∧ List.Forall₂ Mirrors items values) ∧
    ∀ e, itemsOfYaml items = .error e → FirstFails (Yaml.itemChecks items) e := by
  induction items with
  | nil =>
      refine ⟨fun values h => ?_, fun e h => (by cases h)⟩
      cases h
      exact ⟨List.forall_mem_nil _, .nil⟩
  | cons item rest ihrest =>
      obtain ⟨hfirst, hrest⟩ := List.forall_mem_cons.1 ih
      obtain ⟨hok, herror⟩ := ihrest hrest
      constructor
      · intro values h
        rw [itemsOfYaml, bind₂_eq_ok_iff] at h
        obtain ⟨v, others, hv, hothers, rfl⟩ := h
        obtain ⟨hpass, hmirrors⟩ := hfirst.ok v hv
        obtain ⟨hpassRest, hmirrorsRest⟩ := hok others hothers
        exact ⟨List.forall_mem_append.2 ⟨hpass, hpassRest⟩, .cons hmirrors hmirrorsRest⟩
      · intro e h
        rw [itemsOfYaml, bind₂_eq_error_iff] at h
        rcases h with h | ⟨v, hv, h⟩
        · exact (hfirst.error e h).append_left _
        · exact (herror e h).append_right (hfirst.ok v hv).1

theorem agrees_entries {entries : List (Yaml × Yaml)} (ih : ∀ entry ∈ entries, Agrees entry.2) :
    (∀ fields, entriesOfYaml entries = .ok fields →
      (∀ c ∈ Yaml.entryChecks entries, c.Passes) ∧ List.Forall₂ MirrorsEntry entries fields) ∧
    ∀ e, entriesOfYaml entries = .error e → FirstFails (Yaml.entryChecks entries) e := by
  induction entries with
  | nil =>
      refine ⟨fun fields h => ?_, fun e h => (by cases h)⟩
      cases h
      exact ⟨List.forall_mem_nil _, .nil⟩
  | cons entry rest ihrest =>
      obtain ⟨hfirst, hrest⟩ := List.forall_mem_cons.1 ih
      obtain ⟨hok, herror⟩ := ihrest hrest
      obtain ⟨key, y⟩ := entry
      cases key with
      | string key =>
          -- a key that is a text passes, and there is nothing to check inside of it
          have hkey : ∀ cs : List Check, (∀ c ∈ cs, c.Passes) →
              ∀ c ∈ Check.key (.string key) :: cs, c.Passes :=
            fun cs hcs => List.forall_mem_cons.2 ⟨⟨key, rfl⟩, hcs⟩
          constructor
          · intro fields h
            rw [entriesOfYaml, bind₂_eq_ok_iff] at h
            obtain ⟨v, others, hv, hothers, rfl⟩ := h
            obtain ⟨hpass, hmirrors⟩ := hfirst.ok v hv
            obtain ⟨hpassRest, hmirrorsRest⟩ := hok others hothers
            exact ⟨List.forall_mem_append.2 ⟨hkey _ hpass, hpassRest⟩,
              .cons (.mk hmirrors) hmirrorsRest⟩
          · intro e h
            rw [entriesOfYaml, bind₂_eq_error_iff] at h
            rcases h with h | ⟨v, hv, h⟩
            · have hvalue : FirstFails ([Check.key (.string key)] ++ y.checks) e :=
                (hfirst.error e h).append_right (hkey [] (List.forall_mem_nil _))
              exact hvalue.append_left _
            · exact (herror e h).append_right (hkey _ (hfirst.ok v hv).1)
      | _ =>
          refine ⟨fun fields h => (by cases h), fun e h => ?_⟩
          cases h
          exact ⟨[], _, _, rfl, List.forall_mem_nil _, .key (by simp)⟩

/-- Fields behind each other have the shape of entries behind each other. -/
theorem exists_mirrored {entries : List (Yaml × Yaml)} {front back : List (String × Value)}
    {field : String × Value} (h : List.Forall₂ MirrorsEntry entries (front ++ field :: back)) :
    ∃ before entry after, entries = before ++ entry :: after ∧
      List.Forall₂ MirrorsEntry before front ∧ MirrorsEntry entry field ∧
        List.Forall₂ MirrorsEntry after back := by
  have hfront := List.forall₂_take_append entries front (field :: back) h
  have hback := List.forall₂_drop_append entries front (field :: back) h
  rw [List.forall₂_cons_right_iff] at hback
  obtain ⟨entry, after, hentry, hafter, heq⟩ := hback
  refine ⟨_, entry, after, ?_, hfront, hentry, hafter⟩
  rw [← heq, List.take_append_drop]

theorem map_fst_of_mirrors {entries : List (Yaml × Yaml)} {fields : List (String × Value)}
    (h : List.Forall₂ MirrorsEntry entries fields) :
    entries.map Prod.fst = (Entries.names fields).map Yaml.string := by
  induction h with
  | nil => rfl
  | cons hentry _ ih =>
      cases hentry with
      | mk _ => exact List.cons_eq_cons.2 ⟨rfl, ih⟩

/-- Entries without the key of the class have no class to check. -/
theorem filterMap_classCheck?_eq_nil {entries : List (Yaml × Yaml)}
    {fields : List (String × Value)} (h : List.Forall₂ MirrorsEntry entries fields)
    (hclass : classKey ∉ Entries.names fields) : entries.filterMap Yaml.classCheck? = [] := by
  rw [List.filterMap_eq_nil_iff]
  intro entry hmem
  rw [Option.eq_none_iff_forall_ne_some]
  intro c hc
  obtain ⟨value, rfl, -⟩ := Yaml.classCheck?_eq_some_iff.1 hc
  have hkey : Yaml.string classKey ∈ entries.map Prod.fst := List.mem_map_of_mem hmem
  rw [map_fst_of_mirrors h] at hkey
  obtain ⟨name, hname, heq⟩ := List.mem_map.1 hkey
  rw [Yaml.string.inj heq] at hname
  exact hclass hname

/-- The class is taken out of the entries, and checked after all of them. -/
theorem agrees_ofEntries {entries : List (Yaml × Yaml)} {fields : List (String × Value)}
    (h : List.Forall₂ MirrorsEntry entries fields) (hnodup : (Entries.names fields).Nodup) :
    (∀ v, ofEntries fields = .ok v →
      (∀ c ∈ entries.filterMap Yaml.classCheck?, c.Passes) ∧ Mirrors (.mapping entries) v) ∧
    ∀ e, ofEntries fields = .error e → FirstFails (entries.filterMap Yaml.classCheck?) e := by
  rw [ofEntries]
  cases hget : Entries.get? fields classKey with
  | none =>
      have hclass : classKey ∉ Entries.names fields := (Entries.get?_eq_none_iff _ _).1 hget
      refine ⟨fun v hv => ?_, fun e he => (by cases he)⟩
      cases hv
      rw [filterMap_classCheck?_eq_nil h hclass]
      exact ⟨List.forall_mem_nil _, .map h hclass⟩
  | some found =>
      obtain ⟨front, back, rfl, hfront⟩ := Entries.exists_append_of_get? hget
      obtain ⟨before, entry, after, rfl, hbefore, hentry, hafter⟩ := exists_mirrored h
      have hback : classKey ∉ Entries.names back := by
        rw [Entries.names, List.map_append, List.map_cons] at hnodup
        exact (List.nodup_cons.1 (List.nodup_append.1 hnodup).2.1).1
      cases hentry with
      | @mk _ y _ hfound =>
          have hclass : Yaml.classCheck? (.string classKey, y) = some (.className y) :=
            Yaml.classCheck?_eq_some_iff.2 ⟨y, rfl, rfl⟩
          rw [List.filterMap_append, List.filterMap_cons_some hclass,
            filterMap_classCheck?_eq_nil hbefore hfront, filterMap_classCheck?_eq_nil hafter hback,
            List.nil_append]
          cases found with
          | string className =>
              refine ⟨fun v hv => ?_, fun e he => (by cases he)⟩
              cases hv
              cases hfound
              rw [Entries.erase_append hfront, Entries.erase_cons_self]
              exact ⟨List.forall_mem_singleton.2 ⟨className, rfl⟩, .instanceOf hbefore hafter⟩
          | _ =>
              refine ⟨fun v hv => (by cases hv), fun e he => ?_⟩
              cases he
              refine ⟨[], _, [], rfl, List.forall_mem_nil _, .className hfound ?_⟩
              rintro s rfl
              cases hfound

theorem Agrees.sequence {items : List Yaml} (ih : ∀ item ∈ items, Agrees item) :
    Agrees (.sequence items) := by
  obtain ⟨hok, herror⟩ := agrees_items ih
  constructor
  · intro v h
    rw [ofYaml, bind_eq_ok_iff] at h
    obtain ⟨values, hitems, hv⟩ := h
    cases hv
    obtain ⟨hpass, hmirrors⟩ := hok values hitems
    exact ⟨hpass, .array hmirrors⟩
  · intro e h
    rw [ofYaml, bind_eq_error_iff] at h
    rcases h with hitems | ⟨values, -, hv⟩
    · exact herror e hitems
    · cases hv

theorem Agrees.mapping {entries : List (Yaml × Yaml)} (hkeys : Yaml.keysDiffer entries = true)
    (ih : ∀ entry ∈ entries, Agrees entry.2) : Agrees (.mapping entries) := by
  obtain ⟨hok, herror⟩ := agrees_entries ih
  have hnodup : ∀ fields, entriesOfYaml entries = .ok fields → (Entries.names fields).Nodup :=
    fun fields h => Yaml.nodup_of_keysDiffer hkeys (map_fst_of_mirrors (hok fields h).2)
  constructor
  · intro v h
    rw [ofYaml, bind_eq_ok_iff] at h
    obtain ⟨fields, hentries, hv⟩ := h
    obtain ⟨hpass, hmirrors⟩ := hok fields hentries
    rw [Entries.ofPairs_eq_self (hnodup fields hentries)] at hv
    obtain ⟨hpassClass, hv⟩ := (agrees_ofEntries hmirrors (hnodup fields hentries)).1 v hv
    exact ⟨List.forall_mem_append.2 ⟨hpass, hpassClass⟩, hv⟩
  · intro e h
    rw [ofYaml, bind_eq_error_iff] at h
    rcases h with hentries | ⟨fields, hentries, he⟩
    · exact (herror e hentries).append_left _
    · obtain ⟨hpass, hmirrors⟩ := hok fields hentries
      rw [Entries.ofPairs_eq_self (hnodup fields hentries)] at he
      have hclass := (agrees_ofEntries hmirrors (hnodup fields hentries)).2 e he
      exact hclass.append_right hpass

theorem Agrees.tagged {tag : String} {value : Yaml} : Agrees (.tagged tag value) := by
  by_cases htag : tagName tag = secretTag
  · have hmade : ofYaml (.tagged tag value) = secretOfYaml value := if_pos (by simpa using htag)
    constructor
    · intro v h
      rw [hmade] at h
      cases value with
      | string s =>
          cases h
          exact ⟨List.forall_mem_singleton.2 ⟨htag, .inl ⟨s, rfl⟩⟩, .secretText htag⟩
      | int i =>
          cases h
          exact ⟨List.forall_mem_singleton.2 ⟨htag, .inr (.inl ⟨i, rfl⟩)⟩, .secretInt htag⟩
      | float x =>
          cases h
          exact ⟨List.forall_mem_singleton.2 ⟨htag, .inr (.inr ⟨x, rfl⟩)⟩, .secretFloat htag⟩
      | _ => cases h
    · intro e h
      rw [hmade] at h
      cases value with
      | string s => cases h
      | int i => cases h
      | float x => cases h
      | _ =>
          cases h
          exact ⟨[], _, _, rfl, List.forall_mem_nil _, .secret htag (by simp [Yaml.Supported])⟩
  · have hmade : ofYaml (.tagged tag value) = unsupported (writeTag tag) value.describe :=
      if_neg (by simpa using htag)
    constructor
    · intro v h
      rw [hmade] at h
      cases h
    · intro e h
      rw [hmade] at h
      cases h
      exact ⟨[], _, _, rfl, List.forall_mem_nil _, .tag htag⟩

/-- What a conversion of a document with different keys gives, and how it fails. -/
theorem agrees_ofYaml {y : Yaml} (hkeys : y.DistinctKeys) : Agrees y := by
  have hleaf : ∀ y v, ofYaml y = .ok v → y.checks = [] → Mirrors y v → Agrees y := by
    intro y v hmade hchecks hmirrors
    constructor
    · intro w h
      rw [hmade] at h
      cases h
      rw [hchecks]
      exact ⟨List.forall_mem_nil _, hmirrors⟩
    · intro e h
      rw [hmade] at h
      cases h
  induction y using Yaml.induct with
  | null => exact hleaf _ _ rfl rfl .null
  | bool b => exact hleaf _ _ rfl rfl .bool
  | int i =>
      by_cases hi : i ≤ maxInt
      · exact hleaf _ (.int i) (congrArg Except.ok (if_pos hi)) rfl (.int hi)
      · exact hleaf _ (.float (.ofInt i)) (congrArg Except.ok (if_neg hi)) rfl
          (.greatInt (Int.not_le.1 hi))
  | float x => exact hleaf _ _ rfl rfl .float
  | string s => exact hleaf _ _ rfl rfl .string
  | sequence items ih =>
      exact .sequence fun item hitem => ih item hitem (hkeys.child hitem)
  | mapping entries ih =>
      refine .mapping (Yaml.distinctKeys_iff.1 hkeys).1 fun entry hentry => ?_
      exact (ih entry hentry).2 (hkeys.child (Yaml.mem_children_mapping hentry).2)
  | tagged tag value => exact .tagged

/-! ## The only value of the same shape -/

theorem itemsOfYaml_of_mirrors {items : List Yaml} {values : List Value}
    (ih : ∀ item ∈ items, ∀ v, Mirrors item v → ofYaml item = .ok v)
    (h : List.Forall₂ Mirrors items values) : itemsOfYaml items = .ok values := by
  rw [itemsOfYaml_eq_ok_iff]
  exact ((List.forall₂_and_left _ _).2 ⟨ih, h⟩).imp fun item v hitem => hitem.1 v hitem.2

theorem entriesOfYaml_of_mirrors {entries : List (Yaml × Yaml)} {fields : List (String × Value)}
    (ih : ∀ entry ∈ entries, ∀ v, Mirrors entry.2 v → ofYaml entry.2 = .ok v)
    (h : List.Forall₂ MirrorsEntry entries fields) : entriesOfYaml entries = .ok fields := by
  rw [entriesOfYaml_eq_ok_iff]
  refine ((List.forall₂_and_left _ _).2 ⟨ih, h⟩).imp fun entry field hentry => ?_
  obtain ⟨hvalue, hmirrors⟩ := hentry
  cases hmirrors with
  | mk hmirrors => exact ⟨rfl, hvalue _ hmirrors⟩

/-- A document is converted to each value of the same shape, so there is only one. -/
theorem ofYaml_of_mirrors {y : Yaml} {v : Value} (hkeys : y.DistinctKeys) (h : Mirrors y v) :
    ofYaml y = .ok v := by
  induction y using Yaml.induct generalizing v with
  | null => cases h; rfl
  | bool b => cases h; rfl
  | int i =>
      rw [ofYaml]
      cases h with
      | int hi => rw [if_pos hi]
      | greatInt hi => rw [if_neg (Int.not_le.2 hi)]
  | float x => cases h; rfl
  | string s => cases h; rfl
  | sequence items ih =>
      cases h with
      | array hmirrors =>
          have hitems := itemsOfYaml_of_mirrors
            (fun item hitem v hv => ih item hitem (hkeys.child hitem) hv) hmirrors
          rw [ofYaml, hitems]
          rfl
  | mapping entries ih =>
      have hvalue : ∀ entry ∈ entries, ∀ v, Mirrors entry.2 v → ofYaml entry.2 = .ok v :=
        fun entry hentry v hv => (ih entry hentry).2
          (hkeys.child (Yaml.mem_children_mapping hentry).2) hv
      have hown : Yaml.keysDiffer entries = true := (Yaml.distinctKeys_iff.1 hkeys).1
      cases h with
      | map hmirrors hclass =>
          have hnodup := Yaml.nodup_of_keysDiffer hown (map_fst_of_mirrors hmirrors)
          rw [ofYaml_mapping (entriesOfYaml_of_mirrors hvalue hmirrors) hnodup, ofEntries,
            (Entries.get?_eq_none_iff _ _).2 hclass]
      | @instanceOf front back before after className hfront hback =>
          have hmirrors : List.Forall₂ MirrorsEntry
              (front ++ (.string classKey, .string className) :: back)
              (before ++ (classKey, .string className) :: after) :=
            List.rel_append hfront (.cons (.mk .string) hback)
          have hnodup := Yaml.nodup_of_keysDiffer hown (map_fst_of_mirrors hmirrors)
          have hget : Entries.get? (before ++ (classKey, .string className) :: after) classKey =
              some (.string className) :=
            Entries.get?_of_mem hnodup (List.mem_append_right _ List.mem_cons_self)
          have hbefore : classKey ∉ Entries.names before := by
            rw [Entries.names, List.map_append, List.nodup_append] at hnodup
            exact fun hmem => hnodup.2.2 classKey hmem classKey (by simp) rfl
          rw [ofYaml_mapping (entriesOfYaml_of_mirrors hvalue hmirrors) hnodup, ofEntries, hget]
          dsimp only
          rw [Entries.erase_append hbefore, Entries.erase_cons_self]
  | tagged tag value =>
      have hmade : tagName tag = secretTag → ofYaml (.tagged tag value) = secretOfYaml value :=
        fun htag => if_pos (by simpa using htag)
      cases h with
      | secretText htag => exact hmade htag
      | secretInt htag => exact hmade htag
      | secretFloat htag => exact hmade htag

/-! ## The key of the class -/

theorem classFree_iff {v : Value} :
    v.ClassFree ↔ v.get? classKey = none ∧ ∀ child ∈ v.children, child.ClassFree :=
  forall_parts_iff

theorem classFree_ofEntries {entries : List (String × Value)} {v : Value}
    (hentries : ∀ entry ∈ entries, entry.2.ClassFree)
    (h : ofEntries (Entries.ofPairs entries) = .ok v) : v.ClassFree := by
  have hkept : ∀ entry ∈ Entries.ofPairs entries, entry.2.ClassFree :=
    fun entry hentry => hentries entry (Entries.mem_of_mem_ofPairs hentry)
  have hnodup := Entries.nodup_ofPairs entries
  generalize Entries.ofPairs entries = kept at h hkept hnodup
  rw [ofEntries] at h
  rw [classFree_iff]
  split at h
  · next hnone =>
    cases h
    exact ⟨hnone, List.forall_mem_map.2 hkept⟩
  · next className _ =>
    cases h
    constructor
    · refine (Entries.get?_eq_none_iff _ _).2 fun hmem => ?_
      obtain ⟨entry, hentry, hname⟩ := List.mem_map.1 hmem
      exact ((Entries.mem_erase hnodup).1 hentry).2 hname
    · exact List.forall_mem_map.2 fun entry hentry =>
        hkept entry ((Entries.mem_erase hnodup).1 hentry).1
  · cases h

/-- A secret is the only value that a tag gives. -/
theorem exists_secret_of_tagged {tag : String} {value : Yaml} {v : Value}
    (h : ofYaml (.tagged tag value) = .ok v) : ∃ s, v = .secret s := by
  rw [ofYaml] at h
  split at h
  · rw [secretOfYaml.eq_def] at h
    split at h
    · cases h
      exact ⟨_, rfl⟩
    split at h
    · cases h
      exact ⟨_, rfl⟩
    · cases h
  · cases h

/-- No table in the value of a document has the key of the class. -/
theorem classFree_ofYaml {y : Yaml} {v : Value} (h : ofYaml y = .ok v) : v.ClassFree := by
  have hleaf : ∀ v : Value, v.get? classKey = none → v.children = [] → v.ClassFree := by
    intro v hget hchildren
    rw [classFree_iff, hchildren]
    exact ⟨hget, List.forall_mem_nil _⟩
  induction y using Yaml.induct generalizing v with
  | sequence items ih =>
      rw [ofYaml, bind_eq_ok_iff] at h
      obtain ⟨values, hitems, hv⟩ := h
      cases hv
      rw [classFree_iff]
      refine ⟨rfl, fun child hchild => ?_⟩
      obtain ⟨item, hitem, hmade⟩ :=
        exists_of_forall₂ (itemsOfYaml_eq_ok_iff.1 hitems).flip child hchild
      exact ih item hitem hmade
  | mapping entries ih =>
      rw [ofYaml, bind_eq_ok_iff] at h
      obtain ⟨fields, hentries, hv⟩ := h
      refine classFree_ofEntries (fun field hfield => ?_) hv
      obtain ⟨entry, hentry, -, hmade⟩ :=
        exists_of_forall₂ (entriesOfYaml_eq_ok_iff.1 hentries).flip field hfield
      exact (ih entry hentry).2 hmade
  | tagged tag value =>
      obtain ⟨s, rfl⟩ := exists_secret_of_tagged h
      exact hleaf _ rfl rfl
  | int i =>
      cases h
      split
      · exact hleaf _ rfl rfl
      · exact hleaf _ rfl rfl
  | _ =>
      cases h
      exact hleaf _ rfl rfl

/-! ## Documents with different keys -/

/-- A document with different keys is converted exactly if all nodes in it are supported.  The
value is the one of the same shape, and no table in it has the key of the class.  If there is
no value, the failure is that of the first check that does not pass. -/
theorem conversion_exact {y : Yaml} (hkeys : y.DistinctKeys) :
    ((∃ v, ofYaml y = .ok v) ↔ ∀ node ∈ y.parts, node.Supported) ∧
      (∀ v, ofYaml y = .ok v ↔ Mirrors y v) ∧
      (∀ v, ofYaml y = .ok v → v.ClassFree) ∧
      ∀ e, ofYaml y = .error e → FirstFails y.checks e := by
  obtain ⟨hok, herror⟩ := agrees_ofYaml hkeys
  refine ⟨?_, fun v => ⟨fun h => (hok v h).2, ofYaml_of_mirrors hkeys⟩,
    fun v => classFree_ofYaml, herror⟩
  rw [← Yaml.forall_checks_iff]
  constructor
  · rintro ⟨v, hv⟩
    exact (hok v hv).1
  · intro hpass
    cases hmade : ofYaml y with
    | ok v => exact ⟨v, rfl⟩
    | error e => exact absurd hpass (herror e hmade).not_forall_passes

/-- A text with a site, whose class is between its other entries. -/
def siteText : List Char :=
  ["Site:\n", "  Ports: [80, 443]\n", "  cim_instance_type: WebSite\n",
    "  Key: !Sensitive 42\n"].flatMap String.toList

/-- The document of this text. -/
def siteDocument : Yaml :=
  .mapping [(.string "Site", .mapping [(.string "Ports", .sequence [.int 80, .int 443]),
    (.string classKey, .string "WebSite"), (.string "Key", .tagged secretTag (.int 42))])]

/-- A document with three faults: the class, the key of a port, and the tag behind it. -/
def brokenDocument : Yaml :=
  .mapping [(.string classKey, .null),
    (.string "Ports", .sequence [.int 80, .mapping [(.int 443, .tagged "!Port" .null)]])]

/-- A site is converted, also as it was read from a text, and the first fault of the other
document is the key. -/
theorem conversion_exact_site :
    (siteDocument.DistinctKeys ∧
      Mirrors siteDocument (.map [("Site", .instanceOf "WebSite"
        [("Ports", .array [.int 80, .int 443]), ("Key", .secret "42")])])) ∧
      (∃ y v, Yaml.read? siteText = some y ∧ Mirrors y v ∧ v.ClassFree) ∧
      brokenDocument.DistinctKeys ∧
        FirstFails brokenDocument.checks (.unsupportedValue "mapping key" "Number(443)") := by
  have hsite : siteDocument.DistinctKeys := by decide
  have hmade : ofYaml siteDocument = .ok (.map [("Site", .instanceOf "WebSite"
      [("Ports", .array [.int 80, .int 443]), ("Key", .secret "42")])]) := rfl
  have hbroken : brokenDocument.DistinctKeys := by decide
  have hfails : ofYaml brokenDocument =
      .error (.unsupportedValue "mapping key" "Number(443)") := rfl
  have hconverted : (Yaml.read? siteText).map (fun y => (ofYaml y).isOk) = some true := by
    decide +kernel
  obtain ⟨y, hread, hok⟩ := Option.map_eq_some_iff.1 hconverted
  obtain ⟨-, hmirrors, hclass, -⟩ := conversion_exact (Yaml.distinctKeys_of_read? hread)
  refine ⟨⟨hsite, ((conversion_exact hsite).2.1 _).1 hmade⟩, ?_,
    hbroken, (conversion_exact hbroken).2.2.2 _ hfails⟩
  cases hy : ofYaml y with
  | error e => rw [hy] at hok; cases hok
  | ok v => exact ⟨y, v, hread, (hmirrors v).1 hy, hclass v hy⟩

end Value

end DesiredState
