import DesiredState.Proofs.Document.Secrets
import DesiredState.Proofs.Redaction.Renaming
import DesiredState.Proofs.Script.Acceptance

/-!
# What failures disclose

A conversion of a document may fail, and its message may show a value.  Where the value
was converted before, as with the class of an instance, the message hides its secrets.
Where it is a value of the document, as with a tag that is not supported, a key that is
no text, or a document that is no mapping, the message shows its secrets too.

So alike documents are either converted to values that differ in secrets only, or fail
in the same way, unless the value that is shown has a secret in it.  Once there is an
invocation, no failure depends on its secrets.

## Main definitions

* `Yaml.shown?`, `Yaml.documentShown?` — the document value that the message of a
  failing conversion shows.
* `Invocation.renameSecrets` — an invocation with other secrets.

## Main results

* `Value.ofYaml_of_shown?` — the message of a failure shows the value.
* `Value.follows_ofYaml` — with nothing shown, conversions of alike values only differ
  in secrets.
* `Invocation.failure?_renameSecrets` — the failures of scripts do not depend on secrets.
* `disclosed_iff` — alike documents have alike outcomes exactly if no secret is shown.
-/

namespace DesiredState

/-! ## What a failing conversion shows -/

namespace Yaml

mutual

/-- The value that the message of a failing conversion shows, and its kind.  Only the
first failure counts. -/
def shown? : Yaml → Option (String × Yaml)
  | sequence items => itemsShown? items
  | mapping entries => entriesShown? entries
  | tagged tag value => if tagName tag = secretTag then none else some (writeTag tag, value)
  | _ => none

/-- The value that is shown for the items of a sequence. -/
def itemsShown? : List Yaml → Option (String × Yaml)
  | [] => none
  | item :: rest => if (Value.ofYaml item).isOk then itemsShown? rest else shown? item

/-- The value that is shown for the entries of a mapping. -/
def entriesShown? : List (Yaml × Yaml) → Option (String × Yaml)
  | [] => none
  | (string _, value) :: rest =>
      if (Value.ofYaml value).isOk then entriesShown? rest else shown? value
  | (key, _) :: _ => some ("mapping key", key)

end

/-- The value that is shown for a whole document. -/
def documentShown? : Yaml → Option (String × Yaml)
  | null => none
  | mapping entries => (mapping entries).shown?
  | y => some ("document", y)

end Yaml

namespace Value

open Yaml (shown? itemsShown? entriesShown?)

theorem itemsOfYaml_of_shown? {items : List Yaml} {kind : String} {v : Yaml}
    (ih : ∀ item ∈ items, item.shown? = some (kind, v) →
      ofYaml item = unsupported kind v.describe)
    (h : itemsShown? items = some (kind, v)) :
    itemsOfYaml items = unsupported kind v.describe := by
  induction items with
  | nil => cases h
  | cons item rest ihrest =>
      obtain ⟨hfirst, hrest⟩ := List.forall_mem_cons.1 ih
      rw [itemsShown?] at h
      rw [itemsOfYaml]
      cases hitem : ofYaml item with
      | ok first =>
          rw [hitem] at h
          rw [ihrest hrest h]
          rfl
      | error e =>
          rw [hitem] at h
          rw [← hitem, hfirst h]
          rfl

theorem entriesOfYaml_of_shown? {entries : List (Yaml × Yaml)} {kind : String} {v : Yaml}
    (ih : ∀ entry ∈ entries, entry.2.shown? = some (kind, v) →
      ofYaml entry.2 = unsupported kind v.describe)
    (h : entriesShown? entries = some (kind, v)) :
    entriesOfYaml entries = unsupported kind v.describe := by
  induction entries with
  | nil => cases h
  | cons entry rest ihrest =>
      obtain ⟨hfirst, hrest⟩ := List.forall_mem_cons.1 ih
      obtain ⟨key, value⟩ := entry
      cases key with
      | string key =>
          rw [entriesShown?] at h
          rw [entriesOfYaml]
          cases hvalue : ofYaml value with
          | ok first =>
              rw [hvalue] at h
              rw [ihrest hrest h]
              rfl
          | error e =>
              rw [hvalue] at h
              rw [← hvalue, hfirst h]
              rfl
      | _ =>
          obtain ⟨rfl, rfl⟩ := Prod.mk.inj (Option.some.inj h)
          rfl

/-- The message of a failing conversion shows a document value as it is. -/
theorem ofYaml_of_shown? {y : Yaml} {kind : String} {v : Yaml}
    (h : y.shown? = some (kind, v)) : ofYaml y = unsupported kind v.describe := by
  induction y using Yaml.induct with
  | sequence items ih =>
      rw [ofYaml, itemsOfYaml_of_shown? (fun item hitem => ih item hitem) h]
      rfl
  | mapping entries ih =>
      rw [ofYaml, entriesOfYaml_of_shown? (fun entry hentry => (ih entry hentry).2) h]
      rfl
  | tagged tag value ih =>
      rw [shown?] at h
      split at h
      · cases h
      · next htag =>
        obtain ⟨rfl, rfl⟩ := Prod.mk.inj (Option.some.inj h)
        rw [ofYaml, if_neg (by simpa using htag)]
  | _ => cases h

/-! ## Conversions of alike values -/

/-- A value with all its secrets blotted out. -/
def hideSecrets (v : Value) : Value := v.mapSecrets fun _ => ""

/-- Entries with all their secrets blotted out. -/
def hideEntries (entries : List (String × Value)) : List (String × Value) :=
  entries.map (Prod.map id hideSecrets)

theorem hideSecrets_map (entries : List (String × Value)) :
    (map entries).hideSecrets = .map (hideEntries entries) :=
  congrArg Value.map (entriesMapSecrets_eq _ entries)

theorem hideSecrets_instanceOf (className : String) (properties : List (String × Value)) :
    (instanceOf className properties).hideSecrets =
      .instanceOf className (hideEntries properties) :=
  congrArg (instanceOf className) (entriesMapSecrets_eq _ properties)

theorem hideSecrets_array (items : List Value) :
    (array items).hideSecrets = .array (items.map hideSecrets) :=
  congrArg array (itemsMapSecrets_eq _ items)

theorem get?_hideEntries (entries : List (String × Value)) (key : String) :
    Entries.get? (hideEntries entries) key = (Entries.get? entries key).map hideSecrets := by
  have hget := get?_entriesMapSecrets (fun _ => "") entries key
  rwa [entriesMapSecrets_eq] at hget

/-- The class of an instance is read off whatever the secrets, and its message hides
them. -/
theorem ofEntries_hideEntries (entries : List (String × Value)) :
    ofEntries (hideEntries entries) = (ofEntries entries).map hideSecrets := by
  rw [ofEntries, ofEntries, get?_hideEntries]
  cases Entries.get? entries classKey with
  | none => exact congrArg Except.ok (hideSecrets_map entries).symm
  | some v =>
      cases v with
      | string className =>
          refine congrArg Except.ok ?_
          rw [hideSecrets_instanceOf, hideEntries, hideEntries, Entries.map_erase]
      | _ => exact congrArg (unsupported classKey) (describe_mapSecrets _ _)

/-- The value of a mapping, with its secrets blotted out, is that of the entries with
theirs blotted out. -/
theorem hideSecrets_mapping (entries : Except Error (List (String × Value))) :
    (do ofEntries (Entries.ofPairs (← entries))).map hideSecrets =
      (do ofEntries (Entries.ofPairs (← entries.map hideEntries))) := by
  cases entries with
  | error e => rfl
  | ok entries =>
      change (ofEntries _).map hideSecrets = ofEntries (Entries.ofPairs (hideEntries entries))
      rw [← ofEntries_hideEntries, hideEntries, Entries.map_ofPairs]
      rfl

/-- The outcomes of two conversions only differ in secrets. -/
def SameOutcome (a b : Except Error Value) : Prop := a.map hideSecrets = b.map hideSecrets

theorem SameOutcome.isOk {a b : Except Error Value} (h : SameOutcome a b) : a.isOk = b.isOk := by
  cases a <;> cases b <;> first | rfl | cases h

/-- A renamed value shows the renamed value, and if there is none, it has the same
outcome. -/
structure Follows (f : String → String) (y : Yaml) : Prop where
  shown : (y.mapSecrets f).shown? = y.shown?.map (Prod.map id (Yaml.mapSecrets f))
  outcome : y.shown? = none → SameOutcome (ofYaml (y.mapSecrets f)) (ofYaml y)

section Follows

variable {f : String → String}

theorem Follows.isOk {y : Yaml} (h : Follows f y) :
    (ofYaml (y.mapSecrets f)).isOk = (ofYaml y).isOk := by
  cases hshown : y.shown? with
  | none => exact (h.outcome hshown).isOk
  | some shown =>
      have hrenamed := h.shown
      rw [hshown, Option.map_some] at hrenamed
      rw [ofYaml_of_shown? hshown, ofYaml_of_shown? hrenamed]
      rfl

/-- Nothing is shown for a value that is converted. -/
theorem shown?_of_isOk {y : Yaml} (h : (ofYaml y).isOk = true) : y.shown? = none := by
  cases hshown : y.shown? with
  | none => rfl
  | some shown =>
      rw [ofYaml_of_shown? hshown] at h
      cases h

/-- The items of a sequence are converted up to the first failure, before and after. -/
theorem itemsOfYaml_map_hideSecrets (item : Yaml) (rest : List Yaml) :
    (itemsOfYaml (item :: rest)).map (List.map hideSecrets) = (do
      let first ← (ofYaml item).map hideSecrets
      let others ← (itemsOfYaml rest).map (List.map hideSecrets)
      pure (first :: others)) := by
  rw [itemsOfYaml]
  cases ofYaml item <;> cases itemsOfYaml rest <;> rfl

/-- A failure ends the conversion, whatever comes behind it. -/
theorem map_bind_of_not_isOk {y : Yaml} {α : Type} (h : ¬ (ofYaml y).isOk = true)
    (g g' : Value → Except Error α) :
    ((ofYaml y).map hideSecrets >>= g) = ((ofYaml y).map hideSecrets >>= g') := by
  cases hy : ofYaml y with
  | ok v => exact absurd (by rw [hy]; rfl) h
  | error e => rfl

theorem follows_items {items : List Yaml} (ih : ∀ item ∈ items, Follows f item) :
    itemsShown? (items.map (Yaml.mapSecrets f)) =
      (itemsShown? items).map (Prod.map id (Yaml.mapSecrets f)) ∧
    (itemsShown? items = none →
      (itemsOfYaml (items.map (Yaml.mapSecrets f))).map (List.map hideSecrets) =
        (itemsOfYaml items).map (List.map hideSecrets)) := by
  induction items with
  | nil => exact ⟨rfl, fun _ => rfl⟩
  | cons item rest ihrest =>
      obtain ⟨hfirst, hrest⟩ := List.forall_mem_cons.1 ih
      obtain ⟨hshown, houtcome⟩ := ihrest hrest
      rw [List.map_cons, itemsShown?, itemsShown?, hfirst.isOk]
      by_cases hok : (ofYaml item).isOk = true
      · rw [if_pos hok, if_pos hok]
        refine ⟨hshown, fun hnone => ?_⟩
        rw [itemsOfYaml_map_hideSecrets, itemsOfYaml_map_hideSecrets,
          hfirst.outcome (shown?_of_isOk hok), houtcome hnone]
      · rw [if_neg hok, if_neg hok]
        refine ⟨hfirst.shown, fun hnone => ?_⟩
        rw [itemsOfYaml_map_hideSecrets, itemsOfYaml_map_hideSecrets, hfirst.outcome hnone]
        exact map_bind_of_not_isOk hok _ _

theorem Follows.sequence {items : List Yaml} (ih : ∀ item ∈ items, Follows f item) :
    Follows f (.sequence items) := by
  obtain ⟨hshown, houtcome⟩ := follows_items ih
  have hsequence : ∀ items, (ofYaml (.sequence items)).map hideSecrets =
      ((itemsOfYaml items).map (List.map hideSecrets)).map array := by
    intro items
    rw [ofYaml]
    cases itemsOfYaml items with
    | error e => rfl
    | ok items => exact congrArg Except.ok (hideSecrets_array items)
  constructor
  · rw [Yaml.mapSecrets_sequence]
    exact hshown
  · intro hnone
    rw [SameOutcome, Yaml.mapSecrets_sequence, hsequence, hsequence, houtcome hnone]

/-- The entries of a mapping are converted up to the first failure, before and after. -/
theorem entriesOfYaml_map_hideEntries (key : String) (value : Yaml) (rest : List (Yaml × Yaml)) :
    (entriesOfYaml ((.string key, value) :: rest)).map hideEntries = (do
      let first ← (ofYaml value).map hideSecrets
      let others ← (entriesOfYaml rest).map hideEntries
      pure ((key, first) :: others)) := by
  rw [entriesOfYaml]
  cases ofYaml value <;> cases entriesOfYaml rest <;> rfl

theorem follows_entries {entries : List (Yaml × Yaml)}
    (ih : ∀ entry ∈ entries, Follows f entry.1 ∧ Follows f entry.2) :
    entriesShown? (entries.map fun entry => (entry.1.mapSecrets f, entry.2.mapSecrets f)) =
      (entriesShown? entries).map (Prod.map id (Yaml.mapSecrets f)) ∧
    (entriesShown? entries = none →
      (entriesOfYaml (entries.map fun entry =>
        (entry.1.mapSecrets f, entry.2.mapSecrets f))).map hideEntries =
          (entriesOfYaml entries).map hideEntries) := by
  induction entries with
  | nil => exact ⟨rfl, fun _ => rfl⟩
  | cons entry rest ihrest =>
      obtain ⟨⟨-, hfirst⟩, hrest⟩ := List.forall_mem_cons.1 ih
      obtain ⟨hshown, houtcome⟩ := ihrest hrest
      obtain ⟨key, value⟩ := entry
      cases key with
      | string key =>
          have hkey : (Yaml.string key).mapSecrets f = .string key := rfl
          rw [List.map_cons, hkey, entriesShown?, entriesShown?, hfirst.isOk]
          by_cases hok : (ofYaml value).isOk = true
          · rw [if_pos hok, if_pos hok]
            refine ⟨hshown, fun hnone => ?_⟩
            rw [entriesOfYaml_map_hideEntries, entriesOfYaml_map_hideEntries,
              hfirst.outcome (shown?_of_isOk hok), houtcome hnone]
          · rw [if_neg hok, if_neg hok]
            refine ⟨hfirst.shown, fun hnone => ?_⟩
            rw [entriesOfYaml_map_hideEntries, entriesOfYaml_map_hideEntries,
              hfirst.outcome hnone]
            exact map_bind_of_not_isOk hok _ _
      | _ => exact ⟨rfl, fun hnone => by cases hnone⟩

theorem Follows.mapping {entries : List (Yaml × Yaml)}
    (ih : ∀ entry ∈ entries, Follows f entry.1 ∧ Follows f entry.2) :
    Follows f (.mapping entries) := by
  obtain ⟨hshown, houtcome⟩ := follows_entries ih
  constructor
  · rw [Yaml.mapSecrets_mapping]
    exact hshown
  · intro hnone
    rw [SameOutcome, Yaml.mapSecrets_mapping, ofYaml, ofYaml, hideSecrets_mapping,
      hideSecrets_mapping, houtcome hnone]

theorem Follows.tagged {tag : String} {value : Yaml} : Follows f (.tagged tag value) := by
  by_cases htag : tagName tag = secretTag
  · constructor
    · rw [Yaml.mapSecrets, shown?, shown?, if_pos htag, if_pos htag]
      rfl
    · intro _
      have hsecret : ∀ value, ofYaml (.tagged tag value) = secretOfYaml value :=
        fun value => if_pos (by simpa using htag)
      rw [SameOutcome, Yaml.mapSecrets, hsecret, hsecret]
      -- a text becomes a secret; all other values are treated the same after a renaming
      cases value with
      | string s =>
          have htext : Yaml.mapTagged f tag ((Yaml.string s).mapSecrets f) = .string (f s) :=
            congrArg Yaml.string (if_pos htag)
          rw [htext]
          rfl
      | _ => rfl
  · constructor
    · rw [Yaml.mapSecrets, shown?, shown?, if_neg htag, if_neg htag,
        Yaml.mapTagged_of_ne f htag]
      rfl
    · intro hnone
      rw [shown?, if_neg htag] at hnone
      cases hnone

/-- A renaming of the secrets of a document is followed by its conversion. -/
theorem follows_ofYaml (f : String → String) (y : Yaml) : Follows f y := by
  induction y using Yaml.induct with
  | sequence items ih => exact Follows.sequence ih
  | mapping entries ih => exact Follows.mapping ih
  | tagged tag value => exact Follows.tagged
  | _ => exact ⟨rfl, fun _ => rfl⟩

end Follows

end Value

/-- The properties of a document with all their secrets blotted out. -/
def Properties.hideSecrets (properties : Properties) : List (String × Value) :=
  Value.hideEntries properties.entries

/-- The message of a failing document shows a document value as it is. -/
theorem Properties.ofYaml_of_documentShown? {y : Yaml} {kind : String} {v : Yaml}
    (h : y.documentShown? = some (kind, v)) :
    Properties.ofYaml y = unsupported kind v.describe := by
  cases y with
  | null => cases h
  | mapping entries =>
      rw [Properties.ofYaml, Value.ofYaml_of_shown? h]
      rfl
  | _ =>
      obtain ⟨rfl, rfl⟩ := Prod.mk.inj (Option.some.inj h)
      rfl

/-! ## Outcomes of alike documents -/

/-- The value that a message shows, if any, decides about the outcomes of alike
documents. -/
structure Yaml.Discloses {α : Type} (shown : Yaml → Option (String × Yaml))
    (outcome : Yaml → Except Error α) : Prop where
  message : ∀ y kind v, shown y = some (kind, v) → outcome y = unsupported kind v.describe
  renamed : ∀ f y, shown (y.mapSecrets f) = (shown y).map (Prod.map id (Yaml.mapSecrets f))
  kept : ∀ f y, shown y = none → outcome (y.mapSecrets f) = outcome y

namespace Yaml

/-- Alike documents have the same outcome exactly if the value that the message shows is
without secrets. -/
theorem Discloses.forall_alike_iff {α : Type} {shown : Yaml → Option (String × Yaml)}
    {outcome : Yaml → Except Error α} (h : Discloses shown outcome) (y : Yaml) :
    (∀ z, y.Alike z → outcome z = outcome y) ↔
      ∀ kind v, shown y = some (kind, v) → v.secrets = [] := by
  constructor
  · intro halike kind v hshown
    -- longer secrets make a longer message
    have hlong := h.renamed lengthen y
    rw [hshown, Option.map_some] at hlong
    have hsame := halike _ (alike_mapSecrets lengthen y)
    rw [h.message _ _ _ hshown, h.message _ _ _ hlong, unsupported, unsupported,
      Except.error.injEq, Error.unsupportedValue.injEq, String.ofList_inj] at hsame
    have hlength := length_describe_mapSecrets v
    rw [hsame.2] at hlength
    exact List.length_eq_zero_iff.1 (by omega)
  · intro hsecrets z hz
    have hy := h.renamed (fun _ => "") y
    have hother := h.renamed (fun _ => "") z
    change shown y.hideSecrets = _ at hy
    change shown z.hideSecrets = _ at hother
    rw [← hz, hy] at hother
    cases hshown : shown y with
    | none =>
        rw [hshown, Option.map_none, eq_comm, Option.map_eq_none_iff] at hother
        have hkept := h.kept (fun _ => "") y hshown
        change outcome y.hideSecrets = _ at hkept
        rw [← hkept, hz]
        exact (h.kept (fun _ => "") z hother).symm
    | some pair =>
        obtain ⟨kind, v⟩ := pair
        rw [hshown, Option.map_some, eq_comm, Option.map_eq_some_iff] at hother
        obtain ⟨⟨other, w⟩, hw, heq⟩ := hother
        obtain ⟨rfl, hhidden⟩ := Prod.mk.inj heq
        have halike : v.Alike w := hhidden.symm
        obtain rfl := halike.eq_of_secrets_eq_nil (hsecrets _ _ hshown)
        rw [h.message _ _ _ hshown, h.message _ _ _ hw]
        rfl

/-- A failing conversion of a value discloses what it shows. -/
theorem discloses_value :
    Discloses shown? fun y => (Value.ofYaml y).map Value.hideSecrets where
  message := fun y kind v h => by
    rw [Value.ofYaml_of_shown? h]
    rfl
  renamed := fun f y => (Value.follows_ofYaml f y).shown
  kept := fun f y => (Value.follows_ofYaml f y).outcome

/-- The properties of a mapping are its entries; the message for an instance hides its
secrets. -/
theorem hideSecrets_ofYaml_mapping (entries : List (Yaml × Yaml)) :
    (Properties.ofYaml (mapping entries)).map Properties.hideSecrets =
      (do match ← (Value.ofYaml (mapping entries)).map Value.hideSecrets with
          | .map entries => pure (Entries.ofPairs entries)
          | value => unsupported "document" value.describe) := by
  rw [Properties.ofYaml]
  cases Value.ofYaml (mapping entries) with
  | error e => rfl
  | ok v =>
      cases v with
      | map entries =>
          have hhidden : (Value.map entries).hideSecrets = .map (Value.hideEntries entries) :=
            Value.hideSecrets_map entries
          change Except.ok (Value.hideEntries (Entries.ofPairs entries)) =
            (match (Value.map entries).hideSecrets with
              | .map entries => pure (Entries.ofPairs entries)
              | value => unsupported "document" value.describe)
          rw [hhidden, Value.hideEntries, Entries.map_ofPairs]
          rfl
      | _ => exact congrArg (unsupported "document") (Value.describe_mapSecrets _ _).symm

/-- A failing conversion of a document discloses what it shows. -/
theorem discloses_document :
    Discloses documentShown? fun y => (Properties.ofYaml y).map Properties.hideSecrets where
  message := fun y kind v h => by
    rw [Properties.ofYaml_of_documentShown? h]
    rfl
  renamed := fun f y => by
    cases y with
    | mapping entries => exact (Value.follows_ofYaml f (mapping entries)).shown
    | _ => rfl
  kept := fun f y h => by
    cases y with
    | null => rfl
    | mapping entries =>
        have hsame := (Value.follows_ofYaml f (mapping entries)).outcome h
        rw [Value.SameOutcome, mapSecrets_mapping] at hsame
        rw [mapSecrets_mapping, hideSecrets_ofYaml_mapping, hideSecrets_ofYaml_mapping, hsame]
    | _ => cases h

end Yaml

/-! ## Failures of scripts -/

/-- A credential is read off whatever the secrets. -/
theorem Credential.failure?_ofValue_mapSecrets (f : String → String) (property : String)
    (v : Value) :
    failure? (ofValue property (v.mapSecrets f)) = failure? (ofValue property v) := by
  rw [ofValue, ofValue, Value.get?_mapSecrets, Value.get?_mapSecrets]
  cases v.get? "user" with
  | none => rfl
  | some user =>
      cases user with
      | string u =>
          cases v.get? "password" with
          | none => rfl
          | some password => cases password <;> rfl
      | _ => rfl

namespace Invocation

/-- An invocation with other secrets. -/
def renameSecrets (f : String → String) (inv : Invocation) : Invocation :=
  { inv with parameters := inv.parameters.filterMap fun _ p => some (p.renameSecrets f) }

theorem entries_renameSecrets (f : String → String) (inv : Invocation) :
    (inv.renameSecrets f).parameters.entries =
      inv.parameters.entries.map fun entry => (entry.1, entry.2.renameSecrets f) :=
  congrFun (List.filterMap_eq_map (f := fun entry : String × Parameter =>
    (entry.1, entry.2.renameSecrets f))) inv.parameters.entries

variable (f : String → String)

/-- Credentials fail to be read off whatever the secrets. -/
theorem failure?_credentialsOf_renameSecrets (parameters : List (String × Parameter)) :
    failure? (credentialsOf (parameters.map fun entry => (entry.1, entry.2.renameSecrets f))) =
      failure? (credentialsOf parameters) := by
  induction parameters with
  | nil => rfl
  | cons parameter rest ih =>
      obtain ⟨property, p⟩ := parameter
      have hneeds : (p.renameSecrets f).needsCredential = p.needsCredential :=
        congrArg (p.type.isCredential && !·) (Value.isNull_mapSecrets f p.value)
      have hvalue : failure? (Credential.ofValue property (p.renameSecrets f).value) = _ :=
        Credential.failure?_ofValue_mapSecrets f property p.value
      rw [List.map_cons, credentialsOf, credentialsOf, hneeds]
      split
      · rw [failure?_bind, failure?_bind, hvalue, ih]
      · exact ih

/-- Instances fail to be read off whatever the secrets. -/
theorem failure?_instancesOf_renameSecrets (parameters : List (String × Parameter)) :
    failure? (instancesOf (parameters.map fun entry => (entry.1, entry.2.renameSecrets f))) =
      failure? (instancesOf parameters) := by
  induction parameters with
  | nil => rfl
  | cons parameter rest ih =>
      obtain ⟨property, p⟩ := parameter
      have hneeds : (p.renameSecrets f).needsInstances = p.needsInstances :=
        congrArg (p.isEmbedded && !·) (Value.isNull_mapSecrets f p.value)
      rw [List.map_cons, instancesOf, instancesOf, hneeds]
      split
      · rw [failure?_bind, failure?_bind, p.instances_renameSecrets, failure?_map, ih]
      · exact ih

/-- The failures of scripts do not depend on secrets, nor on the names of variables. -/
theorem failure?_renameSecrets (inv : Invocation) (source other : NameSource) :
    failure? ((inv.renameSecrets f).script other) = failure? (inv.script source) := by
  rw [failure?_script, failure?_script, entries_renameSecrets,
    failure?_credentialsOf_renameSecrets, failure?_instancesOf_renameSecrets]

end Invocation

/-! ## Alike inputs -/

/-- Alike values, and alike documents, are converted to what only differs in secrets or
fail with the same message, exactly if the message shows no document value with a secret
in it.  Invocations that only differ in secrets fail in the same way. -/
theorem disclosed_iff (y : Yaml) (f : String → String) (inv : Invocation)
    (source other : NameSource) :
    (∀ kind v, (y.shown? = some (kind, v) →
        Value.ofYaml y = .error (.unsupportedValue kind (String.ofList v.describe))) ∧
      (y.documentShown? = some (kind, v) →
        Properties.ofYaml y = .error (.unsupportedValue kind (String.ofList v.describe)))) ∧
    ((∀ z, y.Alike z →
        (Value.ofYaml z).map Value.hideSecrets = (Value.ofYaml y).map Value.hideSecrets) ↔
      ∀ kind v, y.shown? = some (kind, v) → v.secrets = []) ∧
    ((∀ z, y.Alike z →
        (Properties.ofYaml z).map Properties.hideSecrets =
          (Properties.ofYaml y).map Properties.hideSecrets) ↔
      ∀ kind v, y.documentShown? = some (kind, v) → v.secrets = []) ∧
    failure? ((inv.renameSecrets f).script other) = failure? (inv.script source) :=
  ⟨fun _ _ => ⟨Value.ofYaml_of_shown?, Properties.ofYaml_of_documentShown?⟩,
    Yaml.discloses_value.forall_alike_iff y, Yaml.discloses_document.forall_alike_iff y,
    Invocation.failure?_renameSecrets f inv source other⟩

/-- A tag that is not supported shows the secret behind it. -/
theorem not_forall_alike_message :
    ¬ ∀ y z : Yaml, y.Alike z →
      (Value.ofYaml z).map Value.hideSecrets = (Value.ofYaml y).map Value.hideSecrets := by
  intro h
  have hsame := Yaml.discloses_value.forall_alike_iff
    (.tagged "Foo" (.tagged "Sensitive" (.string "hunter2")))
  have hsecrets := hsame.1 (fun z hz => h _ z hz) "!Foo" _ rfl
  exact absurd hsecrets (by decide)

end DesiredState
