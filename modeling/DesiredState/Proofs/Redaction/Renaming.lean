import DesiredState.Proofs.Script.Declaring
import Mathlib.Data.List.Basic

/-!
# Renaming secrets

A renaming puts other texts in the place of the secrets of a value, and leaves
everything else.  Expressions, statements and scripts have marked texts in the
place of secrets, and are renamed there.

The password of a credential is a secret, whether it was given as a secret or as a
plain text.  So a renaming of a parameter also changes the plain password of a
credential.

Messages hide secrets, so no failure depends on them.

## Main definitions

* `Value.mapSecrets`, `Expr.mapSecrets`, `Statement.mapSecrets`, `Script.mapSecrets`
  — a renaming of the secrets.
* `Parameter.mapSecrets`, `Invocation.mapSecrets` — the same for parameters, with
  the passwords of credentials.
* `Parameter.embedsPlainPassword` — a plain password that is also embedded.

## Main results

* `Value.toExpr_mapSecrets`, `Value.form_mapSecrets` — expressions and trees are
  renamed along with their values.
* `Value.literal_mapSecrets_eq_iff` — a renaming that keeps secrets apart keeps
  literals apart.
* `Credential.ofValue_mapSecrets`, `Instance.ofValue_mapSecrets` — so are the
  credentials and instances that are read off values.
-/

namespace DesiredState

/-! ## Values -/

namespace Value

mutual

/-- A value with other secrets. -/
def mapSecrets (f : String → String) : Value → Value
  | secret s => .secret (f s)
  | array items => .array (itemsMapSecrets f items)
  | map entries => .map (entriesMapSecrets f entries)
  | instanceOf className properties => .instanceOf className (entriesMapSecrets f properties)
  | v => v

/-- The items of an array with other secrets. -/
def itemsMapSecrets (f : String → String) : List Value → List Value
  | [] => []
  | item :: rest => mapSecrets f item :: itemsMapSecrets f rest

/-- The entries of a map with other secrets. -/
def entriesMapSecrets (f : String → String) : List (String × Value) → List (String × Value)
  | [] => []
  | (key, value) :: rest => (key, mapSecrets f value) :: entriesMapSecrets f rest

end

variable (f : String → String)

theorem itemsMapSecrets_eq (items : List Value) :
    itemsMapSecrets f items = items.map (mapSecrets f) := by
  induction items with
  | nil => rfl
  | cons item rest ih => rw [itemsMapSecrets, ih, List.map_cons]

theorem entriesMapSecrets_eq (entries : List (String × Value)) :
    entriesMapSecrets f entries = entries.map fun entry => (entry.1, entry.2.mapSecrets f) := by
  induction entries with
  | nil => rfl
  | cons entry rest ih => rw [entriesMapSecrets, ih, List.map_cons]

theorem isNull_mapSecrets (v : Value) : (v.mapSecrets f).isNull = v.isNull := by cases v <;> rfl

theorem isInstance_mapSecrets (v : Value) : (v.mapSecrets f).isInstance = v.isInstance := by
  cases v <;> rfl

theorem get?_entriesMapSecrets (entries : List (String × Value)) (key : String) :
    Entries.get? (entriesMapSecrets f entries) key =
      (Entries.get? entries key).map (mapSecrets f) := by
  induction entries with
  | nil => rfl
  | cons entry rest ih =>
      obtain ⟨other, value⟩ := entry
      rw [entriesMapSecrets, Entries.get?, Entries.get?]
      by_cases hkey : other = key
      · rw [if_pos hkey, if_pos hkey]
        rfl
      · rw [if_neg hkey, if_neg hkey, ih]

theorem get?_mapSecrets (v : Value) (key : String) :
    (v.mapSecrets f).get? key = (v.get? key).map (mapSecrets f) := by
  cases v with
  | map entries => exact get?_entriesMapSecrets f entries key
  | instanceOf className properties => exact get?_entriesMapSecrets f properties key
  | _ => rfl

/-- A renaming that another one takes back. -/
theorem mapSecrets_mapSecrets {f g : String → String} (h : ∀ s, g (f s) = s) (v : Value) :
    (v.mapSecrets f).mapSecrets g = v := by
  have hentries : ∀ entries : List (String × Value),
      (∀ entry ∈ entries, (entry.2.mapSecrets f).mapSecrets g = entry.2) →
        entriesMapSecrets g (entriesMapSecrets f entries) = entries := by
    intro entries ih
    rw [entriesMapSecrets_eq, entriesMapSecrets_eq, List.map_map]
    refine (List.map_congr_left (g := id) fun entry hentry => ?_).trans (List.map_id _)
    exact Prod.ext rfl (ih entry hentry)
  induction v using Value.induct with
  | secret s => exact congrArg Value.secret (h s)
  | array items ih =>
      rw [mapSecrets, mapSecrets, itemsMapSecrets_eq, itemsMapSecrets_eq, List.map_map]
      exact congrArg Value.array ((List.map_congr_left (g := id) ih).trans (List.map_id _))
  | map entries ih => rw [mapSecrets, mapSecrets, hentries entries ih]
  | instanceOf className properties ih => rw [mapSecrets, mapSecrets, hentries properties ih]
  | _ => rfl

end Value

/-! ## Expressions -/

namespace Expr

mutual

/-- An expression with other texts in the place of marked ones. -/
def mapSecrets (f : String → String) : Expr → Expr
  | sensitive s => .sensitive (f s)
  | array items => .array (itemsMapSecrets f items)
  | cast typeName inner => .cast typeName (mapSecrets f inner)
  | table entries => .table (entriesMapSecrets f entries)
  | e => e

/-- The items of an array with other texts in the place of marked ones. -/
def itemsMapSecrets (f : String → String) : List Expr → List Expr
  | [] => []
  | item :: rest => mapSecrets f item :: itemsMapSecrets f rest

/-- The entries of a table with other texts in the place of marked ones. -/
def entriesMapSecrets (f : String → String) : List (Key × Expr) → List (Key × Expr)
  | [] => []
  | (key, value) :: rest => (key, mapSecrets f value) :: entriesMapSecrets f rest

end

variable (f : String → String)

theorem itemsMapSecrets_eq (items : List Expr) :
    itemsMapSecrets f items = items.map (mapSecrets f) := by
  induction items with
  | nil => rfl
  | cons item rest ih => rw [itemsMapSecrets, ih, List.map_cons]

theorem entriesMapSecrets_eq (entries : List (Key × Expr)) :
    entriesMapSecrets f entries = entries.map fun entry => (entry.1, entry.2.mapSecrets f) := by
  induction entries with
  | nil => rfl
  | cons entry rest ih => rw [entriesMapSecrets, ih, List.map_cons]

theorem mapSecrets_array (items : List Expr) :
    (array items).mapSecrets f = .array (items.map (mapSecrets f)) := by
  rw [mapSecrets, itemsMapSecrets_eq]

theorem mapSecrets_table (entries : List (Key × Expr)) :
    (table entries).mapSecrets f =
      .table (entries.map fun entry => (entry.1, entry.2.mapSecrets f)) := by
  rw [mapSecrets, entriesMapSecrets_eq]

end Expr

namespace Value

variable (f : String → String)

/-- The array type is that of the items, and they keep their kinds. -/
theorem all_isInstance_mapSecrets (items : List Value) :
    (items.map (mapSecrets f)).all isInstance = items.all isInstance := by
  rw [List.all_map]
  exact congrArg items.all (funext fun item => isInstance_mapSecrets f item)

theorem entriesToExpr_mapSecrets {entries : List (String × Value)}
    (h : ∀ entry ∈ entries, (entry.2.mapSecrets f).toExpr = entry.2.toExpr.mapSecrets f) :
    entriesToExpr (entriesMapSecrets f entries) =
      Expr.entriesMapSecrets f (entriesToExpr entries) := by
  rw [entriesToExpr_eq, entriesToExpr_eq, entriesMapSecrets_eq, Expr.entriesMapSecrets_eq,
    List.map_map, List.map_map]
  exact List.map_congr_left fun entry hentry => Prod.ext rfl (h entry hentry)

/-- The expression of a value is renamed along with the value. -/
theorem toExpr_mapSecrets (v : Value) : (v.mapSecrets f).toExpr = v.toExpr.mapSecrets f := by
  induction v using Value.induct with
  | array items ih =>
      have hitems : itemsToExpr (items.map (mapSecrets f)) =
          (itemsToExpr items).map (Expr.mapSecrets f) := by
        rw [itemsToExpr_eq, itemsToExpr_eq, List.map_map, List.map_map]
        exact List.map_congr_left ih
      rw [mapSecrets, itemsMapSecrets_eq, toExpr, toExpr, all_isInstance_mapSecrets,
        List.isEmpty_map, hitems]
      split
      · rw [Expr.mapSecrets, Expr.mapSecrets_array]
      · rw [Expr.mapSecrets_array]
  | map entries ih =>
      rw [mapSecrets, toExpr, toExpr, entriesToExpr_mapSecrets f ih, Expr.mapSecrets]
  | instanceOf className properties ih =>
      rw [mapSecrets, toExpr, toExpr, entriesToExpr_mapSecrets f ih, Expr.mapSecrets,
        Expr.entriesMapSecrets]
      rfl
  | _ => rfl

end Value

/-! ## Trees -/

namespace Literal

mutual

/-- A tree with other texts in the place of marked ones. -/
def mapSecrets (f : String → String) : Literal → Literal
  | sensitive s => .sensitive (f s)
  | array items => .array (itemsMapSecrets f items)
  | cast inner => .cast (mapSecrets f inner)
  | table entries => .table (entriesMapSecrets f entries)
  | t => t

/-- The items of an array with other texts in the place of marked ones. -/
def itemsMapSecrets (f : String → String) : List Literal → List Literal
  | [] => []
  | item :: rest => mapSecrets f item :: itemsMapSecrets f rest

/-- The entries of a table with other texts in the place of marked ones. -/
def entriesMapSecrets (f : String → String) : List (String × Literal) → List (String × Literal)
  | [] => []
  | (key, value) :: rest => (key, mapSecrets f value) :: entriesMapSecrets f rest

end

variable (f : String → String)

theorem itemsMapSecrets_eq (items : List Literal) :
    itemsMapSecrets f items = items.map (mapSecrets f) := by
  induction items with
  | nil => rfl
  | cons item rest ih => rw [itemsMapSecrets, ih, List.map_cons]

theorem entriesMapSecrets_eq (entries : List (String × Literal)) :
    entriesMapSecrets f entries = entries.map fun entry => (entry.1, entry.2.mapSecrets f) := by
  induction entries with
  | nil => rfl
  | cons entry rest ih => rw [entriesMapSecrets, ih, List.map_cons]

end Literal

namespace Value

variable (f : String → String)

theorem entryForms_mapSecrets {entries : List (String × Value)}
    (h : ∀ entry ∈ entries, (entry.2.mapSecrets f).form = entry.2.form.mapSecrets f) :
    entryForms (entriesMapSecrets f entries) =
      Literal.entriesMapSecrets f (entryForms entries) := by
  rw [entryForms_eq, entryForms_eq, entriesMapSecrets_eq, Literal.entriesMapSecrets_eq,
    List.map_map, List.map_map]
  exact List.map_congr_left fun entry hentry => Prod.ext rfl (h entry hentry)

/-- The tree of a value is renamed along with the value. -/
theorem form_mapSecrets (v : Value) : (v.mapSecrets f).form = v.form.mapSecrets f := by
  induction v using Value.induct with
  | float x => cases x <;> rfl
  | array items ih =>
      have hitems : itemForms (items.map (mapSecrets f)) =
          Literal.itemsMapSecrets f (itemForms items) := by
        rw [itemForms_eq, itemForms_eq, Literal.itemsMapSecrets_eq, List.map_map, List.map_map]
        exact List.map_congr_left ih
      rw [mapSecrets, itemsMapSecrets_eq, form, form, all_isInstance_mapSecrets,
        List.isEmpty_map, hitems]
      split
      · rw [Literal.mapSecrets, Literal.mapSecrets]
      · rw [Literal.mapSecrets]
  | map entries ih =>
      rw [mapSecrets, form, form, entryForms_mapSecrets f ih, Literal.mapSecrets]
  | instanceOf className properties ih =>
      rw [mapSecrets, form, form, entryForms_mapSecrets f ih, Literal.mapSecrets,
        Literal.entriesMapSecrets]
      rfl
  | _ => rfl

theorem literal_mapSecrets_congr {v w : Value} (h : v.literal = w.literal) :
    (v.mapSecrets f).literal = (w.mapSecrets f).literal := by
  rw [literal_eq_iff] at h ⊢
  rw [form_mapSecrets, form_mapSecrets, h]

/-- A renaming that keeps secrets apart keeps literals apart. -/
theorem literal_mapSecrets_eq_iff {f : String → String} (hf : Function.Injective f)
    {v w : Value} :
    (v.mapSecrets f).literal = (w.mapSecrets f).literal ↔ v.literal = w.literal := by
  obtain ⟨g, hg⟩ := hf.hasLeftInverse
  refine ⟨fun h => ?_, literal_mapSecrets_congr f⟩
  have hback := literal_mapSecrets_congr g h
  rwa [mapSecrets_mapSecrets hg, mapSecrets_mapSecrets hg] at hback

/-! ## Messages -/

theorem describeEntries_mapSecrets {entries : List (String × Value)}
    (h : ∀ entry ∈ entries, (entry.2.mapSecrets f).describe = entry.2.describe) :
    describeEntries (entriesMapSecrets f entries) = describeEntries entries := by
  induction entries with
  | nil => rfl
  | cons entry rest ih =>
      obtain ⟨hentry, hrest⟩ := List.forall_mem_cons.1 h
      obtain ⟨key, value⟩ := entry
      rw [entriesMapSecrets, describeEntries, describeEntries, ih hrest]
      exact congrArg (fun text => (Quoted.write key ++ ": ".toList ++ text) :: _) hentry

theorem describeItems_mapSecrets {items : List Value}
    (h : ∀ item ∈ items, (item.mapSecrets f).describe = item.describe) :
    describeItems (itemsMapSecrets f items) = describeItems items := by
  induction items with
  | nil => rfl
  | cons item rest ih =>
      obtain ⟨hitem, hrest⟩ := List.forall_mem_cons.1 h
      rw [itemsMapSecrets, describeItems, describeItems, ih hrest, hitem]

/-- A message shows nothing of the secrets. -/
theorem describe_mapSecrets (v : Value) : (v.mapSecrets f).describe = v.describe := by
  induction v using Value.induct with
  | array items ih =>
      exact congrArg (fun texts => "Array([".toList ++ commaSeparated texts ++ "])".toList)
        (describeItems_mapSecrets f ih)
  | map entries ih =>
      exact congrArg (fun texts => "Map(\x7b".toList ++ commaSeparated texts ++ "\x7d)".toList)
        (describeEntries_mapSecrets f ih)
  | instanceOf className properties ih =>
      exact congrArg (fun texts => "Instance(CimInstance \x7b class_name: ".toList ++
          Quoted.write className ++ ", properties: \x7b".toList ++ commaSeparated texts ++
          "\x7d \x7d)".toList)
        (describeEntries_mapSecrets f ih)
  | _ => rfl

end Value

/-! ## Credentials, instances and statements -/

/-- A credential with another password. -/
def Credential.mapSecrets (f : String → String) (c : Credential) : Credential :=
  { c with password := f c.password }

/-- An instance with other secrets. -/
def Instance.mapSecrets (f : String → String) (i : Instance) : Instance :=
  ⟨i.className, Value.entriesMapSecrets f i.properties⟩

namespace Composite

/-- A credential or an instance with other secrets. -/
def mapSecrets (f : String → String) : Composite → Composite
  | credential c => .credential (c.mapSecrets f)
  | instanceOf i => .instanceOf (i.mapSecrets f)

theorem toValue_mapSecrets (f : String → String) (x : Composite) :
    (x.mapSecrets f).toValue = x.toValue.mapSecrets f := by cases x <;> rfl

theorem text_mapSecrets_eq_iff {f : String → String} (hf : Function.Injective f) (x : Composite)
    (v : Value) : (x.mapSecrets f).text = (v.mapSecrets f).literal ↔ x.text = v.literal := by
  rw [text_eq, text_eq, toValue_mapSecrets, Value.literal_mapSecrets_eq_iff hf]

end Composite

/-- A statement with other secrets. -/
def Statement.mapSecrets (f : String → String) : Statement → Statement
  | newCredential name c => .newCredential name (c.mapSecrets f)
  | newInstance name className payload =>
      .newInstance name className (Expr.entriesMapSecrets f payload)

/-- A script with other secrets. -/
def Script.mapSecrets (f : String → String) (s : Script) : Script where
  credentials := s.credentials.map (Statement.mapSecrets f)
  instances := s.instances.map (Statement.mapSecrets f)
  block := s.block.mapSecrets f

/-- The instances in a value are renamed along with the value. -/
theorem Value.instances_mapSecrets (f : String → String) (v : Value) :
    (v.mapSecrets f).instances = v.instances.map (Instance.mapSecrets f) := by
  have hentries : ∀ entries : List (String × Value),
      (∀ entry ∈ entries, (entry.2.mapSecrets f).instances =
        entry.2.instances.map (Instance.mapSecrets f)) →
      entryInstances (entriesMapSecrets f entries) =
        (entryInstances entries).map (Instance.mapSecrets f) := by
    intro entries ih
    rw [entryInstances_eq, entryInstances_eq, entriesMapSecrets_eq, List.flatMap_map,
      List.map_flatMap]
    exact List.flatMap_congr ih
  induction v using Value.induct with
  | array items ih =>
      rw [mapSecrets, instances, instances, itemInstances_eq, itemInstances_eq,
        itemsMapSecrets_eq, List.flatMap_map, List.map_flatMap]
      exact List.flatMap_congr ih
  | map entries ih => rw [mapSecrets, instances, instances, hentries entries ih]
  | instanceOf className properties ih =>
      rw [mapSecrets, instances, instances, hentries properties ih, List.map_append]
      rfl
  | _ => rfl

/-- What fails to be an instance fails with the same message. -/
theorem Instance.ofValue_mapSecrets (f : String → String) (className : String) (v : Value) :
    Instance.ofValue className (v.mapSecrets f) =
      (Instance.ofValue className v).map (Instance.mapSecrets f) := by
  cases v with
  | map entries => rfl
  | instanceOf own properties => rfl
  | _ =>
      exact congrArg (fun text => Except.error (Error.unsupportedValue ("embedded " ++ className)
        (String.ofList text))) (Value.describe_mapSecrets f _)

theorem Instance.ofValues_mapSecrets (f : String → String) (className : String)
    (values : List Value) :
    Instance.ofValues className (values.map (Value.mapSecrets f)) =
      (Instance.ofValues className values).map (·.map (Instance.mapSecrets f)) := by
  induction values with
  | nil => rfl
  | cons value rest ih =>
      rw [List.map_cons, Instance.ofValues, Instance.ofValues, ih, Instance.ofValue_mapSecrets]
      cases Instance.ofValue className value with
      | error e => rfl
      | ok i => cases Instance.ofValues className rest <;> rfl

/-! ## Passwords -/

namespace Value

/-- A value with another text under a key. -/
def setText (v : Value) (key text : String) : Value :=
  match v with
  | map entries => .map (Entries.insert entries key (.string text))
  | instanceOf className properties =>
      .instanceOf className (Entries.insert properties key (.string text))
  | v => v

/-- A value with another password, if that is a plain text. -/
def mapPassword (f : String → String) (v : Value) : Value :=
  match v.get? "password" with
  | some (.string s) => v.setText "password" (f s)
  | _ => v

/-- A password is renamed whether it is a secret or a plain text. -/
def mapText (f : String → String) : Value → Value
  | string s => .string (f s)
  | v => v.mapSecrets f

theorem get?_setText_self {v w : Value} {key : String} (h : v.get? key = some w) (text : String) :
    (v.setText key text).get? key = some (.string text) := by
  cases v with
  | map entries => exact Entries.get?_insert_self entries key _
  | instanceOf className properties => exact Entries.get?_insert_self properties key _
  | _ => cases h

theorem get?_setText_of_ne (v : Value) {key other : String} (h : key ≠ other) (text : String) :
    (v.setText key text).get? other = v.get? other := by
  cases v with
  | map entries => exact Entries.get?_insert_of_ne entries h _
  | instanceOf className properties => exact Entries.get?_insert_of_ne properties h _
  | _ => rfl

theorem isNull_setText (v : Value) (key text : String) :
    (v.setText key text).isNull = v.isNull := by cases v <;> rfl

variable (f : String → String)

theorem isNull_mapPassword (v : Value) : (v.mapPassword f).isNull = v.isNull := by
  rw [mapPassword]
  split
  · exact isNull_setText v _ _
  · rfl

theorem mapPassword_of_not_plain {v : Value} (h : ∀ s, v.get? "password" ≠ some (.string s)) :
    v.mapPassword f = v := by
  rw [mapPassword]
  split
  · next s hs => exact absurd hs (h s)
  · rfl

theorem get?_user_mapPassword (v : Value) : (v.mapPassword f).get? "user" = v.get? "user" := by
  rw [mapPassword]
  split
  · exact get?_setText_of_ne v (by decide) _
  · rfl

theorem get?_password_mapPassword (v : Value) :
    ((v.mapSecrets f).mapPassword f).get? "password" = (v.get? "password").map (mapText f) := by
  have hget := get?_mapSecrets f v "password"
  cases hown : v.get? "password" with
  | none =>
      rw [hown] at hget
      rw [mapPassword_of_not_plain f (fun s hs => (by rw [hget] at hs; cases hs)), hget]
      rfl
  | some password =>
      rw [hown, Option.map_some] at hget
      by_cases hplain : ∃ s, password = .string s
      · obtain ⟨s, rfl⟩ := hplain
        have hstring : (v.mapSecrets f).get? "password" = some (.string s) := hget
        rw [mapPassword, hstring]
        exact get?_setText_self hstring (f s)
      · have hsame : mapText f password = password.mapSecrets f := by
          rw [mapText]
          exact fun s hs => hplain ⟨s, hs⟩
        have hother : ∀ s, (v.mapSecrets f).get? "password" ≠ some (.string s) := by
          intro s hs
          rw [hget, Option.some.injEq] at hs
          cases password with
          | string t => exact hplain ⟨t, rfl⟩
          | _ => cases hs
        rw [mapPassword_of_not_plain f hother, hget, Option.map_some, hsame]

end Value

/-- A credential is renamed along with the value it is read off. -/
theorem Credential.ofValue_mapSecrets (f : String → String) (property : String) (v : Value) :
    Credential.ofValue property ((v.mapSecrets f).mapPassword f) =
      (Credential.ofValue property v).map (Credential.mapSecrets f) := by
  rw [Credential.ofValue, Credential.ofValue, Value.get?_user_mapPassword,
    Value.get?_mapSecrets, Value.get?_password_mapPassword]
  cases v.get? "user" with
  | none => rfl
  | some user =>
      cases user with
      | string u =>
          cases v.get? "password" with
          | none => rfl
          | some password => cases password <;> rfl
      | _ => rfl

/-! ## Parameters -/

namespace Parameter

/-- A parameter with other secrets; the password of a credential is one. -/
def mapSecrets (f : String → String) (p : Parameter) : Parameter :=
  { p with value :=
      if p.type.isCredential then (p.value.mapSecrets f).mapPassword f else p.value.mapSecrets f }

/-- A parameter with other secrets.  A plain password stays as it is. -/
def renameSecrets (f : String → String) (p : Parameter) : Parameter :=
  { p with value := p.value.mapSecrets f }

/-- Whether a parameter is embedded and the plain password of a credential. -/
def embedsPlainPassword (p : Parameter) : Bool :=
  p.type.isCredential && p.isEmbedded &&
    match p.value.get? "password" with
    | some (.string _) => true
    | _ => false

variable (f : String → String)

theorem isNull_mapSecrets (p : Parameter) : (p.mapSecrets f).value.isNull = p.value.isNull := by
  rw [mapSecrets]
  dsimp only
  split
  · rw [Value.isNull_mapPassword, Value.isNull_mapSecrets]
  · exact Value.isNull_mapSecrets f p.value

theorem needsCredential_mapSecrets (p : Parameter) :
    (p.mapSecrets f).needsCredential = p.needsCredential := by
  rw [needsCredential, isNull_mapSecrets]
  rfl

theorem needsInstances_mapSecrets (p : Parameter) :
    (p.mapSecrets f).needsInstances = p.needsInstances := by
  rw [needsInstances, isNull_mapSecrets]
  rfl

/-- A parameter that is embedded has no other secrets than its value, unless it embeds
a plain password. -/
theorem value_mapSecrets {p : Parameter} (hplain : p.embedsPlainPassword = false)
    (hneeds : p.type.isCredential = false ∨ p.needsInstances = true) :
    (p.mapSecrets f).value = p.value.mapSecrets f := by
  rw [mapSecrets]
  dsimp only
  split
  · next hcredential =>
    rcases hneeds with hneeds | hneeds
    · rw [hcredential] at hneeds
      cases hneeds
    · rw [needsInstances, Bool.and_eq_true] at hneeds
      rw [embedsPlainPassword, hcredential, hneeds.1] at hplain
      refine Value.mapPassword_of_not_plain f fun s hs => ?_
      rw [Value.get?_mapSecrets] at hs
      obtain ⟨password, hpassword, hstring⟩ := Option.map_eq_some_iff.1 hs
      rw [hpassword] at hplain
      cases password with
      | string t => cases hplain
      | _ => cases hstring
  · rfl

/-- The instances that a parameter embeds are renamed along with its value. -/
theorem instances_renameSecrets (p : Parameter) :
    (p.renameSecrets f).instances = p.instances.map (·.map (Instance.mapSecrets f)) := by
  have hembedded : (p.renameSecrets f).embeddedValues =
      p.embeddedValues.map (Value.mapSecrets f) := by
    have hvalue : (p.renameSecrets f).value = p.value.mapSecrets f := rfl
    have htype : (p.renameSecrets f).type = p.type := rfl
    rw [embeddedValues, embeddedValues, hvalue, htype]
    cases p.value with
    | array items =>
        rw [Value.mapSecrets]
        dsimp only
        split
        · exact Value.itemsMapSecrets_eq f items
        · rw [List.map_singleton, Value.mapSecrets]
    | _ => rfl
  rw [instances, instances, hembedded, Instance.ofValues_mapSecrets]
  rfl

theorem instances_mapSecrets {p : Parameter}
    (hvalue : (p.mapSecrets f).value = p.value.mapSecrets f) :
    (p.mapSecrets f).instances = p.instances.map (·.map (Instance.mapSecrets f)) := by
  have hsame : p.mapSecrets f = p.renameSecrets f :=
    congrArg (fun value => { p with value }) hvalue
  rw [hsame, instances_renameSecrets]

end Parameter

/-- Parameters with other secrets. -/
def parametersMapSecrets (f : String → String) (parameters : List (String × Parameter)) :
    List (String × Parameter) :=
  parameters.map fun entry => (entry.1, entry.2.mapSecrets f)

theorem names_parametersMapSecrets (f : String → String) (parameters : List (String × Parameter)) :
    Entries.names (parametersMapSecrets f parameters) = Entries.names parameters := by
  rw [Entries.names, parametersMapSecrets, List.map_map]
  rfl

/-- An invocation with other secrets. -/
def Invocation.mapSecrets (f : String → String) (inv : Invocation) : Invocation :=
  { inv with parameters := {
      entries := parametersMapSecrets f inv.parameters.entries
      nodup := by
        rw [names_parametersMapSecrets]
        exact inv.parameters.nodup } }

/-- Whether no credential with a plain password is embedded. -/
def Invocation.MarksPasswords (inv : Invocation) : Prop :=
  ∀ entry ∈ inv.parameters.entries, entry.2.embedsPlainPassword = false

/-- Credentials are renamed along with their parameters. -/
theorem credentialsOf_mapSecrets (f : String → String) (parameters : List (String × Parameter)) :
    credentialsOf (parametersMapSecrets f parameters) =
      (credentialsOf parameters).map (·.map (Credential.mapSecrets f)) := by
  induction parameters with
  | nil => rfl
  | cons parameter rest ih =>
      obtain ⟨property, p⟩ := parameter
      rw [parametersMapSecrets, List.map_cons, ← parametersMapSecrets, credentialsOf,
        credentialsOf, Parameter.needsCredential_mapSecrets, ih]
      split
      · next hneeds =>
        rw [Parameter.needsCredential, Bool.and_eq_true] at hneeds
        have hvalue : (p.mapSecrets f).value = (p.value.mapSecrets f).mapPassword f :=
          if_pos hneeds.1
        rw [hvalue, Credential.ofValue_mapSecrets]
        cases Credential.ofValue property p.value with
        | error e => rfl
        | ok c => cases credentialsOf rest <;> rfl
      · rfl

/-- Embedded instances are renamed along with their parameters, if no plain password
is among them. -/
theorem instancesOf_mapSecrets (f : String → String) {parameters : List (String × Parameter)}
    (hplain : ∀ entry ∈ parameters, entry.2.embedsPlainPassword = false) :
    instancesOf (parametersMapSecrets f parameters) =
      (instancesOf parameters).map (·.map (Instance.mapSecrets f)) := by
  induction parameters with
  | nil => rfl
  | cons parameter rest ih =>
      obtain ⟨hfirst, hrest⟩ := List.forall_mem_cons.1 hplain
      obtain ⟨property, p⟩ := parameter
      rw [parametersMapSecrets, List.map_cons, ← parametersMapSecrets, instancesOf, instancesOf,
        Parameter.needsInstances_mapSecrets, ih hrest]
      split
      · next hneeds =>
        rw [Parameter.instances_mapSecrets f (Parameter.value_mapSecrets f hfirst (.inr hneeds))]
        cases p.instances with
        | error e => rfl
        | ok own =>
            cases instancesOf rest with
            | error e => rfl
            | ok others => exact congrArg Except.ok List.map_append.symm
      · rfl

end DesiredState
