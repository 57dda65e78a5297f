import DesiredState.Proofs.Script.Declaring
import Mathlib.Data.List.Forall2

/-!
# The parameter block

A parameter is written in one of four ways: as null, as a credential, as embedded
instances, or as the literal of its value.  Only credentials and embedded
instances are looked up in the pool.  So the block made with a pool is the block
made without variables, with references put into these positions.

## Main definitions

* `Parameter.ownExpr` — the expression of a parameter before anything is replaced.
* `Parameter.isShared` — whether the pool is asked about a parameter.
* `Invocation.blockOf` — the block around the table of properties.

## Main results

* `Parameter.toExpr_eq` — the pool only puts references into shared positions.
* `parameterEntries_eq_ok_iff`, `exists_parameterEntries` — the table of
  properties, entry by entry.
* `credentialsOf_eq_ok_iff`, `instancesOf_eq_ok_iff` — credentials and instances,
  parameter by parameter.
* `Invocation.exists_script` — what can be built can be written.
-/

namespace DesiredState

/-- The pool is asked about a parameter when it is a credential or embedded, and
not null. -/
def Parameter.isShared (p : Parameter) : Bool := p.needsCredential || p.needsInstances

/-- The expression of the instances that a parameter embeds. -/
def Parameter.embeddedExpr (p : Parameter) (instances : List Instance) : Expr :=
  if p.type.isArray then .cast instanceArrayType (.array (instances.map Instance.toExpr))
  else (instances.map Instance.toExpr).getLast?.getD .null

namespace Parameter

/-- The expression of a parameter, with nothing replaced by a reference. -/
def ownExpr (p : Parameter) (property : String) : Except Error Expr :=
  if p.needsCredential then (Credential.ofValue property p.value).map Credential.toExpr
  else if p.needsInstances then p.instances.map p.embeddedExpr
  else .ok p.value.toExpr

theorem embeddedExprs_eq (className : String) (values : List Value) :
    embeddedExprs className values =
      (Instance.ofValues className values).map (·.map Instance.toExpr) := by
  induction values with
  | nil => rfl
  | cons value rest ih =>
      rw [embeddedExprs, ih, Instance.ofValues]
      cases Instance.ofValue className value with
      | error e => rfl
      | ok i => cases Instance.ofValues className rest <;> rfl

theorem toExpr_of_isNull {v : Value} (h : v.isNull = true) : v.toExpr = .null := by
  cases v with
  | null => rfl
  | _ => cases h

/-- A pool puts references into the shared positions, and nowhere else. -/
theorem toExpr_eq (p : Parameter) (pool : Pool) (property : String) :
    p.toExpr pool property = (p.ownExpr property).map fun e =>
      if p.isShared then pool.replace e else e := by
  by_cases hnull : p.value.isNull = true
  · have hown : p.ownExpr property = .ok .null := by
      simp [ownExpr, needsCredential, needsInstances, hnull, toExpr_of_isNull hnull]
    rw [toExpr, if_pos hnull, hown]
    simp [isShared, needsCredential, needsInstances, hnull, Except.map]
  · rw [Bool.not_eq_true] at hnull
    rw [toExpr, if_neg (by simp [hnull])]
    by_cases hc : p.type.isCredential = true
    · have hneeds : p.needsCredential = true := by simp [needsCredential, hc, hnull]
      rw [if_pos hc, ownExpr, if_pos hneeds, isShared, hneeds]
      cases Credential.ofValue property p.value with
      | error e => rfl
      | ok c => exact congrArg Except.ok (pool.substitute_eq_replace _)
    · have hneeds : p.needsCredential = false := by simp [needsCredential, hc]
      have hown : p.ownExpr property =
          if p.needsInstances then p.instances.map p.embeddedExpr else .ok p.value.toExpr := by
        rw [ownExpr, if_neg (by simp [hneeds])]
      rw [if_neg hc, hown, isShared, hneeds, Bool.false_or]
      by_cases he : p.isEmbedded = true
      · have hinstances : p.needsInstances = true := by simp [needsInstances, he, hnull]
        rw [if_pos he, if_pos hinstances, hinstances, embeddedExprs_eq, instances]
        cases Instance.ofValues p.type.elementType p.embeddedValues with
        | error e => rfl
        | ok is => exact congrArg Except.ok (pool.substitute_eq_replace _)
      · have hinstances : p.needsInstances = false := by simp [needsInstances, he]
        rw [if_neg he, if_neg (by simp [hinstances]), hinstances]
        rfl

/-- Without variables nothing is replaced. -/
theorem toExpr_empty (p : Parameter) (source : NameSource) (property : String) :
    p.toExpr (Pool.empty source) property = p.ownExpr property := by
  rw [toExpr_eq]
  cases p.ownExpr property with
  | error e => rfl
  | ok e =>
      refine congrArg Except.ok ?_
      dsimp only
      rw [Pool.replace_of_isEmpty rfl, ite_self]

theorem references_embeddedExpr (p : Parameter) (instances : List Instance) :
    (p.embeddedExpr instances).references = [] := by
  have hinstances : ∀ e ∈ instances.map Instance.toExpr, e.references = [] := by
    rw [List.forall_mem_map]
    exact fun i _ => Value.references_toExpr i.toValue
  rw [embeddedExpr]
  split
  · rw [Expr.references, Expr.references_array_eq_nil]
    exact hinstances
  · cases hlast : (instances.map Instance.toExpr).getLast? with
    | none => rfl
    | some e => exact hinstances e (List.mem_of_getLast? hlast)

/-- The own expression of a parameter is a literal. -/
theorem references_ownExpr {p : Parameter} {property : String} {e : Expr}
    (h : p.ownExpr property = .ok e) : e.references = [] := by
  rw [ownExpr] at h
  split at h
  · cases hc : Credential.ofValue property p.value with
    | error e => rw [hc] at h; cases h
    | ok c =>
        rw [hc] at h
        cases h
        exact Composite.references_toExpr (.credential c)
  · split at h
    · cases hi : p.instances with
      | error e => rw [hi] at h; cases h
      | ok is =>
          rw [hi] at h
          cases h
          exact references_embeddedExpr p is
    · cases h
      exact Value.references_toExpr p.value

end Parameter

/-! ## The table of properties -/

/-- Each element of the first of two related lists is related to one of the second. -/
theorem exists_of_forall₂ {α β : Type} {R : α → β → Prop} {as : List α} {bs : List β}
    (h : List.Forall₂ R as bs) : ∀ a ∈ as, ∃ b ∈ bs, R a b := by
  induction h with
  | nil => simp
  | cons hab _ ih =>
      intro a ha
      rcases List.mem_cons.1 ha with rfl | ha
      · exact ⟨_, List.mem_cons_self, hab⟩
      · obtain ⟨b, hb, hr⟩ := ih a ha
        exact ⟨b, List.mem_cons_of_mem _ hb, hr⟩

/-- Related lists are related at the elements that are in the first one. -/
theorem forall₂_with_mem {α β : Type} {R : α → β → Prop} {as : List α} {bs : List β}
    (h : List.Forall₂ R as bs) : List.Forall₂ (fun a b => a ∈ as ∧ R a b) as bs :=
  (List.forall₂_and_left _ _).2 ⟨fun _ hmem => hmem, h⟩

/-- A property is written without what stands in front of it. -/
theorem bareProperty_prefixed (name : String) :
    bareProperty (propertyPrefix ++ name) = name := by
  have hprefix : propertyPrefix.toList.isPrefixOf (propertyPrefix ++ name).toList = true := by
    rw [String.toList_append, List.isPrefixOf_iff_prefix]
    exact List.prefix_append _ _
  have hlength : propertyPrefix.length = propertyPrefix.toList.length := by decide
  rw [bareProperty, if_pos hprefix, hlength, String.toList_append, List.drop_left,
    String.ofList_toList]

/-- Whether an entry of the table is that of a parameter. -/
def IsEntryOf (pool : Pool) (parameter : String × Parameter) (entry : Key × Expr) : Prop :=
  entry.1 = .bare (bareProperty parameter.1) ∧
    parameter.2.toExpr pool parameter.1 = .ok entry.2

/-- An entry holds the own expression of its parameter, with references if the pool
is asked. -/
theorem IsEntryOf.exists_own {pool : Pool} {property : String} {p : Parameter}
    {entry : Key × Expr} (h : IsEntryOf pool (property, p) entry) :
    ∃ e, p.ownExpr property = .ok e ∧ entry.2 = if p.isShared then pool.replace e else e := by
  have hvalue := h.2
  rw [Parameter.toExpr_eq] at hvalue
  cases hown : p.ownExpr property with
  | error e => rw [hown] at hvalue; cases hvalue
  | ok e =>
      rw [hown] at hvalue
      exact ⟨e, rfl, (Except.ok.inj hvalue).symm⟩

/-- A step after another is done on what the first one gives. -/
theorem bind_eq_ok_iff {α β : Type} {a : Except Error α} {f : α → Except Error β} {b : β} :
    a >>= f = .ok b ↔ ∃ x, a = .ok x ∧ f x = .ok b := by
  cases a with
  | error e => exact ⟨fun h => (nomatch h), fun ⟨x, hx, _⟩ => (nomatch hx)⟩
  | ok x =>
      constructor
      · intro h
        exact ⟨x, rfl, h⟩
      · rintro ⟨y, hy, h⟩
        cases hy
        exact h

/-- Of two steps the first that fails is the failure. -/
theorem bind_eq_error_iff {α β : Type} {a : Except Error α} {f : α → Except Error β} {e : Error} :
    a >>= f = .error e ↔ a = .error e ∨ ∃ x, a = .ok x ∧ f x = .error e := by
  cases a with
  | error e' =>
      constructor
      · exact fun h => .inl (congrArg Except.error (Except.error.inj h))
      · rintro (h | ⟨x, hx, -⟩)
        · exact congrArg Except.error (Except.error.inj h)
        · cases hx
  | ok x =>
      constructor
      · exact fun h => .inr ⟨x, rfl, h⟩
      · rintro (h | ⟨y, hy, h⟩)
        · cases h
        · cases hy
          exact h

/-- Two steps succeed together. -/
theorem bind₂_eq_ok_iff {α β γ : Type} {a : Except Error α} {b : Except Error β}
    {g : α → β → γ} {z : γ} :
    (do
      let x ← a
      let y ← b
      pure (g x y)) = .ok z ↔ ∃ x y, a = .ok x ∧ b = .ok y ∧ g x y = z := by
  cases a with
  | error e => exact ⟨fun h => (by cases h), by rintro ⟨_, _, h, -, -⟩; cases h⟩
  | ok x =>
      cases b with
      | error e => exact ⟨fun h => (by cases h), by rintro ⟨_, _, -, h, -⟩; cases h⟩
      | ok y =>
          constructor
          · exact fun h => ⟨x, y, rfl, rfl, Except.ok.inj h⟩
          · rintro ⟨_, _, hx, hy, rfl⟩
            cases hx
            cases hy
            rfl

/-- Of two steps the first failure counts. -/
theorem bind₂_eq_error_iff {α β γ : Type} {a : Except Error α} {b : Except Error β}
    {g : α → β → γ} {e : Error} :
    (do
      let x ← a
      let y ← b
      pure (g x y)) = .error e ↔ a = .error e ∨ ∃ x, a = .ok x ∧ b = .error e := by
  have hsecond : ∀ x, (b >>= fun y => pure (g x y)) = .error e ↔ b = .error e := by
    intro x
    rw [bind_eq_error_iff, or_iff_left]
    rintro ⟨y, -, h⟩
    cases h
  rw [bind_eq_error_iff]
  exact or_congr_right (exists_congr fun x => and_congr_right fun _ => hsecond x)

theorem parameterEntries_eq_ok_iff {pool : Pool} {parameters : List (String × Parameter)}
    {entries : List (Key × Expr)} :
    parameterEntries pool parameters = .ok entries ↔
      List.Forall₂ (IsEntryOf pool) parameters entries := by
  induction parameters generalizing entries with
  | nil =>
      rw [parameterEntries, List.forall₂_nil_left_iff]
      exact ⟨fun h => (Except.ok.inj h).symm, fun h => by rw [h]⟩
  | cons parameter rest ih =>
      obtain ⟨property, p⟩ := parameter
      rw [parameterEntries, bind₂_eq_ok_iff, List.forall₂_cons_left_iff]
      constructor
      · rintro ⟨value, others, hvalue, hothers, rfl⟩
        exact ⟨_, others, ⟨rfl, hvalue⟩, ih.1 hothers, rfl⟩
      · rintro ⟨⟨key, value⟩, others, ⟨hkey, hvalue⟩, hothers, rfl⟩
        obtain rfl : key = .bare (bareProperty property) := hkey
        exact ⟨value, others, hvalue, ih.2 hothers, rfl⟩

/-- Instances are taken for values one by one. -/
theorem Instance.ofValues_eq_ok_iff {className : String} {values : List Value}
    {instances : List Instance} :
    Instance.ofValues className values = .ok instances ↔
      List.Forall₂ (fun value i => Instance.ofValue className value = .ok i) values instances := by
  induction values generalizing instances with
  | nil =>
      rw [Instance.ofValues, List.forall₂_nil_left_iff]
      exact ⟨fun h => (Except.ok.inj h).symm, fun h => by rw [h]⟩
  | cons value rest ih =>
      rw [Instance.ofValues, bind₂_eq_ok_iff, List.forall₂_cons_left_iff]
      constructor
      · rintro ⟨i, others, hi, hothers, rfl⟩
        exact ⟨i, others, hi, ih.1 hothers, rfl⟩
      · rintro ⟨i, others, hi, hothers, rfl⟩
        exact ⟨i, others, hi, ih.2 hothers, rfl⟩

/-- The credentials of parameters are read off one by one, where they are needed. -/
theorem credentialsOf_eq_ok_iff {parameters : List (String × Parameter)}
    {credentials : List Credential} :
    credentialsOf parameters = .ok credentials ↔
      List.Forall₂ (fun parameter c => Credential.ofValue parameter.1 parameter.2.value = .ok c)
        (parameters.filter fun parameter => parameter.2.needsCredential) credentials := by
  induction parameters generalizing credentials with
  | nil =>
      rw [credentialsOf, List.filter_nil, List.forall₂_nil_left_iff]
      exact ⟨fun h => (Except.ok.inj h).symm, fun h => by rw [h]⟩
  | cons parameter rest ih =>
      obtain ⟨property, p⟩ := parameter
      rw [credentialsOf, List.filter_cons]
      cases hneeds : p.needsCredential with
      | false => exact ih
      | true =>
          rw [if_pos rfl, if_pos rfl, bind₂_eq_ok_iff, List.forall₂_cons_left_iff]
          constructor
          · rintro ⟨c, others, hc, hothers, rfl⟩
            exact ⟨c, others, hc, ih.1 hothers, rfl⟩
          · rintro ⟨c, others, hc, hothers, rfl⟩
            exact ⟨c, others, hc, ih.2 hothers, rfl⟩

/-- The instances that parameters embed are taken parameter by parameter. -/
theorem instancesOf_eq_ok_iff {parameters : List (String × Parameter)}
    {instances : List Instance} :
    instancesOf parameters = .ok instances ↔
      ∃ owns, List.Forall₂ (fun parameter own => parameter.2.instances = .ok own)
        (parameters.filter fun parameter => parameter.2.needsInstances) owns ∧
        owns.flatten = instances := by
  induction parameters generalizing instances with
  | nil =>
      constructor
      · exact fun h => ⟨[], .nil, Except.ok.inj h⟩
      · rintro ⟨owns, hall, rfl⟩
        cases hall
        rfl
  | cons parameter rest ih =>
      obtain ⟨property, p⟩ := parameter
      rw [instancesOf, List.filter_cons]
      cases hneeds : p.needsInstances with
      | false => exact ih
      | true =>
          rw [if_pos rfl, if_pos rfl, bind₂_eq_ok_iff]
          constructor
          · rintro ⟨own, others, hown, hothers, rfl⟩
            obtain ⟨owns, hall, rfl⟩ := ih.1 hothers
            exact ⟨own :: owns, .cons hown hall, List.flatten_cons⟩
          · rintro ⟨_, hall, rfl⟩
            cases hall with
            | @cons _ own _ owns hown hrest =>
                exact ⟨own, owns.flatten, hown, ih.2 ⟨owns, hrest, rfl⟩, List.flatten_cons.symm⟩

/-- Each credential that is needed is among those of the parameters. -/
theorem exists_credential {parameters : List (String × Parameter)} {credentials : List Credential}
    (h : credentialsOf parameters = .ok credentials) {property : String} {p : Parameter}
    (hmem : (property, p) ∈ parameters) (hneeds : p.needsCredential = true) :
    ∃ c ∈ credentials, Credential.ofValue property p.value = .ok c :=
  exists_of_forall₂ (credentialsOf_eq_ok_iff.1 h) (property, p) (List.mem_filter.2 ⟨hmem, hneeds⟩)

/-- Each credential is that of a parameter which needs it. -/
theorem exists_of_mem_credentialsOf {parameters : List (String × Parameter)}
    {credentials : List Credential} (h : credentialsOf parameters = .ok credentials) :
    ∀ c ∈ credentials, ∃ parameter ∈ parameters, parameter.2.needsCredential = true ∧
      Credential.ofValue parameter.1 parameter.2.value = .ok c := by
  intro c hc
  obtain ⟨parameter, hmem, hvalue⟩ := exists_of_forall₂ (credentialsOf_eq_ok_iff.1 h).flip c hc
  obtain ⟨hmem, hneeds⟩ := List.mem_filter.1 hmem
  exact ⟨parameter, hmem, hneeds, hvalue⟩

/-- The instances that a parameter embeds are among those of the parameters. -/
theorem exists_instances {parameters : List (String × Parameter)} {instances : List Instance}
    (h : instancesOf parameters = .ok instances) {property : String} {p : Parameter}
    (hmem : (property, p) ∈ parameters) (hneeds : p.needsInstances = true) :
    ∃ own, p.instances = .ok own ∧ ∀ i ∈ own, i ∈ instances := by
  obtain ⟨owns, hall, rfl⟩ := instancesOf_eq_ok_iff.1 h
  obtain ⟨own, hown, hinstances⟩ :=
    exists_of_forall₂ hall (property, p) (List.mem_filter.2 ⟨hmem, hneeds⟩)
  exact ⟨own, hinstances, fun i hi => List.mem_flatten.2 ⟨own, hown, hi⟩⟩

/-- Each embedded instance is one of a parameter. -/
theorem exists_of_mem_instancesOf {parameters : List (String × Parameter)}
    {instances : List Instance} (h : instancesOf parameters = .ok instances) :
    ∀ i ∈ instances, ∃ parameter ∈ parameters, parameter.2.needsInstances = true ∧ ∃ own,
      parameter.2.instances = .ok own ∧ i ∈ own := by
  obtain ⟨owns, hall, rfl⟩ := instancesOf_eq_ok_iff.1 h
  intro i hi
  obtain ⟨own, hown, hi⟩ := List.mem_flatten.1 hi
  obtain ⟨parameter, hmem, hinstances⟩ := exists_of_forall₂ hall.flip own hown
  obtain ⟨hmem, hneeds⟩ := List.mem_filter.1 hmem
  exact ⟨parameter, hmem, hneeds, own, hinstances, hi⟩

/-- When the credentials and the instances of the parameters can be built, every
parameter can be written. -/
theorem exists_parameterEntries {parameters : List (String × Parameter)}
    {credentials : List Credential} {instances : List Instance}
    (hc : credentialsOf parameters = .ok credentials) (hi : instancesOf parameters = .ok instances)
    (pool : Pool) : ∃ entries, parameterEntries pool parameters = .ok entries := by
  have hown : ∀ parameter ∈ parameters, ∃ entry, IsEntryOf pool parameter entry := by
    rintro ⟨property, p⟩ hmem
    obtain ⟨e, he⟩ : ∃ e, p.ownExpr property = .ok e := by
      rw [Parameter.ownExpr]
      split
      · next hneeds =>
        obtain ⟨c, -, hvalue⟩ := exists_credential hc hmem hneeds
        exact ⟨c.toExpr, by rw [hvalue]; rfl⟩
      · split
        · next hneeds =>
          obtain ⟨own, hown, -⟩ := exists_instances hi hmem hneeds
          exact ⟨p.embeddedExpr own, by rw [hown]; rfl⟩
        · exact ⟨_, rfl⟩
    exact ⟨(.bare (bareProperty property), if p.isShared then pool.replace e else e),
      rfl, by rw [Parameter.toExpr_eq, he]; rfl⟩
  choose! entryOf hentry using hown
  exact ⟨parameters.map entryOf, parameterEntries_eq_ok_iff.2
    (List.forall₂_map_right_iff.2 (List.forall₂_same.2 hentry))⟩

theorem writeAssignment_congr {first second : Expr} (h : first.write = second.write) :
    writeAssignment first = writeAssignment second := by
  unfold writeAssignment
  rw [h]

namespace Invocation

/-- The block around a table of properties. -/
def blockOf (inv : Invocation) (properties : List (Key × Expr)) : Expr :=
  .bareTable [
    ("Name", .text inv.friendlyName),
    ("Method", .text inv.method.name),
    ("Property", .table properties),
    ("ModuleName", inv.moduleExpr)]

theorem toExpr_eq_ok_iff {pool : Pool} {inv : Invocation} {block : Expr} :
    inv.toExpr pool = .ok block ↔
      ∃ entries, parameterEntries pool inv.parameters.entries = .ok entries ∧
        block = inv.blockOf entries := by
  rw [toExpr]
  cases parameterEntries pool inv.parameters.entries with
  | error e => exact ⟨fun h => (nomatch h), fun ⟨_, h, _⟩ => (nomatch h)⟩
  | ok entries =>
      constructor
      · intro h
        exact ⟨entries, rfl, (Except.ok.inj h).symm⟩
      · rintro ⟨_, h, rfl⟩
        cases h
        rfl

/-- What can be built can be written, whatever the names are. -/
theorem exists_script {inv : Invocation} {credentials : List Credential}
    {instances : List Instance} (hc : credentialsOf inv.parameters.entries = .ok credentials)
    (hi : instancesOf inv.parameters.entries = .ok instances) (source : NameSource) :
    ∃ script, inv.script source = .ok script := by
  rw [script_eq, hc, hi]
  obtain ⟨entries, hentries⟩ := exists_parameterEntries hc hi
    (((Pool.empty source).declareAll (credentials.map .credential)).2.declareAll
      (withNested instances)).2
  change ∃ script, (inv.toExpr _ >>= _) = _
  rw [toExpr_eq_ok_iff.2 ⟨entries, hentries, rfl⟩]
  exact ⟨_, rfl⟩

theorem references_moduleExpr (inv : Invocation) : inv.moduleExpr.references = [] := by
  rw [moduleExpr]
  cases inv.moduleVersion? <;> rfl

theorem references_blockOf (inv : Invocation) (properties : List (Key × Expr)) :
    (inv.blockOf properties).references = (Expr.table properties).references := by
  rw [blockOf, Expr.bareTable, Expr.references_table]
  simp [Expr.references, references_moduleExpr]

/-- A credential that occurs once more below an embedded rule, next to an instance
of its own. -/
def sample : Invocation where
  name := "dsc_test"
  friendlyName := "Test"
  resourceName := "MSFT_Test"
  moduleName := "TestDsc"
  moduleVersion? := none
  method := .set
  parameters := {
    entries := [
      ("dsc_user", ⟨.map [("user", .string "u"), ("password", .secret "it's")],
        ⟨"PSCredential"⟩, false⟩),
      ("dsc_rules", ⟨.array [.map [
        ("inner", .array [.instanceOf "Leaf" []]),
        ("login", .map [("user", .string "u"), ("password", .secret "it's")])]],
        ⟨"Rule[]"⟩, true⟩)]
    nodup := by decide }
  modulesPath := "/opt/dsc"

theorem exists_script_sample :
    ∃ script, sample.script (NameSource.ofList []) = .ok script := by
  have hok : (sample.script (NameSource.ofList [])).isOk = true := by decide +kernel
  cases h : sample.script (NameSource.ofList []) with
  | error e => rw [h] at hok; cases hok
  | ok script => exact ⟨script, rfl⟩

end Invocation

end DesiredState
