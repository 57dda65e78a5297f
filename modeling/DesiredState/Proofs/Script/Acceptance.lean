import DesiredState.Proofs.Script.Block

/-!
# When there is a script

Three passes over the parameters can fail: over the credentials, over the embedded values,
and over the properties of the block.  The last one takes what the first two have taken
before, so it does not fail where these do not.

So there is a script exactly if every credential has a user and a password and every
embedded value is a map or an instance.  Else the failure is that of the first credential
without them, and if there is none, that of the first embedded value of another kind.

## Main definitions

* `failure?` — the failure that an outcome is.
* `Value.isCredential`, `Value.isTable` — what can be read off as a credential, and as an
  instance.
* `embeddedOf` — the embedded values of parameters, with the class that is declared.

## Main results

* `Invocation.failure?_script` — the failure of a script is one of the first two passes.
* `failure?_credentialsOf`, `failure?_instancesOf` — the failures of these passes.
* `Invocation.script_outcome` — when there is a script, and the failure if there is none.
-/

namespace DesiredState

/-! ## Failures of steps -/

/-- The failure that an outcome is, if it is one. -/
def failure? {α : Type} : Except Error α → Option Error
  | .ok _ => none
  | .error e => some e

theorem failure?_eq_some_iff {α : Type} {a : Except Error α} {e : Error} :
    failure? a = some e ↔ a = .error e := by
  cases a <;> simp [failure?]

theorem failure?_eq_none_iff {α : Type} {a : Except Error α} :
    failure? a = none ↔ ∃ x, a = .ok x := by
  cases a <;> simp [failure?]

theorem failure?_map {α β : Type} (g : α → β) (a : Except Error α) :
    failure? (a.map g) = failure? a := by
  cases a <;> rfl

/-- Of two steps the first failure counts. -/
theorem failure?_bind {α β γ : Type} (a : Except Error α) (b : Except Error β) (g : α → β → γ) :
    failure? (do
      let x ← a
      let y ← b
      pure (g x y)) = (failure? a).or (failure? b) := by
  cases a <;> cases b <;> rfl

/-- A script fails only where a credential or an instance can not be read off. -/
theorem Invocation.failure?_script (source : NameSource) (inv : Invocation) :
    failure? (inv.script source) = (failure? (credentialsOf inv.parameters.entries)).or
      (failure? (instancesOf inv.parameters.entries)) := by
  cases hc : credentialsOf inv.parameters.entries with
  | error e =>
      rw [script_eq, hc]
      rfl
  | ok credentials =>
      cases hi : instancesOf inv.parameters.entries with
      | error e =>
          rw [script_eq, hc, hi]
          rfl
      | ok instances =>
          obtain ⟨script, hscript⟩ := exists_script hc hi source
          rw [hscript]
          rfl

/-! ## Values that can be read off -/

namespace Value

/-- Whether a value is a text. -/
def isText : Value → Bool
  | string _ => true
  | _ => false

/-- Whether a value is a secret. -/
def isSecret : Value → Bool
  | secret _ => true
  | _ => false

/-- Whether a value is a map or an instance. -/
def isTable : Value → Bool
  | map _ | instanceOf _ _ => true
  | _ => false

/-- Whether a value is a map or an instance with a text as user, and with a secret or a
text as password. -/
def isCredential (v : Value) : Bool :=
  v.isTable && (v.get? "user").any isText &&
    (v.get? "password").any fun password => password.isSecret || password.isText

/-- Only maps and instances have keys. -/
theorem isTable_of_get? {v w : Value} {key : String} (h : v.get? key = some w) :
    v.isTable = true := by
  cases v with
  | map entries => rfl
  | instanceOf className properties => rfl
  | _ => cases h

end Value

/-- A credential is read off a value that is one, and nothing else. -/
theorem Credential.failure?_ofValue (property : String) (v : Value) :
    failure? (ofValue property v) =
      if v.isCredential then none else some (.invalidCredential property) := by
  rw [ofValue, Value.isCredential]
  cases huser : v.get? "user" with
  | none => simp [failure?]
  | some user =>
      rw [Value.isTable_of_get? huser]
      cases user with
      | string u =>
          cases v.get? "password" with
          | none => rfl
          | some password => cases password <;> rfl
      | _ => rfl

/-- An instance is read off a map or an instance, and nothing else. -/
theorem Instance.failure?_ofValue (className : String) (v : Value) :
    failure? (ofValue className v) = if v.isTable then none else
      some (.unsupportedValue ("embedded " ++ className) (String.ofList v.describe)) := by
  cases v <;> rfl

/-! ## First failures -/

/-- The embedded values of parameters in their order, each with the class that is declared
for it. -/
def embeddedOf (parameters : List (String × Parameter)) : List (String × Value) :=
  parameters.flatMap fun parameter =>
    if parameter.2.needsInstances then
      parameter.2.embeddedValues.map (parameter.2.type.elementType, ·)
    else []

/-- Whether a parameter is to be a credential, but its value is none. -/
def Parameter.lacksCredential (p : Parameter) : Bool :=
  p.needsCredential && !p.value.isCredential

/-- Of credentials the first failure counts. -/
theorem failure?_credentialsOf (parameters : List (String × Parameter)) :
    failure? (credentialsOf parameters) =
      (parameters.find? fun parameter => parameter.2.lacksCredential).map fun parameter =>
        .invalidCredential parameter.1 := by
  induction parameters with
  | nil => rfl
  | cons parameter rest ih =>
      obtain ⟨property, p⟩ := parameter
      rw [credentialsOf, List.find?_cons, Parameter.lacksCredential]
      cases hneeds : p.needsCredential with
      | false => exact ih
      | true =>
          rw [if_pos rfl, failure?_bind, Credential.failure?_ofValue, ih]
          cases p.value.isCredential <;> rfl

/-- Of embedded values the first failure counts. -/
theorem Instance.failure?_ofValues (className : String) (values : List Value) :
    failure? (ofValues className values) = (values.find? fun v => !v.isTable).map fun v =>
      .unsupportedValue ("embedded " ++ className) (String.ofList v.describe) := by
  induction values with
  | nil => rfl
  | cons value rest ih =>
      rw [ofValues, failure?_bind, failure?_ofValue, ih, List.find?_cons]
      cases value.isTable <;> rfl

theorem failure?_instancesOf (parameters : List (String × Parameter)) :
    failure? (instancesOf parameters) =
      ((embeddedOf parameters).find? fun embedded => !embedded.2.isTable).map fun embedded =>
        .unsupportedValue ("embedded " ++ embedded.1) (String.ofList embedded.2.describe) := by
  induction parameters with
  | nil => rfl
  | cons parameter rest ih =>
      obtain ⟨property, p⟩ := parameter
      rw [instancesOf, embeddedOf, List.flatMap_cons, ← embeddedOf]
      cases hneeds : p.needsInstances with
      | false => exact ih
      | true =>
          rw [if_pos rfl, if_pos rfl, failure?_bind, Parameter.instances,
            Instance.failure?_ofValues, ih, List.find?_append, List.find?_map, Option.map_or,
            Option.map_map]
          rfl

/-- The embedded values are those of the parameters that need instances. -/
theorem mem_embeddedOf_iff {parameters : List (String × Parameter)} {className : String}
    {v : Value} : (className, v) ∈ embeddedOf parameters ↔
      ∃ parameter ∈ parameters, parameter.2.needsInstances = true ∧
        parameter.2.type.elementType = className ∧ v ∈ parameter.2.embeddedValues := by
  rw [embeddedOf, List.mem_flatMap]
  refine exists_congr fun parameter => and_congr_right fun _ => ?_
  cases parameter.2.needsInstances with
  | false => simp
  | true => simp [and_comm]

namespace Invocation

/-- No failure is left where no credential is lacking and only maps and instances are
embedded. -/
theorem failure?_script_eq_none_iff {source : NameSource} {inv : Invocation} :
    failure? (inv.script source) = none ↔
      (∀ parameter ∈ inv.parameters.entries, parameter.2.needsCredential = true →
        parameter.2.value.isCredential = true) ∧
      ∀ parameter ∈ inv.parameters.entries, parameter.2.needsInstances = true →
        ∀ v ∈ parameter.2.embeddedValues, v.isTable = true := by
  rw [failure?_script, Option.or_eq_none_iff, failure?_credentialsOf, failure?_instancesOf,
    Option.map_eq_none_iff, Option.map_eq_none_iff, List.find?_eq_none, List.find?_eq_none]
  refine and_congr ?_ ?_
  · refine forall₂_congr fun parameter _ => ?_
    simp [Parameter.lacksCredential]
  · constructor
    · intro h parameter hmem hneeds v hv
      simpa using h _ (mem_embeddedOf_iff.2 ⟨parameter, hmem, hneeds, rfl, hv⟩)
    · rintro h ⟨className, v⟩ hmem
      obtain ⟨parameter, hmem, hneeds, -, hv⟩ := mem_embeddedOf_iff.1 hmem
      simpa using h parameter hmem hneeds v hv

/-- There is a script exactly if every parameter that is to be a credential is one and
every embedded value is a map or an instance.  The failure is that of the first parameter
without a credential, in the order of the parameters.  If there is none, it is that of the
first embedded value of another kind, in the order of the parameters and of the items in
them. -/
theorem script_outcome (source : NameSource) (inv : Invocation) :
    ((∃ script, inv.script source = .ok script) ↔
      (∀ parameter ∈ inv.parameters.entries, parameter.2.needsCredential = true →
        parameter.2.value.isCredential = true) ∧
      ∀ parameter ∈ inv.parameters.entries, parameter.2.needsInstances = true →
        ∀ v ∈ parameter.2.embeddedValues, v.isTable = true) ∧
    ∀ e, inv.script source = .error e ↔
      (∃ property p,
        inv.parameters.entries.find? (fun parameter => parameter.2.lacksCredential) =
          some (property, p) ∧ e = .invalidCredential property) ∨
      inv.parameters.entries.find? (fun parameter => parameter.2.lacksCredential) = none ∧
        ∃ className v, (embeddedOf inv.parameters.entries).find?
            (fun embedded => !embedded.2.isTable) = some (className, v) ∧
          e = .unsupportedValue ("embedded " ++ className) (String.ofList v.describe) := by
  refine ⟨failure?_eq_none_iff.symm.trans failure?_script_eq_none_iff, fun e => ?_⟩
  rw [← failure?_eq_some_iff, failure?_script, Option.or_eq_some_iff, failure?_credentialsOf,
    failure?_instancesOf, Option.map_eq_none_iff, Option.map_eq_some_iff, Option.map_eq_some_iff]
  refine or_congr ?_ (and_congr_right fun _ => ?_)
  · constructor
    · rintro ⟨⟨property, p⟩, hfound, rfl⟩
      exact ⟨property, p, hfound, rfl⟩
    · rintro ⟨property, p, hfound, rfl⟩
      exact ⟨(property, p), hfound, rfl⟩
  · constructor
    · rintro ⟨⟨className, v⟩, hfound, rfl⟩
      exact ⟨className, v, hfound, rfl⟩
    · rintro ⟨className, v, hfound, rfl⟩
      exact ⟨(className, v), hfound, rfl⟩

/-- A credential without a password comes before a text that is embedded further up. -/
example :
    ({ sample with parameters := {
        entries := [
          ("dsc_rule", ⟨.string "x", ⟨"Rule"⟩, true⟩),
          ("dsc_user", ⟨.map [("user", .string "u")], ⟨"PSCredential"⟩, false⟩)]
        nodup := by decide } } : Invocation).script (NameSource.ofList []) =
      .error (.invalidCredential "dsc_user") := by
  rfl

end Invocation

end DesiredState
