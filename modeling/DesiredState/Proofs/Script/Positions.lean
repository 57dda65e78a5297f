import DesiredState.Proofs.Script.Payloads

/-!
# Credentials and embedded instances in the parameter block

The statements are made from the values of the parameters, and so is the block, which asks
the pool under texts that it makes anew.  Both take the same credentials and instances from
a value, so once all statements are made nothing in the block is missing.

A property that is a credential is then the variable of the credential, and one that is
embedded is the variable of its instance, or for an array type an array with one variable
for each instance.  Nothing of the values is left there, so no password is.

## Main definitions

* `Script.NamesInstance` — a variable is assigned the instance of a value.
* `Script.RefersFor` — what an entry of the table of properties is.

## Main results

* `Invocation.Run.eq_of_needsCredential`, `Invocation.Run.exists_of_needsInstances` — the
  entries of credentials and of embedded parameters.
* `Invocation.refers_parameters` — the block after the statements.
-/

namespace DesiredState

/-- Whether an expression has no text of its own: it is a variable, an array or a cast. -/
def Expr.isReferring : Expr → Bool
  | .variableRef _ | .array _ | .cast _ _ => true
  | _ => false

namespace Script

/-- A statement of a script assigns a variable, and constructs the instance that is taken
for a value. -/
def NamesInstance (script : Script) (className : String) (value : Value) (name : String) : Prop :=
  ∃ i, Instance.ofValue className value = .ok i ∧
    ∃ s ∈ script.instances, s.assigned = name ∧ script.Constructs s (.instanceOf i)

/-- An expression refers to what a script has built for a parameter.  A credential takes
precedence over embedded instances. -/
structure RefersFor (script : Script) (property : String) (p : Parameter) (e : Expr) : Prop where
  credential : p.needsCredential = true →
    ∃ c name, Credential.ofValue property p.value = .ok c ∧
      .newCredential name c ∈ script.credentials ∧ e = .variableRef name
  single : p.needsCredential = false → p.needsInstances = true → p.type.isArray = false →
    ∃ name, script.NamesInstance p.type.elementType p.value name ∧ e = .variableRef name
  several : p.needsCredential = false → p.needsInstances = true → p.type.isArray = true →
    ∃ names, List.Forall₂ (script.NamesInstance p.type.elementType) p.embeddedValues names ∧
      e = .cast instanceArrayType (.array (names.map .variableRef))

/-- Where an expression refers to what was built, nothing of the value is written out. -/
theorem RefersFor.isReferring {script : Script} {property : String} {p : Parameter} {e : Expr}
    (h : script.RefersFor property p e) (hshared : p.isShared = true) :
    ∀ node ∈ e.nodes, node.isReferring = true := by
  have hvariable : ∀ name, ∀ node ∈ (Expr.variableRef name).nodes, node.isReferring = true :=
    fun _ _ hnode => by rw [List.mem_singleton.1 hnode, Expr.isReferring]
  cases hcredential : p.needsCredential with
  | true =>
      obtain ⟨c, name, -, -, rfl⟩ := h.credential hcredential
      exact hvariable name
  | false =>
      rw [Parameter.isShared, hcredential, Bool.false_or] at hshared
      cases harray : p.type.isArray with
      | false =>
          obtain ⟨name, -, rfl⟩ := h.single hcredential hshared harray
          exact hvariable name
      | true =>
          obtain ⟨names, -, rfl⟩ := h.several hcredential hshared harray
          rw [Expr.nodes, Expr.nodes_array, List.flatMap_map]
          refine List.forall_mem_cons.2 ⟨rfl, List.forall_mem_cons.2 ⟨rfl, fun node hnode => ?_⟩⟩
          obtain ⟨name, -, hnode⟩ := List.mem_flatMap.1 hnode
          exact hvariable name node hnode

end Script

namespace Invocation

variable {source : NameSource} {inv : Invocation} {script : Script} {built : List Credential}
  {embedded : List Instance} {first second : Pool} {property : String} {p : Parameter}
  {entry : Key × Expr}

namespace Run

/-- The entry of a parameter that is a credential is the variable of the credential. -/
theorem eq_of_needsCredential (h : inv.Run source script built embedded first second)
    (hmem : (property, p) ∈ inv.parameters.entries) (hneeds : p.needsCredential = true)
    (hentry : IsEntryOf second (property, p) entry) :
    ∃ c name, Credential.ofValue property p.value = .ok c ∧
      script.credentialName? c = some name ∧ entry.2 = .variableRef name := by
  obtain ⟨e, hexpr, hvalue⟩ := hentry.exists_own
  obtain ⟨c, hc, hofValue⟩ := exists_credential h.credentialsOf_eq hmem hneeds
  obtain ⟨name, hname⟩ := exists_lookup?_credential h.declare_credentials c hc
  refine ⟨c, name, hofValue, (h.lookup?_credential c).symm.trans hname, ?_⟩
  rw [Parameter.ownExpr, if_pos hneeds, hofValue] at hexpr
  rw [hvalue, Parameter.isShared, hneeds, Bool.true_or, if_pos rfl, ← Except.ok.inj hexpr]
  exact Pool.replace_of_lookup? rfl (h.lookup?_of_first hname)

/-- The instances of an embedded parameter have variables, one for each value. -/
theorem exists_namesInstance (h : inv.Run source script built embedded first second)
    (hmem : (property, p) ∈ inv.parameters.entries) (hneeds : p.needsInstances = true) :
    ∃ own nameOf, p.instances = .ok own ∧
      (∀ i ∈ own, second.lookup? i.toExpr.render = some (nameOf i)) ∧
      List.Forall₂ (script.NamesInstance p.type.elementType) p.embeddedValues
        (own.map nameOf) := by
  obtain ⟨own, hown, hsub⟩ := exists_instances h.instancesOf_eq hmem hneeds
  obtain ⟨nameOf, hnames⟩ := h.exists_names
  have hinner : ∀ i ∈ own, i ∈ embedded.flatMap fun i => i.toValue.instances := fun i hi =>
    List.mem_flatMap.2 ⟨i, hsub i hi, Value.mem_instances_iff.2 (.inl rfl)⟩
  refine ⟨own, nameOf, hown, fun i hi => hnames i (hinner i hi), ?_⟩
  rw [List.forall₂_map_right_iff]
  -- only what is built for the parameter is known to have a statement
  have hvalues := forall₂_with_mem (Instance.ofValues_eq_ok_iff.1 hown).flip
  refine hvalues.flip.imp ?_
  rintro value i ⟨hi, hofValue⟩
  obtain ⟨s, hs, hname, hconstructs⟩ := h.exists_instance (hinner i hi)
  exact ⟨i, hofValue, s, hs, Option.some.inj (hname.symm.trans (hnames i (hinner i hi))),
    hconstructs⟩

/-- The entry of a parameter that is embedded, and not a credential, consists of the variables
of its instances. -/
theorem exists_of_needsInstances (h : inv.Run source script built embedded first second)
    (hmem : (property, p) ∈ inv.parameters.entries) (hneeds : p.needsInstances = true)
    (hother : p.needsCredential = false) (hentry : IsEntryOf second (property, p) entry) :
    ∃ names, List.Forall₂ (script.NamesInstance p.type.elementType) p.embeddedValues names ∧
      (p.type.isArray = true →
        entry.2 = .cast instanceArrayType (.array (names.map .variableRef))) ∧
      (p.type.isArray = false → ∃ name, names = [name] ∧ entry.2 = .variableRef name) := by
  obtain ⟨e, hexpr, hvalue⟩ := hentry.exists_own
  obtain ⟨own, nameOf, hown, hnames, hforall⟩ := h.exists_namesInstance hmem hneeds
  rw [Parameter.ownExpr, hother, if_neg Bool.false_ne_true, if_pos hneeds, hown] at hexpr
  rw [Parameter.isShared, hneeds, Bool.or_true, if_pos rfl, ← Except.ok.inj hexpr] at hvalue
  obtain ⟨hseveral, hsingle⟩ := h.kinds_second.replace_embeddedExpr hown hnames
  refine ⟨own.map nameOf, hforall, fun harray => hvalue.trans (hseveral harray), ?_⟩
  intro harray
  obtain ⟨i, rfl, heq⟩ := hsingle harray
  exact ⟨nameOf i, rfl, hvalue.trans heq⟩

/-- Every entry refers to what was built for its parameter. -/
theorem refersFor (h : inv.Run source script built embedded first second)
    (hmem : (property, p) ∈ inv.parameters.entries)
    (hentry : IsEntryOf second (property, p) entry) : script.RefersFor property p entry.2 where
  credential := by
    intro hneeds
    obtain ⟨c, name, hofValue, hname, heq⟩ := h.eq_of_needsCredential hmem hneeds hentry
    exact ⟨c, name, hofValue, mem_of_credentialName? hname, heq⟩
  single := by
    intro hother hneeds harray
    obtain ⟨names, hforall, -, hone⟩ := h.exists_of_needsInstances hmem hneeds hother hentry
    obtain ⟨name, rfl, heq⟩ := hone harray
    rw [Parameter.embeddedValues_of_not_isArray harray, List.forall₂_cons] at hforall
    exact ⟨name, hforall.1, heq⟩
  several := by
    intro hother hneeds harray
    obtain ⟨names, hforall, hall, -⟩ := h.exists_of_needsInstances hmem hneeds hother hentry
    exact ⟨names, hforall, hall harray⟩

end Run

/-- After the statements for credentials and instances the block can be made.  In its table
of properties each credential is the variable of a statement that builds it, and each other
embedded parameter is the variable of its instance, or the array of the variables of its
instances in their order.  In these positions nothing of a value is written out. -/
theorem refers_parameters {credentials instances : List Statement}
    (hcredentials : declareCredentials inv.parameters.entries (Pool.empty source) =
      (.ok credentials, first))
    (hinstances : declareInstances inv.parameters.entries first = (.ok instances, second)) :
    ∃ entries, inv.toExpr second = .ok (inv.blockOf entries) ∧
      List.Forall₂ (fun parameter entry => entry.1 = .bare (bareProperty parameter.1) ∧
        Script.RefersFor ⟨credentials, instances, inv.blockOf entries⟩
          parameter.1 parameter.2 entry.2 ∧
        (parameter.2.isShared = true → ∀ node ∈ entry.2.nodes, node.isReferring = true))
        inv.parameters.entries entries := by
  obtain ⟨block, built, embedded, -, hrun⟩ := exists_run_of_builders hcredentials hinstances
  obtain ⟨entries, hentries, rfl⟩ := toExpr_eq_ok_iff.1 hrun.toExpr_eq
  refine ⟨entries, hrun.toExpr_eq, ?_⟩
  have hforall := forall₂_with_mem (parameterEntries_eq_ok_iff.1 hentries)
  refine hforall.imp fun parameter entry h => ?_
  have hrefers := hrun.refersFor h.1 h.2
  exact ⟨h.2.1, hrefers, hrefers.isReferring⟩

/-- A credential that is embedded as well, an instance with a class of its own, and a single
value for an array type. -/
def mixed : Invocation :=
  let login : Value := .map [("user", .string "u"), ("password", .secret "p")]
  { sample with
    parameters := {
      entries := [
        ("dsc_user", ⟨login, ⟨"PSCredential"⟩, true⟩),
        ("dsc_rule", ⟨.instanceOf "Leaf" [("login", login)], ⟨"Rule"⟩, true⟩),
        ("dsc_rules", ⟨.map [("weight", .int 1)], ⟨"Rule[]"⟩, true⟩)]
      nodup := by decide } }

/-- The credential and the instance are one variable each, and the single value is an array
with one. -/
theorem refers_parameters_mixed :
    ∃ (script : Script) (first second : Pool) (user rule other : String),
      declareCredentials mixed.parameters.entries (Pool.empty (NameSource.ofList [])) =
        (.ok script.credentials, first) ∧
      declareInstances mixed.parameters.entries first = (.ok script.instances, second) ∧
      mixed.toExpr second = .ok (mixed.blockOf [
        (.bare "user", .variableRef user),
        (.bare "rule", .variableRef rule),
        (.bare "rules", .cast instanceArrayType (.array [.variableRef other]))]) := by
  have hok : (mixed.script (NameSource.ofList [])).isOk = true := by decide +kernel
  cases hscript : mixed.script (NameSource.ofList []) with
  | error e =>
      rw [hscript] at hok
      cases hok
  | ok script =>
      obtain ⟨first, second, hfirst, hsecond⟩ := exists_builders hscript
      obtain ⟨entries, hblock, hentries⟩ := refers_parameters hfirst hsecond
      obtain ⟨⟨key, e⟩, rest, ⟨huser, hrefers, -⟩, hentries, rfl⟩ :=
        List.forall₂_cons_left_iff.1 hentries
      obtain ⟨-, user, -, -, rfl⟩ := hrefers.credential (by decide)
      obtain ⟨⟨key, e⟩, rest, ⟨hrule, hrefers, -⟩, hentries, rfl⟩ :=
        List.forall₂_cons_left_iff.1 hentries
      obtain ⟨rule, -, rfl⟩ := hrefers.single (by decide) (by decide) (by decide)
      obtain ⟨⟨key, e⟩, rest, ⟨hrules, hrefers, -⟩, hentries, rfl⟩ :=
        List.forall₂_cons_left_iff.1 hentries
      obtain ⟨names, hnames, rfl⟩ := hrefers.several (by decide) (by decide) (by decide)
      obtain ⟨other, names, -, hnames, rfl⟩ := List.forall₂_cons_left_iff.1 hnames
      obtain rfl := List.forall₂_nil_left_iff.1 hnames
      obtain rfl := List.forall₂_nil_left_iff.1 hentries
      obtain rfl := huser
      obtain rfl := hrule
      obtain rfl := hrules
      exact ⟨script, first, second, user, rule, other, hfirst, hsecond, hblock⟩

end Invocation

end DesiredState
