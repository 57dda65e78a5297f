import DesiredState.Proofs.Literal.Identity
import DesiredState.Proofs.Script.Inlining
import DesiredState.Proofs.Script.Order
import DesiredState.Proofs.Script.Registering

/-!
# One statement for each value

The pool compares texts.  Where the texts of the credentials and instances that are
built tell them apart, a run makes one statement for each distinct one of them, in the
order of their first occurrence.

Credentials are told apart by their texts, and a credential never has the text of an
instance.  Instances are told apart where no map or instance in the values has the key
of the class, and where different floating-point numbers have different texts.

## Main definitions

* `Pool.Declares`, `Script.Constructs` — the credential or the instance that a statement
  was made for, and that it constructs.
* `Invocation.FloatsDiffer` — the numbers in the parameters are told apart.

## Main results

* `Pool.declareAll_eraseDups` — a run makes one statement for each distinct element.
* `Composite.credential_eq_of_text_eq`, `Composite.instance_eq_of_text_eq` — equal texts
  of equal credentials and instances.
* `Invocation.shares_exactly` — the statements of a script.
-/

namespace DesiredState

/-! ## Runs over values that are told apart -/

deriving instance DecidableEq for Composite

/-- A statement was made for a credential or an instance, which the pool knows by the
assigned variable. -/
def Pool.Declares (pool : Pool) (s : Statement) (x : Composite) : Prop :=
  (∃ current, s = x.statement current s.assigned) ∧ pool.lookup? x.text = some s.assigned

/-- Each statement of a run was made for an element of the list. -/
theorem Pool.exists_declares_of_mem (pool : Pool) (xs : List Composite) {s : Statement}
    (hs : s ∈ (pool.declareAll xs).1) : ∃ x ∈ xs, (pool.declareAll xs).2.Declares s x := by
  obtain ⟨_, _, hsplit⟩ := List.append_of_mem hs
  obtain ⟨before, x, after, rfl, -, hnone, rfl⟩ := exists_of_statement hsplit
  refine ⟨x, by simp, ⟨_, by rw [Composite.assigned_statement]⟩, ?_⟩
  rw [Composite.assigned_statement, declareAll_append, Pool.declareAll, declare_of_none hnone]
  exact lookup?_declareAll_of_some (lookup?_add_self hnone) _

/-- A run makes one statement for each distinct element of a list, in the order of first
occurrence, if their texts tell the elements apart and none of them is known. -/
theorem Pool.declareAll_eraseDups (pool : Pool) (xs : List Composite)
    (hnew : ∀ x ∈ xs, pool.lookup? x.text = none)
    (hapart : ∀ x ∈ xs, ∀ y ∈ xs, x.text = y.text → x = y) :
    List.Forall₂ (pool.declareAll xs).2.Declares (pool.declareAll xs).1 xs.eraseDups := by
  -- what was built so far is what is known of the list
  refine (declareAll_run (P := fun before statements current =>
    List.Forall₂ current.Declares statements before.eraseDups ∧
      ∀ x ∈ xs, current.lookup? x.text = none ↔ x ∉ before) ?_ ?_).1
  · exact ⟨.nil, fun x hx => iff_of_true (hnew x hx) List.not_mem_nil⟩
  intro before x after statements current hxs ⟨hstatements, hknown⟩
  have hx : x ∈ xs := by rw [hxs]; simp
  cases hlookup : current.lookup? x.text with
  | some name =>
      have hbefore : x ∈ before := by
        by_contra hnot
        rw [(hknown x hx).2 hnot] at hlookup
        cases hlookup
      rw [declare_of_lookup? hlookup, List.append_nil, eraseDups_concat, if_pos hbefore]
      refine ⟨hstatements, fun y hy => (hknown y hy).trans ?_⟩
      rw [List.mem_append, List.mem_singleton, not_or]
      exact ⟨fun hnot => ⟨hnot, fun heq => hnot (heq ▸ hbefore)⟩, And.left⟩
  | none =>
      have hbefore := (hknown x hx).1 hlookup
      rw [declare_of_none hlookup, eraseDups_concat, if_neg hbefore]
      constructor
      · refine List.rel_append (hstatements.imp fun s y hs => ?_) (.cons ⟨⟨current, ?_⟩, ?_⟩ .nil)
        · exact ⟨hs.1, lookup?_add_of_some hs.2 _⟩
        · rw [Composite.assigned_statement]
        · rw [Composite.assigned_statement]
          exact lookup?_add_self hlookup
      · intro y hy
        rw [lookup?_add, Option.or_eq_none_iff, hknown y hy, List.mem_append, List.mem_singleton,
          not_or]
        refine and_congr_right fun _ => ?_
        by_cases htext : x.text = y.text
        · simp [hapart x hx y hy htext]
        · simp only [htext, if_false, true_iff]
          rintro rfl
          exact htext rfl

/-! ## Texts that tell apart -/

namespace Composite

theorem credential_injective : Function.Injective credential := fun _ _ h => credential.inj h

theorem instanceOf_injective : Function.Injective instanceOf := fun _ _ h => instanceOf.inj h

/-- Credentials with the same text are equal. -/
theorem credential_eq_of_text_eq {c d : Credential}
    (h : (credential c).text = (credential d).text) : c = d := by
  rw [text_eq, text_eq, Value.literal_eq_iff, form_credential, form_credential] at h
  simp only [Literal.table.injEq, List.cons.injEq, Prod.mk.injEq, Literal.text.injEq,
    Literal.sensitive.injEq, true_and, and_true] at h
  exact congrArg₂ Credential.mk h.1 h.2

/-- Instances without the key of the class have the same text if they are equal. -/
theorem instance_eq_of_text_eq {i j : Instance} (hi : i.toValue.ClassFree)
    (hj : j.toValue.ClassFree) (hfloats : i.toValue.FloatsDiffer j.toValue)
    (h : (instanceOf i).text = (instanceOf j).text) : i = j := by
  rw [text_eq, text_eq] at h
  have hvalues := Value.eq_of_literal_eq hi hj hfloats h
  cases i
  cases j
  obtain ⟨rfl, rfl⟩ := Value.instanceOf.inj hvalues
  rfl

end Composite

/-! ## What the parameters hold -/

/-- Instances taken for the values of parameters hold the numbers of these values. -/
theorem Instance.float_mem_ofValue {className : String} {v : Value} {i : Instance}
    (h : Instance.ofValue className v = .ok i) {x : Binary64}
    (hx : .float x ∈ i.toValue.parts) : .float x ∈ v.parts := by
  cases v with
  | instanceOf own properties =>
      obtain rfl := Except.ok.inj h
      exact hx
  | map entries =>
      obtain rfl := Except.ok.inj h
      rcases List.mem_cons.1 hx with heq | hx
      · cases heq
      · exact List.mem_cons_of_mem _ hx
  | _ => cases h

/-- The numbers in an embedded instance are numbers in the value of a parameter. -/
theorem exists_float_of_mem_instancesOf {parameters : List (String × Parameter)}
    {embedded : List Instance} (h : instancesOf parameters = .ok embedded) :
    ∀ i ∈ embedded.flatMap fun i => i.toValue.instances, ∃ parameter ∈ parameters,
      ∀ x, .float x ∈ i.toValue.parts → .float x ∈ parameter.2.value.parts := by
  intro i hi
  obtain ⟨j, hj, hi⟩ := List.mem_flatMap.1 hi
  obtain ⟨parameter, hmem, -, own, hown, hj⟩ := exists_of_mem_instancesOf h j hj
  obtain ⟨v, hv, hofValue⟩ := Instance.exists_of_mem_ofValues hown j hj
  refine ⟨parameter, hmem, fun x hx => Parameter.parts_embeddedValues v hv _ ?_⟩
  exact Instance.float_mem_ofValue hofValue
    (Value.mem_parts_trans hx (Value.toValue_mem_parts hi))

/-! ## The statements of a script -/

/-- Whether a statement builds a credential or an instance of a class. -/
def Statement.IsFor : Statement → Composite → Prop
  | newCredential _ c, .credential d => c = d
  | newInstance _ className _, .instanceOf i => className = i.className
  | _, _ => False

/-- A statement of a script constructs a credential or an instance: what it assigns is
written as its table, once the references in it are replaced by what their own
statements construct. -/
def Script.Constructs (script : Script) (s : Statement) (x : Composite) : Prop :=
  s.IsFor x ∧ ∃ rounds, ((Expr.inline script.definitions)^[rounds] s.constructed).references = [] ∧
    ((Expr.inline script.definitions)^[rounds] s.constructed).write = x.toExpr.write

theorem Composite.isFor_statement (pool : Pool) (name : String) (x : Composite) :
    (x.statement pool name).IsFor x := by
  cases x <;> rfl

/-- A statement for a credential or an instance is one for everything with the same text. -/
theorem Statement.IsFor.of_text_eq {s : Statement} {x y : Composite} (h : s.IsFor x)
    (htext : x.text = y.text) : s.IsFor y := by
  cases x with
  | credential c =>
      cases y with
      | credential d => rwa [← Composite.credential_eq_of_text_eq htext]
      | instanceOf i => exact absurd htext (Composite.text_credential_ne c i)
  | instanceOf i =>
      cases y with
      | credential c => exact absurd htext.symm (Composite.text_credential_ne c i)
      | instanceOf j =>
          rw [Composite.text_eq, Composite.text_eq, Value.literal_eq_iff,
            Composite.form_instanceOf, Composite.form_instanceOf] at htext
          obtain ⟨hclass, -⟩ := List.cons.inj (Literal.table.inj htext)
          have hname : i.className = j.className := Literal.text.inj (Prod.mk.inj hclass).2
          cases s with
          | newCredential name c => exact h
          | newInstance name className payload => exact Eq.trans h hname

/-- The run over the instances finds none of them in the pool of the credentials. -/
theorem Pool.lookup?_instance_eq_none {source : NameSource} {built : List Credential}
    {credentials : List Statement} {first : Pool}
    (hfirst : (empty source).declareAll (built.map .credential) = (credentials, first))
    (i : Instance) : first.lookup? (Composite.instanceOf i).text = none := by
  cases hlookup : first.lookup? (Composite.instanceOf i).text with
  | none => rfl
  | some name =>
      have hpool : first = ((empty source).declareAll (built.map .credential)).2 := by rw [hfirst]
      rw [hpool] at hlookup
      rcases mem_of_lookup?_declareAll hlookup with hempty | ⟨x, hx, htext⟩
      · cases hempty
      · obtain ⟨c, -, rfl⟩ := List.mem_map.1 hx
        exact absurd htext (Composite.text_credential_ne c i)

namespace Invocation

/-- Different floating-point numbers in the parameters have different texts. -/
def FloatsDiffer (inv : Invocation) : Prop :=
  ∀ first ∈ inv.parameters.entries, ∀ second ∈ inv.parameters.entries,
    first.2.value.FloatsDiffer second.2.value

section Runs

variable {source : NameSource} {inv : Invocation} {script : Script} {built : List Credential}
  {embedded : List Instance} {first second : Pool}

/-- When the credentials and the instances can be built, there is a script. -/
theorem exists_run_of_builders {credentials instances : List Statement}
    (hcredentials : declareCredentials inv.parameters.entries (Pool.empty source) =
      (.ok credentials, first))
    (hinstances : declareInstances inv.parameters.entries first = (.ok instances, second)) :
    ∃ block built embedded, inv.script source = .ok ⟨credentials, instances, block⟩ ∧
      inv.Run source ⟨credentials, instances, block⟩ built embedded first second := by
  obtain ⟨xs, hxs, hfirst⟩ := (declareCredentials_builds _).of_ok hcredentials
  obtain ⟨ys, hys, hsecond⟩ := (declareInstances_builds _).of_ok hinstances
  obtain ⟨built, hc, rfl⟩ := Builder.exists_of_map_eq_ok hxs
  obtain ⟨embedded, hi, rfl⟩ := Builder.exists_of_map_eq_ok hys
  obtain ⟨entries, hentries⟩ := exists_parameterEntries hc hi second
  have hblock := toExpr_eq_ok_iff.2 ⟨entries, hentries, rfl⟩
  refine ⟨inv.blockOf entries, built, embedded, ?_, hc, hi, hfirst, hsecond, hblock⟩
  rw [Invocation.script, build, Builder.bind_of_ok hcredentials, Builder.bind_of_ok hinstances,
    Builder.bind_of_ok (b := get) rfl, hblock]
  rfl

/-- The statements of a script are those for the credentials and for the instances. -/
theorem exists_builders (h : inv.script source = .ok script) :
    ∃ first second, declareCredentials inv.parameters.entries (Pool.empty source) =
        (.ok script.credentials, first) ∧
      declareInstances inv.parameters.entries first = (.ok script.instances, second) := by
  obtain ⟨built, embedded, first, second, hrun⟩ := exists_run h
  have hcredentials := declareCredentials_builds inv.parameters.entries
  have hinstances := declareInstances_builds inv.parameters.entries
  rw [hrun.credentialsOf_eq] at hcredentials
  rw [hrun.instancesOf_eq] at hinstances
  refine ⟨first, second, (hcredentials _).trans ?_, (hinstances _).trans ?_⟩
  · rw [hrun.declare_credentials]
  · rw [hrun.declare_instances]

namespace Run

/-- No variable is assigned twice. -/
theorem nodup (h : inv.Run source script built embedded first second) :
    ((script.credentials ++ script.instances).map Statement.assigned).Nodup := by
  have hnames := (Pool.distinct_empty source).declareAll
    (built.map .credential ++ withNested embedded)
  rw [h.declare_all] at hnames
  rw [assigned_of_declareAll h.declare_all]
  exact hnames

/-- What is known of the credentials is known in the end. -/
theorem lookup?_of_first (h : inv.Run source script built embedded first second)
    {text name : String} (hname : first.lookup? text = some name) :
    second.lookup? text = some name := by
  have hlater := Pool.lookup?_declareAll_of_some hname (withNested embedded)
  rwa [h.declare_instances] at hlater

/-- A statement constructs what it is for, if the pool knows that by its variable. -/
theorem constructs (h : inv.Run source script built embedded first second) {s : Statement}
    (hs : s ∈ script.credentials ++ script.instances) {x : Composite} (hfor : s.IsFor x)
    (hname : second.lookup? x.text = some s.assigned) : script.Constructs s x := by
  have hdefined := h.nodup
  obtain ⟨round, hknown⟩ : ∃ round, ((Pool.empty source).declareAll
      (built.map .credential ++ withNested embedded)).2.Known script.definitions round :=
    Pool.exists_known_declareAll source fun s hs =>
      Script.get?_definitions hdefined (by rwa [h.declare_all] at hs)
  rw [h.declare_all] at hknown
  have hsettled := hknown _ _ hname (round + 1) (Nat.le_succ round)
  rw [Function.iterate_succ_apply, Expr.inline, Script.get?_definitions hdefined hs,
    Option.getD_some, Composite.text, Expr.render, String.toList_ofList] at hsettled
  exact ⟨hfor, round, hsettled⟩

/-- A statement constructs what it was made for. -/
theorem constructs_of_declares (h : inv.Run source script built embedded first second)
    {s : Statement} (hs : s ∈ script.credentials ++ script.instances) {x : Composite}
    (hdeclares : second.Declares s x) : script.Constructs s x := by
  obtain ⟨⟨current, heq⟩, hname⟩ := hdeclares
  have hfor := x.isFor_statement current s.assigned
  rw [← heq] at hfor
  exact h.constructs hs hfor hname

theorem forall₂_constructs (h : inv.Run source script built embedded first second)
    {statements : List Statement} (hsub : statements ⊆ script.credentials ++ script.instances)
    {xs : List Composite} (hdeclares : List.Forall₂ second.Declares statements xs) :
    List.Forall₂ (fun s x => script.Constructs s x ∧ second.lookup? x.text = some s.assigned)
      statements xs := by
  have hboth := (List.forall₂_and_left (p := (· ∈ script.credentials ++ script.instances)) _ _).2
    ⟨fun s hs => hsub hs, hdeclares⟩
  exact hboth.imp fun s x hs => ⟨h.constructs_of_declares hs.1 hs.2, hs.2.2⟩

/-- Each instance has a statement that constructs it. -/
theorem exists_instance (h : inv.Run source script built embedded first second) {i : Instance}
    (hi : i ∈ embedded.flatMap fun i => i.toValue.instances) :
    ∃ s ∈ script.instances, second.lookup? (Composite.instanceOf i).text = some s.assigned ∧
      script.Constructs s (.instanceOf i) := by
  have hmem : Composite.instanceOf i ∈ withNested embedded := by
    rw [withNested_eq]
    exact List.mem_map_of_mem hi
  obtain ⟨name, hname⟩ := Pool.lookup?_declareAll_of_mem first hmem
  rcases Pool.exists_statement_of_lookup? hname with hold | ⟨x, -, htext, current, hs⟩
  · rw [Pool.lookup?_instance_eq_none h.declare_credentials] at hold
    cases hold
  · rw [h.declare_instances] at hs hname
    rw [← x.assigned_statement current name] at hname
    have hfor := (x.isFor_statement current name).of_text_eq htext
    exact ⟨_, hs, hname, h.constructs (List.mem_append_right _ hs) hfor hname⟩

/-- The run over the credentials makes one statement for each distinct one. -/
theorem declares_credentials (h : inv.Run source script built embedded first second) :
    List.Forall₂ first.Declares script.credentials (built.eraseDups.map .credential) := by
  have hrun := Pool.declareAll_eraseDups (Pool.empty source) (built.map .credential)
    (fun _ _ => rfl) (by
      simp only [List.forall_mem_map]
      exact fun c _ d _ htext => congrArg _ (Composite.credential_eq_of_text_eq htext))
  rwa [h.declare_credentials, eraseDups_map Composite.credential_injective] at hrun

/-- The run over the instances makes one statement for each distinct one, if their texts
tell them apart. -/
theorem declares_instances (h : inv.Run source script built embedded first second)
    (hapart : ∀ i ∈ embedded.flatMap (fun i => i.toValue.instances),
      ∀ j ∈ embedded.flatMap (fun i => i.toValue.instances),
        (Composite.instanceOf i).text = (Composite.instanceOf j).text → i = j) :
    List.Forall₂ second.Declares script.instances
      ((embedded.flatMap fun i => i.toValue.instances).eraseDups.map .instanceOf) := by
  have hsecond := h.declare_instances
  rw [withNested_eq] at hsecond
  have hrun := Pool.declareAll_eraseDups first
    ((embedded.flatMap fun i => i.toValue.instances).map .instanceOf) (by
      rw [List.forall_mem_map]
      exact fun i _ => Pool.lookup?_instance_eq_none h.declare_credentials i) (by
      simp only [List.forall_mem_map]
      exact fun i hi j hj htext => congrArg _ (hapart i hi j hj htext))
  rwa [hsecond, eraseDups_map Composite.instanceOf_injective] at hrun

/-- The embedded instances and those inside them do not have the key of the class, if the
values of the parameters do not. -/
theorem classFree (h : inv.Run source script built embedded first second)
    (hclass : ∀ parameter ∈ inv.parameters.entries, parameter.2.value.ClassFree) :
    ∀ i ∈ embedded.flatMap (fun i => i.toValue.instances), i.toValue.ClassFree := by
  intro i hmem
  obtain ⟨outer, houter, hmem⟩ := List.mem_flatMap.1 hmem
  exact (classFree_instancesOf h.instancesOf_eq hclass outer houter).instance i hmem

/-- The texts tell the embedded instances and those inside them apart. -/
theorem instances_apart (h : inv.Run source script built embedded first second)
    (hclass : ∀ parameter ∈ inv.parameters.entries, parameter.2.value.ClassFree)
    (hfloats : inv.FloatsDiffer) :
    ∀ i ∈ embedded.flatMap (fun i => i.toValue.instances),
      ∀ j ∈ embedded.flatMap (fun i => i.toValue.instances),
        (Composite.instanceOf i).text = (Composite.instanceOf j).text → i = j := by
  intro i hmem j hother
  obtain ⟨p, hp, hfirst⟩ := exists_float_of_mem_instancesOf h.instancesOf_eq i hmem
  obtain ⟨q, hq, hsecond⟩ := exists_float_of_mem_instancesOf h.instancesOf_eq j hother
  exact Composite.instance_eq_of_text_eq (h.classFree hclass i hmem) (h.classFree hclass j hother)
    fun x y hx hy => hfloats p hp q hq x y (hfirst x hx) (hsecond y hy)

end Run

end Runs

/-- A script has one statement for each distinct credential that the parameters need,
and one for each distinct instance at any depth of the values that they embed, both in
the order of first occurrence, with inner instances in front of outer ones.  No two of
them assign the same variable, so no two values share one. -/
theorem shares_exactly {source : NameSource} {inv : Invocation}
    {credentials instances : List Statement} {first second : Pool}
    (hcredentials : declareCredentials inv.parameters.entries (Pool.empty source) =
      (.ok credentials, first))
    (hinstances : declareInstances inv.parameters.entries first = (.ok instances, second))
    (hclass : ∀ parameter ∈ inv.parameters.entries, parameter.2.value.ClassFree)
    (hfloats : inv.FloatsDiffer) :
    ∃ block built embedded, inv.script source = .ok ⟨credentials, instances, block⟩ ∧
      credentialsOf inv.parameters.entries = .ok built ∧
      instancesOf inv.parameters.entries = .ok embedded ∧
      List.Forall₂ (fun s c =>
          Script.Constructs ⟨credentials, instances, block⟩ s (.credential c) ∧
            second.lookup? (Composite.credential c).text = some s.assigned)
        credentials built.eraseDups ∧
      List.Forall₂ (fun s i =>
          Script.Constructs ⟨credentials, instances, block⟩ s (.instanceOf i) ∧
            second.lookup? (Composite.instanceOf i).text = some s.assigned)
        instances (embedded.flatMap fun i => i.toValue.instances).eraseDups ∧
      ((credentials ++ instances).map Statement.assigned).Nodup := by
  obtain ⟨block, built, embedded, hscript, hrun⟩ :=
    exists_run_of_builders hcredentials hinstances
  have hfirst : List.Forall₂ second.Declares credentials (built.eraseDups.map .credential) :=
    hrun.declares_credentials.imp fun s x hs => ⟨hs.1, hrun.lookup?_of_first hs.2⟩
  have hsecond := hrun.declares_instances (hrun.instances_apart hclass hfloats)
  refine ⟨block, built, embedded, hscript, hrun.credentialsOf_eq, hrun.instancesOf_eq, ?_, ?_,
    hrun.nodup⟩
  · exact List.forall₂_map_right_iff.1
      (hrun.forall₂_constructs (List.subset_append_left _ _) hfirst)
  · exact List.forall₂_map_right_iff.1
      (hrun.forall₂_constructs (List.subset_append_right _ _) hsecond)

/-- Two parameters with the same credential, and two equal rules with an instance inside
them. -/
def repeated : Invocation :=
  let login : Value := .map [("user", .string "u"), ("password", .secret "p")]
  let rule : Value := .map [("inner", .instanceOf "Leaf" [("weight", .float oneAndHalf)])]
  { sample with
    parameters := {
      entries := [
        ("dsc_user", ⟨login, ⟨"PSCredential"⟩, false⟩),
        ("dsc_other", ⟨login, ⟨"PSCredential"⟩, false⟩),
        ("dsc_rules", ⟨.array [rule, rule], ⟨"Rule[]"⟩, true⟩)]
      nodup := by decide } }

/-- The repeated credential is built once, and so are the rule and its inner instance. -/
theorem shares_exactly_repeated :
    ∃ credentials instances first second,
      declareCredentials repeated.parameters.entries (Pool.empty (NameSource.ofList [])) =
        (.ok credentials, first) ∧
      declareInstances repeated.parameters.entries first = (.ok instances, second) ∧
      credentials.length = 1 ∧ instances.length = 2 := by
  have hfirstOk : (declareCredentials repeated.parameters.entries
      (Pool.empty (NameSource.ofList []))).1.isOk = true := by decide +kernel
  have hsecondOk : (declareInstances repeated.parameters.entries (declareCredentials
      repeated.parameters.entries (Pool.empty (NameSource.ofList []))).2).1.isOk = true := by
    decide +kernel
  rcases hfirst : declareCredentials repeated.parameters.entries
    (Pool.empty (NameSource.ofList [])) with ⟨_ | credentials, first⟩
  · rw [hfirst] at hfirstOk
    cases hfirstOk
  rw [hfirst] at hsecondOk
  rcases hsecond : declareInstances repeated.parameters.entries first with ⟨_ | instances, second⟩
  · rw [hsecond] at hsecondOk
    cases hsecondOk
  have hclass : ∀ parameter ∈ repeated.parameters.entries, parameter.2.value.ClassFree := by
    simp [repeated, Value.ClassFree, Value.parts, Value.itemParts, Value.entryParts, Value.get?,
      Entries.get?, classKey]
  have hfloats : ∀ parameter ∈ repeated.parameters.entries, ∀ x,
      .float x ∈ parameter.2.value.parts → x = oneAndHalf := by
    simp [repeated, Value.parts, Value.itemParts, Value.entryParts]
  obtain ⟨_, built, embedded, -, hc, hi, hcredentials, hinstances, -⟩ :=
    shares_exactly hfirst hsecond hclass fun p hp q hq x y hx hy _ =>
      (hfloats p hp x hx).trans (hfloats q hq y hy).symm
  refine ⟨credentials, instances, first, second, rfl, hsecond, ?_, ?_⟩
  · rw [hcredentials.length_eq]
    cases hc
    decide +kernel
  · rw [hinstances.length_eq]
    cases hi
    decide +kernel

end Invocation

end DesiredState
