import DesiredState.Proofs.Script.Sharing

/-!
# The payloads of the statements for instances

A statement for an instance writes the properties of the instance, with variables in
the place of what is constructed by statements further up.  The pool compares texts, so
what becomes a variable depends on everything that was built before, for whichever
parameter.

Where no map or instance has the key of the class, this comes down to two cases.  The
outermost instances in the properties become variables, and so do maps that are the
table of a credential of the script.  Every other map is written as a table.

## Main definitions

* `Value.toExprWith` — the expression of a value in which chosen values are variables.
* `Value.sharedName?` — the variable of an instance, or of the table of a credential.
* `Script.credentialName?` — the variable of a credential of a script.
* `Instance.statementWith` — the statement for an instance.

## Main results

* `Value.toExprWith_none` — with nothing chosen this is the expression of the value.
* `Pool.Kinds.replace_eq_toExprWith` — a pool replaces instances and credentials.
* `Invocation.payloads_eq` — the statements for instances, payload for payload.
* `Invocation.not_forall_payloads_instances` — instances are not all that is replaced.
-/

namespace DesiredState

/-! ## Values in which some are variables -/

namespace Value

mutual

/-- The expression of a value, in which chosen maps and instances are variables.  Nothing
inside a chosen value is looked at. -/
def toExprWith (choose : Value → Option String) : Value → Expr
  | null => .null
  | bool b => .bool b
  | int i => .int i
  | float x => .float x
  | string s => .text s
  | secret s => .sensitive s
  | array items =>
      if !items.isEmpty && items.all isInstance then
        .cast instanceArrayType (.array (itemsToExprWith choose items))
      else .array (itemsToExprWith choose items)
  | map entries =>
      match choose (map entries) with
      | some name => .variableRef name
      | none => .table (entriesToExprWith choose entries)
  | instanceOf className properties =>
      match choose (instanceOf className properties) with
      | some name => .variableRef name
      | none => .table ((.quoted classKey, .text className) :: entriesToExprWith choose properties)

/-- The expressions of the items of an array, in which chosen values are variables. -/
def itemsToExprWith (choose : Value → Option String) : List Value → List Expr
  | [] => []
  | item :: rest => toExprWith choose item :: itemsToExprWith choose rest

/-- The entries of the table of a map, in which chosen values are variables. -/
def entriesToExprWith (choose : Value → Option String) :
    List (String × Value) → List (Key × Expr)
  | [] => []
  | (key, value) :: rest => (.quoted key, toExprWith choose value) :: entriesToExprWith choose rest

end

theorem itemsToExprWith_eq (choose : Value → Option String) (items : List Value) :
    itemsToExprWith choose items = items.map (toExprWith choose) := by
  induction items with
  | nil => rfl
  | cons item rest ih => rw [itemsToExprWith, ih, List.map_cons]

theorem entriesToExprWith_eq (choose : Value → Option String) (entries : List (String × Value)) :
    entriesToExprWith choose entries =
      entries.map fun entry => (.quoted entry.1, toExprWith choose entry.2) := by
  induction entries with
  | nil => rfl
  | cons entry rest ih => rw [entriesToExprWith, ih, List.map_cons]

/-- Where nothing is chosen, this is the literal of the value. -/
theorem toExprWith_none (v : Value) : v.toExprWith (fun _ => none) = v.toExpr := by
  have hentries : ∀ entries : List (String × Value),
      (∀ entry ∈ entries, entry.2.toExprWith (fun _ => none) = entry.2.toExpr) →
        entriesToExprWith (fun _ => none) entries = entriesToExpr entries := by
    intro entries h
    rw [entriesToExprWith_eq, entriesToExpr_eq]
    exact List.map_congr_left fun entry hentry => Prod.ext rfl (h entry hentry)
  induction v using Value.induct with
  | array items ih =>
      rw [toExprWith, toExpr, itemsToExprWith_eq, itemsToExpr_eq, List.map_congr_left ih]
  | map entries ih => rw [toExprWith, toExpr, hentries entries ih]
  | instanceOf className properties ih => rw [toExprWith, toExpr, hentries properties ih]
  | _ => rfl

/-- The variable that stands for a value: for an instance that of the instance, and for
the table of a credential that of the credential, if there is one. -/
def sharedName? (nameOf : Instance → String) (credentialName? : Credential → Option String) :
    Value → Option String
  | instanceOf className properties => some (nameOf ⟨className, properties⟩)
  | map [("user", .string user), ("password", .secret password)] => credentialName? ⟨user, password⟩
  | _ => none

variable {nameOf : Instance → String} {credentialName? : Credential → Option String}

/-- Only the tables of credentials are maps with variables. -/
theorem sharedName?_map_eq_some_iff {entries : List (String × Value)} {name : String} :
    (map entries).sharedName? nameOf credentialName? = some name ↔
      ∃ c, map entries = (Composite.credential c).toValue ∧ credentialName? c = some name := by
  constructor
  · intro h
    rw [sharedName?.eq_def] at h
    split at h
    · next heq => cases heq
    · next user password heq =>
      exact ⟨⟨user, password⟩, heq, h⟩
    · cases h
  · rintro ⟨c, heq, hname⟩
    rw [heq]
    exact hname

end Value

/-- The statement that assigns an instance, in whose properties chosen values are
variables. -/
def Instance.statementWith (choose : Value → Option String) (name : String) (i : Instance) :
    Statement :=
  .newInstance name i.className (Value.entriesToExprWith choose i.properties)

/-! ## What a pool replaces -/

namespace Pool

variable {pool : Pool} {names : List String} {nameOf : Instance → String}
  {credentialName? : Credential → Option String}

/-- A pool that knows all instances in a value puts variables in the place of the outermost
ones, and of the tables of the credentials that it knows. -/
theorem Kinds.replace_eq_toExprWith (h : pool.Kinds names) {v : Value} (hclass : v.ClassFree)
    (hinstances : ∀ i ∈ v.instances, pool.lookup? i.toExpr.render = some (nameOf i))
    (hcredentials : ∀ c, pool.lookup? (Composite.credential c).text = credentialName? c) :
    pool.replace v.toExpr = v.toExprWith (Value.sharedName? nameOf credentialName?) := by
  induction v using Value.induct with
  | array items ih =>
      have hitems : items.map (fun item => pool.replace item.toExpr) =
          items.map (Value.toExprWith (Value.sharedName? nameOf credentialName?)) := by
        refine List.map_congr_left fun item hitem => ?_
        refine ih item hitem (hclass.child hitem) fun i hi => hinstances i ?_
        exact Value.mem_instances_iff.2 (.inr ⟨item, hitem, hi⟩)
      have harray : pool.replace (.array (Value.itemsToExpr items)) =
          .array (Value.itemsToExprWith (Value.sharedName? nameOf credentialName?) items) := by
        rw [replace_array (h.lookup?_eq_none (by simp [Expr.write_array])), Value.itemsToExpr_eq,
          Value.itemsToExprWith_eq, List.map_map]
        exact congrArg Expr.array hitems
      rw [Value.toExpr, Value.toExprWith]
      split
      · rw [replace_cast (h.lookup?_eq_none (by simp [Expr.write_cast])), harray]
      · exact harray
  | map entries ih =>
      have hkey : Entries.get? entries classKey = none := hclass.get?_classKey
      have hlookup : pool.lookup? (Value.map entries).toExpr.render =
          (Value.map entries).sharedName? nameOf credentialName? := by
        refine Option.ext fun name => ?_
        rw [Value.sharedName?_map_eq_some_iff]
        constructor
        · intro hname
          obtain ⟨-, c, hmap⟩ := h.of_map hkey hname
          refine ⟨c, hmap, ?_⟩
          rw [← hcredentials, ← hname, hmap, Composite.text_eq]
          rfl
        · rintro ⟨c, hmap, hname⟩
          rw [← hname, ← hcredentials, hmap, Composite.text_eq]
          rfl
      rw [Value.toExprWith, ← hlookup]
      split
      · next name hname => exact replace_of_lookup? rfl hname
      · next hnone =>
        rw [Value.toExpr] at hnone ⊢
        rw [replace_table hnone, Value.entriesToExpr_eq, Value.entriesToExprWith_eq, List.map_map]
        refine congrArg Expr.table (List.map_congr_left fun entry hentry => Prod.ext rfl ?_)
        have hchild := Value.mem_children_map hentry
        refine ih entry hentry (hclass.child hchild) fun i hi => hinstances i ?_
        exact Value.mem_instances_iff.2 (.inr ⟨entry.2, hchild, hi⟩)
  | instanceOf className properties ih =>
      have hname := hinstances ⟨className, properties⟩ (Value.mem_instances_iff.2 (.inl rfl))
      exact replace_of_lookup? rfl hname
  | _ => rfl

/-- Building instances leaves the variables of credentials as they are. -/
theorem lookup?_credential_declareAll (pool : Pool) (instances : List Instance) (c : Credential) :
    (pool.declareAll (instances.map .instanceOf)).2.lookup? (Composite.credential c).text =
      pool.lookup? (Composite.credential c).text := by
  refine declareAll_run (P := fun _ _ current =>
    current.lookup? (Composite.credential c).text =
      pool.lookup? (Composite.credential c).text) rfl ?_
  intro before x after _ current hxs ih
  obtain ⟨i, -, rfl⟩ : ∃ i ∈ instances, Composite.instanceOf i = x :=
    List.mem_map.1 (by rw [hxs]; simp)
  cases hlookup : current.lookup? (Composite.instanceOf i).text with
  | some name => rwa [declare_of_lookup? hlookup]
  | none =>
      rw [declare_of_none hlookup, lookup?_add, if_neg (Composite.text_credential_ne c i).symm,
        Option.or_none]
      exact ih

end Pool

/-! ## The variables of credentials -/

/-- The variable that a statement assigns, if it builds the credential. -/
def Statement.nameFor? (c : Credential) : Statement → Option String
  | newCredential name d => if d = c then some name else none
  | newInstance _ _ _ => none

/-- The variable of a credential that a script constructs. -/
def Script.credentialName? (script : Script) (c : Credential) : Option String :=
  script.credentials.findSome? (Statement.nameFor? c)

namespace Invocation

variable {source : NameSource} {inv : Invocation} {script : Script} {built : List Credential}
  {embedded : List Instance} {first second : Pool}

/-- The pool knows credentials by the variables of their statements. -/
theorem Run.lookup?_credential (h : inv.Run source script built embedded first second)
    (c : Credential) : first.lookup? (Composite.credential c).text = script.credentialName? c := by
  have hrun : ((Pool.empty source).declareAll (built.map .credential)).2.lookup?
      (Composite.credential c).text =
        ((Pool.empty source).declareAll (built.map .credential)).1.findSome?
          (Statement.nameFor? c) := by
    refine Pool.declareAll_run (P := fun _ statements current =>
      current.lookup? (Composite.credential c).text =
        statements.findSome? (Statement.nameFor? c)) rfl ?_
    intro before x after statements current hxs ih
    obtain ⟨d, -, rfl⟩ : ∃ d ∈ built, Composite.credential d = x :=
      List.mem_map.1 (by rw [hxs]; simp)
    cases hlookup : current.lookup? (Composite.credential d).text with
    | some name => rwa [Pool.declare_of_lookup? hlookup, List.append_nil]
    | none =>
        have hsame : (Composite.credential d).text = (Composite.credential c).text ↔ d = c :=
          ⟨Composite.credential_eq_of_text_eq, fun heq => by rw [heq]⟩
        rw [Pool.declare_of_none hlookup, Pool.lookup?_add, ih, List.findSome?_append]
        simp only [hsame, List.findSome?_cons, Composite.statement, Statement.nameFor?]
        split <;> rfl
  rwa [h.declare_credentials] at hrun

/-- The variable of a credential is assigned by the statement that builds it. -/
theorem mem_of_credentialName? {c : Credential} {name : String}
    (h : script.credentialName? c = some name) : .newCredential name c ∈ script.credentials := by
  obtain ⟨s, hs, hname⟩ := List.exists_of_findSome?_eq_some h
  cases s with
  | newCredential other d =>
      rw [Statement.nameFor?] at hname
      split at hname
      · next heq =>
        rw [← Option.some.inj hname, ← heq]
        exact hs
      · cases hname
  | newInstance other className payload => cases hname

/-- What is inside an instance of a value is among all instances. -/
theorem mem_nested {i j : Instance} (hi : i ∈ embedded.flatMap fun i => i.toValue.instances)
    {child : Value} (hchild : child ∈ i.toValue.children) (hj : j ∈ child.instances) :
    j ∈ embedded.flatMap fun i => i.toValue.instances := by
  obtain ⟨outer, houter, hi⟩ := List.mem_flatMap.1 hi
  exact List.mem_flatMap.2 ⟨outer, houter,
    Value.mem_instances_trans (Value.mem_instances_iff.2 (.inr ⟨child, hchild, hj⟩)) hi⟩

/-- The pool of the credentials knows nothing else. -/
theorem Run.kinds_first (h : inv.Run source script built embedded first second) :
    first.Kinds first.variableNames := by
  have hkinds := Pool.kinds_credentials source built
  rwa [h.declare_credentials] at hkinds

/-- The pool in the end knows credentials and instances. -/
theorem Run.kinds_second (h : inv.Run source script built embedded first second) :
    second.Kinds first.variableNames := by
  have hkinds := h.kinds_first.declareAll (embedded.flatMap fun i => i.toValue.instances)
  rwa [← withNested_eq, h.declare_instances] at hkinds

/-- All instances have variables. -/
theorem Run.exists_names (h : inv.Run source script built embedded first second) :
    ∃ nameOf : Instance → String, ∀ i ∈ embedded.flatMap (fun i => i.toValue.instances),
      second.lookup? i.toExpr.render = some (nameOf i) := by
  refine ⟨fun i => (second.lookup? i.toExpr.render).getD "", fun i hi => ?_⟩
  obtain ⟨s, -, hname, -⟩ := h.exists_instance hi
  have hsome : second.lookup? i.toExpr.render = some s.assigned := hname
  simp [hsome]

/-- The statements for instances, with the variables that the pool has in the end. -/
theorem Run.exists_statementWith (h : inv.Run source script built embedded first second)
    (hclass : ∀ parameter ∈ inv.parameters.entries, parameter.2.value.ClassFree)
    {nameOf : Instance → String}
    (hnames : ∀ i ∈ embedded.flatMap (fun i => i.toValue.instances),
      second.lookup? i.toExpr.render = some (nameOf i)) {s : Statement}
    (hs : s ∈ script.instances) :
    ∃ i ∈ embedded.flatMap (fun i => i.toValue.instances),
      second.lookup? (Composite.instanceOf i).text = some s.assigned ∧
      s = i.statementWith (Value.sharedName? nameOf script.credentialName?) s.assigned := by
  have hstatements : s ∈ (first.declareAll (withNested embedded)).1 := by
    rw [h.declare_instances]
    exact hs
  obtain ⟨front, i, hi, hstatement, hname, hinner, hgrows⟩ :=
    Pool.exists_of_instance_statement hstatements
  rw [h.declare_instances] at hname hgrows
  refine ⟨i, hi, hname, hstatement.trans (congrArg (Statement.newInstance _ _) ?_)⟩
  rw [Composite.payload, Value.entriesToExpr_eq, Value.entriesToExprWith_eq, List.map_map]
  refine List.map_congr_left fun property hproperty => Prod.ext rfl ?_
  have hchild := Value.mem_children_instanceOf i.className hproperty
  refine (h.kinds_first.declareAll front).replace_eq_toExprWith
    ((h.classFree hclass i hi).child hchild) ?_ ?_
  · intro j hj
    have hentry : j ∈ Value.entryInstances i.properties := by
      rw [Value.entryInstances_eq]
      exact List.mem_flatMap.2 ⟨property, hproperty, hj⟩
    obtain ⟨name, hfound⟩ := hinner j hentry
    rw [hfound, ← hnames j (mem_nested hi hchild hj), hgrows _ _ hfound]
  · intro c
    rw [Pool.lookup?_credential_declareAll, h.lookup?_credential]

/-- The payload of a statement for an instance is the table of its properties, in which
the outermost instances are the variables that their own statements assign.  Apart from
these, only maps that are the table of a credential of the script are variables. -/
theorem payloads_eq (h : inv.script source = .ok script)
    (hclass : ∀ parameter ∈ inv.parameters.entries, parameter.2.value.ClassFree) :
    ∃ embedded nameOf, instancesOf inv.parameters.entries = .ok embedded ∧
      (∀ i ∈ embedded.flatMap (fun i => i.toValue.instances), ∃ s ∈ script.instances,
        s.assigned = nameOf i ∧ script.Constructs s (.instanceOf i)) ∧
      ∀ s ∈ script.instances, ∃ i ∈ embedded.flatMap (fun i => i.toValue.instances),
        script.Constructs s (.instanceOf i) ∧
        s = i.statementWith (Value.sharedName? nameOf script.credentialName?) (nameOf i) := by
  obtain ⟨built, embedded, first, second, hrun⟩ := exists_run h
  obtain ⟨nameOf, hnames⟩ := hrun.exists_names
  refine ⟨embedded, nameOf, hrun.instancesOf_eq, ?_, ?_⟩
  · intro i hi
    obtain ⟨s, hs, hname, hconstructs⟩ := hrun.exists_instance hi
    exact ⟨s, hs, Option.some.inj (hname.symm.trans (hnames i hi)), hconstructs⟩
  · intro s hs
    obtain ⟨i, hi, hname, hstatement⟩ := hrun.exists_statementWith hclass hnames hs
    have hassigned := Option.some.inj (hname.symm.trans (hnames i hi))
    refine ⟨i, hi, hrun.constructs (List.mem_append_right _ hs) ?_ hname, ?_⟩
    · rw [hstatement]
      exact rfl
    · rw [← hassigned]
      exact hstatement

theorem classFree_sample :
    ∀ parameter ∈ sample.parameters.entries, parameter.2.value.ClassFree := by
  simp [sample, Value.ClassFree, Value.parts, Value.itemParts, Value.entryParts, Value.get?,
    Entries.get?, classKey]

/-- In the sample the payload of the rule refers to the inner instance, and to the
credential that is there as a map. -/
theorem payloads_eq_sample :
    ∃ script embedded nameOf, sample.script (NameSource.ofList []) = .ok script ∧
      instancesOf sample.parameters.entries = .ok embedded ∧
      ∀ s ∈ script.instances, ∃ i ∈ embedded.flatMap (fun i => i.toValue.instances),
        s = i.statementWith (Value.sharedName? nameOf script.credentialName?) (nameOf i) := by
  obtain ⟨script, h⟩ := exists_script_sample
  obtain ⟨embedded, nameOf, hembedded, -, hpayloads⟩ := payloads_eq h classFree_sample
  refine ⟨script, embedded, nameOf, h, hembedded, fun s hs => ?_⟩
  obtain ⟨i, hi, -, hstatement⟩ := hpayloads s hs
  exact ⟨i, hi, hstatement⟩

/-- Instances are not all that becomes a variable: in the sample the rule has one instance
inside it, and its payload has two references. -/
theorem not_forall_payloads_instances :
    ¬ ∀ (source : NameSource) (inv : Invocation) (script : Script),
      inv.script source = .ok script →
      (∀ parameter ∈ inv.parameters.entries, parameter.2.value.ClassFree) →
      ∃ embedded nameOf, instancesOf inv.parameters.entries = .ok embedded ∧
        ∀ s ∈ script.instances, ∃ i ∈ embedded.flatMap (fun i => i.toValue.instances),
          s = i.statementWith (Value.sharedName? nameOf fun _ => none) (nameOf i) := by
  intro hall
  have htwo : ((sample.script (NameSource.ofList [])).toOption.any fun script =>
      script.instances.any fun s => s.references.length == 2) = true := by decide +kernel
  obtain ⟨script, h⟩ := exists_script_sample
  rw [h] at htwo
  obtain ⟨s, hs, hreferences⟩ := List.any_eq_true.1 (show script.instances.any _ = true from htwo)
  obtain ⟨embedded, nameOf, hembedded, hpayloads⟩ := hall _ _ _ h classFree_sample
  have hone : ∀ i ∈ embedded.flatMap (fun i => i.toValue.instances),
      (i.statementWith (Value.sharedName? nameOf fun _ => none) (nameOf i)).references.length ≤
        1 := by
    cases hembedded
    -- the inner instance refers to nothing, and the rule to the inner instance
    refine List.forall_mem_cons.2 ⟨Nat.zero_le 1, List.forall_mem_cons.2 ⟨Nat.le_refl 1, ?_⟩⟩
    exact fun _ hnone => absurd hnone List.not_mem_nil
  obtain ⟨i, hi, rfl⟩ := hpayloads s hs
  have hlength := hone i hi
  rw [beq_iff_eq] at hreferences
  omega

end Invocation

end DesiredState
