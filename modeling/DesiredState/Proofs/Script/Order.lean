import DesiredState.Proofs.Script.Block

/-!
# Definition before use

The statements of a script assign the variables of the pool, one each, in the
order of registration.  A statement refers only to variables that statements in
front of it assign, and the block refers only to assigned variables.

The walk over a value builds what is inside an instance before the instance.  So
when the properties of an instance are written, everything inside them is known,
and no instance is written out where a reference can stand: the outermost
instances of a value appear as references, and nothing that is inside them
appears at all.  Only tables with the shape of a credential are replaced besides.

The last part needs values without the key of the class.  The table of a map with
a class entry is the table of an instance, and may be taken for one.

## Main definitions

* `Statement.references` — the variables a statement refers to.
* `Value.topmost` — the instances in a value that are not inside another one.
* `Expr.keys` — the keys of all tables of an expression.
* `Value.SharedAs` — an expression refers to the outermost instances of a value.
* `InnerFirst` — instances in an order that has the inner ones in front.

## Main results

* `Pool.Kinds.replace_toExpr` — a pool that knows the instances in a value puts
  references in their place.
* `Invocation.assigned_before_of_declareAll` — a statement refers to what is assigned
  further up.
* `Invocation.defined_before_use` — the statements and the block of a script.
-/

namespace DesiredState

/-- The variables that a statement refers to. -/
def Statement.references : Statement → List String
  | newCredential _ _ => []
  | newInstance _ _ payload => (Expr.table payload).references

/-! ## Instances in values and in expressions -/

namespace Value

mutual

/-- The instances in a value that are not inside another one. -/
def topmost : Value → List Instance
  | array items => itemTopmost items
  | map entries => entryTopmost entries
  | instanceOf className properties => [⟨className, properties⟩]
  | _ => []

/-- The outermost instances in the items of an array. -/
def itemTopmost : List Value → List Instance
  | [] => []
  | item :: rest => topmost item ++ itemTopmost rest

/-- The outermost instances in the entries of a map. -/
def entryTopmost : List (String × Value) → List Instance
  | [] => []
  | (_, value) :: rest => topmost value ++ entryTopmost rest

end

theorem itemTopmost_eq (items : List Value) : itemTopmost items = items.flatMap topmost := by
  induction items with
  | nil => rfl
  | cons item rest ih => rw [itemTopmost, ih, List.flatMap_cons]

theorem entryTopmost_eq (entries : List (String × Value)) :
    entryTopmost entries = entries.flatMap fun entry => topmost entry.2 := by
  induction entries with
  | nil => rfl
  | cons entry rest ih => rw [entryTopmost, ih, List.flatMap_cons]

end Value

namespace Expr

mutual

/-- The keys of all tables in an expression. -/
def keys : Expr → List Key
  | array items => itemKeys items
  | cast _ inner => keys inner
  | table entries => entryKeys entries
  | _ => []

/-- The keys of all tables in the items of an array. -/
def itemKeys : List Expr → List Key
  | [] => []
  | item :: rest => keys item ++ itemKeys rest

/-- The keys of entries, and of all tables in their values. -/
def entryKeys : List (Key × Expr) → List Key
  | [] => []
  | (key, value) :: rest => key :: (keys value ++ entryKeys rest)

end

theorem keys_array (items : List Expr) : (array items).keys = items.flatMap keys := by
  rw [keys]
  induction items with
  | nil => rfl
  | cons item rest ih => rw [itemKeys, ih, List.flatMap_cons]

theorem keys_table (entries : List (Key × Expr)) :
    (table entries).keys = entries.flatMap fun entry => entry.1 :: entry.2.keys := by
  rw [keys]
  induction entries with
  | nil => rfl
  | cons entry rest ih => rw [entryKeys, ih, List.flatMap_cons]; rfl

end Expr

/-- An expression shows a value with its outermost instances as references: it
holds no table of an instance, and its references, apart from given ones, are the
variables of these instances in their order. -/
def Value.SharedAs (pool : Pool) (others : List String) (v : Value) (e : Expr) : Prop :=
  Key.quoted classKey ∉ e.keys ∧
    (e.references.filter (· ∉ others)).map some =
      v.topmost.map fun i => pool.lookup? i.toExpr.render

namespace Value

variable {pool : Pool} {others : List String} {f : Value → Expr}

/-- A value without instances is shown by its literal, if no key in it is that of
the class. -/
theorem sharedAs_leaf {v : Value} {e : Expr} (htopmost : v.topmost = []) (hkeys : e.keys = [])
    (hreferences : e.references = []) : v.SharedAs pool others e := by
  rw [SharedAs, htopmost, hkeys, hreferences]
  exact ⟨List.not_mem_nil, rfl⟩

theorem sharedAs_array {items : List Value}
    (h : ∀ item ∈ items, item.SharedAs pool others (f item)) :
    (array items).SharedAs pool others (.array (items.map f)) := by
  constructor
  · rw [Expr.keys_array, List.flatMap_map, List.mem_flatMap]
    rintro ⟨item, hitem, hkey⟩
    exact (h item hitem).1 hkey
  · rw [Expr.references_array, List.flatMap_map, List.filter_flatMap, List.map_flatMap, topmost,
      itemTopmost_eq, List.map_flatMap]
    exact List.flatMap_congr fun item hitem => (h item hitem).2

theorem sharedAs_map {entries : List (String × Value)}
    (hclass : classKey ∉ Entries.names entries)
    (h : ∀ entry ∈ entries, entry.2.SharedAs pool others (f entry.2)) :
    (map entries).SharedAs pool others
      (.table (entries.map fun entry => (.quoted entry.1, f entry.2))) := by
  constructor
  · rw [Expr.keys_table, List.flatMap_map, List.mem_flatMap]
    rintro ⟨entry, hentry, hkey⟩
    rcases List.mem_cons.1 hkey with heq | hkey
    · exact hclass (List.mem_map.2 ⟨entry, hentry, (Key.quoted.inj heq).symm⟩)
    · exact (h entry hentry).1 hkey
  · rw [Expr.references_table, List.flatMap_map, List.filter_flatMap, List.map_flatMap, topmost,
      entryTopmost_eq, List.map_flatMap]
    exact List.flatMap_congr fun entry hentry => (h entry hentry).2

end Value

/-! ## Instances become references -/

/-- Everything that a pool knows is a credential or an instance, and the given
names are the variables of the credentials. -/
def Pool.Kinds (pool : Pool) (names : List String) : Prop :=
  ∀ text name, pool.lookup? text = some name →
    ∃ x : Composite, x.text = text ∧ (name ∈ names ↔ ∃ c, x = .credential c)

namespace Pool

variable {pool : Pool} {names : List String}

/-- A pool with nothing but credentials. -/
theorem kinds_credentials (source : NameSource) (credentials : List Credential) :
    ((empty source).declareAll (credentials.map .credential)).2.Kinds
      ((empty source).declareAll (credentials.map .credential)).2.variableNames := by
  intro text name hname
  rcases mem_of_lookup?_declareAll hname with hempty | ⟨x, hx, htext⟩
  · cases hempty
  · obtain ⟨c, -, rfl⟩ := List.mem_map.1 hx
    exact ⟨_, htext, fun _ => ⟨c, rfl⟩, fun _ => mem_variableNames_of_lookup? hname⟩

/-- One more instance gets a name that no credential has. -/
theorem Kinds.declare (h : pool.Kinds names) (hnames : ∀ name ∈ names, name ∈ pool.variableNames)
    (i : Instance) : (pool.declare (.instanceOf i)).2.Kinds names := by
  cases hlookup : pool.lookup? (Composite.instanceOf i).text with
  | some name => rwa [declare_of_lookup? hlookup]
  | none =>
      rw [declare_of_none hlookup]
      intro text name hname
      rw [lookup?_add] at hname
      cases hold : pool.lookup? text with
      | some other =>
          rw [hold] at hname
          obtain rfl : other = name := Option.some.inj hname
          exact h text other hold
      | none =>
          rw [hold, Option.none_or] at hname
          split at hname
          · next htext =>
            obtain rfl := Option.some.inj hname
            refine ⟨_, htext, fun hmem => absurd (hnames _ hmem) pool.nextName_not_mem, ?_⟩
            rintro ⟨c, hc⟩
            cases hc
          · cases hname

/-- Instances that are built later leave the credentials what they are. -/
theorem Kinds.declareAll (h : pool.Kinds pool.variableNames) (instances : List Instance) :
    (pool.declareAll (instances.map .instanceOf)).2.Kinds pool.variableNames := by
  refine (declareAll_run (P := fun _ _ current => current.Kinds pool.variableNames ∧
    ∀ name ∈ pool.variableNames, name ∈ current.variableNames) ⟨h, fun _ hname => hname⟩ ?_).1
  intro before x after _ current hxs hcurrent
  obtain ⟨i, -, rfl⟩ : ∃ i ∈ instances, Composite.instanceOf i = x :=
    List.mem_map.1 (by rw [hxs]; simp)
  refine ⟨hcurrent.1.declare hcurrent.2 i, fun name hname => ?_⟩
  have hgrows := variableNames_declareAll current [.instanceOf i]
  rw [Pool.declareAll, Pool.declareAll] at hgrows
  rw [hgrows]
  exact List.mem_append_left _ (hcurrent.2 name hname)

/-- The variable of an instance is none of a credential. -/
theorem Kinds.not_mem_of_instance (h : pool.Kinds names) {i : Instance} {name : String}
    (hname : pool.lookup? i.toExpr.render = some name) : name ∉ names := by
  obtain ⟨x, htext, hkind⟩ := h _ _ hname
  rw [hkind]
  rintro ⟨c, rfl⟩
  exact Composite.text_credential_ne c i htext

/-- A map without a class entry is only taken for a credential, if it is the table of
that. -/
theorem Kinds.of_map (h : pool.Kinds names) {entries : List (String × Value)}
    (hclass : Entries.get? entries classKey = none) {name : String}
    (hname : pool.lookup? (Value.map entries).literal = some name) :
    name ∈ names ∧ ∃ c, Value.map entries = (Composite.credential c).toValue := by
  obtain ⟨x, htext, hkind⟩ := h _ _ hname
  rw [Composite.text_eq, Value.literal_eq_iff] at htext
  cases x with
  | instanceOf i => exact absurd htext.symm (Value.form_map_ne hclass i.className i.properties)
  | credential c => exact ⟨hkind.2 ⟨c, rfl⟩, c, Composite.map_eq_of_form htext.symm⟩

/-- What starts unlike a table is not known. -/
theorem Kinds.lookup?_eq_none (h : pool.Kinds names) {e : Expr}
    (he : e.write.take 2 ≠ ['@', '\x7b']) : pool.lookup? e.render = none := by
  cases hname : pool.lookup? e.render with
  | none => rfl
  | some name =>
      obtain ⟨x, htext, -⟩ := h _ _ hname
      have htake := x.take_text
      rw [htext, Expr.render, String.toList_ofList] at htake
      exact absurd htake he

/-- A pool that knows all instances in a value puts references in the place of the
outermost ones, and of tables with the shape of a credential. -/
theorem Kinds.replace_toExpr (h : pool.Kinds names) {v : Value} (hclass : v.ClassFree)
    (hknown : ∀ i ∈ v.instances, ∃ name, pool.lookup? i.toExpr.render = some name) :
    v.SharedAs pool names (pool.replace v.toExpr) := by
  induction v using Value.induct with
  | array items ih =>
      have hitems : ∀ item ∈ items, item.SharedAs pool names (pool.replace item.toExpr) := by
        intro item hitem
        refine ih item hitem (hclass.child hitem) fun i hi => hknown i ?_
        rw [Value.instances, Value.itemInstances_eq]
        exact List.mem_flatMap.2 ⟨item, hitem, hi⟩
      have harray : (Value.array items).SharedAs pool names
          (pool.replace (.array (Value.itemsToExpr items))) := by
        rw [replace_array (h.lookup?_eq_none (by simp [Expr.write_array])), Value.itemsToExpr_eq,
          List.map_map]
        exact Value.sharedAs_array hitems
      rw [Value.toExpr]
      split
      · rw [replace_cast (h.lookup?_eq_none (by simp [Expr.write_cast]))]
        exact harray
      · exact harray
  | map entries ih =>
      have hkey : Entries.get? entries classKey = none := hclass.get?_classKey
      rcases pool.replace_cases (Value.map entries).toExpr with ⟨name, hname, heq⟩ | heq
      · obtain ⟨hmem, c, hmap⟩ := h.of_map hkey hname
        have htopmost : (Value.map entries).topmost = [] := by rw [hmap]; rfl
        rw [heq, Value.SharedAs, htopmost]
        simp [Expr.references, Expr.keys, hmem]
      · have hentries : ∀ entry ∈ entries,
            entry.2.SharedAs pool names (pool.replace entry.2.toExpr) := by
          intro entry hentry
          refine ih entry hentry (hclass.child (Value.mem_children_map hentry)) fun i hi =>
            hknown i ?_
          rw [Value.instances, Value.entryInstances_eq]
          exact List.mem_flatMap.2 ⟨entry, hentry, hi⟩
        rw [heq, Value.toExpr, Value.entriesToExpr_eq]
        dsimp only
        rw [List.map_map]
        exact Value.sharedAs_map (f := fun v => pool.replace v.toExpr)
          ((Entries.get?_eq_none_iff _ _).1 hkey) hentries
  | instanceOf className properties ih =>
      obtain ⟨name, hname⟩ := hknown ⟨className, properties⟩ (by simp [Value.instances])
      have hreplace : pool.replace (Value.instanceOf className properties).toExpr =
          .variableRef name := replace_of_lookup? rfl hname
      have hother := h.not_mem_of_instance hname
      rw [hreplace, Value.SharedAs]
      simp [Expr.references, Expr.keys, Value.topmost, hother, hname]
  | _ => exact Value.sharedAs_leaf rfl rfl rfl

end Pool

/-! ## Inner instances first -/

/-- The instances inside the properties of each instance stand in front of it, or
are given. -/
def InnerFirst : List Instance → List Instance → Prop
  | _, [] => True
  | done, i :: rest =>
      (∀ j ∈ Value.entryInstances i.properties, j ∈ done) ∧ InnerFirst (done ++ [i]) rest

namespace InnerFirst

theorem append_iff {done xs ys : List Instance} :
    InnerFirst done (xs ++ ys) ↔ InnerFirst done xs ∧ InnerFirst (done ++ xs) ys := by
  induction xs generalizing done with
  | nil => simp [InnerFirst]
  | cons i rest ih =>
      rw [List.cons_append, InnerFirst, InnerFirst, ih, and_assoc, List.append_assoc]
      rfl

/-- More may be given. -/
theorem mono {done more xs : List Instance} (h : InnerFirst done xs)
    (hsub : ∀ i ∈ done, i ∈ more) : InnerFirst more xs := by
  induction xs generalizing done more with
  | nil => trivial
  | cons i rest ih =>
      refine ⟨fun j hj => hsub j (h.1 j hj), ih h.2 fun j hj => ?_⟩
      rcases List.mem_append.1 hj with hj | hj
      · exact List.mem_append_left _ (hsub j hj)
      · exact List.mem_append_right _ hj

theorem flatMap {α : Type} {as : List α} {f : α → List Instance}
    (h : ∀ a ∈ as, InnerFirst [] (f a)) : InnerFirst [] (as.flatMap f) := by
  induction as with
  | nil => trivial
  | cons a rest ih =>
      obtain ⟨ha, hrest⟩ := List.forall_mem_cons.1 h
      rw [List.flatMap_cons, append_iff]
      exact ⟨ha, (ih hrest).mono fun i hi => absurd hi List.not_mem_nil⟩

/-- What an instance has inside is in front of it. -/
theorem mem_of_split {before after : List Instance} {i : Instance}
    (h : InnerFirst [] (before ++ i :: after)) :
    ∀ j ∈ Value.entryInstances i.properties, j ∈ before := by
  rw [append_iff, List.nil_append] at h
  exact h.2.1

end InnerFirst

/-- The instances in a value are listed with the inner ones in front. -/
theorem Value.innerFirst_instances (v : Value) : InnerFirst [] v.instances := by
  induction v using Value.induct with
  | array items ih =>
      rw [instances, itemInstances_eq]
      exact InnerFirst.flatMap ih
  | map entries ih =>
      rw [instances, entryInstances_eq]
      exact InnerFirst.flatMap ih
  | instanceOf className properties ih =>
      have hinner : InnerFirst [] (entryInstances properties) := by
        rw [entryInstances_eq]
        exact InnerFirst.flatMap ih
      rw [instances, InnerFirst.append_iff]
      exact ⟨hinner, fun j hj => hj, trivial⟩
  | _ => trivial

/-- An instance in a value without the key of the class does not have it either. -/
theorem Value.ClassFree.instance {v : Value} (h : v.ClassFree) :
    ∀ i ∈ v.instances, i.toValue.ClassFree := fun _ hi => h.part (toValue_mem_parts hi)

/-! ## The statements of an invocation -/

/-- A statement builds an instance that the pool knows by the assigned variable,
and shows the properties with their outermost instances as references. -/
def Statement.SharesInstances (pool : Pool) (others : List String) : Statement → Prop
  | newCredential _ _ => True
  | newInstance name className payload =>
      ∃ i : Instance, pool.lookup? i.toExpr.render = some name ∧ i.className = className ∧
        List.Forall₂ (fun property entry => entry.1 = .quoted property.1 ∧
          property.2.SharedAs pool others entry.2) i.properties payload

/-- The expression of an embedded parameter refers to its instances one by one.
Where the parameter is a credential as well, it refers to that. -/
def Parameter.SharesInstances (pool : Pool) (others : List String) (p : Parameter) (e : Expr) :
    Prop :=
  if p.needsCredential then ∃ name ∈ others, e = .variableRef name
  else ∃ own, p.instances = .ok own ∧ Key.quoted classKey ∉ e.keys ∧
    e.references.map some = own.map fun i => pool.lookup? i.toExpr.render

/-- A statement refers to variables that were there when it was made. -/
theorem Composite.references_statement (x : Composite) (pool : Pool) (name : String) :
    ∀ other ∈ (x.statement pool name).references, other ∈ pool.variableNames := by
  cases x with
  | credential c => exact fun other h => absurd h List.not_mem_nil
  | instanceOf i =>
      have hliteral : i.toExpr.references = [] := Composite.references_toExpr (.instanceOf i)
      have hentries := (List.forall_mem_cons.1 (Expr.references_table_eq_nil.1 hliteral)).2
      intro other h
      rw [statement, Statement.references, Expr.references_table, payload, List.flatMap_map,
        List.mem_flatMap] at h
      obtain ⟨entry, hentry, h⟩ := h
      exact Pool.references_replace (hentries entry hentry) other h

/-- What is shown with references is shown so by every pool that knows as much. -/
theorem Value.SharedAs.mono {pool larger : Pool} {others : List String} {v : Value} {e : Expr}
    (h : v.SharedAs pool others e)
    (hgrows : ∀ text name, pool.lookup? text = some name → larger.lookup? text = some name) :
    v.SharedAs larger others e := by
  refine ⟨h.1, h.2.trans (List.map_congr_left fun i hi => ?_)⟩
  have hmem := List.mem_map_of_mem (f := fun i : Instance => pool.lookup? i.toExpr.render) hi
  rw [← h.2] at hmem
  obtain ⟨name, -, hname⟩ := List.mem_map.1 hmem
  rw [← hname, hgrows _ _ hname.symm]

/-- The statement of an instance shows its properties with references, once
everything inside them is known. -/
theorem Pool.Kinds.shares_statement {pool larger : Pool} {names : List String}
    (h : pool.Kinds names) {i : Instance} (hclass : i.toValue.ClassFree)
    (hknown : ∀ j ∈ Value.entryInstances i.properties,
      ∃ name, pool.lookup? j.toExpr.render = some name)
    (hgrows : ∀ text name, pool.lookup? text = some name → larger.lookup? text = some name)
    {name : String} (hname : larger.lookup? i.toExpr.render = some name) :
    ((Composite.instanceOf i).statement pool name).SharesInstances larger names := by
  refine ⟨i, hname, rfl, ?_⟩
  rw [Composite.payload, Value.entriesToExpr_eq, List.map_map, List.forall₂_map_right_iff,
    List.forall₂_same]
  intro property hproperty
  have hchild : property.2.ClassFree :=
    hclass.child (Value.mem_children_instanceOf i.className hproperty)
  refine ⟨rfl, (h.replace_toExpr hchild fun j hj => hknown j ?_).mono hgrows⟩
  rw [Value.entryInstances_eq]
  exact List.mem_flatMap.2 ⟨property, hproperty, hj⟩

theorem withNested_eq (instances : List Instance) :
    withNested instances = (instances.flatMap fun i => i.toValue.instances).map .instanceOf := by
  rw [withNested, List.map_flatMap]

/-- Each statement for an instance is made with a pool that knows everything inside the
instance, and that the pool in the end extends. -/
theorem Pool.exists_of_instance_statement {pool : Pool} {instances : List Instance} {s : Statement}
    (hs : s ∈ (pool.declareAll (withNested instances)).1) :
    ∃ (front : List Instance) (i : Instance),
      i ∈ instances.flatMap (fun i => i.toValue.instances) ∧
      s = (Composite.instanceOf i).statement (pool.declareAll (front.map .instanceOf)).2
        s.assigned ∧
      (pool.declareAll (withNested instances)).2.lookup? i.toExpr.render = some s.assigned ∧
      (∀ j ∈ Value.entryInstances i.properties, ∃ name,
        (pool.declareAll (front.map .instanceOf)).2.lookup? j.toExpr.render = some name) ∧
      ∀ text name, (pool.declareAll (front.map .instanceOf)).2.lookup? text = some name →
        (pool.declareAll (withNested instances)).2.lookup? text = some name := by
  obtain ⟨_, _, hsplit⟩ := List.append_of_mem hs
  obtain ⟨before, x, after, hxs, -, hnone, hstatement⟩ := exists_of_statement hsplit
  rw [withNested_eq] at hxs
  obtain ⟨front, rest, hall, rfl, hrest⟩ := List.map_eq_append_iff.1 hxs
  obtain ⟨i, back, rfl, rfl, rfl⟩ := List.map_eq_cons_iff.1 hrest
  have hlater : (pool.declareAll (withNested instances)).2 =
      ((pool.declareAll (front.map .instanceOf)).2.declareAll
        (.instanceOf i :: back.map .instanceOf)).2 := by
    rw [withNested_eq, hall, List.map_append, declareAll_append, List.map_cons]
  have hinner := InnerFirst.mem_of_split
    (hall ▸ InnerFirst.flatMap fun (k : Instance) _ => k.toValue.innerFirst_instances)
  have hassigned : s.assigned = (pool.declareAll (front.map .instanceOf)).2.nextName := by
    rw [hstatement, Composite.assigned_statement]
  refine ⟨front, i, by rw [hall]; simp, by rw [hassigned]; exact hstatement, ?_, ?_, ?_⟩
  · rw [hassigned, hlater, Pool.declareAll, declare_of_none hnone]
    exact lookup?_declareAll_of_some (lookup?_add_self hnone) _
  · exact fun j hj => lookup?_declareAll_of_mem pool (List.mem_map_of_mem (hinner j hj))
  · intro text name hname
    rw [hlater]
    exact lookup?_declareAll_of_some hname _

/-- The statements of instances without the key of the class show what is inside
them as references. -/
theorem Pool.Kinds.shares_declareAll {pool : Pool} (h : pool.Kinds pool.variableNames)
    {instances : List Instance} (hclass : ∀ i ∈ instances, i.toValue.ClassFree) :
    ∀ s ∈ (pool.declareAll (withNested instances)).1,
      s.SharesInstances (pool.declareAll (withNested instances)).2 pool.variableNames := by
  intro s hs
  obtain ⟨front, i, hi, hstatement, hname, hinner, hgrows⟩ := exists_of_instance_statement hs
  obtain ⟨j, hj, hi⟩ := List.mem_flatMap.1 hi
  rw [hstatement]
  exact (h.declareAll front).shares_statement ((hclass j hj).instance i hi) hinner hgrows hname

/-! ## Embedded instances -/

theorem Instance.classFree_ofValue {className : String} {value : Value} {i : Instance}
    (h : Instance.ofValue className value = .ok i) (hclass : value.ClassFree) :
    i.toValue.ClassFree := by
  cases value with
  | instanceOf own properties =>
      obtain rfl := Except.ok.inj h
      exact hclass
  | map entries =>
      obtain rfl := Except.ok.inj h
      exact Value.forall_parts_iff.2 ⟨hclass.get?_classKey, fun child hchild => hclass.child hchild⟩
  | _ => cases h

theorem Instance.exists_of_mem_ofValues {className : String} {values : List Value}
    {instances : List Instance} (h : Instance.ofValues className values = .ok instances) :
    ∀ i ∈ instances, ∃ value ∈ values, Instance.ofValue className value = .ok i :=
  exists_of_forall₂ (ofValues_eq_ok_iff.1 h).flip

/-- The values that a parameter embeds are in its value. -/
theorem Parameter.parts_embeddedValues {p : Parameter} :
    ∀ v ∈ p.embeddedValues, ∀ w ∈ v.parts, w ∈ p.value.parts := by
  intro v hv w hw
  rw [embeddedValues] at hv
  split at hv
  · next items hvalue =>
    split at hv
    · rw [hvalue]
      exact Value.mem_parts_of_child (v := .array items) hv hw
    · obtain rfl := List.mem_singleton.1 hv
      exact hw
  · obtain rfl := List.mem_singleton.1 hv
    exact hw

theorem Parameter.classFree_embeddedValues {p : Parameter} (h : p.value.ClassFree) :
    ∀ v ∈ p.embeddedValues, v.ClassFree :=
  fun v hv w hw => h w (parts_embeddedValues v hv w hw)

theorem classFree_instancesOf {parameters : List (String × Parameter)}
    {instances : List Instance} (h : instancesOf parameters = .ok instances)
    (hclass : ∀ parameter ∈ parameters, parameter.2.value.ClassFree) :
    ∀ i ∈ instances, i.toValue.ClassFree := by
  intro i hi
  obtain ⟨parameter, hmem, -, own, hown, hi⟩ := exists_of_mem_instancesOf h i hi
  obtain ⟨value, hvalue, hofValue⟩ := Instance.exists_of_mem_ofValues hown i hi
  exact Instance.classFree_ofValue hofValue
    (Parameter.classFree_embeddedValues (hclass parameter hmem) value hvalue)

/-- A parameter that is not of an array type embeds its value. -/
theorem Parameter.embeddedValues_of_not_isArray {p : Parameter} (h : p.type.isArray = false) :
    p.embeddedValues = [p.value] := by
  rw [embeddedValues]
  split
  · rw [h]; rfl
  · rfl

/-- A parameter that is not of an array type embeds one instance. -/
theorem Parameter.exists_single {p : Parameter} {own : List Instance}
    (h : p.instances = .ok own) (harray : p.type.isArray = false) : ∃ i, own = [i] := by
  rw [instances, embeddedValues_of_not_isArray harray, Instance.ofValues_eq_ok_iff] at h
  cases h with
  | cons hi hrest =>
      cases hrest
      exact ⟨_, rfl⟩

/-- In an array of known instances each becomes its variable. -/
theorem Pool.Kinds.replace_instances {pool : Pool} {names : List String} (h : pool.Kinds names)
    {own : List Instance} {nameOf : Instance → String}
    (hnames : ∀ i ∈ own, pool.lookup? i.toExpr.render = some (nameOf i)) :
    pool.replace (.cast instanceArrayType (.array (own.map Instance.toExpr))) =
      .cast instanceArrayType (.array ((own.map nameOf).map .variableRef)) := by
  rw [replace_cast (h.lookup?_eq_none (by simp [Expr.write_cast])),
    replace_array (h.lookup?_eq_none (by simp [Expr.write_array])), List.map_map, List.map_map]
  refine congrArg (fun items => Expr.cast instanceArrayType (.array items))
    (List.map_congr_left fun i hi => ?_)
  exact replace_of_lookup? (Composite.isComposite_toExpr (.instanceOf i)) (hnames i hi)

/-- Known embedded instances are all replaced: those of an array type in their array, and a
single one as a whole. -/
theorem Pool.Kinds.replace_embeddedExpr {pool : Pool} {names : List String}
    (h : pool.Kinds names) {p : Parameter} {own : List Instance} (hown : p.instances = .ok own)
    {nameOf : Instance → String}
    (hnames : ∀ i ∈ own, pool.lookup? i.toExpr.render = some (nameOf i)) :
    (p.type.isArray = true → pool.replace (p.embeddedExpr own) =
      .cast instanceArrayType (.array ((own.map nameOf).map .variableRef))) ∧
    (p.type.isArray = false → ∃ i, own = [i] ∧
      pool.replace (p.embeddedExpr own) = .variableRef (nameOf i)) := by
  constructor
  · intro harray
    rw [Parameter.embeddedExpr, if_pos harray, h.replace_instances hnames]
  · intro harray
    obtain ⟨i, rfl⟩ := Parameter.exists_single hown harray
    have hexpr : p.embeddedExpr [i] = i.toExpr := by rw [Parameter.embeddedExpr, harray]; rfl
    refine ⟨i, rfl, ?_⟩
    rw [hexpr]
    exact replace_of_lookup? (Composite.isComposite_toExpr (.instanceOf i))
      (hnames i List.mem_cons_self)

/-- Known embedded instances are all shown as references. -/
theorem Pool.Kinds.shares_embeddedExpr {pool : Pool} {names : List String} (h : pool.Kinds names)
    {p : Parameter} {own : List Instance} (hown : p.instances = .ok own)
    (hknown : ∀ i ∈ own, ∃ name, pool.lookup? i.toExpr.render = some name) :
    Key.quoted classKey ∉ (pool.replace (p.embeddedExpr own)).keys ∧
      (pool.replace (p.embeddedExpr own)).references.map some =
        own.map fun i => pool.lookup? i.toExpr.render := by
  choose! nameOf hnames using hknown
  obtain ⟨hseveral, hsingle⟩ := h.replace_embeddedExpr hown hnames
  have hlookups : (own.map fun i => pool.lookup? i.toExpr.render) =
      own.map fun i => some (nameOf i) := List.map_congr_left hnames
  cases harray : p.type.isArray with
  | true =>
      rw [hseveral harray, hlookups, Expr.keys, Expr.references, Expr.keys_array,
        Expr.references_array]
      simp [Expr.keys, Expr.references, List.flatMap_map, ← List.map_eq_flatMap]
  | false =>
      obtain ⟨i, rfl, heq⟩ := hsingle harray
      rw [heq, hlookups]
      exact ⟨List.not_mem_nil, rfl⟩

/-- References in the table of properties are to variables of the pool. -/
theorem references_parameterEntries {pool : Pool} {parameters : List (String × Parameter)}
    {entries : List (Key × Expr)} (h : List.Forall₂ (IsEntryOf pool) parameters entries) :
    ∀ name ∈ (Expr.table entries).references, name ∈ pool.variableNames := by
  rw [Expr.references_table]
  induction h with
  | nil => simp
  | @cons parameter entry parameters entries hentry _ ih =>
      obtain ⟨property, p⟩ := parameter
      obtain ⟨e, hown, hvalue⟩ := hentry.exists_own
      have hliteral := Parameter.references_ownExpr hown
      have hfirst : ∀ name ∈ entry.2.references, name ∈ pool.variableNames := by
        rw [hvalue]
        split
        · exact Pool.references_replace hliteral
        · simp [hliteral]
      intro name hname
      exact (List.mem_append.1 hname).elim (hfirst name) (ih name)

namespace Invocation

/-- Each embedded parameter refers to what was built for it. -/
theorem shares_parameter {inv : Invocation} {credentials : List Credential}
    {instances : List Instance} {first second : Pool}
    (hc : credentialsOf inv.parameters.entries = .ok credentials)
    (hi : instancesOf inv.parameters.entries = .ok instances)
    (hkinds : second.Kinds first.variableNames)
    (hcredentials : ∀ c ∈ credentials, ∃ name, first.lookup? c.toExpr.render = some name)
    (hinstances : ∀ i ∈ instances, ∃ name, second.lookup? i.toExpr.render = some name)
    (hgrows : ∀ text name, first.lookup? text = some name → second.lookup? text = some name)
    {parameter : String × Parameter} (hmem : parameter ∈ inv.parameters.entries)
    {entry : Key × Expr} (hentry : IsEntryOf second parameter entry)
    (hneeds : parameter.2.needsInstances = true) :
    parameter.2.SharesInstances second first.variableNames entry.2 := by
  obtain ⟨property, p⟩ := parameter
  obtain ⟨e, hexpr, hvalue⟩ := hentry.exists_own
  have hshared : p.isShared = true := by rw [Parameter.isShared, hneeds, Bool.or_true]
  rw [if_pos hshared] at hvalue
  by_cases hcredential : p.needsCredential = true
  · obtain ⟨c, hcmem, hofValue⟩ := exists_credential hc hmem hcredential
    obtain ⟨name, hname⟩ := hcredentials c hcmem
    rw [Parameter.ownExpr, if_pos hcredential, hofValue] at hexpr
    rw [Parameter.SharesInstances, if_pos hcredential, hvalue, ← Except.ok.inj hexpr]
    exact ⟨name, Pool.mem_variableNames_of_lookup? hname,
      Pool.replace_of_lookup? rfl (hgrows _ _ hname)⟩
  · obtain ⟨own, hown, hsub⟩ := exists_instances hi hmem hneeds
    rw [Parameter.ownExpr, if_neg hcredential, if_pos hneeds, hown] at hexpr
    rw [Parameter.SharesInstances, if_neg hcredential, hvalue, ← Except.ok.inj hexpr]
    exact ⟨own, hown, hkinds.shares_embeddedExpr hown fun i hi => hinstances i (hsub i hi)⟩

section Runs

variable {source : NameSource} {inv : Invocation} {first second : Pool}
  {built : List Credential} {embedded : List Instance} {credentials instances : List Statement}

/-- The statements for a list assign the variables of the pool, in their order. -/
theorem assigned_of_declareAll {xs : List Composite} {statements : List Statement} {last : Pool}
    (h : (Pool.empty source).declareAll xs = (statements, last)) :
    statements.map Statement.assigned = last.variableNames := by
  have hnames := Pool.variableNames_declareAll (Pool.empty source) xs
  rw [h] at hnames
  exact hnames.symm

/-- A statement refers to variables that are assigned further up. -/
theorem assigned_before_of_declareAll {xs : List Composite} {statements : List Statement}
    {last : Pool} (h : (Pool.empty source).declareAll xs = (statements, last))
    {front back : List Statement} {s : Statement} (hsplit : statements = front ++ s :: back) :
    ∀ name ∈ s.references, name ∈ front.map Statement.assigned := by
  obtain ⟨before, x, after, -, hfront, -, rfl⟩ := Pool.exists_of_statement
    ((congrArg Prod.fst h).trans hsplit)
  have hnames := Pool.variableNames_declareAll (Pool.empty source) before
  rw [hfront] at hnames
  intro name hname
  have hmem := x.references_statement _ _ name hname
  rw [hnames] at hmem
  exact hmem

/-- All credentials are in the pool behind their statements. -/
theorem exists_lookup?_credential
    (hfirst : (Pool.empty source).declareAll (built.map .credential) = (credentials, first)) :
    ∀ c ∈ built, ∃ name, first.lookup? c.toExpr.render = some name := by
  intro c hc
  have h := Pool.lookup?_declareAll_of_mem (Pool.empty source)
    (List.mem_map_of_mem (f := Composite.credential) hc)
  rwa [hfirst] at h

/-- All embedded instances are in the pool behind their statements. -/
theorem exists_lookup?_instance
    (hsecond : first.declareAll (withNested embedded) = (instances, second)) :
    ∀ i ∈ embedded, ∃ name, second.lookup? i.toExpr.render = some name := by
  intro i hi
  have hself : Composite.instanceOf i ∈ withNested embedded := by
    refine List.mem_flatMap.2 ⟨i, hi, List.mem_map_of_mem ?_⟩
    rw [Instance.toValue, Value.instances]
    exact List.mem_append_right _ (List.mem_singleton_self _)
  have h := Pool.lookup?_declareAll_of_mem first hself
  rwa [hsecond] at h

/-- The statements for instances share those further in. -/
theorem shares_statements (hi : instancesOf inv.parameters.entries = .ok embedded)
    (hclass : ∀ parameter ∈ inv.parameters.entries, parameter.2.value.ClassFree)
    (hkinds : first.Kinds first.variableNames)
    (hsecond : first.declareAll (withNested embedded) = (instances, second)) :
    ∀ s ∈ instances, s.SharesInstances second first.variableNames := by
  have hshares := hkinds.shares_declareAll (classFree_instancesOf hi hclass)
  rw [hsecond] at hshares
  exact hshares

/-- The entries for the parameters share the instances in them. -/
theorem shares_parameters (hc : credentialsOf inv.parameters.entries = .ok built)
    (hi : instancesOf inv.parameters.entries = .ok embedded)
    (hfirst : (Pool.empty source).declareAll (built.map .credential) = (credentials, first))
    (hsecond : first.declareAll (withNested embedded) = (instances, second))
    (hkinds : first.Kinds first.variableNames) {entries : List (Key × Expr)}
    (hentries : List.Forall₂ (IsEntryOf second) inv.parameters.entries entries) :
    List.Forall₂ (fun parameter entry => entry.1 = .bare (bareProperty parameter.1) ∧
      (parameter.2.needsInstances = true →
        parameter.2.SharesInstances second first.variableNames entry.2))
      inv.parameters.entries entries := by
  have hlast := hkinds.declareAll (embedded.flatMap fun i => i.toValue.instances)
  rw [← withNested_eq, hsecond] at hlast
  have hgrows : ∀ text name, first.lookup? text = some name →
      second.lookup? text = some name := by
    intro text name hname
    have h := Pool.lookup?_declareAll_of_some hname (withNested embedded)
    rwa [hsecond] at h
  refine (forall₂_with_mem hentries).imp fun parameter entry h => ⟨h.2.1, ?_⟩
  exact shares_parameter hc hi hlast (exists_lookup?_credential hfirst)
    (exists_lookup?_instance hsecond) hgrows h.1 h.2

end Runs

/-- The statements of an invocation assign the variables of the pool, one each, in
the order of registration.  They refer to variables that are assigned further up,
and so does the block.  Without the key of the class in the values of the
parameters, instances inside others and embedded instances appear as references. -/
theorem defined_before_use {source : NameSource} {inv : Invocation}
    {credentials instances : List Statement} {first second : Pool}
    (hcredentials : declareCredentials inv.parameters.entries (Pool.empty source) =
      (.ok credentials, first))
    (hinstances : declareInstances inv.parameters.entries first = (.ok instances, second)) :
    (credentials ++ instances).map Statement.assigned = second.variableNames ∧
    second.variableNames.Nodup ∧
    (∀ front s back, credentials ++ instances = front ++ s :: back →
      ∀ name ∈ s.references, name ∈ front.map Statement.assigned) ∧
    ∃ entries, inv.toExpr second = .ok (inv.blockOf entries) ∧
      (∀ name ∈ (inv.blockOf entries).references,
        name ∈ (credentials ++ instances).map Statement.assigned) ∧
      ((∀ parameter ∈ inv.parameters.entries, parameter.2.value.ClassFree) →
        (∀ s ∈ instances, s.SharesInstances second (credentials.map Statement.assigned)) ∧
        List.Forall₂ (fun parameter entry => entry.1 = .bare (bareProperty parameter.1) ∧
          (parameter.2.needsInstances = true → parameter.2.SharesInstances second
            (credentials.map Statement.assigned) entry.2))
          inv.parameters.entries entries) := by
  obtain ⟨xs, hxs, hfirst⟩ := (declareCredentials_builds _).of_ok hcredentials
  obtain ⟨ys, hys, hsecond⟩ := (declareInstances_builds _).of_ok hinstances
  obtain ⟨built, hc, rfl⟩ := Builder.exists_of_map_eq_ok hxs
  obtain ⟨embedded, hi, rfl⟩ := Builder.exists_of_map_eq_ok hys
  -- both runs are one run over all that is built
  have hrun : (Pool.empty source).declareAll (built.map .credential ++ withNested embedded) =
      (credentials ++ instances, second) := by
    rw [Pool.declareAll_append, hfirst, hsecond]
  have hassigned := assigned_of_declareAll hrun
  have hdistinct := (Pool.distinct_empty source).declareAll
    (built.map .credential ++ withNested embedded)
  rw [hrun] at hdistinct
  obtain ⟨entries, hentries⟩ := exists_parameterEntries hc hi second
  have hforall := parameterEntries_eq_ok_iff.1 hentries
  refine ⟨hassigned, hdistinct, ?_, entries, ?_, ?_, ?_⟩
  · intro front s back hsplit
    exact assigned_before_of_declareAll hrun hsplit
  · exact toExpr_eq_ok_iff.2 ⟨entries, hentries, rfl⟩
  · rw [references_blockOf, hassigned]
    exact references_parameterEntries hforall
  · intro hclass
    have hkinds := Pool.kinds_credentials source built
    rw [hfirst] at hkinds
    rw [assigned_of_declareAll hfirst]
    constructor
    · exact shares_statements hi hclass hkinds hsecond
    · exact shares_parameters hc hi hfirst hsecond hkinds hforall

/-- The credential of the sample comes first, then the inner instance, and then the
rule that refers to both. -/
theorem defined_before_use_sample :
    ∃ credentials instances first second,
      declareCredentials sample.parameters.entries (Pool.empty (NameSource.ofList [])) =
        (.ok credentials, first) ∧
      declareInstances sample.parameters.entries first = (.ok instances, second) ∧
      (credentials ++ instances).map Statement.assigned = ["v1", "v2", "v3"] ∧
      ∀ s ∈ instances, s.SharesInstances second (credentials.map Statement.assigned) := by
  have hfirstOk : (declareCredentials sample.parameters.entries
      (Pool.empty (NameSource.ofList []))).1.isOk = true := by decide +kernel
  have hsecondOk : (declareInstances sample.parameters.entries (declareCredentials
      sample.parameters.entries (Pool.empty (NameSource.ofList []))).2).1.isOk = true := by
    decide +kernel
  have hnames : (declareInstances sample.parameters.entries (declareCredentials
      sample.parameters.entries (Pool.empty (NameSource.ofList []))).2).2.variableNames =
        ["v1", "v2", "v3"] := by decide +kernel
  rcases hfirst : declareCredentials sample.parameters.entries
    (Pool.empty (NameSource.ofList [])) with ⟨_ | credentials, first⟩
  · rw [hfirst] at hfirstOk
    cases hfirstOk
  rw [hfirst] at hsecondOk hnames
  rcases hsecond : declareInstances sample.parameters.entries first with ⟨_ | instances, second⟩
  · rw [hsecond] at hsecondOk
    cases hsecondOk
  rw [hsecond] at hnames
  obtain ⟨hassigned, -, -, entries, -, -, hshares⟩ := defined_before_use hfirst hsecond
  refine ⟨credentials, instances, first, second, rfl, hsecond, hassigned.trans hnames,
    (hshares ?_).1⟩
  simp [sample, Value.ClassFree, Value.parts, Value.itemParts, Value.entryParts, Value.get?,
    Entries.get?, classKey]

end Invocation

end DesiredState
