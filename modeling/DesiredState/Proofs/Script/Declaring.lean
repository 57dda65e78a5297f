import DesiredState.Proofs.Script.Pool
import DesiredState.Script.Assembly

/-!
# What the statements build

The statements of a script come from three walks: over the credentials, over the
instances inside a value, and over the embedded values of the parameters.  All of
them hand credentials and instances to the pool one after another, and each of
these is built by one statement unless its text is known.  So the walks only say
what is built and in which order, and everything else is one fold over a list.

## Main definitions

* `Composite` — a credential or an instance.
* `Pool.declare`, `Pool.declareAll` — building one of them, and a list of them.
* `Value.instances` — the instances inside a value, innermost first.
* `credentialsOf`, `instancesOf` — what the parameters of an invocation need.
* `Builder.Builds` — a walk hands a list to the pool, or fails.
* `Invocation.Run` — how a script comes about.

## Main results

* `Composite.text_credential_ne` — no text is that of a credential and of an instance.
* `declareNested_eq`, `declareCredentials_builds`, `declareInstances_builds` — the
  walks are folds.
* `Invocation.script_eq` — what a script consists of.
-/

namespace DesiredState

/-- What a statement builds. -/
inductive Composite where
  | credential (c : Credential)
  | instanceOf (i : Instance)

namespace Composite

/-- The value whose literal is the text of a credential or of an instance. -/
def toValue : Composite → Value
  | credential c => .map [("user", .string c.user), ("password", .secret c.password)]
  | instanceOf i => i.toValue

/-- The table that stands for a credential or for an instance. -/
def toExpr : Composite → Expr
  | credential c => c.toExpr
  | instanceOf i => i.toExpr

/-- The text under which the pool knows a credential or an instance. -/
def text (x : Composite) : String := x.toExpr.render

/-- The properties of an instance with references in the place of what the pool
knows. -/
def payload (pool : Pool) (i : Instance) : List (Key × Expr) :=
  (Value.entriesToExpr i.properties).map fun entry => (entry.1, pool.replace entry.2)

/-- The statement that assigns a credential or an instance to a variable. -/
def statement (pool : Pool) (name : String) : Composite → Statement
  | credential c => .newCredential name c
  | instanceOf i => .newInstance name i.className (payload pool i)

theorem toExpr_eq (x : Composite) : x.toExpr = x.toValue.toExpr := by cases x <;> rfl

theorem text_eq (x : Composite) : x.text = x.toValue.literal := by
  rw [text, toExpr_eq, Value.literal]

theorem references_toExpr (x : Composite) : x.toExpr.references = [] := by
  rw [toExpr_eq, Value.references_toExpr]

theorem isComposite_toExpr (x : Composite) : x.toExpr.isComposite = true := by cases x <;> rfl

theorem assigned_statement (pool : Pool) (name : String) (x : Composite) :
    (x.statement pool name).assigned = name := by cases x <;> rfl

/-- The tree of the text of a credential or of an instance. -/
theorem form_credential (c : Credential) :
    (credential c).toValue.form =
      .table [("user", .text c.user), ("password", .sensitive c.password)] := rfl

theorem form_instanceOf (i : Instance) :
    (instanceOf i).toValue.form =
      .table ((classKey, .text i.className) :: Value.entryForms i.properties) := rfl

/-- A map with the tree of a credential is the table of that credential. -/
theorem map_eq_of_form {entries : List (String × Value)} {c : Credential}
    (h : (Value.map entries).form = (credential c).toValue.form) :
    Value.map entries = (credential c).toValue := by
  rw [form_credential, Value.form, Value.entryForms_eq] at h
  obtain ⟨⟨user, v⟩, rest, rfl, hfirst, hrest⟩ := List.map_eq_cons_iff.1 (Literal.table.inj h)
  obtain ⟨⟨password, w⟩, rest, rfl, hsecond, hrest⟩ := List.map_eq_cons_iff.1 hrest
  obtain rfl := List.map_eq_nil_iff.1 hrest
  obtain ⟨rfl, hv⟩ := Prod.mk.inj hfirst
  obtain ⟨rfl, hw⟩ := Prod.mk.inj hsecond
  obtain rfl : v = .string c.user := Value.eq_string_of_form hv
  obtain rfl : w = .secret c.password := Value.eq_secret_of_form hw
  rfl

/-- What is built has the text of a table. -/
theorem take_text (x : Composite) : x.text.toList.take 2 = ['@', '\x7b'] := by
  have hform : ∃ entries, x.toValue.form = .table entries := by
    cases x with
    | credential c => exact ⟨_, form_credential c⟩
    | instanceOf i => exact ⟨_, form_instanceOf i⟩
  obtain ⟨entries, hentries⟩ := hform
  rw [text_eq, Value.literal, Expr.render, String.toList_ofList, ← Value.write_form, hentries]
  rfl

/-- The text of a credential is not that of an instance. -/
theorem text_credential_ne (c : Credential) (i : Instance) :
    (credential c).text ≠ (instanceOf i).text := by
  rw [text_eq, text_eq, Ne, Value.literal_eq_iff, form_credential, form_instanceOf]
  intro h
  have hkeys := congrArg (List.map Prod.fst) (Literal.table.inj h)
  simp [classKey] at hkeys

end Composite

/-! ## Building one after another -/

namespace Pool

/-- Builds a credential or an instance, unless it is built already. -/
def declare (pool : Pool) (x : Composite) : List Statement × Pool :=
  match pool.lookup? x.text with
  | some _ => ([], pool)
  | none => ([x.statement pool pool.nextName], pool.add x.text)

/-- Builds credentials and instances one after another. -/
def declareAll (pool : Pool) : List Composite → List Statement × Pool
  | [] => ([], pool)
  | x :: rest =>
      ((pool.declare x).1 ++ ((pool.declare x).2.declareAll rest).1,
        ((pool.declare x).2.declareAll rest).2)

theorem declare_of_lookup? {pool : Pool} {x : Composite} {name : String}
    (h : pool.lookup? x.text = some name) : pool.declare x = ([], pool) := by
  rw [declare, h]

theorem declare_of_none {pool : Pool} {x : Composite} (h : pool.lookup? x.text = none) :
    pool.declare x = ([x.statement pool pool.nextName], pool.add x.text) := by
  rw [declare, h]

theorem declareAll_append (pool : Pool) (xs ys : List Composite) :
    pool.declareAll (xs ++ ys) =
      ((pool.declareAll xs).1 ++ ((pool.declareAll xs).2.declareAll ys).1,
        ((pool.declareAll xs).2.declareAll ys).2) := by
  induction xs generalizing pool with
  | nil => simp [declareAll]
  | cons x rest ih =>
      rw [List.cons_append, declareAll, ih, declareAll, List.append_assoc]

/-- What holds at the start, and is kept by building one more, holds of a run. -/
theorem declareAll_run {P : List Composite → List Statement → Pool → Prop} {pool : Pool}
    {xs : List Composite} (start : P [] [] pool)
    (step : ∀ before x after statements current, xs = before ++ x :: after →
      P before statements current →
        P (before ++ [x]) (statements ++ (current.declare x).1) (current.declare x).2) :
    P xs (pool.declareAll xs).1 (pool.declareAll xs).2 := by
  have hrun : ∀ before rest statements current, xs = before ++ rest →
      P before statements current →
        P xs (statements ++ (current.declareAll rest).1) (current.declareAll rest).2 := by
    intro before rest
    induction rest generalizing before with
    | nil =>
        intro statements current hxs h
        rw [List.append_nil] at hxs
        rw [declareAll, List.append_nil, hxs]
        exact h
    | cons x rest ih =>
        intro statements current hxs h
        rw [declareAll, ← List.append_assoc]
        exact ih (before ++ [x]) _ _ (by rw [hxs, List.append_assoc]; rfl)
          (step before x rest statements current hxs h)
  exact hrun [] xs [] pool rfl start

/-- Each statement of a run was made for one element of the list, with the pool
that the elements in front of it left. -/
theorem exists_of_statement {pool : Pool} {xs : List Composite} {front back : List Statement}
    {s : Statement} (h : (pool.declareAll xs).1 = front ++ s :: back) :
    ∃ before x after, xs = before ++ x :: after ∧ (pool.declareAll before).1 = front ∧
      (pool.declareAll before).2.lookup? x.text = none ∧
      s = x.statement (pool.declareAll before).2 (pool.declareAll before).2.nextName := by
  induction xs generalizing pool front with
  | nil => simp [declareAll] at h
  | cons x rest ih =>
      rw [declareAll] at h
      cases hlookup : pool.lookup? x.text with
      | some name =>
          have hdeclare := declare_of_lookup? hlookup
          rw [hdeclare, List.nil_append] at h
          obtain ⟨before, y, after, hxs, hfront, hnone, hs⟩ := ih h
          refine ⟨x :: before, y, after, by rw [hxs]; rfl, ?_⟩
          rw [declareAll, hdeclare]
          exact ⟨hfront, hnone, hs⟩
      | none =>
          have hdeclare := declare_of_none hlookup
          rw [hdeclare] at h
          cases front with
          | nil =>
              obtain ⟨rfl, -⟩ := List.cons.inj h
              exact ⟨[], x, rest, rfl, rfl, hlookup, rfl⟩
          | cons first front =>
              obtain ⟨rfl, hrest⟩ := List.cons.inj h
              obtain ⟨before, y, after, hxs, hfront, hnone, hs⟩ := ih hrest
              refine ⟨x :: before, y, after, by rw [hxs]; rfl, ?_⟩
              rw [declareAll, hdeclare, hfront]
              exact ⟨rfl, hnone, hs⟩

/-- Each statement assigns the next variable of the pool. -/
theorem variableNames_declareAll (pool : Pool) (xs : List Composite) :
    (pool.declareAll xs).2.variableNames =
      pool.variableNames ++ (pool.declareAll xs).1.map Statement.assigned := by
  refine declareAll_run (P := fun _ statements current =>
    current.variableNames = pool.variableNames ++ statements.map Statement.assigned) (by simp) ?_
  intro _ x _ statements current _ h
  cases hlookup : current.lookup? x.text with
  | some name => rw [declare_of_lookup? hlookup, List.append_nil, h]
  | none =>
      rw [declare_of_none hlookup, variableNames_add, h, List.append_assoc, List.map_append,
        List.map_singleton, Composite.assigned_statement]

theorem Distinct.declareAll {pool : Pool} (h : pool.Distinct) (xs : List Composite) :
    (pool.declareAll xs).2.Distinct := by
  refine declareAll_run (P := fun _ _ current => current.Distinct) h ?_
  intro _ x _ _ current _ hcurrent
  cases hlookup : current.lookup? x.text with
  | some name => rwa [declare_of_lookup? hlookup]
  | none =>
      rw [declare_of_none hlookup]
      exact hcurrent.add x.text

/-- A text that is known keeps its variable. -/
theorem lookup?_declare_of_some {pool : Pool} {text name : String}
    (h : pool.lookup? text = some name) (x : Composite) :
    (pool.declare x).2.lookup? text = some name := by
  cases hlookup : pool.lookup? x.text with
  | some other => rwa [declare_of_lookup? hlookup]
  | none =>
      rw [declare_of_none hlookup]
      exact lookup?_add_of_some h _

/-- What was built is known. -/
theorem lookup?_declare_self (pool : Pool) (x : Composite) :
    ∃ name, (pool.declare x).2.lookup? x.text = some name := by
  cases hlookup : pool.lookup? x.text with
  | some name => exact ⟨name, by rwa [declare_of_lookup? hlookup]⟩
  | none =>
      refine ⟨pool.nextName, ?_⟩
      rw [declare_of_none hlookup]
      exact lookup?_add_self hlookup

theorem lookup?_declareAll_of_some {pool : Pool} {text name : String}
    (h : pool.lookup? text = some name) (xs : List Composite) :
    (pool.declareAll xs).2.lookup? text = some name := by
  refine declareAll_run (P := fun _ _ current => current.lookup? text = some name) h ?_
  intro _ x _ _ current _ hcurrent
  exact lookup?_declare_of_some hcurrent x

/-- Everything that was built is known in the end. -/
theorem lookup?_declareAll_of_mem (pool : Pool) {xs : List Composite} {x : Composite}
    (h : x ∈ xs) : ∃ name, (pool.declareAll xs).2.lookup? x.text = some name := by
  refine declareAll_run (P := fun before _ current =>
    ∀ x ∈ before, ∃ name, current.lookup? x.text = some name) (by simp) ?_ x h
  intro before y _ _ current _ hbefore x hx
  rcases List.mem_append.1 hx with hx | hx
  · obtain ⟨name, hname⟩ := hbefore x hx
    exact ⟨name, lookup?_declare_of_some hname y⟩
  · obtain rfl := List.mem_singleton.1 hx
    exact lookup?_declare_self current x

/-- What is known was known before, or is the text of an element for which there is a
statement. -/
theorem exists_statement_of_lookup? {pool : Pool} {xs : List Composite} {text name : String}
    (h : (pool.declareAll xs).2.lookup? text = some name) :
    pool.lookup? text = some name ∨ ∃ x ∈ xs, x.text = text ∧
      ∃ current, x.statement current name ∈ (pool.declareAll xs).1 := by
  refine declareAll_run (P := fun before statements current =>
    current.lookup? text = some name → pool.lookup? text = some name ∨
      ∃ x ∈ before, x.text = text ∧ ∃ current, x.statement current name ∈ statements) .inl ?_ h
  intro before x _ statements current _ ih hname
  have hearlier : current.lookup? text = some name → pool.lookup? text = some name ∨
      ∃ y ∈ before ++ [x], y.text = text ∧
        ∃ other, y.statement other name ∈ statements ++ (current.declare x).1 := by
    intro hold
    rcases ih hold with hstart | ⟨y, hy, htext, other, hmem⟩
    · exact .inl hstart
    · exact .inr ⟨y, List.mem_append_left _ hy, htext, other, List.mem_append_left _ hmem⟩
  cases hlookup : current.lookup? x.text with
  | some other =>
      rw [declare_of_lookup? hlookup] at hname
      exact hearlier hname
  | none =>
      rw [declare_of_none hlookup, lookup?_add] at hname
      cases hold : current.lookup? text with
      | some other =>
          rw [hold] at hname
          obtain rfl : other = name := Option.some.inj hname
          exact hearlier hold
      | none =>
          rw [hold, Option.none_or] at hname
          split at hname
          · next htext =>
            obtain rfl := Option.some.inj hname
            refine .inr ⟨x, by simp, htext, current, ?_⟩
            rw [declare_of_none hlookup]
            exact List.mem_append_right _ List.mem_cons_self
          · cases hname

/-- Nothing is known but what was known before or was built. -/
theorem mem_of_lookup?_declareAll {pool : Pool} {xs : List Composite} {text name : String}
    (h : (pool.declareAll xs).2.lookup? text = some name) :
    pool.lookup? text = some name ∨ ∃ x ∈ xs, x.text = text := by
  refine (exists_statement_of_lookup? h).imp_right ?_
  rintro ⟨x, hx, htext, -⟩
  exact ⟨x, hx, htext⟩

end Pool

/-! ## The walk over the instances of a value -/

namespace Value

mutual

/-- The instances in a value, innermost first. -/
def instances : Value → List Instance
  | array items => itemInstances items
  | map entries => entryInstances entries
  | instanceOf className properties => entryInstances properties ++ [⟨className, properties⟩]
  | _ => []

/-- The instances in the items of an array. -/
def itemInstances : List Value → List Instance
  | [] => []
  | item :: rest => instances item ++ itemInstances rest

/-- The instances in the entries of a map. -/
def entryInstances : List (String × Value) → List Instance
  | [] => []
  | (_, value) :: rest => instances value ++ entryInstances rest

end

theorem itemInstances_eq (items : List Value) : itemInstances items = items.flatMap instances := by
  induction items with
  | nil => rfl
  | cons item rest ih => rw [itemInstances, ih, List.flatMap_cons]

theorem entryInstances_eq (entries : List (String × Value)) :
    entryInstances entries = entries.flatMap fun entry => instances entry.2 := by
  induction entries with
  | nil => rfl
  | cons entry rest ih => rw [entryInstances, ih, List.flatMap_cons]

/-- The instances in a value are the value itself and those in the values inside it. -/
theorem mem_instances_iff {v : Value} {i : Instance} :
    i ∈ v.instances ↔ i.toValue = v ∨ ∃ child ∈ v.children, i ∈ child.instances := by
  have hentries : ∀ entries, i ∈ entryInstances entries ↔
      ∃ child ∈ Entries.values entries, i ∈ child.instances := by
    intro entries
    rw [entryInstances_eq, ← List.mem_flatMap, Entries.values, List.flatMap_map]
  cases v with
  | array items =>
      rw [instances, itemInstances_eq, List.mem_flatMap]
      simp [children, Instance.toValue]
  | map entries =>
      rw [instances, hentries]
      simp [children, Instance.toValue]
  | instanceOf className properties =>
      rw [instances, List.mem_append, hentries, List.mem_singleton, or_comm]
      cases i
      simp [children, Instance.toValue]
  | _ => simp [instances, children, Instance.toValue]

/-- The instances in an instance in a value are in the value. -/
theorem mem_instances_trans {v : Value} {i j : Instance} (hj : j ∈ i.toValue.instances)
    (hi : i ∈ v.instances) : j ∈ v.instances := by
  induction v using induct_children with
  | step v ih =>
      rcases mem_instances_iff.1 hi with rfl | ⟨child, hchild, hi⟩
      · exact hj
      · exact mem_instances_iff.2 (.inr ⟨child, hchild, ih child hchild hi⟩)

/-- An instance in a value is a part of it. -/
theorem toValue_mem_parts {v : Value} {i : Instance} (h : i ∈ v.instances) :
    i.toValue ∈ v.parts := by
  induction v using induct_children with
  | step v ih =>
      rcases mem_instances_iff.1 h with rfl | ⟨child, hchild, hi⟩
      · rw [parts_eq]
        exact List.mem_cons_self
      · exact mem_parts_of_child hchild (ih child hchild hi)

end Value

theorem declareCredential_eq (c : Credential) (pool : Pool) :
    declareCredential c pool = pool.declare (.credential c) := by
  change (declareCredential c).run pool = _
  cases h : pool.lookup? (Composite.credential c).text with
  | some name =>
      rw [Pool.declare_of_lookup? h]
      have hregister : pool.register c.toExpr.render = _ := Pool.register_of_lookup? h
      simp only [declareCredential, StateT.run_bind, StateT.run_modifyGet, hregister, pure_bind]
      rfl
  | none =>
      rw [Pool.declare_of_none h]
      have hregister : pool.register c.toExpr.render = _ := Pool.register_of_none h
      simp only [declareCredential, StateT.run_bind, StateT.run_modifyGet, hregister, pure_bind]
      rfl

theorem declareInstance_eq (i : Instance) (pool : Pool) :
    declareInstance i pool = pool.declare (.instanceOf i) := by
  change (declareInstance i).run pool = _
  cases h : pool.lookup? (Composite.instanceOf i).text with
  | some name =>
      rw [Pool.declare_of_lookup? h]
      have hlookup : pool.lookup? i.toExpr.render = some name := h
      simp only [declareInstance, StateT.run_bind, StateT.run_get, pure_bind, hlookup]
      rfl
  | none =>
      rw [Pool.declare_of_none h]
      have hlookup : pool.lookup? i.toExpr.render = none := h
      have hregister : pool.register i.toExpr.render = _ := Pool.register_of_none h
      simp only [declareInstance, StateT.run_bind, StateT.run_get, StateT.run_modifyGet, pure_bind,
        hlookup, hregister, Pool.substitute_eq_replace]
      rfl

/-- The statements for the items of an array are those for their instances. -/
theorem declareNestedItems_eq {items : List Value}
    (h : ∀ item ∈ items, ∀ pool, declareNested item pool =
      pool.declareAll (item.instances.map .instanceOf)) (pool : Pool) :
    declareNestedItems items pool =
      pool.declareAll ((Value.itemInstances items).map .instanceOf) := by
  induction items generalizing pool with
  | nil => rfl
  | cons item rest ih =>
      obtain ⟨hitem, hrest⟩ := List.forall_mem_cons.1 h
      have hstep : declareNestedItems (item :: rest) pool =
          ((declareNested item pool).1 ++ (declareNestedItems rest (declareNested item pool).2).1,
            (declareNestedItems rest (declareNested item pool).2).2) := rfl
      rw [hstep, hitem, ih hrest, Value.itemInstances, List.map_append, Pool.declareAll_append]

/-- The statements for the entries of a map are those for their instances. -/
theorem declareNestedEntries_eq {entries : List (String × Value)}
    (h : ∀ entry ∈ entries, ∀ pool, declareNested entry.2 pool =
      pool.declareAll (entry.2.instances.map .instanceOf)) (pool : Pool) :
    declareNestedEntries entries pool =
      pool.declareAll ((Value.entryInstances entries).map .instanceOf) := by
  induction entries generalizing pool with
  | nil => rfl
  | cons entry rest ih =>
      obtain ⟨hentry, hrest⟩ := List.forall_mem_cons.1 h
      obtain ⟨key, value⟩ := entry
      have hstep : declareNestedEntries ((key, value) :: rest) pool =
          ((declareNested value pool).1 ++
              (declareNestedEntries rest (declareNested value pool).2).1,
            (declareNestedEntries rest (declareNested value pool).2).2) := rfl
      rw [hstep, hentry, ih hrest, Value.entryInstances, List.map_append, Pool.declareAll_append]

/-- The walk over a value builds the instances in it, innermost first. -/
theorem declareNested_eq (v : Value) (pool : Pool) :
    declareNested v pool = pool.declareAll (v.instances.map .instanceOf) := by
  induction v using Value.induct generalizing pool with
  | array items ih => exact declareNestedItems_eq ih pool
  | map entries ih => exact declareNestedEntries_eq ih pool
  | instanceOf className properties ih =>
      have hstep : declareNested (.instanceOf className properties) pool =
          ((declareNestedEntries properties pool).1 ++
              (declareInstance ⟨className, properties⟩ (declareNestedEntries properties pool).2).1,
            (declareInstance ⟨className, properties⟩ (declareNestedEntries properties pool).2).2) :=
        rfl
      rw [hstep, declareNestedEntries_eq ih, declareInstance_eq, Value.instances, List.map_append,
        Pool.declareAll_append, List.map_singleton, Pool.declareAll, Pool.declareAll,
        List.append_nil]
  | _ => rfl

/-! ## The walks over the parameters -/

/-- The parameters of which a credential is built. -/
def Parameter.needsCredential (p : Parameter) : Bool := p.type.isCredential && !p.value.isNull

/-- The parameters of which instances are built. -/
def Parameter.needsInstances (p : Parameter) : Bool := p.isEmbedded && !p.value.isNull

/-- The credentials that parameters need, or the first failure. -/
def credentialsOf : List (String × Parameter) → Except Error (List Credential)
  | [] => .ok []
  | (property, p) :: rest =>
      if p.needsCredential then do
        let c ← Credential.ofValue property p.value
        let others ← credentialsOf rest
        pure (c :: others)
      else credentialsOf rest

/-- The values of a parameter as instances, or the first failure. -/
def Instance.ofValues (className : String) : List Value → Except Error (List Instance)
  | [] => .ok []
  | value :: rest => do
      let i ← Instance.ofValue className value
      let others ← Instance.ofValues className rest
      pure (i :: others)

/-- The instances that a parameter embeds, or the first failure. -/
def Parameter.instances (p : Parameter) : Except Error (List Instance) :=
  Instance.ofValues p.type.elementType p.embeddedValues

/-- The instances that parameters embed, or the first failure. -/
def instancesOf : List (String × Parameter) → Except Error (List Instance)
  | [] => .ok []
  | (_, p) :: rest =>
      if p.needsInstances then do
        let own ← p.instances
        let others ← instancesOf rest
        pure (own ++ others)
      else instancesOf rest

/-- Instances with all instances inside them, innermost first. -/
def withNested (instances : List Instance) : List Composite :=
  instances.flatMap fun i => i.toValue.instances.map .instanceOf

theorem withNested_append (xs ys : List Instance) :
    withNested (xs ++ ys) = withNested xs ++ withNested ys := List.flatMap_append

/-- Whether a computation builds a list, on every pool.  A failure is that of
the list, whatever was built before it. -/
def Builder.Builds (b : Builder (List Statement)) : Except Error (List Composite) → Prop
  | .ok xs => ∀ pool, b pool = (.ok (pool.declareAll xs).1, (pool.declareAll xs).2)
  | .error e => ∀ pool, (b pool).1 = .error e

namespace Builder

theorem bind_of_error {α β : Type} {b : Builder α} {pool : Pool} {e : Error}
    (h : (b pool).1 = .error e) (f : α → Builder β) : ((b >>= f) pool).1 = .error e := by
  simp only [bind, ExceptT.bind, ExceptT.mk, StateT.bind]
  rcases hb : b pool with ⟨r, next⟩
  rw [hb] at h
  obtain rfl : r = .error e := h
  rfl

theorem bind_of_ok {α β : Type} {b : Builder α} {pool next : Pool} {a : α}
    (h : b pool = (.ok a, next)) (f : α → Builder β) : (b >>= f) pool = f a next := by
  simp only [bind, ExceptT.bind, ExceptT.mk, StateT.bind]
  rw [h]
  rfl

theorem builds_nil : Builds (pure []) (.ok []) := fun _ => rfl

theorem builds_throw (e : Error) : Builds (throw e) (.error e) := fun _ => rfl

theorem builds_lift {own : StateM Pool (List Statement)} {xs : List Composite}
    (h : ∀ pool, own pool = pool.declareAll xs) : Builds (liftM own) (.ok xs) := by
  intro pool
  have hrun : (liftM own : Builder (List Statement)) pool = (.ok (own pool).1, (own pool).2) := rfl
  rw [hrun, h]

/-- Two lists that may fail, one behind the other. -/
theorem map_append {α : Type} {f : List α → List Composite}
    (hf : ∀ xs ys, f (xs ++ ys) = f xs ++ f ys) (xs ys : Except Error (List α)) :
    (do let own ← xs; let others ← ys; pure (own ++ others)).map f =
      (do let own ← xs.map f; let others ← ys.map f; pure (own ++ others)) := by
  cases xs with
  | error e => rfl
  | ok xs =>
      cases ys with
      | error e => rfl
      | ok ys => exact congrArg Except.ok (hf xs ys)

/-- Two computations one after another build one list behind the other. -/
theorem Builds.append {a b : Builder (List Statement)} {xs ys : Except Error (List Composite)}
    (ha : a.Builds xs) (hb : b.Builds ys) :
    Builds (do let own ← a; let others ← b; pure (own ++ others))
      (do let own ← xs; let others ← ys; pure (own ++ others)) := by
  cases xs with
  | error e => exact fun pool => bind_of_error (ha pool) _
  | ok xs =>
      cases ys with
      | error e =>
          intro pool
          rw [bind_of_ok (ha pool)]
          exact bind_of_error (hb _) _
      | ok ys =>
          intro pool
          rw [bind_of_ok (ha pool), bind_of_ok (hb _), Pool.declareAll_append]
          rfl

theorem exists_of_map_eq_ok {α β : Type} {f : α → β} {xs : Except Error α} {y : β}
    (h : xs.map f = .ok y) : ∃ x, xs = .ok x ∧ f x = y := by
  cases xs with
  | error e => cases h
  | ok x => exact ⟨x, rfl, Except.ok.inj h⟩

/-- A computation that succeeds has built a list. -/
theorem Builds.of_ok {b : Builder (List Statement)} {xs : Except Error (List Composite)}
    (h : b.Builds xs) {pool next : Pool} {statements : List Statement}
    (hrun : b pool = (.ok statements, next)) :
    ∃ ys, xs = .ok ys ∧ pool.declareAll ys = (statements, next) := by
  cases xs with
  | error e =>
      have herror : (b pool).1 = .error e := h pool
      rw [hrun] at herror
      cases herror
  | ok ys =>
      have hok : b pool = (.ok (pool.declareAll ys).1, (pool.declareAll ys).2) := h pool
      rw [hrun] at hok
      obtain ⟨hfirst, hsecond⟩ := Prod.mk.inj hok
      exact ⟨ys, rfl, Prod.ext (Except.ok.inj hfirst).symm hsecond.symm⟩

end Builder

/-- The credentials of the parameters are built in their order. -/
theorem declareCredentials_builds (parameters : List (String × Parameter)) :
    (declareCredentials parameters).Builds
      ((credentialsOf parameters).map (·.map .credential)) := by
  induction parameters with
  | nil => exact Builder.builds_nil
  | cons parameter rest ih =>
      obtain ⟨property, p⟩ := parameter
      by_cases hneeds : p.needsCredential = true
      · rw [credentialsOf, if_pos hneeds, declareCredentials]
        rw [Parameter.needsCredential] at hneeds
        rw [if_pos hneeds]
        cases hc : Credential.ofValue property p.value with
        | error e => exact Builder.builds_throw e
        | ok c =>
            have hown : Builder.Builds (liftM (declareCredential c)) (.ok [.credential c]) :=
              Builder.builds_lift fun pool => by
                rw [declareCredential_eq, Pool.declareAll, Pool.declareAll, List.append_nil]
            have hboth := hown.append ih
            rw [show (.ok [.credential c] : Except Error (List Composite)) =
              Except.map (·.map .credential) (.ok [c]) from rfl,
              ← Builder.map_append fun _ _ => List.map_append] at hboth
            exact hboth
      · rw [credentialsOf, if_neg hneeds, declareCredentials]
        rw [Parameter.needsCredential] at hneeds
        rw [if_neg hneeds]
        exact ih

/-- The embedded values of a parameter are built with all instances inside them. -/
theorem declareEmbedded_builds (className : String) (values : List Value) :
    (declareEmbedded className values).Builds
      ((Instance.ofValues className values).map withNested) := by
  induction values with
  | nil => exact Builder.builds_nil
  | cons value rest ih =>
      rw [declareEmbedded, Instance.ofValues]
      cases hi : Instance.ofValue className value with
      | error e => exact Builder.builds_throw e
      | ok i =>
          have hown : Builder.Builds (liftM (declareNested i.toValue)) (.ok (withNested [i])) :=
            Builder.builds_lift fun pool => by
              rw [declareNested_eq, withNested, List.flatMap_singleton]
          have hboth := hown.append ih
          rw [show (.ok (withNested [i]) : Except Error (List Composite)) =
            Except.map withNested (.ok [i]) from rfl,
            ← Builder.map_append withNested_append] at hboth
          exact hboth

/-- The embedded values of all parameters are built in their order. -/
theorem declareInstances_builds (parameters : List (String × Parameter)) :
    (declareInstances parameters).Builds ((instancesOf parameters).map withNested) := by
  induction parameters with
  | nil => exact Builder.builds_nil
  | cons parameter rest ih =>
      obtain ⟨property, p⟩ := parameter
      by_cases hneeds : p.needsInstances = true
      · rw [instancesOf, if_pos hneeds, declareInstances]
        rw [Parameter.needsInstances] at hneeds
        rw [if_pos hneeds]
        have hboth := (declareEmbedded_builds p.type.elementType p.embeddedValues).append ih
        rwa [← Builder.map_append withNested_append] at hboth
      · rw [instancesOf, if_neg hneeds, declareInstances]
        rw [Parameter.needsInstances] at hneeds
        rw [if_neg hneeds]
        exact ih

/-! ## Scripts -/

/-- A script builds the credentials on an empty pool and the instances on the pool
that is left, and its block is made with the pool that is left then. -/
theorem Invocation.script_eq (source : NameSource) (inv : Invocation) :
    inv.script source = (do
      let credentials ← credentialsOf inv.parameters.entries
      let instances ← instancesOf inv.parameters.entries
      let first := (Pool.empty source).declareAll (credentials.map .credential)
      let second := first.2.declareAll (withNested instances)
      let block ← inv.toExpr second.2
      pure ⟨first.1, second.1, block⟩) := by
  have hcredentials := declareCredentials_builds inv.parameters.entries
  have hinstances := declareInstances_builds inv.parameters.entries
  rw [script, build]
  cases hc : credentialsOf inv.parameters.entries with
  | error e =>
      rw [hc] at hcredentials
      exact Builder.bind_of_error (hcredentials _) _
  | ok credentials =>
      rw [hc] at hcredentials
      rw [Builder.bind_of_ok (hcredentials _)]
      cases hi : instancesOf inv.parameters.entries with
      | error e =>
          rw [hi] at hinstances
          exact Builder.bind_of_error (hinstances _) _
      | ok instances =>
          rw [hi] at hinstances
          rw [Builder.bind_of_ok (hinstances _)]
          rw [Builder.bind_of_ok (b := get) rfl]
          change _ = (inv.toExpr _ >>= _)
          cases inv.toExpr _ <;> rfl

/-- What a script builds, in the order of its statements. -/
def Invocation.composites (inv : Invocation) : Except Error (List Composite) := do
  let credentials ← credentialsOf inv.parameters.entries
  let instances ← instancesOf inv.parameters.entries
  pure (credentials.map .credential ++ withNested instances)

/-- How a script comes about: its statements are those of two runs, over the credentials
and over the instances of the parameters, and its block is made with the last pool. -/
structure Invocation.Run (inv : Invocation) (source : NameSource) (script : Script)
    (built : List Credential) (embedded : List Instance) (first second : Pool) : Prop where
  credentialsOf_eq : credentialsOf inv.parameters.entries = .ok built
  instancesOf_eq : instancesOf inv.parameters.entries = .ok embedded
  declare_credentials : (Pool.empty source).declareAll (built.map .credential) =
    (script.credentials, first)
  declare_instances : first.declareAll (withNested embedded) = (script.instances, second)
  toExpr_eq : inv.toExpr second = .ok script.block

/-- Every script comes about by two runs. -/
theorem Invocation.exists_run {source : NameSource} {inv : Invocation} {script : Script}
    (h : inv.script source = .ok script) :
    ∃ built embedded first second, inv.Run source script built embedded first second := by
  rw [script_eq] at h
  cases hc : credentialsOf inv.parameters.entries with
  | error e => rw [hc] at h; cases h
  | ok built =>
      cases hi : instancesOf inv.parameters.entries with
      | error e => rw [hc, hi] at h; cases h
      | ok embedded =>
          rw [hc, hi] at h
          change (inv.toExpr _ >>= _) = _ at h
          cases hblock : inv.toExpr (((Pool.empty source).declareAll
              (built.map .credential)).2.declareAll (withNested embedded)).2 with
          | error e => rw [hblock] at h; cases h
          | ok block =>
              rw [hblock] at h
              obtain rfl := Except.ok.inj h
              exact ⟨built, embedded, _, _, hc, hi, rfl, rfl, hblock⟩

/-- Both runs are one run over all that is built. -/
theorem Invocation.Run.declare_all {source : NameSource} {inv : Invocation} {script : Script}
    {built : List Credential} {embedded : List Instance} {first second : Pool}
    (h : inv.Run source script built embedded first second) :
    (Pool.empty source).declareAll (built.map .credential ++ withNested embedded) =
      (script.credentials ++ script.instances, second) := by
  rw [Pool.declareAll_append, h.declare_credentials, h.declare_instances]

/-- The statements of a script are those of one run, and its block is made with the
pool of that run. -/
theorem Invocation.run_of_script {source : NameSource} {inv : Invocation} {script : Script}
    (h : inv.script source = .ok script) :
    ∃ xs, inv.composites = .ok xs ∧
      script.credentials ++ script.instances = ((Pool.empty source).declareAll xs).1 ∧
      inv.toExpr ((Pool.empty source).declareAll xs).2 = .ok script.block := by
  obtain ⟨built, embedded, first, second, hrun⟩ := exists_run h
  refine ⟨built.map .credential ++ withNested embedded, ?_, ?_, ?_⟩
  · rw [composites, hrun.credentialsOf_eq, hrun.instancesOf_eq]
    rfl
  · rw [hrun.declare_all]
  · rw [hrun.declare_all]
    exact hrun.toExpr_eq

end DesiredState
