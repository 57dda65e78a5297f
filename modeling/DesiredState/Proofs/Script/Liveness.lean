import DesiredState.Proofs.Script.Positions
import Mathlib.Data.List.Nodup

/-!
# Variables that are used

A credential is built because a parameter is one, and the block refers to it there.  An
instance is built because it is embedded, or because it is inside another instance.  In
the first case the block refers to it, in the second the statement of the instance around
it does, and that one comes later.

There is one exception.  A parameter that is a credential and embedded as well is built
twice, and the block refers to the credential only.  So the instance is built for nothing,
unless it is needed elsewhere.

Where a map has the key of the class, it may have the text of an instance that was built
before.  Then it becomes a variable, and the instances inside it are built for nothing
too.  So the values are taken without that key.

Instances with different numbers may have the same text, and then one statement is there
for both.  The instances inside the two have the same texts in turn, so it does not matter
for which of them the statement was made.

## Main definitions

* `Script.Uses` — something behind a statement refers to its variable.
* `Invocation.Needs` — an instance is embedded by a parameter that is not a credential, or
  is directly inside another one.

## Main results

* `Script.Constructs.text_eq` — what a statement constructs has one text.
* `Invocation.uses_iff` — the variables that are used.
* `Invocation.not_forall_uses`, `Invocation.not_forall_uses_of_classKey` — variables that
  are not used.
-/

namespace DesiredState

/-! ## Outermost instances -/

namespace Value

theorem mem_entryTopmost_iff {entries : List (String × Value)} {i : Instance} :
    i ∈ entryTopmost entries ↔ ∃ child ∈ Entries.values entries, i ∈ child.topmost := by
  rw [entryTopmost_eq, ← List.mem_flatMap, Entries.values, List.flatMap_map]

/-- The outermost instances of a value are the value itself, or those of the values inside
it. -/
theorem mem_topmost_iff {v : Value} {i : Instance} :
    i ∈ v.topmost ↔
      i.toValue = v ∨ v.isInstance = false ∧ ∃ child ∈ v.children, i ∈ child.topmost := by
  cases v with
  | array items =>
      rw [topmost, itemTopmost_eq, List.mem_flatMap]
      simp [children, isInstance, Instance.toValue]
  | map entries =>
      rw [topmost, mem_entryTopmost_iff]
      simp [children, isInstance, Instance.toValue]
  | instanceOf className properties =>
      rw [topmost, List.mem_singleton]
      cases i
      simp [isInstance, Instance.toValue]
  | _ => simp [topmost, children, isInstance, Instance.toValue]

/-- Outermost instances are instances in the value. -/
theorem mem_instances_of_topmost {v : Value} {i : Instance} (h : i ∈ v.topmost) :
    i ∈ v.instances := by
  induction v using induct_children with
  | step v ih =>
      rw [mem_instances_iff]
      rcases mem_topmost_iff.1 h with heq | ⟨-, child, hchild, hi⟩
      · exact .inl heq
      · exact .inr ⟨child, hchild, ih child hchild hi⟩

/-- Each instance in a value is an outermost one, of the value or of the properties of
another instance. -/
theorem exists_topmost {v : Value} {i : Instance} (h : i ∈ v.instances) :
    i ∈ v.topmost ∨ ∃ outer ∈ v.instances, i ∈ entryTopmost outer.properties := by
  induction v using induct_children with
  | step v ih =>
      rcases mem_instances_iff.1 h with heq | ⟨child, hchild, hi⟩
      · exact .inl (mem_topmost_iff.2 (.inl heq))
      rcases ih child hchild hi with htop | ⟨outer, houter, htop⟩
      · cases v with
        | instanceOf className properties =>
            exact .inr ⟨⟨className, properties⟩, mem_instances_iff.2 (.inl rfl),
              mem_entryTopmost_iff.2 ⟨child, hchild, htop⟩⟩
        | _ => exact .inl (mem_topmost_iff.2 (.inr ⟨rfl, child, hchild, htop⟩))
      · exact .inr ⟨outer, mem_instances_iff.2 (.inr ⟨child, hchild, houter⟩), htop⟩

end Value

/-! ## Outermost instances in trees -/

namespace Literal

mutual

/-- The outermost tables with a class in a tree. -/
def instanceTables : Literal → List Literal
  | array items => itemInstanceTables items
  | cast inner => instanceTables inner
  | table entries =>
      if classKey ∈ Entries.names entries then [table entries] else entryInstanceTables entries
  | _ => []

/-- The outermost tables with a class in the items of an array. -/
def itemInstanceTables : List Literal → List Literal
  | [] => []
  | item :: rest => instanceTables item ++ itemInstanceTables rest

/-- The outermost tables with a class in the entries of a table. -/
def entryInstanceTables : List (String × Literal) → List Literal
  | [] => []
  | (_, value) :: rest => instanceTables value ++ entryInstanceTables rest

end

end Literal

namespace Value

theorem itemInstanceTables_itemForms {items : List Value}
    (h : ∀ item ∈ items, item.form.instanceTables = item.topmost.map fun i => i.toValue.form) :
    Literal.itemInstanceTables (itemForms items) =
      (itemTopmost items).map fun i => i.toValue.form := by
  induction items with
  | nil => rfl
  | cons item rest ih =>
      obtain ⟨hitem, hrest⟩ := List.forall_mem_cons.1 h
      rw [itemForms, Literal.itemInstanceTables, hitem, ih hrest, itemTopmost, List.map_append]

theorem entryInstanceTables_entryForms {entries : List (String × Value)}
    (h : ∀ entry ∈ entries,
      entry.2.form.instanceTables = entry.2.topmost.map fun i => i.toValue.form) :
    Literal.entryInstanceTables (entryForms entries) =
      (entryTopmost entries).map fun i => i.toValue.form := by
  induction entries with
  | nil => rfl
  | cons entry rest ih =>
      obtain ⟨hentry, hrest⟩ := List.forall_mem_cons.1 h
      obtain ⟨key, value⟩ := entry
      rw [entryForms, Literal.entryInstanceTables, hentry, ih hrest, entryTopmost, List.map_append]

/-- Without the key of the class, the outermost tables with a class are those of the
outermost instances. -/
theorem instanceTables_form {v : Value} (hclass : v.ClassFree) :
    v.form.instanceTables = v.topmost.map fun i => i.toValue.form := by
  induction v using Value.induct with
  | array items ih =>
      have hitems := itemInstanceTables_itemForms fun item hitem =>
        ih item hitem (hclass.child hitem)
      rcases form_array_cases items with hform | hform
      · rw [hform]
        exact hitems
      · rw [hform]
        exact hitems
  | map entries ih =>
      have hnames : Entries.names (entryForms entries) = Entries.names entries := by
        rw [entryForms_eq, Entries.names, List.map_map]
        rfl
      have hkey : classKey ∉ Entries.names (entryForms entries) := by
        rw [hnames]
        exact (Entries.get?_eq_none_iff _ _).1 hclass.get?_classKey
      rw [form, Literal.instanceTables, if_neg hkey]
      exact entryInstanceTables_entryForms fun entry hentry =>
        ih entry hentry (hclass.child (mem_children_map hentry))
  | instanceOf className properties ih =>
      have hkey : classKey ∈ Entries.names
          ((classKey, Literal.text className) :: entryForms properties) := List.mem_cons_self
      rw [form, Literal.instanceTables, if_pos hkey]
      rfl
  | float x => rcases floatForm_cases x with hform | ⟨cs, hform⟩ <;> rw [form, hform] <;> rfl
  | _ => rfl

end Value

/-- Instances with the same text have instances with the same texts inside them. -/
theorem Composite.exists_topmost_of_text_eq {i j : Instance} (hi : i.toValue.ClassFree)
    (hj : j.toValue.ClassFree) (htext : (instanceOf i).text = (instanceOf j).text)
    {inner : Instance} (hinner : inner ∈ Value.entryTopmost i.properties) :
    ∃ other ∈ Value.entryTopmost j.properties,
      (instanceOf other).text = (instanceOf inner).text := by
  rw [text_eq, text_eq, Value.literal_eq_iff, form_instanceOf, form_instanceOf] at htext
  obtain ⟨-, hforms⟩ := List.cons.inj (Literal.table.inj htext)
  have htables : ∀ k : Instance, k.toValue.ClassFree →
      Literal.entryInstanceTables (Value.entryForms k.properties) =
        (Value.entryTopmost k.properties).map fun i => i.toValue.form := fun k hk =>
    Value.entryInstanceTables_entryForms fun entry hentry =>
      Value.instanceTables_form (hk.child (Value.mem_children_instanceOf k.className hentry))
  have hmem : inner.toValue.form ∈
      (Value.entryTopmost i.properties).map fun i => i.toValue.form := List.mem_map_of_mem hinner
  rw [← htables i hi, hforms, htables j hj] at hmem
  obtain ⟨other, hother, hform⟩ := List.mem_map.1 hmem
  refine ⟨other, hother, ?_⟩
  rw [text_eq, text_eq, Value.literal_eq_iff]
  exact hform

/-! ## References of payloads -/

namespace Value

variable {nameOf : Instance → String} {credentialName? : Credential → Option String}

/-- A value with a variable refers to that. -/
theorem references_toExprWith_of_some {v : Value} {name : String}
    (h : v.sharedName? nameOf credentialName? = some name) :
    (v.toExprWith (sharedName? nameOf credentialName?)).references = [name] := by
  cases v with
  | map entries => rw [toExprWith, h]; rfl
  | instanceOf className properties => rw [toExprWith, h]; rfl
  | _ => cases h

/-- A value without a variable refers to what the values inside it refer to. -/
theorem references_toExprWith_of_none {v : Value}
    (h : v.sharedName? nameOf credentialName? = none) :
    (v.toExprWith (sharedName? nameOf credentialName?)).references =
      v.children.flatMap fun child =>
        (child.toExprWith (sharedName? nameOf credentialName?)).references := by
  cases v with
  | array items =>
      have harray : (Expr.array
          (itemsToExprWith (sharedName? nameOf credentialName?) items)).references =
            items.flatMap fun item =>
              (item.toExprWith (sharedName? nameOf credentialName?)).references := by
        rw [Expr.references_array, itemsToExprWith_eq, List.flatMap_map]
      rw [toExprWith]
      split
      · exact harray
      · exact harray
  | map entries =>
      rw [toExprWith, h]
      dsimp only
      rw [Expr.references_table, entriesToExprWith_eq, List.flatMap_map, children, Entries.values,
        List.flatMap_map]
  | instanceOf className properties => cases h
  | _ => rfl

/-- A value refers to its outermost instances, and else only to credentials. -/
theorem exists_of_mem_references {v : Value} {name : String}
    (h : name ∈ (v.toExprWith (sharedName? nameOf credentialName?)).references) :
    (∃ i ∈ v.topmost, nameOf i = name) ∨ ∃ c, credentialName? c = some name := by
  induction v using induct_children with
  | step v ih =>
      cases hname : v.sharedName? nameOf credentialName? with
      | none =>
          rw [references_toExprWith_of_none hname] at h
          obtain ⟨child, hchild, h⟩ := List.mem_flatMap.1 h
          refine (ih child hchild h).imp_left ?_
          rintro ⟨i, hi, heq⟩
          have hinstance : v.isInstance = false := by
            cases v with
            | instanceOf className properties => cases hname
            | _ => rfl
          exact ⟨i, mem_topmost_iff.2 (.inr ⟨hinstance, child, hchild, hi⟩), heq⟩
      | some own =>
          rw [references_toExprWith_of_some hname, List.mem_singleton] at h
          subst h
          cases v with
          | map entries =>
              obtain ⟨c, -, hc⟩ := sharedName?_map_eq_some_iff.1 hname
              exact .inr ⟨c, hc⟩
          | instanceOf className properties =>
              exact .inl ⟨⟨className, properties⟩, mem_topmost_iff.2 (.inl rfl),
                Option.some.inj hname⟩
          | _ => cases hname

/-- A value refers to each of its outermost instances. -/
theorem nameOf_mem_references {v : Value} {i : Instance} (h : i ∈ v.topmost) :
    nameOf i ∈ (v.toExprWith (sharedName? nameOf credentialName?)).references := by
  induction v using induct_children with
  | step v ih =>
      rcases mem_topmost_iff.1 h with rfl | ⟨hinstance, child, hchild, hi⟩
      · have hself : i.toValue.sharedName? nameOf credentialName? = some (nameOf i) := rfl
        rw [references_toExprWith_of_some hself]
        exact List.mem_cons_self
      · cases hname : v.sharedName? nameOf credentialName? with
        | none =>
            rw [references_toExprWith_of_none hname]
            exact List.mem_flatMap.2 ⟨child, hchild, ih child hchild hi⟩
        | some own =>
            -- a credential has no instances inside it
            cases v with
            | map entries =>
                obtain ⟨c, hmap, -⟩ := sharedName?_map_eq_some_iff.1 hname
                rw [hmap] at h
                exact absurd h List.not_mem_nil
            | instanceOf className properties => cases hinstance
            | _ => cases hname

end Value

/-- The statement for an instance refers to the outermost instances in its properties. -/
theorem Instance.references_statementWith (choose : Value → Option String) (name : String)
    (i : Instance) : (i.statementWith choose name).references =
      (Entries.values i.properties).flatMap fun v => (v.toExprWith choose).references := by
  rw [statementWith, Statement.references, Expr.references_table, Value.entriesToExprWith_eq,
    List.flatMap_map, Entries.values, List.flatMap_map]

/-! ## Used variables -/

/-- What a statement constructs has one text. -/
theorem Script.Constructs.text_eq {script : Script} {s : Statement} {x y : Composite}
    (hx : script.Constructs s x) (hy : script.Constructs s y) : x.text = y.text := by
  obtain ⟨-, m, hm, hfirst⟩ := hx
  obtain ⟨-, n, hn, hsecond⟩ := hy
  -- both numbers of rounds lead to what their sum leads to
  have hsame : (Expr.inline script.definitions)^[m] s.constructed =
      (Expr.inline script.definitions)^[n] s.constructed := by
    have hboth := Function.iterate_add_apply (Expr.inline script.definitions) m n s.constructed
    rw [Function.iterate_fixed (Expr.inline_of_references_eq_nil hn), Nat.add_comm,
      Function.iterate_add_apply, Function.iterate_fixed (Expr.inline_of_references_eq_nil hm)]
      at hboth
    exact hboth
  rw [Composite.text, Composite.text, Expr.render, Expr.render, ← hfirst, ← hsecond, hsame]

/-- A later statement of a script, or its block, refers to the variable of a statement. -/
def Script.Uses (script : Script) (s : Statement) : Prop :=
  ∃ front back, script.credentials ++ script.instances = front ++ s :: back ∧
    (s.assigned ∈ script.block.references ∨ ∃ later ∈ back, s.assigned ∈ later.references)

namespace Invocation

/-- An instance is directly inside an embedded instance or one inside that, or it is
embedded itself by a parameter that is not a credential. -/
def Needs (inv : Invocation) (embedded : List Instance) (i : Instance) : Prop :=
  (∃ outer ∈ embedded.flatMap (fun i => i.toValue.instances),
    i ∈ Value.entryTopmost outer.properties) ∨
  ∃ parameter ∈ inv.parameters.entries, parameter.2.needsInstances = true ∧
    parameter.2.needsCredential = false ∧ ∃ own, parameter.2.instances = .ok own ∧ i ∈ own

variable {source : NameSource} {inv : Invocation} {script : Script} {built : List Credential}
  {embedded : List Instance} {first second : Pool}

namespace Run

/-- Statements that assign the same variable are the same. -/
theorem eq_of_assigned_eq (h : inv.Run source script built embedded first second)
    {s t : Statement} (hs : s ∈ script.credentials ++ script.instances)
    (ht : t ∈ script.credentials ++ script.instances) (heq : s.assigned = t.assigned) : s = t :=
  List.inj_on_of_nodup_map h.nodup hs ht heq

/-- Each of the first statements was made for a credential. -/
theorem exists_credential_of_mem (h : inv.Run source script built embedded first second)
    {s : Statement} (hs : s ∈ script.credentials) :
    ∃ c ∈ built, first.Declares s (.credential c) := by
  have hrun := h.declare_credentials
  obtain ⟨x, hx, hdeclares⟩ := Pool.exists_declares_of_mem (s := s) (Pool.empty source)
    (built.map .credential) (by rwa [hrun])
  obtain ⟨c, hc, rfl⟩ := List.mem_map.1 hx
  rw [hrun] at hdeclares
  exact ⟨c, hc, hdeclares⟩

/-- The pool knows what a statement constructs by the variable of the statement. -/
theorem lookup?_of_constructs (h : inv.Run source script built embedded first second)
    {s : Statement} (hs : s ∈ script.credentials ++ script.instances) {x : Composite}
    (hx : script.Constructs s x) : second.lookup? x.text = some s.assigned := by
  have hrun := h.declare_all
  obtain ⟨y, -, hdeclares⟩ := Pool.exists_declares_of_mem (s := s) (Pool.empty source)
    (built.map .credential ++ withNested embedded) (by rwa [hrun])
  rw [hrun] at hdeclares
  rw [hx.text_eq (h.constructs_of_declares hs hdeclares)]
  exact hdeclares.2

/-- What a statement refers to is used. -/
theorem uses_of_mem_references (h : inv.Run source script built embedded first second)
    {s later : Statement} (hs : s ∈ script.credentials ++ script.instances)
    (hlater : later ∈ script.credentials ++ script.instances)
    (href : s.assigned ∈ later.references) : script.Uses s := by
  obtain ⟨front, back, hsplit⟩ := List.append_of_mem hlater
  obtain ⟨t, ht, heq⟩ := List.mem_map.1
    (assigned_before_of_declareAll h.declare_all hsplit _ href)
  obtain rfl := h.eq_of_assigned_eq (by rw [hsplit]; exact List.mem_append_left _ ht) hs heq
  obtain ⟨start, rest, rfl⟩ := List.append_of_mem ht
  exact ⟨start, rest ++ later :: back, by rw [hsplit, List.append_assoc]; rfl,
    .inr ⟨later, by simp, href⟩⟩

/-- What the block refers to is used. -/
theorem uses_of_mem_block {s : Statement} (hs : s ∈ script.credentials ++ script.instances)
    (href : s.assigned ∈ script.block.references) : script.Uses s := by
  obtain ⟨front, back, hsplit⟩ := List.append_of_mem hs
  exact ⟨front, back, hsplit, .inl href⟩

/-- The entries of the block, and what it refers to. -/
theorem exists_entries (h : inv.Run source script built embedded first second) :
    ∃ entries, List.Forall₂ (IsEntryOf second) inv.parameters.entries entries ∧
      script.block.references = (entries.flatMap fun entry => entry.2.references) := by
  obtain ⟨entries, hentries, hblock⟩ := toExpr_eq_ok_iff.1 h.toExpr_eq
  refine ⟨entries, parameterEntries_eq_ok_iff.1 hentries, ?_⟩
  rw [hblock, references_blockOf, Expr.references_table]

/-- The entry of a parameter that is embedded only refers to its instances. -/
theorem references_of_needsInstances (h : inv.Run source script built embedded first second)
    {property : String} {p : Parameter} (hmem : (property, p) ∈ inv.parameters.entries)
    (hneeds : p.needsInstances = true) (hother : p.needsCredential = false) {entry : Key × Expr}
    (hentry : IsEntryOf second (property, p) entry) :
    ∃ own, p.instances = .ok own ∧
      entry.2.references.map some = own.map fun i => second.lookup? i.toExpr.render := by
  have hshares := shares_parameter h.credentialsOf_eq h.instancesOf_eq h.kinds_second
    (exists_lookup?_credential h.declare_credentials) (exists_lookup?_instance h.declare_instances)
    (fun _ _ => h.lookup?_of_first) hmem hentry hneeds
  rw [Parameter.SharesInstances, hother, if_neg Bool.false_ne_true] at hshares
  obtain ⟨own, hown, -, hreferences⟩ := hshares
  exact ⟨own, hown, hreferences⟩

/-- The entry of any other parameter refers to nothing. -/
theorem references_eq_nil {property : String} {p : Parameter} {entry : Key × Expr}
    (hentry : IsEntryOf second (property, p) entry) (hcredential : p.needsCredential = false)
    (hinstances : p.needsInstances = false) : entry.2.references = [] := by
  obtain ⟨e, hexpr, hvalue⟩ := hentry.exists_own
  rw [Parameter.isShared, hcredential, hinstances, Bool.or_false, if_neg Bool.false_ne_true]
    at hvalue
  rw [hvalue]
  exact Parameter.references_ownExpr hexpr

/-- Instances that are needed are built. -/
theorem mem_of_needs (h : inv.Run source script built embedded first second) {i : Instance}
    (hi : inv.Needs embedded i) : i ∈ embedded.flatMap fun i => i.toValue.instances := by
  rcases hi with ⟨outer, houter, hi⟩ | ⟨⟨property, p⟩, hmem, hneeds, -, own, hown, hi⟩
  · obtain ⟨child, hchild, hi⟩ := Value.mem_entryTopmost_iff.1 hi
    exact mem_nested houter hchild (Value.mem_instances_of_topmost hi)
  · obtain ⟨mine, hmine, hsub⟩ := exists_instances h.instancesOf_eq hmem hneeds
    obtain rfl := Except.ok.inj (hown.symm.trans hmine)
    exact List.mem_flatMap.2 ⟨i, hsub i hi, Value.mem_instances_iff.2 (.inl rfl)⟩

/-- Without a parameter that is a credential and embedded, all instances are needed. -/
theorem needs_of_mem (h : inv.Run source script built embedded first second)
    (hapart : ∀ parameter ∈ inv.parameters.entries,
      ¬ (parameter.2.needsCredential = true ∧ parameter.2.needsInstances = true))
    {i : Instance} (hi : i ∈ embedded.flatMap fun i => i.toValue.instances) :
    inv.Needs embedded i := by
  obtain ⟨outer, houter, hi⟩ := List.mem_flatMap.1 hi
  rcases Value.exists_topmost hi with htop | ⟨inner, hinner, htop⟩
  · obtain rfl : i = outer := List.mem_singleton.1 htop
    obtain ⟨parameter, hmem, hneeds, own, hown, hi⟩ :=
      exists_of_mem_instancesOf h.instancesOf_eq i houter
    have hother : parameter.2.needsCredential = false := by
      rw [← Bool.not_eq_true]
      exact fun hcredential => hapart parameter hmem ⟨hcredential, hneeds⟩
    exact .inr ⟨parameter, hmem, hneeds, hother, own, hown, hi⟩
  · exact .inl ⟨inner, List.mem_flatMap.2 ⟨outer, houter, hinner⟩, htop⟩

/-- The block refers to credentials, and to instances that are needed. -/
theorem of_mem_block (h : inv.Run source script built embedded first second) {name : String}
    (href : name ∈ script.block.references) :
    (∃ i, inv.Needs embedded i ∧ second.lookup? i.toExpr.render = some name) ∨
      ∃ c, script.credentialName? c = some name := by
  obtain ⟨entries, hentries, hblock⟩ := h.exists_entries
  rw [hblock] at href
  obtain ⟨entry, hentry, href⟩ := List.mem_flatMap.1 href
  obtain ⟨⟨property, p⟩, hmem, hentry⟩ := exists_of_forall₂ hentries.flip entry hentry
  cases hcredential : p.needsCredential with
  | true =>
      obtain ⟨c, own, -, hname, heq⟩ := h.eq_of_needsCredential hmem hcredential hentry
      rw [heq, Expr.references, List.mem_singleton] at href
      exact .inr ⟨c, hname.trans (congrArg some href.symm)⟩
  | false =>
      cases hinstances : p.needsInstances with
      | true =>
          obtain ⟨own, hown, heq⟩ :=
            h.references_of_needsInstances hmem hinstances hcredential hentry
          have hfound := List.mem_map_of_mem (f := some) href
          rw [heq] at hfound
          obtain ⟨i, hi, hname⟩ := List.mem_map.1 hfound
          exact .inl ⟨i, .inr ⟨_, hmem, hinstances, hcredential, own, hown, hi⟩, hname⟩
      | false =>
          rw [references_eq_nil hentry hcredential hinstances] at href
          exact absurd href List.not_mem_nil

/-- Statements refer to credentials, and to instances that are needed. -/
theorem of_mem_statement (h : inv.Run source script built embedded first second)
    (hclass : ∀ parameter ∈ inv.parameters.entries, parameter.2.value.ClassFree)
    {s : Statement} (hs : s ∈ script.credentials ++ script.instances) {name : String}
    (href : name ∈ s.references) :
    (∃ i, inv.Needs embedded i ∧ second.lookup? i.toExpr.render = some name) ∨
      ∃ c, script.credentialName? c = some name := by
  rcases List.mem_append.1 hs with hs | hs
  · obtain ⟨c, -, ⟨current, heq⟩, -⟩ := h.exists_credential_of_mem hs
    rw [heq] at href
    exact absurd href List.not_mem_nil
  · obtain ⟨nameOf, hnames⟩ := h.exists_names
    obtain ⟨outer, houter, -, heq⟩ := h.exists_statementWith hclass hnames hs
    rw [heq, Instance.references_statementWith] at href
    obtain ⟨child, hchild, href⟩ := List.mem_flatMap.1 href
    refine (Value.exists_of_mem_references href).imp_left ?_
    rintro ⟨i, hi, rfl⟩
    have hneeds : inv.Needs embedded i :=
      .inl ⟨outer, houter, Value.mem_entryTopmost_iff.2 ⟨child, hchild, hi⟩⟩
    exact ⟨i, hneeds, hnames i (h.mem_of_needs hneeds)⟩

/-- All credentials are used. -/
theorem uses_credential (h : inv.Run source script built embedded first second)
    {s : Statement} (hs : s ∈ script.credentials) : script.Uses s := by
  obtain ⟨c, hc, -, hlookup⟩ := h.exists_credential_of_mem hs
  obtain ⟨⟨property, p⟩, hmem, hneeds, hofValue⟩ :=
    exists_of_mem_credentialsOf h.credentialsOf_eq c hc
  obtain ⟨entries, hentries, hblock⟩ := h.exists_entries
  obtain ⟨entry, hentry, hown⟩ := exists_of_forall₂ hentries _ hmem
  obtain ⟨d, name, hvalue, hname, heq⟩ := h.eq_of_needsCredential hmem hneeds hown
  obtain rfl := Except.ok.inj (hofValue.symm.trans hvalue)
  rw [h.lookup?_credential, hname] at hlookup
  refine uses_of_mem_block (List.mem_append_left _ hs) ?_
  rw [hblock, ← Option.some.inj hlookup]
  exact List.mem_flatMap.2 ⟨entry, hentry, by rw [heq]; exact List.mem_cons_self⟩

/-- Instances that are needed are used. -/
theorem uses_instance (h : inv.Run source script built embedded first second)
    (hclass : ∀ parameter ∈ inv.parameters.entries, parameter.2.value.ClassFree)
    {i : Instance} (hi : inv.Needs embedded i) {s : Statement}
    (hs : s ∈ script.credentials ++ script.instances)
    (hname : second.lookup? (Composite.instanceOf i).text = some s.assigned) : script.Uses s := by
  rcases hi with ⟨outer, houter, hi⟩ | ⟨⟨property, p⟩, hmem, hneeds, hother, own, hown, hi⟩
  · obtain ⟨nameOf, hnames⟩ := h.exists_names
    obtain ⟨later, hlater, -, hconstructs⟩ := h.exists_instance houter
    -- the statement was made for an instance with the same text
    obtain ⟨twin, htwin, hlookup, heq⟩ := h.exists_statementWith hclass hnames hlater
    have htext : (Composite.instanceOf outer).text = (Composite.instanceOf twin).text := by
      refine hconstructs.text_eq (h.constructs (List.mem_append_right _ hlater) ?_ hlookup)
      rw [heq]
      exact rfl
    obtain ⟨other, hinner, htexts⟩ := Composite.exists_topmost_of_text_eq
      (h.classFree hclass outer houter) (h.classFree hclass twin htwin) htext hi
    obtain ⟨child, hchild, hinner⟩ := Value.mem_entryTopmost_iff.1 hinner
    have hassigned : nameOf other = s.assigned := by
      have hfound := hnames other (mem_nested htwin hchild (Value.mem_instances_of_topmost hinner))
      rw [← htexts] at hname
      exact Option.some.inj (hfound.symm.trans hname)
    refine h.uses_of_mem_references hs (List.mem_append_right _ hlater) ?_
    rw [heq, Instance.references_statementWith, ← hassigned]
    exact List.mem_flatMap.2 ⟨child, hchild, Value.nameOf_mem_references hinner⟩
  · obtain ⟨entries, hentries, hblock⟩ := h.exists_entries
    obtain ⟨entry, hentry, hvalue⟩ := exists_of_forall₂ hentries _ hmem
    obtain ⟨mine, hmine, hreferences⟩ := h.references_of_needsInstances hmem hneeds hother hvalue
    obtain rfl := Except.ok.inj (hown.symm.trans hmine)
    have hfound := List.mem_map_of_mem (f := fun i : Instance => second.lookup? i.toExpr.render) hi
    rw [← hreferences] at hfound
    obtain ⟨name, href, hsome⟩ := List.mem_map.1 hfound
    obtain rfl := Option.some.inj (hsome.trans hname)
    refine uses_of_mem_block hs ?_
    rw [hblock]
    exact List.mem_flatMap.2 ⟨entry, hentry, href⟩

end Run

/-- The variables that are used are those of credentials, and of instances that are inside
others or embedded by a parameter that is not a credential as well.  Without a parameter
that is both, every variable is used. -/
theorem uses_iff (h : inv.script source = .ok script)
    (hclass : ∀ parameter ∈ inv.parameters.entries, parameter.2.value.ClassFree) :
    ∃ embedded, instancesOf inv.parameters.entries = .ok embedded ∧
      (∀ s ∈ script.credentials ++ script.instances, script.Uses s ↔
        s ∈ script.credentials ∨
          ∃ i, inv.Needs embedded i ∧ script.Constructs s (.instanceOf i)) ∧
      ((∀ parameter ∈ inv.parameters.entries,
          ¬ (parameter.2.needsCredential = true ∧ parameter.2.needsInstances = true)) →
        ∀ s ∈ script.credentials ++ script.instances, script.Uses s) := by
  obtain ⟨built, embedded, first, second, hrun⟩ := exists_run h
  refine ⟨embedded, hrun.instancesOf_eq, fun s hs => ⟨?_, ?_⟩, ?_⟩
  · rintro ⟨front, back, hsplit, href⟩
    have hknown : (∃ i, inv.Needs embedded i ∧ second.lookup? i.toExpr.render = some s.assigned) ∨
        ∃ c, script.credentialName? c = some s.assigned := by
      rcases href with hblock | ⟨later, hlater, href⟩
      · exact hrun.of_mem_block hblock
      · exact hrun.of_mem_statement hclass (by rw [hsplit]; simp [hlater]) href
    rcases hknown with ⟨i, hneeds, hname⟩ | ⟨c, hname⟩
    · obtain ⟨t, ht, hfound, hconstructs⟩ := hrun.exists_instance (hrun.mem_of_needs hneeds)
      obtain rfl := hrun.eq_of_assigned_eq (List.mem_append_right _ ht) hs
        (Option.some.inj (hfound.symm.trans hname))
      exact .inr ⟨i, hneeds, hconstructs⟩
    · have ht := mem_of_credentialName? hname
      rw [hrun.eq_of_assigned_eq (List.mem_append_left _ ht) hs rfl] at ht
      exact .inl ht
  · rintro (hcredential | ⟨i, hneeds, hconstructs⟩)
    · exact hrun.uses_credential hcredential
    · exact hrun.uses_instance hclass hneeds hs (hrun.lookup?_of_constructs hs hconstructs)
  · intro hapart s hs
    rcases List.mem_append.1 hs with hcredential | hinstance
    · exact hrun.uses_credential hcredential
    · obtain ⟨nameOf, hnames⟩ := hrun.exists_names
      obtain ⟨i, hi, hname, -⟩ := hrun.exists_statementWith hclass hnames hinstance
      exact hrun.uses_instance hclass (hrun.needs_of_mem hapart hi) hs hname

/-- In the sample no parameter is a credential and embedded, so every variable is used. -/
theorem uses_iff_sample :
    ∃ script, sample.script (NameSource.ofList []) = .ok script ∧
      ∀ s ∈ script.credentials ++ script.instances, script.Uses s := by
  obtain ⟨script, h⟩ := exists_script_sample
  obtain ⟨embedded, -, -, hall⟩ := uses_iff h classFree_sample
  exact ⟨script, h, hall (by decide)⟩

/-! ## Variables that are not used -/

/-- Whether neither the block nor a statement refers to the variable of a statement. -/
def leavesOut (script : Script) (s : Statement) : Bool :=
  !script.block.references.contains s.assigned &&
    (script.credentials ++ script.instances).all fun t => !t.references.contains s.assigned

/-- A variable that nothing refers to is not used. -/
theorem not_uses_of_leavesOut {script : Script} {s : Statement}
    (h : leavesOut script s = true) : ¬ script.Uses s := by
  rintro ⟨front, back, hsplit, hblock | ⟨later, hlater, href⟩⟩
  · simp [leavesOut, hblock] at h
  · have hmem : later ∈ script.credentials ++ script.instances := by rw [hsplit]; simp [hlater]
    rw [leavesOut, Bool.and_eq_true, List.all_eq_true] at h
    simpa [href] using h.2 later hmem

/-- An invocation in whose script the variable of an instance is not used. -/
theorem exists_not_uses (source : NameSource) (inv : Invocation)
    (h : ((inv.script source).toOption.any fun script =>
      script.instances.any (leavesOut script)) = true) :
    ∃ script, inv.script source = .ok script ∧
      ∃ s ∈ script.credentials ++ script.instances, ¬ script.Uses s := by
  cases hscript : inv.script source with
  | error e => rw [hscript] at h; cases h
  | ok script =>
      rw [hscript] at h
      obtain ⟨s, hs, hout⟩ := List.any_eq_true.1 (show script.instances.any _ = true from h)
      exact ⟨script, rfl, s, List.mem_append_right _ hs, not_uses_of_leavesOut hout⟩

/-- A credential that is embedded. -/
def doubled : Invocation :=
  { sample with
    parameters := {
      entries := [("dsc_login", ⟨.map [("user", .string "u"), ("password", .secret "p")],
        ⟨"PSCredential"⟩, true⟩)]
      nodup := by decide } }

/-- The instance that is built of a credential is not used. -/
theorem not_forall_uses :
    ¬ ∀ (source : NameSource) (inv : Invocation) (script : Script),
      inv.script source = .ok script →
      (∀ parameter ∈ inv.parameters.entries, parameter.2.value.ClassFree) →
      ∀ s ∈ script.credentials ++ script.instances, script.Uses s := by
  intro hall
  obtain ⟨script, h, s, hs, hnot⟩ := exists_not_uses (NameSource.ofList []) doubled
    (by decide +kernel)
  refine hnot (hall _ _ _ h ?_ s hs)
  simp [doubled, Value.ClassFree, Value.parts, Value.entryParts, Value.get?, Entries.get?, classKey]

/-- A map that is written like the instance which is embedded before it, with an instance
inside. -/
def disguised : Invocation :=
  { sample with
    parameters := {
      entries := [
        ("dsc_a", ⟨.map [("x", .map [(classKey, .string "I"), ("n", .int 1)])], ⟨"K"⟩, true⟩),
        ("dsc_b", ⟨.map [("y", .map [(classKey, .string "K"),
          ("x", .instanceOf "I" [("n", .int 1)])])], ⟨"J"⟩, true⟩)]
      nodup := by decide } }

/-- Where a map has the key of the class, it may be taken for an instance, and the
instances inside it are not used. -/
theorem not_forall_uses_of_classKey :
    ¬ ∀ (source : NameSource) (inv : Invocation) (script : Script),
      inv.script source = .ok script →
      (∀ parameter ∈ inv.parameters.entries,
        ¬ (parameter.2.needsCredential = true ∧ parameter.2.needsInstances = true)) →
      ∀ s ∈ script.credentials ++ script.instances, script.Uses s := by
  intro hall
  obtain ⟨script, h, s, hs, hnot⟩ := exists_not_uses (NameSource.ofList []) disguised
    (by decide +kernel)
  exact hnot (hall _ _ _ h (by decide) s hs)

end Invocation

end DesiredState
