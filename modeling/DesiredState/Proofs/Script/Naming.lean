import DesiredState.Proofs.Script.Acceptance

/-!
# The names of variables

A script draws names for its variables from a source, and draws again while a name is in
use.  Two sources may give other names, and may have to be asked another number of times.
But the pool is only ever asked for texts, and an expression that is looked up has no
references yet.  So two runs register the same texts in the same order, whatever their
sources, and they differ in nothing but the names.

The renaming between two runs is known only when both are over: it takes the variable of
each text to the variable of the same text.  On the way the pools are front parts of the
last ones, so the same renaming relates them.

## Main definitions

* `Expr.rename`, `Statement.rename`, `Script.rename` — variables under other names.
* `relabel` — each of some names becomes the name in the same place of others.
* `Pool.SameTexts`, `Pool.NamedBy` — two pools with the same texts, and a function between
  their names.
* `Invocation.registered` — the variables that are registered for an invocation.
* `Script.SameUpToNames` — two scripts that differ in the names of variables only.

## Main results

* `Pool.NamedBy.replace`, `Pool.declareAll_rename` — replacing and building under other
  names.
* `Invocation.script_rename`, `Invocation.sameUpToNames` — two scripts of an invocation.
* `Invocation.script_independent_of_names` — what does not depend on the names.
-/

namespace DesiredState

/-! ## Renaming variables -/

namespace Expr

mutual

/-- An expression whose references are to variables under other names. -/
def rename (f : String → String) : Expr → Expr
  | array items => .array (itemsRename f items)
  | cast typeName inner => .cast typeName (rename f inner)
  | table entries => .table (entriesRename f entries)
  | variableRef name => .variableRef (f name)
  | e => e

/-- The items of an array with references under other names. -/
def itemsRename (f : String → String) : List Expr → List Expr
  | [] => []
  | item :: rest => rename f item :: itemsRename f rest

/-- The entries of a table with references under other names. -/
def entriesRename (f : String → String) : List (Key × Expr) → List (Key × Expr)
  | [] => []
  | (key, value) :: rest => (key, rename f value) :: entriesRename f rest

end

variable (f : String → String)

theorem itemsRename_eq (items : List Expr) : itemsRename f items = items.map (rename f) := by
  induction items with
  | nil => rfl
  | cons item rest ih => rw [itemsRename, ih, List.map_cons]

theorem entriesRename_eq (entries : List (Key × Expr)) :
    entriesRename f entries = entries.map fun entry => (entry.1, entry.2.rename f) := by
  induction entries with
  | nil => rfl
  | cons entry rest ih => rw [entriesRename, ih, List.map_cons]

theorem rename_array (items : List Expr) :
    (array items).rename f = .array (items.map (rename f)) := by
  rw [rename, itemsRename_eq]

theorem rename_table (entries : List (Key × Expr)) :
    (table entries).rename f = .table (entries.map fun entry => (entry.1, entry.2.rename f)) := by
  rw [rename, entriesRename_eq]

variable {f}

theorem map_eq_self {α : Type} {g : α → α} {l : List α} (h : ∀ a ∈ l, g a = a) : l.map g = l :=
  (List.map_congr_left (g := id) h).trans (List.map_id _)

/-- An expression without references has nothing to rename. -/
theorem rename_of_references_eq_nil {e : Expr} (h : e.references = []) : e.rename f = e := by
  induction e using Expr.induct with
  | array items ih =>
      have hitems := references_array_eq_nil.1 h
      rw [rename_array]
      exact congrArg Expr.array (map_eq_self fun item hitem => ih item hitem (hitems item hitem))
  | cast typeName inner ih => rw [rename, ih h]
  | table entries ih =>
      have hentries := references_table_eq_nil.1 h
      rw [rename_table]
      exact congrArg Expr.table (map_eq_self fun entry hentry =>
        Prod.ext rfl (ih entry hentry (hentries entry hentry)))
  | variableRef name => simp [references] at h
  | _ => rfl

end Expr

/-- A statement whose variables have other names. -/
def Statement.rename (f : String → String) : Statement → Statement
  | newCredential name credential => .newCredential (f name) credential
  | newInstance name className payload =>
      .newInstance (f name) className (Expr.entriesRename f payload)

/-- A script whose variables have other names. -/
def Script.rename (f : String → String) (s : Script) : Script where
  credentials := s.credentials.map (Statement.rename f)
  instances := s.instances.map (Statement.rename f)
  block := s.block.rename f

/-- Each of `names` becomes the name in the same place of `others`. -/
def relabel (names others : List String) (name : String) : String :=
  others.getD (names.idxOf name) name

theorem map_relabel {names others : List String} (hnodup : names.Nodup)
    (hlength : others.length = names.length) : names.map (relabel names others) = others := by
  refine List.ext_getElem (by rw [List.length_map, hlength]) fun i hleft hright => ?_
  rw [List.length_map] at hleft
  rw [List.getElem_map, relabel, hnodup.idxOf_getElem i hleft, List.getD_eq_getElem?_getD,
    List.getElem?_eq_getElem hright, Option.getD_some]

/-! ## Pools with the same texts -/

namespace Pool

variable {f : String → String} {pool other : Pool}

/-- Whether two pools know the same texts, registered in the same order. -/
def SameTexts (pool other : Pool) : Prop :=
  Entries.names other.entries = Entries.names pool.entries

/-- Whether a pool is another one with a function on the names of its variables. -/
def NamedBy (f : String → String) (pool other : Pool) : Prop :=
  other.entries = pool.entries.map (Prod.map id f)

namespace SameTexts

theorem lookup?_eq_none_iff (h : pool.SameTexts other) (text : String) :
    other.lookup? text = none ↔ pool.lookup? text = none := by
  rw [lookup?, lookup?, Entries.get?_eq_none_iff, Entries.get?_eq_none_iff, h]

theorem exists_lookup? (h : pool.SameTexts other) {text name : String}
    (hname : pool.lookup? text = some name) :
    ∃ otherName, other.lookup? text = some otherName := by
  rw [← Option.ne_none_iff_exists', Ne, h.lookup?_eq_none_iff, hname]
  exact Option.some_ne_none name

theorem add (h : pool.SameTexts other) (text : String) :
    (pool.add text).SameTexts (other.add text) := by
  rw [SameTexts, entries_add, entries_add, Entries.names, Entries.names, List.map_append,
    List.map_append]
  exact congrArg (· ++ [text]) h

theorem declare (h : pool.SameTexts other) (x : Composite) :
    (pool.declare x).2.SameTexts (other.declare x).2 := by
  cases hlookup : pool.lookup? x.text with
  | none =>
      rw [declare_of_none hlookup, declare_of_none ((h.lookup?_eq_none_iff _).2 hlookup)]
      exact h.add x.text
  | some name =>
      obtain ⟨otherName, hother⟩ := h.exists_lookup? hlookup
      rw [declare_of_lookup? hlookup, declare_of_lookup? hother]
      exact h

theorem declareAll (h : pool.SameTexts other) (xs : List Composite) :
    (pool.declareAll xs).2.SameTexts (other.declareAll xs).2 := by
  induction xs generalizing pool other with
  | nil => exact h
  | cons x rest ih => exact ih (h.declare x)

theorem length_variableNames (h : pool.SameTexts other) :
    other.variableNames.length = pool.variableNames.length := by
  have hlength := congrArg List.length h
  rw [Entries.names, Entries.names, List.length_map, List.length_map] at hlength
  rw [variableNames, variableNames, Entries.values, Entries.values, List.length_map,
    List.length_map, hlength]

/-- The variable of each text becomes the variable of the same text. -/
theorem namedBy (h : pool.SameTexts other) (hdistinct : pool.Distinct) :
    pool.NamedBy (relabel pool.variableNames other.variableNames) other := by
  have hnames := map_relabel hdistinct h.length_variableNames
  generalize relabel pool.variableNames other.variableNames = g at hnames
  rw [variableNames, variableNames, Entries.values, Entries.values, List.map_map] at hnames
  refine List.ext_getElem ?_ fun i hleft hright => ?_
  · simpa [SameTexts, Entries.names] using congrArg List.length h
  rw [List.length_map] at hright
  rw [List.getElem_map]
  refine Prod.ext ?_ ?_
  · have hi := congrArg (·[i]?) h
    simpa [SameTexts, Entries.names, hleft, hright] using hi
  · have hi := congrArg (·[i]?) hnames
    simpa [hleft, hright] using hi.symm

end SameTexts

namespace NamedBy

theorem lookup? (h : pool.NamedBy f other) (text : String) :
    other.lookup? text = (pool.lookup? text).map f := by
  rw [Pool.lookup?, Pool.lookup?, h]
  induction pool.entries with
  | nil => rfl
  | cons entry rest ih =>
      obtain ⟨key, name⟩ := entry
      rw [List.map_cons, Prod.map_apply, Entries.get?, Entries.get?]
      by_cases hkey : key = text
      · rw [id, if_pos hkey, if_pos hkey]
        rfl
      · rw [id, if_neg hkey, if_neg hkey, ih]

/-- References are put in the same places, under the other names. -/
theorem replace (h : pool.NamedBy f other) {e : Expr} (hliteral : e.references = []) :
    other.replace e = (pool.replace e).rename f := by
  have hknown : ∀ {e : Expr} {name : String}, e.isComposite = true →
      pool.lookup? e.render = some name → other.replace e = (pool.replace e).rename f := by
    intro e name hcomposite hname
    have hother : other.lookup? e.render = some (f name) := by rw [h.lookup?, hname]; rfl
    rw [replace_of_lookup? hcomposite hother, replace_of_lookup? hcomposite hname]
    rfl
  have hunknown : ∀ {text : String}, pool.lookup? text = none → other.lookup? text = none := by
    intro text hnone
    rw [h.lookup?, hnone]
    rfl
  induction e using Expr.induct with
  | array items ih =>
      cases hname : pool.lookup? (Expr.array items).render with
      | some name => exact hknown rfl hname
      | none =>
          have hitems := Expr.references_array_eq_nil.1 hliteral
          rw [replace_array (hunknown hname), replace_array hname, Expr.rename_array, List.map_map]
          exact congrArg Expr.array
            (List.map_congr_left fun item hitem => ih item hitem (hitems item hitem))
  | cast typeName inner ih =>
      cases hname : pool.lookup? (Expr.cast typeName inner).render with
      | some name => exact hknown rfl hname
      | none =>
          rw [replace_cast (hunknown hname), replace_cast hname, Expr.rename, ih hliteral]
  | table entries ih =>
      cases hname : pool.lookup? (Expr.table entries).render with
      | some name => exact hknown rfl hname
      | none =>
          have hentries := Expr.references_table_eq_nil.1 hliteral
          rw [replace_table (hunknown hname), replace_table hname, Expr.rename_table, List.map_map]
          exact congrArg Expr.table (List.map_congr_left fun entry hentry =>
            Prod.ext rfl (ih entry hentry (hentries entry hentry)))
  | variableRef name => simp [Expr.references] at hliteral
  | _ => rfl

theorem statement (h : pool.NamedBy f other) (x : Composite) (name : String) :
    x.statement other (f name) = (x.statement pool name).rename f := by
  cases x with
  | credential c => rfl
  | instanceOf i =>
      have hentries : ∀ entry ∈ Value.entriesToExpr i.properties, entry.2.references = [] :=
        Value.references_entriesToExpr fun entry _ => Value.references_toExpr entry.2
      refine congrArg (Statement.newInstance (f name) i.className) ?_
      rw [Expr.entriesRename_eq, Composite.payload, Composite.payload, List.map_map]
      exact List.map_congr_left fun entry hentry =>
        Prod.ext rfl (h.replace (hentries entry hentry))

/-- One more text is registered under a name that the function gives. -/
theorem of_add {text : String} (h : (pool.add text).NamedBy f (other.add text)) :
    pool.NamedBy f other ∧ other.nextName = f pool.nextName := by
  rw [NamedBy, entries_add, entries_add, List.map_append] at h
  obtain ⟨hentries, hlast⟩ := List.append_inj' h rfl
  exact ⟨hentries, congrArg Prod.snd (List.head_eq_of_cons_eq hlast)⟩

end NamedBy

/-- A function between the names of the pools that are left in the end relates those at the
start, and all statements on the way. -/
theorem declareAll_rename {xs : List Composite} {statements others : List Statement}
    {last otherLast : Pool} (h : pool.SameTexts other)
    (hrun : pool.declareAll xs = (statements, last))
    (hother : other.declareAll xs = (others, otherLast)) (hlast : last.NamedBy f otherLast) :
    pool.NamedBy f other ∧ others = statements.map (Statement.rename f) := by
  induction xs generalizing pool other statements others with
  | nil =>
      cases hrun
      cases hother
      exact ⟨hlast, rfl⟩
  | cons x rest ih =>
      obtain ⟨rfl, rfl⟩ := Prod.mk.inj hrun
      obtain ⟨rfl, rfl⟩ := Prod.mk.inj hother
      obtain ⟨hnext, hothers⟩ := ih (h.declare x) rfl rfl
      rw [hothers, List.map_append]
      cases hname : pool.lookup? x.text with
      | none =>
          have hnone := (h.lookup?_eq_none_iff _).2 hname
          rw [declare_of_none hname, declare_of_none hnone] at hnext ⊢
          obtain ⟨hpools, hnames⟩ := hnext.of_add
          rw [hnames, hpools.statement]
          exact ⟨hpools, rfl⟩
      | some name =>
          obtain ⟨otherName, hsome⟩ := h.exists_lookup? hname
          rw [declare_of_lookup? hname, declare_of_lookup? hsome] at hnext ⊢
          exact ⟨hnext, rfl⟩

end Pool

/-! ## The parameter block -/

/-- The expression of a parameter has references under the other names. -/
theorem Parameter.toExpr_rename {f : String → String} {pool other : Pool}
    (h : pool.NamedBy f other) (p : Parameter) (property : String) :
    p.toExpr other property = (p.toExpr pool property).map (Expr.rename f) := by
  rw [toExpr_eq, toExpr_eq]
  cases hown : p.ownExpr property with
  | error e => rfl
  | ok e =>
      have hliteral := references_ownExpr hown
      refine congrArg Except.ok ?_
      dsimp only
      split
      · exact h.replace hliteral
      · exact (Expr.rename_of_references_eq_nil hliteral).symm

theorem parameterEntries_rename {f : String → String} {pool other : Pool}
    (h : pool.NamedBy f other) (parameters : List (String × Parameter)) :
    parameterEntries other parameters =
      (parameterEntries pool parameters).map (Expr.entriesRename f) := by
  induction parameters with
  | nil => rfl
  | cons parameter rest ih =>
      obtain ⟨property, p⟩ := parameter
      rw [parameterEntries, parameterEntries, ih, p.toExpr_rename h]
      cases p.toExpr pool property with
      | error e => rfl
      | ok value => cases parameterEntries pool rest <;> rfl

namespace Invocation

variable {inv : Invocation} {source other : NameSource}

theorem rename_blockOf (f : String → String) (inv : Invocation) (entries : List (Key × Expr)) :
    (inv.blockOf entries).rename f = inv.blockOf (Expr.entriesRename f entries) := by
  have hmodule := Expr.rename_of_references_eq_nil (f := f) inv.references_moduleExpr
  change Expr.table [_, _, _, (.bare "ModuleName", inv.moduleExpr.rename f)] = _
  rw [hmodule]
  rfl

/-- The block has references under the other names. -/
theorem toExpr_rename {f : String → String} {pool other : Pool} (h : pool.NamedBy f other)
    (inv : Invocation) : inv.toExpr other = (inv.toExpr pool).map (Expr.rename f) := by
  rw [toExpr, toExpr, parameterEntries_rename h]
  cases parameterEntries pool inv.parameters.entries with
  | error e => rfl
  | ok entries => exact congrArg Except.ok (inv.rename_blockOf f entries).symm

/-! ## Scripts -/

/-- The variables that are registered for an invocation, in order. -/
def registered (inv : Invocation) (source : NameSource) : List String :=
  (inv.build (Pool.empty source)).2.variableNames

end Invocation

namespace Script

variable (f : String → String)

/-- The variables that the statements of a script assign, in order. -/
def assigned (s : Script) : List String := (s.credentials ++ s.instances).map Statement.assigned

/-- Whether two scripts are the same up to the names of their variables: the variables of
each have different names, and those of the first under the names of the second give the
second. -/
structure SameUpToNames (s t : Script) : Prop where
  nodup : s.assigned.Nodup
  nodup_other : t.assigned.Nodup
  length_eq : t.assigned.length = s.assigned.length
  eq_rename : t = s.rename (relabel s.assigned t.assigned)

theorem assigned_rename (s : Script) : (s.rename f).assigned = s.assigned.map f := by
  have hstatement (x : Statement) : (x.rename f).assigned = f x.assigned := by
    cases x <;> rfl
  simp only [assigned, rename, ← List.map_append, List.map_map]
  exact List.map_congr_left fun statement _ => hstatement statement

end Script

namespace Invocation

variable {inv : Invocation} {source other : NameSource} {script : Script}

/-- The variables of a script are the names in the last pool. -/
theorem Run.registered_eq {built : List Credential} {embedded : List Instance}
    {first second : Pool} (h : inv.Run source script built embedded first second) :
    inv.registered source = second.variableNames := by
  have hcredentials := declareCredentials_builds inv.parameters.entries
  have hinstances := declareInstances_builds inv.parameters.entries
  rw [h.credentialsOf_eq] at hcredentials
  rw [h.instancesOf_eq] at hinstances
  rw [registered, build, Builder.bind_of_ok (hcredentials _), h.declare_credentials,
    Builder.bind_of_ok (hinstances _), h.declare_instances, Builder.bind_of_ok (b := get) rfl]
  dsimp only
  rw [h.toExpr_eq]
  rfl

/-- Each registered variable is assigned by one statement, in order. -/
theorem assigned_eq_registered (h : inv.script source = .ok script) :
    script.assigned = inv.registered source := by
  obtain ⟨built, embedded, first, second, hrun⟩ := exists_run h
  have hnames := Pool.variableNames_declareAll (Pool.empty source)
    (built.map .credential ++ withNested embedded)
  rw [hrun.declare_all] at hnames
  rw [hrun.registered_eq]
  exact hnames.symm

theorem Run.distinct {built : List Credential} {embedded : List Instance}
    {first second : Pool} (h : inv.Run source script built embedded first second) :
    second.Distinct := by
  have hdistinct := (Pool.distinct_empty source).declareAll
    (built.map .credential ++ withNested embedded)
  rwa [h.declare_all] at hdistinct

theorem nodup_assigned (h : inv.script source = .ok script) : script.assigned.Nodup := by
  obtain ⟨built, embedded, first, second, hrun⟩ := exists_run h
  rw [assigned_eq_registered h, hrun.registered_eq]
  exact hrun.distinct

/-- A script fails exactly if what it builds can not be read off, whatever the names. -/
theorem script_eq_error_iff {e : Error} :
    inv.script source = .error e ↔ inv.composites = .error e := by
  rw [← failure?_eq_some_iff, ← failure?_eq_some_iff, failure?_script, composites, failure?_bind]

theorem Run.script_eq {built : List Credential} {embedded : List Instance} {first second : Pool}
    (h : inv.Run source script built embedded first second) : inv.script source = .ok script := by
  rw [Invocation.script_eq, h.credentialsOf_eq, h.instancesOf_eq]
  change (inv.toExpr _ >>= _) = _
  rw [h.declare_credentials, h.declare_instances, h.toExpr_eq]
  rfl

/-- What comes about with one source comes about with any other, under other names. -/
theorem Run.rename {built : List Credential} {embedded : List Instance} {first second : Pool}
    (h : inv.Run source script built embedded first second) (other : NameSource) :
    ∃ third fourth, inv.Run other (script.rename
      (relabel second.variableNames fourth.variableNames)) built embedded third fourth := by
  rcases hthird : (Pool.empty other).declareAll (built.map .credential) with ⟨credentials, third⟩
  rcases hfourth : third.declareAll (withNested embedded) with ⟨instances, fourth⟩
  have hempty : (Pool.empty source).SameTexts (Pool.empty other) := rfl
  have hfirst := hempty.declareAll (built.map .credential)
  rw [h.declare_credentials, hthird] at hfirst
  have hsecond := hfirst.declareAll (withNested embedded)
  rw [h.declare_instances, hfourth] at hsecond
  have hnamed := hsecond.namedBy h.distinct
  generalize hf : relabel second.variableNames fourth.variableNames = f at hnamed
  -- from the last pools back to the empty ones
  obtain ⟨hpools, rfl⟩ := Pool.declareAll_rename hfirst h.declare_instances hfourth hnamed
  obtain ⟨-, rfl⟩ := Pool.declareAll_rename hempty h.declare_credentials hthird hpools
  have hblock : inv.toExpr fourth = .ok (script.block.rename f) := by
    rw [toExpr_rename hnamed, h.toExpr_eq]
    rfl
  subst hf
  exact ⟨third, fourth, h.credentialsOf_eq, h.instancesOf_eq, hthird, hfourth, hblock⟩

/-- The script with the names of another source is the renamed script, and a failure stays
what it is. -/
theorem script_rename (inv : Invocation) (source other : NameSource) :
    inv.script other = (inv.script source).map
      (Script.rename (relabel (inv.registered source) (inv.registered other))) := by
  cases hscript : inv.script source with
  | error e => exact script_eq_error_iff.2 (script_eq_error_iff.1 hscript)
  | ok script =>
      obtain ⟨built, embedded, first, second, hrun⟩ := exists_run hscript
      obtain ⟨third, fourth, hother⟩ := hrun.rename other
      rw [hother.script_eq, hrun.registered_eq, hother.registered_eq]
      rfl

/-- Two scripts of an invocation are the same up to names. -/
theorem sameUpToNames {renamed : Script} (h : inv.script source = .ok script)
    (hother : inv.script other = .ok renamed) : script.SameUpToNames renamed := by
  have hrename := inv.script_rename source other
  rw [h, hother, ← assigned_eq_registered h, ← assigned_eq_registered hother] at hrename
  have heq := Except.ok.inj hrename
  refine ⟨nodup_assigned h, nodup_assigned hother, ?_, heq⟩
  rw [heq, Script.assigned_rename, List.length_map]

/-- Where one source gives a script, any other gives the same script up to names. -/
theorem exists_sameUpToNames (h : inv.script source = .ok script) (other : NameSource) :
    ∃ renamed, inv.script other = .ok renamed ∧ script.SameUpToNames renamed := by
  have hrenamed := inv.script_rename source other
  rw [h] at hrenamed
  exact ⟨_, hrenamed, sameUpToNames h hrenamed⟩

/-- Which names a source gives decides neither whether a script can be made nor why not.
Two scripts of an invocation assign as many variables, and differ in nothing but these: the
statements and the block of the second are those of the first with each variable under the
name of the one in the same place. -/
theorem script_independent_of_names (inv : Invocation) (source other : NameSource) :
    (∀ e, inv.script source = .error e ↔ inv.script other = .error e) ∧
    ∀ script renamed, inv.script source = .ok script → inv.script other = .ok renamed →
      (inv.registered source).Nodup ∧ (inv.registered other).Nodup ∧
      (inv.registered other).length = (inv.registered source).length ∧
      script.assigned = inv.registered source ∧ renamed.assigned = inv.registered other ∧
      renamed.credentials = script.credentials.map
        (Statement.rename (relabel (inv.registered source) (inv.registered other))) ∧
      renamed.instances = script.instances.map
        (Statement.rename (relabel (inv.registered source) (inv.registered other))) ∧
      renamed.block = script.block.rename
        (relabel (inv.registered source) (inv.registered other)) := by
  refine ⟨fun e => script_eq_error_iff.trans script_eq_error_iff.symm, ?_⟩
  intro script renamed h hother
  have hassigned := assigned_eq_registered h
  have hassignedOther := assigned_eq_registered hother
  obtain ⟨hnodup, hnodupOther, hlength, heq⟩ := sameUpToNames h hother
  rw [hassigned] at hnodup hlength heq
  rw [hassignedOther] at hnodupOther hlength heq
  exact ⟨hnodup, hnodupOther, hlength, hassigned, hassignedOther,
    congrArg Script.credentials heq, congrArg Script.instances heq, congrArg Script.block heq⟩

/-- A source that repeats itself and one that counts give the sample the same script, up to
its three variables. -/
theorem script_independent_of_names_repeating :
    ∃ script renamed, sample.script (NameSource.ofList []) = .ok script ∧
      sample.script (NameSource.ofList ["b", "b", "a", "b"]) = .ok renamed ∧
      script.assigned = ["v1", "v2", "v3"] ∧ renamed.assigned = ["b", "a", "v1"] ∧
      renamed.block = script.block.rename (relabel ["v1", "v2", "v3"] ["b", "a", "v1"]) := by
  obtain ⟨script, hscript⟩ := exists_script_sample
  obtain ⟨hfails, hsame⟩ := script_independent_of_names sample (NameSource.ofList [])
    (NameSource.ofList ["b", "b", "a", "b"])
  cases hother : sample.script (NameSource.ofList ["b", "b", "a", "b"]) with
  | error e => rw [(hfails e).2 hother] at hscript; cases hscript
  | ok renamed =>
      obtain ⟨-, -, -, hassigned, hassignedOther, -, -, hblock⟩ := hsame _ _ hscript hother
      have hnames : sample.registered (NameSource.ofList []) = ["v1", "v2", "v3"] := by
        decide +kernel
      have hnamesOther : sample.registered (NameSource.ofList ["b", "b", "a", "b"]) =
          ["b", "a", "v1"] := by decide +kernel
      rw [hnames] at hassigned hblock
      rw [hnamesOther] at hassignedOther hblock
      exact ⟨script, renamed, hscript, rfl, hassigned, hassignedOther, hblock⟩

end Invocation

end DesiredState
