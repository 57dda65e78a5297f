import DesiredState.Proofs.Script.References
import DesiredState.Script.Pool

/-!
# The pool of variables

A pool only grows: a text keeps its variable, and a new text gets a name that no
other text has.  Putting references into an expression takes its names from the
pool, and leaves an expression alone in which nothing is known.

## Main definitions

* `Pool.nextName` — the name that the next new text gets.
* `Pool.add` — the pool with one more text.
* `Pool.Distinct` — every variable has one text.

## Main results

* `Pool.register_of_lookup?`, `Pool.register_of_none` — what registering a text
  does.
* `Pool.Distinct.add` — names stay distinct.
* `Pool.substitute_eq_replace` — nothing is replaced without variables.
* `Pool.references_replace` — references are to variables of the pool.
-/

namespace DesiredState

namespace Pool

/-! ## Registering texts -/

/-- The name that the next new text gets. -/
def nextName (pool : Pool) : String :=
  pool.source.draw (pool.source.firstUnused pool.variableNames pool.drawn)

/-- The pool in which a text has the next name. -/
def add (pool : Pool) (text : String) : Pool :=
  { pool with
    entries := pool.entries ++ [(text, pool.nextName)]
    drawn := pool.source.firstUnused pool.variableNames pool.drawn + 1 }

theorem nextName_not_mem (pool : Pool) : pool.nextName ∉ pool.variableNames :=
  pool.source.draw_firstUnused _ _

theorem register_of_lookup? {pool : Pool} {text name : String}
    (h : pool.lookup? text = some name) : pool.register text = ((name, false), pool) := by
  rw [register, h]

theorem register_of_none {pool : Pool} {text : String} (h : pool.lookup? text = none) :
    pool.register text = ((pool.nextName, true), pool.add text) := by
  rw [register, h]
  rfl

theorem entries_add (pool : Pool) (text : String) :
    (pool.add text).entries = pool.entries ++ [(text, pool.nextName)] := rfl

theorem variableNames_add (pool : Pool) (text : String) :
    (pool.add text).variableNames = pool.variableNames ++ [pool.nextName] := by
  rw [variableNames, entries_add, Entries.values, List.map_append]
  rfl

/-- A new text gets its name, and every other text keeps its own. -/
theorem lookup?_add (pool : Pool) (text other : String) :
    (pool.add text).lookup? other =
      (pool.lookup? other).or (if text = other then some pool.nextName else none) := by
  rw [lookup?, entries_add, Entries.get?_append]
  rfl

theorem lookup?_add_self {pool : Pool} {text : String} (h : pool.lookup? text = none) :
    (pool.add text).lookup? text = some pool.nextName := by
  rw [lookup?_add, h, if_pos rfl]
  rfl

theorem lookup?_add_of_some {pool : Pool} {other name : String}
    (h : pool.lookup? other = some name) (text : String) :
    (pool.add text).lookup? other = some name := by
  rw [lookup?_add, h]
  rfl

theorem mem_variableNames_of_lookup? {pool : Pool} {text name : String}
    (h : pool.lookup? text = some name) : name ∈ pool.variableNames :=
  List.mem_map.2 ⟨_, Entries.mem_of_get? h, rfl⟩

/-- No variable stands for two texts. -/
def Distinct (pool : Pool) : Prop := pool.variableNames.Nodup

theorem distinct_empty (source : NameSource) : (empty source).Distinct := List.nodup_nil

theorem Distinct.add {pool : Pool} (h : pool.Distinct) (text : String) :
    (pool.add text).Distinct := by
  rw [Distinct, variableNames_add]
  refine List.nodup_append.2 ⟨h, by simp, ?_⟩
  rintro name hname _ hnext rfl
  rw [List.mem_singleton] at hnext
  exact pool.nextName_not_mem (hnext ▸ hname)

/-! ## Putting references into expressions -/

theorem replaceItems_eq (pool : Pool) (items : List Expr) :
    pool.replaceItems items = items.map pool.replace := by
  induction items with
  | nil => rfl
  | cons item rest ih => rw [replaceItems, ih, List.map_cons]

theorem replaceEntries_eq (pool : Pool) (entries : List (Key × Expr)) :
    pool.replaceEntries entries = entries.map fun entry => (entry.1, pool.replace entry.2) := by
  induction entries with
  | nil => rfl
  | cons entry rest ih => rw [replaceEntries, ih, List.map_cons]

/-- An expression with a variable is replaced as a whole. -/
theorem replace_of_lookup? {pool : Pool} {e : Expr} {name : String} (hcomposite : e.isComposite)
    (h : pool.lookup? e.render = some name) : pool.replace e = .variableRef name := by
  cases e with
  | array items => rw [replace, h]
  | cast typeName inner => rw [replace, h]
  | table entries => rw [replace, h]
  | _ => simp [Expr.isComposite] at hcomposite

theorem replace_array {pool : Pool} {items : List Expr}
    (h : pool.lookup? (Expr.array items).render = none) :
    pool.replace (.array items) = .array (items.map pool.replace) := by
  rw [replace, h, replaceItems_eq]

theorem replace_cast {pool : Pool} {typeName : String} {inner : Expr}
    (h : pool.lookup? (Expr.cast typeName inner).render = none) :
    pool.replace (.cast typeName inner) = .cast typeName (pool.replace inner) := by
  rw [replace, h]

theorem replace_table {pool : Pool} {entries : List (Key × Expr)}
    (h : pool.lookup? (Expr.table entries).render = none) :
    pool.replace (.table entries) =
      .table (entries.map fun entry => (entry.1, pool.replace entry.2)) := by
  rw [replace, h, replaceEntries_eq]

/-- An expression is replaced by a variable, or its parts are looked at. -/
theorem replace_cases (pool : Pool) (e : Expr) :
    (∃ name, pool.lookup? e.render = some name ∧ pool.replace e = .variableRef name) ∨
      pool.replace e =
        match e with
        | .array items => .array (items.map pool.replace)
        | .cast typeName inner => .cast typeName (pool.replace inner)
        | .table entries => .table (entries.map fun entry => (entry.1, pool.replace entry.2))
        | e => e := by
  cases e with
  | array items =>
      cases h : pool.lookup? (Expr.array items).render with
      | none => exact .inr (replace_array h)
      | some name => exact .inl ⟨name, rfl, replace_of_lookup? rfl h⟩
  | cast typeName inner =>
      cases h : pool.lookup? (Expr.cast typeName inner).render with
      | none => exact .inr (replace_cast h)
      | some name => exact .inl ⟨name, rfl, replace_of_lookup? rfl h⟩
  | table entries =>
      cases h : pool.lookup? (Expr.table entries).render with
      | none => exact .inr (replace_table h)
      | some name => exact .inl ⟨name, rfl, replace_of_lookup? rfl h⟩
  | _ => exact .inr rfl

/-- Without variables there is nothing to replace. -/
theorem replace_of_isEmpty {pool : Pool} (h : pool.entries = []) (e : Expr) :
    pool.replace e = e := by
  have hnone : ∀ text, pool.lookup? text = none := fun text => by rw [lookup?, h]; rfl
  induction e using Expr.induct with
  | array items ih =>
      rw [replace_array (hnone _), List.map_congr_left ih, List.map_id']
  | cast typeName inner ih => rw [replace_cast (hnone _), ih]
  | table entries ih =>
      have hentries : (entries.map fun entry => (entry.1, pool.replace entry.2)) = entries := by
        refine (List.map_congr_left (g := id) fun entry hmem => ?_).trans (List.map_id _)
        exact Prod.ext rfl (ih entry hmem)
      rw [replace_table (hnone _), hentries]
  | _ => rfl

theorem substitute_eq_replace (pool : Pool) (e : Expr) : pool.substitute e = pool.replace e := by
  by_cases h : pool.entries = []
  · rw [substitute, h, replace_of_isEmpty h]
    rfl
  · rw [substitute, if_neg (by simpa using h)]

/-- What is put into an expression refers to variables of the pool. -/
theorem references_replace {pool : Pool} {e : Expr} (h : e.references = []) :
    ∀ name ∈ (pool.replace e).references, name ∈ pool.variableNames := by
  induction e using Expr.induct with
  | array items ih =>
      rcases pool.replace_cases (.array items) with ⟨name, hname, heq⟩ | heq
      · rw [heq]
        simpa [Expr.references] using mem_variableNames_of_lookup? hname
      · have hitems := Expr.references_array_eq_nil.1 h
        intro name hname
        rw [heq, Expr.references_array, List.flatMap_map, List.mem_flatMap] at hname
        obtain ⟨item, hitem, hname⟩ := hname
        exact ih item hitem (hitems item hitem) name hname
  | cast typeName inner ih =>
      rcases pool.replace_cases (.cast typeName inner) with ⟨name, hname, heq⟩ | heq
      · rw [heq]
        simpa [Expr.references] using mem_variableNames_of_lookup? hname
      · rw [heq]
        exact ih h
  | table entries ih =>
      rcases pool.replace_cases (.table entries) with ⟨name, hname, heq⟩ | heq
      · rw [heq]
        simpa [Expr.references] using mem_variableNames_of_lookup? hname
      · have hentries := Expr.references_table_eq_nil.1 h
        intro name hname
        rw [heq, Expr.references_table, List.flatMap_map, List.mem_flatMap] at hname
        obtain ⟨entry, hentry, hname⟩ := hname
        exact ih entry hentry (hentries entry hentry) name hname
  | variableRef name => simp [Expr.references] at h
  | _ => simp [replace, Expr.references]

end Pool

end DesiredState
