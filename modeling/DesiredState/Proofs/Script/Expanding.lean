import DesiredState.Proofs.Script.Registering

/-!
# Expressions with their variables written out

A variable stands for the text under which it was registered.  When every variable of a
pool is written as that text, the references that the pool puts into an expression can not
be seen: the expression reads as it did before.

Read in this way, nothing known is left standing.  A replacement works from the outside in,
so an expression that is registered as a whole becomes its own variable, also where parts
of it are registered as well; and an expression that is left has a text which the pool does
not know.

## Main definitions

* `Pool.textOf?` — the text that a variable stands for.
* `Pool.expand` — the text of an expression with its variables written out.

## Main results

* `Pool.Distinct.expand_replace` — references do not change what an expression reads as.
* `Pool.Distinct.lookup?_of_mem_nodes` — no known text is left standing.
* `Pool.expand_substitute` — both, for the pools that come about by registering texts.
-/

namespace DesiredState

namespace Pool

/-! ## What variables stand for -/

/-- The text that a variable stands for. -/
def textOf? (pool : Pool) (name : String) : Option String :=
  Entries.get? (pool.entries.map Prod.swap) name

theorem names_swap (pool : Pool) :
    Entries.names (pool.entries.map Prod.swap) = pool.variableNames := by
  rw [Entries.names, List.map_map]
  rfl

/-- A name that is none of the pool stands for nothing. -/
theorem textOf?_eq_none_iff {pool : Pool} {name : String} :
    pool.textOf? name = none ↔ name ∉ pool.variableNames := by
  rw [textOf?, Entries.get?_eq_none_iff, names_swap]

/-- A variable stands for the text that has it. -/
theorem Distinct.textOf? {pool : Pool} (h : pool.Distinct) {text name : String}
    (hname : pool.lookup? text = some name) : pool.textOf? name = some text := by
  refine Entries.get?_of_mem ?_ (List.mem_map.2 ⟨_, Entries.mem_of_get? hname, rfl⟩)
  rw [names_swap]
  exact h

mutual

/-- The text of an expression, in which each variable of the pool is written as the text
that it stands for. -/
def expand (pool : Pool) : Expr → List Char
  | .array items =>
      '@' :: '(' :: (List.intercalate ", ".toList (expandItems pool items) ++ [')'])
  | .cast typeName inner => '[' :: (typeName.toList ++ ']' :: expand pool inner)
  | .table entries =>
      '@' :: '\x7b' :: (List.intercalate "; ".toList (expandEntries pool entries) ++ ['\x7d'])
  | .variableRef name =>
      match pool.textOf? name with
      | some text => text.toList
      | none => (Expr.variableRef name).write
  | e => e.write

/-- The texts of the items of an array, with their variables written out. -/
def expandItems (pool : Pool) : List Expr → List (List Char)
  | [] => []
  | item :: rest => expand pool item :: expandItems pool rest

/-- The texts of the entries of a table, with their variables written out. -/
def expandEntries (pool : Pool) : List (Key × Expr) → List (List Char)
  | [] => []
  | (key, value) :: rest =>
      (Expr.writeKey key ++ " = ".toList ++ expand pool value) :: expandEntries pool rest

end

theorem expandItems_eq (pool : Pool) (items : List Expr) :
    pool.expandItems items = items.map pool.expand := by
  induction items with
  | nil => rfl
  | cons item rest ih => rw [expandItems, ih, List.map_cons]

theorem expandEntries_eq (pool : Pool) (entries : List (Key × Expr)) :
    pool.expandEntries entries =
      entries.map fun entry => Expr.writeKey entry.1 ++ " = ".toList ++ pool.expand entry.2 := by
  induction entries with
  | nil => rfl
  | cons entry rest ih => rw [expandEntries, ih, List.map_cons]

/-- An array reads as one whose items read alike. -/
theorem expand_array {pool : Pool} {items literals : List Expr}
    (h : items.map pool.expand = literals.map Expr.write) :
    pool.expand (.array items) = (Expr.array literals).write := by
  rw [expand, expandItems_eq, h, Expr.write_array]

/-- A table reads as one with the same keys whose values read alike. -/
theorem expand_table {pool : Pool} {entries literals : List (Key × Expr)}
    (h : (entries.map fun entry => (entry.1, pool.expand entry.2)) =
      literals.map fun entry => (entry.1, entry.2.write)) :
    pool.expand (.table entries) = (Expr.table literals).write := by
  have htexts := congrArg (List.map fun entry : Key × List Char =>
    Expr.writeKey entry.1 ++ " = ".toList ++ entry.2) h
  rw [List.map_map, List.map_map] at htexts
  rw [expand, expandEntries_eq, Expr.write_table]
  exact congrArg (fun texts =>
    '@' :: '\x7b' :: (List.intercalate "; ".toList texts ++ ['\x7d'])) htexts

/-! ## Putting references into expressions and writing them out -/

variable {pool : Pool}

/-- A variable of the pool reads as the text that has it. -/
theorem Distinct.expand_variableRef (h : pool.Distinct) {e : Expr} {name : String}
    (hname : pool.lookup? e.render = some name) : pool.expand (.variableRef name) = e.write := by
  rw [expand, h.textOf? hname]
  exact String.toList_ofList

/-- References that a pool puts into an expression do not change what it reads as. -/
theorem Distinct.expand_replace (h : pool.Distinct) {e : Expr}
    (hforeign : ∀ name ∈ e.references, name ∉ pool.variableNames) :
    pool.expand (pool.replace e) = e.write := by
  induction e using Expr.induct with
  | array items ih =>
      rcases pool.replace_cases (.array items) with ⟨name, hname, heq⟩ | heq
      · rw [heq, h.expand_variableRef hname]
      · rw [heq]
        refine expand_array ?_
        rw [List.map_map]
        refine List.map_congr_left fun item hitem => ih item hitem fun name hname => ?_
        exact hforeign name (Expr.mem_references_array hitem hname)
  | cast typeName inner ih =>
      rcases pool.replace_cases (.cast typeName inner) with ⟨name, hname, heq⟩ | heq
      · rw [heq, h.expand_variableRef hname]
      · rw [heq, expand, ih hforeign, Expr.write_cast]
  | table entries ih =>
      rcases pool.replace_cases (.table entries) with ⟨name, hname, heq⟩ | heq
      · rw [heq, h.expand_variableRef hname]
      · rw [heq]
        refine expand_table ?_
        rw [List.map_map]
        refine List.map_congr_left fun entry hentry => Prod.ext rfl ?_
        refine ih entry hentry fun name hname => ?_
        exact hforeign name (Expr.mem_references_table hentry hname)
  | variableRef name =>
      have hnone := textOf?_eq_none_iff.2 (hforeign name (List.mem_singleton_self name))
      change pool.expand (.variableRef name) = _
      rw [expand, hnone]
  | _ => rfl

/-- An expression that is left where a pool has put its references does not read as a text
that the pool knows. -/
theorem Distinct.lookup?_of_mem_nodes (h : pool.Distinct) {e : Expr}
    (hforeign : ∀ name ∈ e.references, name ∉ pool.variableNames) {node : Expr}
    (hnode : node ∈ (pool.replace e).nodes) (hcomposite : node.isComposite = true) :
    pool.lookup? (String.ofList (pool.expand node)) = none := by
  -- an expression that is left itself reads as before, and its text was looked up before
  have hself : ∀ e : Expr, (∀ name ∈ e.references, name ∉ pool.variableNames) →
      pool.lookup? e.render = none →
        pool.lookup? (String.ofList (pool.expand (pool.replace e))) = none := by
    intro e hforeign hnone
    rwa [h.expand_replace hforeign]
  have hvariable : ∀ {e : Expr} {name : String}, e.isComposite = true →
      pool.lookup? e.render = some name → node ∉ (pool.replace e).nodes := by
    intro e name he hname hmem
    rw [replace_of_lookup? he hname] at hmem
    rw [List.mem_singleton.1 hmem] at hcomposite
    cases hcomposite
  induction e using Expr.induct with
  | array items ih =>
      cases hlookup : pool.lookup? (Expr.array items).render with
      | some name => exact absurd hnode (hvariable rfl hlookup)
      | none =>
          have hleft := hself _ hforeign hlookup
          rw [replace_array hlookup] at hnode hleft
          rw [Expr.nodes_array, List.flatMap_map] at hnode
          rcases List.mem_cons.1 hnode with rfl | hnode
          · exact hleft
          · obtain ⟨item, hitem, hnode⟩ := List.mem_flatMap.1 hnode
            refine ih item hitem (fun name hname => ?_) hnode
            exact hforeign name (Expr.mem_references_array hitem hname)
  | cast typeName inner ih =>
      cases hlookup : pool.lookup? (Expr.cast typeName inner).render with
      | some name => exact absurd hnode (hvariable rfl hlookup)
      | none =>
          have hleft := hself _ hforeign hlookup
          rw [replace_cast hlookup] at hnode hleft
          rcases List.mem_cons.1 hnode with rfl | hnode
          · exact hleft
          · exact ih hforeign hnode
  | table entries ih =>
      cases hlookup : pool.lookup? (Expr.table entries).render with
      | some name => exact absurd hnode (hvariable rfl hlookup)
      | none =>
          have hleft := hself _ hforeign hlookup
          rw [replace_table hlookup] at hnode hleft
          rw [Expr.nodes_table, List.flatMap_map] at hnode
          rcases List.mem_cons.1 hnode with rfl | hnode
          · exact hleft
          · obtain ⟨entry, hentry, hnode⟩ := List.mem_flatMap.1 hnode
            refine ih entry hentry (fun name hname => ?_) hnode
            exact hforeign name (Expr.mem_references_table hentry hname)
  | _ =>
      rw [List.mem_singleton.1 hnode] at hcomposite
      cases hcomposite

/-- Where a pool that came about by registering texts puts references into an expression
which does not refer to its variables, the expression reads as before, with each variable
as the text that was registered for it.  An array, a cast or a table that is registered as
a whole becomes its variable, and none that is left reads as a registered text. -/
theorem expand_substitute (source : NameSource) (texts : List String) {e : Expr}
    (hforeign : ∀ name ∈ e.references, name ∉ (registerAll source texts).variableNames) :
    (registerAll source texts).expand ((registerAll source texts).substitute e) = e.write ∧
    (∀ name, e.isComposite = true → (registerAll source texts).lookup? e.render = some name →
      (registerAll source texts).substitute e = .variableRef name) ∧
    ∀ node ∈ ((registerAll source texts).substitute e).nodes, node.isComposite = true →
      (registerAll source texts).lookup?
        (String.ofList ((registerAll source texts).expand node)) = none := by
  have hdistinct := distinct_registerAll source texts
  rw [substitute_eq_replace]
  refine ⟨hdistinct.expand_replace hforeign, fun name => replace_of_lookup?, ?_⟩
  exact fun node hnode hcomposite => hdistinct.lookup?_of_mem_nodes hforeign hnode hcomposite

/-- A table with another one inside. -/
def nestedTable (inner : Expr) : Expr := .table [(.quoted "child", inner)]

/-- Where a table is registered and one around it as well, the outer one becomes its own
variable, and the inner one becomes its variable where it stands alone. -/
theorem expand_substitute_nested :
    let inner := Expr.table [(.quoted "k", .int 1)]
    let items := Expr.array [nestedTable inner, inner, .variableRef "other"]
    let pool := registerAll (.ofList []) [inner.render, (nestedTable inner).render]
    (pool.substitute items).render = "@($v2, $v1, $other)" ∧
      pool.expand (pool.substitute items) = items.write ∧
      pool.substitute (nestedTable inner) = .variableRef "v2" := by
  intro inner items pool
  have hforeign : ∀ name ∈ items.references, name ∉ pool.variableNames := by decide +kernel
  have houter : pool.lookup? (nestedTable inner).render = some "v2" := by decide +kernel
  obtain ⟨hexpand, -, -⟩ := expand_substitute (.ofList []) _ hforeign
  obtain ⟨-, hwhole, -⟩ := expand_substitute (.ofList []) [inner.render, (nestedTable inner).render]
    (e := nestedTable inner) fun _ h => absurd h List.not_mem_nil
  exact ⟨by decide +kernel, hexpand, hwhole "v2" rfl houter⟩

end Pool

end DesiredState
