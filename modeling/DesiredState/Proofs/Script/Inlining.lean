import DesiredState.Proofs.Script.Block
import Mathlib.Logic.Function.Iterate

/-!
# Scripts without variables

A variable of a script stands for the table that its statement constructs.  When
every reference is replaced by that table, and this is done until no reference is
left, the block of a script becomes the block that is made without variables.  So
sharing values through variables changes the script, but not what it says.

The tables hold references themselves, to what was built before.  Therefore one
round is not enough, and the number of rounds is bounded by the length of the
script.

The proof compares texts.  The pool knows what was built by its text only, and a
reference may well stand for a value of another shape with the same text.

## Main definitions

* `Statement.constructed` — the table that a statement constructs.
* `Expr.inline` — one round of replacing references by tables.
* `Script.inlined` — the block of a script after some rounds.
* `Expr.Settles` — from some round on an expression has no references and is a
  given text.

## Main results

* `Pool.Known.declare` — what is built from known variables is known.
* `Invocation.inlined_eq_literal` — the block becomes the one without variables.
-/

namespace DesiredState

/-- The table that a statement constructs. -/
def Statement.constructed : Statement → Expr
  | newCredential _ credential => credential.toExpr
  | newInstance _ className payload => .table ((.quoted classKey, .text className) :: payload)

namespace Expr

mutual

/-- The expression with each reference replaced by what it is defined as. -/
def inline (definitions : List (String × Expr)) : Expr → Expr
  | array items => array (inlineItems definitions items)
  | cast typeName inner => cast typeName (inline definitions inner)
  | table entries => table (inlineEntries definitions entries)
  | variableRef name => (Entries.get? definitions name).getD (variableRef name)
  | e => e

/-- The items of an array with each reference replaced. -/
def inlineItems (definitions : List (String × Expr)) : List Expr → List Expr
  | [] => []
  | item :: rest => inline definitions item :: inlineItems definitions rest

/-- The entries of a table with each reference replaced. -/
def inlineEntries (definitions : List (String × Expr)) : List (Key × Expr) → List (Key × Expr)
  | [] => []
  | (key, value) :: rest => (key, inline definitions value) :: inlineEntries definitions rest

end

end Expr

namespace Script

/-- The variables of a script with the tables they stand for. -/
def definitions (s : Script) : List (String × Expr) :=
  (s.credentials ++ s.instances).map fun statement => (statement.assigned, statement.constructed)

/-- The block of a script after replacing all references some times. -/
def inlined (s : Script) (rounds : Nat) : Expr := (Expr.inline s.definitions)^[rounds] s.block

end Script

/-! ## Rounds of replacing -/

namespace Expr

variable {definitions : List (String × Expr)}

theorem inlineItems_eq (items : List Expr) :
    inlineItems definitions items = items.map (inline definitions) := by
  induction items with
  | nil => rfl
  | cons item rest ih => rw [inlineItems, ih, List.map_cons]

theorem inlineEntries_eq (entries : List (Key × Expr)) :
    inlineEntries definitions entries =
      entries.map fun entry => (entry.1, inline definitions entry.2) := by
  induction entries with
  | nil => rfl
  | cons entry rest ih => rw [inlineEntries, ih, List.map_cons]

/-- Without references there is nothing to replace. -/
theorem inline_of_references_eq_nil {e : Expr} (h : e.references = []) :
    inline definitions e = e := by
  induction e using Expr.induct with
  | array items ih =>
      have hitems := references_array_eq_nil.1 h
      rw [inline, inlineItems_eq,
        List.map_congr_left fun item hmem => ih item hmem (hitems item hmem),
        List.map_id']
  | cast typeName inner ih => rw [inline, ih h]
  | table entries ih =>
      have hentries := references_table_eq_nil.1 h
      rw [inline, inlineEntries_eq]
      congr 1
      refine (List.map_congr_left (g := id) fun entry hmem => ?_).trans (List.map_id _)
      exact Prod.ext rfl (ih entry hmem (hentries entry hmem))
  | variableRef name => simp [references] at h
  | _ => rfl

theorem iterate_inline_array (rounds : Nat) (items : List Expr) :
    (inline definitions)^[rounds] (array items) =
      array (items.map (inline definitions)^[rounds]) := by
  induction rounds generalizing items with
  | zero => simp
  | succ rounds ih =>
      rw [Function.iterate_succ_apply, inline, inlineItems_eq, ih, List.map_map,
        Function.iterate_succ]

theorem iterate_inline_cast (rounds : Nat) (typeName : String) (inner : Expr) :
    (inline definitions)^[rounds] (cast typeName inner) =
      cast typeName ((inline definitions)^[rounds] inner) := by
  induction rounds generalizing inner with
  | zero => rfl
  | succ rounds ih => rw [Function.iterate_succ_apply, inline, ih, Function.iterate_succ_apply]

theorem iterate_inline_table (rounds : Nat) (entries : List (Key × Expr)) :
    (inline definitions)^[rounds] (table entries) =
      table (entries.map fun entry => (entry.1, (inline definitions)^[rounds] entry.2)) := by
  induction rounds generalizing entries with
  | zero => simp
  | succ rounds ih =>
      rw [Function.iterate_succ_apply, inline, inlineEntries_eq, ih, List.map_map]
      rfl

/-! ## Expressions that settle -/

/-- From a round on, the expression has no references, and is written as a text. -/
def Settles (definitions : List (String × Expr)) (round : Nat) (e : Expr) (cs : List Char) : Prop :=
  ∀ rounds, round ≤ rounds → ((inline definitions)^[rounds] e).references = [] ∧
    ((inline definitions)^[rounds] e).write = cs

theorem Settles.mono {first second : Nat} {e : Expr} {cs : List Char}
    (h : Settles definitions first e cs) (hle : first ≤ second) :
    Settles definitions second e cs := fun rounds hrounds => h rounds (Nat.le_trans hle hrounds)

/-- A literal is settled. -/
theorem settles_literal {e : Expr} (h : e.references = []) (round : Nat) :
    Settles definitions round e e.write := by
  intro rounds _
  rw [Function.iterate_fixed (inline_of_references_eq_nil h)]
  exact ⟨h, rfl⟩

/-- A reference settles one round after what it is defined as. -/
theorem settles_variableRef {name : String} {e : Expr} {round : Nat} {cs : List Char}
    (hname : Entries.get? definitions name = some e) (h : Settles definitions round e cs) :
    Settles definitions (round + 1) (variableRef name) cs := by
  intro rounds hrounds
  obtain ⟨rounds, rfl⟩ : ∃ n, rounds = n + 1 := ⟨rounds - 1, by omega⟩
  rw [Function.iterate_succ_apply, inline, hname, Option.getD_some]
  exact h rounds (by omega)

theorem map_eq_map_of_forall₂ {α β γ : Type} {f : α → γ} {g : β → γ} {as : List α} {bs : List β}
    (h : List.Forall₂ (fun a b => f a = g b) as bs) : as.map f = bs.map g := by
  rw [← List.forall₂_eq_eq_eq, List.forall₂_map_left_iff, List.forall₂_map_right_iff]
  exact h

/-- An array settles when its items do. -/
theorem settles_array {round : Nat} {items literals : List Expr}
    (h : List.Forall₂ (fun item literal => Settles definitions round item literal.write)
      items literals) :
    Settles definitions round (array items) (array literals).write := by
  intro rounds hrounds
  obtain ⟨hreferences, hwrite⟩ :=
    (List.forall₂_and_left _ _).1 (h.imp fun _ _ hs => hs rounds hrounds)
  rw [iterate_inline_array, references_array_eq_nil, List.forall_mem_map, write_array,
    write_array, List.map_map]
  refine ⟨hreferences, ?_⟩
  rw [map_eq_map_of_forall₂ (f := write ∘ _) hwrite]

/-- A table settles when its values do. -/
theorem settles_table {round : Nat} {entries literals : List (Key × Expr)}
    (h : List.Forall₂ (fun entry literal => entry.1 = literal.1 ∧
      Settles definitions round entry.2 literal.2.write) entries literals) :
    Settles definitions round (table entries) (table literals).write := by
  intro rounds hrounds
  have hentries : List.Forall₂ (fun entry literal =>
      ((inline definitions)^[rounds] entry.2).references = [] ∧
        writeKey entry.1 ++ " = ".toList ++ ((inline definitions)^[rounds] entry.2).write =
          writeKey literal.1 ++ " = ".toList ++ literal.2.write) entries literals := by
    refine h.imp fun entry literal hs => ?_
    obtain ⟨hreferences, hwrite⟩ := hs.2 rounds hrounds
    exact ⟨hreferences, by rw [hs.1, hwrite]⟩
  obtain ⟨hreferences, htexts⟩ := (List.forall₂_and_left _ _).1 hentries
  rw [iterate_inline_table, references_table_eq_nil, List.forall_mem_map, write_table,
    write_table, List.map_map]
  refine ⟨hreferences, ?_⟩
  rw [← map_eq_map_of_forall₂ htexts]
  rfl

theorem settles_cast {round : Nat} {inner literal : Expr}
    (h : Settles definitions round inner literal.write) (typeName : String) :
    Settles definitions round (cast typeName inner) (cast typeName literal).write := by
  intro rounds hrounds
  obtain ⟨hreferences, hwrite⟩ := h rounds hrounds
  rw [iterate_inline_cast, references, write_cast, write_cast, hwrite]
  exact ⟨hreferences, rfl⟩

end Expr

/-! ## Known variables settle -/

/-- Some rounds are enough for every variable of a pool to become the text it
stands for. -/
def Pool.Known (definitions : List (String × Expr)) (pool : Pool) (round : Nat) : Prop :=
  ∀ text name, pool.lookup? text = some name →
    Expr.Settles definitions round (.variableRef name) text.toList

namespace Pool

variable {definitions : List (String × Expr)} {pool : Pool} {round : Nat}

theorem known_empty (source : NameSource) : (empty source).Known definitions 0 := by
  intro text name h
  cases h

/-- References to known variables put into a literal settle as the literal. -/
theorem Known.settles_replace (h : pool.Known definitions round) {e : Expr}
    (he : e.references = []) : Expr.Settles definitions round (pool.replace e) e.write := by
  induction e using Expr.induct with
  | array items ih =>
      rcases pool.replace_cases (.array items) with ⟨name, hname, heq⟩ | heq
      · rw [heq]
        simpa [Expr.render] using h _ name hname
      · have hitems := Expr.references_array_eq_nil.1 he
        rw [heq]
        refine Expr.settles_array ?_
        rw [List.forall₂_map_left_iff, List.forall₂_same]
        exact fun item hmem => ih item hmem (hitems item hmem)
  | cast typeName inner ih =>
      rcases pool.replace_cases (.cast typeName inner) with ⟨name, hname, heq⟩ | heq
      · rw [heq]
        simpa [Expr.render] using h _ name hname
      · rw [heq]
        exact Expr.settles_cast (ih he) typeName
  | table entries ih =>
      rcases pool.replace_cases (.table entries) with ⟨name, hname, heq⟩ | heq
      · rw [heq]
        simpa [Expr.render] using h _ name hname
      · have hentries := Expr.references_table_eq_nil.1 he
        rw [heq]
        refine Expr.settles_table ?_
        rw [List.forall₂_map_left_iff, List.forall₂_same]
        exact fun entry hmem => ⟨rfl, ih entry hmem (hentries entry hmem)⟩
  | variableRef name => simp [Expr.references] at he
  | _ => exact Expr.settles_literal he round

/-- The table that a statement constructs settles as the text it is known by. -/
theorem Known.settles_constructed (h : pool.Known definitions round) (x : Composite)
    (name : String) :
    Expr.Settles definitions round (x.statement pool name).constructed x.text.toList := by
  rw [Composite.text, Expr.render, String.toList_ofList]
  cases x with
  | credential c =>
      exact Expr.settles_literal (Composite.references_toExpr (.credential c)) round
  | instanceOf i =>
      have hliteral : i.toExpr.references = [] := Composite.references_toExpr (.instanceOf i)
      have hentries := List.forall_mem_cons.1 (Expr.references_table_eq_nil.1 hliteral)
      refine Expr.settles_table (.cons ⟨rfl, Expr.settles_literal rfl round⟩ ?_)
      rw [Composite.payload, List.forall₂_map_left_iff, List.forall₂_same]
      exact fun entry hmem => ⟨rfl, h.settles_replace (hentries.2 entry hmem)⟩

/-- A variable built from known ones is known one round later. -/
theorem Known.declare (h : pool.Known definitions round) {x : Composite}
    (hdefined : ∀ s ∈ (pool.declare x).1,
      Entries.get? definitions s.assigned = some s.constructed) :
    (pool.declare x).2.Known definitions (round + 1) := by
  cases hlookup : pool.lookup? x.text with
  | some name =>
      rw [declare_of_lookup? hlookup]
      exact fun text name hname => (h text name hname).mono (Nat.le_succ round)
  | none =>
      rw [declare_of_none hlookup] at hdefined ⊢
      have hnext := hdefined _ (List.mem_singleton_self _)
      rw [Composite.assigned_statement] at hnext
      intro text name hname
      rw [lookup?_add] at hname
      cases hold : pool.lookup? text with
      | some other =>
          rw [hold] at hname
          obtain rfl : other = name := Option.some.inj hname
          exact (h text other hold).mono (Nat.le_succ round)
      | none =>
          rw [hold, Option.none_or] at hname
          split at hname
          · next htext =>
            obtain rfl := Option.some.inj hname
            rw [← htext]
            exact Expr.settles_variableRef hnext (h.settles_constructed x _)
          · cases hname

/-- All variables of a run are known after some rounds, when the definitions are
those of its statements. -/
theorem exists_known_declareAll (source : NameSource) {xs : List Composite}
    (hdefined : ∀ s ∈ ((empty source).declareAll xs).1,
      Entries.get? definitions s.assigned = some s.constructed) :
    ∃ round, ((empty source).declareAll xs).2.Known definitions round := by
  refine declareAll_run (P := fun _ statements current =>
    (∀ s ∈ statements, Entries.get? definitions s.assigned = some s.constructed) →
      ∃ round, current.Known definitions round)
    (fun _ => ⟨0, known_empty source⟩) ?_ hdefined
  intro _ x _ statements current _ ih hall
  obtain ⟨round, hround⟩ := ih fun s hs => hall s (List.mem_append_left _ hs)
  exact ⟨round + 1, hround.declare fun s hs => hall s (List.mem_append_right _ hs)⟩

end Pool

/-! ## The block without variables -/

/-- Each variable of a script is defined as what its own statement constructs. -/
theorem Script.get?_definitions {s : Script}
    (h : ((s.credentials ++ s.instances).map Statement.assigned).Nodup) {statement : Statement}
    (hmem : statement ∈ s.credentials ++ s.instances) :
    Entries.get? s.definitions statement.assigned = some statement.constructed := by
  refine Entries.get?_of_mem ?_ (List.mem_map.2 ⟨statement, hmem, rfl⟩)
  rwa [Entries.names, definitions, List.map_map]

namespace Invocation

/-- The property tables of two blocks settle alike, and so do the blocks. -/
theorem settles_blockOf {definitions : List (String × Expr)} {round : Nat}
    {entries literals : List (Key × Expr)} (inv : Invocation)
    (h : Expr.Settles definitions round (.table entries) (Expr.table literals).write) :
    Expr.Settles definitions round (inv.blockOf entries) (inv.blockOf literals).write := by
  have hmodule : Expr.Settles definitions round inv.moduleExpr inv.moduleExpr.write :=
    Expr.settles_literal inv.references_moduleExpr round
  refine Expr.settles_table (.cons ⟨rfl, Expr.settles_literal rfl round⟩ <|
    .cons ⟨rfl, Expr.settles_literal rfl round⟩ <| .cons ⟨rfl, h⟩ <|
    .cons ⟨rfl, hmodule⟩ .nil)

/-- Each entry made with known variables settles as the one made without any. -/
theorem exists_literals {definitions : List (String × Expr)} {round : Nat} {pool : Pool}
    (hknown : pool.Known definitions round) (source : NameSource)
    {parameters : List (String × Parameter)} {entries : List (Key × Expr)}
    (h : List.Forall₂ (IsEntryOf pool) parameters entries) :
    ∃ literals, List.Forall₂ (IsEntryOf (Pool.empty source)) parameters literals ∧
      (∀ literal ∈ literals, literal.2.references = []) ∧
      List.Forall₂ (fun entry literal => entry.1 = literal.1 ∧
        Expr.Settles definitions round entry.2 literal.2.write) entries literals := by
  induction h with
  | nil => exact ⟨[], .nil, by simp, .nil⟩
  | @cons parameter entry parameters entries hentry _ ih =>
      obtain ⟨property, p⟩ := parameter
      obtain ⟨literals, hliterals, hreferences, hsettles⟩ := ih
      obtain ⟨e, hown, hvalue⟩ := hentry.exists_own
      have hliteral := Parameter.references_ownExpr hown
      have hsettled : Expr.Settles definitions round entry.2 e.write := by
        rw [hvalue]
        split
        · exact hknown.settles_replace hliteral
        · exact Expr.settles_literal hliteral round
      exact ⟨(.bare (bareProperty property), e) :: literals,
        .cons ⟨rfl, (p.toExpr_empty source property).trans hown⟩ hliterals,
        List.forall_mem_cons.2 ⟨hliteral, hreferences⟩, .cons ⟨hentry.1, hsettled⟩ hsettles⟩

/-- Replacing the references in the block of a script by the tables that their
statements construct, until none is left, gives the block that is made without
variables. -/
theorem inlined_eq_literal {source : NameSource} {inv : Invocation} {script : Script}
    (h : inv.script source = .ok script) :
    ∃ literal, inv.toExpr (Pool.empty source) = .ok literal ∧ literal.references = [] ∧
      (∃ rounds, (script.inlined rounds).references = []) ∧
      ∀ rounds, (script.inlined rounds).references = [] →
        writeAssignment (script.inlined rounds) = writeAssignment literal := by
  obtain ⟨xs, -, hstatements, hblock⟩ := run_of_script h
  have hnodup : ((script.credentials ++ script.instances).map Statement.assigned).Nodup := by
    have hnames := (Pool.distinct_empty source).declareAll xs
    rwa [Pool.Distinct, Pool.variableNames_declareAll, ← hstatements] at hnames
  have hdefined : ∀ s ∈ ((Pool.empty source).declareAll xs).1,
      Entries.get? script.definitions s.assigned = some s.constructed := fun s hs =>
    Script.get?_definitions hnodup (hstatements ▸ hs)
  obtain ⟨round, hknown⟩ := Pool.exists_known_declareAll source hdefined
  obtain ⟨entries, hentries, hshape⟩ := toExpr_eq_ok_iff.1 hblock
  obtain ⟨literals, hliterals, hreferences, hsettles⟩ :=
    exists_literals hknown source (parameterEntries_eq_ok_iff.1 hentries)
  have hblock : Expr.Settles script.definitions round script.block
      (inv.blockOf literals).write := by
    rw [hshape]
    exact inv.settles_blockOf (Expr.settles_table hsettles)
  refine ⟨inv.blockOf literals, ?_, ?_, ⟨round, (hblock round (Nat.le_refl round)).1⟩, ?_⟩
  · exact toExpr_eq_ok_iff.2 ⟨literals, parameterEntries_eq_ok_iff.2 hliterals, rfl⟩
  · rw [references_blockOf, Expr.references_table_eq_nil]
    exact hreferences
  · -- An expression without references stays as it is in all rounds that follow.
    intro rounds hrounds
    have hstays : script.inlined (round + rounds) = script.inlined rounds := by
      rw [Script.inlined, Function.iterate_add_apply]
      exact Function.iterate_fixed (Expr.inline_of_references_eq_nil hrounds) round
    have hwrite := (hblock (round + rounds) (Nat.le_add_right _ _)).2
    rw [← Script.inlined, hstays] at hwrite
    exact writeAssignment_congr hwrite

/-- Below the rules of the sample, an instance and the credential become tables. -/
theorem inlined_eq_literal_sample :
    ∃ script literal, sample.script (NameSource.ofList []) = .ok script ∧
      sample.toExpr (Pool.empty (NameSource.ofList [])) = .ok literal ∧
      ∃ rounds, writeAssignment (script.inlined rounds) = writeAssignment literal := by
  obtain ⟨script, h⟩ := exists_script_sample
  obtain ⟨literal, hliteral, -, ⟨rounds, hrounds⟩, heq⟩ := inlined_eq_literal h
  exact ⟨script, literal, h, hliteral, rounds, heq rounds hrounds⟩

end Invocation

end DesiredState
