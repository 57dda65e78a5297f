import DesiredState.Proofs.Redaction.Masking
import DesiredState.Proofs.Script.Origins

/-!
# Invocations without the marker

Every piece of a script is a string of the invocation, a fixed word, or the name of a
variable.  If the marker is in none of these strings, no property has a quote in its
name, and no variable either, all pieces of the script are without the marker, and its
redacted copy is its masked text.

## Main definitions

* `NameSource.Plain`, `Pool.Plain` — names without quotes.

## Main results

* `NameSource.plain_randomNames` — random names have no quotes, nor have numbered ones.
* `Invocation.unmarked_composites`, `Invocation.unmarked_block` — the pieces of a script
  are without the marker.
* `Invocation.redacted_eq_masked` — the redacted copy of a script is its masked text.
-/

namespace DesiredState

open Redaction

/-! ## Names without quotes -/

namespace NameSource

/-- No name of the source has a quote. -/
def Plain (source : NameSource) : Prop := ∀ n, '\'' ∉ (source.draw n).toList

theorem plain_ofList {names : List String} (h : ∀ name ∈ names, '\'' ∉ name.toList) :
    (ofList names).Plain := by
  intro n
  change '\'' ∉ (drawFrom names n).toList
  rw [drawFrom]
  split
  · next name hname => exact h name (List.mem_of_getElem? hname)
  · exact quote_not_mem_numbered _

theorem quote_ne_digitChar : ∀ digit < 16, '\'' ≠ Nat.digitChar digit := by decide

theorem quote_not_mem_hexDigits (count n : Nat) : '\'' ∉ hexDigits count n := by
  induction count generalizing n with
  | zero => exact List.not_mem_nil
  | succ count ih =>
      rw [hexDigits, List.mem_append, List.mem_singleton]
      rintro (h | h)
      · exact ih _ h
      · exact quote_ne_digitChar _ (Nat.mod_lt _ (by decide)) h

/-- A random name consists of digits and underscores. -/
theorem quote_not_mem_uuidName (n : Nat) : '\'' ∉ (uuidName n).toList := by
  have hdigit : '\'' ≠ Nat.digitChar (8 + (n >>> 60) % 4) := quote_ne_digitChar _ (by omega)
  simp [uuidName, quote_not_mem_hexDigits, hdigit]

/-- Random names have no quotes. -/
theorem plain_randomNames (count : Nat) (gen : StdGen) :
    (ofList (randomNames count gen)).Plain := by
  refine plain_ofList ?_
  induction count generalizing gen with
  | zero => simp [randomNames]
  | succ count ih => exact List.forall_mem_cons.2 ⟨quote_not_mem_uuidName _, ih _⟩

end NameSource

namespace Pool

/-- No variable of the pool has a quote in its name, and none will get one. -/
structure Plain (pool : Pool) : Prop where
  source : pool.source.Plain
  names : ∀ name ∈ pool.variableNames, '\'' ∉ name.toList

theorem plain_empty {source : NameSource} (h : source.Plain) : (empty source).Plain :=
  ⟨h, by simp [empty, variableNames, Entries.values]⟩

theorem Plain.declareAll {pool : Pool} (h : pool.Plain) (xs : List Composite) :
    (pool.declareAll xs).2.Plain := by
  refine declareAll_run (P := fun _ _ current => current.Plain) h ?_
  intro _ x _ _ current _ hcurrent
  cases hlookup : current.lookup? x.text with
  | some name => rwa [declare_of_lookup? hlookup]
  | none =>
      rw [declare_of_none hlookup]
      refine ⟨hcurrent.source, ?_⟩
      rw [variableNames_add, List.forall_mem_append, List.forall_mem_singleton]
      exact ⟨hcurrent.names, hcurrent.source _⟩

end Pool

/-! ## Pieces without the marker -/

/-- The fixed words of scripts are without the marker, and without quotes. -/
theorem fixedWords_unmarked : FixedWords (fun s => ¬ Marked s.toList) ('\'' ∉ ·.toList) where
  classKey := by decide
  credentialKeys := by decide
  method := by
    intro method
    cases method <;> decide
  instanceArrayType := by decide
  blockKeys := by decide

theorem Piece.unmarked_iff_holds (p : Piece) :
    p.Unmarked ↔ p.Holds (fun s => ¬ Marked s.toList) ('\'' ∉ ·.toList) := by
  cases p <;> exact Iff.rfl

/-- The statement for a credential or an instance without the marker. -/
theorem Composite.unmarked_statement {pool : Pool} (hpool : pool.Plain) {name : String}
    (hname : '\'' ∉ name.toList) {x : Composite}
    (h : ∀ s ∈ x.toValue.strings, ¬ Marked s.toList) :
    ∀ p ∈ (x.statement pool name).pieces, p.Unmarked := fun p hp =>
  p.unmarked_iff_holds.2 (holds_statement fixedWords_unmarked hpool.names hname h p hp)

/-- A separator that is not in the marker keeps two texts apart. -/
theorem Redaction.not_marked_append_cons {front back : List Char} {c : Char}
    (hc : c ∉ Expr.sensitiveMarker.toList) (hfront : ¬ Marked front) (hback : ¬ Marked back) :
    ¬ Marked (front ++ c :: back) := by
  have hstart : ∀ part, Expr.sensitiveMarker.toList <+: part ++ c :: back →
      Expr.sensitiveMarker.toList <+: part := by
    intro part hprefix
    rcases prefix_append_cases hprefix with hpart | ⟨rest, hne, heq, hrest⟩
    · exact hpart
    · obtain ⟨d, rest, rfl⟩ := List.exists_cons_of_ne_nil hne
      obtain ⟨rfl, -⟩ := List.cons_prefix_cons.1 hrest
      exact absurd (heq ▸ List.mem_append_right _ List.mem_cons_self) hc
  induction front with
  | nil =>
      intro h
      rcases List.infix_cons_iff.1 h with hprefix | h
      · exact hfront (hstart [] hprefix).isInfix
      · exact hback h
  | cons d front ih =>
      intro h
      rcases List.infix_cons_iff.1 h with hprefix | h
      · exact hfront (hstart (d :: front) hprefix).isInfix
      · exact ih (fun hmarked => hfront (List.infix_cons hmarked)) h

theorem quote_not_mem_bareProperty {property : String} (h : '\'' ∉ property.toList) :
    '\'' ∉ (bareProperty property).toList := by
  rw [bareProperty]
  split
  · rw [String.toList_ofList]
    exact fun hmem => h (List.mem_of_mem_drop hmem)
  · exact h

namespace Invocation

variable {source : NameSource} {inv : Invocation}

theorem unmarked_moduleExpr (h : ∀ s ∈ inv.moduleStrings, ¬ Marked s.toList) :
    ∀ p ∈ inv.moduleExpr.pieces, p.Unmarked := by
  cases hversion : inv.moduleVersion? with
  | none =>
    rw [moduleStrings, hversion] at h
    rw [moduleExpr, hversion]
    exact List.forall_mem_singleton.2 (h _ List.mem_cons_self)
  | some version =>
    rw [moduleStrings, hversion] at h
    rw [moduleExpr, hversion]
    simp only [List.forall_mem_cons] at h
    obtain ⟨hpath, hname, hnumber, -⟩ := h
    have hfile : ¬ Marked (inv.modulesPath ++ "/" ++ inv.moduleName ++ "/" ++ inv.moduleName ++
        ".psd1").toList := by
      have hend := not_marked_append_cons (c := '.') (by decide) hname
        (show ¬ Marked "psd1".toList by decide)
      have hall := not_marked_append_cons (c := '/') (by decide) hpath
        (not_marked_append_cons (c := '/') (by decide) hname hend)
      simpa [String.toList_append] using hall
    have hbare : ∀ name ∈ ["ModuleName", "RequiredVersion"], (Piece.name name).Unmarked := by
      decide
    simp only [Expr.bareTable, List.map_cons, List.map_nil, Expr.pieces, Expr.entryPieces,
      Key.piece, List.cons_append, List.nil_append, List.forall_mem_cons]
    exact ⟨hbare _ (by simp), hfile, hbare _ (by simp), hnumber, by simp⟩

/-- Everything that a script builds is without the marker. -/
theorem unmarked_composites (h : ∀ s ∈ inv.strings, ¬ Marked s.toList) {xs : List Composite}
    (hxs : inv.composites = .ok xs) : ∀ x ∈ xs, ∀ s ∈ x.toValue.strings, ¬ Marked s.toList :=
  holds_composites fixedWords_unmarked h hxs

/-- The block of a script is without the marker, if no property has a quote in its
name. -/
theorem unmarked_block {pool : Pool} (hpool : pool.Plain)
    (h : ∀ s ∈ inv.strings, ¬ Marked s.toList)
    (hproperties : ∀ property ∈ Entries.names inv.parameters.entries, '\'' ∉ property.toList)
    {block : Expr} (hblock : inv.toExpr pool = .ok block) : ∀ p ∈ block.pieces, p.Unmarked := by
  have hmodule := unmarked_moduleExpr fun s hs =>
    h s (List.mem_cons_of_mem _ (List.mem_append_left _ hs))
  have hholds := holds_block fixedWords_unmarked hpool.names h
    (fun property hproperty => quote_not_mem_bareProperty (hproperties property hproperty))
    (fun p hp => p.unmarked_iff_holds.1 (hmodule p hp)) hblock
  exact fun p hp => p.unmarked_iff_holds.2 (hholds p hp)

/-- The text of a script is written with sensitive literals and their markers, and its
redacted copy is written in the same way with the redacted literal in their place, if no
string that enters the script has the marker, and no property and no variable has a
quote in its name. -/
theorem redacted_eq_masked {script : Script} (h : inv.script source = .ok script)
    (hsource : source.Plain) (hstrings : ∀ s ∈ inv.strings, ¬ Marked s.toList)
    (hproperties : ∀ property ∈ Entries.names inv.parameters.entries, '\'' ∉ property.toList) :
    script.text = String.ofList (script.writeWith fun s => (Expr.sensitive s).write) ∧
      script.redacted = script.masked := by
  obtain ⟨xs, hxs, hstatements, hblock⟩ := run_of_script h
  have hempty := Pool.plain_empty hsource
  refine ⟨by rw [Script.writeWith_sensitive, Script.text], script.redacted_of_unmarked ?_⟩
  rw [Script.pieces, List.forall_mem_append, List.forall_mem_flatMap]
  refine ⟨fun s hs => ?_, unmarked_block (hempty.declareAll xs) hstrings hproperties hblock⟩
  rw [hstatements] at hs
  obtain ⟨front, back, hsplit⟩ := List.append_of_mem hs
  obtain ⟨before, x, after, rfl, -, -, rfl⟩ := Pool.exists_of_statement hsplit
  have hpool := hempty.declareAll before
  exact Composite.unmarked_statement hpool (hpool.source _)
    (unmarked_composites hstrings hxs x (by simp))

/-- The redacted copy of the sample is its masked text. -/
theorem redacted_eq_masked_sample :
    ∃ script, sample.script (NameSource.ofList []) = .ok script ∧
      script.redacted = script.masked := by
  obtain ⟨script, h⟩ := exists_script_sample
  exact ⟨script, h, (redacted_eq_masked h (NameSource.plain_ofList (by simp))
    (by decide +kernel) (by decide +kernel)).2⟩

end Invocation

end DesiredState
