import DesiredState.Proofs.Redaction.Renaming
import DesiredState.Proofs.Script.Block

/-!
# Scripts of renamed invocations

The pool compares texts, and the texts of what it knows carry secrets.  A renaming
that keeps secrets apart keeps these texts apart, so two runs that differ by such a
renaming ask the pool the same questions and get the same answers: they draw the
same names at the same places.

So the script of a renamed invocation is the renamed script, with the same failure
if there is one.  This needs that no credential with a plain password is embedded:
there the password is written as a plain text, which a renaming of the script does
not reach.

## Main definitions

* `Pool.Renamed` — two pools with the same names for what a renaming relates.

## Main results

* `Pool.Renamed.replace_toExpr`, `Pool.Renamed.declareAll` — replacing and building
  in lockstep.
* `Invocation.script_mapSecrets` — the script of a renamed invocation.
-/

namespace DesiredState

namespace Pool

variable {f : String → String} {pool other : Pool}

/-- Whether two entries of pools have the same name, and the text of a credential or
of an instance before and after a renaming. -/
def IsRenamedEntry (f : String → String) (entry renamed : String × String) : Prop :=
  renamed.2 = entry.2 ∧ ∃ x : Composite, entry.1 = x.text ∧ renamed.1 = (x.mapSecrets f).text

/-- Two pools with entries before and after a renaming, in the same order. -/
structure Renamed (f : String → String) (pool other : Pool) : Prop where
  source : other.source = pool.source
  drawn : other.drawn = pool.drawn
  entries : List.Forall₂ (IsRenamedEntry f) pool.entries other.entries

theorem renamed_empty (source : NameSource) : (empty source).Renamed f (empty source) :=
  ⟨rfl, rfl, .nil⟩

namespace Renamed

theorem variableNames_eq (h : pool.Renamed f other) : other.variableNames = pool.variableNames := by
  rw [variableNames, variableNames]
  obtain ⟨-, -, hentries⟩ := h
  generalize pool.entries = entries, other.entries = renamed at hentries ⊢
  induction hentries with
  | nil => rfl
  | cons hentry _ ih =>
      rw [Entries.values, Entries.values] at ih ⊢
      rw [List.map_cons, List.map_cons, ih, hentry.1]

theorem firstUnused_eq (h : pool.Renamed f other) :
    other.source.firstUnused other.variableNames other.drawn =
      pool.source.firstUnused pool.variableNames pool.drawn := by
  rw [h.source, h.drawn, h.variableNames_eq]

theorem nextName_eq (h : pool.Renamed f other) : other.nextName = pool.nextName := by
  rw [nextName, nextName, h.firstUnused_eq, h.source]

/-- A value has the same variable before and after the renaming. -/
theorem lookup?_literal (h : pool.Renamed f other) (hf : Function.Injective f) (v : Value) :
    other.lookup? (v.mapSecrets f).literal = pool.lookup? v.literal := by
  rw [lookup?, lookup?]
  obtain ⟨-, -, hentries⟩ := h
  generalize pool.entries = entries, other.entries = renamed at hentries ⊢
  induction hentries with
  | nil => rfl
  | @cons entry renamed rest others hentry _ ih =>
      obtain ⟨text, name⟩ := entry
      obtain ⟨renamedText, renamedName⟩ := renamed
      obtain ⟨rfl, x, rfl, rfl⟩ := hentry
      rw [Entries.get?, Entries.get?, ih]
      by_cases htext : x.text = v.literal
      · rw [if_pos htext, if_pos ((Composite.text_mapSecrets_eq_iff hf x v).2 htext)]
      · rw [if_neg htext, if_neg (mt (Composite.text_mapSecrets_eq_iff hf x v).1 htext)]

theorem lookup?_text (h : pool.Renamed f other) (hf : Function.Injective f) (x : Composite) :
    other.lookup? (x.mapSecrets f).text = pool.lookup? x.text := by
  rw [Composite.text_eq, Composite.text_eq, Composite.toValue_mapSecrets, h.lookup?_literal hf]

/-- What starts unlike a table has no variable before the renaming, and none after it. -/
theorem lookup?_eq_none (h : pool.Renamed f other) {text : String}
    (htext : text.toList.take 2 ≠ ['@', '\x7b']) :
    pool.lookup? text = none ∧ other.lookup? text = none := by
  rw [lookup?, lookup?]
  obtain ⟨-, -, hentries⟩ := h
  generalize pool.entries = entries, other.entries = renamed at hentries ⊢
  induction hentries with
  | nil => exact ⟨rfl, rfl⟩
  | @cons entry renamed rest others hentry _ ih =>
      obtain ⟨known, name⟩ := entry
      obtain ⟨renamedKnown, renamedName⟩ := renamed
      obtain ⟨rfl, x, rfl, rfl⟩ := hentry
      have hne : ∀ y : Composite, y.text ≠ text := fun y hy => htext (hy ▸ y.take_text)
      rw [Entries.get?, Entries.get?, if_neg (hne _), if_neg (hne _)]
      exact ih

theorem replace_array (h : pool.Renamed f other) {items renamed : List Expr}
    (hitems : renamed.map other.replace = items.map fun item => (pool.replace item).mapSecrets f) :
    other.replace (.array renamed) = (pool.replace (.array items)).mapSecrets f := by
  have hnone : ∀ items, pool.lookup? (Expr.array items).render = none ∧
      other.lookup? (Expr.array items).render = none :=
    fun items => h.lookup?_eq_none (by simp [Expr.render, Expr.write_array])
  rw [Pool.replace_array (hnone _).2, Pool.replace_array (hnone _).1, Expr.mapSecrets_array,
    List.map_map, hitems]
  rfl

theorem replace_cast (h : pool.Renamed f other) (typeName : String) {inner renamed : Expr}
    (hinner : other.replace renamed = (pool.replace inner).mapSecrets f) :
    other.replace (.cast typeName renamed) =
      (pool.replace (.cast typeName inner)).mapSecrets f := by
  have hnone : ∀ inner, pool.lookup? (Expr.cast typeName inner).render = none ∧
      other.lookup? (Expr.cast typeName inner).render = none :=
    fun inner => h.lookup?_eq_none (by simp [Expr.render, Expr.write_cast])
  rw [Pool.replace_cast (hnone _).2, Pool.replace_cast (hnone _).1, Expr.mapSecrets, hinner]

/-- A value that is known before the renaming is known after it. -/
theorem replace_of_known (h : pool.Renamed f other) (hf : Function.Injective f) {v : Value}
    (hcomposite : v.toExpr.isComposite = true) {name : String}
    (hname : pool.lookup? v.literal = some name) :
    other.replace (v.mapSecrets f).toExpr = (pool.replace v.toExpr).mapSecrets f := by
  have hother : other.lookup? (v.mapSecrets f).literal = some name := by
    rw [h.lookup?_literal hf, hname]
  have hmapped : (v.mapSecrets f).toExpr.isComposite = true := by
    rw [Value.toExpr_mapSecrets]
    cases hv : v.toExpr with
    | array _ | cast _ _ | table _ => rfl
    | _ => rw [hv] at hcomposite; cases hcomposite
  rw [replace_of_lookup? hmapped hother, replace_of_lookup? hcomposite hname]
  rfl

/-- The entries of a table are looked at one by one. -/
theorem replace_entriesToExpr {entries : List (String × Value)}
    (h : ∀ entry ∈ entries, other.replace (entry.2.mapSecrets f).toExpr =
      (pool.replace entry.2.toExpr).mapSecrets f) :
    ((Value.entriesToExpr (Value.entriesMapSecrets f entries)).map fun entry =>
        (entry.1, other.replace entry.2)) =
      Expr.entriesMapSecrets f ((Value.entriesToExpr entries).map fun entry =>
        (entry.1, pool.replace entry.2)) := by
  rw [Expr.entriesMapSecrets_eq, Value.entriesMapSecrets_eq, Value.entriesToExpr_eq,
    Value.entriesToExpr_eq, List.map_map, List.map_map, List.map_map, List.map_map]
  exact List.map_congr_left fun entry hentry => Prod.ext rfl (h entry hentry)

/-- References are put in the same places before and after the renaming. -/
theorem replace_toExpr (h : pool.Renamed f other) (hf : Function.Injective f) (v : Value) :
    other.replace (v.mapSecrets f).toExpr = (pool.replace v.toExpr).mapSecrets f := by
  induction v using Value.induct with
  | array items ih =>
      have harray : other.replace (.array (Value.itemsToExpr (items.map (Value.mapSecrets f)))) =
          (pool.replace (.array (Value.itemsToExpr items))).mapSecrets f := by
        refine h.replace_array ?_
        rw [Value.itemsToExpr_eq, Value.itemsToExpr_eq, List.map_map, List.map_map, List.map_map]
        exact List.map_congr_left ih
      rw [Value.mapSecrets, Value.itemsMapSecrets_eq, Value.toExpr, Value.toExpr,
        Value.all_isInstance_mapSecrets, List.isEmpty_map]
      split
      · exact h.replace_cast _ harray
      · exact harray
  | map entries ih =>
      cases hname : pool.lookup? (Value.map entries).literal with
      | some name => exact h.replace_of_known hf rfl hname
      | none =>
          have hother : other.lookup? ((Value.map entries).mapSecrets f).literal = none := by
            rw [h.lookup?_literal hf, hname]
          rw [Value.mapSecrets, Value.toExpr, Value.toExpr, replace_table hother,
            replace_table hname, replace_entriesToExpr ih, Expr.mapSecrets]
  | instanceOf className properties ih =>
      cases hname : pool.lookup? (Value.instanceOf className properties).literal with
      | some name => exact h.replace_of_known hf rfl hname
      | none =>
          have hother :
              other.lookup? ((Value.instanceOf className properties).mapSecrets f).literal =
                none := by
            rw [h.lookup?_literal hf, hname]
          rw [Value.mapSecrets, Value.toExpr, Value.toExpr, replace_table hother,
            replace_table hname, List.map_cons, List.map_cons, replace_entriesToExpr ih]
          rfl
  | _ => rfl

/-! ## Building in lockstep -/

theorem statement_mapSecrets (h : pool.Renamed f other) (hf : Function.Injective f) (name : String)
    (x : Composite) :
    (x.mapSecrets f).statement other name = (x.statement pool name).mapSecrets f := by
  cases x with
  | credential c => rfl
  | instanceOf i =>
      refine congrArg (Statement.newInstance name i.className) ?_
      exact replace_entriesToExpr fun entry _ => h.replace_toExpr hf entry.2

theorem add (h : pool.Renamed f other) (x : Composite) :
    (pool.add x.text).Renamed f (other.add (x.mapSecrets f).text) := by
  refine ⟨h.source, congrArg (· + 1) h.firstUnused_eq, ?_⟩
  rw [entries_add, entries_add]
  exact List.rel_append h.entries (.cons ⟨h.nextName_eq, x, rfl, rfl⟩ .nil)

/-- One more is built in lockstep. -/
theorem declare (h : pool.Renamed f other) (hf : Function.Injective f) (x : Composite) :
    (other.declare (x.mapSecrets f)).1 = (pool.declare x).1.map (Statement.mapSecrets f) ∧
      (pool.declare x).2.Renamed f (other.declare (x.mapSecrets f)).2 := by
  have hlookup := h.lookup?_text hf x
  cases hname : pool.lookup? x.text with
  | some name =>
      rw [hname] at hlookup
      rw [declare_of_lookup? hname, declare_of_lookup? hlookup]
      exact ⟨rfl, h⟩
  | none =>
      rw [hname] at hlookup
      rw [declare_of_none hname, declare_of_none hlookup, h.nextName_eq,
        h.statement_mapSecrets hf]
      exact ⟨rfl, h.add x⟩

/-- A list is built in lockstep. -/
theorem declareAll (h : pool.Renamed f other) (hf : Function.Injective f) (xs : List Composite) :
    (other.declareAll (xs.map (Composite.mapSecrets f))).1 =
        (pool.declareAll xs).1.map (Statement.mapSecrets f) ∧
      (pool.declareAll xs).2.Renamed f (other.declareAll (xs.map (Composite.mapSecrets f))).2 := by
  induction xs generalizing pool other with
  | nil => exact ⟨rfl, h⟩
  | cons x rest ih =>
      obtain ⟨hfirst, hnext⟩ := h.declare hf x
      obtain ⟨hothers, hlast⟩ := ih hnext
      rw [List.map_cons, Pool.declareAll, Pool.declareAll, hfirst, hothers, List.map_append]
      exact ⟨rfl, hlast⟩

end Renamed

end Pool

/-! ## The parameter block -/

namespace Parameter

variable {f : String → String} {pool other : Pool}

theorem replace_embeddedExpr (h : pool.Renamed f other) (hf : Function.Injective f)
    (p : Parameter) (instances : List Instance) :
    other.replace ((p.mapSecrets f).embeddedExpr (instances.map (Instance.mapSecrets f))) =
      (pool.replace (p.embeddedExpr instances)).mapSecrets f := by
  have hone : ∀ i : Instance, other.replace (i.mapSecrets f).toExpr =
      (pool.replace i.toExpr).mapSecrets f := fun i => h.replace_toExpr hf i.toValue
  have htype : (p.mapSecrets f).type = p.type := rfl
  rw [embeddedExpr, embeddedExpr, htype]
  split
  · refine h.replace_cast _ (h.replace_array ?_)
    rw [List.map_map, List.map_map, List.map_map]
    exact List.map_congr_left fun i _ => hone i
  · rw [List.map_map, List.getLast?_map, List.getLast?_map]
    cases instances.getLast? with
    | none => rfl
    | some i => exact hone i

/-- The expression of a parameter is renamed along with the parameter. -/
theorem toExpr_mapSecrets (h : pool.Renamed f other) (hf : Function.Injective f)
    {p : Parameter} (hplain : p.embedsPlainPassword = false) (property : String) :
    (p.mapSecrets f).toExpr other property = (p.toExpr pool property).map (Expr.mapSecrets f) := by
  have hshared : (p.mapSecrets f).isShared = p.isShared := by
    rw [isShared, isShared, needsCredential_mapSecrets, needsInstances_mapSecrets]
  rw [toExpr_eq, toExpr_eq, hshared, ownExpr, ownExpr, needsCredential_mapSecrets,
    needsInstances_mapSecrets]
  by_cases hcredential : p.needsCredential = true
  · have hvalue : (p.mapSecrets f).value = (p.value.mapSecrets f).mapPassword f := by
      rw [needsCredential, Bool.and_eq_true] at hcredential
      exact if_pos hcredential.1
    have hisShared : p.isShared = true := by rw [isShared, hcredential, Bool.true_or]
    rw [if_pos hcredential, if_pos hcredential, hvalue, Credential.ofValue_mapSecrets, hisShared]
    cases Credential.ofValue property p.value with
    | error e => rfl
    | ok c => exact congrArg Except.ok (h.replace_toExpr hf (Composite.credential c).toValue)
  · rw [if_neg hcredential, if_neg hcredential]
    by_cases hinstances : p.needsInstances = true
    · have hvalue := value_mapSecrets f hplain (.inr hinstances)
      have hisShared : p.isShared = true := by rw [isShared, hinstances, Bool.or_true]
      rw [if_pos hinstances, if_pos hinstances, instances_mapSecrets f hvalue, hisShared]
      cases p.instances with
      | error e => rfl
      | ok own => exact congrArg Except.ok (replace_embeddedExpr h hf p own)
    · have hisShared : p.isShared = false := by
        rw [Bool.not_eq_true] at hcredential hinstances
        rw [isShared, hcredential, hinstances]
        rfl
      rw [if_neg hinstances, if_neg hinstances, hisShared]
      refine congrArg Except.ok ?_
      by_cases hnull : p.value.isNull = true
      · rw [toExpr_of_isNull hnull, toExpr_of_isNull ((p.isNull_mapSecrets f).trans hnull)]
        rfl
      · have htype : p.type.isCredential = false := by
          rw [Bool.not_eq_true] at hnull hcredential
          rw [needsCredential, hnull] at hcredential
          simpa using hcredential
        rw [value_mapSecrets f hplain (.inl htype)]
        exact p.value.toExpr_mapSecrets f

end Parameter

theorem parameterEntries_mapSecrets {f : String → String} {pool other : Pool}
    (h : pool.Renamed f other) (hf : Function.Injective f) {parameters : List (String × Parameter)}
    (hplain : ∀ entry ∈ parameters, entry.2.embedsPlainPassword = false) :
    parameterEntries other (parametersMapSecrets f parameters) =
      (parameterEntries pool parameters).map (Expr.entriesMapSecrets f) := by
  induction parameters with
  | nil => rfl
  | cons parameter rest ih =>
      obtain ⟨hfirst, hrest⟩ := List.forall_mem_cons.1 hplain
      obtain ⟨property, p⟩ := parameter
      rw [parametersMapSecrets, List.map_cons, ← parametersMapSecrets, parameterEntries,
        parameterEntries, ih hrest, Parameter.toExpr_mapSecrets h hf hfirst]
      cases p.toExpr pool property with
      | error e => rfl
      | ok value => cases parameterEntries pool rest <;> rfl

namespace Invocation

variable {f : String → String}

theorem toExpr_mapSecrets {pool other : Pool} (h : pool.Renamed f other)
    (hf : Function.Injective f) {inv : Invocation} (hplain : inv.MarksPasswords) :
    (inv.mapSecrets f).toExpr other = (inv.toExpr pool).map (Expr.mapSecrets f) := by
  have hmodule : inv.moduleExpr.mapSecrets f = inv.moduleExpr := by
    rw [moduleExpr]
    cases inv.moduleVersion? <;> rfl
  have hentries : parameterEntries other (inv.mapSecrets f).parameters.entries = _ :=
    parameterEntries_mapSecrets h hf hplain
  rw [toExpr, toExpr, hentries]
  cases parameterEntries pool inv.parameters.entries with
  | error e => rfl
  | ok entries =>
      refine congrArg Except.ok ?_
      have hblock : ((inv.blockOf entries).mapSecrets f) =
          (inv.mapSecrets f).blockOf (Expr.entriesMapSecrets f entries) := by
        change Expr.table [_, _, _, (.bare "ModuleName", inv.moduleExpr.mapSecrets f)] = _
        rw [hmodule]
        rfl
      exact hblock.symm

theorem withNested_mapSecrets (instances : List Instance) :
    withNested (instances.map (Instance.mapSecrets f)) =
      (withNested instances).map (Composite.mapSecrets f) := by
  rw [withNested, withNested, List.flatMap_map, List.map_flatMap]
  refine List.flatMap_congr fun i _ => ?_
  have hinstances := i.toValue.instances_mapSecrets f
  rw [show (i.mapSecrets f).toValue = i.toValue.mapSecrets f from rfl, hinstances, List.map_map,
    List.map_map]
  rfl

/-- The script of a renamed invocation is the renamed script, and a failure stays what
it is. -/
theorem script_mapSecrets (hf : Function.Injective f) {inv : Invocation}
    (hplain : inv.MarksPasswords) (source : NameSource) :
    (inv.mapSecrets f).script source = (inv.script source).map (Script.mapSecrets f) := by
  have hcredentials : credentialsOf (inv.mapSecrets f).parameters.entries = _ :=
    credentialsOf_mapSecrets f inv.parameters.entries
  have hinstances : instancesOf (inv.mapSecrets f).parameters.entries = _ :=
    instancesOf_mapSecrets f hplain
  rw [script_eq, script_eq, hcredentials, hinstances]
  cases credentialsOf inv.parameters.entries with
  | error e => rfl
  | ok credentials =>
      cases instancesOf inv.parameters.entries with
      | error e => rfl
      | ok instances =>
          have hmap : (credentials.map (Credential.mapSecrets f)).map Composite.credential =
              (credentials.map .credential).map (Composite.mapSecrets f) := by
            rw [List.map_map, List.map_map]
            rfl
          obtain ⟨hfirst, hpool⟩ :=
            (Pool.renamed_empty source).declareAll hf (credentials.map .credential)
          obtain ⟨hsecond, hlast⟩ := hpool.declareAll hf (withNested instances)
          have hblock := toExpr_mapSecrets hlast hf hplain
          simp only [Except.map, bind, Except.bind, hmap, withNested_mapSecrets, hfirst, hsecond,
            hblock]
          cases inv.toExpr _ <;> rfl

end Invocation

end DesiredState
