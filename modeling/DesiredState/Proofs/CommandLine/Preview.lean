import DesiredState.CommandLine.Run
import DesiredState.Proofs.Answer.Session
import DesiredState.Proofs.Mapping

/-!
# Previews

A preview makes a script from a document and shows it.  A change makes its script from the
document in the same way, so the preview shows what the change hands over.  A query leaves
out first what does not identify the resource, and a preview does not: it shows the script of
the query only for a document with nothing else in it.  Any other property that the resource
declares is in the preview and not in the query, and for one that is not declared at all the
preview fails while the query does not.

## Main definitions

* `Request.recorded` — what a request comes to, and the scripts that it hands over.
* `Faithful` — a preview shows what a command does.
* `Schema.OnlyIdentifies` — a document for which a query leaves out nothing.

## Main results

* `Request.faithful_change` — the preview of a change is faithful.
* `Request.faithful_query_iff` — when the preview of a query is.
* `Request.preview_faithful` — both, for all files.
-/

namespace DesiredState

/-! ## Documents that only identify -/

namespace Schema

variable {schema : Schema} {properties : Properties}

/-- Whether each property of a document identifies the resource, or is kept from it. -/
def OnlyIdentifies (schema : Schema) (properties : Properties) : Prop :=
  ∀ entry ∈ properties.entries, entry.1 ∈ schema.identifying ∨
    isWithheld entry.1 entry.2 = true ∨
    (schema.attributes.get? entry.1).any (fun declared => declared.type?.isNone) = true

instance (schema : Schema) (properties : Properties) :
    Decidable (schema.OnlyIdentifies properties) :=
  inferInstanceAs (Decidable (∀ entry ∈ properties.entries, _ ∨ _ ∨ _))

/-- The parameter that a property of an identity becomes in a query. -/
def identifyingParameter? (schema : Schema) (property : String) (value : Value) :
    Option Parameter :=
  if schema.identifying.contains property then schema.parameter? property value else none

/-- A property becomes no parameter if it is kept from the resource, or has no type. -/
theorem parameter?_eq_none_iff {property : String} {value : Value}
    (h : schema.isUndeclared property value = false) :
    schema.parameter? property value = none ↔ isWithheld property value = true ∨
      (schema.attributes.get? property).any (fun declared => declared.type?.isNone) = true := by
  rw [isUndeclared] at h
  rw [parameter?]
  cases hwithheld : isWithheld property value with
  | true => simp
  | false =>
      rw [hwithheld] at h
      cases hdeclared : schema.attributes.get? property with
      | none => rw [hdeclared] at h; cases h
      | some declared => cases htype : declared.type? <;> simp [htype]

theorem isUndeclared_of_kept {property : String} {value : Value}
    (h : isWithheld property value = true ∨
      (schema.attributes.get? property).any (fun declared => declared.type?.isNone) = true) :
    schema.isUndeclared property value = false := by
  rw [isUndeclared]
  rcases h with h | h
  · rw [h, Bool.not_true, Bool.false_and]
  · cases hdeclared : schema.attributes.get? property with
    | none => rw [hdeclared] at h; cases h
    | some declared => rw [Option.isNone_some, Bool.and_false]

/-- A document only identifies if it is declared and the parameters of it are those of the
identity. -/
theorem onlyIdentifies_iff : schema.OnlyIdentifies properties ↔
    ∀ entry ∈ properties.entries, schema.isUndeclared entry.1 entry.2 = false ∧
      schema.identifyingParameter? entry.1 entry.2 = schema.parameter? entry.1 entry.2 := by
  refine forall₂_congr fun entry _ => ?_
  by_cases hidentifies : entry.1 ∈ schema.identifying
  · have hdeclared := isUndeclared_of_mem_identifying hidentifies entry.2
    simp [identifyingParameter?, hidentifies, hdeclared]
  · have hnone : schema.identifyingParameter? entry.1 entry.2 = none := by
      simp [identifyingParameter?, hidentifies]
    rw [hnone, or_iff_right hidentifies]
    constructor
    · intro hkept
      have hdeclared := isUndeclared_of_kept hkept
      exact ⟨hdeclared, ((parameter?_eq_none_iff hdeclared).2 hkept).symm⟩
    · rintro ⟨hdeclared, hparameter⟩
      exact (parameter?_eq_none_iff hdeclared).1 hparameter.symm

/-- What is left of a document becomes the parameters of the identity. -/
theorem filterMap_filter_identifying (schema : Schema) (properties : Properties) :
    (properties.filter fun name => schema.identifying.contains name).filterMap
      schema.parameter? = properties.filterMap schema.identifyingParameter? := by
  refine Fields.eq_of_entries_eq ?_
  change (properties.entries.filter _).filterMap _ = properties.entries.filterMap _
  rw [List.filterMap_filter]
  refine List.filterMap_congr fun (property, value) _ => ?_
  dsimp only
  rw [identifyingParameter?]
  split <;> rfl

/-- The title is kept from the resource. -/
theorem filterMap_insert_title (schema : Schema) (properties : Properties) (title : Value) :
    (properties.insert titleProperty title).filterMap schema.identifyingParameter? =
      properties.filterMap schema.identifyingParameter? := by
  refine Fields.eq_of_entries_eq (Entries.filterMap_insert (fun value => ?_) _ _)
  have hwithheld : schema.parameter? titleProperty value = none := rfl
  dsimp only
  rw [identifyingParameter?, hwithheld, ite_self]
  rfl

/-- As many parameters as those of the identity are just those. -/
theorem onlyIdentifies_of_length
    (hdeclared : ∀ entry ∈ properties.entries, schema.isUndeclared entry.1 entry.2 = false)
    (hlength : (properties.filterMap schema.identifyingParameter?).entries.length =
      (properties.filterMap schema.parameter?).entries.length) :
    schema.OnlyIdentifies properties := by
  have hsublist : (properties.filterMap schema.identifyingParameter?).entries.Sublist
      (properties.filterMap schema.parameter?).entries := by
    rw [← filterMap_filter_identifying]
    exact List.filter_sublist.filterMap _
  have hentries := hsublist.eq_of_length hlength
  rw [onlyIdentifies_iff]
  refine fun entry hentry => ⟨hdeclared entry hentry, ?_⟩
  rw [identifyingParameter?]
  split
  · rfl
  · next hother =>
    cases hparameter : schema.parameter? entry.1 entry.2 with
    | none => rfl
    | some p =>
        -- a parameter of another property would be one of the identity, too
        have hmem : (entry.1, p) ∈ (properties.filterMap schema.parameter?).entries :=
          List.mem_filterMap.2 ⟨entry, hentry, congrArg (Option.map (entry.1, ·)) hparameter⟩
        rw [← hentries] at hmem
        obtain ⟨⟨property, value⟩, -, hsome⟩ := List.mem_filterMap.1 hmem
        obtain ⟨q, hq, heq⟩ := Option.map_eq_some_iff.1 hsome
        cases heq
        rw [identifyingParameter?, if_neg hother] at hq
        cases hq

end Schema

/-! ## Attempts to make a script -/

namespace Invocation

variable {inv : Invocation} {source other : NameSource} {script handed : Script}

theorem blockOf_injective {entries others : List (Key × Expr)}
    (h : inv.blockOf entries = inv.blockOf others) : entries = others := by
  simp only [blockOf, Expr.bareTable, List.map_cons, Expr.table.injEq, List.cons.injEq,
    Prod.mk.injEq, true_and, and_true] at h
  exact h

/-- The block of a script has an entry for each parameter. -/
theorem exists_block (h : inv.script source = .ok script) :
    ∃ entries, script.block = inv.blockOf entries ∧
      entries.length = inv.parameters.entries.length := by
  obtain ⟨built, embedded, first, second, hrun⟩ := exists_run h
  obtain ⟨entries, hentries, hblock⟩ := toExpr_eq_ok_iff.1 hrun.toExpr_eq
  exact ⟨entries, hblock, (parameterEntries_eq_ok_iff.1 hentries).length_eq.symm⟩

/-- Calls of a resource whose scripts are the same up to names have as many parameters. -/
theorem length_parameters_eq {schema : Schema} {method : Method} {modulesPath : String}
    {parameters others : Fields Parameter}
    (h : (schema.invocation method modulesPath parameters).script source = .ok script)
    (hother : (schema.invocation method modulesPath others).script other = .ok handed)
    (hsame : script.SameUpToNames handed) :
    others.entries.length = parameters.entries.length := by
  obtain ⟨entries, hblock, hlength⟩ := exists_block h
  obtain ⟨handedEntries, hhanded, hhandedLength⟩ := exists_block hother
  have hrename := congrArg Script.block hsame.eq_rename
  rw [Script.rename, hblock, rename_blockOf, hhanded] at hrename
  change (schema.invocation method modulesPath parameters).blockOf handedEntries = _ at hrename
  rw [blockOf_injective hrename, Expr.entriesRename_eq, List.length_map] at hhandedLength
  exact hhandedLength.symm.trans hlength

end Invocation

/-- Whether two attempts to make a script fail alike, or make the same up to names. -/
structure SameAttempt (shown made : Except Error Script) : Prop where
  error : ∀ e, shown = .error e → made = .error e
  ok : ∀ script, shown = .ok script → ∃ handed, made = .ok handed ∧ script.SameUpToNames handed

theorem Invocation.sameAttempt (inv : Invocation) (source other : NameSource) :
    SameAttempt (inv.script source) (inv.script other) where
  error _ h := script_eq_error_iff.2 (script_eq_error_iff.1 h)
  ok _ h := exists_sameUpToNames h other

namespace Provider

variable {m : Type → Type} {p : Provider m}

/-- A query sends the parameters of the identity only. -/
theorem scriptOf_identifying (p : Provider m) (names : NameSource) (desired : Properties)
    (title : Value) :
    { p with names }.scriptOf .get (p.identifying (desired.insert titleProperty title)) =
      (p.schema.invocation .get p.modulesPath
        (desired.filterMap p.schema.identifyingParameter?)).script names := by
  have hinvocation : Invocation.ofProperties p.schema
      (p.identifying (desired.insert titleProperty title)) .get p.modulesPath =
      .ok (p.schema.invocation .get p.modulesPath
        (desired.filterMap p.schema.identifyingParameter?)) := by
    rw [identifying, Schema.ofProperties_identifying, Schema.filterMap_filter_identifying,
      Schema.filterMap_insert_title]
  change Invocation.ofProperties p.schema _ .get p.modulesPath >>= _ = _
  rw [hinvocation]
  rfl

theorem scriptOf_of_declared {method : Method} {desired : Properties}
    (h : ∀ entry ∈ desired.entries, p.schema.isUndeclared entry.1 entry.2 = false) :
    p.scriptOf method desired = (p.schema.invocation method p.modulesPath
      (desired.filterMap p.schema.parameter?)).script p.names := by
  rw [scriptOf, Schema.ofProperties_eq_ok_iff.2 ⟨h, rfl⟩]
  rfl

theorem isUndeclared_of_scriptOf {method : Method} {desired : Properties} {script : Script}
    (h : p.scriptOf method desired = .ok script) :
    ∀ entry ∈ desired.entries, p.schema.isUndeclared entry.1 entry.2 = false := by
  rw [scriptOf] at h
  cases hinv : Invocation.ofProperties p.schema desired method p.modulesPath with
  | error e => rw [hinv] at h; cases h
  | ok inv => exact (Schema.ofProperties_eq_ok_iff.1 hinv).1

/-- With the same properties, other names make no difference. -/
theorem sameAttempt_names (p : Provider m) (names : NameSource) (method : Method)
    (desired : Properties) :
    SameAttempt (p.scriptOf method desired) ({ p with names }.scriptOf method desired) where
  error _ h := (p.makesAlike_names names).error h
  ok _ h := (p.makesAlike_names names).ok h

/-- The script of all properties is that of the identity, if either can not be made for the
same reason, or there is nothing else in the document. -/
theorem sameAttempt_identity_iff (p : Provider m) (names : NameSource) (desired : Properties)
    (title : Value) :
    SameAttempt (p.scriptOf .get desired)
      ({ p with names }.scriptOf .get (p.identifying (desired.insert titleProperty title))) ↔
      (∃ e, p.scriptOf .get desired = .error e ∧
        { p with names }.scriptOf .get (p.identifying (desired.insert titleProperty title)) =
          .error e) ∨ p.schema.OnlyIdentifies desired := by
  have hmade := p.scriptOf_identifying names desired title
  constructor
  · intro h
    cases hshown : p.scriptOf .get desired with
    | error e => exact .inl ⟨e, rfl, h.error e hshown⟩
    | ok script =>
        obtain ⟨handed, hhanded, hsame⟩ := h.ok script hshown
        have hdeclared := isUndeclared_of_scriptOf hshown
        rw [scriptOf_of_declared hdeclared] at hshown
        have hlength := Invocation.length_parameters_eq hshown (hmade.symm.trans hhanded) hsame
        exact .inr (Schema.onlyIdentifies_of_length hdeclared hlength)
  · rintro (⟨e, hshown, hother⟩ | hidentifies)
    · rw [hshown, hother]
      exact ⟨fun _ h => h, fun _ h => (nomatch h)⟩
    · have hentries := Schema.onlyIdentifies_iff.1 hidentifies
      have hparameters : desired.filterMap p.schema.identifyingParameter? =
          desired.filterMap p.schema.parameter? :=
        Fields.eq_of_entries_eq (List.filterMap_congr fun entry hentry =>
          congrArg (Option.map (entry.1, ·)) (hentries entry hentry).2)
      rw [hmade, scriptOf_of_declared fun entry hentry => (hentries entry hentry).1, hparameters]
      exact Invocation.sameAttempt _ p.names names

end Provider

/-! ## What a command does -/

/-- Whether a preview is one of what a command does, which gives a result and the scripts that
were handed over: it fails exactly if the command fails with the same error before anything
is handed over, and shows the only script otherwise, up to names. -/
structure Faithful (shown : Except Error Script) (did : Except Error String × List Script) :
    Prop where
  fails_iff : ∀ e, shown = .error e ↔ did = (.error e, [])
  shows : ∀ script, shown = .ok script →
    ∃ handed, did.2 = [handed] ∧ script.SameUpToNames handed

/-- Whether a command hands over one script, if it can be made, and fails otherwise. -/
structure Makes (made : Except Error Script) (did : Except Error String × List Script) :
    Prop where
  error : ∀ e, made = .error e → did = (.error e, [])
  ok : ∀ script, made = .ok script → did.2 = [script]

namespace Makes

variable {shown made : Except Error Script} {did : Except Error String × List Script}

theorem eq_error_iff (h : Makes made did) (e : Error) :
    did = (.error e, []) ↔ made = .error e := by
  refine ⟨fun hdid => ?_, h.error e⟩
  cases made with
  | error other =>
      rw [h.error other rfl] at hdid
      cases hdid
      rfl
  | ok script =>
      have hsent := h.ok script rfl
      rw [hdid] at hsent
      cases hsent

theorem eq_singleton_iff (h : Makes made did) (handed : Script) :
    did.2 = [handed] ↔ made = .ok handed := by
  refine ⟨fun hdid => ?_, h.ok handed⟩
  cases made with
  | error e =>
      rw [h.error e rfl] at hdid
      cases hdid
  | ok script =>
      rw [h.ok script rfl] at hdid
      cases hdid
      rfl

/-- A preview is faithful if it is the same attempt as that of the command. -/
theorem faithful_iff (h : Makes made did) : Faithful shown did ↔ SameAttempt shown made := by
  constructor
  · intro hfaithful
    refine ⟨fun e hshown => (h.eq_error_iff e).1 ((hfaithful.fails_iff e).1 hshown), ?_⟩
    intro script hshown
    obtain ⟨handed, hhanded, hsame⟩ := hfaithful.shows script hshown
    exact ⟨handed, (h.eq_singleton_iff handed).1 hhanded, hsame⟩
  · intro hattempt
    refine ⟨fun e => ?_, fun script hshown => ?_⟩
    · rw [h.eq_error_iff]
      refine ⟨hattempt.error e, fun hmade => ?_⟩
      cases shown with
      | error other => exact congrArg Except.error (Except.error.inj
          ((hattempt.error other rfl).symm.trans hmade))
      | ok script =>
          obtain ⟨handed, hhanded, -⟩ := hattempt.ok script rfl
          rw [hmade] at hhanded
          cases hhanded
    · obtain ⟨handed, hhanded, hsame⟩ := hattempt.ok script hshown
      exact ⟨handed, (h.eq_singleton_iff handed).2 hhanded, hsame⟩

end Makes

namespace Request

variable {s : Surroundings} {answers : Answers} {schema resource title config : String}

/-- What a request comes to when these are the answers to its scripts, and the scripts that
it hands over. -/
def recorded (s : Surroundings) (answers : Answers) (request : Request) :
    Except Error String × List Script :=
  Exchange.run (fun answers => request.runOn s fun _ => .answering answers) answers []

/-- The provider and the document in files.  No script is run to read them, so an interpreter
that writes nothing will do. -/
def documents (s : Surroundings) (schema resource config : String) :
    Except Error (Provider Id × Properties) := do
  let provider ← provider (m := Id) s (fun _ _ => pure ⟨0, "", ""⟩) schema config
  let desired ← s.files.readProperties resource
  pure (provider, desired)

theorem scriptOfFiles_eq (method : Method) :
    scriptOfFiles s schema resource method config =
      documents s schema resource config >>= fun found => found.1.scriptOf method found.2 := by
  simp only [documents, provider, bind_assoc, pure_bind]
  rfl

/-- The interpreter and the names have no part in the reading of files. -/
theorem after_documents {α : Type} (names : NameSource) (answers : Answers)
    (f : Provider (StateM (List Script)) → Properties → ExceptT Error (StateM (List Script)) α) :
    (do
      let p ← ExceptT.mk
        (pure (provider { s with names } (fun _ => .answering answers) schema config))
      let desired ← ExceptT.mk (pure (s.files.readProperties resource))
      f p desired) =
      ExceptT.mk (pure (documents s schema resource config)) >>= fun found =>
        f ({ found.1 with names }.answering answers) found.2 := by
  rw [documents, provider, provider]
  cases s.files.readSchema schema with
  | error e => rfl
  | ok schema =>
      cases s.files.readConfig config with
      | error e => rfl
      | ok config =>
          cases s.files.readProperties resource with
          | error e => rfl
          | ok desired => rfl

end Request

namespace Provider

variable {m : Type → Type}

theorem makes_change (p : Provider m) (desired : Properties) (answers : Answers)
    (f : Outcome → String) :
    Makes (p.scriptOf .set desired)
      (Exchange.run (fun answers => f <$> (p.answering answers).change desired) answers []) where
  error _ h := Exchange.run_map (run_change_of_error h answers []) f
  ok _ h := congrArg Prod.snd (Exchange.run_map (run_change_of_script h answers []) f)

theorem makes_query (p : Provider m) (identity : Properties) (answers : Answers)
    (f : Report → String) :
    Makes (p.scriptOf .get (p.identifying identity))
      (Exchange.run (fun answers => f <$> (p.answering answers).query identity) answers []) where
  error _ h := Exchange.run_map (run_query_of_error h answers []) f
  ok _ h := congrArg Prod.snd (Exchange.run_map (run_query_of_script h answers []) f)

end Provider

/-- What is wrong with the files is what is wrong with a request; otherwise it does what is
done with what is found in them. -/
theorem Makes.after_files {α β : Type} {x : β → Exchange α} {made : β → Except Error Script}
    {f : α → String} {answers : Answers}
    (h : ∀ found, Makes (made found)
      (Exchange.run (fun answers => f <$> x found answers) answers []))
    (found? : Except Error β) :
    Makes (found? >>= made) (Exchange.run
      (fun answers => f <$> (ExceptT.mk (pure found?) >>= fun found => x found answers))
      answers []) := by
  cases found? with
  | error e =>
      refine ⟨fun e he => ?_, fun script hscript => (nomatch hscript)⟩
      cases he
      rfl
  | ok found => exact h found

namespace Request

variable {s : Surroundings} {schema resource config : String}

theorem read_of_documents {p : Provider Id} {desired : Properties}
    (h : documents s schema resource config = .ok (p, desired)) :
    s.files.readSchema schema = .ok p.schema ∧ s.files.readProperties resource = .ok desired := by
  rw [documents, provider] at h
  cases hschema : s.files.readSchema schema with
  | error e => rw [hschema] at h; cases h
  | ok declared =>
      cases hconfig : s.files.readConfig config with
      | error e => rw [hschema, hconfig] at h; cases h
      | ok settings =>
          cases hdesired : s.files.readProperties resource with
          | error e => rw [hschema, hconfig, hdesired] at h; cases h
          | ok found =>
              rw [hschema, hconfig, hdesired] at h
              cases h
              exact ⟨rfl, rfl⟩

/-- A change hands over the script of the desired state. -/
theorem makes_change (names : NameSource) (answers : Answers) :
    Makes (documents s schema resource config >>= fun found =>
        { found.1 with names }.scriptOf .set found.2)
      (recorded { s with names } answers (change schema resource config)) := by
  have hfiles : (fun answers => runOn { s with names } (fun _ => .answering answers)
      (change schema resource config)) = fun answers =>
        (fun outcome => printed outcome.toJson) <$>
          (ExceptT.mk (pure (documents s schema resource config)) >>= fun found =>
            ({ found.1 with names }.answering answers).change found.2) := by
    funext answers
    rw [runOn, changeFiles, after_documents]
  rw [recorded, hfiles]
  exact Makes.after_files (fun found =>
    { found.1 with names }.makes_change found.2 answers _) _

/-- A query hands over the script of the identity. -/
theorem makes_query (names : NameSource) (answers : Answers) (title : String) :
    Makes (documents s schema resource config >>= fun found =>
        { found.1 with names }.scriptOf .get
          (found.1.identifying (found.2.insert titleProperty (.string title))))
      (recorded { s with names } answers (query schema title (some resource) config)) := by
  have hfiles : (fun answers => runOn { s with names } (fun _ => .answering answers)
      (query schema title (some resource) config)) = fun answers =>
        (fun report => printed (.object report.record.entries)) <$>
          (ExceptT.mk (pure (documents s schema resource config)) >>= fun found =>
            ({ found.1 with names }.answering answers).query
              (found.2.insert titleProperty (.string title))) := by
    funext answers
    rw [runOn, queryFiles, after_documents]
  rw [recorded, hfiles]
  exact Makes.after_files (fun found =>
    { found.1 with names }.makes_query (found.2.insert titleProperty (.string title)) answers _) _

/-- The preview of a change is faithful. -/
theorem faithful_change (names : NameSource) (answers : Answers) :
    Faithful (scriptOfFiles s schema resource .set config)
      (recorded { s with names } answers (change schema resource config)) := by
  rw [(makes_change names answers).faithful_iff, scriptOfFiles_eq]
  cases documents s schema resource config with
  | error e => exact ⟨fun _ h => h, fun _ h => (nomatch h)⟩
  | ok found => exact found.1.sameAttempt_names names .set found.2

/-- The preview of a query is faithful exactly if both fail alike, or the document holds
nothing else than an identity. -/
theorem faithful_query_iff (names : NameSource) (answers : Answers) (title : String) :
    Faithful (scriptOfFiles s schema resource .get config)
        (recorded { s with names } answers (query schema title (some resource) config)) ↔
      (∃ e, scriptOfFiles s schema resource .get config = .error e ∧
        recorded { s with names } answers (query schema title (some resource) config) =
          (.error e, [])) ∨
      ∃ declared desired, s.files.readSchema schema = .ok declared ∧
        s.files.readProperties resource = .ok desired ∧ declared.OnlyIdentifies desired := by
  have hmakes := @makes_query s schema resource config names answers title
  simp only [hmakes.faithful_iff, hmakes.eq_error_iff, scriptOfFiles_eq]
  cases hdocuments : documents s schema resource config with
  | error e => exact iff_of_true ⟨fun _ h => h, fun _ h => (nomatch h)⟩ (.inl ⟨e, rfl, rfl⟩)
  | ok found =>
      obtain ⟨p, desired⟩ := found
      obtain ⟨hschema, hdesired⟩ := read_of_documents hdocuments
      refine (p.sameAttempt_identity_iff names desired (.string title)).trans (or_congr_right ?_)
      constructor
      · exact fun h => ⟨p.schema, desired, hschema, hdesired, h⟩
      · rintro ⟨declared, found, hdeclared, hfound, h⟩
        rw [hschema] at hdeclared
        rw [hdesired] at hfound
        cases hdeclared
        cases hfound
        exact h

/-- A preview prints the redacted copy of a script that is made from the files, and starts no
program of the machine.  That of a change is faithful, whatever the files are, whatever names
are drawn and whatever the interpreter answers.  That of a query, with any title, is faithful
exactly if both fail alike, or each property of the document identifies the resource or is kept
from it. -/
theorem preview_faithful (s : Surroundings) (names : NameSource) (answers : Answers)
    (schema resource config title : String) :
    (∀ (m : Type → Type) [Monad m] (machine : Machine m) (method : Method),
      (preview schema resource method config).run s machine =
        ExceptT.mk (pure (Script.redacted <$> scriptOfFiles s schema resource method config))) ∧
    Faithful (scriptOfFiles s schema resource .set config)
      (recorded { s with names } answers (change schema resource config)) ∧
    (Faithful (scriptOfFiles s schema resource .get config)
        (recorded { s with names } answers (query schema title (some resource) config)) ↔
      (∃ e, scriptOfFiles s schema resource .get config = .error e ∧
        recorded { s with names } answers (query schema title (some resource) config) =
          (.error e, [])) ∨
      ∃ declared desired, s.files.readSchema schema = .ok declared ∧
        s.files.readProperties resource = .ok desired ∧ declared.OnlyIdentifies desired) :=
  ⟨fun _ _ _ _ => rfl, faithful_change names answers, faithful_query_iff names answers title⟩

end Request

/-! ## A preview that is not faithful -/

namespace FileTree

variable {tree : FileTree} {name text : String} {outer id : Nat}
  {entries : List (String × Nat)} {octets : List Char}

/-- Whether a path is the name of an entry of a directory. -/
def IsEntryName (name : String) : Prop :=
  name.toList.contains '\x00' = false ∧ name.isEmpty = false ∧
    name.utf8ByteSize ≤ maxNameLength ∧ pathComponents name = [name] ∧
    isAbsolute name = false ∧ name ∉ ["", ".", ".."]

instance (name : String) : Decidable (IsEntryName name) :=
  inferInstanceAs (Decidable (_ ∧ _ ∧ _ ∧ _ ∧ _ ∧ _))

/-- A file in the directory that paths start from is found by its name. -/
theorem find_of_entry (hname : IsEntryName name)
    (hdirectory : tree.content tree.working = .directory outer entries)
    (hentry : Entries.get? entries name = some id) (hfile : tree.content id = .octets octets) :
    tree.find name = .ok id := by
  obtain ⟨hnul, hempty, hlength, hcomponents, habsolute, hplain⟩ := hname
  obtain ⟨hself, hhere, houter⟩ : name ≠ "" ∧ name ≠ "." ∧ name ≠ ".." := by simpa using hplain
  have hwalk : tree.walk true maxLinks [name] tree.working = .ok id := by
    rw [walk]
    simp [hdirectory, hself, hhere, houter, hlength, hentry, hfile, walk]
  have hpath : ¬ maxPathLength < name.utf8ByteSize :=
    Nat.not_lt.2 (hlength.trans (by decide))
  rw [find, findFrom, hnul, hempty, if_neg Bool.false_ne_true, if_neg Bool.false_ne_true,
    if_neg hpath, hcomponents, habsolute, if_neg Bool.false_ne_true, hwalk]

theorem readDocument_of_find (hfind : tree.find name = .ok id)
    (hfile : tree.content id = .octets octets) (htext : decodeExact? octets = some text) :
    tree.readDocument name = .ok text := by
  have hoctets : tree.readOctets name = .ok octets := by
    rw [readOctets, hfind]
    change tree.readNode id = _
    rw [readNode, hfile]
  have htexts : tree.readText name = .ok text := by
    rw [readText, hoctets]
    simp only [bind, Except.bind, htext]
    rfl
  rw [readDocument, htexts]

theorem readSchema_of_document (h : tree.readDocument name = .ok text) :
    tree.readSchema name = Schema.read text := by
  rw [readSchema, h]
  rfl

theorem readProperties_of_document (h : tree.readDocument name = .ok text) :
    tree.readProperties name = Properties.read text := by
  rw [readProperties, h]
  rfl

theorem readConfig_of_document (hfind : tree.find name = .ok id)
    (h : tree.readDocument name = .ok text) : tree.readConfig name = Config.read text := by
  rw [readConfig, contains, hfind, h]
  rfl

end FileTree

/-- The schema of sites. -/
def sampleSchemaText : List Char :=
  ["name: dsc_site\n", "dscmeta_resource_friendly_name: Site\n",
    "dscmeta_resource_name: MSFT_Site\n", "dscmeta_module_name: WebDsc\n", "attributes:\n",
    "  dsc_name:\n", "    mof_type: String\n", "    behaviour: namevar\n",
    "  dsc_state:\n", "    mof_type: String\n"].flatMap String.toList

/-- The desired state of a site, which does not only identify it. -/
def sampleStateText : List Char :=
  ["dsc_name: Default\n", "dsc_state: Started\n"].flatMap String.toList

/-- A directory with a schema, a desired state and an empty configuration. -/
def sampleSurroundings : Surroundings where
  files := {
    nodes := #[
      ⟨.directory 0 [("schema.yaml", 1), ("site.yaml", 2), ("dscbridge.yaml", 3)], 0o755, 0⟩,
      ⟨.octets sampleSchemaText, 0o644, 0⟩, ⟨.octets sampleStateText, 0o644, 0⟩,
      ⟨.octets [], 0o644, 0⟩]
    working := 0 }
  programDirectory := "/opt/dscbridge"
  names := NameSource.ofList []

theorem decodeExact?_of_mapM {octets : List Char}
    (h : (decodeOctets none octets).mapM id = some octets) :
    decodeExact? octets = some (String.ofList octets) := by
  rw [decodeExact?, h, Option.map_some]

theorem readSchema_sample : sampleSurroundings.files.readSchema "schema.yaml" =
    Schema.read (String.ofList sampleSchemaText) :=
  have hfind : sampleSurroundings.files.find "schema.yaml" = .ok 1 :=
    FileTree.find_of_entry (by decide +kernel) rfl rfl rfl
  FileTree.readSchema_of_document
    (FileTree.readDocument_of_find hfind rfl (decodeExact?_of_mapM (by decide +kernel)))

theorem readProperties_sample : sampleSurroundings.files.readProperties "site.yaml" =
    Properties.read (String.ofList sampleStateText) :=
  have hfind : sampleSurroundings.files.find "site.yaml" = .ok 2 :=
    FileTree.find_of_entry (by decide +kernel) rfl rfl rfl
  FileTree.readProperties_of_document
    (FileTree.readDocument_of_find hfind rfl (decodeExact?_of_mapM (by decide +kernel)))

theorem readConfig_sample :
    sampleSurroundings.files.readConfig "dscbridge.yaml" = Config.read (String.ofList []) :=
  have hfind : sampleSurroundings.files.find "dscbridge.yaml" = .ok 3 :=
    FileTree.find_of_entry (by decide +kernel) rfl rfl rfl
  FileTree.readConfig_of_document hfind (FileTree.readDocument_of_find hfind rfl rfl)

/-- The sample can be previewed, but it does not only identify. -/
theorem documents_sample :
    (Request.documents sampleSurroundings "schema.yaml" "site.yaml" "dscbridge.yaml").toOption.map
      (fun found => (decide (found.1.schema.OnlyIdentifies found.2),
        (found.1.scriptOf .get found.2).isOk)) = some (false, true) := by
  rw [Request.documents, Request.provider, readSchema_sample, readConfig_sample,
    readProperties_sample, Schema.read, Config.read, Properties.read, String.toList_ofList,
    String.toList_ofList, String.toList_ofList]
  decide +kernel

namespace Request

/-- Not every preview of a query is faithful: the sample, whose state is not a part of the
identity, can be previewed, and the query leaves the state out. -/
theorem not_forall_faithful_query :
    ¬ ∀ (s : Surroundings) (names : NameSource) (answers : Answers)
      (schema resource config title : String),
      Faithful (scriptOfFiles s schema resource .get config)
        (recorded { s with names } answers (query schema title (some resource) config)) := by
  intro hall
  have hfaithful := hall sampleSurroundings (NameSource.ofList [])
    (fun _ => .ok ⟨0, "null", ""⟩) "schema.yaml" "site.yaml" "dscbridge.yaml" "Default"
  have hfound := documents_sample
  cases hdocuments : documents sampleSurroundings "schema.yaml" "site.yaml" "dscbridge.yaml" with
  | error e => rw [hdocuments] at hfound; cases hfound
  | ok found =>
      rw [hdocuments] at hfound
      obtain ⟨hidentifies, hscript⟩ := Prod.mk.inj (Option.some.inj hfound)
      obtain ⟨hschema, hdesired⟩ := read_of_documents hdocuments
      rcases (faithful_query_iff _ _ _).1 hfaithful with
        ⟨e, hfails, -⟩ | ⟨declared, desired, hdeclared, hread, honly⟩
      · rw [scriptOfFiles_eq, hdocuments] at hfails
        change found.1.scriptOf .get found.2 = _ at hfails
        rw [hfails] at hscript
        cases hscript
      · rw [hschema] at hdeclared
        rw [hdesired] at hread
        cases hdeclared
        cases hread
        exact of_decide_eq_false hidentifies honly

end Request

end DesiredState
