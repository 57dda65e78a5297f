import DesiredState.Invocation
import DesiredState.Proofs.Fields

/-!
# From properties to parameters

The properties of a resource are gone through in order.  One that is withheld from the
resource is passed over, whatever the schema says of it.  Any other has to be declared: the
first one that is not ends the mapping.  A declared property with a type becomes a parameter,
and one without is passed over.

`Schema.Maps` says this step by step, without a regard to how the parameters are found.

## Main definitions

* `Withheld` — a property that is never sent to the resource.
* `Schema.Accepts` — a property that does not end a mapping.
* `Schema.Becomes` — the parameter that a property becomes.
* `Schema.Maps` — the steps of a mapping.
* `Schema.invocation` — the invocation with given parameters.

## Main results

* `Schema.ofProperties_eq_ok_iff`, `Schema.ofProperties_eq_error_iff` — when there is an
  invocation, and which property ends the mapping.
* `Schema.maps_iff` — the steps lead to the parameters of the invocation.
* `Schema.Maps.mem_iff`, `Schema.Maps.sublist` — which parameters there are, and in what order.
* `Schema.mapping_exact` — all this, for every schema and all properties.
-/

namespace DesiredState

/-- Whether a property is withheld from the resource: the presence, the title, and a run-as
credential that is null. -/
def Withheld (name : String) (value : Value) : Prop :=
  name = "ensure" ∨ name = "name" ∨ (name = "dsc_psdscrunascredential" ∧ value = .null)

theorem isWithheld_iff {name : String} {value : Value} :
    isWithheld name value = true ↔ Withheld name value := by
  have hnull : value.isNull = true ↔ value = .null := by
    cases value <;> simp [Value.isNull]
  rw [isWithheld, Bool.or_eq_true, Bool.or_eq_true, Bool.and_eq_true, hnull, beq_iff_eq,
    beq_iff_eq, beq_iff_eq, or_assoc]
  rfl

namespace Schema

variable {schema : Schema} {properties : Properties}

/-! ## One property -/

/-- Whether a property does not end a mapping. -/
def Accepts (schema : Schema) (name : String) (value : Value) : Prop :=
  Withheld name value ∨ ∃ declared, schema.attributes.get? name = some declared

/-- Whether a property becomes a parameter: its value is not changed, and the type is that of
the attribute. -/
def Becomes (schema : Schema) (name : String) (value : Value) (p : Parameter) : Prop :=
  ¬ Withheld name value ∧ ∃ declared type, schema.attributes.get? name = some declared ∧
    declared.type? = some type ∧ p = ⟨value, type, declared.isEmbedded⟩

theorem isUndeclared_eq_false_iff {name : String} {value : Value} :
    schema.isUndeclared name value = false ↔ schema.Accepts name value := by
  rw [isUndeclared, Accepts, ← isWithheld_iff]
  cases isWithheld name value with
  | true => simp
  | false =>
      cases schema.attributes.get? name with
      | none => simp
      | some declared => simp

theorem parameter?_eq_some_iff {name : String} {value : Value} {p : Parameter} :
    schema.parameter? name value = some p ↔ schema.Becomes name value p := by
  rw [parameter?, Becomes, ← isWithheld_iff]
  split
  · next hwithheld => simp [hwithheld]
  · next hwithheld =>
    rw [and_iff_right hwithheld]
    constructor
    · intro h
      obtain ⟨declared, hdeclared, h⟩ := Option.bind_eq_some_iff.1 h
      obtain ⟨type, htype, h⟩ := Option.bind_eq_some_iff.1 h
      exact ⟨declared, type, hdeclared, htype, (Option.some.inj h).symm⟩
    · rintro ⟨declared, type, hdeclared, htype, rfl⟩
      rw [hdeclared]
      change declared.type? >>= _ = _
      rw [htype]
      rfl

theorem Becomes.accepts {name : String} {value : Value} {p : Parameter}
    (h : schema.Becomes name value p) : schema.Accepts name value := by
  obtain ⟨-, declared, -, hdeclared, -⟩ := h
  exact .inr ⟨declared, hdeclared⟩

theorem exists_declared_of_mem_identifying {property : String}
    (h : property ∈ schema.identifying) :
    ∃ declared, schema.attributes.get? property = some declared := by
  obtain ⟨entry, hentry, rfl⟩ := List.mem_map.1 h
  exact ⟨entry.2, Entries.get?_of_mem schema.attributes.nodup (List.mem_filter.1 hentry).1⟩

theorem isUndeclared_of_mem_identifying {property : String} (h : property ∈ schema.identifying)
    (value : Value) : schema.isUndeclared property value = false := by
  obtain ⟨declared, hdeclared⟩ := exists_declared_of_mem_identifying h
  rw [isUndeclared, hdeclared, Option.isNone_some, Bool.and_false]

/-! ## All properties -/

/-- The steps of a mapping. -/
inductive Maps (schema : Schema) : List (String × Value) → List (String × Parameter) → Prop
  | done : Maps schema [] []
  /-- A property is passed over that is withheld, or declared without a type. -/
  | pass {name : String} {value : Value} {rest : List (String × Value)}
      {parameters : List (String × Parameter)} (haccepts : schema.Accepts name value)
      (hnone : ∀ p, ¬ schema.Becomes name value p) (hrest : Maps schema rest parameters) :
      Maps schema ((name, value) :: rest) parameters
  | keep {name : String} {value : Value} {p : Parameter} {rest : List (String × Value)}
      {parameters : List (String × Parameter)} (hbecomes : schema.Becomes name value p)
      (hrest : Maps schema rest parameters) :
      Maps schema ((name, value) :: rest) ((name, p) :: parameters)

/-- The steps lead to the parameters of the properties, if all these are accepted. -/
theorem maps_iff {entries : List (String × Value)} {parameters : List (String × Parameter)} :
    schema.Maps entries parameters ↔
      (∀ entry ∈ entries, schema.Accepts entry.1 entry.2) ∧
        parameters = entries.filterMap fun (name, value) =>
          (schema.parameter? name value).map (name, ·) := by
  constructor
  · intro h
    induction h with
    | done => exact ⟨List.forall_mem_nil _, rfl⟩
    | @pass name value rest _ haccepts hnone _ ih =>
        obtain ⟨hall, rfl⟩ := ih
        have hparameter : schema.parameter? name value = none :=
          Option.eq_none_iff_forall_ne_some.2 fun p hp => hnone p (parameter?_eq_some_iff.1 hp)
        refine ⟨List.forall_mem_cons.2 ⟨haccepts, hall⟩, ?_⟩
        rw [List.filterMap_cons]
        dsimp only
        rw [hparameter]
        rfl
    | @keep name value p rest _ hbecomes _ ih =>
        obtain ⟨hall, rfl⟩ := ih
        refine ⟨List.forall_mem_cons.2 ⟨hbecomes.accepts, hall⟩, ?_⟩
        rw [List.filterMap_cons]
        dsimp only
        rw [parameter?_eq_some_iff.2 hbecomes]
        rfl
  · rintro ⟨hall, rfl⟩
    induction entries with
    | nil => exact .done
    | cons entry rest ih =>
        obtain ⟨name, value⟩ := entry
        obtain ⟨haccepts, hrest⟩ := List.forall_mem_cons.1 hall
        rw [List.filterMap_cons]
        dsimp only
        cases hparameter : schema.parameter? name value with
        | none =>
            refine .pass haccepts (fun p hp => ?_) (ih hrest)
            rw [parameter?_eq_some_iff.2 hp] at hparameter
            cases hparameter
        | some p => exact .keep (parameter?_eq_some_iff.1 hparameter) (ih hrest)

namespace Maps

variable {entries : List (String × Value)} {parameters : List (String × Parameter)}

/-- The parameters are what the properties become. -/
theorem mem_iff (h : schema.Maps entries parameters) {name : String} {p : Parameter} :
    (name, p) ∈ parameters ↔ ∃ value, (name, value) ∈ entries ∧ schema.Becomes name value p := by
  induction h with
  | done => simp
  | @pass key value rest parameters _ hnone _ ih =>
      rw [ih]
      constructor
      · rintro ⟨v, hmem, hbecomes⟩
        exact ⟨v, List.mem_cons_of_mem _ hmem, hbecomes⟩
      · rintro ⟨v, hmem, hbecomes⟩
        rcases List.mem_cons.1 hmem with heq | hmem
        · obtain ⟨rfl, rfl⟩ := Prod.mk.inj heq
          exact absurd hbecomes (hnone p)
        · exact ⟨v, hmem, hbecomes⟩
  | @keep key value q rest parameters hkept _ ih =>
      rw [List.mem_cons, ih]
      constructor
      · rintro (heq | ⟨v, hmem, hbecomes⟩)
        · obtain ⟨rfl, rfl⟩ := Prod.mk.inj heq
          exact ⟨value, List.mem_cons_self, hkept⟩
        · exact ⟨v, List.mem_cons_of_mem _ hmem, hbecomes⟩
      · rintro ⟨v, hmem, hbecomes⟩
        rcases List.mem_cons.1 hmem with heq | hmem
        · obtain ⟨rfl, rfl⟩ := Prod.mk.inj heq
          have hsame : some p = some q :=
            (parameter?_eq_some_iff.2 hbecomes).symm.trans (parameter?_eq_some_iff.2 hkept)
          exact .inl (by rw [Option.some.inj hsame])
        · exact .inr ⟨v, hmem, hbecomes⟩

/-- The parameters have names of properties, in the same order. -/
theorem sublist (h : schema.Maps entries parameters) :
    (Entries.names parameters).Sublist (Entries.names entries) := by
  induction h with
  | done => exact .slnil
  | pass _ _ _ ih => exact ih.cons _
  | keep _ _ ih => exact ih.cons_cons _

end Maps

/-! ## The invocation -/

/-- The invocation with these parameters. -/
def invocation (schema : Schema) (method : Method) (modulesPath : String)
    (parameters : Fields Parameter) : Invocation where
  name := schema.name
  friendlyName := schema.friendlyName
  resourceName := schema.resourceName
  moduleName := schema.moduleName
  moduleVersion? := schema.moduleVersion?
  method := method
  parameters := parameters
  modulesPath := modulesPath

theorem ofProperties_eq_ok_iff {method : Method} {modulesPath : String} {inv : Invocation} :
    Invocation.ofProperties schema properties method modulesPath = .ok inv ↔
      (∀ entry ∈ properties.entries, schema.isUndeclared entry.1 entry.2 = false) ∧
        inv = schema.invocation method modulesPath (properties.filterMap schema.parameter?) := by
  rw [Invocation.ofProperties]
  split
  · next property value hfind =>
    have hundeclared := List.find?_some hfind
    have hmem := List.mem_of_find?_eq_some hfind
    constructor
    · intro h
      cases h
    · rintro ⟨hdeclared, -⟩
      exact absurd hundeclared (by simpa using hdeclared _ hmem)
  · next hfind =>
    rw [List.find?_eq_none] at hfind
    constructor
    · intro h
      exact ⟨fun entry hentry => by simpa using hfind entry hentry, (Except.ok.inj h).symm⟩
    · rintro ⟨-, rfl⟩
      rfl

/-- The mapping of the properties that identify a resource does not fail: they are declared. -/
theorem ofProperties_identifying (schema : Schema) (properties : Properties) (method : Method)
    (modulesPath : String) :
    Invocation.ofProperties schema
        (properties.filter fun name => schema.identifying.contains name) method modulesPath =
      .ok (schema.invocation method modulesPath
        ((properties.filter fun name => schema.identifying.contains name).filterMap
          schema.parameter?)) := by
  rw [ofProperties_eq_ok_iff]
  refine ⟨fun entry hentry => ?_, rfl⟩
  have hidentifies : schema.identifying.contains entry.1 = true := (List.mem_filter.1 hentry).2
  exact isUndeclared_of_mem_identifying (List.contains_iff_mem.1 hidentifies) _

/-- The first property that is not accepted is the failure. -/
theorem ofProperties_eq_error_iff {method : Method} {modulesPath : String} {e : Error} :
    Invocation.ofProperties schema properties method modulesPath = .error e ↔
      ∃ before name value after, properties.entries = before ++ (name, value) :: after ∧
        (∀ entry ∈ before, schema.Accepts entry.1 entry.2) ∧ ¬ schema.Accepts name value ∧
          e = .unknownProperty name schema.name := by
  have hundeclared : ∀ name value, schema.isUndeclared name value = true ↔
      ¬ schema.Accepts name value := by
    intro name value
    rw [← isUndeclared_eq_false_iff, Bool.not_eq_false]
  constructor
  · intro h
    rw [Invocation.ofProperties] at h
    split at h
    · next name value hfind =>
      cases h
      obtain ⟨hfound, before, after, hentries, hbefore⟩ := List.find?_eq_some_iff_append.1 hfind
      refine ⟨before, name, value, after, hentries, fun entry hentry => ?_,
        (hundeclared name value).1 hfound, rfl⟩
      have hdeclared := hbefore entry hentry
      rw [Bool.not_eq_true'] at hdeclared
      exact isUndeclared_eq_false_iff.1 hdeclared
    · cases h
  · rintro ⟨before, name, value, after, hentries, hbefore, hfound, rfl⟩
    have hfind : properties.entries.find? (fun (name, value) => schema.isUndeclared name value) =
        some (name, value) := by
      refine List.find?_eq_some_iff_append.2 ⟨(hundeclared name value).2 hfound, before, after,
        hentries, fun entry hentry => ?_⟩
      rw [Bool.not_eq_true']
      exact isUndeclared_eq_false_iff.2 (hbefore entry hentry)
    rw [Invocation.ofProperties, hfind]

/-- An invocation has the parameters to which the steps of the mapping lead. -/
theorem ofProperties_eq_ok_iff_maps {method : Method} {modulesPath : String} {inv : Invocation} :
    Invocation.ofProperties schema properties method modulesPath = .ok inv ↔
      schema.Maps properties.entries inv.parameters.entries ∧
        inv = schema.invocation method modulesPath inv.parameters := by
  simp only [ofProperties_eq_ok_iff, maps_iff, isUndeclared_eq_false_iff]
  constructor
  · rintro ⟨hall, rfl⟩
    exact ⟨⟨hall, rfl⟩, rfl⟩
  · rintro ⟨⟨hall, hentries⟩, hinv⟩
    have hparameters : inv.parameters = properties.filterMap schema.parameter? :=
      Fields.eq_of_entries_eq hentries
    rw [hparameters] at hinv
    exact ⟨hall, hinv⟩

/-- The properties of a resource are mapped exactly if each of them is withheld or declared,
and otherwise the first one of which neither holds is the failure.  The invocation has the
names of the schema, the method and the directory of the call.  Its parameters are, in the
order of the properties, those that are not withheld and have an attribute with a type, each
with its own value and with the type and the mark of the attribute. -/
theorem mapping_exact (schema : Schema) (properties : Properties) (method : Method)
    (modulesPath : String) :
    ((∃ inv, Invocation.ofProperties schema properties method modulesPath = .ok inv) ↔
      ∀ entry ∈ properties.entries, schema.Accepts entry.1 entry.2) ∧
    (∀ e, Invocation.ofProperties schema properties method modulesPath = .error e ↔
      ∃ before name value after, properties.entries = before ++ (name, value) :: after ∧
        (∀ entry ∈ before, schema.Accepts entry.1 entry.2) ∧ ¬ schema.Accepts name value ∧
          e = .unknownProperty name schema.name) ∧
    ∀ inv, Invocation.ofProperties schema properties method modulesPath = .ok inv →
      inv.name = schema.name ∧ inv.friendlyName = schema.friendlyName ∧
      inv.resourceName = schema.resourceName ∧ inv.moduleName = schema.moduleName ∧
      inv.moduleVersion? = schema.moduleVersion? ∧ inv.method = method ∧
      inv.modulesPath = modulesPath ∧
      schema.Maps properties.entries inv.parameters.entries ∧
      inv.parameters.names.Sublist properties.names ∧
      ∀ name p, (name, p) ∈ inv.parameters.entries ↔
        ∃ value, (name, value) ∈ properties.entries ∧ schema.Becomes name value p := by
  refine ⟨?_, fun e => ofProperties_eq_error_iff, fun inv h => ?_⟩
  · constructor
    · rintro ⟨inv, h⟩
      exact (maps_iff.1 (ofProperties_eq_ok_iff_maps.1 h).1).1
    · intro hall
      have hdeclared : ∀ entry ∈ properties.entries, schema.isUndeclared entry.1 entry.2 = false :=
        fun entry hentry => isUndeclared_eq_false_iff.2 (hall entry hentry)
      exact ⟨_, ofProperties_eq_ok_iff.2 ⟨hdeclared, rfl⟩⟩
  · obtain ⟨hmaps, hinv⟩ := ofProperties_eq_ok_iff_maps.1 h
    rw [hinv]
    exact ⟨rfl, rfl, rfl, rfl, rfl, rfl, rfl, hmaps, hmaps.sublist, fun name p => hmaps.mem_iff⟩

/-- A schema of sites with bindings. -/
def siteSchema : Schema where
  name := "dsc_site"
  friendlyName := "Site"
  resourceName := "MSFT_Site"
  moduleName := "WebDsc"
  moduleVersion? := none
  attributes := Fields.ofPairs [
    ("name", ⟨none, false, none⟩),
    ("dsc_name", ⟨some ⟨"String"⟩, false, some .identifying⟩),
    ("dsc_binding", ⟨some ⟨"MSFT_Binding"⟩, true, some .parameter⟩),
    ("validation_mode", ⟨none, false, some .parameter⟩)]

/-- The binding of a site becomes a parameter, whatever is passed over in front of it, and a
run-as credential that is not null ends the mapping, if it is not declared. -/
theorem mapping_exact_site :
    (∃ inv, Invocation.ofProperties siteSchema (Fields.ofPairs [("name", .string "web"),
        ("dsc_psdscrunascredential", .null), ("validation_mode", .string "property"),
        ("dsc_binding", .map []), ("dsc_name", .string "web")]) .set "/opt/dsc" = .ok inv ∧
      inv.moduleName = "WebDsc" ∧
      ("dsc_binding", ⟨.map [], ⟨"MSFT_Binding"⟩, true⟩) ∈ inv.parameters.entries) ∧
    Invocation.ofProperties siteSchema (Fields.ofPairs [("ensure", .string "present"),
        ("dsc_psdscrunascredential", .map []), ("dsc_colour", .string "red")]) .set "/opt/dsc" =
      .error (.unknownProperty "dsc_psdscrunascredential" "dsc_site") := by
  constructor
  · have hok : Invocation.ofProperties siteSchema (Fields.ofPairs [("name", .string "web"),
        ("dsc_psdscrunascredential", .null), ("validation_mode", .string "property"),
        ("dsc_binding", .map []), ("dsc_name", .string "web")]) .set "/opt/dsc" = .ok _ := rfl
    obtain ⟨-, -, hmapped⟩ := mapping_exact siteSchema (Fields.ofPairs [("name", .string "web"),
        ("dsc_psdscrunascredential", .null), ("validation_mode", .string "property"),
        ("dsc_binding", .map []), ("dsc_name", .string "web")]) .set "/opt/dsc"
    obtain ⟨-, -, -, hmodule, -, -, -, -, -, hparameters⟩ := hmapped _ hok
    have hbecomes : siteSchema.Becomes "dsc_binding" (.map [])
        ⟨.map [], ⟨"MSFT_Binding"⟩, true⟩ := by
      refine ⟨by simp [Withheld], _, _, rfl, rfl, rfl⟩
    refine ⟨_, hok, hmodule, (hparameters _ _).2 ⟨.map [], ?_, hbecomes⟩⟩
    exact .tail _ (.tail _ (.tail _ (.head _)))
  · obtain ⟨-, herror, -⟩ := mapping_exact siteSchema (Fields.ofPairs
      [("ensure", .string "present"), ("dsc_psdscrunascredential", .map []),
        ("dsc_colour", .string "red")]) .set "/opt/dsc"
    refine (herror _).2 ⟨[("ensure", .string "present")], "dsc_psdscrunascredential", .map [],
      [("dsc_colour", .string "red")], rfl, ?_, ?_, rfl⟩
    · exact List.forall_mem_singleton.2 (.inl (.inl rfl))
    · rintro (hwithheld | ⟨declared, hdeclared⟩)
      · simp [Withheld] at hwithheld
      · cases hdeclared

end Schema

end DesiredState
