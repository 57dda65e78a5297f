import DesiredState.Proofs.Answer.Failures
import Mathlib.Data.List.Nodup

/-!
# Reports of queries

The output of a query is either blank, or no object and not null, or tells of a failure,
or gives a report.  A report has exactly the members of the object that the schema
declares, apart from the failure, each under its name in the schema: none is dropped,
none is written twice, and none takes the place of the presence or of the title.

Keys may fall together in lower case.  Then one of their values counts, and which one is
left open here; if the keys stay different, every declared member counts.

## Main definitions

* `Report.Describes` — what a report says of the members of an answer.

## Main results

* `Report.describes_ofMembers` — the report that an answer gives describes its members.
* `Report.Describes.mem_properties_iff` — the properties are the declared members, if
  their keys stay different in lower case.
* `Provider.reportOn_cases` — the four kinds of output.
* `Provider.reportOn_eq_nothingReturned_iff`, `Provider.reportOn_eq_malformedAnswer_iff`,
  `Provider.reportOn_eq_reported_iff` — when a query fails in which way.
* `Provider.query_reports` — what a query gives, for every output.
-/

namespace DesiredState

namespace Report

variable {schema : Schema} {identity : Properties} {members : List (String × Json)}

/-- The name that a schema may have for the key of a member. -/
def nameOf (key : String) : String := reportPrefix ++ lowercase key

/-- Names of properties start with the mark of the framework, so they differ from other
names. -/
theorem nameOf_ne (key : String) : nameOf key ≠ "ensure" ∧ nameOf key ≠ "name" := by
  have hmark : (nameOf key).toList = 'd' :: 's' :: 'c' :: '_' :: (lowercase key).toList := by
    rw [nameOf, String.toList_append]
    rfl
  constructor
  · intro h
    rw [h] at hmark
    cases hmark
  · intro h
    rw [h] at hmark
    cases hmark

theorem nameOf_inj {key other : String} : nameOf key = nameOf other ↔
    lowercase key = lowercase other := by
  rw [nameOf, nameOf]
  exact String.append_right_inj _

/-- What a report says of the members of an answer, about the resource of an identity. -/
structure Describes (report : Report) (schema : Schema) (identity : Properties)
    (members : List (String × Json)) : Prop where
  /-- Every property is a member that the schema declares, and not the failure. -/
  exists_member : ∀ name v, (name, v) ∈ report.properties.entries →
    ∃ key, (key, v) ∈ members ∧ key ≠ failureKey ∧ name = nameOf key ∧
      (schema.attributes.get? name).isSome
  /-- No name that the schema declares is dropped. -/
  mem_names : ∀ key v, (key, v) ∈ members → key ≠ failureKey →
    (schema.attributes.get? (nameOf key)).isSome → nameOf key ∈ report.properties.names
  /-- A resource is present exactly if it has a property. -/
  present_iff : report.presence = .present ↔ report.properties.entries ≠ []
  /-- The title is the one that the identity gives as a text. -/
  title?_eq_some_iff : ∀ t, report.title? = some t ↔ identity.get? "name" = some (.string t)
  /-- The record is the presence, the title and the properties, and none replaces another. -/
  record_entries : report.record.entries = ("ensure", .string report.presence.name) ::
    ((report.title?.map fun t => ("name", .string t)).toList ++ report.properties.entries)
  nodup_record : report.record.names.Nodup

theorem exists_of_mem_declaredMembers {name : String} {v : Json}
    (h : (name, v) ∈ (declaredMembers schema members).entries) :
    ∃ key, (key, v) ∈ members ∧ name = nameOf key ∧ (schema.attributes.get? name).isSome := by
  have hpair := Entries.mem_of_mem_ofPairs h
  obtain ⟨hmember, hdeclared⟩ := List.mem_filter.1 hpair
  obtain ⟨⟨key, value⟩, hmem, heq⟩ := List.mem_map.1 hmember
  obtain ⟨rfl, rfl⟩ := Prod.mk.inj heq
  exact ⟨key, hmem, rfl, hdeclared⟩

theorem mem_names_declaredMembers {key : String} {v : Json} (h : (key, v) ∈ members)
    (hdeclared : (schema.attributes.get? (nameOf key)).isSome) :
    nameOf key ∈ (declaredMembers schema members).names := by
  refine Entries.mem_names_ofPairs.2 (List.mem_map.2 ⟨(nameOf key, v), ?_, rfl⟩)
  exact List.mem_filter.2 ⟨List.mem_map.2 ⟨(key, v), h, rfl⟩, hdeclared⟩

/-- If the properties have names that start with the mark, the record keeps them behind
the presence and the title. -/
theorem record_entries_of_marked {report : Report}
    (h : ∀ name ∈ report.properties.names, ∃ key, name = nameOf key) :
    report.record.entries = ("ensure", .string report.presence.name) ::
      ((report.title?.map fun t => ("name", .string t)).toList ++ report.properties.entries) := by
  have hensure : "ensure" ∉ report.properties.names := by
    intro hmem
    obtain ⟨key, hkey⟩ := h _ hmem
    exact (nameOf_ne key).1 hkey.symm
  have hname : "name" ∉ report.properties.names := by
    intro hmem
    obtain ⟨key, hkey⟩ := h _ hmem
    exact (nameOf_ne key).2 hkey.symm
  have hnodup := report.properties.nodup
  refine Entries.ofPairs_eq_self ?_
  rw [Fields.names] at hensure hname
  cases report.title? with
  | none => exact List.nodup_cons.2 ⟨hensure, hnodup⟩
  | some t =>
      have htitle : (Entries.names (("name", Json.string t) :: report.properties.entries)).Nodup :=
        List.nodup_cons.2 ⟨hname, hnodup⟩
      have hfresh : "ensure" ∉ "name" :: Entries.names report.properties.entries :=
        List.not_mem_cons_of_ne_of_not_mem (by decide) hensure
      exact List.nodup_cons.2 ⟨hfresh, htitle⟩

theorem title?_eq_some_iff {t : String} :
    identity.title? = some t ↔ identity.get? titleProperty = some (.string t) := by
  rw [Properties.title?]
  split
  · next title hget => simp [hget]
  · next hother =>
    refine ⟨fun h => (by cases h), fun h => ?_⟩
    exact absurd h (hother t)

/-- The report on the members of an answer describes them. -/
theorem describes_ofMembers (hnodup : (Entries.names members).Nodup) :
    (ofMembers schema identity (Entries.eraseByLast members failureKey)).Describes schema
      identity members := by
  have hothers : ∀ member, member ∈ Entries.eraseByLast members failureKey ↔
      member ∈ members ∧ member.1 ≠ failureKey := by
    intro member
    rw [(Entries.eraseByLast_perm members failureKey).mem_iff, Entries.mem_erase hnodup]
  generalize Entries.eraseByLast members failureKey = others at hothers
  have hmarked : ∀ name ∈ (ofMembers schema identity others).properties.names,
      ∃ key, name = nameOf key := by
    intro name hname
    obtain ⟨entry, hentry, rfl⟩ := List.mem_map.1 hname
    obtain ⟨key, -, hkey, -⟩ := exists_of_mem_declaredMembers hentry
    exact ⟨key, hkey⟩
  constructor
  case exists_member =>
    intro name v h
    obtain ⟨key, hmem, hname, hdeclared⟩ := exists_of_mem_declaredMembers h
    obtain ⟨hmember, hkey⟩ := (hothers _).1 hmem
    exact ⟨key, hmember, hkey, hname, hdeclared⟩
  case mem_names =>
    intro key v hmember hkey hdeclared
    exact mem_names_declaredMembers ((hothers (key, v)).2 ⟨hmember, hkey⟩) hdeclared
  case present_iff =>
    have hpresence : (ofMembers schema identity others).presence =
        if (declaredMembers schema others).entries.isEmpty then .absent else .present := rfl
    have hproperties : (ofMembers schema identity others).properties =
        declaredMembers schema others := rfl
    rw [hpresence, hproperties]
    cases (declaredMembers schema others).entries with
    | nil => simp
    | cons entry rest => simp
  case title?_eq_some_iff => exact fun t => title?_eq_some_iff
  case record_entries => exact record_entries_of_marked hmarked
  case nodup_record => exact (ofMembers schema identity others).record.nodup

/-- If the keys stay different in lower case, the properties are the declared members. -/
theorem Describes.mem_properties_iff {report : Report}
    (h : report.Describes schema identity members)
    (hkeys : (members.map fun member => lowercase member.1).Nodup) {name : String} {v : Json} :
    (name, v) ∈ report.properties.entries ↔ ∃ key, (key, v) ∈ members ∧ key ≠ failureKey ∧
      name = nameOf key ∧ (schema.attributes.get? name).isSome := by
  constructor
  · exact h.exists_member name v
  · rintro ⟨key, hmember, hkey, rfl, hdeclared⟩
    obtain ⟨⟨name, w⟩, hentry, hname⟩ := List.mem_map.1 (h.mem_names key v hmember hkey hdeclared)
    obtain ⟨other, hother, -, hsame, -⟩ := h.exists_member name w hentry
    -- the value under the name comes from a member with the same key
    have hlower : lowercase other = lowercase key := nameOf_inj.1 (hsame.symm.trans hname)
    have hpair : (other, w) = (key, v) :=
      List.inj_on_of_nodup_map hkeys hother hmember hlower
    obtain ⟨rfl, rfl⟩ := Prod.mk.inj hpair
    rwa [← hname]

end Report

/-! ## Outputs -/

namespace Provider

section Queries

variable {m : Type → Type} (p : Provider m) (identity : Properties) {o : Output}

theorem reportOn_of_no_members (hblank : ¬ o.IsBlank) (h : ∀ members, ¬ o.Shows members) :
    p.reportOn identity o = .error .malformedAnswer := by
  rw [p.reportOn_of_not_isBlank hblank, Report.ofAnswer]
  split
  · next hread => exact absurd (.inl ⟨rfl, Json.read?_eq_some_iff.1 hread⟩) (h [])
  · next members hread => exact absurd (.inr (Json.read?_eq_some_iff.1 hread)) (h members)
  · rfl

theorem reportOn_of_members {members : List (String × Json)} (h : o.Shows members)
    (hfailure : ∀ t, Entries.get? members failureKey = some (.string t) → t = "") :
    p.reportOn identity o =
      .ok (.ofMembers p.schema identity (Entries.eraseByLast members failureKey)) := by
  rw [p.reportOn_of_not_isBlank h.not_isBlank, Report.ofAnswer]
  rcases h with ⟨rfl, hnull⟩ | hobject
  · rw [Json.read?_eq_some_iff.2 hnull]
    rfl
  · rw [Json.read?_eq_some_iff.2 hobject]
    dsimp only
    split
    · next t htext => rw [hfailure t htext]; rfl
    · rfl

/-- An output is blank, or has no members, or tells of a failure, or gives a report. -/
theorem reportOn_cases (o : Output) :
    (o.IsBlank ∧ p.reportOn identity o = .error (.nothingReturned o.stderr)) ∨
    (¬ o.IsBlank ∧ (∀ members, ¬ o.Shows members) ∧
      p.reportOn identity o = .error .malformedAnswer) ∨
    ∃ members, o.Shows members ∧
      ((∃ t, Entries.get? members failureKey = some (.string t) ∧ t ≠ "" ∧
          p.reportOn identity o = .error (.reported t)) ∨
        ((∀ t, Entries.get? members failureKey = some (.string t) → t = "") ∧
          p.reportOn identity o =
            .ok (.ofMembers p.schema identity (Entries.eraseByLast members failureKey)))) := by
  by_cases hblank : o.IsBlank
  · exact .inl ⟨hblank, p.reportOn_of_isBlank hblank identity⟩
  by_cases hnone : ∀ members, ¬ o.Shows members
  · exact .inr (.inl ⟨hblank, hnone, p.reportOn_of_no_members identity hblank hnone⟩)
  obtain ⟨members, hshows⟩ := not_forall_not.1 hnone
  refine .inr (.inr ⟨members, hshows, ?_⟩)
  by_cases hfailure : ∃ t, Entries.get? members failureKey = some (.string t) ∧ t ≠ ""
  · obtain ⟨t, htext, hempty⟩ := hfailure
    have hreport := (p.reportOn_of_failure identity hshows htext (by simpa using hempty)).1 t rfl
    exact .inl ⟨t, htext, hempty, hreport⟩
  · have hquiet : ∀ t, Entries.get? members failureKey = some (.string t) → t = "" :=
      fun t htext => by_contra fun hempty => hfailure ⟨t, htext, hempty⟩
    exact .inr ⟨hquiet, p.reportOn_of_members identity hshows hquiet⟩

theorem reportOn_eq_nothingReturned_iff {e : String} :
    p.reportOn identity o = .error (.nothingReturned e) ↔ o.IsBlank ∧ e = o.stderr := by
  rcases p.reportOn_cases identity o with ⟨hblank, hreport⟩ | ⟨hblank, -, hreport⟩ |
    ⟨members, hshows, ⟨t, -, -, hreport⟩ | ⟨-, hreport⟩⟩
  · simp [hreport, hblank, eq_comm]
  · simp [hreport, hblank]
  · simp [hreport, hshows.not_isBlank]
  · simp [hreport, hshows.not_isBlank]

theorem reportOn_eq_malformedAnswer_iff :
    p.reportOn identity o = .error .malformedAnswer ↔
      ¬ o.IsBlank ∧ ∀ members, ¬ o.Shows members := by
  rcases p.reportOn_cases identity o with ⟨hblank, hreport⟩ | ⟨hblank, hnone, hreport⟩ |
    ⟨members, hshows, ⟨t, -, -, hreport⟩ | ⟨-, hreport⟩⟩
  · simp [hreport, hblank]
  · simp [hreport, hblank, hnone]
  · simp [hreport, not_forall_not.2 ⟨members, hshows⟩]
  · simp [hreport, not_forall_not.2 ⟨members, hshows⟩]

theorem reportOn_eq_reported_iff {t : String} :
    p.reportOn identity o = .error (.reported t) ↔ ∃ members, o.Shows members ∧
      Entries.get? members failureKey = some (.string t) ∧ t ≠ "" := by
  constructor
  · intro h
    rcases p.reportOn_cases identity o with ⟨-, hreport⟩ | ⟨-, -, hreport⟩ |
      ⟨members, hshows, ⟨u, htext, hempty, hreport⟩ | ⟨-, hreport⟩⟩ <;> rw [hreport] at h
    · cases h
    · cases h
    · obtain rfl := Error.reported.inj (Except.error.inj h)
      exact ⟨members, hshows, htext, hempty⟩
    · cases h
  · rintro ⟨members, hshows, htext, hempty⟩
    exact (p.reportOn_of_failure identity hshows htext (by simpa using hempty)).1 t rfl

variable [Monad m] [LawfulMonad m]

/-- A query whose script can be made runs it once and reads the output.  It fails with
what stands on the error stream exactly if the output is blank; it finds an output that is
not blank malformed exactly if it is neither null nor an object; it fails with the member
for failures exactly if this is a text and not empty; and in all other cases it gives a
report that describes the members.  The properties of the report are the declared members,
if the keys stay different in lower case. -/
theorem query_reports :
    (∀ identity script, p.scriptOf .get (p.identifying identity) = .ok script →
      p.query identity = (do
        let o ← p.interpreter script
        ExceptT.mk (pure (p.reportOn identity o)))) ∧
    ∀ identity o,
      (∀ e, p.reportOn identity o = .error (.nothingReturned e) ↔ o.IsBlank ∧ e = o.stderr) ∧
      (p.reportOn identity o = .error .malformedAnswer ↔
        ¬ o.IsBlank ∧ ∀ members, ¬ o.Shows members) ∧
      (∀ t, p.reportOn identity o = .error (.reported t) ↔ ∃ members, o.Shows members ∧
        Entries.get? members failureKey = some (.string t) ∧ t ≠ "") ∧
      ∀ members, o.Shows members →
        (∀ t, Entries.get? members failureKey = some (.string t) → t = "") →
        ∃ report, p.reportOn identity o = .ok report ∧
          report.Describes p.schema identity members ∧
          ((members.map fun member => lowercase member.1).Nodup → ∀ name v,
            (name, v) ∈ report.properties.entries ↔ ∃ key, (key, v) ∈ members ∧
              key ≠ failureKey ∧ name = "dsc_" ++ lowercase key ∧
                (p.schema.attributes.get? name).isSome) := by
  refine ⟨fun identity script h => p.query_of_script h, fun identity o => ?_⟩
  refine ⟨fun e => p.reportOn_eq_nothingReturned_iff identity,
    p.reportOn_eq_malformedAnswer_iff identity, fun t => p.reportOn_eq_reported_iff identity,
    fun members hshows hquiet => ?_⟩
  have hdescribes : (Report.ofMembers p.schema identity
      (Entries.eraseByLast members failureKey)).Describes p.schema identity members :=
    Report.describes_ofMembers hshows.nodup
  exact ⟨_, p.reportOn_of_members identity hshows hquiet, hdescribes,
    fun hkeys name v => hdescribes.mem_properties_iff hkeys⟩

end Queries

theorem shows_started : Output.Shows
    ⟨0, "\x7b\"State\":\"Started\",\"ResourceId\":\"x\",\"errormessage\":\"\"\x7d", ""⟩
      [("State", .string "Started"), ("ResourceId", .string "x"), ("errormessage", .string "")] :=
  Output.shows_of_texts [("State", "Started"), ("ResourceId", "x"), ("errormessage", "")]
    (by decide +kernel)

/-- The sample reports the member that its schema declares, and no other. -/
theorem query_reports_started :
    ∃ report, (sample
        "\x7b\"State\":\"Started\",\"ResourceId\":\"x\",\"errormessage\":\"\"\x7d").query
        sampleIdentity = ExceptT.mk (pure (.ok report)) ∧
      report.Describes (sample "").schema sampleIdentity
        [("State", .string "Started"), ("ResourceId", .string "x"),
          ("errormessage", .string "")] ∧
      ∀ name v, (name, v) ∈ report.properties.entries ↔
        name = "dsc_state" ∧ v = .string "Started" := by
  obtain ⟨script, hscript⟩ := exists_scriptOf_sample
    "\x7b\"State\":\"Started\",\"ResourceId\":\"x\",\"errormessage\":\"\"\x7d"
  obtain ⟨hquery, hreports⟩ := query_reports (sample
    "\x7b\"State\":\"Started\",\"ResourceId\":\"x\",\"errormessage\":\"\"\x7d")
  obtain ⟨-, -, -, hgives⟩ := hreports sampleIdentity
    ⟨0, "\x7b\"State\":\"Started\",\"ResourceId\":\"x\",\"errormessage\":\"\"\x7d", ""⟩
  have hquiet : ∀ t, Entries.get? [("State", Json.string "Started"), ("ResourceId", .string "x"),
      ("errormessage", .string "")] failureKey = some (.string t) → t = "" := by
    intro t ht
    have hlast : some (Json.string "") = some (.string t) := ht
    exact (Json.string.inj (Option.some.inj hlast)).symm
  obtain ⟨report, hreport, hdescribes, hproperties⟩ := hgives _ shows_started hquiet
  refine ⟨report, ?_, hdescribes, fun name v => ?_⟩
  · rw [hquery _ _ hscript, interpreter_sample_bind, hreport]
  have hstate : "dsc_" ++ lowercase "State" = "dsc_state" := by decide +kernel
  have hid : ((sample "").schema.attributes.get? ("dsc_" ++ lowercase "ResourceId")).isSome =
    false := by decide +kernel
  have hdeclared : ((sample "").schema.attributes.get? "dsc_state").isSome = true := by
    decide +kernel
  rw [hproperties (by decide +kernel)]
  constructor
  · rintro ⟨key, hmem, hkey, rfl, hsome⟩
    simp only [List.mem_cons, Prod.mk.injEq, List.not_mem_nil, or_false] at hmem
    rcases hmem with ⟨rfl, rfl⟩ | ⟨rfl, rfl⟩ | ⟨rfl, rfl⟩
    · exact ⟨hstate, rfl⟩
    · exact absurd (hid.symm.trans hsome) (by decide)
    · exact absurd rfl hkey
  · rintro ⟨rfl, rfl⟩
    exact ⟨"State", List.mem_cons_self, by decide, hstate.symm, hdeclared⟩

end Provider

end DesiredState
