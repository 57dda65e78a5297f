import DesiredState.Proofs.Answer.Reports
import DesiredState.Proofs.Script.Block
import DesiredState.Proofs.Text.Lowercase

/-!
# Names there and back

The names of properties are written without the mark of the framework, and the names in an
answer get it back, in lower case.  The first never makes two names equal, if each name has
the mark.  Both together lead back to a name exactly if it is in lower case, whatever the
letters of the answer look like, with one exception: what an answer says under the key for
failures is no property.

## Main definitions

* `Schema.IsMarked` — all typed attributes have the mark of the framework.
* `Invocation.writtenNames` — the names in the table of properties.
* `Returns` — an answer with properties under given names, in any letter case.

## Main results

* `Invocation.nodup_writtenNames` — the names in the table are different.
* `Provider.reportOn_names_iff` — when a report has the names that were written.
* `Provider.names_return` — both, for a document and an answer.
-/

namespace DesiredState

/-! ## Names in the table -/

/-- Whether each attribute with a type has the mark of the framework in front of its name. -/
def Schema.IsMarked (schema : Schema) : Prop :=
  ∀ name declared, schema.attributes.get? name = some declared → declared.type?.isSome →
    ∃ bare, name = propertyPrefix ++ bare

/-- The names that are written in the table of properties. -/
def Invocation.writtenNames (inv : Invocation) : List String :=
  inv.parameters.names.map bareProperty

theorem map_fst_of_isEntryOf {pool : Pool} {parameters : List (String × Parameter)}
    {entries : List (Key × Expr)} (h : List.Forall₂ (IsEntryOf pool) parameters entries) :
    entries.map Prod.fst = parameters.map ((Key.bare ∘ bareProperty) ∘ Prod.fst) := by
  induction h with
  | nil => rfl
  | cons hentry _ ih => exact List.cons_eq_cons.2 ⟨hentry.1, ih⟩

namespace Invocation

variable {schema : Schema} {desired : Properties} {method : Method} {modulesPath : String}
  {inv : Invocation}

/-- A parameter has a declared type. -/
theorem exists_declared_of_mem_names
    (h : ofProperties schema desired method modulesPath = .ok inv) {name : String}
    (hname : name ∈ inv.parameters.names) :
    ∃ declared, schema.attributes.get? name = some declared ∧ declared.type?.isSome := by
  rw [ofProperties] at h
  split at h
  · cases h
  · cases h
    obtain ⟨⟨property, p⟩, hentry, rfl⟩ := List.mem_map.1 hname
    obtain ⟨⟨key, value⟩, -, hsome⟩ := List.mem_filterMap.1 hentry
    obtain ⟨q, hq, heq⟩ := Option.map_eq_some_iff.1 hsome
    cases heq
    rw [Schema.parameter?] at hq
    split at hq
    · cases hq
    · obtain ⟨declared, hdeclared, hq⟩ := Option.bind_eq_some_iff.1 hq
      obtain ⟨type, htype, -⟩ := Option.bind_eq_some_iff.1 hq
      exact ⟨declared, hdeclared, by rw [htype]; rfl⟩

/-- The names of the parameters are the written names with the mark. -/
theorem map_writtenNames (hmarked : schema.IsMarked)
    (h : ofProperties schema desired method modulesPath = .ok inv) :
    inv.writtenNames.map (propertyPrefix ++ ·) = inv.parameters.names := by
  rw [writtenNames, List.map_map]
  refine (List.map_congr_left fun name hname => ?_).trans (List.map_id _)
  obtain ⟨declared, hdeclared, htype⟩ := exists_declared_of_mem_names h hname
  obtain ⟨bare, rfl⟩ := hmarked name declared hdeclared htype
  exact congrArg (propertyPrefix ++ ·) (bareProperty_prefixed bare)

theorem nodup_writtenNames (hmarked : schema.IsMarked)
    (h : ofProperties schema desired method modulesPath = .ok inv) :
    inv.writtenNames.Nodup := by
  have hnodup : inv.parameters.names.Nodup := inv.parameters.nodup
  rw [← map_writtenNames hmarked h] at hnodup
  exact hnodup.of_map _

/-- The table has the written names, in order. -/
theorem exists_writtenNames {pool : Pool} {block : Expr} (h : inv.toExpr pool = .ok block) :
    ∃ entries, block = inv.blockOf entries ∧
      entries.map Prod.fst = inv.writtenNames.map Key.bare := by
  obtain ⟨entries, hentries, hblock⟩ := toExpr_eq_ok_iff.1 h
  refine ⟨entries, hblock, ?_⟩
  rw [writtenNames, Fields.names, Entries.names, List.map_map, List.map_map]
  exact map_fst_of_isEntryOf (parameterEntries_eq_ok_iff.1 hentries)

end Invocation

/-! ## Names in an answer -/

/-- Whether an answer holds a property under each of some names once, in any letter case.  It
may also tell that nothing failed, and hold what the schema does not declare. -/
structure Returns (schema : Schema) (names : List String)
    (members returned others : List (String × Json)) : Prop where
  members_perm : members.Perm (returned ++ others)
  names_perm : (returned.map fun member => lowercase member.1).Perm (names.map lowercase)
  quiet : ∀ t, (failureKey, .string t) ∈ others → t = ""
  undeclared : ∀ member ∈ others, member.1 ≠ failureKey →
    schema.attributes.get? (Report.nameOf member.1) = none

namespace Returns

variable {schema : Schema} {identity : Properties} {names : List String}
  {members returned others : List (String × Json)}

/-- The report has the names of what is returned, but for the key of failures. -/
theorem mem_names_iff (h : Returns schema names members returned others) {report : Report}
    (hdescribes : report.Describes schema identity members) {name : String} :
    name ∈ report.properties.names ↔ ∃ member ∈ returned, member.1 ≠ failureKey ∧
      name = Report.nameOf member.1 ∧ (schema.attributes.get? name).isSome := by
  constructor
  · intro hname
    obtain ⟨⟨name, v⟩, hentry, rfl⟩ := List.mem_map.1 hname
    obtain ⟨key, hmember, hkey, heq, hdeclared⟩ := hdescribes.exists_member name v hentry
    refine ⟨(key, v), ?_, hkey, heq, hdeclared⟩
    rcases List.mem_append.1 (h.members_perm.mem_iff.1 hmember) with hreturned | hother
    · exact hreturned
    · have hnone := h.undeclared (key, v) hother hkey
      rw [heq, hnone] at hdeclared
      cases hdeclared
  · rintro ⟨⟨key, v⟩, hreturned, hkey, rfl, hdeclared⟩
    have hmember := h.members_perm.mem_iff.2 (List.mem_append_left others hreturned)
    exact hdescribes.mem_names key v hmember hkey hdeclared

theorem exists_name (h : Returns schema names members returned others) {member : String × Json}
    (hmember : member ∈ returned) : ∃ name ∈ names, lowercase name = lowercase member.1 :=
  List.mem_map.1 (h.names_perm.mem_iff.1 (List.mem_map_of_mem hmember))

theorem exists_member (h : Returns schema names members returned others) {name : String}
    (hname : name ∈ names) : ∃ member ∈ returned, lowercase member.1 = lowercase name :=
  List.mem_map.1 (h.names_perm.mem_iff.2 (List.mem_map_of_mem hname))

/-- Names in lower case are returned under different keys. -/
theorem nodup_keys (h : Returns schema names members returned others) (hnodup : names.Nodup)
    (hlower : ∀ name ∈ names, lowercase name = name) :
    (returned.map fun member => lowercase member.1).Nodup := by
  have hself : names.map lowercase = names :=
    (List.map_congr_left hlower).trans (List.map_id' names)
  rw [h.names_perm.nodup_iff, hself]
  exact hnodup

/-- Nothing tells of a failure if nothing is returned under its key. -/
theorem eq_empty (h : Returns schema names members returned others)
    (hkeys : ∀ member ∈ returned, member.1 ≠ failureKey) {t : String}
    (ht : Entries.get? members failureKey = some (.string t)) : t = "" := by
  have hmember := Entries.mem_of_get? ht
  rcases List.mem_append.1 (h.members_perm.mem_iff.1 hmember) with hreturned | hother
  · exact absurd rfl (hkeys _ hreturned)
  · exact h.quiet t hother

end Returns

namespace Provider

variable {m : Type → Type} {p : Provider m} {desired : Properties} {method : Method}
  {inv : Invocation} {identity : Properties} {o : Output}
  {members returned others : List (String × Json)}

/-- A report comes from the members, if there is one. -/
theorem exists_report_iff (h : o.Shows members) {names : List String} :
    (∃ report, p.reportOn identity o = .ok report ∧ report.properties.names.Perm names) ↔
      (∀ t, Entries.get? members failureKey = some (.string t) → t = "") ∧
        (Report.ofMembers p.schema identity
          (Entries.eraseByLast members failureKey)).properties.names.Perm names := by
  constructor
  · rintro ⟨report, hreport, hperm⟩
    rcases p.reportOn_cases identity o with ⟨-, hfails⟩ | ⟨-, -, hfails⟩ |
      ⟨found, hfound, ⟨t, -, -, hfails⟩ | ⟨hquiet, hgives⟩⟩
    · rw [hfails] at hreport; cases hreport
    · rw [hfails] at hreport; cases hreport
    · rw [hfails] at hreport; cases hreport
    · rw [h.unique hfound] at hquiet hgives
      rw [hgives] at hreport
      cases hreport
      exact ⟨hquiet, hperm⟩
  · rintro ⟨hquiet, hperm⟩
    exact ⟨_, p.reportOn_of_members identity h hquiet, hperm⟩

/-- What an answer returns has the names that were written, exactly if these are in lower case
and none stands under the key for failures. -/
theorem reportOn_names_iff (hmarked : p.schema.IsMarked)
    (hinv : Invocation.ofProperties p.schema desired method p.modulesPath = .ok inv)
    (hshows : o.Shows members)
    (hreturns : Returns p.schema inv.writtenNames members returned others) :
    (∃ report, p.reportOn identity o = .ok report ∧
        report.properties.names.Perm inv.parameters.names) ↔
      (∀ name ∈ inv.writtenNames, lowercase name = name) ∧
        ∀ member ∈ returned, member.1 ≠ failureKey := by
  have hsent := Invocation.map_writtenNames hmarked hinv
  have hdescribes : (Report.ofMembers p.schema identity
      (Entries.eraseByLast members failureKey)).Describes p.schema identity members :=
    Report.describes_ofMembers hshows.nodup
  rw [exists_report_iff hshows]
  generalize Report.ofMembers p.schema identity (Entries.eraseByLast members failureKey) = report
    at hdescribes
  constructor
  · rintro ⟨-, hperm⟩
    have hreported : ∀ name ∈ inv.writtenNames, ∃ member ∈ returned,
        member.1 ≠ failureKey ∧ name = lowercase member.1 := by
      intro name hname
      have hparameter : propertyPrefix ++ name ∈ inv.parameters.names := by
        rw [← hsent]
        exact List.mem_map_of_mem hname
      obtain ⟨member, hmember, hkey, heq, -⟩ :=
        (hreturns.mem_names_iff hdescribes).1 (hperm.mem_iff.2 hparameter)
      exact ⟨member, hmember, hkey, (String.append_right_inj _).1 heq⟩
    have hlower : ∀ name ∈ inv.writtenNames, lowercase name = name := by
      intro name hname
      obtain ⟨member, -, -, rfl⟩ := hreported name hname
      exact lowercase_lowercase member.1
    refine ⟨hlower, fun member hmember hkey => ?_⟩
    -- another member has the name of failures, but in other letters
    obtain ⟨name, hname, hsame⟩ := hreturns.exists_name hmember
    rw [hlower name hname] at hsame
    obtain ⟨other, hother, hne, hothers⟩ := hreported name hname
    have hkeys := hreturns.nodup_keys (Invocation.nodup_writtenNames hmarked hinv) hlower
    have heq : other = member :=
      List.inj_on_of_nodup_map hkeys hother hmember (hothers.symm.trans hsame)
    rw [heq] at hne
    exact hne hkey
  · rintro ⟨hlower, hkeys⟩
    refine ⟨fun t ht => hreturns.eq_empty hkeys ht, ?_⟩
    refine (List.perm_ext_iff_of_nodup report.properties.nodup inv.parameters.nodup).2
      fun name => ?_
    change name ∈ report.properties.names ↔ name ∈ inv.parameters.names
    rw [hreturns.mem_names_iff hdescribes]
    constructor
    · rintro ⟨member, hmember, -, rfl, -⟩
      obtain ⟨written, hwritten, hsame⟩ := hreturns.exists_name hmember
      rw [hlower written hwritten] at hsame
      rw [← hsent, Report.nameOf, ← hsame]
      exact List.mem_map_of_mem hwritten
    · intro hname
      obtain ⟨declared, hdeclared, -⟩ := Invocation.exists_declared_of_mem_names hinv hname
      rw [← hsent] at hname
      obtain ⟨written, hwritten, rfl⟩ := List.mem_map.1 hname
      obtain ⟨member, hmember, hsame⟩ := hreturns.exists_member hwritten
      rw [hlower written hwritten] at hsame
      refine ⟨member, hmember, hkeys member hmember, ?_, by rw [hdeclared]; rfl⟩
      rw [Report.nameOf, hsame]
      rfl

theorem isMarked_sample (stdout : String) : (sample stdout).schema.IsMarked := by
  intro name declared hdeclared htype
  have hentry : (name, declared) ∈ (sample stdout).schema.attributes.entries :=
    Entries.mem_of_get? hdeclared
  have hentries : (sample stdout).schema.attributes.entries = [
      ("name", ⟨none, false, none⟩),
      ("dsc_name", ⟨some ⟨"String"⟩, false, some .identifying⟩),
      ("dsc_state", ⟨some ⟨"String"⟩, false, some .parameter⟩)] :=
    Entries.ofPairs_eq_self (by decide)
  rw [hentries] at hentry
  simp only [List.mem_cons, Prod.mk.injEq, List.not_mem_nil, or_false] at hentry
  rcases hentry with ⟨rfl, rfl⟩ | ⟨rfl, rfl⟩ | ⟨rfl, rfl⟩
  · cases htype
  · exact ⟨"name", rfl⟩
  · exact ⟨"state", rfl⟩

theorem shows_shouted : Output.Shows
    ⟨0, "\x7b\"NAME\":\"Default\",\"State\":\"Started\",\"errormessage\":\"\"\x7d", ""⟩
      [("NAME", .string "Default"), ("State", .string "Started"),
        ("errormessage", .string "")] :=
  Output.shows_of_texts [("NAME", "Default"), ("State", "Started"), ("errormessage", "")]
    (by decide +kernel)

/-- The state of the sample. -/
def sampleState : Properties := Fields.ofPairs
  [("name", .string "Default"), ("dsc_state", .string "Started"), ("dsc_name", .string "Default")]

/-- A provider of sites with an attribute that is not in lower case. -/
def samplePaths : Provider Id :=
  { sample "" with
    schema := { (sample "").schema with
      attributes := Fields.ofPairs
        [("dsc_PhysicalPath", ⟨some ⟨"String"⟩, false, some .identifying⟩)] } }

theorem isMarked_samplePaths : samplePaths.schema.IsMarked := by
  intro name declared hdeclared _
  have hentry : (name, declared) ∈ samplePaths.schema.attributes.entries :=
    Entries.mem_of_get? hdeclared
  have hentries : samplePaths.schema.attributes.entries =
      [("dsc_PhysicalPath", ⟨some ⟨"String"⟩, false, some .identifying⟩)] :=
    Entries.ofPairs_eq_self (by decide)
  rw [hentries] at hentry
  cases List.mem_singleton.1 hentry
  exact ⟨"PhysicalPath", rfl⟩

theorem shows_path : Output.Shows ⟨0, "\x7b\"PhysicalPath\":\"web\"\x7d", ""⟩
    [("PhysicalPath", .string "web")] :=
  Output.shows_of_texts [("PhysicalPath", "web")] (by decide +kernel)

end Provider

end DesiredState
