import DesiredState.Proofs.Answer.Running
import Mathlib.Data.List.Count

/-!
# Reported failures

An answer tells of a failure by a member of its object.  A query and a change read this
member in different ways.

A query takes the value of the answer.  It passes the failure on if the member is a text,
whatever the other members are; a member that is no text is left unread, and the query
gives a report.

A change takes the syntax of the answer and wants its members in the form of an outcome.
A failure that is no text, or stands beside a member that does not have this form, makes
the whole answer malformed.

## Main definitions

* `Outcome.Fits` — the members beside the failure have the form of an outcome.

## Main results

* `Provider.reportOn_of_failure` — what a query makes of a failure.
* `Outcome.exists_ofSyntax?_iff`, `Output.outcome_of_failure` — what a change makes of it.
* `Provider.failure_told` — both, for every call that runs.
-/

namespace DesiredState

theorem Json.isEmpty_of_string_ne {t : String} (h : string t ≠ string "") : t.isEmpty = false := by
  rw [Bool.eq_false_iff, ne_eq, String.isEmpty_iff]
  exact fun hnil => h (congrArg string hnil)

/-! ## Queries -/

/-- A query passes on a failure that is a text, and leaves any other unread. -/
theorem Provider.reportOn_of_failure {m : Type → Type} (p : Provider m) (identity : Properties)
    {o : Output} {members : List (String × Json)} {v : Json} (h : o.Shows members)
    (hv : Entries.get? members failureKey = some v) (hempty : v ≠ .string "") :
    (∀ t, v = .string t → p.reportOn identity o = .error (.reported t)) ∧
      ((∀ t, v ≠ .string t) → ∃ report, p.reportOn identity o = .ok report) := by
  rw [p.reportOn_of_not_isBlank h.not_isBlank, Report.ofAnswer, h.read?_of_get? hv]
  dsimp only
  rw [hv]
  constructor
  · rintro t rfl
    simp [Json.isEmpty_of_string_ne hempty]
  · intro htext
    cases v with
    | string t => exact absurd rfl (htext t)
    | _ => exact ⟨_, rfl⟩

/-! ## Changes -/

/-- Whether the syntax of a value, if it is a scalar, is that of null, a truth value or a
number. -/
def JsonSyntax.Proper (s : JsonSyntax) : Prop := ∀ v, s = .scalar (some v) → v.IsScalar

namespace Outcome

section Readers

variable {s : JsonSyntax} {depth : Nat} {v : Json}

theorem readText?_eq_some_iff (hs : s.Proper) (h : s.toJson? depth = some v) {t : String} :
    readText? (some s) = some t ↔ v = .string t := by
  rcases JsonSyntax.toJson?_cases h with rfl | ⟨u, rfl, rfl⟩ | ⟨items, values, rfl, rfl⟩ |
    ⟨members, values, rfl, rfl⟩
  · have hscalar := hs v rfl
    cases v with
    | string u => exact hscalar.elim
    | _ => simp [readText?]
  · simp [readText?]
  · simp [readText?]
  · simp [readText?]

theorem readBool?_eq_some_iff (h : s.toJson? depth = some v) {b : Bool} :
    readBool? (some s) = some b ↔ v = .bool b := by
  rcases JsonSyntax.toJson?_cases h with rfl | ⟨u, rfl, rfl⟩ | ⟨items, values, rfl, rfl⟩ |
    ⟨members, values, rfl, rfl⟩
  · cases v <;> simp [readBool?]
  · simp [readBool?]
  · simp [readBool?]
  · simp [readBool?]

theorem readOptionalBool?_eq_some_iff (h : s.toJson? depth = some v) {b? : Option Bool} :
    readOptionalBool? (some s) = some b? ↔
      (v = .null ∧ b? = none) ∨ ∃ b, v = .bool b ∧ b? = some b := by
  rcases JsonSyntax.toJson?_cases h with rfl | ⟨u, rfl, rfl⟩ | ⟨items, values, rfl, rfl⟩ |
    ⟨members, values, rfl, rfl⟩
  · cases v <;> simp [readOptionalBool?, eq_comm]
  · simp [readOptionalBool?]
  · simp [readOptionalBool?]
  · simp [readOptionalBool?]

end Readers

theorem ofParts?_eq_some_iff {failure restart reached : Option JsonSyntax} {o : Outcome} :
    ofParts? failure restart reached = some o ↔ readText? failure = some o.failure ∧
      readBool? restart = some o.restartRequired ∧
        readOptionalBool? reached = some o.inDesiredState? := by
  obtain ⟨failure', restart', reached'⟩ := o
  rw [ofParts?]
  cases readText? failure with
  | none => simp
  | some text =>
      cases readBool? restart with
      | none => simp
      | some required =>
          cases readOptionalBool? reached with
          | none => simp
          | some state => simp

/-- Whether the members of an answer have the form of an outcome, apart from the failure:
no key of an outcome occurs twice, the restart is a truth value, and the desired state is
a truth value or null. -/
def Fits (cs : List Char) : Prop :=
  ∃ members values, JsonToken.Spelled (JsonSyntax.object members).tokens cs ∧
    (JsonSyntax.object members).toJson? jsonDepth = some (.object values) ∧
    (∀ key ∈ keys, (members.map Prod.fst).count (some key) ≤ 1) ∧
    (∀ v, Entries.get? values "rebootrequired" = some v → ∃ b, v = .bool b) ∧
    ∀ v, Entries.get? values "indesiredstate" = some v → v = .null ∨ ∃ b, v = .bool b

section Values

variable {members : List (String × JsonSyntax)} {pairs : List (String × Json)} {depth : Nat}

theorem keysOccurOnce_iff : keysOccurOnce members = true ↔ ∀ key ∈ keys,
    ((members.map (Prod.map some id)).map Prod.fst).count (some key) ≤ 1 := by
  have hkeys : (members.map (Prod.map some (id : JsonSyntax → JsonSyntax))).map Prod.fst =
      (Entries.names members).map some := by
    rw [Entries.names, List.map_map, List.map_map]
    rfl
  rw [keysOccurOnce, List.all_eq_true, hkeys]
  refine forall₂_congr fun key _ => ?_
  have hinjective : Function.Injective (some : String → Option String) :=
    fun _ _ => Option.some.inj
  rw [List.count_map_of_injective _ _ hinjective, decide_eq_true_iff]

/-- The restart is read exactly if its value, if there is one, is a truth value. -/
theorem exists_readBool?_iff (h : JsonSyntax.ValuesOf depth members pairs) {key : String}
    (hcount : (Entries.names members).count key ≤ 1) :
    (∃ b, readBool? (Entries.get? members key) = some b) ↔
      ∀ v, Entries.get? (Entries.ofPairs pairs) key = some v → ∃ b, v = .bool b := by
  rcases h.get?_ofPairs_cases hcount with ⟨hmember, hvalue⟩ | ⟨s, v, -, hmember, hvalue, hs⟩
  · rw [hmember, hvalue]
    exact ⟨fun _ _ hnone => (by cases hnone), fun _ => ⟨false, rfl⟩⟩
  · rw [hmember, hvalue]
    simp only [readBool?_eq_some_iff hs, Option.some.injEq]
    exact ⟨fun h w hw => hw ▸ h, fun h => h v rfl⟩

/-- The desired state is read exactly if its value, if there is one, is null or a truth
value. -/
theorem exists_readOptionalBool?_iff (h : JsonSyntax.ValuesOf depth members pairs) {key : String}
    (hcount : (Entries.names members).count key ≤ 1) :
    (∃ b?, readOptionalBool? (Entries.get? members key) = some b?) ↔
      ∀ v, Entries.get? (Entries.ofPairs pairs) key = some v → v = .null ∨ ∃ b, v = .bool b := by
  rcases h.get?_ofPairs_cases hcount with ⟨hmember, hvalue⟩ | ⟨s, v, -, hmember, hvalue, hs⟩
  · rw [hmember, hvalue]
    exact ⟨fun _ _ hnone => (by cases hnone), fun _ => ⟨none, rfl⟩⟩
  · rw [hmember, hvalue]
    simp only [readOptionalBool?_eq_some_iff hs, Option.some.injEq]
    constructor
    · rintro ⟨b?, ⟨hnull, -⟩ | ⟨b, hbool, -⟩⟩ w rfl
      · exact .inl hnull
      · exact .inr ⟨b, hbool⟩
    · intro h
      rcases h v rfl with hnull | ⟨b, hbool⟩
      · exact ⟨none, .inl ⟨hnull, rfl⟩⟩
      · exact ⟨some b, .inr ⟨b, hbool, rfl⟩⟩

end Values

section Answers

variable {cs : List Char} {members : List (String × JsonSyntax)} {pairs : List (String × Json)}

/-- Whether a text fits is seen from its members. -/
theorem fits_iff (hs : JsonSyntax.read? cs = some (.object (members.map (Prod.map some id))))
    (hread : Json.read? cs = some (.object (Entries.ofPairs pairs))) :
    Fits cs ↔ keysOccurOnce members = true ∧
      (∀ v, Entries.get? (Entries.ofPairs pairs) "rebootrequired" = some v → ∃ b, v = .bool b) ∧
      ∀ v, Entries.get? (Entries.ofPairs pairs) "indesiredstate" = some v →
        v = .null ∨ ∃ b, v = .bool b := by
  have hvalue := hread
  rw [Json.read?, hs] at hvalue
  rw [keysOccurOnce_iff]
  constructor
  · rintro ⟨others, values, hothers, hvalues, hrest⟩
    rw [← JsonToken.scan?_eq_some_iff, ← JsonSyntax.read?_eq_some_iff, hs] at hothers
    obtain rfl := JsonSyntax.object.inj (Option.some.inj hothers)
    obtain rfl := Json.object.inj (Option.some.inj (hvalue.symm.trans hvalues))
    exact hrest
  · have hspelled := JsonToken.scan?_eq_some_iff.1 (JsonSyntax.read?_eq_some_iff.1 hs)
    exact fun h => ⟨_, _, hspelled, hvalue, h⟩

/-- The failure is read as a text exactly if it is one. -/
theorem readText?_failure_iff
    (hs : JsonSyntax.read? cs = some (.object (members.map (Prod.map some id))))
    (hvalues : JsonSyntax.ValuesOf 126 members pairs)
    (hcount : (Entries.names members).count failureKey ≤ 1) {v : Json}
    (hv : Entries.get? (Entries.ofPairs pairs) failureKey = some v) {t : String} :
    readText? (Entries.get? members failureKey) = some t ↔ v = .string t := by
  rcases hvalues.get?_ofPairs_cases hcount with
    ⟨-, hnone⟩ | ⟨s, w, hmem, hmember, hvalue, hjson⟩
  · rw [hnone] at hv
    cases hv
  · rw [hv] at hvalue
    obtain rfl := Option.some.inj hvalue
    have hproper : s.Proper := by
      rintro w rfl
      exact JsonSyntax.isScalar_of_member hs (List.mem_map_of_mem hmem)
    rw [hmember, readText?_eq_some_iff hproper hjson]

end Answers

/-- An outcome is read exactly if the failure is a text and the other members have the
form of an outcome; its failure is this text. -/
theorem exists_ofSyntax?_iff {cs : List Char} {values : List (String × Json)} {v : Json}
    (hread : Json.read? cs = some (.object values))
    (hv : Entries.get? values failureKey = some v) {t : String} :
    (∃ outcome, (JsonSyntax.read? cs).bind ofSyntax? = some outcome ∧ outcome.failure = t) ↔
      v = .string t ∧ Fits cs := by
  obtain ⟨members, pairs, hs, hmapM, hvalues, rfl⟩ := Json.exists_members hread
  have hformed : (JsonSyntax.read? cs).bind ofSyntax? =
      if keysOccurOnce members then
        ofParts? (Entries.get? members failureKey) (Entries.get? members "rebootrequired")
          (Entries.get? members "indesiredstate")
      else none := by
    rw [hs, Option.bind_some, ofSyntax?, hmapM]
    rfl
  rw [hformed, fits_iff hs hread]
  by_cases honce : keysOccurOnce members = true
  · have hcount : ∀ key ∈ keys, (Entries.names members).count key ≤ 1 := by
      rw [keysOccurOnce, List.all_eq_true] at honce
      exact fun key hkey => decide_eq_true_iff.1 (honce key hkey)
    have hfailure : ∀ {u}, readText? (Entries.get? members failureKey) = some u ↔ v = .string u :=
      readText?_failure_iff hs hvalues (hcount failureKey (by decide)) hv
    simp only [honce, if_true, true_and, ofParts?_eq_some_iff, hfailure,
      ← exists_readBool?_iff hvalues (hcount "rebootrequired" (by decide)),
      ← exists_readOptionalBool?_iff hvalues (hcount "indesiredstate" (by decide))]
    constructor
    · rintro ⟨outcome, ⟨hfailure, hrestart, hreached⟩, rfl⟩
      exact ⟨hfailure, ⟨_, hrestart⟩, _, hreached⟩
    · rintro ⟨hfailure, ⟨b, hrestart⟩, b?, hreached⟩
      exact ⟨⟨t, b, b?⟩, ⟨hfailure, hrestart, hreached⟩, rfl⟩
  · simp [honce]

end Outcome

/-- A change passes on a failure that is a text beside members of the right form, and
finds any other malformed. -/
theorem Output.outcome_of_failure {o : Output} {members : List (String × Json)} {v : Json}
    (h : o.Shows members) (hv : Entries.get? members failureKey = some v)
    (hempty : v ≠ .string "") :
    (∀ t, v = .string t → Outcome.Fits (trimBlank o.stdout.toList) →
        o.outcome = .error (.reported t)) ∧
      ((∀ t, v ≠ .string t) ∨ ¬ Outcome.Fits (trimBlank o.stdout.toList) →
        o.outcome = .error .malformedAnswer) := by
  have hread := h.read?_of_get? hv
  rw [outcome_of_not_isBlank h.not_isBlank, Outcome.ofAnswer]
  constructor
  · rintro t rfl hfits
    obtain ⟨outcome, hformed, rfl⟩ := (Outcome.exists_ofSyntax?_iff hread hv).2 ⟨rfl, hfits⟩
    simp [hformed, Json.isEmpty_of_string_ne hempty]
  · intro hnot
    cases hformed : (JsonSyntax.read? (trimBlank o.stdout.toList)).bind Outcome.ofSyntax? with
    | none => rfl
    | some outcome =>
        obtain ⟨htext, hfits⟩ := (Outcome.exists_ofSyntax?_iff hread hv).1 ⟨outcome, hformed, rfl⟩
        rcases hnot with hnot | hnot
        · exact absurd htext (hnot _)
        · exact absurd hfits hnot

/-! ## Calls -/

namespace Provider

section Calls

variable {m : Type → Type} [Monad m] [LawfulMonad m] (p : Provider m)

/-- Every call whose script can be made runs it once and reads the output.  When the
answer has a failure member that is not the empty text, a query fails with it exactly if
it is a text, and gives a report otherwise; a change never gives an outcome, and fails
with the member exactly if it is a text beside members of the right form. -/
theorem failure_told :
    (∀ identity script, p.scriptOf .get (p.identifying identity) = .ok script →
      p.query identity = (do
        let o ← p.interpreter script
        ExceptT.mk (pure (p.reportOn identity o)))) ∧
    (∀ desired script, p.scriptOf .set desired = .ok script →
      p.change desired = (do
        let o ← p.interpreter script
        ExceptT.mk (pure o.outcome))) ∧
    ∀ o members v, o.Shows members → Entries.get? members failureKey = some v →
      v ≠ .string "" →
      (∀ identity, (∀ t, p.reportOn identity o = .error (.reported t) ↔ v = .string t) ∧
        ((∃ report, p.reportOn identity o = .ok report) ↔ ∀ t, v ≠ .string t)) ∧
      (∀ t, o.outcome = .error (.reported t) ↔
        v = .string t ∧ Outcome.Fits (trimBlank o.stdout.toList)) ∧
      ((∀ t, o.outcome ≠ .error (.reported t)) ↔ o.outcome = .error .malformedAnswer) ∧
      ∀ outcome, o.outcome ≠ .ok outcome := by
  refine ⟨fun identity script h => p.query_of_script h,
    fun desired script h => p.change_of_script h, fun o members v hshows hv hempty => ?_⟩
  obtain ⟨hpassed, hmalformed⟩ := Output.outcome_of_failure hshows hv hempty
  refine ⟨fun identity => ?_, ?_⟩
  · obtain ⟨htext, hother⟩ := p.reportOn_of_failure identity hshows hv hempty
    by_cases hstring : ∃ t, v = .string t
    · obtain ⟨t, rfl⟩ := hstring
      rw [htext t rfl]
      simp
    · have hnone : ∀ t, v ≠ .string t := fun t ht => hstring ⟨t, ht⟩
      obtain ⟨report, hreport⟩ := hother hnone
      rw [hreport]
      simp [hnone]
  · by_cases hstring : ∃ t, v = .string t ∧ Outcome.Fits (trimBlank o.stdout.toList)
    · obtain ⟨t, rfl, hfits⟩ := hstring
      rw [hpassed t rfl hfits]
      simp [hfits]
    · have hnot : (∀ t, v ≠ .string t) ∨ ¬ Outcome.Fits (trimBlank o.stdout.toList) := by
        by_cases hfits : Outcome.Fits (trimBlank o.stdout.toList)
        · exact .inl fun t ht => hstring ⟨t, ht, hfits⟩
        · exact .inr hfits
      rw [hmalformed hnot]
      simpa using hstring

end Calls

theorem shows_boom : Output.Shows ⟨0, "\x7b\"errormessage\":\"boom\"\x7d", ""⟩
    [("errormessage", .string "boom")] :=
  Output.shows_of_texts [("errormessage", "boom")] (by decide +kernel)

/-- The sample passes on a failure that is a text. -/
theorem failure_told_boom :
    (sample "\x7b\"errormessage\":\"boom\"\x7d").query sampleIdentity =
      ExceptT.mk (pure (.error (.reported "boom"))) := by
  obtain ⟨script, hscript⟩ := exists_scriptOf_sample "\x7b\"errormessage\":\"boom\"\x7d"
  obtain ⟨hquery, -, htold⟩ := failure_told (sample "\x7b\"errormessage\":\"boom\"\x7d")
  obtain ⟨hreport, -⟩ := htold _ _ (.string "boom") shows_boom rfl (by simp)
  rw [hquery _ _ hscript, interpreter_sample_bind, ((hreport sampleIdentity).1 "boom").2 rfl]

/-- A query gives a report though the answer tells of a failure, if the failure is no
text. -/
theorem not_forall_failure_told :
    ¬ ∀ o members v, o.Shows members → Entries.get? members failureKey = some v → v ≠ .null →
      v ≠ .string "" → ∀ report, (sample "").reportOn sampleIdentity o ≠ .ok report := by
  intro h
  have hread : (Output.members? ⟨0, "\x7b\"errormessage\":5\x7d", ""⟩).map
      (List.map (Prod.map id Json.write)) = some [("errormessage", ['5'])] := by decide +kernel
  obtain ⟨members, hmembers, hwritten⟩ := Option.map_eq_some_iff.1 hread
  obtain ⟨⟨key, v⟩, rest, rfl, hmember, hrest⟩ := List.map_eq_cons_iff.1 hwritten
  obtain ⟨rfl, hfive⟩ := Prod.mk.inj hmember
  have hshows := Output.members?_eq_some_iff.1 hmembers
  have hnull : v ≠ .null := by
    rintro rfl
    exact absurd hfive (by decide +kernel)
  have htext : ∀ t, v ≠ .string t := by
    rintro t rfl
    have hquote : (Json.string t).write = '"' :: (t.toList.flatMap Json.writeChar ++ ['"']) := rfl
    rw [hquote] at hfive
    exact absurd (List.cons.inj hfive).1 (by decide)
  have hfailure : Entries.get? ((failureKey, v) :: rest) failureKey = some v := if_pos rfl
  obtain ⟨-, hother⟩ := (sample "").reportOn_of_failure sampleIdentity hshows hfailure (htext "")
  obtain ⟨report, hreport⟩ := hother htext
  exact h _ _ v hshows hfailure hnull (htext "") report hreport

/-- A change loses the text of a failure that stands beside a member of another form. -/
theorem not_forall_outcome_told :
    ¬ ∀ (o : Output) members t, o.Shows members →
      Entries.get? members failureKey = some (.string t) → t ≠ "" →
        o.outcome = .error (.reported t) := by
  intro h
  have hshows : Output.Shows
      ⟨0, "\x7b\"errormessage\":\"boom\",\"rebootrequired\":\"no\"\x7d", ""⟩
      [("errormessage", .string "boom"), ("rebootrequired", .string "no")] :=
    Output.shows_of_texts [("errormessage", "boom"), ("rebootrequired", "no")] (by decide +kernel)
  have hlost : Output.outcome
      ⟨0, "\x7b\"errormessage\":\"boom\",\"rebootrequired\":\"no\"\x7d", ""⟩ =
        .error .malformedAnswer := by decide +kernel
  have hreported := h _ _ "boom" hshows rfl (by decide)
  rw [hlost] at hreported
  cases hreported

end Provider

end DesiredState
