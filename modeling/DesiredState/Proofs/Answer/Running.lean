import DesiredState.Proofs.Json.Members
import DesiredState.Provider
import Mathlib.Data.List.DropRight

/-!
# Running a script

A call of a provider makes a script, has it run, and reads what the interpreter wrote.
If the script can be made, everything that the call does besides running it is a
function of the output.

## Main definitions

* `Output.answer` — what the interpreter wrote, if it wrote anything.
* `Output.Shows` — the members that the interpreter wrote.
* `Provider.scriptOf` — the script for the properties of a resource.
* `Provider.reportOn`, `Output.outcome` — how the output of a query and of a change is
  read.

## Main results

* `Output.answer_of_isBlank`, `Output.answer_of_not_isBlank` — there is an answer exactly
  if the output is not blank.
* `Output.members?_eq_some_iff` — the members are read exactly as they are spelled.
* `Provider.query_of_script`, `Provider.change_of_script` — a call is one run of its
  script, whose output is read.
-/

namespace DesiredState

theorem trimBlank_eq_nil_iff {cs : List Char} : trimBlank cs = [] ↔ ∀ c ∈ cs, isBlank c = true := by
  have htrim : trimBlank cs = (cs.dropWhile isBlank).rdropWhile isBlank := rfl
  rw [htrim, List.rdropWhile_eq_nil_iff, ← List.dropWhile_eq_nil_iff, List.dropWhile_idempotent,
    List.dropWhile_eq_nil_iff]

namespace Output

variable {o : Output}

/-- What the interpreter wrote, without the blanks around it.  Nothing but blanks is a
failure. -/
def answer (o : Output) : Except Error (List Char) :=
  match trimBlank o.stdout.toList with
  | [] => .error (.nothingReturned o.stderr)
  | text => .ok text

/-- Whether the interpreter wrote nothing but blanks. -/
def IsBlank (o : Output) : Prop := ∀ c ∈ o.stdout.toList, isBlank c = true

theorem answer_of_isBlank (h : o.IsBlank) : o.answer = .error (.nothingReturned o.stderr) := by
  rw [answer, trimBlank_eq_nil_iff.2 h]

theorem answer_of_not_isBlank (h : ¬ o.IsBlank) : o.answer = .ok (trimBlank o.stdout.toList) := by
  rw [answer]
  split
  · next hnil => exact absurd (trimBlank_eq_nil_iff.1 hnil) h
  · rfl

/-- The outcome that the output of a change gives. -/
def outcome (o : Output) : Except Error Outcome := o.answer >>= Outcome.ofAnswer

theorem outcome_of_not_isBlank (h : ¬ o.IsBlank) :
    o.outcome = Outcome.ofAnswer (trimBlank o.stdout.toList) := by
  rw [outcome, answer_of_not_isBlank h]
  rfl

/-! ### Members -/

variable {members : List (String × Json)}

/-- The members of an answer that is an object.  Null has none. -/
def members? (o : Output) : Option (List (String × Json)) :=
  match Json.read? (trimBlank o.stdout.toList) with
  | some .null => some []
  | some (.object members) => some members
  | _ => none

/-- Whether the interpreter wrote, with only blanks around it, an object of these members,
or null, which has none. -/
def Shows (o : Output) (members : List (String × Json)) : Prop :=
  (members = [] ∧ Json.null.Spelled (trimBlank o.stdout.toList)) ∨
    (Json.object members).Spelled (trimBlank o.stdout.toList)

/-- The members are read exactly as they are spelled. -/
theorem members?_eq_some_iff : o.members? = some members ↔ o.Shows members := by
  rw [members?, Shows, ← Json.read?_eq_some_iff, ← Json.read?_eq_some_iff]
  split
  · next hread => simp [hread, eq_comm]
  · next values hread => simp [hread]
  · next hnull hobject =>
    constructor
    · intro h
      cases h
    · rintro (⟨-, hread⟩ | hread)
      · exact absurd hread hnull
      · exact absurd hread (hobject members)

theorem Shows.unique (h : o.Shows members) {others : List (String × Json)}
    (hothers : o.Shows others) : others = members := by
  rw [← members?_eq_some_iff] at h hothers
  exact Option.some.inj (hothers.symm.trans h)

/-- A member is one of an object. -/
theorem Shows.read?_of_get? (h : o.Shows members) {key : String} {v : Json}
    (hv : Entries.get? members key = some v) :
    Json.read? (trimBlank o.stdout.toList) = some (.object members) := by
  rcases h with ⟨rfl, -⟩ | hobject
  · cases hv
  · exact Json.read?_eq_some_iff.2 hobject

/-- A blank text shows nothing. -/
theorem Shows.not_isBlank (h : o.Shows members) : ¬ o.IsBlank := by
  intro hblank
  rw [← members?_eq_some_iff, members?, trimBlank_eq_nil_iff.2 hblank] at h
  cases h

/-- The members of an object have different names. -/
theorem Shows.nodup (h : o.Shows members) : (Entries.names members).Nodup := by
  rcases h with ⟨rfl, -⟩ | hobject
  · exact .nil
  · obtain ⟨-, pairs, -, -, -, rfl⟩ := Json.exists_members (Json.read?_eq_some_iff.2 hobject)
    exact Entries.nodup_ofPairs pairs

/-- Members that are texts, from a test on them. -/
theorem shows_of_texts (pairs : List (String × String))
    (h : o.members?.map (List.map (Prod.map id Json.text?)) =
      some (pairs.map (Prod.map id some))) : o.Shows (pairs.map (Prod.map id .string)) := by
  obtain ⟨members, hmembers, htexts⟩ := Option.map_eq_some_iff.1 h
  rw [← members?_eq_some_iff, hmembers, Json.eq_map_string htexts]

end Output

namespace Provider

variable {m : Type → Type} (p : Provider m)

/-- The script for the properties of a resource. -/
def scriptOf (method : Method) (properties : Properties) : Except Error Script := do
  (← Invocation.ofProperties p.schema properties method p.modulesPath).script p.names

/-- The report that the output of a query gives. -/
def reportOn (identity : Properties) (o : Output) : Except Error Report :=
  o.answer >>= Report.ofAnswer p.schema identity

theorem reportOn_of_isBlank {o : Output} (h : o.IsBlank) (identity : Properties) :
    p.reportOn identity o = .error (.nothingReturned o.stderr) := by
  rw [reportOn, Output.answer_of_isBlank h]
  rfl

theorem reportOn_of_not_isBlank {o : Output} (h : ¬ o.IsBlank) (identity : Properties) :
    p.reportOn identity o =
      Report.ofAnswer p.schema identity (trimBlank o.stdout.toList) := by
  rw [reportOn, Output.answer_of_not_isBlank h]
  rfl

variable [Monad m] [LawfulMonad m]

/-- A call whose script can be made runs it. -/
theorem run_of_script {method : Method} {properties : Properties} {script : Script}
    (h : p.scriptOf method properties = .ok script) :
    p.run method properties = (do
      let o ← p.interpreter script
      ExceptT.mk (pure o.answer)) := by
  have hscript : (ExceptT.mk (pure (p.scriptOf method properties)) : ExceptT Error m Script) =
      pure script := by
    rw [h]
    rfl
  have hrun : p.run method properties = (do
      let script ← (ExceptT.mk (pure (p.scriptOf method properties)) : ExceptT Error m Script)
      let o ← p.interpreter script
      match trimBlank o.stdout.toList with
      | [] => throw (.nothingReturned o.stderr)
      | text => pure text) := rfl
  rw [hrun, hscript, pure_bind]
  refine bind_congr fun o => ?_
  rw [Output.answer]
  split <;> rfl

/-- Two steps that only fail or give a value are one such step. -/
theorem mk_pure_bind {α β : Type} (a : Except Error α) (g : α → Except Error β) :
    ((ExceptT.mk (pure a) : ExceptT Error m α) >>= fun x => ExceptT.mk (pure (g x))) =
      (ExceptT.mk (pure (a >>= g)) : ExceptT Error m β) := by
  change (pure a >>= ExceptT.bindCont _ : m (Except Error β)) = _
  rw [pure_bind]
  cases a <;> rfl

/-- A call whose script can not be made fails without a run. -/
theorem run_of_error {method : Method} {properties : Properties} {e : Error}
    (h : p.scriptOf method properties = .error e) :
    p.run method properties = ExceptT.mk (pure (.error e)) := by
  have hrun : p.run method properties =
      (ExceptT.mk (pure (p.scriptOf method properties)) : ExceptT Error m Script) >>= _ := rfl
  rw [hrun, h]
  exact pure_bind (m := m) _ _

theorem mk_error_bind {α β : Type} (e : Error) (g : α → ExceptT Error m β) :
    (ExceptT.mk (pure (.error e)) : ExceptT Error m α) >>= g = ExceptT.mk (pure (.error e)) :=
  pure_bind (m := m) _ _

theorem query_of_error {identity : Properties} {e : Error}
    (h : p.scriptOf .get (p.identifying identity) = .error e) :
    p.query identity = ExceptT.mk (pure (.error e)) := by
  rw [query, run_of_error p h]
  exact mk_error_bind e _

theorem change_of_error {desired : Properties} {e : Error}
    (h : p.scriptOf .set desired = .error e) :
    p.change desired = ExceptT.mk (pure (.error e)) := by
  rw [change, run_of_error p h]
  exact mk_error_bind e _

/-- A query is one run of its script, whose output is read. -/
theorem query_of_script {identity : Properties} {script : Script}
    (h : p.scriptOf .get (p.identifying identity) = .ok script) :
    p.query identity = (do
      let o ← p.interpreter script
      ExceptT.mk (pure (p.reportOn identity o))) := by
  rw [query, run_of_script p h, bind_assoc]
  exact bind_congr fun o => mk_pure_bind _ _

/-- A change is one run of its script, whose output is read. -/
theorem change_of_script {desired : Properties} {script : Script}
    (h : p.scriptOf .set desired = .ok script) :
    p.change desired = (do
      let o ← p.interpreter script
      ExceptT.mk (pure o.outcome)) := by
  rw [change, run_of_script p h, bind_assoc]
  exact bind_congr fun o => mk_pure_bind _ _

/-- A provider of sites whose interpreter always writes the same. -/
def sample (stdout : String) : Provider Id where
  schema := {
    name := "dsc_site"
    friendlyName := "Site"
    resourceName := "MSFT_Site"
    moduleName := "WebDsc"
    moduleVersion? := none
    attributes := Fields.ofPairs [
      ("name", ⟨none, false, none⟩),
      ("dsc_name", ⟨some ⟨"String"⟩, false, some .identifying⟩),
      ("dsc_state", ⟨some ⟨"String"⟩, false, some .parameter⟩)] }
  interpreter := fun _ => pure ⟨0, stdout, ""⟩
  modulesPath := "/opt/dsc"
  names := NameSource.ofList []

/-- The site of the sample. -/
def sampleIdentity : Properties :=
  Fields.ofPairs [("name", .string "Default"), ("dsc_name", .string "Default")]

/-- The sample runs every script alike. -/
theorem interpreter_sample_bind {α : Type} (stdout : String) (script : Script)
    (g : Output → Except Error α) :
    ((do
      let o ← (sample stdout).interpreter script
      ExceptT.mk (pure (g o))) : ExceptT Error Id α) =
      ExceptT.mk (pure (g ⟨0, stdout, ""⟩)) := rfl

theorem exists_scriptOf_sample (stdout : String) :
    ∃ script, (sample stdout).scriptOf .get ((sample stdout).identifying sampleIdentity) =
      .ok script := by
  -- what the interpreter writes does not matter for the script
  have hok : ((sample "").scriptOf .get ((sample "").identifying sampleIdentity)).isOk = true := by
    decide +kernel
  change ∃ script, (sample "").scriptOf .get ((sample "").identifying sampleIdentity) = .ok script
  cases h : (sample "").scriptOf .get ((sample "").identifying sampleIdentity) with
  | error e => rw [h] at hok; cases hok
  | ok script => exact ⟨script, rfl⟩

end Provider

end DesiredState
