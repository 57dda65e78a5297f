import DesiredState.Process
import DesiredState.Proofs.Answer.Reports
import DesiredState.Proofs.Answer.Session
import DesiredState.Proofs.Mapping
import DesiredState.Proofs.Script.Acceptance

/-!
# Identities in queries

A query takes two things from an identity: the properties that identify the resource go into
the script, and the title goes into the report.  Nothing else of the identity has a part in
it.  So identities that agree on these two are sent alike and answered alike, whatever else is
in them.

What identifies a resource is declared.  So the mapping of a query does not fail, and no
property of an identity is unknown: this failure can only come from the interpreter.  It does
not come from a program, whatever machine it runs on.

## Main definitions

* `Schema.SameIdentity` — whether two identities agree on what a query takes from them.
* `Provider.withProgram`, `Provider.reportOfProcess` — a program as the interpreter, and the
  report that a process of it gives.

## Main results

* `Provider.query_congr` — queries of identities that agree are the same.
* `Provider.scriptOf_identifying_ne_unknownProperty` — the mapping of a query does not fail.
* `Provider.trace_query_unknown_iff` — when a query finds a property unknown.
* `Provider.query_withProgram` — what a query is that has a program run its script.
* `Provider.query_by_identity` — what a query takes from an identity.
-/

namespace DesiredState

/-- Whether two identities agree on the properties that identify the resource, with their
order, and on the title. -/
structure Schema.SameIdentity (schema : Schema) (identity other : Properties) : Prop where
  entries : identity.entries.filter (fun entry => schema.identifying.contains entry.1) =
    other.entries.filter fun entry => schema.identifying.contains entry.1
  title : identity.get? "name" = other.get? "name"

/-! ## Failures -/

/-- A script does not fail because of an unknown property. -/
theorem Invocation.script_ne_unknownProperty {inv : Invocation} {source : NameSource}
    {property resource : String} :
    inv.script source ≠ .error (.unknownProperty property resource) := by
  intro h
  rw [← failure?_eq_some_iff, failure?_script, Option.or_eq_some_iff, failure?_credentialsOf,
    failure?_instancesOf] at h
  rcases h with hcredential | ⟨-, hinstance⟩
  · obtain ⟨parameter, -, heq⟩ := Option.map_eq_some_iff.1 hcredential
    cases heq
  · obtain ⟨embedded, -, heq⟩ := Option.map_eq_some_iff.1 hinstance
    cases heq

/-- A process that gives no output could not be started, or the exchange with it broke off. -/
theorem ProcessEnd.output_eq_error {x : ProcessEnd} {program : String} {e : Error}
    (h : x.output program = .error e) :
    (∃ fault, e = .notStarted program fault) ∨ ∃ text, e = .brokenExchange text := by
  cases x with
  | notStarted fault => exact .inl ⟨fault, (Except.error.inj h).symm⟩
  | broken fault => exact .inr ⟨_, (Except.error.inj h).symm⟩
  | ended => cases h

namespace Provider

section Queries

variable {m : Type → Type} (p : Provider m) {identity other : Properties}

theorem reportOn_ne_unknownProperty (identity : Properties) (o : Output)
    (property resource : String) :
    p.reportOn identity o ≠ .error (.unknownProperty property resource) := by
  intro h
  rcases p.reportOn_cases identity o with ⟨-, hreport⟩ | ⟨-, -, hreport⟩ |
    ⟨members, -, ⟨t, -, -, hreport⟩ | ⟨-, hreport⟩⟩ <;> rw [hreport] at h <;> cases h

/-- The report that a process gives, which was started for a query. -/
def reportOfProcess (program : String) (identity : Properties) (x : ProcessEnd) :
    Except Error Report :=
  x.output program >>= p.reportOn identity

theorem reportOfProcess_ne_unknownProperty (program : String) (identity : Properties)
    (x : ProcessEnd) (property resource : String) :
    p.reportOfProcess program identity x ≠ .error (.unknownProperty property resource) := by
  intro h
  rw [reportOfProcess] at h
  cases houtput : x.output program with
  | error e =>
      rw [houtput] at h
      obtain rfl : e = .unknownProperty property resource := Except.error.inj h
      rcases ProcessEnd.output_eq_error houtput with ⟨fault, he⟩ | ⟨text, he⟩
      · cases he
      · cases he
  | ok o =>
      rw [houtput] at h
      exact p.reportOn_ne_unknownProperty identity o property resource h

/-! ## What is taken from an identity -/

theorem identifying_congr (h : p.schema.SameIdentity identity other) :
    p.identifying identity = p.identifying other :=
  Fields.eq_of_entries_eq h.entries

theorem ofAnswer_congr (h : p.schema.SameIdentity identity other) :
    Report.ofAnswer p.schema identity = Report.ofAnswer p.schema other := by
  have htitle : identity.title? = other.title? := by
    refine Option.ext fun t => ?_
    have hget : identity.get? titleProperty = other.get? titleProperty := h.title
    rw [Report.title?_eq_some_iff, Report.title?_eq_some_iff, hget]
  have hmembers : Report.ofMembers p.schema identity = Report.ofMembers p.schema other := by
    funext members
    rw [Report.ofMembers, Report.ofMembers, htitle]
  funext text
  rw [Report.ofAnswer, Report.ofAnswer, hmembers]

theorem scriptOf_identifying_ne_unknownProperty (identity : Properties)
    (property resource : String) :
    p.scriptOf .get (p.identifying identity) ≠ .error (.unknownProperty property resource) := by
  rw [scriptOf, identifying, Schema.ofProperties_identifying]
  exact Invocation.script_ne_unknownProperty

/-- Queries of identities that agree are the same. -/
theorem query_congr [Monad m] (h : p.schema.SameIdentity identity other) :
    p.query identity = p.query other := by
  rw [query, query, p.identifying_congr h, p.ofAnswer_congr h]

/-! ## What is sent and replied -/

theorem trace_query_congr (h : p.schema.SameIdentity identity other) (answers : Answers) :
    p.trace answers (.query identity) = p.trace answers (.query other) := by
  have hcall : (fun answers => (p.answering answers).call (.query identity)) =
      fun answers => (p.answering answers).call (.query other) := by
    funext answers
    have hquery : (p.answering answers).query identity = (p.answering answers).query other :=
      query_congr (p.answering answers) h
    rw [call, call, hquery]
  rw [trace, trace, hcall]

/-- A query sends one script at most. -/
theorem length_sent_query_le (answers : Answers) (identity : Properties) :
    (p.trace answers (.query identity)).sent.length ≤ 1 := by
  cases h : p.scriptOf .get (p.identifying identity) with
  | error e =>
      rw [trace_query_of_error h]
      exact Nat.zero_le 1
  | ok script =>
      rw [trace_query_of_script h]
      exact Nat.le_refl 1

/-- A query finds a property unknown exactly if the interpreter, asked to run its script,
fails with this. -/
theorem trace_query_unknown_iff {answers : Answers} {property resource : String} :
    (p.trace answers (.query identity)).reply = .error (.unknownProperty property resource) ↔
      (∃ script, p.scriptOf .get (p.identifying identity) = .ok script) ∧
        answers 0 = .error (.unknownProperty property resource) := by
  cases hscript : p.scriptOf .get (p.identifying identity) with
  | error e =>
      rw [trace_query_of_error hscript]
      refine iff_of_false (fun h => ?_) fun ⟨⟨script, h⟩, _⟩ => (nomatch h)
      rw [Except.error.inj h] at hscript
      exact p.scriptOf_identifying_ne_unknownProperty identity property resource hscript
  | ok script =>
      rw [trace_query_of_script hscript, and_iff_right ⟨script, rfl⟩]
      cases hanswer : answers 0 with
      | error e =>
          constructor
          · intro h
            exact congrArg Except.error (Except.error.inj h)
          · intro h
            rw [Except.error.inj h]
            rfl
      | ok o =>
          refine iff_of_false (fun h => ?_) fun h => (nomatch h)
          change Reply.report <$> p.reportOn identity o = _ at h
          cases hreport : p.reportOn identity o with
          | ok report => rw [hreport] at h; cases h
          | error e =>
              rw [hreport] at h
              rw [Except.error.inj h] at hreport
              exact p.reportOn_ne_unknownProperty identity o property resource hreport

/-! ## Programs as interpreters -/

variable [Monad m] [LawfulMonad m]

/-- The provider with the program of a configuration as its interpreter, on a machine. -/
def withProgram (p : Provider m) (machine : Machine m) (config : InterpreterConfig) :
    Provider m :=
  { p with interpreter := config.on machine }

/-- To read the output of a program is to run one process and read what comes of it. -/
theorem execute_bind_mk {β : Type} (machine : Machine m) (program : String)
    (arguments : List String) (input : String) (g : Output → Except Error β) :
    (machine.execute program arguments input >>= fun o => ExceptT.mk (pure (g o))) =
      ExceptT.mk ((fun x => ProcessEnd.output program x >>= g) <$>
        machine program arguments (octetsOf input.toList)) := by
  change (_ <$> _ >>= ExceptT.bindCont _ : m (Except Error β)) = _
  rw [bind_map_left, map_eq_pure_bind]
  refine bind_congr fun x => ?_
  cases ProcessEnd.output program x <;> rfl

/-- With a program as the interpreter, a query fails without a process, or is the report of
one. -/
theorem query_withProgram (machine : Machine m) (config : InterpreterConfig)
    (identity : Properties) :
    (∃ e, p.scriptOf .get (p.identifying identity) = .error e ∧
      (p.withProgram machine config).query identity = ExceptT.mk (pure (.error e))) ∨
    ∃ script, p.scriptOf .get (p.identifying identity) = .ok script ∧
      (p.withProgram machine config).query identity =
        ExceptT.mk (p.reportOfProcess config.program identity <$>
          machine config.program config.arguments (octetsOf script.text.toList)) := by
  cases hscript : p.scriptOf .get (p.identifying identity) with
  | error e => exact .inl ⟨e, rfl, query_of_error (p.withProgram machine config) hscript⟩
  | ok script =>
      refine .inr ⟨script, rfl, ?_⟩
      rw [query_of_script (p.withProgram machine config) hscript]
      exact execute_bind_mk machine _ _ _ _

/-! ## Identities in queries -/

/-- A query takes from an identity the properties that identify the resource, in their order,
and the title.  Identities that agree on these are queried in the same way: with the same
first answer, they get the same reply, and what is sent is the same up to the names of
variables.  No property of an identity is unknown to a query, whether it is declared or not:
a query fails in this way exactly if it can be made and the interpreter fails so.  A program
never does, whatever it is and whatever machine it runs on. -/
theorem query_by_identity :
    (∀ identity other, p.schema.SameIdentity identity other →
      p.query identity = p.query other ∧
      ∀ answers others names, others 0 = answers 0 →
        ({ p with names }.trace others (.query other)).reply =
            (p.trace answers (.query identity)).reply ∧
          List.Forall₂ Script.SameUpToNames (p.trace answers (.query identity)).sent
            ({ p with names }.trace others (.query other)).sent) ∧
    (∀ identity answers property resource,
      (p.trace answers (.query identity)).reply = .error (.unknownProperty property resource) ↔
        (∃ script, p.scriptOf .get (p.identifying identity) = .ok script) ∧
          answers 0 = .error (.unknownProperty property resource)) ∧
    ∀ machine config identity,
      (∃ e, (p.withProgram machine config).query identity = ExceptT.mk (pure (.error e)) ∧
        ∀ property resource, e ≠ .unknownProperty property resource) ∨
      ∃ input result, (p.withProgram machine config).query identity =
          ExceptT.mk (result <$> machine config.program config.arguments input) ∧
        ∀ x property resource, result x ≠ .error (.unknownProperty property resource) := by
  refine ⟨fun identity other h => ⟨p.query_congr h, fun answers others names hfirst => ?_⟩,
    fun identity answers property resource => p.trace_query_unknown_iff,
    fun machine config identity => ?_⟩
  · rw [p.trace_query_congr h]
    refine trace_congr names fun i hi => ?_
    have hle := p.length_sent_query_le answers other
    obtain rfl : i = 0 := by omega
    exact hfirst
  · rcases p.query_withProgram machine config identity with
      ⟨e, hscript, hquery⟩ | ⟨script, -, hquery⟩
    · refine .inl ⟨e, hquery, fun property resource he => ?_⟩
      rw [he] at hscript
      exact p.scriptOf_identifying_ne_unknownProperty identity property resource hscript
    · exact .inr ⟨_, _, hquery, p.reportOfProcess_ne_unknownProperty config.program identity⟩

end Queries

/-- The identity of the sample, among other things: a property that is not declared, and one
of another type than declared. -/
def strewnIdentity : Properties :=
  Fields.ofPairs [("dsc_colour", .map []), ("dsc_name", .string "Default"),
    ("dsc_state", .array [.null]), ("name", .string "Default")]

/-- The sample is queried in the same way with nothing else in the identity. -/
theorem query_by_identity_strewn :
    (sample "null").schema.SameIdentity sampleIdentity strewnIdentity ∧
      (sample "null").query sampleIdentity = (sample "null").query strewnIdentity ∧
      ((sample "null").trace (fun _ => .ok ⟨0, "null", ""⟩) (.query strewnIdentity)).reply =
        ((sample "null").trace (fun _ => .ok ⟨0, "null", ""⟩) (.query sampleIdentity)).reply ∧
      ((sample "null").trace (fun _ => .ok ⟨0, "null", ""⟩) (.query strewnIdentity)).reply ≠
        .error (.unknownProperty "dsc_colour" "dsc_site") := by
  have hsame : (sample "null").schema.SameIdentity sampleIdentity strewnIdentity := ⟨rfl, rfl⟩
  obtain ⟨hagree, hunknown, -⟩ := query_by_identity (sample "null")
  obtain ⟨hquery, htrace⟩ := hagree _ _ hsame
  obtain ⟨hreply, -⟩ := htrace (fun _ => .ok ⟨0, "null", ""⟩) (fun _ => .ok ⟨0, "null", ""⟩)
    (sample "null").names rfl
  refine ⟨hsame, hquery, hreply, fun h => ?_⟩
  obtain ⟨-, hanswer⟩ := (hunknown _ _ _ _).1 h
  cases hanswer

end Provider

end DesiredState
