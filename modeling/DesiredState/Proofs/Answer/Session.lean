import DesiredState.Proofs.Answer.Running
import DesiredState.Proofs.Script.Naming

/-!
# Calls one after another

A provider keeps nothing between two calls, and it asks its interpreter once for each script.
So a call can be understood alone: from the answers that come after those that earlier calls
took.

The interpreter here answers from a list without end, one answer for each script that it was
ever handed, and keeps the scripts.  Two computations on it are alike if they hand over
related scripts and come to the same result whenever they are given the same answers, however
many were given before.  This is kept by doing one thing after another, and that is all that
a call does.

## Main definitions

* `Answers`, `Interpreter.answering` — the answers to come, and what gives them.
* `Exchange.Alike` — two computations that do the same on the same answers.
* `Provider.trace`, `Provider.traces` — what a call, and each of several calls, sends and
  replies.

## Main results

* `Provider.alike_call` — a call depends on its answers only, up to the names of variables.
* `Provider.run_session` — each call of several does what it does alone.
* `Provider.trace_queryAll_of_ok`, `Provider.trace_queryAll_of_error` — many queries in one
  call are as many calls, up to the first failure.
* `Provider.traces_spec` — what is sent and replied in any sequence of calls.
-/

namespace DesiredState

/-- The answers that an interpreter gives, in order: outputs and failures. -/
abbrev Answers := Nat → Except Error Output

/-- The answers that are left when some are given. -/
def Answers.after (answers : Answers) (given : Nat) : Answers := fun i => answers (given + i)

theorem Answers.after_zero (answers : Answers) : answers.after 0 = answers := by
  funext i
  rw [after, Nat.zero_add]

theorem Answers.after_after (answers : Answers) (m n : Nat) :
    (answers.after m).after n = answers.after (m + n) := by
  funext i
  rw [after, after, after, Nat.add_assoc]

/-- Keeps the scripts that it is handed, and gives the next answer to each. -/
def Interpreter.answering (answers : Answers) : Interpreter (StateM (List Script)) :=
  fun script => ExceptT.mk fun sent => (answers sent.length, sent ++ [script])

/-- A computation with an interpreter that keeps the scripts, for the answers it gives. -/
abbrev Exchange (α : Type) := Answers → ExceptT Error (StateM (List Script)) α

namespace Exchange

variable {α β : Type}

/-- The result of a computation, and all scripts sent, if some are sent before. -/
def run (x : Exchange α) (answers : Answers) (sent : List Script) :
    Except Error α × List Script := x answers sent

theorem run_pure (result : Except Error α) (answers : Answers) (sent : List Script) :
    run (fun _ => ExceptT.mk (pure result)) answers sent = (result, sent) := rfl

theorem run_bind_of_ok {x : Exchange α} {f : α → Exchange β} {answers : Answers}
    {sent after : List Script} {a : α} (h : x.run answers sent = (.ok a, after)) :
    run (fun answers => x answers >>= fun a => f a answers) answers sent =
      (f a).run answers after := by
  change (ExceptT.bindCont (fun a => f a answers) (x.run answers sent).1 : StateM _ _)
    (x.run answers sent).2 = _
  rw [h]
  rfl

theorem run_bind_of_error {x : Exchange α} {f : α → Exchange β} {answers : Answers}
    {sent after : List Script} {e : Error} (h : x.run answers sent = (.error e, after)) :
    run (fun answers => x answers >>= fun a => f a answers) answers sent = (.error e, after) := by
  change (ExceptT.bindCont (fun a => f a answers) (x.run answers sent).1 : StateM _ _)
    (x.run answers sent).2 = _
  rw [h]
  rfl

theorem run_map {x : Exchange α} {answers : Answers} {sent after : List Script}
    {result : Except Error α} (h : x.run answers sent = (result, after)) (f : α → β) :
    run (fun answers => f <$> x answers) answers sent = (f <$> result, after) := by
  cases result with
  | error e => exact run_bind_of_error h
  | ok a => exact run_bind_of_ok h

/-- One script is sent, and the next answer is read. -/
theorem run_script (script : Script) (read : Output → Except Error α) (answers : Answers)
    (sent : List Script) :
    run (fun answers => Interpreter.answering answers script >>= fun o =>
      ExceptT.mk (pure (read o))) answers sent =
      (answers sent.length >>= read, sent ++ [script]) := by
  have hsend : run (fun answers => Interpreter.answering answers script) answers sent =
      (answers sent.length, sent ++ [script]) := rfl
  cases hanswer : answers sent.length with
  | error e =>
      rw [hanswer] at hsend
      exact run_bind_of_error hsend
  | ok o =>
      rw [hanswer] at hsend
      exact run_bind_of_ok hsend

/-- Whether two computations do the same on the same answers: whatever was sent before, they
send related scripts and have the same result.  Only the answers to these scripts count. -/
def Alike (R : Script → Script → Prop) (x y : Exchange α) : Prop :=
  ∀ answers sent, ∃ result new, x.run answers sent = (result, sent ++ new) ∧
    ∀ others before,
      (∀ i < new.length, others (before.length + i) = answers (sent.length + i)) →
      ∃ renewed, y.run others before = (result, before ++ renewed) ∧ List.Forall₂ R new renewed

namespace Alike

variable {R : Script → Script → Prop} {x y : Exchange α}

theorem pure (R : Script → Script → Prop) (result : Except Error α) :
    Alike R (fun _ => ExceptT.mk (Pure.pure result)) (fun _ => ExceptT.mk (Pure.pure result)) :=
  fun answers sent => ⟨result, [], by rw [run_pure, List.append_nil],
    fun others before _ => ⟨[], by rw [run_pure, List.append_nil], .nil⟩⟩

/-- Two scripts are sent, and the answer is read in the same way. -/
theorem script {script other : Script} (h : R script other) (read : Output → Except Error α) :
    Alike R
      (fun answers => Interpreter.answering answers script >>= fun o =>
        ExceptT.mk (Pure.pure (read o)))
      (fun answers => Interpreter.answering answers other >>= fun o =>
        ExceptT.mk (Pure.pure (read o))) := by
  intro answers sent
  refine ⟨_, [script], run_script script read answers sent, fun others before hsame => ?_⟩
  have hfirst : others before.length = answers sent.length := hsame 0 Nat.zero_lt_one
  exact ⟨[other], by rw [run_script, hfirst], .cons h .nil⟩

/-- One thing after another. -/
theorem bind {f g : α → Exchange β} (h : Alike R x y) (hnext : ∀ a, Alike R (f a) (g a)) :
    Alike R (fun answers => x answers >>= fun a => f a answers)
      (fun answers => y answers >>= fun a => g a answers) := by
  intro answers sent
  obtain ⟨result, new, hrun, hother⟩ := h answers sent
  cases result with
  | error e =>
      refine ⟨.error e, new, run_bind_of_error hrun, fun others before hsame => ?_⟩
      obtain ⟨renewed, hrenewed, hrelated⟩ := hother others before hsame
      exact ⟨renewed, run_bind_of_error hrenewed, hrelated⟩
  | ok a =>
      obtain ⟨result, more, hmore, hothers⟩ := hnext a answers (sent ++ new)
      refine ⟨result, new ++ more, ?_, fun others before hsame => ?_⟩
      · rw [run_bind_of_ok hrun, hmore, List.append_assoc]
      rw [List.length_append] at hsame
      obtain ⟨renewed, hrenewed, hrelated⟩ :=
        hother others before fun i hi => hsame i (Nat.lt_add_right _ hi)
      obtain ⟨last, hlast, hrelatedLast⟩ := hothers others (before ++ renewed) (by
        -- the answers to what follows come after those to the first scripts
        intro i hi
        have hi := hsame (new.length + i) (Nat.add_lt_add_left hi _)
        rwa [List.length_append, List.length_append, ← hrelated.length_eq, Nat.add_assoc,
          Nat.add_assoc])
      refine ⟨renewed ++ last, ?_, List.rel_append hrelated hrelatedLast⟩
      rw [run_bind_of_ok hrenewed, hlast, List.append_assoc]

theorem map (h : Alike R x y) (f : α → β) :
    Alike R (fun answers => f <$> x answers) (fun answers => f <$> y answers) :=
  h.bind fun a => pure R (.ok (f a))

/-- A computation that is like itself adds to what was sent what it sends alone, on the
answers that are left. -/
theorem run_eq (h : Alike Eq x x) (answers : Answers) (sent : List Script) :
    x.run answers sent = ((x.run (answers.after sent.length) []).1,
      sent ++ (x.run (answers.after sent.length) []).2) := by
  obtain ⟨result, new, hrun, hother⟩ := h answers sent
  obtain ⟨renewed, hrenewed, hsame⟩ := hother (answers.after sent.length) [] fun i _ => by
    rw [Answers.after, List.length_nil, Nat.zero_add]
  rw [List.forall₂_eq_eq_eq] at hsame
  rw [hrun, hrenewed, hsame, List.nil_append]

end Alike

end Exchange

/-! ## Calls -/

/-- What a change is to bring about. -/
def Call.desired? : Call → Option Properties
  | .query _ | .queryAll _ => none
  | .create _ desired | .update _ desired | .delete _ desired | .set _ desired
  | .apply desired => some desired

/-- What a call sends, one script after another, and what it replies. -/
structure Trace where
  sent : List Script
  reply : Except Error Reply

namespace Provider

variable {m : Type → Type} {R : Script → Script → Prop} {p q : Provider m}

/-- The provider with an interpreter that keeps the scripts and gives these answers. -/
def answering (p : Provider m) (answers : Answers) : Provider (StateM (List Script)) :=
  ⟨p.schema, .answering answers, p.modulesPath, p.names⟩

/-- What a call sends and replies when these are the answers. -/
def trace (p : Provider m) (answers : Answers) (call : Call) : Trace :=
  let (reply, sent) := Exchange.run (fun answers => (p.answering answers).call call) answers []
  ⟨sent, reply⟩

/-- Makes calls one after another, each with names for its variables, whatever the replies
are. -/
def session (p : Provider m) (answers : Answers) :
    List (NameSource × Call) → StateM (List Script) (List Trace)
  | [] => pure []
  | (names, call) :: rest => do
      let before ← get
      let reply ← (({ p with names }.answering answers).call call).run
      let after ← get
      let others ← p.session answers rest
      pure (⟨after.drop before.length, reply⟩ :: others)

/-- What each of several calls sends and replies when these are the answers. -/
def traces (p : Provider m) (answers : Answers) (calls : List (NameSource × Call)) : List Trace :=
  ((p.session answers calls).run []).1

/-- Whether two providers make related scripts of the same properties, or fail alike, and
read answers alike. -/
structure MakesAlike (R : Script → Script → Prop) (p q : Provider m) : Prop where
  schema_eq : q.schema = p.schema
  error : ∀ {method properties e}, p.scriptOf method properties = .error e →
    q.scriptOf method properties = .error e
  ok : ∀ {method properties script}, p.scriptOf method properties = .ok script →
    ∃ other, q.scriptOf method properties = .ok other ∧ R script other

theorem makesAlike_self (p : Provider m) : p.MakesAlike Eq p :=
  ⟨rfl, id, fun {_ _} script h => ⟨script, h, rfl⟩⟩

/-- The names change no more than the names of variables. -/
theorem makesAlike_names (p : Provider m) (names : NameSource) :
    p.MakesAlike Script.SameUpToNames { p with names } where
  schema_eq := rfl
  error {method properties e} h := by
    rw [scriptOf] at h ⊢
    cases hinv : Invocation.ofProperties p.schema properties method p.modulesPath with
    | error _ =>
        rw [hinv] at h
        exact h
    | ok inv =>
        rw [hinv] at h
        exact Invocation.script_eq_error_iff.2 (Invocation.script_eq_error_iff.1 h)
  ok {method properties script} h := by
    rw [scriptOf] at h ⊢
    cases hinv : Invocation.ofProperties p.schema properties method p.modulesPath with
    | error _ =>
        rw [hinv] at h
        cases h
    | ok inv =>
        rw [hinv] at h
        exact Invocation.exists_sameUpToNames h names

namespace MakesAlike

theorem identifying_eq (h : p.MakesAlike R q) (identity : Properties) :
    q.identifying identity = p.identifying identity := by
  rw [identifying, identifying, h.schema_eq]

theorem reportOn_eq (h : p.MakesAlike R q) (identity : Properties) :
    q.reportOn identity = p.reportOn identity := by
  funext o
  rw [reportOn, reportOn, h.schema_eq]

end MakesAlike

/-- A query without a script is a failure. -/
theorem exchange_query_of_error {identity : Properties} {e : Error}
    (h : p.scriptOf .get (p.identifying identity) = .error e) :
    (fun answers => (p.answering answers).query identity) =
      fun _ => ExceptT.mk (pure (.error e)) :=
  funext fun answers => query_of_error (p.answering answers) h

theorem exchange_query_of_script {identity : Properties} {script : Script}
    (h : p.scriptOf .get (p.identifying identity) = .ok script) :
    (fun answers => (p.answering answers).query identity) = fun answers =>
      Interpreter.answering answers script >>= fun o =>
        ExceptT.mk (pure (p.reportOn identity o)) :=
  funext fun answers => query_of_script (p.answering answers) h

theorem exchange_change_of_error {desired : Properties} {e : Error}
    (h : p.scriptOf .set desired = .error e) :
    (fun answers => (p.answering answers).change desired) =
      fun _ => ExceptT.mk (pure (.error e)) :=
  funext fun answers => change_of_error (p.answering answers) h

theorem exchange_change_of_script {desired : Properties} {script : Script}
    (h : p.scriptOf .set desired = .ok script) :
    (fun answers => (p.answering answers).change desired) = fun answers =>
      Interpreter.answering answers script >>= fun o => ExceptT.mk (pure o.outcome) :=
  funext fun answers => change_of_script (p.answering answers) h

theorem run_query_of_error {identity : Properties} {e : Error}
    (h : p.scriptOf .get (p.identifying identity) = .error e) (answers : Answers)
    (sent : List Script) :
    Exchange.run (fun answers => (p.answering answers).query identity) answers sent =
      (.error e, sent) := by
  rw [exchange_query_of_error h, Exchange.run_pure]

theorem run_query_of_script {identity : Properties} {script : Script}
    (h : p.scriptOf .get (p.identifying identity) = .ok script) (answers : Answers)
    (sent : List Script) :
    Exchange.run (fun answers => (p.answering answers).query identity) answers sent =
      (answers sent.length >>= p.reportOn identity, sent ++ [script]) := by
  rw [exchange_query_of_script h, Exchange.run_script]

theorem run_change_of_error {desired : Properties} {e : Error}
    (h : p.scriptOf .set desired = .error e) (answers : Answers) (sent : List Script) :
    Exchange.run (fun answers => (p.answering answers).change desired) answers sent =
      (.error e, sent) := by
  rw [exchange_change_of_error h, Exchange.run_pure]

theorem run_change_of_script {desired : Properties} {script : Script}
    (h : p.scriptOf .set desired = .ok script) (answers : Answers) (sent : List Script) :
    Exchange.run (fun answers => (p.answering answers).change desired) answers sent =
      (answers sent.length >>= Output.outcome, sent ++ [script]) := by
  rw [exchange_change_of_script h, Exchange.run_script]

/-- Queries of the same identity do the same on the same answers. -/
theorem alike_query (h : p.MakesAlike R q) (identity : Properties) :
    Exchange.Alike R (fun answers => (p.answering answers).query identity)
      (fun answers => (q.answering answers).query identity) := by
  cases hscript : p.scriptOf .get (p.identifying identity) with
  | error e =>
      have hother := h.error hscript
      rw [← h.identifying_eq] at hother
      rw [exchange_query_of_error hscript, exchange_query_of_error hother]
      exact .pure R _
  | ok script =>
      obtain ⟨other, hother, hrelated⟩ := h.ok hscript
      rw [← h.identifying_eq] at hother
      rw [exchange_query_of_script hscript, exchange_query_of_script hother, h.reportOn_eq]
      exact .script hrelated (p.reportOn identity)

/-- Changes to the same state do the same on the same answers. -/
theorem alike_change (h : p.MakesAlike R q) (desired : Properties) :
    Exchange.Alike R (fun answers => (p.answering answers).change desired)
      (fun answers => (q.answering answers).change desired) := by
  cases hscript : p.scriptOf .set desired with
  | error e =>
      rw [exchange_change_of_error hscript, exchange_change_of_error (h.error hscript)]
      exact .pure R _
  | ok script =>
      obtain ⟨other, hother, hrelated⟩ := h.ok hscript
      rw [exchange_change_of_script hscript, exchange_change_of_script hother]
      exact .script hrelated Output.outcome

/-- Queries of the same identities do, one after another. -/
theorem alike_queryAll (h : p.MakesAlike R q) (identities : List Properties) :
    Exchange.Alike R (fun answers => (p.answering answers).queryAll identities)
      (fun answers => (q.answering answers).queryAll identities) := by
  induction identities with
  | nil => exact .pure R (.ok [])
  | cons identity rest ih =>
      exact (alike_query h identity).bind fun report =>
        ih.bind fun others => .pure R (.ok (report :: others))

/-- The same calls do the same on the same answers. -/
theorem alike_call (h : p.MakesAlike R q) (call : Call) :
    Exchange.Alike R (fun answers => (p.answering answers).call call)
      (fun answers => (q.answering answers).call call) := by
  cases call with
  | query identity => exact (alike_query h identity).map Reply.report
  | queryAll identities => exact (alike_queryAll h identities).map Reply.reports
  | _ => exact (alike_change h _).map Reply.outcome

/-- What a call does after others is what it does alone on the answers that are left. -/
theorem run_call (p : Provider m) (call : Call) (answers : Answers) (sent : List Script) :
    Exchange.run (fun answers => (p.answering answers).call call) answers sent =
      ((p.trace (answers.after sent.length) call).reply,
        sent ++ (p.trace (answers.after sent.length) call).sent) :=
  (alike_call p.makesAlike_self call).run_eq answers sent

theorem trace_of_run {call : Call} {answers : Answers} {reply : Except Error Reply}
    {sent : List Script}
    (h : Exchange.run (fun answers => (p.answering answers).call call) answers [] =
      (reply, sent)) : p.trace answers call = ⟨sent, reply⟩ := by
  rw [trace, h]

/-- What a call does depends on the answers to what it sends, and on nothing else but the
names of variables. -/
theorem trace_congr {answers others : Answers} {call : Call} (names : NameSource)
    (h : ∀ i < (p.trace answers call).sent.length, others i = answers i) :
    ({ p with names }.trace others call).reply = (p.trace answers call).reply ∧
      List.Forall₂ Script.SameUpToNames (p.trace answers call).sent
        ({ p with names }.trace others call).sent := by
  obtain ⟨result, new, hrun, hother⟩ := alike_call (p.makesAlike_names names) call answers []
  rw [trace_of_run hrun] at h ⊢
  obtain ⟨renewed, hrenewed, hrelated⟩ := hother others [] fun i hi => by
    rw [List.length_nil, Nat.zero_add]
    exact h i hi
  rw [trace_of_run hrenewed]
  exact ⟨rfl, hrelated⟩

/-! ## Calls after calls -/

variable {answers : Answers}

/-- The first call does what it does alone, and leaves the other answers to the rest. -/
theorem run_session_cons (p : Provider m) (answers : Answers) (names : NameSource) (call : Call)
    (rest : List (NameSource × Call)) (sent : List Script) :
    (p.session answers ((names, call) :: rest)).run sent =
      ({ p with names }.trace (answers.after sent.length) call ::
          ((p.session answers rest).run
            (sent ++ ({ p with names }.trace (answers.after sent.length) call).sent)).1,
        ((p.session answers rest).run
          (sent ++ ({ p with names }.trace (answers.after sent.length) call).sent)).2) := by
  generalize hexchange :
    Exchange.run (fun answers => ({ p with names }.answering answers).call call) answers sent = made
  have hsession : (p.session answers ((names, call) :: rest)).run sent =
      (⟨made.2.drop sent.length, made.1⟩ :: ((p.session answers rest).run made.2).1,
        ((p.session answers rest).run made.2).2) := by
    rw [← hexchange]
    rfl
  rw [run_call] at hexchange
  rw [hsession, ← hexchange, List.drop_left]

/-- Each call of several does what it does alone on the answers that are left. -/
theorem run_session (p : Provider m) (answers : Answers) (calls : List (NameSource × Call))
    (sent : List Script) :
    (p.session answers calls).run sent = (p.traces (answers.after sent.length) calls,
      sent ++ (p.traces (answers.after sent.length) calls).flatMap Trace.sent) := by
  induction calls generalizing answers sent with
  | nil =>
      have hempty : p.traces (answers.after sent.length) [] = [] := rfl
      rw [hempty, List.flatMap_nil, List.append_nil]
      rfl
  | cons step rest ih =>
      obtain ⟨names, call⟩ := step
      generalize htrace : { p with names }.trace (answers.after sent.length) call = made
      have halone : p.traces (answers.after sent.length) ((names, call) :: rest) =
          made :: p.traces (answers.after (sent.length + made.sent.length)) rest := by
        rw [traces, run_session_cons, List.length_nil, Answers.after_zero, htrace, List.nil_append,
          ih, Answers.after_after]
      rw [run_session_cons, htrace, ih, halone, List.flatMap_cons, List.length_append,
        List.append_assoc]

/-- The first call leaves the other answers to the rest. -/
theorem traces_cons (p : Provider m) (answers : Answers) (names : NameSource) (call : Call)
    (rest : List (NameSource × Call)) :
    p.traces answers ((names, call) :: rest) = { p with names }.trace answers call ::
      p.traces (answers.after ({ p with names }.trace answers call).sent.length) rest := by
  rw [traces, run_session_cons, List.length_nil, Answers.after_zero, List.nil_append, run_session]

theorem traces_append (p : Provider m) (answers : Answers)
    (before after : List (NameSource × Call)) :
    p.traces answers (before ++ after) = p.traces answers before ++
      p.traces (answers.after ((p.traces answers before).flatMap Trace.sent).length) after := by
  induction before generalizing answers with
  | nil =>
      have hempty : p.traces answers [] = [] := rfl
      rw [hempty, List.flatMap_nil, List.length_nil, Answers.after_zero]
      rfl
  | cons step rest ih =>
      obtain ⟨names, call⟩ := step
      rw [List.cons_append, traces_cons, traces_cons, ih, Answers.after_after, List.flatMap_cons,
        List.length_append]
      rfl

/-! ## Queries -/

variable {identity : Properties} {identities : List Properties} {desired : Properties}
  {script : Script} {e : Error}

/-- A query sends one script, or none if it can not be made. -/
theorem trace_query_of_error (h : p.scriptOf .get (p.identifying identity) = .error e)
    (answers : Answers) : p.trace answers (.query identity) = ⟨[], .error e⟩ :=
  trace_of_run (Exchange.run_map (run_query_of_error h answers []) Reply.report)

theorem trace_query_of_script (h : p.scriptOf .get (p.identifying identity) = .ok script)
    (answers : Answers) : p.trace answers (.query identity) =
      ⟨[script], Reply.report <$> (answers 0 >>= p.reportOn identity)⟩ :=
  trace_of_run (Exchange.run_map (run_query_of_script h answers []) Reply.report)

/-- A change does, too, whatever it is for. -/
theorem trace_change {call : Call} (hcall : call.desired? = some desired) (answers : Answers) :
    p.trace answers call = p.trace answers (.apply desired) := by
  cases call <;> cases hcall <;> rfl

theorem trace_apply_of_error (h : p.scriptOf .set desired = .error e) (answers : Answers) :
    p.trace answers (.apply desired) = ⟨[], .error e⟩ :=
  trace_of_run (Exchange.run_map (run_change_of_error h answers []) Reply.outcome)

theorem trace_apply_of_script (h : p.scriptOf .set desired = .ok script) (answers : Answers) :
    p.trace answers (.apply desired) =
      ⟨[script], Reply.outcome <$> (answers 0 >>= Output.outcome)⟩ :=
  trace_of_run (Exchange.run_map (run_change_of_script h answers []) Reply.outcome)

theorem length_sent_apply_le (p : Provider m) (answers : Answers) (desired : Properties) :
    (p.trace answers (.apply desired)).sent.length ≤ 1 := by
  cases h : p.scriptOf .set desired with
  | error e =>
      rw [trace_apply_of_error h]
      exact Nat.zero_le 1
  | ok script =>
      rw [trace_apply_of_script h]
      exact Nat.le_refl 1

/-- Queries of these identities, as many calls. -/
def queries (p : Provider m) (identities : List Properties) : List (NameSource × Call) :=
  identities.map fun identity => (p.names, .query identity)

theorem traces_queries_cons (p : Provider m) (answers : Answers) (identity : Properties)
    (rest : List Properties) :
    p.traces answers (p.queries (identity :: rest)) = p.trace answers (.query identity) ::
      p.traces (answers.after (p.trace answers (.query identity)).sent.length)
        (p.queries rest) :=
  p.traces_cons answers p.names (.query identity) (p.queries rest)

/-- A reply to a query is a report. -/
theorem exists_run_query (p : Provider m) (answers : Answers) (identity : Properties) :
    ∃ result sent, p.trace answers (.query identity) = ⟨sent, Reply.report <$> result⟩ ∧
      Exchange.run (fun answers => (p.answering answers).query identity) answers [] =
        (result, sent) :=
  ⟨_, _, trace_of_run (Exchange.run_map rfl Reply.report), rfl⟩

theorem run_queryAll_cons_of_error {rest : List Properties} {sent : List Script}
    (h : Exchange.run (fun answers => (p.answering answers).query identity) answers [] =
      (.error e, sent)) :
    Exchange.run (fun answers => (p.answering answers).queryAll (identity :: rest)) answers [] =
      (.error e, sent) :=
  Exchange.run_bind_of_error h

theorem run_queryAll_cons_of_ok {rest : List Properties} {report : Report}
    {result : Except Error (List Report)} {sent more : List Script}
    (h : Exchange.run (fun answers => (p.answering answers).query identity) answers [] =
      (.ok report, sent))
    (hrest : Exchange.run (fun answers => (p.answering answers).queryAll rest)
      (answers.after sent.length) [] = (result, more)) :
    Exchange.run (fun answers => (p.answering answers).queryAll (identity :: rest)) answers [] =
      ((report :: ·) <$> result, sent ++ more) := by
  have hmore := (alike_queryAll p.makesAlike_self rest).run_eq answers sent
  rw [hrest] at hmore
  exact (Exchange.run_bind_of_ok h).trans (Exchange.run_map hmore _)

/-- Whether the traces are those of queries that succeed with these reports. -/
def AllReport (reports : List Report) (ts : List Trace) : Prop :=
  ts.map Trace.reply = reports.map fun report => .ok (.report report)

/-- Queries in one call give all reports, if each query gives one. -/
theorem run_queryAll_of_ok {reports : List Report}
    (h : AllReport reports (p.traces answers (p.queries identities))) :
    Exchange.run (fun answers => (p.answering answers).queryAll identities) answers [] =
      (.ok reports, (p.traces answers (p.queries identities)).flatMap Trace.sent) := by
  induction identities generalizing answers reports with
  | nil =>
      have hnil : reports = [] := List.map_eq_nil_iff.1 h.symm
      rw [hnil]
      rfl
  | cons identity rest ih =>
      obtain ⟨result, sent, htrace, hrun⟩ := p.exists_run_query answers identity
      rw [AllReport, traces_queries_cons, htrace, List.map_cons] at h
      cases reports with
      | nil => cases h
      | cons report others =>
          obtain ⟨hreport, hothers⟩ := List.cons.inj h
          cases result with
          | error e => cases hreport
          | ok _ =>
              cases hreport
              rw [run_queryAll_cons_of_ok hrun (ih hothers), traces_queries_cons, htrace]
              rfl

/-- They come to the first failure, and send nothing after it. -/
theorem run_queryAll_of_error {before after : List Trace} {t : Trace}
    (h : p.traces answers (p.queries identities) = before ++ t :: after)
    (hbefore : ∀ u ∈ before, ∃ reply, u.reply = .ok reply) (ht : t.reply = .error e) :
    Exchange.run (fun answers => (p.answering answers).queryAll identities) answers [] =
      (.error e, (before ++ [t]).flatMap Trace.sent) := by
  induction identities generalizing answers before with
  | nil =>
      have hnil : before ++ t :: after = [] := h.symm
      exact absurd hnil (List.append_ne_nil_of_right_ne_nil _ (List.cons_ne_nil _ _))
  | cons identity rest ih =>
      obtain ⟨result, sent, htrace, hrun⟩ := p.exists_run_query answers identity
      rw [traces_queries_cons, htrace] at h
      cases before with
      | nil =>
          obtain ⟨rfl, -⟩ := List.cons.inj h
          cases result with
          | ok _ => cases ht
          | error _ =>
              cases ht
              rw [run_queryAll_cons_of_error hrun, List.nil_append, List.flatMap_singleton]
      | cons first before =>
          obtain ⟨rfl, hrest⟩ := List.cons.inj h
          obtain ⟨⟨reply, hreply⟩, hothers⟩ := List.forall_mem_cons.1 hbefore
          cases result with
          | error _ => cases hreply
          | ok report =>
              rw [run_queryAll_cons_of_ok hrun (ih hrest hothers), List.cons_append,
                List.flatMap_cons]
              rfl

/-- Either all queries succeed, or there is a first failure. -/
theorem allReport_or_exists_error (p : Provider m) (answers : Answers)
    (identities : List Properties) :
    (∃ reports, AllReport reports (p.traces answers (p.queries identities))) ∨
      ∃ before t after e, p.traces answers (p.queries identities) = before ++ t :: after ∧
        (∀ u ∈ before, ∃ reply, u.reply = .ok reply) ∧ t.reply = .error e := by
  induction identities generalizing answers with
  | nil => exact .inl ⟨[], rfl⟩
  | cons identity rest ih =>
      obtain ⟨result, sent, htrace, -⟩ := p.exists_run_query answers identity
      rw [traces_queries_cons, htrace]
      cases result with
      | error e => exact .inr ⟨[], _, _, e, rfl, List.forall_mem_nil _, rfl⟩
      | ok report =>
          rcases ih (answers.after sent.length) with
            ⟨reports, hreports⟩ | ⟨before, t, after, e, hsplit, hbefore, ht⟩
          · exact .inl ⟨report :: reports, List.cons_eq_cons.2 ⟨rfl, hreports⟩⟩
          · refine .inr ⟨_ :: before, t, after, e, congrArg (_ :: ·) hsplit, ?_, ht⟩
            exact List.forall_mem_cons.2 ⟨⟨.report report, rfl⟩, hbefore⟩

theorem trace_queryAll_of_ok {reports : List Report}
    (h : AllReport reports (p.traces answers (p.queries identities))) :
    p.trace answers (.queryAll identities) =
      ⟨(p.traces answers (p.queries identities)).flatMap Trace.sent, .ok (.reports reports)⟩ :=
  trace_of_run (Exchange.run_map (run_queryAll_of_ok h) Reply.reports)

theorem trace_queryAll_of_error {before after : List Trace} {t : Trace}
    (h : p.traces answers (p.queries identities) = before ++ t :: after)
    (hbefore : ∀ u ∈ before, ∃ reply, u.reply = .ok reply) (ht : t.reply = .error e) :
    p.trace answers (.queryAll identities) = ⟨(before ++ [t]).flatMap Trace.sent, .error e⟩ :=
  trace_of_run (Exchange.run_map (run_queryAll_of_error h hbefore ht) Reply.reports)

/-- Queries in one call succeed exactly if each of them does. -/
theorem trace_queryAll_reply_iff {reports : List Report} :
    (p.trace answers (.queryAll identities)).reply = .ok (.reports reports) ↔
      AllReport reports (p.traces answers (p.queries identities)) := by
  constructor
  · intro hreply
    rcases p.allReport_or_exists_error answers identities with
      ⟨others, hothers⟩ | ⟨before, t, after, e, hsplit, hbefore, ht⟩
    · rw [trace_queryAll_of_ok hothers] at hreply
      cases hreply
      exact hothers
    · rw [trace_queryAll_of_error hsplit hbefore ht] at hreply
      cases hreply
  · intro hreports
    rw [trace_queryAll_of_ok hreports]

/-! ## What calls send and reply -/

/-- An interpreter is asked as often as scripts can be made, and each call does what it
does alone.

* Calls in sequence are the same calls alone, each on the answers that those before it left,
  and nothing else is sent.
* A query, or a change, whose script can not be made sends nothing and fails with what is
  wrong; otherwise it sends that one script, whatever the answer, and its reply is how the
  answer is read.
* Queries in one call give the reports of the single queries in order, exactly if all of
  these succeed; else they fail as the first of them that does, and send nothing more.
* Changes to one desired state send the same script up to names, and reply alike to the same
  answer.
* What a call sends and replies depends on the call and on the answers to what it sends. -/
theorem traces_spec (p : Provider m) (answers : Answers) :
    (∀ before names call after,
      p.traces answers (before ++ (names, call) :: after) =
        let sent := ((p.traces answers before).flatMap Trace.sent).length
        let t := { p with names }.trace (answers.after sent) call
        p.traces answers before ++ t :: p.traces (answers.after (sent + t.sent.length)) after) ∧
    (∀ calls, ((p.session answers calls).run []).2 =
      (p.traces answers calls).flatMap Trace.sent) ∧
    (∀ identity e, p.scriptOf .get (p.identifying identity) = .error e →
      p.trace answers (.query identity) = ⟨[], .error e⟩) ∧
    (∀ identity script, p.scriptOf .get (p.identifying identity) = .ok script →
      p.trace answers (.query identity) =
        ⟨[script], Reply.report <$> (answers 0 >>= p.reportOn identity)⟩) ∧
    (∀ call desired e, call.desired? = some desired → p.scriptOf .set desired = .error e →
      p.trace answers call = ⟨[], .error e⟩) ∧
    (∀ call desired script, call.desired? = some desired →
      p.scriptOf .set desired = .ok script →
      p.trace answers call = ⟨[script], Reply.outcome <$> (answers 0 >>= Output.outcome)⟩) ∧
    (∀ identities reports,
      (p.trace answers (.queryAll identities)).reply = .ok (.reports reports) ↔
        (p.traces answers (p.queries identities)).map Trace.reply =
          reports.map fun report => .ok (.report report)) ∧
    (∀ identities reports,
      (p.trace answers (.queryAll identities)).reply = .ok (.reports reports) →
        (p.trace answers (.queryAll identities)).sent =
          (p.traces answers (p.queries identities)).flatMap Trace.sent) ∧
    (∀ identities before t after e,
      p.traces answers (p.queries identities) = before ++ t :: after →
      (∀ u ∈ before, ∃ reply, u.reply = .ok reply) → t.reply = .error e →
      p.trace answers (.queryAll identities) =
        ⟨(before ++ [t]).flatMap Trace.sent, .error e⟩) ∧
    (∀ call other desired names others, call.desired? = some desired →
      other.desired? = some desired → others 0 = answers 0 →
      ({ p with names }.trace others other).reply = (p.trace answers call).reply ∧
        List.Forall₂ Script.SameUpToNames (p.trace answers call).sent
          ({ p with names }.trace others other).sent) ∧
    (∀ call names others,
      (∀ i < (p.trace answers call).sent.length, others i = answers i) →
      ({ p with names }.trace others call).reply = (p.trace answers call).reply ∧
        List.Forall₂ Script.SameUpToNames (p.trace answers call).sent
          ({ p with names }.trace others call).sent) := by
  refine ⟨fun before names call after => ?_, fun calls => ?_,
    fun identity e h => trace_query_of_error h answers,
    fun identity script h => trace_query_of_script h answers, ?_, ?_,
    fun identities reports => trace_queryAll_reply_iff, fun identities reports hreply => ?_,
    fun identities before t after e hsplit hbefore ht =>
      trace_queryAll_of_error hsplit hbefore ht, ?_,
    fun call names others h => trace_congr names h⟩
  · rw [traces_append, traces_cons, Answers.after_after]
  · rw [run_session, List.length_nil, Answers.after_zero, List.nil_append]
  · intro call desired e hcall h
    rw [trace_change hcall, trace_apply_of_error h]
  · intro call desired script hcall h
    rw [trace_change hcall, trace_apply_of_script h]
  · rw [trace_queryAll_of_ok (trace_queryAll_reply_iff.1 hreply)]
  · intro call other desired names others hcall hother hfirst
    rw [trace_change hcall, trace_change hother]
    refine trace_congr names fun i hi => ?_
    -- a change sends one script at most
    have hzero : i = 0 := Nat.lt_one_iff.1 (hi.trans_le (p.length_sent_apply_le answers desired))
    rw [hzero, hfirst]

/-- The first of two queries fails in the interpreter, so the second is not made; and a state
with an undeclared property is not sent. -/
theorem traces_spec_failing :
    ∃ script, (sample "").scriptOf .get ((sample "").identifying sampleIdentity) = .ok script ∧
      (sample "").trace (fun _ => .error (.brokenExchange "gone"))
        (.queryAll [sampleIdentity, sampleIdentity]) =
          ⟨[script], .error (.brokenExchange "gone")⟩ ∧
      (sample "").trace (fun _ => .error (.brokenExchange "gone"))
        (.delete "Default" (Fields.ofPairs [("dsc_colour", .string "red")])) =
          ⟨[], .error (.unknownProperty "dsc_colour" "dsc_site")⟩ := by
  obtain ⟨script, hscript⟩ := exists_scriptOf_sample ""
  obtain ⟨hsession, -, -, hquery, hchange, -, -, -, hfirst, -⟩ :=
    traces_spec (sample "") fun _ => .error (.brokenExchange "gone")
  have hfails := hquery sampleIdentity script hscript
  have htraces := hsession [] (sample "").names (.query sampleIdentity)
    ((sample "").queries [sampleIdentity])
  have hall := hfirst [sampleIdentity, sampleIdentity] [] _ _ (.brokenExchange "gone") htraces
    (List.forall_mem_nil _) (congrArg Trace.reply hfails)
  refine ⟨script, hscript, ?_, hchange _ _ _ rfl rfl⟩
  rw [hall]
  exact congrArg (Trace.mk · _) (congrArg Trace.sent hfails)

end Provider

end DesiredState
