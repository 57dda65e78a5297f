import DesiredState.Answer.Outcome
import DesiredState.Answer.Report
import DesiredState.Script.Assembly

/-!
# Providers

A provider queries and changes resources of one type through an interpreter.
Each call makes one script, has it run, and reads the answer.  A query sends
the identifying properties only; creating, updating and deleting are the same
change, with the desired state the caller gives.

The interpreter is a parameter: a computation that takes a script and answers
with its output or a failure.  Everything else is a function.

## Main definitions

* `Output`, `Interpreter` — what a script wrote, and what runs scripts.
* `Provider` — schema, interpreter and module directory.
* `Provider.query`, `Provider.queryAll`, `Provider.change` — what it does.
* `Call`, `Reply`, `Provider.call` — what it is asked, and what it replies.
-/

namespace DesiredState

/-- What a program wrote, and how it ended. -/
structure Output where
  exitCode : Int
  stdout : String
  stderr : String
  deriving DecidableEq, Repr

/-- Whether a program ended well. -/
def Output.isSuccess (o : Output) : Bool := o.exitCode == 0

/-- Something that runs scripts, one at a time. -/
abbrev Interpreter (m : Type → Type) := Script → ExceptT Error m Output

/-- What queries and changes resources of one type. -/
structure Provider (m : Type → Type) where
  schema : Schema
  interpreter : Interpreter m
  /-- The directory that holds the modules of the resources. -/
  modulesPath : String
  /-- Where the variables of each script take their names from. -/
  names : NameSource

/-- What a caller asks of a provider.  The title of a resource is for the log only. -/
inductive Call where
  | query (identity : Properties)
  | queryAll (identities : List Properties)
  | create (title : String) (desired : Properties)
  | update (title : String) (desired : Properties)
  | delete (title : String) (desired : Properties)
  | set (title : String) (desired : Properties)
  | apply (desired : Properties)

/-- What a provider replies. -/
inductive Reply where
  | report (report : Report)
  | reports (reports : List Report)
  | outcome (outcome : Outcome)

namespace Provider

variable {m : Type → Type} [Monad m]

/-- What the interpreter writes for the properties of a resource, without the
blanks around it.  Nothing but blanks is a failure. -/
def run (p : Provider m) (method : Method) (properties : Properties) :
    ExceptT Error m (List Char) := do
  let script ← ExceptT.mk <| pure do
    (← Invocation.ofProperties p.schema properties method p.modulesPath).script p.names
  let output ← p.interpreter script
  match trimBlank output.stdout.toList with
  | [] => throw (.nothingReturned output.stderr)
  | text => pure text

/-- The identifying properties of an identity, in its order. -/
def identifying (p : Provider m) (identity : Properties) : Properties :=
  identity.filter fun name => p.schema.identifying.contains name

/-- The state of one resource. -/
def query (p : Provider m) (identity : Properties) : ExceptT Error m Report := do
  let text ← p.run .get (p.identifying identity)
  ExceptT.mk (pure (Report.ofAnswer p.schema identity text))

/-- The states of resources, in order, up to the first failure. -/
def queryAll (p : Provider m) : List Properties → ExceptT Error m (List Report)
  | [] => pure []
  | identity :: rest => do
      let report ← p.query identity
      let others ← p.queryAll rest
      pure (report :: others)

/-- Brings one resource to its desired state. -/
def change (p : Provider m) (desired : Properties) : ExceptT Error m Outcome := do
  let text ← p.run .set desired
  ExceptT.mk (pure (Outcome.ofAnswer text))

/-- Answers a call.  What a change is for makes no difference. -/
def call (p : Provider m) : Call → ExceptT Error m Reply
  | .query identity => Reply.report <$> p.query identity
  | .queryAll identities => Reply.reports <$> p.queryAll identities
  | .create _ desired | .update _ desired | .delete _ desired | .set _ desired
  | .apply desired => Reply.outcome <$> p.change desired

end Provider

end DesiredState
