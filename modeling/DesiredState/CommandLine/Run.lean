import DesiredState.CommandLine.Arguments
import DesiredState.Files.Documents
import DesiredState.Process

/-!
# Running the program

A request is answered from files and by a machine that starts programs: the
schema is read first, then the configuration, then the properties of the
resource, and what is wrong with the first of them is the failure.

## Main definitions

* `Surroundings` — the files, the place of the program, and names.
* `Request.runOn`, `Request.run` — what the program prints for a request.
* `Finish`, `runArguments` — how the program ends.
-/

namespace DesiredState

/-- What the program finds when it starts. -/
structure Surroundings where
  files : FileTree
  /-- The directory that the program is in. -/
  programDirectory : String
  /-- Where the variables of scripts take their names from. -/
  names : NameSource

/-- How the program ends. -/
inductive Finish where
  /-- Help was asked for. -/
  | helped
  /-- The command line is no request. -/
  | misused
  | printed (text : String)
  | failed (error : Error)

namespace Request

variable {m : Type → Type} [Monad m]

/-- The provider of a schema and a configuration in files; `on` is what runs scripts for a
configuration. -/
def provider (s : Surroundings) (on : InterpreterConfig → Interpreter m)
    (schema config : String) : Except Error (Provider m) := do
  let schema ← s.files.readSchema schema
  let config ← s.files.readConfig config
  pure ⟨schema, on config.interpreter, config.modulesDirectory s.programDirectory, s.names⟩

/-- A JSON value as the program prints it. -/
def printed (value : Json) : String := String.ofList (value.write ++ ['\n'])

/-- The report on the resource of a title, whose other properties are in a file. -/
def queryFiles (s : Surroundings) (on : InterpreterConfig → Interpreter m)
    (schema title : String) (identity? : Option String) (config : String) :
    ExceptT Error m Report := do
  let provider ← ExceptT.mk (pure (provider s on schema config))
  let identity ← ExceptT.mk <| pure <| match identity? with
    | some path => s.files.readProperties path
    | none => pure .empty
  provider.query (identity.insert titleProperty (.string title))

/-- The outcome of the change to a desired state in a file. -/
def changeFiles (s : Surroundings) (on : InterpreterConfig → Interpreter m)
    (schema resource config : String) : ExceptT Error m Outcome := do
  let provider ← ExceptT.mk (pure (provider s on schema config))
  let desired ← ExceptT.mk (pure (s.files.readProperties resource))
  provider.change desired

/-- The script for a desired state in a file. -/
def scriptOfFiles (s : Surroundings) (schema resource : String) (method : Method)
    (config : String) : Except Error Script := do
  let schema ← s.files.readSchema schema
  let config ← s.files.readConfig config
  let desired ← s.files.readProperties resource
  let invocation ← Invocation.ofProperties schema desired method
    (config.modulesDirectory s.programDirectory)
  invocation.script s.names

/-- What the program prints for a request, if `on` is what runs the scripts. -/
def runOn (s : Surroundings) (on : InterpreterConfig → Interpreter m) :
    Request → ExceptT Error m String
  | query schema title identity? config =>
      (fun report => printed (.object report.record.entries)) <$>
        queryFiles s on schema title identity? config
  | change schema resource config =>
      (fun outcome => printed outcome.toJson) <$> changeFiles s on schema resource config
  | preview schema resource method config =>
      ExceptT.mk (pure (Script.redacted <$> scriptOfFiles s schema resource method config))

/-- What the program prints for a request, if a machine runs the scripts. -/
def run (s : Surroundings) (machine : Machine m) (request : Request) : ExceptT Error m String :=
  request.runOn s (·.on machine)

end Request

/-- How the program ends after what a request gave. -/
def Finish.ofResult : Except Error String → Finish
  | .ok text => .printed text
  | .error e => .failed e

/-- How the program ends for its arguments, on a machine. -/
def runArguments {m : Type → Type} [Monad m] (s : Surroundings) (machine : Machine m)
    (arguments : List String) : m Finish :=
  match Request.parse arguments with
  | .help => pure .helped
  | .mistake => pure .misused
  | .accepted request => Finish.ofResult <$> (request.run s machine).run

end DesiredState
