import DesiredState.Document.Config
import DesiredState.Provider
import DesiredState.Text.Utf8

/-!
# Processes

The interpreter of a configuration is a program.  Each script is run by a process of its
own: the program is started with the arguments of the configuration, the script is its
whole input, and its output is what it wrote before it ended.

Which programs there are and what they do is no part of this.  What starts processes is a
parameter, a `Machine`, as what runs scripts is one for a provider.

## Main definitions

* `ProcessEnd`, `ProcessEnd.output` — what comes of a process, and what is made of it.
* `Machine`, `Machine.execute` — what starts processes, and the output of a program.
* `InterpreterConfig.on` — the interpreter of a configuration.
-/

namespace DesiredState

/-- What comes of a process. -/
inductive ProcessEnd where
  /-- There is none: the program could not be started. -/
  | notStarted (fault : Fault)
  /-- Its input could not be written, or its output could not be read. -/
  | broken (fault : Fault)
  /-- It ended, and wrote octets.  A process that was killed has no status. -/
  | ended (status? : Option Int) (stdout stderr : List Char)
  deriving DecidableEq, Repr

/-- The status that is told of a process that was killed. -/
def killedStatus : Int := -1

/-- The output of a program by what came of its process. -/
def ProcessEnd.output (program : String) : ProcessEnd → Except Error Output
  | notStarted fault => .error (.notStarted program fault)
  | broken fault => .error (.brokenExchange fault.message)
  | ended status? stdout stderr =>
      .ok ⟨status?.getD killedStatus, decodeLossy stdout, decodeLossy stderr⟩

/-- Something that starts a program with arguments, writes octets as its input, and waits
for its end. -/
abbrev Machine (m : Type → Type) := String → List String → List Char → m ProcessEnd

variable {m : Type → Type} [Monad m]

/-- The output of a program with arguments for an input. -/
def Machine.execute (machine : Machine m) (program : String) (arguments : List String)
    (input : String) : ExceptT Error m Output :=
  ExceptT.mk (ProcessEnd.output program <$> machine program arguments (octetsOf input.toList))

/-- The interpreter of a configuration, on a machine. -/
def InterpreterConfig.on (config : InterpreterConfig) (machine : Machine m) : Interpreter m :=
  fun script => machine.execute config.program config.arguments script.text

end DesiredState
