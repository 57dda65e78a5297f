import DesiredState.Error
import DesiredState.Text.CodePoints
import DesiredState.Yaml.Typed

/-!
# Configuration documents

A configuration says which interpreter runs the scripts, and where the modules
of the resources are.  Everything may be left out.

## Main definitions

* `InterpreterConfig`, `Config` — a configuration.
* `Config.modulesDirectory` — where the modules are.
* `Config.read` — the configuration of a text.
-/

namespace DesiredState

/-- The program that runs scripts, and its arguments. -/
structure InterpreterConfig where
  program : String := "pwsh"
  arguments : List String := ["-NoLogo", "-NoProfile", "-NonInteractive", "-Command", "-"]
  deriving DecidableEq, Repr

/-- A configuration. -/
structure Config where
  interpreter : InterpreterConfig := {}
  modulesPath? : Option String := none
  deriving DecidableEq, Repr

namespace Config

/-- The directory of the modules: the one that is configured, or the one beside
the program, which is in the directory `programDirectory`. -/
def modulesDirectory (programDirectory : String) (config : Config) : String :=
  config.modulesPath?.getD (programDirectory ++ "/dsc_resources")

end Config

open YamlDocument in
/-- The configuration of an interpreter. -/
def InterpreterConfig.ofNode (document : YamlDocument) (node : YamlNode) :
    Reading InterpreterConfig := do
  let default : InterpreterConfig := {}
  let field ← document.record ["program", "args"] node
  let program ← withDefault default.program document.text (field "program")
  let arguments ← withDefault default.arguments
    (fun node => do (← document.items node).mapM document.text) (field "args")
  return ⟨program, arguments⟩

open YamlDocument in
/-- A configuration. -/
def Config.ofNode (document : YamlDocument) (node : YamlNode) : Reading Config := do
  let field ← document.record ["interpreter", "modules_path"] node
  let interpreter ← withDefault {} (InterpreterConfig.ofNode document) (field "interpreter")
  let modulesPath? ← withDefault none (document.optional document.text) (field "modules_path")
  return ⟨interpreter, modulesPath?⟩

/-- The configuration of a text; nothing but blanks configures nothing. -/
def Config.read (text : String) : Except Error Config :=
  if (trimBlank text.toList).isEmpty then .ok {}
  else
    let config? := do
      let document ← YamlDocument.read? text.toList
      document.readAll? ({} : Config) (Config.ofNode document)
    match config? with
    | some config => .ok config
    | none => .error (.malformedDocument .config)

end DesiredState
