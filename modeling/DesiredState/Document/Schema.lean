import DesiredState.Error
import DesiredState.Schema
import DesiredState.Yaml.Typed

/-!
# Schema documents

A schema is read from a record of names and attributes.

## Main definitions

* `Schema.read` — the schema of a text.
-/

namespace DesiredState

open YamlDocument in
/-- One attribute of a schema. -/
def Attribute.ofNode (document : YamlDocument) (node : YamlNode) : Reading Attribute := do
  let field ← document.record ["mof_type", "mof_is_embedded", "behaviour"] node
  let type? ← withDefault none (document.optional document.text) (field "mof_type")
  let isEmbedded ← withDefault false document.truth (field "mof_is_embedded")
  let behaviour? ← withDefault none
    (document.optional (document.choice Behaviour.ofName?)) (field "behaviour")
  return ⟨type?.map DeclaredType.mk, isEmbedded, behaviour?⟩

open YamlDocument in
/-- The attributes of a schema. -/
def Attribute.fieldsOfNode (document : YamlDocument) (node : YamlNode) :
    Reading (Fields Attribute) := do
  let entries ← document.entries node
  return .ofPairs (← entries.mapM fun (name, node) => do
    return (name, ← Attribute.ofNode document node))

/-- The keys of a schema. -/
def Schema.keys : List String :=
  ["name", "dscmeta_resource_friendly_name", "dscmeta_resource_name",
    "dscmeta_module_name", "dscmeta_module_version", "attributes"]

open YamlDocument in
/-- A schema. -/
def Schema.ofNode (document : YamlDocument) (node : YamlNode) : Reading Schema := do
  let field ← document.record Schema.keys node
  let name (key : String) : Reading String := required document.text (field key)
  return {
    name := ← name "name"
    friendlyName := ← name "dscmeta_resource_friendly_name"
    resourceName := ← name "dscmeta_resource_name"
    moduleName := ← name "dscmeta_module_name"
    moduleVersion? :=
      ← withDefault none (document.optional document.text) (field "dscmeta_module_version")
    attributes :=
      ← withDefault .empty (Attribute.fieldsOfNode document) (field "attributes") }

/-- The schema of a text.  A text without content has none of the names that a
schema must have. -/
def Schema.read (text : String) : Except Error Schema :=
  let schema? := do
    let document ← YamlDocument.read? text.toList
    let result ← document.readAll? none fun node => some <$> Schema.ofNode document node
    result
  match schema? with
  | some schema => .ok schema
  | none => .error (.malformedDocument .schema)

end DesiredState
