import DesiredState.Error
import DesiredState.Schema
import DesiredState.Value

/-!
# Invocations

An invocation is everything that one call of a resource needs: the names of the
resource and of its module, the method, and the parameters with their declared
types.  It is made from the properties of a desired state and a schema.

Not every property becomes a parameter.  The presence flag and the title belong
to the framework, a run-as credential that is null counts as not given, and an
attribute without a declared type is known to the framework only.  A property
that the schema does not declare at all is a failure.

## Main definitions

* `Parameter`, `Invocation` — a typed value, and a call with its parameters.
* `Schema.parameter?` — the parameter that a property becomes.
* `Invocation.ofProperties` — the invocation for the properties of a resource.
-/

namespace DesiredState

/-- The methods of a resource. -/
inductive Method where
  | get
  | set
  deriving DecidableEq, Repr

/-- The name of a method. -/
def Method.name : Method → String
  | get => "get"
  | set => "set"

/-- The method of a name. -/
def Method.ofName? (name : String) : Option Method :=
  [get, set].find? (·.name == name)

/-- A value with its declared type. -/
structure Parameter where
  value : Value
  type : DeclaredType
  isEmbedded : Bool
  deriving Inhabited

/-- One call of a resource. -/
structure Invocation where
  name : String
  friendlyName : String
  resourceName : String
  moduleName : String
  moduleVersion? : Option String
  method : Method
  parameters : Fields Parameter
  /-- The directory that holds the modules of the resources. -/
  modulesPath : String

/-! ## From properties to parameters -/

/-- The property that says whether the resource is to be present. -/
def presenceProperty : String := "ensure"

/-- The property that holds the title of the resource. -/
def titleProperty : String := "name"

/-- The optional credential under which a resource runs. -/
def runAsProperty : String := "dsc_psdscrunascredential"

/-- Whether a property is kept from the resource, whatever the schema says. -/
def isWithheld (property : String) (value : Value) : Bool :=
  property == presenceProperty || property == titleProperty ||
    (property == runAsProperty && value.isNull)

/-- The parameter that a property becomes, if it becomes one. -/
def Schema.parameter? (schema : Schema) (property : String) (value : Value) :
    Option Parameter :=
  if isWithheld property value then none
  else do
    let declared ← schema.attributes.get? property
    let type ← declared.type?
    pure ⟨value, type, declared.isEmbedded⟩

/-- Whether a property is neither withheld nor declared by the schema. -/
def Schema.isUndeclared (schema : Schema) (property : String) (value : Value) : Bool :=
  !isWithheld property value && (schema.attributes.get? property).isNone

namespace Invocation

/-- The invocation for the properties of a resource.  The first undeclared
property is a failure. -/
def ofProperties (schema : Schema) (properties : Properties) (method : Method)
    (modulesPath : String) : Except Error Invocation :=
  match properties.entries.find? fun (name, value) => schema.isUndeclared name value with
  | some (property, _) => .error (.unknownProperty property schema.name)
  | none =>
      .ok {
        name := schema.name
        friendlyName := schema.friendlyName
        resourceName := schema.resourceName
        moduleName := schema.moduleName
        moduleVersion? := schema.moduleVersion?
        method := method
        parameters := properties.filterMap schema.parameter?
        modulesPath := modulesPath }

end Invocation

end DesiredState
