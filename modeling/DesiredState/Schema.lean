import DesiredState.Fields

/-!
# Resource schemas

A schema describes one type of resource: how the resource and its module are
called, and which attributes it has.  An attribute may have a declared type; one
without is known to the framework only and is never sent to a resource.

A declared type is kept as its text.  Three things are read off it: whether it
is the type of credentials, whether it is an array type, and its element type.

## Main definitions

* `DeclaredType` — the type of an attribute, with `isCredential`, `isArray` and
  `elementType`.
* `Attribute`, `Schema` — an attribute, and a resource type.
* `Schema.identifying` — the names of the attributes that identify a resource.
-/

namespace DesiredState

/-- The declared type of an attribute, such as `String`, `UInt32[]` or
`PSCredential`. -/
structure DeclaredType where
  text : String
  deriving DecidableEq, Repr, Inhabited

namespace DeclaredType

/-- The name of the type of credentials, in lower case. -/
def credentialName : List Char := "pscredential".toList

/-- The mark at the end of an array type. -/
def arrayMark : List Char := ['[', ']']

/-- Whether the type is that of credentials; the case of ASCII letters does not
matter. -/
def isCredential (t : DeclaredType) : Bool :=
  t.text.toList.map Char.toLower == credentialName

/-- Whether the type is an array type. -/
def isArray (t : DeclaredType) : Bool := arrayMark.isSuffixOf t.text.toList

/-- The type without one array mark at its end. -/
def elementType (t : DeclaredType) : String :=
  if t.isArray then String.ofList (t.text.toList.take (t.text.toList.length - 2)) else t.text

end DeclaredType

/-- How the framework treats an attribute. -/
inductive Behaviour where
  /-- The attribute identifies the resource. -/
  | identifying
  | parameter
  | readOnly
  | initOnly
  deriving DecidableEq, Repr

/-- The name of a behaviour in a schema document. -/
def Behaviour.name : Behaviour → String
  | identifying => "namevar"
  | parameter => "parameter"
  | readOnly => "read_only"
  | initOnly => "init_only"

/-- The behaviour of a name. -/
def Behaviour.ofName? (name : String) : Option Behaviour :=
  [identifying, parameter, readOnly, initOnly].find? (·.name == name)

/-- One attribute of a resource type. -/
structure Attribute where
  /-- The declared type; none for an attribute of the framework. -/
  type? : Option DeclaredType
  /-- Whether values are instances of a class. -/
  isEmbedded : Bool
  behaviour? : Option Behaviour
  deriving DecidableEq, Repr, Inhabited

/-- A resource type. -/
structure Schema where
  /-- The name of the type in the framework. -/
  name : String
  /-- The name under which the resource is invoked. -/
  friendlyName : String
  resourceName : String
  moduleName : String
  moduleVersion? : Option String
  attributes : Fields Attribute
  deriving Inhabited

namespace Schema

/-- Whether an attribute identifies the resource. -/
def identifies (a : Attribute) : Bool := a.behaviour? == some .identifying

/-- The names of the attributes that identify a resource, in order. -/
def identifying (schema : Schema) : List String :=
  (schema.attributes.entries.filter fun entry => identifies entry.2).map Prod.fst

end Schema

end DesiredState
