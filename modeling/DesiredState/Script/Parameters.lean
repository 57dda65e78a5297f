import DesiredState.Script.Statement

/-!
# The parameter block

The parameters of an invocation are one table with bare keys: the name of the
resource, the method, the properties, and the module.  Only credentials and
embedded instances may refer to variables; every other property is written out.

## Main definitions

* `Parameter.toExpr` — the expression of one parameter.
* `Invocation.toExpr` — the whole block.
* `writeAssignment` — the statement that assigns the block.
-/

namespace DesiredState

/-- What the framework puts in front of the names of properties. -/
def propertyPrefix : String := "dsc_"

/-- The name of a property without what the framework put in front of it. -/
def bareProperty (property : String) : String :=
  if propertyPrefix.toList.isPrefixOf property.toList then
    String.ofList (property.toList.drop propertyPrefix.length)
  else property

/-- The expressions of the values that a parameter embeds. -/
def embeddedExprs (className : String) : List Value → Except Error (List Expr)
  | [] => .ok []
  | value :: rest => do
      let i ← Instance.ofValue className value
      let others ← embeddedExprs className rest
      pure (i.toExpr :: others)

/-- The expression of a parameter.  Embedded values of an array type are an
array of instances, even when a single one was given. -/
def Parameter.toExpr (pool : Pool) (property : String) (p : Parameter) :
    Except Error Expr :=
  if p.value.isNull then .ok .null
  else if p.type.isCredential then do
    let credential ← Credential.ofValue property p.value
    pure (pool.substitute credential.toExpr)
  else if p.isEmbedded then do
    let instances ← embeddedExprs p.type.elementType p.embeddedValues
    pure <| pool.substitute <|
      if p.type.isArray then .cast instanceArrayType (.array instances)
      else instances.getLast?.getD .null
  else .ok p.value.toExpr

/-- The entries of the table of properties. -/
def parameterEntries (pool : Pool) :
    List (String × Parameter) → Except Error (List (Key × Expr))
  | [] => .ok []
  | (property, parameter) :: rest => do
      let value ← parameter.toExpr pool property
      let others ← parameterEntries pool rest
      pure ((.bare (bareProperty property), value) :: others)

/-- The module of an invocation: its name, or its file and version when one is
required. -/
def Invocation.moduleExpr (inv : Invocation) : Expr :=
  match inv.moduleVersion? with
  | none => .text inv.moduleName
  | some version =>
      .bareTable [
        ("ModuleName", .text (inv.modulesPath ++ "/" ++ inv.moduleName ++ "/" ++
          inv.moduleName ++ ".psd1")),
        ("RequiredVersion", .text version)]

/-- The parameter block of an invocation. -/
def Invocation.toExpr (pool : Pool) (inv : Invocation) : Except Error Expr := do
  let properties ← parameterEntries pool inv.parameters.entries
  pure <| .bareTable [
    ("Name", .text inv.friendlyName),
    ("Method", .text inv.method.name),
    ("Property", .table properties),
    ("ModuleName", inv.moduleExpr)]

/-- The statement that assigns the parameter block. -/
def writeAssignment (block : Expr) : List Char := "$InvokeParams = ".toList ++ block.write

end DesiredState
