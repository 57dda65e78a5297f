import DesiredState.Invocation
import DesiredState.Script.Pool

/-!
# Statements that build credentials and instances

Some values can not be written as literals: credentials, and instances of
classes.  Each distinct one is built by a statement of its own, which assigns
it to a variable of the pool.  Statements are kept as data; their text is made
in one place.

The statements for an instance start with those for the instances inside it,
innermost first, so everything a statement refers to is built before it.

## Main definitions

* `Credential`, `Credential.ofValue` — user and password, read off a value.
* `Statement`, `Statement.write` — one assignment, and its text.
* `Builder` — a failing computation that works on the pool.
* `declareCredentials`, `declareInstances` — the statements for the parameters
  of an invocation.
-/

namespace DesiredState

/-! ## Credentials -/

/-- A user with a password. -/
structure Credential where
  user : String
  password : String
  deriving DecidableEq, Repr

namespace Credential

/-- The credential that the value of a property gives: the user is a text, the
password a secret or a text. -/
def ofValue (property : String) (value : Value) : Except Error Credential :=
  match value.get? "user", value.get? "password" with
  | some (.string user), some (.secret password)
  | some (.string user), some (.string password) => .ok ⟨user, password⟩
  | _, _ => .error (.invalidCredential property)

/-- The table that stands for a credential. -/
def toExpr (c : Credential) : Expr :=
  .table [(.quoted "user", .text c.user), (.quoted "password", .sensitive c.password)]

end Credential

/-! ## Embedded instances -/

namespace Parameter

/-- The values that a parameter embeds.  Only the items of an array given for
an array type are values of their own. -/
def embeddedValues (p : Parameter) : List Value :=
  match p.value with
  | .array items => if p.type.isArray then items else [p.value]
  | value => [value]

end Parameter

/-- A value as an instance.  An instance keeps its class; a map takes the one
that is declared. -/
def Instance.ofValue (className : String) : Value → Except Error Instance
  | .instanceOf own properties => .ok ⟨own, properties⟩
  | .map entries => .ok ⟨className, entries⟩
  | value =>
      .error (.unsupportedValue ("embedded " ++ className) (String.ofList value.describe))

/-! ## Statements -/

/-- An assignment to a variable. -/
inductive Statement where
  | newCredential (name : String) (credential : Credential)
  | newInstance (name : String) (className : String) (payload : List (Key × Expr))

namespace Statement

/-- The variable that a statement assigns. -/
def assigned : Statement → String
  | newCredential name _ => name
  | newInstance name _ _ => name

/-- The text of a statement. -/
def write : Statement → List Char
  | newCredential name credential =>
      '$' :: (name.toList ++ " = New-PSCredential -User ".toList ++
        (Expr.text credential.user).write ++ " -Password ".toList ++
        (Expr.sensitive credential.password).write)
  | newInstance name className payload =>
      '$' :: (name.toList ++ " = New-CimInstance -ClientOnly -ClassName ".toList ++
        (Expr.text className).write ++ " -Property ".toList ++ (Expr.table payload).write)

/-- The text of a statement. -/
def render (s : Statement) : String := String.ofList s.write

end Statement

/-- A computation that works on the pool and may fail.  What was registered
before a failure stays registered. -/
abbrev Builder := ExceptT Error (StateM Pool)

/-- The statement for a credential, unless it is built already. -/
def declareCredential (c : Credential) : StateM Pool (List Statement) := do
  let (name, isNew) ← (modifyGet fun pool => pool.register c.toExpr.render)
  pure (if isNew then [.newCredential name c] else [])

/-- The statements for the parameters that are credentials and not null. -/
def declareCredentials : List (String × Parameter) → Builder (List Statement)
  | [] => pure []
  | (property, parameter) :: rest =>
      if parameter.type.isCredential && !parameter.value.isNull then do
        match Credential.ofValue property parameter.value with
        | .error e => throw e
        | .ok c =>
            let own ← declareCredential c
            let others ← declareCredentials rest
            pure (own ++ others)
      else declareCredentials rest

/-- The statement for an instance, unless it is built already.  References
stand for the instances inside it, never for the instance itself. -/
def declareInstance (i : Instance) : StateM Pool (List Statement) := do
  let pool ← get
  match pool.lookup? i.toExpr.render with
  | some _ => pure []
  | none =>
      let payload := (Value.entriesToExpr i.properties).map fun (key, value) =>
        (key, pool.substitute value)
      let (name, _) ← (modifyGet fun pool => pool.register i.toExpr.render)
      pure [.newInstance name i.className payload]

mutual

/-- The statements for all instances in a value, innermost first. -/
def declareNested : Value → StateM Pool (List Statement)
  | .array items => declareNestedItems items
  | .map entries => declareNestedEntries entries
  | .instanceOf className properties => do
      let inner ← declareNestedEntries properties
      let own ← declareInstance ⟨className, properties⟩
      pure (inner ++ own)
  | _ => pure []

/-- The statements for all instances in the items of an array. -/
def declareNestedItems : List Value → StateM Pool (List Statement)
  | [] => pure []
  | item :: rest => do
      let first ← declareNested item
      let others ← declareNestedItems rest
      pure (first ++ others)

/-- The statements for all instances in the entries of a map. -/
def declareNestedEntries : List (String × Value) → StateM Pool (List Statement)
  | [] => pure []
  | (_, value) :: rest => do
      let first ← declareNested value
      let others ← declareNestedEntries rest
      pure (first ++ others)

end

/-- The statements for the values that one parameter embeds. -/
def declareEmbedded (className : String) : List Value → Builder (List Statement)
  | [] => pure []
  | value :: rest => do
      match Instance.ofValue className value with
      | .error e => throw e
      | .ok i =>
          let own ← declareNested i.toValue
          let others ← declareEmbedded className rest
          pure (own ++ others)

/-- The statements for the parameters that are embedded and not null. -/
def declareInstances : List (String × Parameter) → Builder (List Statement)
  | [] => pure []
  | (_, parameter) :: rest =>
      if parameter.isEmbedded && !parameter.value.isNull then do
        let own ← declareEmbedded parameter.type.elementType parameter.embeddedValues
        let others ← declareInstances rest
        pure (own ++ others)
      else declareInstances rest

end DesiredState
