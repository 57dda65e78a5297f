import DesiredState.Error
import DesiredState.Json.Reader

/-!
# Outcomes of a change

The answer to a change is an object of three members: the text of a failure,
whether a restart is required, and whether the desired state is reached.  Each
may be missing, and other members do not matter, whatever they hold.  The three
may also come as an array in this order.

## Main definitions

* `Outcome` — the three members, and `Outcome.toJson`.
* `Outcome.ofSyntax?` — the outcome that the syntax of an answer gives.
* `Outcome.ofAnswer` — the outcome that the text of an answer gives, or the
  failure it tells of.
-/

namespace DesiredState

/-- The outcome of a change. -/
structure Outcome where
  /-- The text of a failure; empty on success. -/
  failure : String
  restartRequired : Bool
  inDesiredState? : Option Bool
  deriving DecidableEq, Repr

namespace Outcome

/-- The keys of the three members. -/
def keys : List String := ["errormessage", "rebootrequired", "indesiredstate"]

/-- A member that is a text; empty when it is missing. -/
def readText? : Option JsonSyntax → Option String
  | none => some ""
  | some (.string (some s)) => some s
  | _ => none

/-- A member that is a truth value; false when it is missing. -/
def readBool? : Option JsonSyntax → Option Bool
  | none => some false
  | some (.scalar (some (.bool b))) => some b
  | _ => none

/-- A member that is a truth value or null; null when it is missing. -/
def readOptionalBool? : Option JsonSyntax → Option (Option Bool)
  | none | some (.scalar (some .null)) => some none
  | some (.scalar (some (.bool b))) => some (some b)
  | _ => none

/-- The outcome of its three members. -/
def ofParts? (failure restart reached : Option JsonSyntax) : Option Outcome := do
  pure ⟨← readText? failure, ← readBool? restart, ← readOptionalBool? reached⟩

/-- Whether no key of an outcome occurs twice. -/
def keysOccurOnce (members : List (String × JsonSyntax)) : Bool :=
  keys.all fun key => (Entries.names members).count key ≤ 1

/-- The outcome that the syntax of an answer gives. -/
def ofSyntax? : JsonSyntax → Option Outcome
  | .object members => do
      let members ← members.mapM fun (key, value) => key.map (·, value)
      if keysOccurOnce members then
        ofParts? (Entries.get? members "errormessage") (Entries.get? members "rebootrequired")
          (Entries.get? members "indesiredstate")
      else none
  | .array items =>
      if items.length ≤ 3 then ofParts? items[0]? items[1]? items[2]? else none
  | _ => none

/-- The outcome that the text of an answer gives, or the failure it tells of. -/
def ofAnswer (text : List Char) : Except Error Outcome :=
  match (JsonSyntax.read? text).bind ofSyntax? with
  | none => .error .malformedAnswer
  | some outcome =>
      if outcome.failure.isEmpty then .ok outcome else .error (.reported outcome.failure)

/-- An outcome as an object. -/
def toJson (o : Outcome) : Json :=
  .object [
    ("errormessage", .string o.failure),
    ("rebootrequired", .bool o.restartRequired),
    ("indesiredstate", match o.inDesiredState? with
      | some b => .bool b
      | none => .null)]

end Outcome

end DesiredState
