import DesiredState.Invocation
import DesiredState.Json.Reader
import DesiredState.Text.CodePoints
import DesiredState.Text.Lowercase

/-!
# Reports of a query

The answer to a query is a JSON object of the properties that the resource has,
or null.  It is reshaped to the attributes of the schema: a key is put in lower
case behind the framework's mark, and kept if the schema declares the result.
A resource of which nothing is kept counts as absent.

One member of the answer says whether the query failed.  It is taken out first,
and the last member moves into its place.

## Main definitions

* `Report` — title, presence and properties of a queried resource.
* `Report.record` — a report as one flat record.
* `Report.ofAnswer` — the report that the text of an answer gives.
-/

namespace DesiredState

/-- Whether a queried resource exists. -/
inductive Presence where
  | present
  | absent
  deriving DecidableEq, Repr

/-- The name of a presence. -/
def Presence.name : Presence → String
  | present => "present"
  | absent => "absent"

/-- The state of a queried resource. -/
structure Report where
  title? : Option String
  presence : Presence
  /-- The properties under the names of the schema. -/
  properties : Fields Json

/-- The member of an answer that tells of a failure. -/
def failureKey : String := "errormessage"

/-- What the framework puts in front of the names of properties. -/
def reportPrefix : String := "dsc_"

/-- The title that properties give: the value of the title property if it is a
text. -/
def Properties.title? (properties : Properties) : Option String :=
  match properties.get? titleProperty with
  | some (.string title) => some title
  | _ => none

namespace Report

/-- A report as one flat record: presence, title, and the properties. -/
def record (report : Report) : Fields Json :=
  Fields.ofPairs <|
    (presenceProperty, .string report.presence.name) ::
      ((report.title?.map fun title => (titleProperty, Json.string title)).toList ++
        report.properties.entries)

/-- The members of an answer under the names of the schema; those that it does
not declare are left out. -/
def declaredMembers (schema : Schema) (members : List (String × Json)) : Fields Json :=
  Fields.ofPairs <|
    (members.map fun (key, value) => (reportPrefix ++ lowercase key, value)).filter
      fun (name, _) => (schema.attributes.get? name).isSome

/-- The report on the resource that `identity` names. -/
def ofMembers (schema : Schema) (identity : Properties) (members : List (String × Json)) :
    Report :=
  let properties := declaredMembers schema members
  ⟨identity.title?, if properties.isEmpty then .absent else .present, properties⟩

/-- The report that the text of an answer gives, or the failure it tells of. -/
def ofAnswer (schema : Schema) (identity : Properties) (text : List Char) :
    Except Error Report :=
  match Json.read? text with
  | some .null => .ok (ofMembers schema identity [])
  | some (.object members) =>
      let others := Entries.eraseByLast members failureKey
      match Entries.get? members failureKey with
      | some (.string failure) =>
          if failure.isEmpty then .ok (ofMembers schema identity others)
          else .error (.reported failure)
      | _ => .ok (ofMembers schema identity others)
  | _ => .error .malformedAnswer

end Report

end DesiredState
