import DesiredState.Error
import DesiredState.Script.Expr
import DesiredState.Yaml.Untyped

/-!
# Desired-state documents

The values of a desired state are made from the values of a document.  Most
correspond one to one.  A tag marks a text or a number as a secret, and a
mapping with a class key is an instance of that class; other tags, and keys
that are not texts, are not supported.

## Main definitions

* `Value.ofYaml` — the desired-state value of a document value.
* `Properties.ofYaml`, `Properties.read` — the properties of a whole document, and
  of its text.
-/

namespace DesiredState

/-- The tag of a secret. -/
def secretTag : String := "Sensitive"

/-- The greatest integer that stays an integer: the greatest one of 64 bits with a sign. -/
def maxInt : Int := 9223372036854775807

/-- A failure because a value of some kind is not supported. -/
def unsupported {α : Type} (kind : String) (value : List Char) : Except Error α :=
  .error (.unsupportedValue kind (String.ofList value))

namespace Value

/-- The value of a mapping whose entries were converted: an instance if there
is a class key, and a map otherwise. -/
def ofEntries (entries : List (String × Value)) : Except Error Value :=
  match Entries.get? entries classKey with
  | none => .ok (.map entries)
  | some (.string className) => .ok (.instanceOf className (Entries.erase entries classKey))
  | some other => unsupported classKey other.describe

/-- The secret that a value behind the tag of secrets gives. -/
def secretOfYaml : Yaml → Except Error Value
  | .string s => .ok (.secret s)
  | value =>
      match value.writeNumber? with
      | some text => .ok (.secret (String.ofList text))
      | none => unsupported "!Sensitive" "non-scalar sensitive value".toList

mutual

/-- The desired-state value of a document value. -/
def ofYaml : Yaml → Except Error Value
  | .null => .ok .null
  | .bool b => .ok (.bool b)
  | .int i => .ok (if i ≤ maxInt then .int i else .float (.ofInt i))
  | .float x => .ok (.float x)
  | .string s => .ok (.string s)
  | .sequence items => do pure (.array (← itemsOfYaml items))
  | .mapping entries => do ofEntries (Entries.ofPairs (← entriesOfYaml entries))
  | .tagged tag value =>
      if tagName tag == secretTag then secretOfYaml value
      else unsupported (writeTag tag) value.describe

/-- The values of the items of a sequence. -/
def itemsOfYaml : List Yaml → Except Error (List Value)
  | [] => .ok []
  | item :: rest => do
      let first ← ofYaml item
      let others ← itemsOfYaml rest
      pure (first :: others)

/-- The entries of a mapping.  Each key is looked at before its value. -/
def entriesOfYaml : List (Yaml × Yaml) → Except Error (List (String × Value))
  | [] => .ok []
  | (.string key, value) :: rest => do
      let first ← ofYaml value
      let others ← entriesOfYaml rest
      pure ((key, first) :: others)
  | (key, _) :: _ => unsupported "mapping key" key.describe

end

end Value

/-- The properties of a whole document: those of a mapping, and none when there
is nothing. -/
def Properties.ofYaml (document : Yaml) : Except Error Properties :=
  match document with
  | .null => .ok .empty
  | .mapping _ => do
      match ← Value.ofYaml document with
      | .map entries => pure (Fields.ofPairs entries)
      | value => unsupported "document" value.describe
  | value => unsupported "document" value.describe

/-- The properties of a text. -/
def Properties.read (text : String) : Except Error Properties :=
  match Yaml.read? text.toList with
  | some document => Properties.ofYaml document
  | none => .error (.malformedDocument .desiredState)

end DesiredState
