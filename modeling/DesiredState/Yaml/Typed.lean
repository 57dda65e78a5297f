import DesiredState.Yaml.Reader
import DesiredState.Yaml.Scheme
import DesiredState.Yaml.Untyped

/-!
# Documents with a form in mind

Where a reader knows what it wants, a scalar is taken for that, if it can be.
Any scalar is a text, exactly as it is written.  A record is a mapping, and what
is left empty counts as a mapping without entries; other keys than those of the
record do not matter, but a key of the record may occur once only.

## Main definitions

* `YamlDocument.text`, `truth`, `optional`, `items`, `entries` — readers.
* `YamlDocument.choice` — a word of a given list.
* `YamlDocument.record` — the nodes under the keys of a record.
-/

namespace DesiredState

namespace YamlDocument

variable (document : YamlDocument)

/-- A scalar as a text. -/
def text (node : YamlNode) : Reading String := do
  match ← document.follow node with
  | .scalar _ _ text => return text
  | _ => failure

/-- A scalar as a truth value. -/
def truth (node : YamlNode) : Reading Bool := do
  match ← document.follow node with
  | .scalar tag? style text =>
      if style = .plain || (style = .literal && tag? == some (globalTag "bool")) then
        match boolOfText? text with
        | some b => return b
        | none => failure
      else failure
  | _ => failure

/-- Whether a scalar is nothing; a failure if its tag says so and its text does
not. -/
def isNothing? (tag? : Option (List Char)) (style : ScalarStyle) (text : String) :
    Option Bool :=
  if style != .plain then some false
  else
    match tag? with
    | none => some (text.isEmpty || isNullText text)
    | some tag =>
        if tag == globalTag "null" then (if isNullText text then some true else none)
        else some false

/-- What a reader makes of a node, unless that is null. -/
def optional {α : Type} (read : YamlNode → Reading α) (node : YamlNode) :
    Reading (Option α) := do
  let node ← document.follow node
  match node with
  | .scalar tag? style text =>
      match isNothing? tag? style text with
      | none => failure
      | some true => return none
      | some false => some <$> read node
  | _ => some <$> read node

/-- Whether a scalar is left empty. -/
def isLeftEmpty (style : ScalarStyle) (text : String) : Bool :=
  style == .plain && text.isEmpty

/-- The items of a sequence. -/
def items (node : YamlNode) : Reading (List YamlNode) := do
  match ← document.follow node with
  | .sequence _ items => return items
  | .scalar _ style text => if isLeftEmpty style text then return [] else failure
  | _ => failure

/-- The entries of a mapping with texts as keys. -/
def entries (node : YamlNode) : Reading (List (String × YamlNode)) := do
  match ← document.follow node with
  | .mapping _ entries =>
      entries.mapM fun (key, value) => do return (← document.text key, value)
  | .scalar _ style text => if isLeftEmpty style text then return [] else failure
  | _ => failure

/-- The word that a scalar gives: its text, or its local tag if nothing stands
behind that. -/
def wordOf? (tag? : Option (List Char)) (style : ScalarStyle) (text : String) :
    Option String :=
  match localTag? tag? with
  | some tag => if style = .plain && (text.isEmpty || isNullText text) then some tag else none
  | none => some text

/-- The word of a list that a scalar is; it may be given as a local tag behind
which nothing stands. -/
def choice {α : Type} (ofWord? : String → Option α) (node : YamlNode) : Reading α := do
  match ← document.follow node with
  | .scalar tag? style text =>
      match (wordOf? tag? style text).bind ofWord? with
      | some a => return a
      | none => failure
  | _ => failure

/-- The node under each of the keys of a record. -/
def record (keys : List String) (node : YamlNode) : Reading (String → Option YamlNode) := do
  let entries ← document.entries node
  let known := entries.filter fun entry => keys.contains entry.1
  if keys.all fun key => (known.map Prod.fst).count key ≤ 1 then
    return fun key => (known.find? (·.1 == key)).map Prod.snd
  else failure

/-- What a reader makes of a field of a record that must be there. -/
def required {α : Type} (read : YamlNode → Reading α) : Option YamlNode → Reading α
  | some node => read node
  | none => failure

/-- What a reader makes of a field of a record, or a value if it is missing. -/
def withDefault {α : Type} (default : α) (read : YamlNode → Reading α) :
    Option YamlNode → Reading α
  | some node => read node
  | none => return default

end YamlDocument

end DesiredState
