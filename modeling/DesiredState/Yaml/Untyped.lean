import DesiredState.Text.Utf8
import DesiredState.Yaml.Reader
import DesiredState.Yaml.Scheme

/-!
# Documents without a form in mind

A node is read into the value that it spells.  A local tag, one that starts with
an exclamation mark, stays with the value; four global tags say what kind a
scalar must be, and all others say nothing.

A document is refused when collections are nested too deeply, aliases included,
and when two keys of a mapping have the same content.

## Main definitions

* `Yaml.ofScalar?` — the value of a scalar.
* `Yaml.read?` — the value of a text.
-/

namespace DesiredState

/-- The number of collections that may be nested. -/
def yamlDepth : Nat := 128

/-- The name of a local tag.  A tag that is no text is none. -/
def localTag? (tag? : Option (List Char)) : Option String :=
  match tag? with
  | some ('!' :: rest) => (decodeExact? ('!' :: rest)).map tagName
  | _ => none

/-- The global tag of a name. -/
def globalTag (name : String) : List Char := "tag:yaml.org,2002:".toList ++ name.toList

namespace Yaml

/-- A value behind its local tag, if there is one. -/
def withTag (tag? : Option (List Char)) (value : Yaml) : Yaml :=
  match localTag? tag? with
  | some tag => .tagged tag value
  | none => value

/-- The value of a scalar without regard to its tag. -/
def ofStyled? (style : ScalarStyle) (text : String) : Option Yaml :=
  if style = .plain then ofPlain? text else some (.string text)

/-- The value of a scalar. -/
def ofScalar? (tag? : Option (List Char)) (style : ScalarStyle) (text : String) :
    Option Yaml :=
  match tag? with
  | none => ofStyled? style text
  | some tag =>
      if tag.head? == some '!' then (ofStyled? style text).map (withTag (some tag))
      else if tag == globalTag "bool" then (boolOfText? text).map .bool
      else if tag == globalTag "int" then intOfText? text
      else if tag == globalTag "float" then (floatOfText? text).map .float
      else if tag == globalTag "null" then (if isNullText text then some .null else none)
      else some (.string text)

/-- Whether no two keys have the same content. -/
def keysDiffer : List (Yaml × Yaml) → Bool
  | [] => true
  | (key, _) :: rest => !rest.any (fun other => same key other.1) && keysDiffer rest

/-- The value of a node inside of which `depth` more collections may be
nested. -/
def ofNode (document : YamlDocument) : Nat → YamlNode → YamlDocument.Reading Yaml
  | depth, node => do
      match ← document.follow node with
      | .scalar tag? style text => liftOption (ofScalar? tag? style text)
      | .sequence tag? items =>
          match depth with
          | 0 => failure
          | depth + 1 =>
              return withTag tag? (.sequence (← items.mapM (ofNode document depth)))
      | .mapping tag? entries =>
          match depth with
          | 0 => failure
          | depth + 1 =>
              let entries ← entries.mapM fun (key, value) => do
                return (← ofNode document depth key, ← ofNode document depth value)
              if keysDiffer entries then return withTag tag? (.mapping entries) else failure
      | .alias _ => failure
where
  /-- A result as a reading that follows no alias. -/
  liftOption : Option Yaml → YamlDocument.Reading Yaml
    | some value => return value
    | none => failure

/-- The value of a text; null for an empty one. -/
def read? (cs : List Char) : Option Yaml := do
  let document ← YamlDocument.read? cs
  document.readAll? .null (ofNode document yamlDepth)

end Yaml

end DesiredState
