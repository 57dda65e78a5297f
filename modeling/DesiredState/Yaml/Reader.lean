import DesiredState.Yaml.Node

/-!
# Reading nodes into values

A node can be read into a value in two ways: without a form in mind, where the
style and the tag of a scalar decide what it is, or with one, where the reader
asks for a text, a truth value or a mapping.  Both follow aliases.

A document may make aliases stand for ever more content, so both count how
often an alias is followed; the count is limited by the size of the document.

## Main definitions

* `YamlDocument.Reading` — a reading that counts the aliases followed.
* `YamlDocument.follow` — the node that a node stands for.
* `YamlDocument.readAll?` — the result of reading the root.
-/

namespace DesiredState

namespace YamlDocument

/-- How often aliases may be followed for each event of a document. -/
def followLimit : Nat := 100

/-- A reading of nodes; the state counts the aliases followed. -/
abbrev Reading := StateT Nat Option

/-- The node that a node stands for. -/
def follow (document : YamlDocument) (node : YamlNode) : Reading YamlNode := do
  match node with
  | .alias number =>
      modify (· + 1)
      if (← get) > document.events * followLimit then failure
      else
        match document.node? number with
        | some node => return node
        | none => failure
  | node => return node

/-- The result of reading the root of a document; `whenEmpty` is the result for
an empty text. -/
def readAll? {α : Type} (document : YamlDocument) (whenEmpty : α)
    (read : YamlNode → Reading α) : Option α :=
  match document.root? with
  | none => some whenEmpty
  | some root => (read root 0).map Prod.fst

end YamlDocument

end DesiredState
