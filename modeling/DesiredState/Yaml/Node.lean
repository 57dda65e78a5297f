import DesiredState.Yaml.Token

/-!
# Nodes of a YAML document

The tokens of a text are put together to nodes: scalars, sequences, mappings,
and aliases of nodes elsewhere in the document.  A text holds at most one
document.

An anchor gives a node a number, which aliases refer to; it is the number of
different names that were given before.  So when a name is given again, a
number may be given twice, and it then stands for the node that starts last.
An alias is resolved only when the whole document is known, and may even refer
to a node that it is part of.

## Main definitions

* `YamlNode` — nodes.
* `YamlDocument` — the root of a document, and what numbers stand for.
* `YamlDocument.read?` — the document of a text.
-/

namespace DesiredState

/-- A node of a document.  Tags are complete, as octets. -/
inductive YamlNode where
  | scalar (tag? : Option (List Char)) (style : ScalarStyle) (text : String)
  | sequence (tag? : Option (List Char)) (items : List YamlNode)
  | mapping (tag? : Option (List Char)) (entries : List (YamlNode × YamlNode))
  | alias (number : Nat)
  deriving Inhabited

/-- A node with nothing written. -/
def YamlNode.empty (tag? : Option (List Char)) : YamlNode := .scalar tag? .plain ""

/-- The tokens that are left, and what was learnt from those before. -/
structure YamlParser where
  tokens : List YamlToken
  /-- What tag handles stand for. -/
  handles : List (List Char × List Char)
  /-- The numbers of anchor names, one for each name. -/
  anchors : List (List Char × Nat)
  /-- Numbers with the places where the nodes start, last first. -/
  starts : List (Nat × Nat)
  /-- Complete nodes by the places where they start. -/
  nodes : List (Nat × YamlNode)
  /-- How many anchors were given. -/
  given : Nat
  /-- How many scalars and aliases, starts and ends of collections there are. -/
  events : Nat

namespace YamlParser

/-- A step of reading; what comes next may make it fail. -/
abbrev Step := StateT YamlParser Option

/-- The next token. -/
def peek? : Step (Option YamlToken) := do return (← get).tokens.head?

/-- Takes the next token. -/
def advance : Step Unit := modify fun s => { s with tokens := s.tokens.drop 1 }

/-- Whether the next token is one of some. -/
def isAt (tokens : List YamlToken) : Step Bool := do
  return (← peek?).any tokens.contains

/-- Takes the next token if it is a given one. -/
def takeIf (token : YamlToken) : Step Bool := do
  if ← isAt [token] then
    advance
    return true
  else return false

/-- Takes the comma in front of a part of a flow collection.  The first part has
none. -/
def takeSeparator (isFirst : Bool) : Step Bool :=
  if isFirst then return true else takeIf .flowEntry

/-- Counts events. -/
def count (n : Nat) : Step Unit := modify fun s => { s with events := s.events + n }

/-- A node with nothing written. -/
def emptyNode : Step YamlNode := do
  count 1
  return .empty none

/-! ## Anchors, aliases and tags -/

/-- The node of the alias of a name; a failure if the name was not given. -/
def aliasNode (name : List Char) : Step YamlNode := do
  match (← get).anchors.find? (·.1 == name) with
  | some (_, number) =>
      count 1
      return .alias number
  | none => failure

/-- Gives a number to a node that starts here, if it has an anchor, and answers
with its place. -/
def openAnchor : Option (List Char) → Step (Option Nat)
  | none => return none
  | some name => do
      let s ← get
      let number := s.anchors.length
      set { s with
        anchors := (name, number) :: s.anchors.filter (·.1 != name)
        starts := (number, s.given) :: s.starts
        given := s.given + 1 }
      return some s.given

/-- Keeps a complete node by its place. -/
def closeAnchor (place? : Option Nat) (node : YamlNode) : Step YamlNode := do
  match place? with
  | some place => modify fun s => { s with nodes := (place, node) :: s.nodes }
  | none => pure ()
  return node

/-- The complete tag of a handle and a suffix; a failure if the handle stands
for nothing. -/
def fullTag (handle suffix : List Char) : Step (List Char) := do
  if handle.isEmpty then return suffix
  match (← get).handles.find? (·.1 == handle) with
  | some (_, meaning) => return meaning ++ suffix
  | none => failure

/-- The anchor at this place, if there is one. -/
def takeAnchor : Step (Option (List Char)) := do
  match ← peek? with
  | some (.anchor name) =>
      advance
      return some name
  | _ => return none

/-- The handle and the suffix of the tag at this place, if there is one. -/
def takeTag : Step (Option (List Char × List Char)) := do
  match ← peek? with
  | some (.tag handle suffix) =>
      advance
      return some (handle, suffix)
  | _ => return none

/-- The anchor and the tag in front of a node, in either order. -/
def takeProperties : Step (Option (List Char) × Option (List Char)) := do
  let anchor? ← takeAnchor
  let tag? ← takeTag
  let anchor? ← if anchor?.isNone && tag?.isSome then takeAnchor else pure anchor?
  let tag? ← match tag? with
    | some (handle, suffix) => some <$> fullTag handle suffix
    | none => pure none
  return (anchor?, tag?)

/-! ## Nodes -/

mutual

/-- The node at this place.  `isBlock` says whether a block may stand here, and
`indentless` whether the entries of a sequence may stand in the column of the
mapping around them. -/
def node (isBlock indentless : Bool) : Nat → Step YamlNode
  | 0 => failure
  | fuel + 1 => do
      match ← peek? with
      | some (.alias name) =>
          advance
          aliasNode name
      | _ =>
          let (anchor?, tag?) ← takeProperties
          let place? ← openAnchor anchor?
          match ← peek? with
          | some (.scalar style text) =>
              advance
              count 1
              closeAnchor place? (.scalar tag? style text)
          | some .flowSequenceStart =>
              advance
              count 2
              closeAnchor place? (.sequence tag? (← flowItems true fuel))
          | some .flowMappingStart =>
              advance
              count 2
              closeAnchor place? (.mapping tag? (← flowEntries true fuel))
          | token? =>
              if indentless && token? == some .blockEntry then
                count 2
                closeAnchor place? (.sequence tag? (← indentlessItems fuel))
              else if isBlock && token? == some .blockSequenceStart then
                advance
                count 2
                closeAnchor place? (.sequence tag? (← blockItems fuel))
              else if isBlock && token? == some .blockMappingStart then
                advance
                count 2
                closeAnchor place? (.mapping tag? (← blockEntries fuel))
              else if anchor?.isSome || tag?.isSome then
                count 1
                closeAnchor place? (.empty tag?)
              else failure

/-- The node at this place, or nothing written in front of one of some tokens. -/
def nodeUnless (ends : List YamlToken) (isBlock indentless : Bool) : Nat → Step YamlNode
  | 0 => failure
  | fuel + 1 => do
      if ← isAt ends then emptyNode else node isBlock indentless fuel

/-- The items of a block sequence. -/
def blockItems : Nat → Step (List YamlNode)
  | 0 => failure
  | fuel + 1 => do
      if ← takeIf .blockEnd then return []
      else if ← takeIf .blockEntry then
        let item ← nodeUnless [.blockEntry, .blockEnd] true false fuel
        return item :: (← blockItems fuel)
      else failure

/-- The items of a block sequence in the column of the mapping around it. -/
def indentlessItems : Nat → Step (List YamlNode)
  | 0 => failure
  | fuel + 1 => do
      if ← takeIf .blockEntry then
        let item ← nodeUnless [.blockEntry, .key, .value, .blockEnd] true false fuel
        return item :: (← indentlessItems fuel)
      else return []

/-- The entries of a block mapping. -/
def blockEntries : Nat → Step (List (YamlNode × YamlNode))
  | 0 => failure
  | fuel + 1 => do
      if ← takeIf .blockEnd then return []
      else if ← takeIf .key then
        let ends := [.key, .value, .blockEnd]
        let key ← nodeUnless ends true true fuel
        let value ←
          if ← takeIf .value then nodeUnless ends true true fuel else emptyNode
        return (key, value) :: (← blockEntries fuel)
      else failure

/-- The items of a flow sequence. -/
def flowItems (isFirst : Bool) : Nat → Step (List YamlNode)
  | 0 => failure
  | fuel + 1 => do
      if ← takeIf .flowSequenceEnd then return []
      else if !(← takeSeparator isFirst) then failure
      else if ← takeIf .flowSequenceEnd then return []
      else if ← takeIf .key then
        let item ← flowPair fuel
        return item :: (← flowItems false fuel)
      else
        let item ← node false false fuel
        return item :: (← flowItems false fuel)

/-- A single entry in a flow sequence, which is a mapping of its own.  Where no
key is written, the token that comes in its place is taken. -/
def flowPair : Nat → Step YamlNode
  | 0 => failure
  | fuel + 1 => do
      count 2
      let ends := [.flowEntry, .flowSequenceEnd]
      let key ←
        if ← isAt (.value :: ends) then
          advance
          emptyNode
        else node false false fuel
      let value ←
        if ← takeIf .value then nodeUnless ends false false fuel else emptyNode
      return .mapping none [(key, value)]

/-- The entries of a flow mapping. -/
def flowEntries (isFirst : Bool) : Nat → Step (List (YamlNode × YamlNode))
  | 0 => failure
  | fuel + 1 => do
      if ← takeIf .flowMappingEnd then return []
      else if !(← takeSeparator isFirst) then failure
      else if ← takeIf .flowMappingEnd then return []
      else
        let ends := [.flowEntry, .flowMappingEnd]
        if ← takeIf .key then
          let key ← nodeUnless (.value :: ends) false false fuel
          let value ←
            if ← takeIf .value then nodeUnless ends false false fuel else emptyNode
          return (key, value) :: (← flowEntries false fuel)
        else
          let key ← node false false fuel
          let value ← emptyNode
          return (key, value) :: (← flowEntries false fuel)

end

/-! ## Documents -/

/-- The handles that stand for something in every document. -/
def defaultHandles : List (List Char × List Char) :=
  [(['!'], ['!']), (['!', '!'], "tag:yaml.org,2002:".toList)]

/-- Reads the directives in front of a document.  The version may be given once,
and so may the meaning of each handle. -/
def directives (hasVersion : Bool) : Nat → Step Unit
  | 0 => failure
  | fuel + 1 => do
      match ← peek? with
      | some (.versionDirective major minor) =>
          if hasVersion || major != 1 || (minor != 1 && minor != 2) then failure
          else
            advance
            directives true fuel
      | some (.tagDirective handle meaning) =>
          if (← get).handles.any (·.1 == handle) then failure
          else
            advance
            modify fun s => { s with handles := s.handles ++ [(handle, meaning)] }
            directives hasVersion fuel
      | _ => return ()

/-- Whether a token is a directive or the mark of the start of a document. -/
def startsDocument : YamlToken → Bool
  | .versionDirective _ _ | .tagDirective _ _ | .documentStart => true
  | _ => false

/-- Whether a token can not be part of the content of a document. -/
def endsContent (token : YamlToken) : Bool :=
  startsDocument token || token == .documentEnd

/-- The root of the document, if there is one. -/
def root (fuel : Nat) : Step (Option YamlNode) := do
  match ← peek? with
  | none => return none
  | some token =>
      if startsDocument token then
        directives false fuel
        if ← takeIf .documentStart then
          modify fun s => { s with handles := s.handles ++ defaultHandles }
          match ← peek? with
          | none => some <$> emptyNode
          | some token =>
              if endsContent token then some <$> emptyNode
              else some <$> node true false fuel
        else failure
      else
        modify fun s => { s with handles := defaultHandles }
        some <$> node true false fuel

/-- Reads the marks of the end of a document; nothing may follow them. -/
def finish : Step Unit := do
  let s ← get
  if s.tokens.all (· == .documentEnd) then return () else failure

end YamlParser

/-- A document: the root, what aliases refer to, and how many events there are. -/
structure YamlDocument where
  /-- The root; none when the text is empty. -/
  root? : Option YamlNode
  /-- The nodes that numbers stand for. -/
  anchored : List (Nat × YamlNode)
  events : Nat

namespace YamlDocument

/-- The node that a number stands for. -/
def node? (document : YamlDocument) (number : Nat) : Option YamlNode :=
  (document.anchored.find? (·.1 == number)).map Prod.snd

/-- The document of a text.  Reading a node takes a token or two steps without
one, so four steps a token suffice. -/
def read? (cs : List Char) : Option YamlDocument := do
  let tokens ← YamlToken.scan? cs
  let fuel := 4 * tokens.length + 8
  let (root?, s) ← (do
    let root? ← YamlParser.root fuel
    YamlParser.finish
    return root? : YamlParser.Step (Option YamlNode)) ⟨tokens, [], [], [], [], 0, 0⟩
  let anchored := s.starts.filterMap fun (number, place) =>
    (s.nodes.find? (·.1 == place)).map fun (_, node) => (number, node)
  some ⟨root?, anchored, s.events⟩

end YamlDocument

end DesiredState
