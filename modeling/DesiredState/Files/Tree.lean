import DesiredState.Error
import DesiredState.Fields
import DesiredState.Text.Split
import DesiredState.Text.Utf8

/-!
# File trees

The files that the program can see are numbered nodes.  A directory has names for
the numbers of other nodes, and knows the directory around it; two names for one
number are two names of the same file.  The node with the number zero is the first
directory, from which absolute paths start.

A path is followed one component at a time, so a path through a missing
component leads nowhere, even where a later component would lead back.  A link is
followed by putting the components of its target in its place.

## Main definitions

* `FileNode`, `FileTree` — files, directories, links and devices.
* `FileTree.walk`, `FileTree.find` — what a path leads to, or why it leads nowhere.
* `FileTree.place` — where a path puts something.
* `FileTree.put` — a tree with one more file or directory.
* `FileTree.readText` — the text of a file.
-/

namespace DesiredState

/-- A file that is no sequence of octets. -/
inductive Device where
  /-- It is empty, and takes everything. -/
  | null
  /-- It has no end of octets that are zero. -/
  | zero
  /-- It has no room. -/
  | full
  | random
  | terminal
  /-- One of the open streams of who looks at it. -/
  | stream (number : Nat)
  deriving DecidableEq, Repr, Inhabited

/-- What a node of a file tree holds. -/
inductive FileContent where
  | octets (text : List Char)
  /-- A directory with the number of the directory around it. -/
  | directory (outer : Nat) (entries : List (String × Nat))
  | link (target : String)
  | device (d : Device)
  /-- What was written and not yet read. -/
  | queue (text : List Char)
  /-- A program that is there from the start. -/
  | program (name : String)
  deriving Inhabited

/-- A node of a file tree. -/
structure FileNode where
  content : FileContent
  /-- Who may read, write and run it in nine bits, and three more bits in front. -/
  mode : Nat
  /-- When it was changed, in millionths of a second. -/
  modified : Nat
  deriving Inhabited

/-- The files that the program can see. -/
structure FileTree where
  nodes : Array FileNode
  /-- The number of the directory that relative paths start from. -/
  working : Nat

/-- Whether a path starts at the first directory. -/
def isAbsolute (path : String) : Bool := path.toList.head? == some '/'

/-- How many octets a name in a directory may have at most. -/
def maxNameLength : Nat := 255

/-- How many octets a path may have at most. -/
def maxPathLength : Nat := 4095

/-- How many links are followed at most. -/
def maxLinks : Nat := 40

/-- The components of a path, empty ones included. -/
def pathComponents (path : String) : List String :=
  (splitAtChar '/' path.toList).map String.ofList

/-- The octets of a program, which are no text. -/
def programOctets (name : String) : List Char :=
  "\x7fELF\x02\x01\x01".toList ++ [Char.ofNat 0xff, '\x00'] ++ octetsOf name.toList

namespace FileContent

/-- Whether a node holds names. -/
def isDirectory : FileContent → Bool
  | directory _ _ => true
  | _ => false

/-- Whether a node leads somewhere else. -/
def isLink : FileContent → Bool
  | link _ => true
  | _ => false

/-- Whether a node is a sequence of octets. -/
def isFile : FileContent → Bool
  | octets _ | program _ => true
  | _ => false

/-- How a new node of a kind may be used by whom. -/
def defaultMode : FileContent → Nat
  | directory _ _ | program _ => 0o755
  | link _ => 0o777
  | device _ => 0o666
  | octets _ | queue _ => 0o644

end FileContent

namespace FileTree

/-! ## Nodes -/

/-- The node of a number. -/
def node (tree : FileTree) (id : Nat) : FileNode := tree.nodes.getD id default

/-- What a node holds. -/
def content (tree : FileTree) (id : Nat) : FileContent := (tree.node id).content

/-- A tree with a changed node. -/
def change (tree : FileTree) (id : Nat) (f : FileNode → FileNode) : FileTree :=
  { tree with nodes := tree.nodes.modify id f }

/-- The names in a directory. -/
def entries (tree : FileTree) (id : Nat) : List (String × Nat) :=
  match tree.content id with
  | .directory _ entries => entries
  | _ => []

/-- Whether a node is a directory. -/
def isDirectory (tree : FileTree) (id : Nat) : Bool := (tree.content id).isDirectory

/-- A tree with other names in a directory. -/
def withEntries (tree : FileTree) (id : Nat)
    (f : List (String × Nat) → List (String × Nat)) : FileTree :=
  tree.change id fun n =>
    match n.content with
    | .directory outer entries => { n with content := .directory outer (f entries) }
    | _ => n

/-- A tree with a name for a node in a directory. -/
def attach (tree : FileTree) (directory : Nat) (name : String) (id : Nat) : FileTree :=
  let tree := tree.withEntries directory fun entries => Entries.insert entries name id
  tree.change id fun n =>
    match n.content with
    | .directory _ entries => { n with content := .directory directory entries }
    | _ => n

/-- A tree without a name in a directory. -/
def detach (tree : FileTree) (directory : Nat) (name : String) : FileTree :=
  tree.withEntries directory fun entries => Entries.erase entries name

/-- A tree with a new node in a directory, and its number. -/
def add (tree : FileTree) (directory : Nat) (name : String) (node : FileNode) :
    FileTree × Nat :=
  let id := tree.nodes.size
  (({ tree with nodes := tree.nodes.push node } : FileTree).attach directory name id, id)

/-! ## Paths -/

/-- Follows components from a directory; `links` more links may be followed, and the
last component too if it is one and `last` holds. -/
def walk (tree : FileTree) (last : Bool) (links : Nat) (names : List String) (id : Nat) :
    Except Fault Nat :=
  match names with
  | [] => .ok id
  | name :: rest =>
      match tree.content id with
      | .directory outer entries =>
          if name = "" || name = "." then tree.walk last links rest id
          else if name = ".." then tree.walk last links rest outer
          else if maxNameLength < name.utf8ByteSize then .error .nameTooLong
          else
            match Entries.get? entries name with
            | none => .error .notFound
            | some child =>
                match tree.content child with
                | .link target =>
                    if rest.isEmpty && !last then .ok child
                    else
                      match links with
                      | 0 => .error .tooManyLinks
                      | links + 1 =>
                          tree.walk last links (pathComponents target ++ rest)
                            (if isAbsolute target then 0 else id)
                | _ => tree.walk last links rest child
      | _ => .error .notDirectory
termination_by (links, names.length)

/-- What a path leads to from a directory, with a link at its end followed or not. -/
def findFrom (tree : FileTree) (start : Nat) (last : Bool) (path : String) : Except Fault Nat :=
  if path.toList.contains '\x00' then .error .nulInPath
  else if path.isEmpty then .error .notFound
  else if maxPathLength < path.utf8ByteSize then .error .nameTooLong
  else tree.walk last maxLinks (pathComponents path) (if isAbsolute path then 0 else start)

/-- What a path leads to. -/
def find (tree : FileTree) (path : String) : Except Fault Nat :=
  tree.findFrom tree.working true path

/-- A path without slashes at its end. -/
def trimmedPath (path : String) : List Char :=
  (path.toList.reverse.dropWhile (· == '/')).reverse

/-- Where something is put: a directory and a name in it. -/
structure Place where
  directory : Nat
  name : String

/-- Where a path from a directory puts something. -/
def placeFrom (tree : FileTree) (start : Nat) (path : String) : Except Fault Place := do
  let trimmed := trimmedPath path
  let name := String.ofList (trimmed.reverse.takeWhile (· != '/')).reverse
  let outer := String.ofList (trimmed.take (trimmed.length - name.length))
  if path.isEmpty then throw .notFound
  else if name = "" || name = "." || name = ".." then throw .alreadyExists
  else
    let directory ← if outer.isEmpty then pure start else tree.findFrom start true outer
    if maxNameLength < name.utf8ByteSize || maxPathLength < path.utf8ByteSize then
      throw .nameTooLong
    else if tree.isDirectory directory then pure ⟨directory, name⟩
    else throw .notDirectory

/-- The node at a place. -/
def atPlace? (tree : FileTree) (place : Place) : Option Nat :=
  Entries.get? (tree.entries place.directory) place.name

/-- The path of a directory from the first one. -/
def pathOf (tree : FileTree) (id : Nat) : String :=
  let rec climb : Nat → Nat → List String → List String
    | 0, _, names => names
    | fuel + 1, id, names =>
        match tree.content id with
        | .directory outer _ =>
            if outer = id then names
            else
              match (tree.entries outer).find? (·.2 == id) with
              | some (name, _) => climb fuel outer (name :: names)
              | none => names
        | _ => names
  "/" ++ "/".intercalate (climb tree.nodes.size id [])

/-- Whether a directory is another one, or is inside of that. -/
def isInside (tree : FileTree) (outer : Nat) : Nat → Nat → Bool
  | 0, _ => false
  | fuel + 1, id =>
      id = outer ||
        match tree.content id with
        | .directory around _ => around != id && tree.isInside outer fuel around
        | _ => false

/-! ## Making trees -/

/-- When the files that are there from the start were changed, in millionths of a second. -/
def firstChange : Nat := 1750000000 * 1000000

/-- A node as it is at first. -/
def freshNode (content : FileContent) : FileNode := ⟨content, content.defaultMode, firstChange⟩

/-- A tree with a node at the end of names from a directory, and with the directories
on the way to it. -/
def putAt (tree : FileTree) (content : FileContent) : List String → Nat → FileTree
  | [], _ => tree
  | [name], id =>
      match Entries.get? (tree.entries id) name with
      | some child =>
          if content.isDirectory && tree.isDirectory child then tree
          else tree.change child fun n => { n with content := content }
      | none => (tree.add id name (freshNode content)).1
  | name :: rest, id =>
      match Entries.get? (tree.entries id) name with
      | some child => tree.putAt content rest child
      | none =>
          let (tree, child) := tree.add id name (freshNode (.directory id []))
          tree.putAt content rest child

/-- A tree with one more file or directory at a path. -/
def put (tree : FileTree) (path : String) (content : FileContent) : FileTree :=
  let names := (pathComponents path).filter fun name => name != "" && name != "."
  tree.putAt content names (if isAbsolute path then 0 else tree.working)

/-! ## Reading -/

/-- Whether a path leads to something. -/
def contains (tree : FileTree) (path : String) : Bool := (tree.find path).isOk

/-- The octets of a node. -/
def readNode (tree : FileTree) (id : Nat) : Except Fault (List Char) :=
  match tree.content id with
  | .octets text | .queue text => .ok text
  | .program name => .ok (programOctets name)
  | .directory _ _ => .error .isDirectory
  | .device .terminal => .error .noDevice
  | .device _ | .link _ => .ok []

/-- The octets of a file. -/
def readOctets (tree : FileTree) (path : String) : Except Fault (List Char) := do
  tree.readNode (← tree.find path)

/-- The text of a file. -/
def readText (tree : FileTree) (path : String) : Except Fault String := do
  match decodeExact? (← tree.readOctets path) with
  | some text => pure text
  | none => throw .notText

end FileTree

end DesiredState
