import DesiredState.Files.Tree

/-!
# Changing trees

Names are put into directories and taken out of them.  A change says where its paths start
and when it happens, and either gives the changed tree or the reason why it is not made.

## Main definitions

* `FileTree.make`, `FileTree.linkName` — new names, for new nodes and for old ones.
* `FileTree.removeFile`, `FileTree.removeDirectory` — names that are taken away.
* `FileTree.rename` — a node that gets another name.
-/

namespace DesiredState

/-- Whether a path ends with a slash. -/
def endsWithSlash (path : String) : Bool := path.toList.getLast? == some '/'

/-- The last component of a path, without the slashes behind it. -/
def lastComponent (path : String) : String :=
  String.ofList ((FileTree.trimmedPath path).reverse.takeWhile (· != '/')).reverse

namespace FileTree

/-- A tree in which a directory was changed. -/
def noteChange (tree : FileTree) (now directory : Nat) : FileTree :=
  tree.change directory fun n => { n with modified := now }

/-- A tree with a new node at a path, and its number. -/
def make (tree : FileTree) (start : Nat) (path : String) (node : FileNode) :
    Except Fault (FileTree × Nat) := do
  let place ← tree.placeFrom start path
  if (tree.atPlace? place).isSome then throw .alreadyExists
  if endsWithSlash path && !node.content.isDirectory then throw .notFound
  let (tree, id) := tree.add place.directory place.name node
  pure (tree.noteChange node.modified place.directory, id)

/-- A tree with one more name for a node that is no directory. -/
def linkName (tree : FileTree) (start now id : Nat) (path : String) : Except Fault FileTree := do
  if tree.isDirectory id then throw .notPermitted
  let place ← tree.placeFrom start path
  if (tree.atPlace? place).isSome then throw .alreadyExists
  if endsWithSlash path then throw .notFound
  pure ((tree.attach place.directory place.name id).noteChange now place.directory)

/-- A tree without a name for a node that is no directory. -/
def removeFile (tree : FileTree) (start now : Nat) (path : String) : Except Fault FileTree := do
  let id ← tree.findFrom start false path
  if tree.isDirectory id then throw .isDirectory
  let place ← tree.placeFrom start path
  pure ((tree.detach place.directory place.name).noteChange now place.directory)

/-- A tree without a directory that is empty. -/
def removeDirectory (tree : FileTree) (start now : Nat) (path : String) :
    Except Fault FileTree := do
  if path.isEmpty then throw .notFound
  match lastComponent path with
  | "" => throw .busy
  | "." => throw .invalid
  | ".." => throw .notEmpty
  | _ =>
      let place ← tree.placeFrom start path
      match tree.atPlace? place with
      | none => throw .notFound
      | some id =>
          match tree.content id with
          | .directory _ [] =>
              pure ((tree.detach place.directory place.name).noteChange now place.directory)
          | .directory _ _ => throw .notEmpty
          | _ => throw .notDirectory

/-- Where a path that is to be renamed leads, which is not in use. -/
def renamePlace (tree : FileTree) (start : Nat) (path : String) : Except Fault Place :=
  if !path.isEmpty && ["", ".", ".."].contains (lastComponent path) then .error .busy
  else tree.placeFrom start path

/-- A tree in which a node has another name; what had that is gone. -/
def rename (tree : FileTree) (start now : Nat) (old new : String) : Except Fault FileTree := do
  let source ← tree.renamePlace start old
  let target ← tree.renamePlace start new
  let some id := tree.atPlace? source | throw .notFound
  let isFolder := tree.isDirectory id
  if !isFolder && (endsWithSlash old || endsWithSlash new) then throw .notDirectory
  if isFolder && tree.isInside id tree.nodes.size target.directory then throw .invalid
  let moved := ((((tree.detach target.directory target.name).detach source.directory
    source.name).attach target.directory target.name id).noteChange now source.directory).noteChange
      now target.directory
  match tree.atPlace? target with
  | none => pure moved
  | some other =>
      if other = id then pure tree
      else if tree.isDirectory other && tree.isInside other tree.nodes.size source.directory then
        throw .notEmpty
      else if isFolder && !tree.isDirectory other then throw .notDirectory
      else if !isFolder && tree.isDirectory other then throw .isDirectory
      else if !(tree.entries other).isEmpty then throw .notEmpty
      else pure moved

end FileTree

end DesiredState
