import DesiredState.Document.Config
import DesiredState.Document.Schema
import DesiredState.Document.State
import DesiredState.Files.Tree

/-!
# Documents in files

Schemas, desired states and configurations are read from files.  A configuration
that is not there configures nothing.

## Main definitions

* `FileTree.readSchema`, `FileTree.readProperties`, `FileTree.readConfig`.
-/

namespace DesiredState

namespace FileTree

/-- The text of the file of a document. -/
def readDocument (tree : FileTree) (path : String) : Except Error String :=
  match tree.readText path with
  | .ok text => .ok text
  | .error fault => .error (.unreadable path fault)

/-- The schema in a file. -/
def readSchema (tree : FileTree) (path : String) : Except Error Schema := do
  Schema.read (← tree.readDocument path)

/-- The properties in a file. -/
def readProperties (tree : FileTree) (path : String) : Except Error Properties := do
  Properties.read (← tree.readDocument path)

/-- The configuration in a file, if there is one. -/
def readConfig (tree : FileTree) (path : String) : Except Error Config := do
  if tree.contains path then Config.read (← tree.readDocument path) else pure {}

end FileTree

end DesiredState
