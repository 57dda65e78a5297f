import DesiredState.Unix.Files.Mode
import DesiredState.Unix.Time.Calendar
import DesiredState.Unix.Tools.Inputs

/-!
# Facts about files

What can be said about a node of the files: its kind, its size, how many names it has, who
may use it, and when it was changed.  All files belong to one user.

## Main definitions

* `FileFacts`, `factsOf` — the facts about a node.
* `momentOf` — a time as a moment.
-/

namespace DesiredState.Tools

open Shell

/-- The facts about a node. -/
structure FileFacts where
  id : Nat
  content : FileContent
  mode : Nat
  /-- How many names it has. -/
  names : Nat
  size : Nat
  /-- When it was changed, in millionths of a second. -/
  modified : Nat

/-- How many names a node has. -/
def nameCount (tree : FileTree) (id : Nat) : Nat :=
  match tree.content id with
  | .directory _ entries => 2 + entries.countP fun e => tree.isDirectory e.2
  | _ =>
      (tree.nodes.toList.map fun n =>
        match n.content with
        | .directory _ entries => entries.countP fun e => e.2 == id
        | _ => 0).foldl (· + ·) 0

/-- The size of what a node holds. -/
def contentSize : FileContent → Nat
  | .octets text => text.length
  | .program name => (programOctets name).length
  | .directory _ _ => 4096
  | .link target => target.utf8ByteSize
  | .device _ | .queue _ => 0

/-- The facts about a node. -/
def factsOf (s : Session) (id : Nat) : FileFacts :=
  let node := s.files.node id
  ⟨id, node.content, node.mode, nameCount s.files id, contentSize node.content, node.modified⟩

namespace FileFacts

/-- The letter of the kind of a node. -/
def letter (f : FileFacts) : Char :=
  match f.content with
  | .directory _ _ => 'd'
  | .link _ => 'l'
  | .device _ => 'c'
  | .queue _ => 'p'
  | _ => '-'

/-- The name of the kind of a node. -/
def kindName (f : FileFacts) : String :=
  match f.content with
  | .directory _ _ => "directory"
  | .link _ => "symbolic link"
  | .device _ => "character special file"
  | .queue _ => "fifo"
  | _ => if f.size = 0 then "regular empty file" else "regular file"

/-- The bits of the kind of a node. -/
def kindBits (f : FileFacts) : Nat :=
  match f.content with
  | .directory _ _ => 0o040000
  | .link _ => 0o120000
  | .device _ => 0o020000
  | .queue _ => 0o010000
  | _ => 0o100000

/-- The kind and the mode in ten letters. -/
def modeText (f : FileFacts) : List Char := f.letter :: writeMode f.mode

/-- The numbers of a device. -/
def deviceNumbers (f : FileFacts) : Nat × Nat :=
  match f.content with
  | .device .null => (1, 3)
  | .device .zero => (1, 5)
  | .device .full => (1, 7)
  | .device .random => (1, 9)
  | .device .terminal => (5, 0)
  | .device (.stream _) => (136, 0)
  | _ => (0, 0)

/-- How much room a node takes, in units of 1024 octets. -/
def room (f : FileFacts) : Nat :=
  match f.content with
  | .octets _ | .program _ | .directory _ _ => (f.size + 4095) / 4096 * 4
  | _ => 0

/-- The number of a node. -/
def inode (f : FileFacts) : Nat := 262144 + f.id

end FileFacts

/-- A time in millionths of a second as a moment. -/
def momentOf (time : Nat) : Moment := ⟨(time / 1000000 : Nat), time % 1000000 * 1000, 0⟩

end DesiredState.Tools
