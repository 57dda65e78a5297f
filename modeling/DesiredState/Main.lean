import DesiredState.CommandLine.Run
import DesiredState.Unix.Shell.Program

/-!
# The program

Reads the files that the command line names, runs the request on a machine with
these files, and prints what comes of it.
-/

namespace DesiredState

/-- The files that a request reads. -/
def Request.paths : Request → List String
  | query schema _ identity? config => [schema, config] ++ identity?.toList
  | change schema resource config => [schema, config, resource]
  | preview schema resource _ config => [schema, config, resource]

/-- Adds a file to a tree, if there is one at a path. -/
def loadFile (tree : FileTree) (path : String) : IO FileTree := do
  try
    let content ← IO.FS.readBinFile path
    pure (tree.put path (.octets (content.toList.map fun octet => Char.ofNat octet.toNat)))
  catch _ => pure tree

/-- The files that a command line asks for. -/
def loadFiles (arguments : List String) : IO FileTree :=
  match Request.parse arguments with
  | .accepted request => request.paths.foldlM loadFile .usual
  | _ => pure .usual

/-- The directory that the program is in. -/
def programDirectory : IO String := do
  match (← IO.appPath).parent with
  | some directory => pure directory.toString
  | none => pure "."

/-- How many random names there are for the variables of a script. -/
def nameCount : Nat := 1000

end DesiredState

open DesiredState in
/-- Runs the program on its arguments. -/
def main (arguments : List String) : IO UInt32 := do
  let files ← loadFiles arguments
  let seed ← IO.rand 0 (1 <<< 60)
  let names := NameSource.ofList (randomNames nameCount (mkStdGen seed))
  match (runArguments ⟨files, ← programDirectory, names⟩ files.machine arguments).run with
  | .helped =>
      IO.println "usage: (get | set | script) [options]"
      pure 0
  | .misused =>
      IO.eprintln "usage: (get | set | script) [options]"
      pure 2
  | .printed text =>
      IO.print text
      pure 0
  | .failed e =>
      IO.eprintln ("error: " ++ e.message)
      pure 1
