import DesiredState.Process
import DesiredState.Unix.Shell.Run

/-!
# A machine with shells

The usual programs of a Unix system, on a tree of files: shells, and others beside them.  A
program that is named by a path must be at that path.  What scripts write to the files is
gone with the process.

This is one machine among others.  Nothing of what is known about scripts, answers and
requests depends on it.

## Main definitions

* `FileTree.machine` — the machine with the usual programs on a tree of files.
-/

namespace DesiredState

namespace Shell

/-- How many steps a script may take at most. -/
def maxSteps : Nat := 100000

/-- How many octets a process is given at most before it has read some. -/
def pipeCapacity : Nat := 65536

/-- What is left of the input of a session. -/
def Session.inputLeft (s : Session) : List Char :=
  match s.channels.find? (·.1 == 0) with
  | some (_, .text rest _) => rest
  | _ => []

/-- What comes of a process that was run; one that was killed has no status of its own.  Input
that was not read and did not fit in front of it is a failure. -/
def endOfRun (result : Except Ending Unit) (s : Session) : ProcessEnd :=
  let status? : Option Int := match result with
    | .ok _ => some s.status
    | .error _ => none
  if pipeCapacity < s.inputLeft.length then .broken .brokenPipe
  else .ended status? (textOfChunks s.output) (textOfChunks s.complaints)

/-- How many octets an argument of a program may have at most. -/
def maxArgumentLength : Nat := 131071

end Shell

/-- The machine with the usual programs on a tree of files. -/
def FileTree.machine (files : FileTree) : Machine Id := fun program arguments input =>
  let name := octetsOf program.toList
  let texts := arguments.map fun a => octetsOf a.toList
  if (program :: arguments).any fun text => text.toList.contains '\x00' then
    .notStarted .nulInCommand
  else if name.isEmpty then .notStarted .notFound
  else if !name.contains '/' && maxNameLength < name.length then .notStarted .nameTooLong
  else if texts.any fun text => Shell.maxArgumentLength < text.length then
    .notStarted .argumentTooLong
  else
    let job : Shell.Job (Option Fault) := Shell.runProgram Shell.maxSteps name texts
    match job (Shell.Session.start files name input) with
    | (.ok (some fault), _) => .notStarted fault
    | (.ok none, s) => Shell.endOfRun (.ok ()) s
    | (.error ending, s) => Shell.endOfRun (.error ending) s

end DesiredState
