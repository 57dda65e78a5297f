import DesiredState.Unix.Shell.Builtin
import DesiredState.Unix.Shell.Streams
import DesiredState.Unix.Shell.Syntax

/-!
# What names stand for

The name of a command stands for a part of the language, a function, a command of the
shell, or a program, which is searched for in the directories of a variable.

## Main definitions

* `Runnable`, `Session.runnableAt` — what is run where a path leads.
* `Session.searchProgram` — the path of a program.
* `describeCommand` — what a name stands for, in words.
-/

namespace DesiredState.Shell

/-- The names of the programs that are shells. -/
def shellNames : List String := ["sh", "dash", "bash"]

/-- Arguments without the sign that ends options. -/
def dropOptionEnd : List (List Char) → List (List Char)
  | ['-', '-'] :: rest => rest
  | arguments => arguments

/-- What is run where a path leads. -/
inductive Runnable where
  /-- A program that is there from the start. -/
  | program (name : String)
  | script (text : List Char)

/-- What is run where a path leads. -/
def Session.runnableAt (s : Session) (path : List Char) : Except Fault Runnable := do
  let node := s.files.node (← s.findNode path true)
  let isAllowed := node.mode &&& 0o111 ≠ 0
  match node.content with
  | .program name => if isAllowed then pure (.program name) else throw .permissionDenied
  | .octets text => if isAllowed then pure (.script text) else throw .permissionDenied
  | _ => throw .permissionDenied

/-- The program and its argument that the first line of a script asks for. -/
def interpreterOf? (text : List Char) : Option (List Char × Option (List Char)) :=
  match text with
  | '#' :: '!' :: rest =>
      let isBlank (c : Char) : Bool := c == ' ' || c == '\t'
      let line := (rest.takeWhile (· != '\n')).dropWhile isBlank
      let name := line.takeWhile fun c => !isBlank c
      let argument := (line.drop name.length).dropWhile isBlank
      let argument := (argument.reverse.dropWhile isBlank).reverse
      if name.isEmpty then none else some (name, if argument.isEmpty then none else some argument)
  | _ => none

/-- The paths at which a program of a name may be. -/
def pathsIn (places name : List Char) : List (List Char) :=
  (splitAtChar ':' places).map fun place =>
    if place.isEmpty then name else place ++ '/' :: name

/-- The directories in which programs are searched for. -/
def Session.programPlaces (s : Session) : List Char :=
  (s.valueOf? "PATH".toList).getD "/bin:/usr/bin".toList

/-- The path of a program of a name without slashes, or why there is none. -/
def Session.searchProgram (s : Session) (places name : List Char) : Except Fault (List Char) :=
  let paths := pathsIn places name
  let found (path : List Char) : Bool :=
    match s.find path with
    | .ok content => content.isFile
    | .error _ => false
  match paths.find? fun path => found path && (s.runnableAt path).isOk with
  | some path => .ok path
  | none =>
      match paths.find? found with
      | some path => .ok path
      | none =>
          if paths.any fun path => (s.findNode path true).isOk then .error .permissionDenied
          else .error .notFound

/-- The names of the commands of the shell that run other commands. -/
def runningCommands : List String :=
  ["eval", ".", "exec", "command", "type", "hash"]

/-- Whether a name stands for a command of the shell. -/
def isShellCommand (name : String) : Bool :=
  (builtin? name).isSome || runningCommands.contains name

/-- Says what a name stands for; answers whether it stands for something. -/
def describeCommand (isShort : Bool) (places : List Char) (name : List Char) : Job Bool := do
  let s ← get
  let key := String.ofList name
  let answer (text : List Char) : Job Bool := do
    emit (if isShort then name ++ ['\n'] else name ++ text ++ ['\n'])
    return true
  let found (path words : List Char) : Job Bool := do
    emit (if isShort then path ++ ['\n'] else name ++ words ++ path ++ ['\n'])
    return true
  let missing : Job Bool := do
    if !isShort then emit (name ++ ": not found\n".toList)
    return false
  if reservedWords.contains key then answer " is a shell keyword".toList
  else
    match Entries.get? s.aliases key with
    | some text => do
        if isShort then
          emit "alias ".toList
          emitAlias key text
        else emit (name ++ " is an alias for ".toList ++ text ++ ['\n'])
        return true
    | none =>
        if languageCommands.contains key then answer " is a special shell builtin".toList
        else if (Entries.get? s.functions key).isSome then answer " is a shell function".toList
        else if isShellCommand key then answer " is a shell builtin".toList
        else if name.contains '/' then
          if s.exists name then found name " is ".toList else missing
        else
          match Entries.get? s.remembered key, s.searchProgram places name with
          | some path, _ => found path " is a tracked alias for ".toList
          | none, .ok path => found path " is ".toList
          | none, .error _ => missing

/-- Remembers where programs are, or writes what is remembered. -/
def runHash : Tool := fun arguments =>
  withFlags "r" arguments fun flags names => do
    finishWith 0
    if hasFlag flags 'r' then modify fun s => { s with remembered := [] }
    if names.isEmpty then
      if !hasFlag flags 'r' then
        (inBuckets commandBucketCount (← get).remembered).forM fun (_, path) =>
          emit (path ++ ['\n'])
    else
      names.forM fun name => do
        let s ← get
        let key := String.ofList name
        if !name.contains '/' && !isShellCommand key &&
            (Entries.get? s.functions key).isNone then
          match s.searchProgram s.programPlaces name with
          | .ok path => set { s with remembered := Entries.insert s.remembered key path }
          | .error fault =>
              complainHere (name ++ ": ".toList ++ (faultWordsOr "not found" fault).toList)
              finishWith 1

end DesiredState.Shell
