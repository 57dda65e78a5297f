import DesiredState.Unix.Shell.Builtin.Processes
import DesiredState.Unix.Shell.Builtin.Surroundings
import DesiredState.Unix.Shell.Builtin.Variables
import DesiredState.Unix.Shell.Format

/-!
# Commands of the shell

These commands look at the session or change it, and run no other commands.

## Main definitions

* `builtin?` — the command of the shell that a name stands for.
* `readOptions` — the options of a shell itself.
-/

namespace DesiredState.Shell

/-! ## Output -/

/-- Writes arguments. -/
def runEcho : Tool := fun arguments => do
  emit (echo arguments)
  finishWith 0

/-- Writes arguments as a format says. -/
def runPrintf : Tool := fun arguments =>
  withFlags "" arguments fun _ operands => do
    match operands with
    | [] => refuse "usage: printf format [arg ...]".toList
    | format :: arguments =>
        let (text, complaints, status) := printf format arguments
        complaints.forM complainHere
        emit text
        finishWith status

/-! ## Conditions -/

/-- Ends with whether a condition holds. -/
def runTest : Tool := fun arguments => do
  match Condition.holds (← get) arguments with
  | .ok holds => finishIf holds
  | .error fault => refuse fault.message

/-- Ends with whether a condition holds that ends with a bracket. -/
def runBracket : Tool := fun arguments =>
  if arguments.getLast? = some [']'] then runTest arguments.dropLast
  else refuse "missing ]".toList

/-! ## Options and arguments -/

/-- The letters of options with one of them turned on or off. -/
def turnOption (isOn : Bool) (c : Char) (options : List Char) : List Char :=
  let others := options.filter (· != c)
  if isOn then others ++ [c] else others

/-- The letters of options behind arguments that turn some on or off, and the
arguments that are left, or a complaint.  The letter that `isCommandLine` allows
besides them asks for a script in an argument. -/
def readOptions (isCommandLine : Bool) (options : List Char) :
    List (List Char) → Except (List Char) (List Char × List (List Char) × Bool)
  | ['-'] :: rest => .ok (options, rest, true)
  | ['-', '-'] :: rest => .ok (options, rest, true)
  | (sign :: letters) :: rest =>
      if sign = '-' || sign = '+' then
        let isOn := sign = '-'
        let known (c : Char) : Bool :=
          c.isAlpha && (Entries.values optionNames).contains c ||
            isCommandLine && (c == 'c' || c == 'l')
        match letters.find? fun c => c != 'o' && !known c with
        | some c => .error ("Illegal option -".toList ++ [c])
        | none =>
            let options := (letters.filter (· != 'o')).foldl
              (fun options c => turnOption isOn c options) options
            if letters.contains 'o' then
              match rest with
              | name :: rest =>
                  match Entries.get? optionNames (String.ofList name) with
                  | some c => readOptions isCommandLine (turnOption isOn c options) rest
                  | none => .error ("Illegal option -o ".toList ++ name)
              | [] => .ok (options, [], false)
            else readOptions isCommandLine options rest
      else .ok (options, (sign :: letters) :: rest, false)
  | arguments => .ok (options, arguments, false)

/-- Turns options on or off and sets the arguments, or lists the variables or the
options. -/
def runSet : Tool := fun arguments => do
  let s ← get
  match arguments.map String.ofList with
  | [] => listVariables "" fun v => v.value?.isSome
  | ["-o"] =>
      emit "Current option settings\n".toList
      optionNames.forM fun (name, c) =>
        emit (name.toList ++ List.replicate (16 - name.length) ' ' ++
          (if s.options.contains c then "on\n" else "off\n").toList)
  | ["+o"] =>
      optionNames.forM fun (name, c) =>
        emit ((if s.options.contains c then "set -o " else "set +o ").toList ++ name.toList ++
          ['\n'])
  | _ =>
      match readOptions false s.options arguments with
      | .error complaint => refuse complaint
      | .ok (options, rest, isEnded) =>
          let s := { s with options := options }
          set (if rest.isEmpty && !isEnded then s
            else { s with arguments := rest, optionIndex := 1, optionOffset := 0 })
  finishWith 0

/-- Drops the first arguments. -/
def runShift : Tool := fun arguments => do
  (← countArgument (arguments.headD ['1'])).forM fun n => do
    let s ← get
    if s.arguments.length < n then refuse "can't shift that many".toList
    else
      set { s with arguments := s.arguments.drop n, optionIndex := 1, optionOffset := 0 }
      finishWith 0

/-! ## Endings -/

/-- Ends the script with a status, or with that of the last command. -/
def runExit : Tool := fun arguments => do
  match arguments with
  | [] => do throw (.exited (← get).status)
  | argument :: _ => do (← countArgument argument).forM fun n => throw (.exited n)

/-- Ends the function with a status, or with that of the last command. -/
def runReturn : Tool := fun arguments => do
  match arguments with
  | [] => do throw (.returned (← get).status)
  | argument :: _ => do (← countArgument argument).forM fun n => throw (.returned n)

/-- Ends loops, or the steps of loops that are run. -/
def leaveLoops (ending : Nat → Ending) : Tool := fun arguments => do
  let argument := arguments.headD ['1']
  match ← countArgument argument with
  | none => return ()
  | some 0 => refuse ("Illegal number: ".toList ++ argument)
  | some n => do
      finishWith 0
      let loops := (← get).loops
      if loops ≠ 0 then throw (ending (min n loops))

/-! ## All of them -/

/-- The command of the shell that a name stands for, if it runs no other commands. -/
def builtin? : String → Option Tool
  | ":" | "true" => some fun _ => finishWith 0
  | "false" => some fun _ => finishWith 1
  | "echo" => some runEcho
  | "printf" => some runPrintf
  | "test" => some runTest
  | "[" => some runBracket
  | "export" => some runExport
  | "readonly" => some runReadonly
  | "unset" => some runUnset
  | "local" => some runLocal
  | "read" => some runRead
  | "getopts" => some runGetopts
  | "alias" => some runAlias
  | "unalias" => some runUnalias
  | "set" => some runSet
  | "shift" => some runShift
  | "exit" => some runExit
  | "return" => some runReturn
  | "break" => some (leaveLoops .broken)
  | "continue" => some (leaveLoops .continued)
  | "cd" | "chdir" => some runCd
  | "pwd" => some runPwd
  | "trap" => some runTrap
  | "jobs" => some runJobs
  | "wait" => some runWait
  | "fg" | "bg" => some runForeground
  | "kill" => some runKill
  | "umask" => some runUmask
  | "ulimit" => some runUlimit
  | "times" => some runTimes
  | _ => none

end DesiredState.Shell
