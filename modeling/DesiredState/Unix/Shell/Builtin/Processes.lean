import DesiredState.Unix.Shell.Builtin.Flags

/-!
# Commands on other processes

The commands of the shell that wait for commands which were not waited for, list them, and
send signals.

## Main definitions

* `runJobs`, `runWait`, `runForeground` — commands that were not waited for.
* `runKill` — signals.
-/

namespace DesiredState.Shell

/-! ## Jobs -/

/-- The jobs whose end was not told, the last one first. -/
def Session.openJobs (s : Session) : List BackgroundJob := s.jobs.filter fun j => !j.isTold

/-- Changes a job. -/
def changeJob (number : Nat) (f : BackgroundJob → BackgroundJob) : Job Unit := modify fun s =>
  { s with jobs := s.jobs.map fun j => if j.number = number && !j.isTold then f j else j }

/-- The number for a new job. -/
def Session.freshJobNumber (s : Session) : Nat :=
  let used := (s.jobs.filter fun j => !j.isWaited && !j.isTold).map BackgroundJob.number
  ((List.range (used.length + 1)).map (· + 1)).find? (fun n => !used.contains n) |>.getD 1

/-- The job that a text names, or the complaint. -/
def Session.jobOf (s : Session) (text : List Char) : Except (List Char) BackgroundJob :=
  let missing : List Char := "No such job: ".toList ++ text
  let orElse (job? : Option BackgroundJob) (complaint : List Char) :
      Except (List Char) BackgroundJob :=
    match job? with
    | some job => .ok job
    | none => .error complaint
  match text with
  | [] | ['%'] | ['%', '+'] | ['%', '%'] => orElse s.openJobs.head? "No current job".toList
  | ['%', '-'] => orElse (s.openJobs[1]?) "No previous job".toList
  | '%' :: digits =>
      match digitsValue? 10 digits with
      | some n => orElse (s.openJobs.find? (·.number == n)) missing
      | none => .error missing
  | _ => .error missing

/-- The words for how a job is doing. -/
def BackgroundJob.state (j : BackgroundJob) (time : Nat) : List Char :=
  if time < j.ended then "Running".toList
  else
    match j.endedBy? with
    | some n => ((signal? n).map fun s => s.text.toList).getD []
    | none =>
        if j.status = 0 then "Done".toList else "Done(".toList ++ writeNat j.status ++ [')']

/-- Lists the jobs; those that ended are told of once. -/
def runJobs : Tool := fun arguments =>
  withFlags "lp" arguments fun flags operands => do
    let s ← get
    let all := s.openJobs
    let rec choose : List (List Char) → Job (Option (List BackgroundJob))
      | [] => return some []
      | text :: rest => do
          match s.jobOf text with
          | .error complaint =>
              refuse complaint
              return none
          | .ok job => return (← choose rest).map (job :: ·)
    let chosen? ← if operands.isEmpty then pure (some all) else choose operands
    chosen?.forM fun chosen => do
      chosen.forM fun j => do
        if hasFlag flags 'p' then emit (writeNat j.process ++ ['\n'])
        else
          let mark := if all.head?.any (·.number == j.number) then '+'
            else if all[1]?.any (·.number == j.number) then '-' else ' '
          let front := '[' :: writeNat j.number ++ "] ".toList ++ [mark, ' '] ++
            (if hasFlag flags 'l' then writeNat j.process ++ [' '] else [])
          let text := front ++ j.state s.clock
          emit (text ++ List.replicate (33 - text.length) ' ' ++ ['\n'])
        if j.ended ≤ s.clock then changeJob j.number fun j => { j with isTold := true }
      finishWith 0

/-- Lets time pass up to a moment, or up to a signal before that, which is the answer. -/
def sleepUntil (time : Nat) : Job (Option Nat) := do
  let s ← get
  let early := s.pending.filter fun p => p.process == s.process && p.time ≤ time && s.clock < p.time
  match early.head? with
  | some p => do
      spend (p.time - s.clock)
      return some p.number
  | none => do
      spend (time - s.clock)
      return none

/-- Waits for a job, tells of a signal that ended it, and answers its status. -/
def waitForJob (j : BackgroundJob) : Job Nat := do
  match ← sleepUntil (max j.ended (← get).clock) with
  | some n => return 128 + n
  | none => do
      if !j.isWaited then
        j.endedBy?.forM fun n => do
          let text := ((signal? n).map Signal.text).getD ""
          if !text.isEmpty then complain text.toList
      changeJob j.number fun j => { j with isWaited := true }
      return j.status

/-- Waits for all jobs, or for those that are named. -/
def runWait : Tool := fun arguments =>
  withFlags "" arguments fun _ operands => do
    match operands with
    | [] =>
        let s ← get
        let last := (s.jobs.map BackgroundJob.ended).foldl max s.clock
        match ← sleepUntil last with
        | some n => finishWith (128 + n)
        | none =>
            modify fun s => { s with jobs := s.jobs.map fun j => { j with isWaited := true } }
            finishWith 0
    | operands => operands.forM fun text => do
        if text.head? = some '%' then
          match (← get).jobOf text with
          | .ok job => finishWith (← waitForJob job)
          | .error complaint => refuse complaint
        else
          (← countArgument text).forM fun n => do
            match (← get).jobs.find? (·.process == n) with
            | some job => finishWith (← waitForJob job)
            | none => finishWith 127

/-- Would let a job go on; there is none that can. -/
def runForeground : Tool := fun arguments =>
  withFlags "" arguments fun _ operands => do
    match (← get).jobOf (operands.headD []) with
    | .error complaint => refuse complaint
    | .ok _ =>
        let name := if operands.isEmpty then "(null)".toList else operands.headD []
        refuse ("job ".toList ++ name ++ " not created under job control".toList)

/-! ## Signals -/

/-- How signals are sent. -/
def killUsage : List Char :=
  "Usage: kill [-s sigspec | -signum | -sigspec] [pid | job]... or\nkill -l [exitstatus]".toList

/-- Sends a signal to a process; answers whether there is one. -/
def sendTo (signal process : Nat) : Job Bool := do
  let s ← get
  match s.jobs.find? (·.process == process) with
  | some j => do
      if s.clock < j.ended && (signal? signal).any Signal.ends then
        let ended (k : BackgroundJob) : BackgroundJob :=
          if k.process = process then
            { k with ended := s.clock, status := 128 + signal, endedBy? := some signal }
          else k
        let left := s.dropWritten j.process j.lastProcess s.clock
        set ({ left with jobs := s.jobs.map ended } : Session)
      return !j.isWaited
  | none =>
      if process = s.shellProcess || process = 0 then
        if signal ≠ 0 then
          let sent : PendingSignal := ⟨s.clock, s.shellProcess, signal⟩
          set ({ s with pending := s.pending ++ [sent] } : Session)
        return true
      else return false

/-- Sends a signal to processes. -/
def sendSignal (signal : Nat) (targets : List (List Char)) : Job Unit := do
  if targets.isEmpty then refuse killUsage
  else
    finishWith 0
    targets.forM fun t => do
      let fail : Job Unit := do
        complainHere "No such process\n".toList
        finishWith 1
      match t with
      | '%' :: _ => do
          match (← get).jobOf t with
          | .ok _ => fail
          | .error complaint => refuse complaint
      | '-' :: number => do (← countArgument number).forM fun _ => fail
      | number => do
          (← countArgument number).forM fun n => do
            if !(← sendTo signal n) then fail

/-- The names of signals that have none but a number in real time. -/
def realTimeName (n : Nat) : String :=
  let number (k : Nat) : String := String.ofList (writeNat k)
  if n < 34 then number n
  else if n = 34 then "RTMIN"
  else if n < 50 then "RTMIN+" ++ number (n - 34)
  else if n < 64 then "RTMAX-" ++ number (64 - n)
  else "RTMAX"

/-- The name of a signal of any number. -/
def nameOfSignal (n : Nat) : String := ((signal? n).map Signal.name).getD (realTimeName n)

/-- Writes the names of signals. -/
def listSignals (arguments : List (List Char)) : Job Unit := do
  match arguments with
  | [] => do
      emit "0\n".toList
      emit ((List.range 64).flatMap fun n => (nameOfSignal (n + 1)).toList ++ ['\n'])
      finishWith 0
  | argument :: _ => do
      (← countArgument argument).forM fun n => do
        let n := if n > 128 then n - 128 else n
        if 0 < n && n < 65 then
          emit ((nameOfSignal n).toList ++ ['\n'])
          finishWith 0
        else refuse ("invalid signal number or exit status: ".toList ++ argument)

/-- Sends a signal, or writes the names of signals. -/
def runKill : Tool := fun arguments => do
  match arguments with
  | ('-' :: c :: name) :: rest =>
      match if c = '-' then none else signalOf? (c :: name) with
      | some n => sendSignal n rest
      | none =>
          withFlags "ls:" arguments fun flags operands => do
            if hasFlag flags 'l' then listSignals operands
            else
              match (flags.getLast?).map Flag.argument with
              | none => sendSignal 15 operands
              | some name =>
                  match signalOf? name with
                  | some n => sendSignal n operands
                  | none => refuse ("invalid signal number or name: ".toList ++ name)
  | arguments => sendSignal 15 arguments

end DesiredState.Shell
