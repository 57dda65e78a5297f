import DesiredState.Fields
import DesiredState.Number.Reading

/-!
# Signals

A signal has a number and a name.  Most of them end a process that does not take
care of them; some are then told of by a text.

## Main definitions

* `Signal`, `signals` — signals.
* `signalOf?` — the number of the signal that a text names.
-/

namespace DesiredState.Shell

/-- A signal. -/
structure Signal where
  number : Nat
  name : String
  /-- What is told of a process that it ended, if something is. -/
  text : String
  /-- Whether it ends a process. -/
  ends : Bool

/-- The signals. -/
def signals : List Signal :=
  [⟨1, "HUP", "Hangup", true⟩, ⟨2, "INT", "", true⟩, ⟨3, "QUIT", "Quit", true⟩,
    ⟨4, "ILL", "Illegal instruction", true⟩, ⟨5, "TRAP", "Trace/breakpoint trap", true⟩,
    ⟨6, "ABRT", "Aborted", true⟩, ⟨7, "BUS", "Bus error", true⟩,
    ⟨8, "FPE", "Floating point exception", true⟩, ⟨9, "KILL", "Killed", true⟩,
    ⟨10, "USR1", "User defined signal 1", true⟩, ⟨11, "SEGV", "Segmentation fault", true⟩,
    ⟨12, "USR2", "User defined signal 2", true⟩, ⟨13, "PIPE", "", true⟩,
    ⟨14, "ALRM", "Alarm clock", true⟩, ⟨15, "TERM", "Terminated", true⟩,
    ⟨16, "16", "Stack fault", true⟩, ⟨17, "CHLD", "", false⟩, ⟨18, "CONT", "", false⟩,
    ⟨19, "STOP", "", false⟩, ⟨20, "TSTP", "", false⟩, ⟨21, "TTIN", "", false⟩,
    ⟨22, "TTOU", "", false⟩, ⟨23, "URG", "", false⟩,
    ⟨24, "XCPU", "CPU time limit exceeded", true⟩,
    ⟨25, "XFSZ", "File size limit exceeded", true⟩,
    ⟨26, "VTALRM", "Virtual timer expired", true⟩,
    ⟨27, "PROF", "Profiling timer expired", true⟩, ⟨28, "WINCH", "", false⟩,
    ⟨29, "IO", "I/O possible", true⟩, ⟨30, "PWR", "Power failure", true⟩,
    ⟨31, "SYS", "Bad system call", true⟩]

/-- The signal of a number. -/
def signal? (number : Nat) : Option Signal := signals.find? (·.number == number)

/-- The name of the signal of a number. -/
def signalName (number : Nat) : String := ((signal? number).map Signal.name).getD "EXIT"

/-- The number of the signal that a text names or spells. -/
def signalOf? (cs : List Char) : Option Nat :=
  match digitsValue? 10 cs with
  | some n => if n < 65 then some n else none
  | none =>
      let name := String.ofList (cs.map Char.toUpper)
      if name == "EXIT" then some 0
      else (signals.find? (·.name == name)).map Signal.number

end DesiredState.Shell
