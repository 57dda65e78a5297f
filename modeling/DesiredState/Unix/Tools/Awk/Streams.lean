import DesiredState.Unix.Tools.Awk.Machine
import DesiredState.Unix.Tools.Awk.Token
import DesiredState.Unix.Tools.Writing

/-!
# Streams of the record language

What is written to the output leaves late: when a command is run, and at the end.  A file is
opened when it is read or written first, and stays open; a command that is written to runs
when it is closed.

## Main definitions

* `writeOut`, `flushOut`, `writeToTarget` — what is written.
* `readRecord`, `readSource?` — records of a text, and those of the files that are arguments.
* `readFrom` — a record of a file or a command.
* `closeStream`, `closeAll` — streams that are not used any more.
-/

namespace DesiredState.Tools.Awk

open Pattern Shell

/-! ## Output -/

/-- Writes a text to the output. -/
def writeOut (text : List Char) : Act Unit :=
  modify fun m => { m with pending := text :: m.pending }

/-- Lets what was written leave. -/
def flushOut : Act Unit := do
  let m ← get
  if !m.pending.isEmpty then
    set { m with pending := [] }
    inSession (emit m.pending.reverse.flatten)

/-- Runs a command, which leaves its status; a signal that ends it counts from 256 on. -/
def commandJob (o : Setting) (command : List Char) : Job Unit := do
  match ← observe (discard (o.run "/bin/sh".toList ["-c".toList, command])) with
  | .error (.killed n) => do
      let s ← get
      if s.deadline?.any (· ≤ s.clock) then throw (.killed n)
      finishWith (256 + n)
  | .error ending => throw ending
  | .ok () => return ()

/-- Answers what a job answers, with the status that it leaves. -/
def withStatus {α : Type} (job : Job α) : Job (α × Nat) := do
  let before := (← get).status
  let a ← job
  let status := (← get).status
  finishWith before
  return (a, status)

/-- Runs a command, and answers its status. -/
def runCommand (o : Setting) (command : List Char) : Act Nat := do
  flushOut
  return (← inSession (withStatus (commandJob o command))).2

/-- Runs a command that reads a text. -/
def runCommandOn (o : Setting) (command input : List Char) : Act Nat := do
  let job : Job Unit := do
    let s ← get
    set (s.openStream 0 (.text input s.clock))
    thenAlways (commandJob o command) fun after => after.withStreamsOf s [0]
  return (← inSession (withStatus job)).2

/-- Writes a text where a channel is, and answers the channel behind it. -/
def writeBehind (channel : Channel) (text : List Char) : Job (Channel × Option Fault) := do
  let s ← get
  set (s.openStream 9 channel)
  let fault? ← writeTo 9 text
  let after ← get
  set (after.withStreamsOf s [9])
  return ((after.channel? 9).elim channel Prod.snd, fault?)

/-- The output of a name, and the others. -/
def takeOutput? (name : List Char) (isCommand : Bool) (outputs : List OpenOutput) :
    Option OpenOutput × List OpenOutput :=
  let isIt (p : OpenOutput) : Bool := p.name == name && p.isCommand == isCommand
  (outputs.find? isIt, outputs.filter fun p => !isIt p)

/-- The name of the output of the program. -/
def standardName : List Char := "/dev/stdout".toList

/-- Writes a text to a file. -/
def writeToFile (o : Setting) (appends : Bool) (name text : List Char) : Act Unit := do
  let name := if name = ['-'] then standardName else name
  if name = "/dev/stderr".toList then inSession (discard (writeTo 2 text))
  else
    let (found?, others) := takeOutput? name false (← get).outputs
    let kind ← match found? with
      | some p => pure p.kind
      | none => do
          match ← inSession (openForWriting appends name) with
          | .ok channel => pure (OutputKind.file channel none)
          | .error fault =>
              fail o ("cannot open \"".toList ++ name ++ "\" for output (".toList ++
                fault.words.toList ++ [')'])
    let kind ← match kind with
      | .file channel old? => do
          let (channel, fault?) ← inSession (writeBehind channel text)
          pure (OutputKind.file channel (old?.or fault?))
      | kind => do
          writeOut text
          pure kind
    modify fun m => { m with outputs := ⟨name, kind⟩ :: others }

/-- Writes a text where a statement says. -/
def writeToTarget (o : Setting) (target : Target (List Char)) (text : List Char) : Act Unit := do
  match target with
  | .output => writeOut text
  | .file name => writeToFile o false name text
  | .append name => writeToFile o true name text
  | .command name => do
      let (found?, others) := takeOutput? name true (← get).outputs
      let parts ← match found?.map OpenOutput.kind with
        | some (.command parts) => pure parts
        | _ => do
            flushOut
            pure []
      modify fun m => { m with outputs := ⟨name, .command (text :: parts)⟩ :: others }

/-- Complains that not all of a file was written. -/
def complainUnwritten (o : Setting) (name : List Char) (fault : Fault) : Act Unit := do
  complainOf o ("close failed on file \"".toList ++ name ++ "\" (".toList ++
    fault.words.toList ++ [')'])
  modify fun m => { m with status := 2 }

/-- Ends an output, and answers its status. -/
def endOutput (o : Setting) (p : OpenOutput) : Act Int := do
  match p.kind with
  | .command parts => runCommandOn o p.name parts.reverse.flatten
  | .file _ none => return 0
  | .file _ (some fault) => do
      complainUnwritten o p.name fault
      return -1
  | .standard => do
      let m ← get
      set { m with pending := [] }
      if !m.pending.isEmpty then
        (← inSession (writeTo 1 m.pending.reverse.flatten)).forM (complainUnwritten o p.name)
      return 0

/-- Closes a stream, and answers its status. -/
def closeStream (o : Setting) (name : List Char) : Act Int := do
  let m ← get
  match m.outputs.find? (·.name == name) with
  | some p => do
      set { m with outputs := (takeOutput? name p.isCommand m.outputs).2 }
      endOutput o p
  | none =>
      match m.inputs.find? (·.name == name) with
      | some p => do
          set { m with inputs := m.inputs.filter (·.name != name) }
          return p.status
      | none => return -1

/-- Closes all streams. -/
def closeAll (o : Setting) : Act Unit := do
  let outputs := (← get).outputs
  modify fun m => { m with outputs := [] }
  outputs.forM fun p => discard (endOutput o p)
  discard (endOutput o ⟨standardName, .standard⟩)

/-! ## Records -/

/-- What ends a record. -/
inductive RecordEnd where
  | letter (c : Char)
  | emptyLines
  | pattern (r : Regex)

/-- What a text says about the ends of records. -/
def recordEndOf (text : List Char) : Except PatternFault RecordEnd :=
  match text with
  | [] => .ok .emptyLines
  | [c] => .ok (.letter c)
  | text => (readPattern text).map .pattern

/-- A text in front of an empty line, and what follows. -/
def paragraph : List Char → List Char × List Char
  | '\n' :: '\n' :: rest => ([], rest)
  | ['\n'] => ([], [])
  | c :: rest =>
      let (front, behind) := paragraph rest
      (c :: front, behind)
  | [] => ([], [])

/-- The first occurrence that is not empty of an expression, from a place on. -/
def occurrence? (r : Regex) (x : Subject) : (fuel : Nat) → Nat → Option (Nat × Nat)
  | 0, _ => none
  | fuel + 1, i =>
      match r.find? x i with
      | none => none
      | some found =>
          if found.first < found.last then some (found.first, found.last)
          else if x.text.size ≤ i then none
          else occurrence? r x fuel (found.first + 1)

/-- The first record of a text, and what follows. -/
def firstRecord? (ends : RecordEnd) (cs : List Char) : Option (List Char × List Char) :=
  match ends with
  | .letter c =>
      if cs.isEmpty then none
      else
        let record := cs.takeWhile (· != c)
        some (record, cs.drop (record.length + 1))
  | .emptyLines =>
      let cs := cs.dropWhile (· == '\n')
      if cs.isEmpty then none
      else
        let (record, rest) := paragraph cs
        some (record, rest.dropWhile (· == '\n'))
  | .pattern r =>
      if cs.isEmpty then none
      else
        match occurrence? r (subjectOf cs) (cs.length + 1) 0 with
        | some (first, last) => some (cs.take first, cs.drop last)
        | none => some (cs, [])

/-- What ends records now. -/
def recordEnd (o : Setting) : Act RecordEnd := do
  let text ← textOf (← globalValue "RS")
  match recordEndOf text with
  | .ok ends => return ends
  | .error fault => failPattern o fault text

/-- All of a file; one that can be opened but not read ends the program. -/
def readFile (o : Setting) (name : List Char) : Act (Except Fault (List Char)) := do
  match ← inSession (readUpTo endlessLength
      (if name = "/dev/stdin".toList then ['-'] else name)) with
  | .error .isDirectory => fail o "read error (Is a directory)".toList
  | result => return result

/-! ## Arguments -/

/-- The name and the value of an argument that assigns a variable. -/
def assignmentOf? (argument : List Char) : Option (String × List Char) :=
  let name := argument.takeWhile fun c => c.isAlphanum || c == '_'
  match name, argument.drop name.length with
  | c :: _, '=' :: value => if c.isDigit then none else some (String.ofList name, value)
  | _, _ => none

/-- Sets a variable to a text that was given, whose escapes mean something. -/
def assignGiven (o : Setting) (name : String) (value : List Char) :
    Act Unit :=
  setGlobal o name (.ofInput (unescaped value))

/-- Opens a file of records. -/
def openSource (o : Setting) (name : List Char) : Act Unit := do
  match ← readFile o name with
  | .ok text => do
      modify fun m => { m with source? := some text, hasSource := true }
      putGlobal "FILENAME" (.text name)
      putGlobal "FNR" (.number zero)
  | .error fault =>
      fail o ("cannot open \"".toList ++ name ++ "\" (".toList ++ fault.words.toList ++ [')'])

/-- Opens the next file of records; answers whether there is one. -/
def nextSource (o : Setting) : (fuel : Nat) → Act Bool
  | 0 => return false
  | fuel + 1 => do
      let m ← get
      if m.isOver then return false
      let count := clampedInteger (← globalValue "ARGC").toNumber
      if (m.nextArgument : Int) < count then
        set { m with nextArgument := m.nextArgument + 1 }
        let table ← getTable (← tableOf "ARGV")
        let argument := (table.value? (writeNat m.nextArgument)).getD .unset
        let text ← textOf argument
        if text.isEmpty then nextSource o fuel
        else
          match assignmentOf? text with
          | some (name, value) => do
              assignGiven o name value
              nextSource o fuel
          | none => do
              openSource o text
              return true
      else if m.hasSource then
        set { m with isOver := true }
        return false
      else
        openSource o ['-']
        return true

/-- The next record of the files that are arguments. -/
def readSource? (o : Setting) : (fuel : Nat) →
    Act (Option (List Char))
  | 0 => return none
  | fuel + 1 => do
      match (← get).source? with
      | none =>
          if ← nextSource o (1 <<< 20) then readSource? o fuel else return none
      | some text =>
          match firstRecord? (← recordEnd o) text with
          | some (record, rest) => do
              modify fun m => { m with source? := some rest }
              let count (name : String) : Act Unit := do
                let n := (← globalValue name).toNumber
                putGlobal name (.number (n.add .double (numberOf 1)))
              count "NR"
              count "FNR"
              return some record
          | none => do
              modify fun m => { m with source? := none }
              readSource? o fuel

/-! ## Files and commands -/

/-- Takes the next record of an open input. -/
def readOpen (o : Setting) (isCommand : Bool) (name : List Char) : Act (Option (List Char)) := do
  let isIt (p : OpenInput) : Bool := p.name == name && p.isCommand == isCommand
  match (← get).inputs.find? isIt with
  | none => return none
  | some p =>
      match firstRecord? (← recordEnd o) p.rest with
      | none => do
          modify fun m => { m with
            inputs := { p with rest := [] } :: m.inputs.filter fun q => !isIt q }
          return none
      | some (record, rest) => do
          modify fun m => { m with
            inputs := { p with rest := rest } :: m.inputs.filter fun q => !isIt q }
          return some record

/-- The next record of a file or a command; nothing if it can not be opened, and a record that
is none at its end. -/
def readFrom (o : Setting) (isCommand : Bool) (name : List Char) :
    Act (Option (Option (List Char))) := do
  let isOpen := (← get).inputs.any fun p => p.name == name && p.isCommand == isCommand
  if isOpen then return some (← readOpen o isCommand name)
  else if isCommand then
    flushOut
    let (text, status) ← inSession (withStatus (captured (commandJob o name)))
    modify fun m => { m with inputs := ⟨true, name, text, status⟩ :: m.inputs }
    return some (← readOpen o true name)
  else
    match ← readFile o name with
    | .error _ => return none
    | .ok text => do
        modify fun m => { m with inputs := ⟨false, name, text, 0⟩ :: m.inputs }
        return some (← readOpen o false name)

end DesiredState.Tools.Awk
