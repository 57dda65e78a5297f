import DesiredState.Unix.Tools.Awk.Program
import DesiredState.Unix.Tools.Awk.Table
import DesiredState.Unix.Tools.Inputs

/-!
# The state of a program of the record language

A program works on variables, tables, and a record.  The record is a text and its fields; each
is made from the other when it is asked for.

## Main definitions

* `Setting`, `Machine`, `Jump`, `Act` — what a program is given, what it changes, how a part
  of it is left, and a step of it.
* `getVariable`, `setVariable`, `tableOf`, `changeTable` — variables and tables.
* `getField`, `setField` — the record.
-/

namespace DesiredState.Tools.Awk

open Pattern Shell

/-- What a program is given. -/
structure Setting where
  /-- The name under which it complains. -/
  name : List Char
  run : Runner
  program : Program

/-- What a name in a function stands for. -/
inductive Binding where
  | value (v : Value)
  /-- The table of a number. -/
  | table (id : Nat)

/-- A file or a command that is read, as far as it is left, and its status. -/
structure OpenInput where
  isCommand : Bool
  name : List Char
  rest : List Char
  status : Nat

/-- What an output leads to. -/
inductive OutputKind where
  /-- The output of the program. -/
  | standard
  /-- A file, and why it can not be written. -/
  | file (channel : Channel) (fault? : Option Fault)
  /-- A command with what it is going to read, the last part first. -/
  | command (parts : List (List Char))

/-- An output that is open. -/
structure OpenOutput where
  name : List Char
  kind : OutputKind

/-- Whether an output is a command. -/
def OpenOutput.isCommand (p : OpenOutput) : Bool :=
  match p.kind with
  | .command _ => true
  | _ => false

/-- What a program changes. -/
structure Machine where
  vars : Std.HashMap String Value
  tables : Std.HashMap Nat Table
  tableNames : Std.HashMap String Nat
  nextTable : Nat
  /-- What the names of the function that is run stand for. -/
  locals : List (String × Binding)
  /-- The record, if it is not to be made from the fields. -/
  record? : Option Value
  /-- The fields, if they were made from the record. -/
  fields? : Option (Array Value)
  /-- What separates the fields of a record. -/
  splitter : Splitter
  /-- The ranges that are open, by the places of their rules. -/
  openRanges : List Nat
  /-- What was written but has not left yet, the last part first. -/
  pending : List (List Char)
  inputs : List OpenInput
  /-- The outputs, that which was used last in front. -/
  outputs : List OpenOutput
  /-- What is left of the file that records are read from. -/
  source? : Option (List Char)
  /-- The argument that is looked at next, and whether one was a file. -/
  nextArgument : Nat
  hasSource : Bool
  isOver : Bool
  seed : Value
  random : Nat
  status : Nat

/-- How a part of a program is left. -/
inductive Jump where
  | next
  | nextFile
  | exit
  | result (v : Value)
  | leave
  | continue
  /-- Something is wrong, and was complained about. -/
  | failed

/-- A step of a program. -/
abbrev Act := ExceptT Jump (StateT Machine Job)

/-- Does something in the session. -/
def inSession {α : Type} (job : Job α) : Act α := ExceptT.lift (StateT.lift job)

/-! ## Variables -/

/-- A variable that is not one of a function. -/
def globalValue (name : String) : Act Value := do
  return ((← get).vars[name]?).getD .unset

/-- How numbers are written as texts. -/
def textFormat : Act (List Char) := do
  return (← globalValue "CONVFMT").toText "%.6g".toList

/-- The text of a value. -/
def textOf (v : Value) : Act (List Char) := do
  match v with
  | .number x =>
      match integerText? x with
      | some text => return text
      | none => return formattedNumber (← textFormat) x
  | v => return v.toText []

/-- Sets a variable that is not one of a function. -/
def putGlobal (name : String) (v : Value) : Act Unit :=
  modify fun m => { m with vars := m.vars.insert name v }

/-! ## Complaints -/

/-- Writes a complaint. -/
def complainOf (o : Setting) (text : List Char) : Act Unit :=
  inSession (Shell.complain (o.name ++ ": ".toList ++ text))

/-- Complains, and ends the program. -/
def fail {α : Type} (o : Setting) (text : List Char) : Act α := do
  complainOf o text
  modify fun m => { m with status := 2 }
  throw .failed

/-- Complains about something that a program does, and ends it. -/
def failRunning {α : Type} (o : Setting) (text : List Char) : Act α := do
  let m ← get
  let shown (name : String) : List Char :=
    formattedNumber "%.6g".toList ((m.vars[name]?).getD .unset).toNumber
  fail o ("run time error: ".toList ++ text ++ "\n\tFILENAME=\"".toList ++
    ((m.vars["FILENAME"]?).getD .unset).toText "%.6g".toList ++ "\" FNR=".toList ++
    shown "FNR" ++ " NR=".toList ++ shown "NR")

/-- The complaint about a text that is no pattern. -/
def failPattern {α : Type} (o : Setting) (fault : PatternFault) (source : List Char) : Act α :=
  failRunning o ("regular expression compile failed (".toList ++ fault.words.toList ++
    ")\n".toList ++ source)

/-! ## The record -/

/-- The fields. -/
def getFields : Act (Array Value) := do
  let m ← get
  match m.fields? with
  | some fields => return fields
  | none =>
      let text := match m.record? with
        | some v => v.toText []
        | none => []
      let fields := ((m.splitter.parts text).map Value.ofInput).toArray
      set { m with fields? := some fields }
      return fields

/-- The record. -/
def getRecord : Act Value := do
  let m ← get
  match m.record? with
  | some v => return v
  | none =>
      let separator ← textOf (← globalValue "OFS")
      let texts ← ((m.fields?).getD #[]).toList.mapM textOf
      let record := Value.ofInput (List.intercalate separator texts)
      modify fun m => { m with record? := some record }
      return record

/-- Sets the record. -/
def setRecord (cs : List Char) : Act Unit :=
  modify fun m => { m with record? := some (.ofInput cs), fields? := none }

/-- A field; the record is the one before the first. -/
def getField (n : Nat) : Act Value := do
  if n = 0 then getRecord else return ((← getFields)[n - 1]?).getD (Value.text [])

/-- Sets a field, and makes those between it and the last one. -/
def setField (n : Nat) (v : Value) : Act Unit := do
  if n = 0 then setRecord (← textOf v)
  else
    let fields ← getFields
    let fields := fields ++ Array.replicate (n - fields.size) (Value.text [])
    modify fun m => { m with fields? := some (fields.set! (n - 1) v), record? := none }

/-- Keeps so many fields, and makes those that are not there. -/
def setFieldCount (n : Nat) : Act Unit := do
  let fields ← getFields
  let fields := (fields ++ Array.replicate (n - fields.size) (Value.text [])).extract 0 n
  modify fun m => { m with fields? := some fields, record? := none }

/-! ## Variables that mean something -/

/-- Sets a variable that is not one of a function, with all that goes with it. -/
def setGlobal (o : Setting) (name : String) (v : Value) : Act Unit := do
  match name with
  | "NF" =>
      let count := clampedInteger v.toNumber
      if count < 0 then failRunning o "negative value assigned to NF".toList
      else setFieldCount (min count.toNat (1 <<< 20))
  | "FS" =>
      discard getFields
      let text ← textOf v
      match splitterOf text with
      | .ok splitter => do
          modify fun m => { m with splitter := splitter }
          putGlobal name v
      | .error fault => failPattern o fault text
  | "OFS" =>
      discard getRecord
      putGlobal name v
  | name => putGlobal name v

/-- The value of a variable. -/
def getVariable (name : String) : Act Value := do
  match Entries.get? (← get).locals name with
  | some (.value v) => return v
  | some (.table _) => return .unset
  | none =>
      if name = "NF" then return .ofNat (← getFields).size else globalValue name

/-- Sets a variable. -/
def setVariable (o : Setting) (name : String) (v : Value) : Act Unit := do
  let m ← get
  match Entries.get? m.locals name with
  | some _ => set { m with locals := Entries.insert m.locals name (.value v) }
  | none => setGlobal o name v

/-! ## Tables -/

/-- Makes a table, and answers its number. -/
def newTable (table : Table) : Act Nat := do
  let m ← get
  set { m with tables := m.tables.insert m.nextTable table, nextTable := m.nextTable + 1 }
  return m.nextTable

/-- The number of the table of a name, which is made if there is none. -/
def tableOf (name : String) : Act Nat := do
  let m ← get
  match Entries.get? m.locals name with
  | some (.table id) => return id
  | some (.value _) => do
      let id ← newTable .empty
      modify fun m => { m with locals := Entries.insert m.locals name (.table id) }
      return id
  | none =>
      match m.tableNames[name]? with
      | some id => return id
      | none => do
          let id ← newTable .empty
          modify fun m => { m with tableNames := m.tableNames.insert name id }
          return id

/-- Looks at a table, and changes it. -/
def changeTable {α : Type} (id : Nat) (f : Table → α × Table) : Act α := do
  let m ← get
  let (a, table) := f ((m.tables[id]?).getD .empty)
  set { m with tables := m.tables.insert id table }
  return a

/-- The table of a number. -/
def getTable (id : Nat) : Act Table := do return ((← get).tables[id]?).getD .empty

/-- Sets the table of a number. -/
def putTable (id : Nat) (table : Table) : Act Unit :=
  modify fun m => { m with tables := m.tables.insert id table }

end DesiredState.Tools.Awk
