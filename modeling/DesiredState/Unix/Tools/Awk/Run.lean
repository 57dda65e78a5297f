import DesiredState.Unix.Time.Calendar
import DesiredState.Unix.Tools.Awk.Format
import DesiredState.Unix.Tools.Awk.Reading
import DesiredState.Unix.Tools.Awk.Streams

/-!
# Running programs of the record language

The rules of a program are run for each record of its files: in order, each on the records
that it selects.

## Main definitions

* `evaluate`, `execute` — expressions and statements.
* `runRules` — the rules for one record.
* `runAwk` — a program with its arguments.
-/

namespace DesiredState.Tools.Awk

open Pattern Shell

/-- What can be assigned. -/
inductive Slot where
  | variable (name : String)
  | element (table : Nat) (key : Key)
  | field (number : Nat)

/-- The number of a field. -/
def fieldNumber (o : Setting) (v : Value) : Act Nat := do
  let n := clampedInteger v.toNumber
  if n < 0 then failRunning o ("negative field index $".toList ++ writeInt n)
  else return min n.toNat (1 <<< 20)

/-- The value of what can be assigned. -/
def readSlot : Slot → Act Value
  | .variable name => getVariable name
  | .element table key => changeTable table fun t => t.create key
  | .field n => getField n

/-- Assigns a value. -/
def writeSlot (o : Setting) (slot : Slot) (v : Value) : Act Unit :=
  match slot with
  | .variable name => setVariable o name v
  | .element table key => changeTable table fun t => ((), t.set key v)
  | .field n => setField n v

/-- The result of an operation on two numbers. -/
def Arithmetic.apply (op : Arithmetic) (x y : Rounded) : Rounded :=
  match op with
  | add => x.add .double y
  | subtract => x.add .double y.negate
  | multiply => x.multiply .double y
  | divide => Awk.divide x y
  | remainder => Awk.remainder x y
  | power => Awk.power x y

/-- Whether a comparison holds of two values in an order. -/
def Comparison.holds (op : Comparison) (order : Ordering) : Bool :=
  match op with
  | equal => order == .eq
  | different => order != .eq
  | less => order == .lt
  | atMost => order != .gt
  | greater => order == .gt
  | atLeast => order != .lt

/-- The expression of a text that is used as a pattern. -/
def patternOfValue (o : Setting) (v : Value) : Act Regex := do
  let text ← textOf v
  match readPattern text with
  | .ok r => return r
  | .error fault => failPattern o fault text

/-- Whether a pattern occurs in a text. -/
def occursIn (r : Regex) (text : List Char) : Bool := (r.find? (subjectOf text) 0).isSome

/-! ## Functions that are there from the start -/

/-- The place of a text in another one, counted from one; zero if it is not there. -/
def indexOf (wanted : List Char) : (fuel place : Nat) → List Char → Nat
  | 0, _, _ => 0
  | fuel + 1, place, cs =>
      if wanted.isPrefixOf cs then place
      else
        match cs with
        | [] => 0
        | _ :: rest => indexOf wanted fuel (place + 1) rest

/-- A part of a text. -/
def partOf (cs : List Char) (first : Rounded) (length? : Option Rounded) : List Char :=
  let start := clampedInteger first
  let length := match length? with
    | some x => clampedInteger x
    | none => cs.length
  let length := if length?.isSome && start < 0 then length - start else length
  let start := max start 1
  if greatestLong < start + length && length?.isSome then []
  else (cs.drop (start - 1).toNat).take length.toNat

/-- The text for an occurrence: a sign stands for what occurred, unless a backslash is in front
of it. -/
def replacementOf (found : List Char) : List Char → List Char
  | '\\' :: '&' :: rest => '&' :: replacementOf found rest
  | '\\' :: '\\' :: '&' :: rest => '\\' :: (found ++ replacementOf found rest)
  | '\\' :: '\\' :: '\\' :: '&' :: rest => '\\' :: '&' :: replacementOf found rest
  | '&' :: rest => found ++ replacementOf found rest
  | c :: rest => c :: replacementOf found rest
  | [] => []

/-- A text with the occurrences of an expression from a place on replaced, and how many there
are.  An empty one does not count behind another. -/
def substituted (r : Regex) (x : Subject) (replacement : List Char) (isGlobal : Bool) :
    (fuel : Nat) → (place : Nat) → (last? : Option Nat) → List (List Char) × Nat
  | 0, place, _ => ([x.slice place x.text.size], 0)
  | fuel + 1, place, last? =>
      match r.find? x place with
      | none => ([x.slice place x.text.size], 0)
      | some found =>
          let isEmpty := found.first = found.last
          let front := x.slice place found.first
          let step := if isEmpty then x.slice found.first (found.first + 1) else []
          let next := found.last + step.length
          let counts := !(isEmpty && last? == some found.first)
          let text :=
            if counts then lettersOf false
              (replacementOf (octetsOfLetters (x.slice found.first found.last)) replacement)
            else []
          if isGlobal && next ≤ x.text.size && !(isEmpty && step.isEmpty) then
            let (rest, n) := substituted r x replacement isGlobal fuel next
              (if isEmpty then last? else some found.last)
            (front :: text :: step :: rest, n + (if counts then 1 else 0))
          else
            ([front, text, x.slice found.last x.text.size], if counts then 1 else 0)

/-- The number of seconds of a text that spells a date and a time. -/
def secondsOfDate (text : List Char) : Int :=
  let numbers := (wordsOf (text.length + 1) text).map fun w =>
    clampedInteger (numberOfText w)
  match numbers with
  | year :: month :: day :: hour :: minute :: second :: _ =>
      let months := year * 12 + (month - 1)
      let first : CalendarDate := ⟨months.fdiv 12, (months.fmod 12).toNat + 1, 1⟩
      ((daysOfDate first + day - 1) * 24 + hour) * 3600 + minute * 60 + second
  | _ => -1

/-- A number that nobody can foresee, at least zero and less than one, and the one behind
it. -/
def randomFrom (state : Nat) : Rounded × Nat :=
  let next := (state * 6364136223846793005 + 1442695040888963407) % (1 <<< 64)
  (.ofQuotient .double false (next / (1 <<< 11)) (1 <<< 53), next)

/-- The result of a function on one number. -/
def Builtin.onNumber? : Builtin → Option (Rounded → Rounded)
  | sine => some (applyFloat Float.sin)
  | cosine => some (applyFloat Float.cos)
  | exponential => some (applyFloat Float.exp)
  | logarithm => some (applyFloat Float.log)
  | squareRoot => some (applyFloat Float.sqrt)
  | integer => some integral
  | _ => none

/-- Values in a format; the program ends if there are too few of them. -/
def formatted (o : Setting) (name : String) (values : List Value) : Act (List Char) := do
  match values with
  | [] => return []
  | format :: values => do
      let format ← textOf format
      let (text, fault?) := formatValues (← textFormat) format values
      match fault? with
      | none => return text
      | some fault => do
          if name = "printf" then writeOut text
          failRunning o (fault.message name.toList format)

/-- The result of a function that is there from the start. -/
def callBuiltin (o : Setting) (f : Builtin) (values : List Value) : Act Value := do
  let text (n : Nat) : Act (List Char) := textOf (values.getD n .unset)
  let number (n : Nat) : Rounded := (values.getD n .unset).toNumber
  match f with
  | .index => do
      let cs ← text 0
      return .ofNat (indexOf (← text 1) (cs.length + 1) 1 cs)
  | .substr => do
      let count? := if values.length < 3 then none else some (number 2)
      return .text (partOf (← text 0) (number 1) count?)
  | .sprintf => do return .text (← formatted o "sprintf" values)
  | .arcTangent =>
      return .number (.ofFloat (Float.atan2 (number 0).toFloat (number 1).toFloat))
  | .upper => do return .text ((← text 0).map Char.toUpper)
  | .lower => do return .text ((← text 0).map Char.toLower)
  | .length =>
      if values.isEmpty then return .ofNat (← textOf (← getRecord)).length
      else return .ofNat (← text 0).length
  | .random => do
      let (x, next) := randomFrom (← get).random
      modify fun m => { m with random := next }
      return .number x
  | .seed => do
      let old := (← get).seed
      let now := (← inSession get).clock / 1000000
      let new := if values.isEmpty then .ofNat now else values.getD 0 .unset
      modify fun m => { m with seed := new }
      return old
  | .close => do return .number (numberOf (← closeStream o (← text 0)))
  | .system => do return .ofNat (← runCommand o (← text 0))
  | .flush => do
      let name ← text 0
      flushOut
      let isOpen := name.isEmpty || (← get).outputs.any (·.name == name) ||
        name = "/dev/stdout".toList || name = "/dev/stderr".toList
      return .number (numberOf (if isOpen then 0 else -1))
  | .makeTime => do return .number (numberOf (secondsOfDate (← text 0)))
  | .formatTime => do
      let format ← if values.isEmpty then pure "%c".toList else text 0
      let now := (← inSession get).clock / 1000000
      let seconds := if values.length < 2 then (now : Int) else clampedInteger (number 1)
      return .text (dateText seconds format)
  | .currentTime => do return .ofNat ((← inSession get).clock / 1000000)
  | f =>
      match f.onNumber? with
      | some g => return .number (g (number 0))
      | none => return .unset
where
  /-- A time in a format. -/
  dateText (seconds : Int) (format : List Char) : List Char :=
    (⟨seconds, 0, 0⟩ : Moment).write (format.length + 64) format

/-! ## Expressions and statements -/

/-- The function of a name. -/
def Setting.function? (o : Setting) (name : String) : Option Function :=
  o.program.functions.find? (·.name == name)

/-- Whether a name in a function stands for a table. -/
def Setting.isTable (o : Setting) (function? : Option String) (name : String) : Bool :=
  o.program.tables.contains (function?, name)

/-- A key of several values. -/
def keyOf (values : List Value) : Act Key := do
  match values with
  | [v] => do
      match v with
      | .number _ => return v.asKey (← textFormat)
      | v => return v.asKey []
  | values => do
      let separator ← textOf (← globalValue "SUBSEP")
      return .text (List.intercalate separator (← values.mapM textOf))

/-- Writes a text where a statement says, after a line end. -/
def printTo (o : Setting) (target : Target (List Char)) (values : List Value) : Act Unit := do
  let format := (← globalValue "OFMT").toText []
  let shown (v : Value) : List Char :=
    match v with
    | .number x => textOfNumber format x
    | v => v.toText []
  let separator ← textOf (← globalValue "OFS")
  let ending ← textOf (← globalValue "ORS")
  writeToTarget o target (List.intercalate separator (values.map shown) ++ ending)

/-- Runs a job until it leaves a loop; answers whether the loop goes on. -/
def loopStep (job : Act Unit) : Act Bool :=
  tryCatch (do
    job
    return true) fun jump =>
      match jump with
      | .leave => return false
      | .continue => return true
      | jump => throw jump

mutual

/-- The value of an expression. -/
def evaluate (o : Setting) : (fuel : Nat) → Expr → Act Value
  | 0, _ => throw .exit
  | fuel + 1, e => do
      match e with
      | .number x => return .number x
      | .text cs => return .text cs
      | .pattern r => return .ofBool (occursIn r ((← getRecord).toText []))
      | .variable name => getVariable name
      | .element _ _ | .field _ => readSlot (← slotOf o fuel e)
      | .assign target value => do
          let slot ← slotOf o fuel target
          let v ← evaluate o fuel value
          writeSlot o slot v
          match slot with
          | .field 0 => getRecord
          | _ => return v
      | .update op target value => do
          let slot ← slotOf o fuel target
          let v ← evaluate o fuel value
          let result := Value.number (op.apply (← readSlot slot).toNumber v.toNumber)
          writeSlot o slot result
          return result
      | .step isUp isNew target => do
          let slot ← slotOf o fuel target
          let old := (← readSlot slot).toNumber
          let new := old.add .double (numberOf (if isUp then 1 else -1))
          writeSlot o slot (.number new)
          return .number (if isNew then new else old)
      | .condition test yes no => do
          if (← evaluate o fuel test).isTrue then evaluate o fuel yes else evaluate o fuel no
      | .both a b => do
          if (← evaluate o fuel a).isTrue then return .ofBool (← evaluate o fuel b).isTrue
          else return .ofBool false
      | .either a b => do
          if (← evaluate o fuel a).isTrue then return .ofBool true
          else return .ofBool (← evaluate o fuel b).isTrue
      | .isIn indices table => do
          let key ← keyOf (← evaluateAll o fuel indices)
          let id ← tableOf table
          return .ofBool (← changeTable id fun t => t.find key).isSome
      | .occurs isWanted text wanted => do
          let v ← evaluate o fuel text
          let r ← patternFor o fuel wanted
          return .ofBool (occursIn r (← textOf v) == isWanted)
      | .compare op a b => do
          let x ← evaluate o fuel a
          let y ← evaluate o fuel b
          return .ofBool (op.holds (x.compare (← textFormat) y))
      | .join a b => do
          let x ← textOf (← evaluate o fuel a)
          return .text (x ++ (← textOf (← evaluate o fuel b)))
      | .arithmetic op a b => do
          let x ← evaluate o fuel a
          let y ← evaluate o fuel b
          return .number (op.apply x.toNumber y.toNumber)
      | .not a => do return .ofBool !(← evaluate o fuel a).isTrue
      | .negate a => do
          let x := (← evaluate o fuel a).toNumber
          return .number x.negate
      | .plus a => do return .number (← evaluate o fuel a).toNumber
      | .call name arguments => callFunction o fuel name arguments
      | .builtin f arguments => do callBuiltin o f (← evaluateAll o fuel arguments)
      | .tableLength name => do
          match Entries.get? (← get).locals name with
          | some (.table id) => return .ofNat (← getTable id).size
          | some (.value v) => return .ofNat (← textOf v).length
          | none =>
              if o.isTable none name then return .ofNat (← getTable (← tableOf name)).size
              else return .ofNat (← textOf (← getVariable name)).length
      | .split text table separator? => do
          let cs ← textOf (← evaluate o fuel text)
          let id ← tableOf table
          let splitter ← match separator? with
            | none => pure (← get).splitter
            | some (.pattern r) => pure (Splitter.pattern r)
            | some e => do
                let source ← textOf (← evaluate o fuel e)
                match splitterOf source with
                | .ok splitter => pure splitter
                | .error fault => failPattern o fault source
          let parts := (splitter.parts cs).map Value.ofInput
          putTable id (.ofList parts)
          return .ofNat parts.length
      | .find text wanted => do
          let cs ← textOf (← evaluate o fuel text)
          let r ← patternFor o fuel wanted
          let (start, length) : Int × Int := match r.find? (subjectOf cs) 0 with
            | some found => ((found.first : Int) + 1, (found.last : Int) - found.first)
            | none => (0, -1)
          putGlobal "RSTART" (.number (numberOf start))
          putGlobal "RLENGTH" (.number (numberOf length))
          return .number (numberOf start)
      | .substitute isGlobal wanted replacement target => do
          let r ← patternFor o fuel wanted
          let replacement ← textOf (← evaluate o fuel replacement)
          let slot ← slotOf o fuel target
          let cs ← textOf (← readSlot slot)
          let (parts, n) := substituted r (subjectOf cs) replacement isGlobal (cs.length + 2) 0 none
          if 0 < n then writeSlot o slot (.text (octetsOfLetters parts.flatten))
          return .ofNat n
      | .getline source target? => getline o fuel source target?

/-- The values of expressions. -/
def evaluateAll (o : Setting) : (fuel : Nat) → List Expr → Act (List Value)
  | 0, _ => throw .exit
  | _ + 1, [] => return []
  | fuel + 1, e :: es => do
      let v ← evaluate o fuel e
      return v :: (← evaluateAll o fuel es)

/-- What an expression can assign. -/
def slotOf (o : Setting) : (fuel : Nat) → Expr → Act Slot
  | 0, _ => throw .exit
  | fuel + 1, e => do
      match e with
      | .variable name => return .variable name
      | .element table indices => do
          let key ← keyOf (← evaluateAll o fuel indices)
          let id ← tableOf table
          discard (changeTable id fun t => t.create key)
          return .element id key
      | .field number => do return .field (← fieldNumber o (← evaluate o fuel number))
      | _ => throw .exit

/-- The pattern that an expression stands for. -/
def patternFor (o : Setting) : (fuel : Nat) → Expr → Act Regex
  | 0, _ => throw .exit
  | fuel + 1, e => do
      match e with
      | .pattern r => return r
      | e => patternOfValue o (← evaluate o fuel e)

/-- Reads a record: one if there was one, zero at the end, and less if nothing can be read. -/
def getline (o : Setting) : (fuel : Nat) → Source Expr → Option Expr → Act Value
  | 0, _, _ => throw .exit
  | fuel + 1, source, target? => do
      let slot? ← match target? with
        | some target => do pure (some (← slotOf o fuel target))
        | none => pure none
      let found? ← match source with
        | .input => do pure (some (← readSource? o (1 <<< 20)))
        | .file name => do readFrom o false (← textOf (← evaluate o fuel name))
        | .command text => do readFrom o true (← textOf (← evaluate o fuel text))
      match found? with
      | none => return .number (numberOf (-1))
      | some none => return .ofNat 0
      | some (some record) => do
          match slot? with
          | some slot => writeSlot o slot (.ofInput record)
          | none => setRecord record
          return .ofNat 1

/-- Calls a function. -/
def callFunction (o : Setting) : (fuel : Nat) → String → List Expr → Act Value
  | 0, _, _ => throw .exit
  | fuel + 1, name, arguments => do
      match o.function? name with
      | none => return .unset
      | some f => do
          let given ← bindArguments o fuel f arguments f.parameters
          let before := (← get).locals
          modify fun m => { m with locals := given }
          let result ← tryCatch (do
            execute o fuel f.body
            return Value.unset) fun jump =>
              match jump with
              | .result v => return v
              | jump => throw jump
          modify fun m => { m with locals := before }
          return result

/-- What the parameters of a function stand for: arguments, or nothing yet. -/
def bindArguments (o : Setting) : (fuel : Nat) → Function → List Expr → List String →
    Act (List (String × Binding))
  | 0, _, _, _ => throw .exit
  | _ + 1, _, _, [] => return []
  | fuel + 1, f, arguments, name :: names => do
      let binding ←
        if o.isTable (some f.name) name then
          match arguments with
          | .variable argument :: _ => do pure (Binding.table (← tableOf argument))
          | _ => do pure (Binding.table (← newTable .empty))
        else
          match arguments with
          | e :: _ => do pure (Binding.value (← evaluate o fuel e))
          | [] => pure (Binding.value .unset)
      return (name, binding) :: (← bindArguments o fuel f (arguments.drop 1) names)

/-- Where something is written to. -/
def targetOf (o : Setting) : (fuel : Nat) → Target Expr → Act (Target (List Char))
  | 0, _ => throw .exit
  | fuel + 1, target => do
      match target with
      | .output => return .output
      | .file e => do return .file (← textOf (← evaluate o fuel e))
      | .append e => do return .append (← textOf (← evaluate o fuel e))
      | .command e => do return .command (← textOf (← evaluate o fuel e))

/-- Does what a statement says. -/
def execute (o : Setting) : (fuel : Nat) → Statement → Act Unit
  | 0, _ => throw .exit
  | fuel + 1, s => do
      match s with
      | .expr e => discard (evaluate o fuel e)
      | .print values target => do
          let values ← if values.isEmpty then do pure [← getRecord] else evaluateAll o fuel values
          printTo o (← targetOf o fuel target) values
      | .printf values target => do
          let text ← formatted o "printf" (← evaluateAll o fuel values)
          writeToTarget o (← targetOf o fuel target) text
      | .delete table indices? => do
          let id ← tableOf table
          match indices? with
          | none => putTable id .empty
          | some indices => do
              let key ← keyOf (← evaluateAll o fuel indices)
              changeTable id fun t => ((), t.remove key)
      | .block body => executeAll o fuel body
      | .choice test yes no? => do
          if (← evaluate o fuel test).isTrue then execute o fuel yes
          else
            match no? with
            | some no => execute o fuel no
            | none => return ()
      | .repeatWhile test body => whileLoop o fuel (some test) body none
      | .repeatUntil body test => do
          if ← loopStep (execute o fuel body) then whileLoop o fuel (some test) body none
      | .count first? test? next? body => do
          first?.forM fun e => discard (evaluate o fuel e)
          whileLoop o fuel test? body next?
      | .forKeys name table body => do
          let id ← tableOf table
          keyLoop o fuel name (← changeTable id Table.keys) body
      | .next => throw .next
      | .nextFile => throw .nextFile
      | .exit status? => do
          status?.forM fun e => do
            let n := clampedInteger (← evaluate o fuel e).toNumber
            modify fun m => { m with status := (n % 256).toNat }
          throw .exit
      | .result value? => do
          match value? with
          | some e => throw (.result (← evaluate o fuel e))
          | none => throw (.result .unset)
      | .leave => throw .leave
      | .continue => throw .continue

/-- Does what statements say. -/
def executeAll (o : Setting) : (fuel : Nat) → List Statement → Act Unit
  | 0, _ => throw .exit
  | _ + 1, [] => return ()
  | fuel + 1, s :: rest => do
      execute o fuel s
      executeAll o fuel rest

/-- Runs a body as long as a condition holds. -/
def whileLoop (o : Setting) : (fuel : Nat) → Option Expr → Statement → Option Expr → Act Unit
  | 0, _, _, _ => throw .exit
  | fuel + 1, test?, body, next? => do
      let holds ← match test? with
        | some test => do pure (← evaluate o fuel test).isTrue
        | none => pure true
      if holds then
        if ← loopStep (execute o fuel body) then
          next?.forM fun e => discard (evaluate o fuel e)
          whileLoop o fuel test? body next?

/-- Runs a body for keys. -/
def keyLoop (o : Setting) : (fuel : Nat) → String → List (List Char) → Statement → Act Unit
  | 0, _, _, _ => throw .exit
  | _ + 1, _, [], _ => return ()
  | fuel + 1, name, key :: keys, body => do
      setVariable o name (.text key)
      if ← loopStep (execute o fuel body) then keyLoop o fuel name keys body

end

/-! ## Rules -/

/-- How many steps a rule may take. -/
def maxSteps : Nat := 1 <<< 24

/-- Does what a rule says. -/
def runBody (o : Setting) (rule : Rule) : Act Unit := do
  match rule.body? with
  | some body => execute o maxSteps body
  | none => printTo o .output [← getRecord]

/-- Runs the rules of a kind. -/
def runOnce (o : Setting) (isWanted : Selection → Bool) : Act Unit :=
  o.program.rules.forM fun rule => do
    if isWanted rule.selection then runBody o rule

/-- Whether a rule is for the record. -/
def isSelected (o : Setting) (rule : Rule) (place : Nat) : Act Bool := do
  let holds (e : Expr) : Act Bool := do return (← evaluate o maxSteps e).isTrue
  match rule.selection with
  | .start | .finish => return false
  | .always => return true
  | .matching test => holds test
  | .range first last => do
      let isOpen := (← get).openRanges.contains place
      if !isOpen && !(← holds first) then return false
      else
        let isLast ← holds last
        modify fun m => { m with
          openRanges :=
            if isLast then m.openRanges.filter (· != place)
            else if isOpen then m.openRanges else place :: m.openRanges }
        return true

/-- Runs the rules for the record. -/
def runRules (o : Setting) : Act Unit :=
  o.program.rules.zipIdx.forM fun (rule, place) => do
    if ← isSelected o rule place then runBody o rule

/-- Runs the rules for each record that is left. -/
def runRecords (o : Setting) : (fuel : Nat) → Act Unit
  | 0 => return ()
  | fuel + 1 => do
      match ← readSource? o (1 <<< 20) with
      | none => return ()
      | some record => do
          setRecord record
          tryCatch (runRules o) fun jump =>
            match jump with
            | .next => return ()
            | .nextFile => modify fun m => { m with source? := none }
            | jump => throw jump
          runRecords o fuel

/-- Runs a program: the rules before the first record, those for records, and those behind
the last one. -/
def runProgram (o : Setting) : Act Unit := do
  let isStart (s : Selection) : Bool := match s with
    | .start => true
    | _ => false
  let isFinish (s : Selection) : Bool := match s with
    | .finish => true
    | _ => false
  let reads := o.program.rules.any fun r => !isStart r.selection
  let untilExit (act : Act Unit) : Act Unit :=
    tryCatch act fun jump =>
      match jump with
      | .exit | .result _ => return ()
      | jump => throw jump
  tryCatch (do
    let hasExit ← tryCatch (do
      runOnce o isStart
      return false) fun jump =>
        match jump with
        | .exit => return true
        | jump => throw jump
    if reads then
      if !hasExit then untilExit (runRecords o maxSteps)
      modify fun m => { m with locals := [] }
      untilExit (runOnce o isFinish)) fun _ => return ()
  tryCatch (closeAll o) fun _ => return ()

/-! ## Command line -/

/-- The state at the start, with arguments and exported variables. -/
def Machine.start (arguments : List (List Char)) (environment : List (String × List Char))
    (clock : Nat) : Machine where
  vars := Std.HashMap.ofList
    [("ARGC", .ofNat arguments.length), ("CONVFMT", .text "%.6g".toList), ("FILENAME", .text []),
      ("FNR", .ofNat 0), ("FS", .text [' ']), ("NR", .ofNat 0), ("OFMT", .text "%.6g".toList),
      ("OFS", .text [' ']), ("ORS", .text ['\n']), ("RLENGTH", .number (numberOf (-1))),
      ("RS", .text ['\n']), ("RSTART", .ofNat 0), ("SUBSEP", .text ['\x1c'])]
  tables := Std.HashMap.ofList
    [(0, arguments.zipIdx.foldl (fun t (a, n) => t.set (.number n) (.ofInput a)) .empty),
      (1, environment.foldl (fun t (name, v) => t.set (.text name.toList) (.ofInput v)) .empty)]
  tableNames := Std.HashMap.ofList [("ARGV", 0), ("ENVIRON", 1)]
  nextTable := 2
  locals := []
  record? := some (.text [])
  fields? := some #[]
  splitter := .blanks
  openRanges := []
  pending := []
  inputs := []
  outputs := [⟨standardName, .standard⟩]
  source? := none
  nextArgument := 1
  hasSource := false
  isOver := false
  seed := .ofNat (clock / 1000000)
  random := clock * 7919
  status := 0

/-- What the options of a command line ask for. -/
structure Request where
  /-- The files that hold the program. -/
  files : List (List Char)
  /-- The options that mean nothing. -/
  vacuous : List (List Char)
  separator? : Option (List Char)
  assignments : List (List Char)

/-- What a command line asks for that is not a program to be run. -/
inductive Refusal where
  | usage
  | version
  /-- Something is wrong with an option. -/
  | fault (text : List Char)

/-- The words of options that say more, with whether they take an argument. -/
def longOptions : List (String × Bool) :=
  [("version", false), ("dump", false), ("help", false), ("usage", false), ("exec", true),
    ("interactive", false), ("posix_space", false), ("posix", false), ("random", true),
    ("sprintf", true), ("compat", false), ("traditional", false), ("re-interval", false),
    ("lint", false)]

/-- What is said about the use of the program. -/
def usageLines : List String :=
  ["Usage: mawk [Options] [Program] [file ...]",
    "",
    "Program:",
    "    The -f option value is the name of a file containing program text.",
    "    If no -f option is given, a \"--\" ends option processing; the following",
    "    parameters are the program text.",
    "",
    "Options:",
    "    -f program-file  Program  text is read from file instead of from the",
    "                     command-line.  Multiple -f options are accepted.",
    "    -F value         sets the field separator, FS, to value.",
    "    -v var=value     assigns value to program variable var.",
    "    --               unambiguous end of options.",
    "",
    "    Implementation-specific options are prefixed with \"-W\".  They can be",
    "    abbreviated:",
    "",
    "    -W version       show version information and exit.",
    "    -W compat        pre-POSIX 2001.",
    "    -W dump          show assembler-like listing of program and exit.",
    "    -W help          show this message and exit.",
    "    -W interactive   set unbuffered output, line-buffered input.",
    "    -W exec file     use file as program as well as last option.",
    "    -W posix         stricter POSIX checking.",
    "    -W random=number set initial random seed.",
    "    -W sprintf=number adjust size of sprintf buffer.",
    "    -W usage         show this message and exit."]

/-- The options at the start of arguments, and the operands. -/
def readOptions : (fuel : Nat) → Request → List (List Char) →
    Except Refusal (Request × List (List Char))
  | 0, request, arguments => .ok (request, arguments)
  | fuel + 1, request, arguments =>
      let withArgument (letter : Char) (more : List Char) (rest : List (List Char))
          (use : List Char → List (List Char) → Except Refusal (Request × List (List Char))) :
          Except Refusal (Request × List (List Char)) :=
        match more, rest with
        | [], [] => .error (.fault ("option -".toList ++ letter :: " lacks argument".toList))
        | [], a :: rest => use a rest
        | more, rest => use more rest
      let named (isWord : Bool) (text : List Char) (rest : List (List Char)) :
          Except Refusal (Request × List (List Char)) :=
        let name := text.takeWhile (· != '=')
        match longOptions.find? fun w => !name.isEmpty && name.isPrefixOf w.1.toList with
        | some ("version", _) => .error .version
        | some ("help", _) | some ("usage", _) => .error .usage
        | some ("exec", _) =>
            match rest with
            | a :: rest => .ok ({ request with files := request.files ++ [a] }, rest)
            | [] => .error (.fault "option -W lacks argument".toList)
        | some _ => readOptions fuel request rest
        | none =>
            if isWord then .error (.fault ("not an option: --".toList ++ text))
            else readOptions fuel { request with vacuous := request.vacuous ++ [text] } rest
      match arguments with
      | ['-', '-'] :: rest => .ok (request, rest)
      | ('-' :: '-' :: text) :: rest => named true text rest
      | ('-' :: 'W' :: more) :: rest => withArgument 'W' more rest (named false)
      | ('-' :: 'f' :: more) :: rest =>
          withArgument 'f' more rest fun a rest =>
            readOptions fuel { request with files := request.files ++ [a] } rest
      | ('-' :: 'F' :: more) :: rest =>
          withArgument 'F' more rest fun a rest =>
            readOptions fuel { request with separator? := some a } rest
      | ('-' :: 'v' :: more) :: rest =>
          withArgument 'v' more rest fun a rest =>
            if (assignmentOf? a).isNone then
              .error (.fault ("improper assignment: -v ".toList ++ a))
            else readOptions fuel { request with assignments := request.assignments ++ [a] } rest
      | ('-' :: c :: more) :: _ => .error (.fault ("not an option: -".toList ++ c :: more))
      | operands => .ok (request, operands)

/-- The text of a program that options name, or that is an operand; the name of the file that
it is from, and the operands that are left. -/
def programText (o : List Char) (request : Request) (operands : List (List Char)) :
    Job (Option (List Char × List Char × List (List Char))) := do
  match request.files, operands with
  | [], text :: rest => return some (text, [], rest)
  | [], [] => return none
  | files, operands => do
      let texts ← files.mapM fun name => do
        match ← readOperand name with
        | .ok text => return some text
        | .error fault => do
            complain (o ++ ": cannot open \"".toList ++ name ++ "\" (".toList ++
              fault.words.toList ++ [')'])
            return none
      if texts.any Option.isNone then return none
      else
        return some (List.intercalate ['\n'] (texts.filterMap id), files.getLastD [], operands)

/-- Runs a program with its arguments. -/
def runAwk (run : Runner) : Tool := fun arguments => do
  let session ← get
  let name := baseOfPath session.program
  finishWith 0
  match readOptions (arguments.length + 1) ⟨[], [], none, []⟩ arguments with
  | .error (.fault text) => do
      complain (name ++ ": ".toList ++ text)
      finishWith 2
  | .error .version => emit "mawk 1.3.4 20240123\n".toList
  | .error .usage =>
      emit (unlines (usageLines.map String.toList))
  | .ok (request, operands) => do
      request.vacuous.forM fun text =>
        complain (name ++ ": vacuous option: -W \"".toList ++ text ++ ['"'])
      if request.files.isEmpty && operands.isEmpty then
        if arguments.isEmpty then usageLines.forM fun l => complain l.toList
      else
        match ← programText name request operands with
        | none => finishWith 2
        | some (text, file, operands) =>
            match Program.read text with
            | .error complaints => do
                let front := if file.isEmpty then [] else file ++ ": ".toList
                complaints.forM fun c => complain (name ++ ": ".toList ++ front ++ c)
                finishWith 2
            | .ok program => do
                let o : Setting := ⟨name, run, program⟩
                let act : Act Unit := do
                  let given ← tryCatch (do
                    request.separator?.forM fun text => do
                      match splitterOf (unescaped text) with
                      | .ok _ => setGlobal o "FS" (.text (unescaped text))
                      | .error fault =>
                          fail o ("line 0: regular expression compile failed (".toList ++
                            fault.words.toList ++ ")\n".toList ++ unescaped text)
                    request.assignments.forM fun a => do
                      match assignmentOf? a with
                      | some (name, value) => assignGiven o name value
                      | none => return ()
                    return true) fun _ => return false
                  if given then runProgram o
                let machine := Machine.start (name :: operands) session.environment session.clock
                let (_, machine) ← (act.run).run machine
                finishWith machine.status

end DesiredState.Tools.Awk
