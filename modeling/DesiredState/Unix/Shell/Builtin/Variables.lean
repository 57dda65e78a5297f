import DesiredState.Unix.Shell.Builtin.Flags

/-!
# Commands on variables

The commands of the shell that set, mark, list and read variables, and the names that
stand for texts.

## Main definitions

* `runExport`, `runReadonly`, `runUnset`, `runLocal` — variables.
* `runRead` — variables from a line of the input.
* `runGetopts` — variables from the next option.
* `runAlias`, `runUnalias` — names that stand for texts.
-/

namespace DesiredState.Shell

/-- The name and the value of an argument that assigns. -/
def splitAssignment (a : List Char) : List Char × Option (List Char) :=
  let name := a.takeWhile (· != '=')
  (name, if name.length < a.length then some (a.drop (name.length + 1)) else none)

/-- Does something with the name and the value of each argument. -/
def eachAssignment (arguments : List (List Char))
    (step : List Char → Option (List Char) → Job Unit) : Job Unit := do
  arguments.forM fun a => do
    let (name, value?) := splitAssignment a
    if isVariableName name then step name value?
    else refuse (name ++ ": bad variable name".toList)

/-- Writes variables as commands that set them, sorted by name. -/
def listVariables (command : String) (choose : Variable → Bool) : Job Unit := do
  let chosen := (← get).vars.filter fun v => choose v.2
  (chosen.mergeSort fun a b => !(b.1 < a.1)).forM fun (name, v) =>
    let value := match v.value? with
      | some value => '=' :: quotedForShell value
      | none => []
    emit (command.toList ++ octetsOf name.toList ++ value ++ ['\n'])

/-- Marks variables, or lists those that are marked. -/
def markVariables (command : String) (isMarked : Variable → Bool) (mark : Variable → Variable)
    (arguments : List (List Char)) : Job Unit :=
  withFlags "p" arguments fun flags names => do
    if names.isEmpty || hasFlag flags 'p' then listVariables (command ++ " ") isMarked
    else
      eachAssignment names fun name value? => do
        value?.forM (assign name)
        modify fun s => s.changeVariable name mark
    finishWith 0

/-- Marks variables to be given to other programs, or lists those that are. -/
def runExport : Tool :=
  markVariables "export" Variable.isExported fun v => { v with isExported := true }

/-- Makes variables constant, or lists those that are. -/
def runReadonly : Tool :=
  markVariables "readonly" Variable.isConstant fun v => { v with isConstant := true }

/-- Unsets variables or functions. -/
def runUnset : Tool := fun arguments =>
  withFlags "vf" arguments fun flags names => do
    if (flags.getLast?.map Flag.letter) = some 'f' then
      modify fun s => { s with
        functions := s.functions.filter fun f => !names.contains f.1.toList }
    else eachAssignment names fun name _ => unassign name
    finishWith 0

/-- Gives variables values that last as long as the function that is run; a dash keeps the
options for as long. -/
def runLocal : Tool := fun arguments => do
  match (← get).outer? with
  | none => giveUp "not in a function".toList
  | some _ =>
      let keep (key : String) (old : Option Variable) : Job Unit := modify fun s =>
        let outer := s.outer?.getD []
        if (Entries.names outer).contains key then s
        else { s with outer? := some ((key, old) :: outer) }
      arguments.forM fun a => do
        if a = ['-'] then keep "-" (some (.plain (← get).options))
        else
          eachAssignment [a] fun name value? => do
            keep (String.ofList name) ((← get).variableOf? name)
            value?.forM (assign name)
      finishWith 0

/-- A session with variables and options as they were. -/
def Session.restored (s : Session) (outer : List (String × Option Variable)) : Session :=
  outer.foldl (fun s (name, old?) =>
    match name, old? with
    | "-", some v => { s with options := v.value?.getD [] }
    | name, some v => { s with vars := Entries.insert s.vars name v }
    | name, none => { s with vars := Entries.erase s.vars name }) s

/-! ## Reading lines -/

/-- The next line of the input, each character with whether a backslash stood in front
of it, and whether the line is complete; a line end behind a backslash is
dropped. -/
def lineOfInput (isRaw : Bool) :
    List Char → List (Char × Bool) → List (Char × Bool) × Bool × List Char
  | [], line => (line.reverse, false, [])
  | '\n' :: rest, line => (line.reverse, true, rest)
  | '\\' :: '\n' :: rest, line =>
      if isRaw then ((('\\', false) :: line).reverse, true, rest)
      else lineOfInput isRaw rest line
  | '\\' :: c :: rest, line =>
      if isRaw then lineOfInput isRaw (c :: rest) (('\\', false) :: line)
      else lineOfInput isRaw rest ((c, true) :: line)
  | c :: rest, line => lineOfInput isRaw rest ((c, false) :: line)

/-- Assigns the parts of a line to variables; the last one takes all that is left. -/
def assignParts (separators : List Char) (line : List (Char × Bool)) :
    List (List Char) → Job Unit
  | [] => return ()
  | name :: rest => do
      let isSeparator (c : Char × Bool) : Bool := !c.2 && separators.contains c.1
      let isBlank (c : Char × Bool) : Bool :=
        isSeparator c && (c.1 == ' ' || c.1 == '\t' || c.1 == '\n')
      let line := line.dropWhile isBlank
      if rest.isEmpty then
        assign name ((line.reverse.dropWhile isBlank).reverse.map Prod.fst)
      else
        let part := line.takeWhile fun c => !isSeparator c
        assign name (part.map Prod.fst)
        let behind := (line.drop part.length).dropWhile isBlank
        let behind := if behind.head?.any isSeparator then behind.drop 1 else behind
        assignParts separators behind rest

/-- Assigns the parts of the next line of the input to variables. -/
def runRead : Tool := fun arguments =>
  withFlags "p:r" arguments fun flags names => do
    if names.isEmpty then refuse "arg count".toList
    else
      let taken ← takeFrom 0 endlessLength fun text =>
        let (line, isComplete, rest) := lineOfInput (hasFlag flags 'r') text []
        ((line, isComplete), rest)
      let (line, isComplete) := match taken with
        | .ok taken => taken
        | .error _ => ([], false)
      if names.all isVariableName then
        assignParts (← get).separators line names
        finishIf isComplete
      else
        names.forM fun name => do
          if !isVariableName name then refuse (name ++ ": bad variable name".toList)

/-! ## Options -/

/-- What is found where the next option should be. -/
inductive NextOption where
  | finished
  /-- An option with its argument, if it takes one. -/
  | found (letter : Char) (argument? : Option (List Char))
  | unknown (letter : Char)
  | argumentMissing (letter : Char)

/-- The next option among arguments, the number of the argument behind it, and how far that
in front of it was read. -/
def nextOption (known : List Char) (arguments : List (List Char)) (index offset : Nat) :
    NextOption × Nat × Nat :=
  let current := if index ≤ 1 || offset = 0 then [] else arguments.getD (index - 2) []
  let left := current.drop offset
  let start : Option (List Char × Nat) :=
    if !left.isEmpty then some (left, index)
    else
      match arguments[index - 1]? with
      | some ['-', '-'] => none
      | some ('-' :: c :: more) => some (c :: more, index + 1)
      | _ => none
  match start with
  | none =>
      (.finished,
        if left.isEmpty && arguments[index - 1]? = some ['-', '-'] then index + 1 else index,
        0)
  | some ([], index) => (.finished, index, 0)
  | some (c :: more, index) =>
      let length := (arguments.getD (index - 2) []).length
      let offset := if more.isEmpty then 0 else length - more.length
      let others := known.dropWhile (· != c)
      if c = ':' || others.isEmpty then (.unknown c, index, offset)
      else if others[1]? = some ':' then
        if !more.isEmpty then (.found c (some more), index, 0)
        else
          match arguments[index - 1]? with
          | some argument => (.found c (some argument), index + 1, 0)
          | none => (.argumentMissing c, index, 0)
      else (.found c none, index, offset)

/-- Sets a variable to the next option. -/
def runGetopts : Tool := fun arguments => do
  match arguments with
  | known :: name :: rest => do
      let s ← get
      let operands := if rest.isEmpty then s.arguments else rest
      let (index, offset) :=
        if operands.length + 1 < s.optionIndex then (1, 0) else (s.optionIndex, s.optionOffset)
      let isQuiet := known.head? == some ':'
      let letters := if isQuiet then known.drop 1 else known
      let (next, index, offset) := nextOption letters operands index offset
      let argumentName := "OPTARG".toList
      let report (text : String) (c : Char) (behind : String) (quietly : Char) : Job Char := do
        if isQuiet then
          assign argumentName [c]
          return quietly
        else
          discard (writeTo 2 (text.toList ++ c :: behind.toList ++ ['\n']))
          unassign argumentName
          return '?'
      let letter ← match next with
        | .finished => pure '?'
        | .found c argument? => do
            assign argumentName (argument?.getD [])
            pure c
        | .unknown c => report "Illegal option -" c "" '?'
        | .argumentMissing c => report "No arg for -" c " option" ':'
      assign "OPTIND".toList (writeNat index)
      if isVariableName name then
        assign name [letter]
        modify fun s => { s with optionIndex := index, optionOffset := offset }
        finishIf (match next with
          | .finished => false
          | _ => true)
      else refuse (name ++ ": bad variable name".toList)
  | _ => refuse "Usage: getopts optstring var [arg...]".toList

/-! ## Names that stand for texts -/

/-- Writes a name with the text that it stands for. -/
def emitAlias (name : String) (text : List Char) : Job Unit :=
  emit (name.toList ++ '=' :: quotedForShell text ++ ['\n'])

/-- Lets names stand for texts, or writes what they stand for. -/
def runAlias : Tool := fun arguments => do
  finishWith 0
  if arguments.isEmpty then
    (inBuckets bucketCount (← get).aliases).forM fun (name, text) => emitAlias name text
  else
    arguments.forM fun a => do
      let name := a.take 1 ++ (a.drop 1).takeWhile (· != '=')
      let key := String.ofList name
      if name.length < a.length then
        modify fun s => { s with
          aliases := Entries.insert s.aliases key (a.drop (name.length + 1)) }
      else
        match Entries.get? (← get).aliases key with
        | some text => emitAlias key text
        | none =>
            complain ("alias: ".toList ++ name ++ " not found".toList)
            finishWith 1

/-- Lets names no longer stand for texts. -/
def runUnalias : Tool := fun arguments =>
  withFlags "a" arguments fun flags names => do
    finishWith 0
    if hasFlag flags 'a' then modify fun s => { s with aliases := [] }
    else
      names.forM fun name => do
        let key := String.ofList name
        if (Entries.get? (← get).aliases key).isSome then
          modify fun s => { s with aliases := Entries.erase s.aliases key }
        else
          complain ("unalias: ".toList ++ name ++ " not found".toList)
          finishWith 1

end DesiredState.Shell
