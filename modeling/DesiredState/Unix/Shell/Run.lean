import DesiredState.Unix.Shell.Arithmetic
import DesiredState.Unix.Shell.Lookup
import DesiredState.Unix.Tools

/-!
# Running shell scripts

A script is run on a session.  Steps that end more than themselves do so at once;
what was written before is kept.

Expansion and execution need each other, and a script may loop, so both take
fuel.

## Main definitions

* `runSource` — the commands of a text, one line after another.
* `runProcess` — a job with what is done at the end of a script.
* `runProgram` — a program by its name.
-/

namespace DesiredState.Shell

open Pattern

/-! ## New shells -/

/-- The session of a new shell, which keeps of a session what programs are given. -/
def Session.newShell (s : Session) (name : List Char) (options : List Char) : Session :=
  let directory :=
    match s.valueOf? "PWD".toList with
    | some path =>
        if path.head? = some '/' &&
            (match s.findNode path true with
              | .ok id => id == s.directoryNode
              | .error _ => false) then path
        else octetsOf (s.files.pathOf s.directoryNode).toList
    | none => octetsOf (s.files.pathOf s.directoryNode).toList
  let given := s.vars.filter fun v =>
    v.2.isExported && v.2.value?.isSome && isVariableName v.1.toList
  let own := ownVariables.map fun (name, v) =>
    if name = "PPID" then (name, .plain (writeNat s.shellProcess)) else (name, v)
  let vars := given.foldl (fun vs (name, v) =>
    if name = "IFS" || name = "OPTIND" || name = "PPID" then vs
    else Entries.insert vs name { v with isConstant := false }) own
  { s with
    shellName := name
    arguments := []
    vars := Entries.insert vars "PWD" (.exported directory)
    functions := []
    aliases := []
    outer? := none
    options := options
    traps := []
    status := 0
    substituted := 0
    jobs := []
    lastJob? := none
    command := ""
    line := 0
    firstLine := 1
    loops := 0
    directory := directory
    remembered := []
    optionIndex := 1
    optionOffset := 0
    shellProcess := s.process
    pending := s.pending.filter fun p => p.process != s.process }

/-- The complaint of a shell about its arguments. -/
def aboutArguments (name complaint : List Char) : List Char :=
  name ++ ": 0: ".toList ++ complaint

/-! ## Parts of a script -/

/-- Runs a job as a command of the shell under its name.  It is a failure if something
could not be written. -/
def asCommand (name : String) (job : Job Unit) : Job Unit := fun s =>
  let checked : Job Unit := do
    spend 10
    job
    if (← get).writeFault?.isSome then
      complainHere (name.toList ++ ": I/O error".toList)
      modify fun s => { s with writeFault? := none, status := s.status ||| 1 }
  thenAlways checked (fun after => { after with command := s.command }) { s with command := name }

/-- Runs a job as a program under its name.  It is a failure if something could not be
written. -/
def asProgram (name : List Char) (job : Job Unit) : Job Unit := do
  modify fun s => { s with
    program := name
    command := ""
    vars := s.vars.filter fun v => v.2.isExported && v.2.value?.isSome }
  spend 1000
  job
  (← get).writeFault?.forM fun fault => do
    complain (name ++ ": write error: ".toList ++ fault.words.toList)
    modify fun s => { s with writeFault? := none, status := 1 }

/-- Ends the script if its last command failed and an option asks for that. -/
def endIfFailed (isTested : Bool) : Job Unit := do
  let s ← get
  if !isTested && s.status ≠ 0 && s.options.contains 'e' then throw (.exited s.status)

/-- How a step of a loop ended. -/
inductive LoopStep where
  | finished
  /-- The next step is to be made. -/
  | next
  /-- The loop is left. -/
  | left
  deriving DecidableEq, Repr

/-- Runs a step of a loop. -/
def inLoop (job : Job Unit) : Job LoopStep := do
  match ← observe job with
  | .ok () => return .finished
  | .error (.broken (n + 2)) => throw (.broken (n + 1))
  | .error (.broken _) => return .left
  | .error (.continued (n + 2)) => throw (.continued (n + 1))
  | .error (.continued _) => return .next
  | .error ending => throw ending

/-- Runs a job inside of one more loop. -/
def withLoop (job : Job Unit) : Job Unit := fun s =>
  thenAlways job (fun after => { after with loops := s.loops }) { s with loops := s.loops + 1 }

/-- Complains about a program that is not there, or can not be run. -/
def refuseProgram (name : List Char) (fault : Fault) : Job Unit := do
  complainHere (name ++ ": ".toList ++ (faultWordsOr "not found" fault).toList)
  let isMissing := match fault with
    | .notFound | .notDirectory | .nameTooLong | .tooManyLinks => true
    | _ => !name.contains '/'
  finishWith (if isMissing then 127 else 126)

/-- Whether quotes with nothing but all arguments in them stand at the start of a
word. -/
def startsWithArguments : ShellWord → Bool
  | .text true [] :: .parameter true ['@'] .plain _ _ :: _ => true
  | _ => false

/-- The commands whose arguments may be assignments, which are not split. -/
def assigningCommands : List String := ["export", "readonly", "local", "alias"]

/-- The traps of a shell apart: only what is ignored is still ignored. -/
def ignoredTraps (traps : List (String × List Char)) : List (String × List Char) :=
  traps.filter fun t => t.2.isEmpty && t.1 != "EXIT"

/-- Writes the words of a command before it is run, behind what a variable says. -/
def emitTrace (front : List Char) (words : List (List Char)) : Job Unit :=
  discard (writeTo 2 (front ++ List.intercalate [' '] words ++ ['\n']))

/-- Takes the first signal for the shell itself that has come. -/
def takeSignal? : Job (Option PendingSignal) := do
  let s ← get
  if s.pending.isEmpty then return none
  else
    match s.pending.find? fun p => p.process == s.process && p.time ≤ s.clock with
    | none => return none
    | some p =>
        let isThis (q : PendingSignal) : Bool :=
          q.process == p.process && q.time == p.time && q.number == p.number
        let index := s.pending.findIdx isThis
        set ({ s with pending := s.pending.eraseIdx index } : Session)
        return some p

/-- The longest time that a command which is not waited for is run. -/
def longestJob : Nat := 60 * 1000000

mutual

/-- The atoms of the pieces of a word.  Texts outside of quotes may be split where
`isLoose` holds. -/
def expand (splits isLoose : Bool) : Nat → ShellWord → Job (List Atom)
  | 0, _ => return []
  | _ + 1, [] => return []
  | fuel + 1, piece :: rest => do
      if splits && (← get).arguments.isEmpty && startsWithArguments (piece :: rest) then
        expand splits isLoose fuel (rest.drop 1)
      else
        let atoms ← expandPiece splits isLoose fuel piece
        return atoms ++ (← expand splits isLoose fuel rest)

/-- The atoms of a piece of a word. -/
def expandPiece (splits isLoose : Bool) : Nat → WordPiece → Job (List Atom)
  | 0, _ => return []
  | fuel + 1, piece => do
      match piece with
      | .text isQuoted cs =>
          return if isQuoted || isLoose then atomsOfValue isQuoted cs
            else cs.map (.fixed · false)
      | .output isQuoted body =>
          return atomsOfValue isQuoted (dropLastLineEnds (← outputOf fuel body))
      | .formula isQuoted expression =>
          let text ← textOf fuel expression
          let s ← get
          match valueOfFormula (fun name => (s.parameter? name).getD []) text with
          | .ok (i, assigned) =>
              assigned.forM fun (name, n) => assign name (writeInt n)
              return atomsOfValue isQuoted (writeInt i)
          | .error fault => giveUp (fault.message text)
      | .parameter isQuoted name rule emptyToo word =>
          let s ← get
          let value? := s.parameter? name
          let isSet := value?.any fun v => !(emptyToo && v.isEmpty)
          /- The atoms of the value. -/
          let plain : List Atom :=
            if name = ['@'] && splits then atomsOfValues isQuoted s.arguments
            else if name = ['*'] && splits && !isQuoted then atomsOfValues false s.arguments
            else atomsOfValue isQuoted (value?.getD [])
          let mustBeSet := value?.isNone && s.options.contains 'u'
          match rule with
          | .plain =>
              if mustBeSet then giveUp (name ++ ": parameter not set".toList) else return plain
          | .length =>
              if mustBeSet then giveUp (name ++ ": parameter not set".toList)
              else return atomsOfValue isQuoted (writeNat (value?.getD []).length)
          | .trim atEnd longest =>
              if mustBeSet then giveUp (name ++ ": parameter not set".toList)
              else
                let pattern := markedText (← expand false false fuel (s.withHome word))
                return atomsOfValue isQuoted (trimmed atEnd longest pattern (value?.getD []))
          | .orElse =>
              if isSet then return plain
              else expand splits (!isQuoted) fuel (if isQuoted then word else s.withHome word)
          | .ifSet =>
              if isSet then
                expand splits (!isQuoted) fuel (if isQuoted then word else s.withHome word)
              else return atomsOfValue isQuoted []
          | .assign =>
              if isSet then return plain
              else
                let text ← textOf fuel (if isQuoted then word else s.withHome word)
                if isVariableName name then
                  assign name text
                  return atomsOfValue isQuoted text
                else giveUp (name ++ ": bad variable name".toList)
          | .demand =>
              if isSet then return plain
              else
                let text ← textOf fuel word
                giveUp (name ++ ": ".toList ++
                  if !word.isEmpty then text
                  else if emptyToo then "parameter not set or null".toList
                  else "parameter not set".toList)
          | .unknown => giveUp "Bad substitution".toList

/-- The text that a word expands to without being split. -/
def textOf : Nat → ShellWord → Job (List Char)
  | 0, _ => return []
  | fuel + 1, word => do return textOfAtoms (← expand false false fuel word)

/-- The words that words expand to. -/
def expandAll (assigns : Bool) : Nat → List ShellWord → Job (List (List Char))
  | 0, _ => return []
  | _ + 1, [] => return []
  | fuel + 1, word :: rest => do
      let texts ←
        if assigns && (Read.assignment? word).isSome then
          pure [← textOf fuel ((← get).withHomesInArgument word)]
        else do
          let atoms ← expand true false fuel ((← get).withHome word)
          let s ← get
          pure ((wordsOfAtoms s.separators atoms).flatMap s.pathsOf)
      return texts ++ (← expandAll assigns fuel rest)

/-- What a command writes to the output.  It works on a copy of the session. -/
def outputOf : Nat → Command → Job (List Char)
  | 0, _ => return []
  | fuel + 1, body => do
      let before ← get
      match body with
      | .nothing =>
          set { before with substituted := 0 }
          return []
      | _ =>
          spend 300
          let start := (← get).openLevel
          apart { start with traps := ignoredTraps start.traps }
            (runProcess fuel (run fuel false body))
          let (after, text) := (← get).closeLevel
          set { after with substituted := after.status, status := before.status }
          return text

/-- Assigns the values of words; answers the assignments as texts. -/
def assignAll : Nat → List (List Char × ShellWord) → Job (List (List Char))
  | 0, _ => return []
  | _ + 1, [] => return []
  | fuel + 1, (name, word) :: rest => do
      let value ← textOf fuel ((← get).withHomes true word)
      assign name value
      return (name ++ '=' :: value) :: (← assignAll fuel rest)

/-- Sets where streams go; answers whether that was possible. -/
def redirectAll : Nat → List Redirect → Job Bool
  | 0, _ => return true
  | _ + 1, [] => return true
  | fuel + 1, r :: rest => do
      let isFine ← match r with
        | .to stream sign target => do
            redirectStream stream sign (← textOf fuel ((← get).withHome target))
        | .document stream content => do
            let text ← textOf fuel content
            modify fun s => s.openStream stream (.text text s.clock)
            pure true
      if isFine then redirectAll fuel rest else return false

/-- Writes the words of a command before it is run, if an option asks for that. -/
def trace : Nat → List (List Char) → Job Unit
  | 0, _ => return ()
  | fuel + 1, words => do
      let s ← get
      if s.options.contains 'x' then
        let front := s.valueOf "PS4"
        let source := ScriptSource.ofText front 1 []
        match Read.pieces .document true 0 source.steps source with
        | .ok (pieces, _) =>
            set { s with options := s.options.filter (· != 'x') }
            let text ← textOf fuel pieces
            modify fun after => { after with options := s.options, status := s.status }
            emitTrace text words
        | .error _ => emitTrace front words

/-- Does what is to be done on signals that have come. -/
def heedSignals : Nat → Job Unit
  | 0 => return ()
  | fuel + 1 => do
      match ← takeSignal? with
      | none => return ()
      | some p =>
          let s ← get
          let action? := if p.number = 9 then none else Entries.get? s.traps (nameOfSignal p.number)
          match action?, signal? p.number with
          | some action, _ =>
              runSource fuel false false action
              finishWith s.status
          | none, some signal =>
              if signal.ends then
                set { s.dropWritten s.process s.process p.time with clock := p.time }
                throw (.killed p.number)
          | none, none => throw (.killed p.number)
          heedSignals fuel

/-- Runs a command.  Where `isTested` holds, it may fail without ending the
script. -/
def run : Nat → Bool → Command → Job Unit
  | 0, _, _ => return ()
  | fuel + 1, isTested, c => do
      let isIdle := (← get).options.contains 'n'
      match if isIdle then .nothing else c with
      | .nothing => return ()
      | .simple line assignments words redirects =>
          modify fun s => { s with line := line, substituted := 0 }
          runSimple fuel isTested assignments words redirects
          heedSignals fuel
          endIfFailed isTested
      | .negate c =>
          run fuel true c
          finishIf ((← get).status != 0)
      | .andThen first second =>
          run fuel true first
          if (← get).status = 0 then run fuel isTested second
      | .orElse first second =>
          run fuel true first
          if (← get).status ≠ 0 then run fuel isTested second
      | .sequence first second =>
          run fuel isTested first
          run fuel isTested second
      | .pipe first second =>
          runPipe fuel isTested first second
          heedSignals fuel
          endIfFailed isTested
      | .background c => runBackground fuel c
      | .apart body =>
          spend 300
          let s ← get
          runApart fuel { s with traps := ignoredTraps s.traps } (run fuel isTested body)
          heedSignals fuel
          endIfFailed isTested
      | .choose test body otherwise =>
          run fuel true test
          if (← get).status = 0 then run fuel isTested body
          else
            finishWith 0
            run fuel isTested otherwise
      | .loop isUntil test body => withLoop (runLoop fuel isTested isUntil test body 0)
      | .forEach name words? body =>
          let values ← match words? with
            | some words => expandAll false fuel words
            | none => do pure (← get).arguments
          finishWith 0
          withLoop (runEach fuel isTested name body values)
      | .select line word branches =>
          modify fun s => { s with line := line }
          let text ← textOf fuel ((← get).withHome word)
          finishWith 0
          runFirst fuel isTested text branches
      | .define line name body =>
          modify fun s => { s with
            functions := Entries.insert s.functions (String.ofList name) (line, body)
            status := 0 }
      | .redirected line body redirects =>
          modify fun s => { s with line := line }
          withStreams redirects do
            if ← redirectAll fuel redirects then run fuel isTested body else finishWith 2

/-- Runs a job on a session of its own as a process, and tells of a signal that ends
it. -/
def runApart : Nat → Session → Job Unit → Job Unit
  | 0, _, _ => return ()
  | fuel + 1, session, job => do
      match ← observe (apart session (runProcess fuel job)) with
      | .error (.killed n) => do
          let s ← get
          let isOver := s.deadline?.any (· ≤ s.clock)
          if isOver then throw (.killed n)
          let text := ((signal? n).map Signal.text).getD ""
          if !text.isEmpty then complain text.toList
          finishWith (128 + n)
      | .error ending => throw ending
      | .ok () => return ()

/-- Runs two commands, of which the second one reads what the first one writes. -/
def runPipe : Nat → Bool → Command → Command → Job Unit
  | 0, _, _, _ => return ()
  | fuel + 1, isTested, first, second => do
      spend 300
      let before ← get
      let traps := ignoredTraps before.traps
      let start := before.openLevel
      runApart fuel { start with traps := traps } (run fuel isTested first)
      let (between, text) := (← get).closeLevel
      set { between with clock := before.clock }
      let fed := { between with clock := before.clock }.openStream 0 (.text text between.clock)
      runApart fuel { fed with traps := traps } (run fuel isTested second)
      modify fun s => { s with clock := max s.clock between.clock }

/-- Runs a command that is not waited for. -/
def runBackground : Nat → Command → Job Unit
  | 0, _ => return ()
  | fuel + 1, c => do
      let before ← get
      let start := { before with clock := before.clock + 500 }.openStream 0 .nowhere
      let session := { start with
        traps := ignoredTraps before.traps
        deadline? := some (before.clock + longestJob) }
      let result ← observe (apart session (runProcess fuel (run fuel false c)))
      let endedBy? := match result with
        | .error (.killed n) => some n
        | _ => none
      let after ← get
      let process := firstProcess + before.processes
      let job : BackgroundJob := {
        number := before.freshJobNumber
        process := process
        lastProcess := firstProcess + after.processes - 1
        ended := after.clock
        status := match endedBy? with
          | some n => 128 + n
          | none => after.status
        endedBy? := endedBy?
        isWaited := false
        isTold := false }
      let others := after.jobs.filter fun j => j.number != job.number || j.isTold
      set { after with
        clock := before.clock + 100
        status := 0
        jobs := job :: others.map fun j => j
        lastJob? := some process }

/-- Runs a command as long as a test says so; `last` is the status of the last
step. -/
def runLoop : Nat → (isTested isUntil : Bool) → Command → Command → Nat → Job Unit
  | 0, _, _, _, _, _ => return ()
  | fuel + 1, isTested, isUntil, test, body, last => do
      match ← inLoop (run fuel true test) with
      | .left => return ()
      | .next => runLoop fuel isTested isUntil test body last
      | .finished =>
          if ((← get).status = 0) == isUntil then finishWith last
          else if (← inLoop (run fuel isTested body)) = .left then return ()
          else runLoop fuel isTested isUntil test body (← get).status

/-- Runs a command for each of some values. -/
def runEach : Nat → Bool → List Char → Command → List (List Char) → Job Unit
  | 0, _, _, _, _ => return ()
  | _ + 1, _, _, _, [] => return ()
  | fuel + 1, isTested, name, body, value :: rest => do
      assign name value
      if (← inLoop (run fuel isTested body)) = .left then return ()
      else runEach fuel isTested name body rest

/-- Runs the first of some commands that has a pattern for a text. -/
def runFirst : Nat → Bool → List Char → List (List ShellWord × Command) → Job Unit
  | 0, _, _, _ => return ()
  | _ + 1, _, _, [] => return ()
  | fuel + 1, isTested, text, (patterns, body) :: rest => do
      if ← takesOne fuel text patterns then run fuel isTested body
      else runFirst fuel isTested text rest

/-- Whether one of some patterns takes a text. -/
def takesOne : Nat → List Char → List ShellWord → Job Bool
  | 0, _, _ => return false
  | _ + 1, _, [] => return false
  | fuel + 1, text, word :: rest => do
      let pattern := markedText (← expand false false fuel ((← get).withHome word))
      if globTakes (ofGlob pattern) text then return true else takesOne fuel text rest

/-- Runs a simple command.  Assignments in front of it last longer than the command
only if it is part of the language, or if there is none. -/
def runSimple : Nat → Bool → List (List Char × ShellWord) → List ShellWord → List Redirect →
    Job Unit
  | 0, _, _, _, _ => return ()
  | fuel + 1, isTested, assignments, words, redirects => do
      let assigns := (words.head?.bind bareText?).any fun name =>
        assigningCommands.contains (String.ofList name)
      match ← expandAll assigns fuel words with
      | [] =>
          let texts ← assignAll fuel assignments
          if !texts.isEmpty then trace fuel texts
          withStreams redirects do
            let isFine ← redirectAll fuel redirects
            let s ← get
            finishWith (if isFine then s.substituted else 2)
      | name :: arguments =>
          let before ← get
          let texts ← assignAll fuel assignments
          trace fuel (texts ++ name :: arguments)
          let key := String.ofList name
          let isPart := languageCommands.contains key
          let runIt : Job Unit := do
            if ← redirectAll fuel redirects then runNamed fuel isTested true key arguments
            else if isPart then throw (.exited 2)
            else finishWith 2
          if key = "exec" && arguments.isEmpty then runIt
          else if isPart || assignments.isEmpty then withStreams redirects runIt
          else
            let names := assignments.map Prod.fst
            modify fun s => names.foldl (fun s name =>
              s.changeVariable name fun v => { v with isExported := true }) s
            thenAlways (withStreams redirects runIt) fun s =>
              s.restored (names.map fun name => (String.ofList name, before.variableOf? name))

/-- Runs what a name stands for: a command that is part of the language, a function,
another command of the shell, or a program. -/
def runNamed : Nat → (isTested withFunctions : Bool) → String → List (List Char) → Job Unit
  | 0, _, _, _, _ => return ()
  | fuel + 1, isTested, withFunctions, name, arguments => do
      let s ← get
      let function? :=
        if withFunctions && !languageCommands.contains name then
          Entries.get? s.functions name
        else none
      match function?, builtin? name, name with
      | some (line, body), _, _ => runFunction fuel isTested line body arguments
      | none, some command, _ => asCommand name (command arguments)
      | none, none, "eval" =>
          let source := List.intercalate [' '] arguments
          if source.all fun c => c == ' ' || c == '\n' then finishWith 0
          else asCommand name (runSource fuel isTested false source)
      | none, none, "." => asCommand name (runFile fuel isTested arguments)
      | none, none, "exec" =>
          match arguments with
          | ['-', '-'] :: program :: rest | program :: rest => do
              modify fun s => { s with traps := [] }
              asCommand name (runOther fuel program rest)
              throw (.exited (← get).status)
          | [] => return ()
      | none, none, "command" => runCommand fuel isTested arguments
      | none, none, "type" =>
          let places := s.programPlaces
          let isFine ← arguments.foldlM (fun isFine name => do
            return (← describeCommand false places name) && isFine) true
          finishWith (if isFine then 0 else 127)
      | none, none, "hash" => asCommand name (runHash arguments)
      | none, none, name => runOther fuel name.toList arguments

/-- Runs a command without looking at functions, or says what a name stands for. -/
def runCommand : Nat → Bool → List (List Char) → Job Unit
  | 0, _, _ => return ()
  | fuel + 1, isTested, arguments => do
      match flagsOf "pvV" (arguments.length + 8) arguments with
      | .error complaint => asCommand "command" (refuse complaint)
      | .ok (flags, operands) =>
          let s ← get
          let places := if hasFlag flags 'p' then usualPlaces else s.programPlaces
          let isShort := hasFlag flags 'v'
          match operands with
          | [] => finishWith 0
          | name :: rest =>
              if isShort || hasFlag flags 'V' then
                let isFine ← operands.foldlM (fun isFine name => do
                  return (← describeCommand (!hasFlag flags 'V') places name) && isFine) true
                finishWith (if isFine then 0 else 127)
              else if hasFlag flags 'p' then
                let old? := s.variableOf? "PATH".toList
                modify fun s => s.changeVariable "PATH".toList fun v =>
                  { v with value? := some usualPlaces }
                thenAlways (runNamed fuel isTested false (String.ofList name) rest) fun s =>
                  s.restored [("PATH", old?)]
              else runNamed fuel isTested false (String.ofList name) rest

/-- Runs a function: its arguments take the place of those of the script. -/
def runFunction : Nat → Bool → Nat → Command → List (List Char) → Job Unit
  | 0, _, _, _, _ => return ()
  | fuel + 1, isTested, line, body, arguments => do
      let before ← get
      set { before with
        arguments := arguments
        loops := 0
        outer? := some []
        firstLine := line
        optionIndex := 1
        optionOffset := 0 }
      let result ← observe (run fuel isTested body)
      modify fun s => { s.restored (s.outer?.getD []) with
        arguments := before.arguments
        loops := before.loops
        outer? := before.outer?
        firstLine := before.firstLine
        optionIndex := before.optionIndex
        optionOffset := before.optionOffset }
      match result with
      | .ok () => return ()
      | .error (.returned status) => finishWith status
      | .error ending => throw ending

/-- Runs the script in a file as a part of this one. -/
def runFile : Nat → Bool → List (List Char) → Job Unit
  | 0, _, _ => return ()
  | fuel + 1, isTested, arguments => do
      match dropOptionEnd arguments with
      | [] => finishWith 0
      | name :: _ =>
          let s ← get
          let path? := if name.contains '/' then some name
            else (pathsIn s.programPlaces name).find? fun path =>
              match s.find path with
              | .ok content => content.isFile
              | .error _ => false
          match path? with
          | none => giveUp (name ++ ": not found".toList)
          | some path =>
              let source ← match ← readPath path endlessLength with
                | .ok source => pure source
                | .error .isDirectory => pure []
                | .error fault => giveUp (notOpened path fault)
              finishWith 0
              match ← observe (runSource fuel isTested true source) with
              | .ok () => return ()
              | .error (.returned status) => finishWith status
              | .error ending => throw ending

/-- Runs a program for the shell, which waits for it. -/
def runOther : Nat → List Char → List (List Char) → Job Unit
  | 0, _, _ => return ()
  | fuel + 1, name, arguments => do
      let s ← get
      let path? : Except Fault (List Char) :=
        if name.contains '/' then .ok name else s.searchProgram s.programPlaces name
      match path? with
      | .error fault => refuseProgram name fault
      | .ok path => do
          let remembered := if name.contains '/' then s.remembered
            else Entries.insert s.remembered (String.ofList name) path
          let given := s.environment.map fun (name, value) => (name, Variable.exported value)
          set { s with remembered := remembered, vars := given }
          let result ← observe do
            match ← runProgram fuel name arguments with
            | none => return ()
            | some fault => refuseProgram name fault
          modify fun after => { after with vars := s.vars }
          match result with
          | .error (.killed n) => do
              let s ← get
              if s.deadline?.any (· ≤ s.clock) then throw (.killed n)
              let text := ((signal? n).map Signal.text).getD ""
              if !text.isEmpty then complain text.toList
              finishWith (128 + n)
          | .error ending => throw ending
          | .ok () => return ()

/-- Runs a program by its name, or answers why that is not possible. -/
def runProgram : Nat → List Char → List (List Char) → Job (Option Fault)
  | 0, _, _ => return none
  | fuel + 1, name, arguments => do
      let s ← get
      let found : Except Fault (List Char × Runnable) := do
        if name.isEmpty then throw .notFound
        let path ← if name.contains '/' then pure name else s.searchProgram s.programPlaces name
        pure (path, ← s.runnableAt path)
      match found with
      | .error fault => return some fault
      | .ok (_, .program program) =>
          apart s (asProgram name do
            if shellNames.contains program then runShell fuel name arguments
            else
              match Tools.tool? (fun name arguments => runProgram fuel name arguments) program with
              | some tool => tool arguments
              | none => finishWith 0)
          return none
      | .ok (path, .script text) =>
          match interpreterOf? text with
          | some (program, argument?) =>
              match ← runProgram fuel program (argument?.toList ++ path :: arguments) with
              | some .notFound => return some .notFound
              | other => return other
          | none =>
              apart s (asProgram name (runShell fuel name (path :: arguments)))
              return none

/-- Runs another shell. -/
def runShell : Nat → List Char → List (List Char) → Job Unit
  | 0, _, _ => return ()
  | fuel + 1, name, arguments => do
      let s ← get
      let refuseStart (complaint : List Char) : Job Unit := do
        complain (aboutArguments name complaint)
        finishWith 2
      match readOptions true [] arguments with
      | .error complaint => refuseStart complaint
      | .ok (options, operands, _) =>
          let fresh := s.newShell name (options.filter (· != 'c'))
          if options.contains 'c' then
            match operands with
            | [] => refuseStart "-c requires an argument".toList
            | source :: rest =>
                set { fresh with shellName := rest.headD name, arguments := rest.drop 1 }
                runProcess fuel (runSource fuel false false source)
          else
            match options.contains 's', operands with
            | false, file :: rest =>
                match ← readPath file endlessLength with
                | .error .isDirectory => finishWith 0
                | .error fault => refuseStart (notOpened file fault)
                | .ok source =>
                    let files := (← get).files
                    set { fresh with files := files, shellName := file, arguments := rest }
                    runProcess fuel (runSource fuel false true source)
            | _, _ =>
                set { fresh with
                  arguments := operands, options := turnOption true 's' fresh.options }
                match ← readStream 0 endlessLength with
                | .ok source => runProcess fuel (runSource fuel false true source)
                | .error _ => finishWith 0

/-- Runs a job as a process: at its end, what is to be done then is done. -/
def runProcess : Nat → Job Unit → Job Unit
  | 0, _ => return ()
  | fuel + 1, job => do
      match ← observe job with
      | .error (.killed n) => throw (.killed n)
      | .error (.exited n) | .error (.returned n) => finishWith n
      | _ => pure ()
      let s ← get
      match Entries.get? s.traps "EXIT" with
      | some action =>
          set { s with traps := s.traps.filter (·.1 != "EXIT") }
          match ← observe (runSource fuel false false action) with
          | .error (.killed n) => throw (.killed n)
          | .error (.exited n) => finishWith n
          | _ => finishWith s.status
      | none => pure ()
      modify fun s => { s with status := s.status % 256 }

/-- Runs the lines of a script; `unseen` are its lines that were not written to the
complaints yet, and `line` is the number of the first one. -/
def runLines : Nat → (isTested echoes : Bool) → List (List Char) → Nat → ScriptSource → Job Unit
  | 0, _, _, _, _, _ => return ()
  | fuel + 1, isTested, echoes, unseen, line, source => do
      let s ← get
      let source := source.withAliases s.aliases
      let result := Read.line source
      let last := match result with
        | .ok (some _, rest) => rest.line
        | .ok (none, rest) => rest.line + 1
        | .error e => e.line + 1
      let count := last - line
      if echoes && s.options.contains 'v' then
        discard (writeTo 2 (List.intercalate ['\n'] (unseen.take count) ++
          (if count < unseen.length then ['\n'] else [])))
      match result with
      | .ok (some c, rest) =>
          run fuel isTested c
          runLines fuel isTested echoes (unseen.drop count) last rest
      | .ok (none, _) => return ()
      | .error e =>
          modify fun s => { s with line := e.line, firstLine := 1 }
          giveUp ("Syntax error: ".toList ++ e.reason.toList)

/-- Runs a script. -/
def runSource : Nat → (isTested echoes : Bool) → List Char → Job Unit
  | 0, _, _, _ => return ()
  | fuel + 1, isTested, echoes, source => do
      let lines := if echoes then splitAtChar '\n' source else []
      runLines fuel isTested echoes lines 1 (.ofText source 1 (← get).aliases)

end

end DesiredState.Shell
