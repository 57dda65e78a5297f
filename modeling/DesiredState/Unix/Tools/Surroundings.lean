import DesiredState.Unix.Shell.Builtin.Processes
import DesiredState.Unix.Shell.Lookup
import DesiredState.Unix.Time.Reading
import DesiredState.Unix.Tools.FileFacts

/-!
# Surroundings of a program

Programs that tell about the system, the user, the time, and where programs are.

## Main definitions

* `runUname`, `runId`, `runDate`, `runWhich`, `runKill` and others.
-/

namespace DesiredState.Tools

open Shell

/-! ## The system -/

/-- Does something if there are no operands; else the first one is complained about. -/
def withoutOperands (forms : OptionForms) (arguments : List (List Char))
    (job : List Given → Job Unit) : Job Unit :=
  withOptions forms 1 arguments fun given operands => do
    match operands with
    | [] => job given
    | operand :: _ => misuseExtra 1 operand

/-- Options that are none. -/
def noForms : OptionForms := ⟨"", [], true, false⟩

/-- Facts about the system, by the letters of options. -/
def systemFacts : List (String × String) :=
  [("s", "Linux"), ("n", "localhost"), ("r", "6.1.0"), ("v", "#1 SMP"), ("m", "x86_64"),
    ("p", "x86_64"), ("i", "x86_64"), ("o", "GNU/Linux")]

/-- The options of `uname`. -/
def unameForms : OptionForms where
  letters := "asnrvmpio"
  words := [("all", .nothing, "a"), ("kernel-name", .nothing, "s"), ("sysname", .nothing, "s"),
    ("nodename", .nothing, "n"), ("kernel-release", .nothing, "r"), ("release", .nothing, "r"),
    ("kernel-version", .nothing, "v"), ("machine", .nothing, "m"), ("processor", .nothing, "p"),
    ("hardware-platform", .nothing, "i"), ("operating-system", .nothing, "o")]
  permutes := true

/-- Writes facts about the system. -/
def runUname : Tool := fun arguments =>
  withoutOperands unameForms arguments fun given => do
    let isAll := isGiven given "a"
    let facts := systemFacts.filter fun f =>
      isAll || isGiven given f.1 || (given.isEmpty && f.1 == "s")
    emit (List.intercalate [' '] (facts.map fun f => f.2.toList) ++ ['\n'])

/-- Writes a fact, and takes no operands. -/
def runFact (fact : String) : Tool := fun arguments =>
  withoutOperands noForms arguments fun _ => emit (fact.toList ++ ['\n'])

/-- Writes nothing, and takes one operand at most. -/
def runNobody : Tool := fun arguments =>
  withOptions noForms 1 arguments fun _ operands => do
    match operands with
    | _ :: extra :: _ => misuseExtra 1 extra
    | _ => return ()

/-- Writes how many processors there are. -/
def runNproc : Tool := fun arguments =>
  withoutOperands ⟨"", [("all", .nothing, "all"), ("ignore", .argument, "ignore")], true, false⟩
    arguments fun given => do
      let text := (lastGiven? given "ignore").getD ['0']
      match plainNumber? text with
      | some n => emit (writeNat (max 1 (4 - n)) ++ ['\n'])
      | none => failAs 1 ("invalid number: ".toList ++ (← quoted text))

/-- Writes the name of the system. -/
def runHostname : Tool := fun arguments =>
  withOptionsBy ⟨failAs 1, " 3.23"⟩ ⟨"aAbdfF:iIsy", [("short", .nothing, "s"),
    ("fqdn", .nothing, "f"), ("long", .nothing, "f"), ("domain", .nothing, "d"),
    ("ip-address", .nothing, "i")], true, false⟩ arguments fun given operands => do
      if !operands.isEmpty then failAs 1 "you must be root to change the host name".toList
      else if isGiven given "d" then emit ['\n']
      else if isGiven given "i" || isGiven given "I" then emit "127.0.0.1\n".toList
      else emit "localhost\n".toList

/-- Tells that the input is no terminal. -/
def runTty : Tool := fun arguments =>
  withOptions ⟨"s", [("silent", .nothing, "s"), ("quiet", .nothing, "s")], true, false⟩ 2 arguments
    fun given operands => do
      match operands with
      | operand :: _ => misuseExtra 2 operand
      | [] => do
          if !isGiven given "s" then emit "not a tty\n".toList
          finishWith 1

/-! ## Users -/

/-- The name and the numbers of a user and a group. -/
structure UserFacts where
  name : String
  user : List Char
  group : List Char

/-- The users of the system. -/
def userFacts : List UserFacts :=
  usualUsers.filterMap fun line =>
    match splitAtChar ':' line.toList with
    | name :: _ :: user :: group :: _ => some ⟨String.ofList name, user, group⟩
    | _ => none

/-- The user of a name or a number. -/
def userOf? (text : List Char) : Option UserFacts :=
  userFacts.find? fun u => u.name.toList == text || u.user == text

/-- The name of a group. -/
def groupName (group : List Char) : List Char :=
  match userFacts.find? fun u => u.group == group && u.group == u.user with
  | some u => u.name.toList
  | none => if group = "60".toList then "games".toList else "nogroup".toList

/-- The options of `id`. -/
def idForms : OptionForms where
  letters := "agGnruzZ"
  words := [("context", .nothing, "Z"), ("group", .nothing, "g"), ("groups", .nothing, "G"),
    ("name", .nothing, "n"), ("real", .nothing, "r"), ("user", .nothing, "u"),
    ("zero", .nothing, "z")]
  permutes := true

/-- Writes who the user is. -/
def runId : Tool := fun arguments =>
  withOptions idForms 1 arguments fun given operands => do
    let has (name : String) : Bool := isGiven given name
    let choices := ["u", "g", "G"].filter has
    if 1 < choices.length then
      failAs 1 "cannot print \"only\" of more than one choice".toList
    else if choices.isEmpty && (has "n" || has "r") then
      failAs 1 "cannot print only names or real IDs in default format".toList
    else if choices.isEmpty && has "z" then
      failAs 1 "option --zero not permitted in default format".toList
    else
      let ending := if has "z" then '\x00' else '\n'
      (if operands.isEmpty then ["root".toList] else operands).forM fun name => do
        match userOf? name with
        | none => do
            complainAs ((← quoted name) ++ ": no such user".toList)
            noteFailure
        | some u =>
            let group := groupName u.group
            let text := match choices with
              | ["u"] => if has "n" then u.name.toList else u.user
              | _ :: _ => if has "n" then group else u.group
              | [] =>
                  "uid=".toList ++ u.user ++ '(' :: u.name.toList ++ ") gid=".toList ++ u.group ++
                    '(' :: group ++ ") groups=".toList ++ u.group ++ '(' :: group ++ [')']
            emit (text ++ [ending])

/-- Writes the groups of users. -/
def runGroups : Tool := fun arguments =>
  withOptions noForms 1 arguments fun _ operands => do
    if operands.isEmpty then emit "root\n".toList
    else
      operands.forM fun name => do
        match userOf? name with
        | some u => emit (name ++ " : ".toList ++ groupName u.group ++ ['\n'])
        | none => do
            complainAs ((← quoted name) ++ ": no such user".toList)
            noteFailure

/-- Complains that nobody logged in. -/
def runLogname : Tool := fun arguments =>
  withoutOperands noForms arguments fun _ => failAs 1 "no login name".toList

/-! ## Programs and processes -/

/-- Writes where programs are. -/
def runWhich : Tool := fun arguments => do
  let letters := arguments.takeWhile fun a => a.head? = some '-' && 1 < a.length
  let names := arguments.drop letters.length
  let flags := (letters.flatMap fun a => a.drop 1).filter (· != '-')
  finishWith 0
  match flags.find? fun c => c != 'a' && c != 's' with
  | some c => do
      complain ("Illegal option -".toList ++ [c])
      emit "Usage: /usr/bin/which [-as] args\n".toList
      finishWith 2
  | none => do
      let s ← get
      let isFound (path : List Char) : Bool := (s.runnableAt path).isOk
      if names.isEmpty then finishWith 1
      names.forM fun name => do
        let paths :=
          if name.contains '/' then [name].filter isFound
          else (pathsIn s.programPlaces name).filter isFound
        if paths.isEmpty then noteFailure
        else if !flags.contains 's' then
          let shown := if flags.contains 'a' then paths else paths.take 1
          shown.forM fun path => emit (path ++ ['\n'])

/-- How `kill` is used. -/
def killHelp : String :=
  "\nUsage:\n kill [options] <pid> [...]\n\nOptions:\n" ++
    " <pid> [...]            send signal to every <pid> listed\n" ++
    " -<signal>, -s, --signal <signal>\n" ++
    "                        specify the <signal> to be sent\n" ++
    " -q, --queue <value>    integer value to be sent with the signal\n" ++
    " -l, --list=[<signal>]  list all signal names, or convert one to a name\n" ++
    " -L, --table            list all signal names in a nice table\n\n" ++
    " -h, --help     display this help and exit\n" ++
    " -V, --version  output version information and exit\n\n" ++
    "For more details see kill(1)."

/-- The names of the signals in two lines. -/
def signalLines : String :=
  "HUP INT QUIT ILL TRAP ABRT BUS FPE KILL USR1 SEGV USR2 PIPE ALRM TERM STKFLT\n" ++
    "CHLD CONT STOP TSTP TTIN TTOU URG XCPU XFSZ VTALRM PROF WINCH POLL PWR SYS\n"

/-- Sends a signal to processes. -/
def killAll (signal : Nat) (targets : List (List Char)) : Job Unit := do
  let name := (← get).program
  finishWith 0
  if targets.isEmpty then
    complain killHelp.toList
    finishWith 1
  targets.forM fun target => do
    match plainNumber? target with
    | none => do
        complain (name ++ ": failed to parse argument: '".toList ++ target ++ ['\''])
        finishWith 1
    | some process =>
        if !(← sendTo signal process) then
          complain (name ++ ": (".toList ++ target ++ "): No such process".toList)
          finishWith 1

/-- Sends signals, or writes their names. -/
def runKill : Tool := fun arguments => do
  let refuse (text : List Char) : Job Unit := do
    complainAs text
    finishWith 1
  match arguments with
  | ['-', 'l'] :: [] => do
      finishWith 0
      emit signalLines.toList
  | ['-', 'l'] :: name :: _ => do
      finishWith 0
      match plainNumber? name, signalOf? name with
      | some n, _ =>
          if 0 < n && n < 32 then emit ((nameOfSignal n).toList ++ ['\n'])
          else complainAs ("unknown signal name ".toList ++ name)
      | none, some n => emit (writeNat n ++ ['\n'])
      | none, none => refuse ("unknown signal name ".toList ++ name)
  | ['-', 's'] :: name :: rest =>
      match signalOf? name with
      | some n => killAll n rest
      | none => do
          refuse ("invalid argument ".toList ++ name.take 1)
          complain killHelp.toList
  | ('-' :: c :: name) :: rest =>
      match signalOf? (c :: name) with
      | some n => killAll n rest
      | none => do
          refuse ("invalid argument ".toList ++ [c])
          complain killHelp.toList
  | arguments => killAll 15 arguments

/-! ## The time -/

/-- The options of `date`. -/
def dateForms : OptionForms where
  letters := "d:f:I::r:Rs:u"
  words := [("date", .argument, "d"), ("debug", .nothing, "debug"), ("file", .argument, "f"),
    ("iso-8601", .maybe, "I"), ("reference", .argument, "r"),
    ("resolution", .nothing, "resolution"),
    ("rfc-2822", .nothing, "R"), ("rfc-822", .nothing, "R"), ("rfc-email", .nothing, "R"),
    ("rfc-3339", .argument, "rfc-3339"), ("set", .argument, "s"), ("uct", .nothing, "u"),
    ("utc", .nothing, "u"), ("universal", .nothing, "u")]
  permutes := true

/-- The format of dates if none is given. -/
def usualDateFormat : String := "%a %b %e %H:%M:%S %Z %Y"

/-- The format that options ask for, if they do; words of them may not be understood. -/
def dateFormatOf (given : List Given) : Job (Option (Option String)) := do
  match lastOf? given ["I", "R", "rfc-3339"] with
  | some ⟨"R", _⟩ => return some (some "%a, %d %b %Y %H:%M:%S %z")
  | some ⟨"I", none⟩ => return some (some "%Y-%m-%d")
  | some ⟨"I", some text⟩ =>
      match ← wordAmong 1 "--iso-8601" [["hours"], ["minutes"], ["date"], ["seconds"], ["ns"]]
          text with
      | some "hours" => return some (some "%Y-%m-%dT%H%:z")
      | some "minutes" => return some (some "%Y-%m-%dT%H:%M%:z")
      | some "date" => return some (some "%Y-%m-%d")
      | some "seconds" => return some (some "%Y-%m-%dT%H:%M:%S%:z")
      | some _ => return some (some "%Y-%m-%dT%H:%M:%S,%N%:z")
      | none => return none
  | some g =>
      match ← wordAmong 1 "--rfc-3339" [["date"], ["seconds"], ["ns"]] g.argument with
      | some "date" => return some (some "%Y-%m-%d")
      | some "seconds" => return some (some "%Y-%m-%d %H:%M:%S%:z")
      | some _ => return some (some "%Y-%m-%d %H:%M:%S.%N%:z")
      | none => return none
  | none => return some none

/-- Writes a moment in a format. -/
def emitMoment (format : List Char) (m : Moment) : Job Unit :=
  emit (m.format (String.ofList format) ++ ['\n'])

/-- Writes the time, or another one. -/
def runDate : Tool := fun arguments =>
  withOptions dateForms 1 arguments fun given operands => do
    let now := momentOf (← get).clock
    let some ownFormat? ← dateFormatOf given | return ()
    let asked := ["d", "f", "r", "s"].filter (isGiven given)
    match operands with
    | _ :: second :: _ => misuseExtra 1 second
    | operands =>
        let operand := operands.headD []
        let hasFormat := operand.head? = some '+'
        let format := if hasFormat then operand.drop 1
          else (ownFormat?.getD usualDateFormat).toList
        let refuse (text : List Char) : Job Unit := do
          complainAs ("invalid date ".toList ++ (← quoted text))
          noteFailure
        let writeRead (text : List Char) : Job Unit :=
          match Moment.read? now text with
          | some m => emitMoment format m
          | none => refuse text
        if hasFormat && ownFormat?.isSome then
          failAs 1 "multiple output formats specified".toList
        else if 1 < asked.length then
          misuse 1 "the options to specify dates for printing are mutually exclusive".toList
        else if !operands.isEmpty && !hasFormat then
          if asked.isEmpty then refuse operand
          else
            misuse 1 ("the argument ".toList ++ (← quoted operand) ++ (" lacks a leading '+';\n" ++
              "when using an option to specify date(s), any non-option\n" ++
              "argument must be a format string beginning with '+'").toList)
        else
          match lastOf? given ["d", "f", "r", "s"] with
          | some ⟨"d", text?⟩ => writeRead (text?.getD [])
          | some ⟨"f", path?⟩ => do
              let path := path?.getD []
              match ← readOperand path with
              | .ok text => (textsBy '\n' text).forM writeRead
              | .error fault => do
                  complainAbout path fault
                  noteFailure
          | some ⟨"r", path?⟩ => do
              let path := path?.getD []
              let s ← get
              match s.findNode path true with
              | .ok id => emitMoment format (momentOf (s.files.node id).modified)
              | .error fault => do
                  complainAbout path fault
                  noteFailure
          | some ⟨_, text?⟩ =>
              match Moment.read? now (text?.getD []) with
              | some m => do
                  complainAs "cannot set date: Operation not permitted".toList
                  noteFailure
                  emitMoment format m
              | none => refuse (text?.getD [])
          | none => emitMoment format now

/-- Ends with a status, and heeds no arguments but those that ask for help. -/
def runStatus (status : Nat) : Tool := fun arguments => do
  let s ← get
  finishWith status
  match arguments.map String.ofList with
  | ["--help"] =>
      emit ("Usage: ".toList ++ s.program ++ " [ignored command line arguments]\n".toList)
  | ["--version"] => emit (baseOfPath s.program ++ " (GNU coreutils) 9.4\n".toList)
  | _ => return ()

end DesiredState.Tools
