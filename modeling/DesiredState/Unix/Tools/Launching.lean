import DesiredState.Unix.Number.Rounded
import DesiredState.Unix.Shell.Streams
import DesiredState.Unix.Tools.Inputs

/-!
# Running other programs

Programs that run another one: in other surroundings, with less time, or again and again with
arguments that are read.

## Main definitions

* `launch` — runs a program, or complains that it can not be run.
* `runEnv`, `runTimeout`, `runXargs` and others.
-/

namespace DesiredState.Tools

open Shell

/-- Runs the program that words name; what is to be said about one that can not be run is
`refuse`. -/
def launch (run : Runner) (refuse : List Char → Fault → Job Unit) (words : List (List Char)) :
    Job Unit := do
  match words with
  | [] => return ()
  | name :: arguments =>
      (← run name arguments).forM fun fault => do
        refuse name fault
        finishWith (if fault = .notFound then 127 else 126)

/-- Complains that a program can not be run. -/
def refuseLaunch (words : String) (name : List Char) (fault : Fault) : Job Unit := do
  complainAs (words.toList ++ (← quoted name) ++ ": ".toList ++ fault.words.toList)

/-- Complains that a program can not be run, in the letters of the surroundings as they were. -/
def refuseLaunchIn (isUnicode : Bool) (name : List Char) (fault : Fault) : Job Unit :=
  complainAs (quotedIn isUnicode name ++ ": ".toList ++ fault.words.toList)

/-! ## Surroundings -/

/-- Where the reading of words is: outside of quotes, or inside. -/
inductive WordState where
  | between
  | plain
  | quoted (quote : Char)
  deriving DecidableEq

/-- The words of a text with quotes and escapes, or what is wrong with it; the word that is
read is given last letter first. -/
def wordsOfText (s : Session) : (fuel : Nat) → WordState → List Char → List Char →
    Except (List Char) (List (List Char))
  | 0, _, _, _ => .ok []
  | fuel + 1, state, word, cs =>
      let finish (rest : Except (List Char) (List (List Char))) :
          Except (List Char) (List (List Char)) :=
        if state = .between then rest else rest.map (word.reverse :: ·)
      let inWord : WordState := if state = .between then .plain else state
      let isQuoted := match state with
        | .quoted _ => true
        | _ => false
      match cs with
      | [] =>
          if isQuoted then .error "no terminating quote in -S string".toList else finish (.ok [])
      | '\\' :: c :: rest =>
          let add (c : Char) : Except (List Char) (List (List Char)) :=
            wordsOfText s fuel inWord (c :: word) rest
          if state = .quoted '\'' then
            if c = '\'' || c = '\\' then add c
            else wordsOfText s fuel inWord (c :: '\\' :: word) rest
          else
            match c with
            | 'c' => finish (.ok [])
            | '_' =>
                if isQuoted then add ' ' else finish (wordsOfText s fuel .between [] rest)
            | 'f' => add '\x0c'
            | 'n' => add '\n'
            | 'r' => add '\r'
            | 't' => add '\t'
            | 'v' => add '\x0b'
            | c =>
                if "\"#$'\\".toList.contains c then add c
                else .error ("invalid sequence '\\".toList ++ c :: "' in -S".toList)
      | ['\\'] => .error "invalid backslash at end of string in -S".toList
      | '$' :: rest =>
          if state = .quoted '\'' then wordsOfText s fuel inWord ('$' :: word) rest
          else
            match rest with
            | '\x7b' :: more =>
                let name := more.takeWhile (· != '\x7d')
                if name.length = more.length || !isVariableName name then
                  .error ("only $\x7bVARNAME\x7d expansion is supported, error at: ".toList ++ cs)
                else
                  let value := (s.valueOf? name).getD []
                  wordsOfText s fuel (if value.isEmpty then state else inWord)
                    (value.reverse ++ word) (more.drop (name.length + 1))
            | _ => .error ("only $\x7bVARNAME\x7d expansion is supported, error at: ".toList ++ cs)
      | c :: rest =>
          if state = .quoted c then wordsOfText s fuel .plain word rest
          else if isQuoted then wordsOfText s fuel state (c :: word) rest
          else if c = '\'' || c = '"' then wordsOfText s fuel (.quoted c) word rest
          else if c = ' ' || ('\t' ≤ c && c ≤ '\r') then
            finish (wordsOfText s fuel .between [] rest)
          else if c = '#' && state = .between then .ok []
          else wordsOfText s fuel inWord (c :: word) rest

/-- The options of `env`. -/
def envForms : OptionForms where
  letters := "C:iS:u:v0"
  words := [("ignore-environment", .nothing, "i"), ("null", .nothing, "0"),
    ("unset", .argument, "u"), ("chdir", .argument, "C"), ("default-signal", .maybe, "signal"),
    ("ignore-signal", .maybe, "signal"), ("block-signal", .maybe, "signal"),
    ("list-signal-handling", .nothing, "signal"), ("debug", .nothing, "v"),
    ("split-string", .argument, "S")]
  permutes := false

/-- The arguments with the words of the texts that are to be split in their place. -/
def splitArguments (s : Session) : (fuel : Nat) → List (List Char) →
    Except (List Char) (List (List Char))
  | 0, arguments => .ok arguments
  | fuel + 1, arguments =>
      let split (front : List (List Char)) (text : List Char) (rest : List (List Char)) :
          Except (List Char) (List (List Char)) := do
        let words ← wordsOfText s (2 * text.length + 2) .between [] text
        pure (front ++ (← splitArguments s fuel (words ++ rest)))
      match arguments with
      | [] => .ok []
      | ['-', 'S'] :: text :: rest => split [] text rest
      | ('-' :: 'S' :: text) :: rest => split [] text rest
      | ('-' :: '-' :: name) :: rest =>
          let front := "split-string=".toList
          if front.isPrefixOf name then split [] (name.drop front.length) rest
          else if name.isEmpty then .ok arguments
          else (splitArguments s fuel rest).map (('-' :: '-' :: name) :: ·)
      | a :: rest =>
          match a with
          | '-' :: c :: more =>
              let letters := (c :: more).takeWhile fun c => c == 'i' || c == 'v' || c == '0'
              match (c :: more).drop letters.length with
              | 'S' :: text =>
                  match text, rest with
                  | [], text :: rest => split ['-' :: letters] text rest
                  | text, rest => split ['-' :: letters] text rest
              | _ =>
                  let takesNext := a = "-u".toList || a = "-C".toList
                  if takesNext then
                    (splitArguments s fuel (rest.drop 1)).map ((a :: rest.take 1) ++ ·)
                  else (splitArguments s fuel rest).map (a :: ·)
          | _ => .ok arguments

/-- Tells of a change of the surroundings, if that is asked for. -/
def tellChange (tells : Bool) (text : List Char) : Job Unit := do
  if tells then complain text

/-- Runs a program in other surroundings, or writes the variables. -/
def runEnv (run : Runner) : Tool := fun arguments => do
  match splitArguments (← get) (arguments.length + 64) arguments with
  | .error complaint => failAs 125 complaint
  | .ok arguments =>
      withOptions envForms 125 arguments fun given operands => do
        let tells := isGiven given "v"
        let isUnicode := (← get).isUnicode
        let (isBare, operands) := match operands with
          | ['-'] :: rest => (true, rest)
          | operands => (isGiven given "i", operands)
        let isAssignment (a : List Char) : Bool := a.contains '='
        let assignments := operands.takeWhile isAssignment
        let words := operands.drop assignments.length
        let badSignal? := given.findSome? fun g =>
          if g.name = "signal" && g.argument?.any fun a => (signalOf? a).isNone then g.argument?
          else none
        if isGiven given "0" && !words.isEmpty then
          misuse 125 "cannot specify --null (-0) with command".toList
        else if isGiven given "C" && words.isEmpty then
          misuse 125 "must specify command with --chdir (-C)".toList
        else
        match badSignal? with
        | some name => misuse 125 ((← quoted name) ++ ": invalid signal".toList)
        | none => do
            if isBare then
              tellChange tells "cleaning environ".toList
              modify fun s => { s with vars := [] }
            let names := (given.filter (·.name == "u")).map Given.argument
            match names.find? fun n => n.isEmpty || n.contains '=' with
            | some name =>
                failAs 125 ("cannot unset ".toList ++ (← quoted name) ++
                  ": Invalid argument".toList)
            | none => do
                if !isBare then
                  names.forM fun name => do
                    tellChange tells ("unset:    ".toList ++ name)
                    modify fun s => { s with
                      vars := Entries.erase s.vars (String.ofList name) }
                assignments.forM fun a => do
                  tellChange tells ("setenv:   ".toList ++ a)
                  let name := a.takeWhile (· != '=')
                  modify fun s => { s with
                    vars := Entries.insert s.vars (String.ofList name)
                      (.exported (a.drop (name.length + 1))) }
                let place? := lastGiven? given "C"
                let s ← get
                match place?.map fun path => (path, s.findNode path true) with
                | some (path, .error fault) =>
                    failAs 125 ("cannot change directory to ".toList ++ (← shellQuoted path) ++
                      ": ".toList ++ fault.words.toList)
                | place => do
                    place.forM fun (_, found) =>
                      found.toOption.forM fun id => set { s with directoryNode := id }
                    if words.isEmpty then
                      let ending := if isGiven given "0" then '\x00' else '\n'
                      (← get).vars.forM fun (name, v) =>
                        v.value?.forM fun value =>
                          emit (name.toList ++ '=' :: value ++ [ending])
                    else
                      tellChange tells ("executing: ".toList ++ words.headD [])
                      words.zipIdx.forM fun (word, n) => do
                        if tells then
                          complain ("   arg[".toList ++ writeNat n ++ "]= ".toList ++
                            quotedIn isUnicode word)
                      launch run (refuseLaunchIn isUnicode) words

/-- Writes the values of variables. -/
def runPrintenv : Tool := fun arguments =>
  withOptions ⟨"0", [("null", .nothing, "0")], false, false⟩ 2 arguments fun given operands => do
    let s ← get
    let ending := if isGiven given "0" then '\x00' else '\n'
    if operands.isEmpty then
      s.vars.forM fun (name, v) =>
        v.value?.forM fun value => emit (name.toList ++ '=' :: value ++ [ending])
    else
      operands.forM fun name => do
        match if name.contains '=' then none else s.valueOf? name with
        | some value => emit (value ++ [ending])
        | none => noteFailure

/-- The options of `nice`; a number may stand for itself. -/
def niceForms : OptionForms := ⟨"n:", [("adjustment", .argument, "n")], false, false⟩

/-- A number behind one dash or two as the argument of an option. -/
def spellAdjustment : List (List Char) → List (List Char)
  | ('-' :: c :: rest) :: arguments =>
      let digits := if c = '-' || c = '+' then rest else c :: rest
      if !digits.isEmpty && digits.all Char.isDigit then
        let sign := if c = '-' then ['-'] else []
        ['-', 'n'] :: (sign ++ digits) :: spellAdjustment arguments
      else if c :: rest = ['n'] then
        ('-' :: c :: rest) :: arguments.take 1 ++ spellAdjustment (arguments.drop 1)
      else ('-' :: c :: rest) :: arguments
  | arguments => arguments
termination_by arguments => arguments.length

/-- Runs a program that is to be nicer to others, or writes how nice programs are. -/
def runNice (run : Runner) : Tool := fun arguments =>
  withOptions niceForms 125 (spellAdjustment arguments) fun given operands => do
    let s ← get
    let text? := lastGiven? given "n"
    let adjustment? : Option Int := match text? with
      | none => some 10
      | some text =>
          match leadingInteger? (some 10) text with
          | some n => if n.rest.isEmpty then some n.value else none
          | none => none
    match adjustment? with
    | none => failAs 125 ("invalid adjustment ".toList ++ (← quoted (text?.getD [])))
    | some adjustment =>
        if operands.isEmpty then
          if text?.isSome then
            misuse 125 "a command must be given with an adjustment".toList
          else emit (writeInt s.niceness ++ ['\n'])
        else
          set { s with niceness := max (-20) (min 19 (s.niceness + adjustment)) }
          launch run (refuseLaunch "") operands

/-- Runs a program that does not care about the end of a session. -/
def runNohup (run : Runner) : Tool := fun arguments =>
  withOptions ⟨"", [], false, false⟩ 125 arguments fun _ operands => do
    if operands.isEmpty then misuseMissing 125
    else
      let refuse (name : List Char) (fault : Fault) : Job Unit := do
        complainAs ("failed to run command ".toList ++ (← shellQuoted name) ++ ": ".toList ++
          fault.words.toList)
      launch run refuse operands

/-- Runs a program in a session of its own. -/
def runSetsid (run : Runner) : Tool := fun arguments =>
  withOptionsBy ⟨misuse 1, " from util-linux 2.39.3"⟩ ⟨"cfw", [("ctty", .nothing, "c"),
    ("fork", .nothing, "f"), ("wait", .nothing, "w")], false, false⟩ arguments
    fun _ operands => do
      if operands.isEmpty then misuse 1 "no command specified".toList
      else
        launch run (fun name fault => complainAs ("failed to execute ".toList ++ name ++
          ": ".toList ++ fault.words.toList)) operands

/-- The options of `stdbuf`. -/
def stdbufForms : OptionForms where
  letters := "i:o:e:"
  words := [("input", .argument, "i"), ("output", .argument, "o"), ("error", .argument, "e")]
  permutes := false

/-- Runs a program that writes at once, or later, which makes no difference here. -/
def runStdbuf (run : Runner) : Tool := fun arguments =>
  withOptions stdbufForms 125 arguments fun given operands => do
    let isMode (text : List Char) : Bool :=
      text = ['L'] || (sizeOf? "EgGkKmMPtTYZ0" text).isOk
    match given.find? fun g => !isMode g.argument with
    | some g => failAs 125 ("invalid mode ".toList ++ (← quoted g.argument))
    | none =>
        if operands.isEmpty then misuseMissing 125
        else if given.isEmpty then misuse 125 "you must specify a buffering mode option".toList
        else launch run (refuseLaunch "failed to run command ") operands

/-! ## Time -/

/-- The duration of a text in millionths of a second: a number with a unit. -/
def durationOf? (text : List Char) : Option Nat := do
  let number ← Rounded.leading? .extended text
  let factor ← match number.rest with
    | [] | ['s'] => some 1
    | ['m'] => some 60
    | ['h'] => some 3600
    | ['d'] => some 86400
    | _ => none
  match number.value with
  | .infinite false => some (Nat.pow 10 18)
  | .infinite true | .nan _ => none
  | value =>
      if value.isNegative && !value.isZero then none
      else
        let (num, den) := value.magnitude
        some (min (Nat.pow 10 18) ((num * factor * 1000000 + den - 1) / den))

/-- Lets time pass. -/
def runSleep : Tool := fun arguments =>
  withOptions ⟨"", [], true, false⟩ 1 arguments fun _ operands => do
    let durations := operands.map fun text => (text, durationOf? text)
    if operands.isEmpty then misuseMissing 1
    else
      let bad := durations.filter fun d => d.2.isNone
      bad.forM fun (text, _) => do
        complainAs ("invalid time interval ".toList ++ (← quoted text))
      if !bad.isEmpty then pointToHelp 1
      else spend ((durations.filterMap Prod.snd).foldl (· + ·) 0)

/-- The options of `timeout`. -/
def timeoutForms : OptionForms where
  letters := "k:s:v"
  words := [("foreground", .nothing, "foreground"), ("kill-after", .argument, "k"),
    ("preserve-status", .nothing, "preserve"), ("signal", .argument, "s"),
    ("verbose", .nothing, "v")]
  permutes := false

/-- Runs a program for a time at most. -/
def runTimeout (run : Runner) : Tool := fun arguments =>
  withOptions timeoutForms 125 arguments fun given operands => do
    let signalName := (lastGiven? given "s").getD "TERM".toList
    let plainName := if "SIG".toList.isPrefixOf (signalName.map Char.toUpper) then
      signalName.drop 3 else signalName
    let badTime? := ((lastGiven? given "k").toList ++ operands.take 1).find? fun text =>
      (durationOf? text).isNone
    match signalOf? plainName, badTime?, operands with
    | none, _, _ => misuse 125 ((← quoted signalName) ++ ": invalid signal".toList)
    | _, some text, _ => misuse 125 ("invalid time interval ".toList ++ (← quoted text))
    | some number, none, time :: name :: arguments => do
        let s ← get
        let duration := (durationOf? time).getD 0
        let deadline := s.clock + duration
        let isOuter := s.deadline?.any (· ≤ deadline)
        if duration ≠ 0 && !isOuter then set { s with deadline? := some deadline }
        let refuse := refuseLaunch "failed to run command "
        match ← observe (launch run refuse (name :: arguments)) with
        | .ok () => return ()
        | .error (.killed n) => do
            let after ← get
            if duration ≠ 0 && !isOuter && deadline ≤ after.clock then
              set { after with deadline? := s.deadline? }
              if isGiven given "v" then
                complainAs ("sending signal ".toList ++ plainName ++ " to command ".toList ++
                  (← quoted name))
              if number = 9 then throw (.killed 9)
              else finishWith (if isGiven given "preserve" then 128 + number else 124)
            else throw (.killed n)
        | .error ending => throw ending
    | _, _, _ => pointToHelp 125

/-! ## Arguments that are read -/

/-- An item of the input, and how many lines had ended when it did. -/
structure ReadItem where
  text : List Char
  lines : Nat

/-- What is read of the items of a text. -/
structure ItemReading where
  /-- The items, the last one first. -/
  items : List ReadItem
  /-- The letters of the item that is read, the last one first, if there is one. -/
  current? : Option (List Char)
  quote? : Option Char
  isEscaped : Bool
  previous : Char
  /-- How many lines with items have ended; one that ends with a blank does not. -/
  lines : Nat
  hasFault : Bool

/-- Ends the item that is read. -/
def ItemReading.finish (r : ItemReading) : ItemReading :=
  match r.current? with
  | some cs => { r with items := ⟨cs.reverse, r.lines⟩ :: r.items, current? := none }
  | none => r

/-- Reads one more character; blanks are between items, if `splits` holds. -/
def ItemReading.step (splits : Bool) (r : ItemReading) (c : Char) : ItemReading :=
  let add (r : ItemReading) : ItemReading := { r with current? := some (c :: r.current?.getD []) }
  let isBlank (c : Char) : Bool := c == ' ' || c == '\t'
  let next : ItemReading :=
    if r.hasFault then r
    else if r.isEscaped then { add r with isEscaped := false }
    else
      match r.quote? with
      | some q =>
          if c = '\n' then { r with hasFault := true }
          else if c = q then { r with quote? := none }
          else add r
      | none =>
          if c = '\n' then
            let isCounted := r.current?.isSome && !isBlank r.previous
            { r with lines := if isCounted then r.lines + 1 else r.lines }.finish
          else if isBlank c then
            if r.current?.isNone then r else if splits then r.finish else add r
          else if c = '\'' || c = '"' then
            { r with quote? := some c, current? := some (r.current?.getD []) }
          else if c = '\\' then { r with isEscaped := true }
          else add r
  { next with previous := c }

/-- The items of a text with quotes and escapes, and the quote that is not closed. -/
def readItems (splits : Bool) (text : List Char) : List ReadItem × Option Char :=
  let r := text.foldl (ItemReading.step splits) ⟨[], none, none, false, '\n', 0, false⟩
  if r.quote?.isSome then (r.items.reverse, r.quote?) else (r.finish.items.reverse, none)

/-- Groups of items: of at most so many, on at most so many lines, and of at most so many octets.
The items of the first group are given, last one first, with their octets and the lines that
had ended in front of it. -/
def groupsFrom (most lines octets : Nat) (group : List ReadItem) (length start : Nat) :
    List ReadItem → List (List ReadItem)
  | [] => if group.isEmpty then [] else [group.reverse]
  | item :: rest =>
      let longer := length + item.text.length + 1
      if !group.isEmpty && octets < longer then
        group.reverse ::
          groupsFrom most lines octets [item] (item.text.length + 1) start rest
      else if most ≤ group.length + 1 || start + lines ≤ item.lines then
        (item :: group).reverse :: groupsFrom most lines octets [] 0 item.lines rest
      else groupsFrom most lines octets (item :: group) longer start rest

/-- The options of `xargs`. -/
def xargsForms : OptionForms where
  letters := "0a:d:E:e::I:i::L:l::n:oP:prs:tx"
  words := [("null", .nothing, "0"), ("arg-file", .argument, "a"), ("delimiter", .argument, "d"),
    ("eof", .maybe, "e"), ("replace", .maybe, "i"), ("max-lines", .maybe, "l"),
    ("max-args", .argument, "n"), ("open-tty", .nothing, "o"), ("max-procs", .argument, "P"),
    ("interactive", .nothing, "p"), ("no-run-if-empty", .nothing, "r"),
    ("max-chars", .argument, "s"),
    ("show-limits", .nothing, "show-limits"), ("verbose", .nothing, "t"), ("exit", .nothing, "x"),
    ("process-slot-var", .argument, "slot")]
  permutes := false

/-- The character that an argument spells as a separator. -/
def delimiterOf? (cs : List Char) : Option Char :=
  match cs with
  | [c] => some c
  | ['\\', c] =>
      match digitValue? 8 c, c with
      | some n, _ => some (Char.ofNat n)
      | none, '\\' => some '\\'
      | none, 'a' => some '\x07'
      | none, 'b' => some '\x08'
      | none, 'f' => some '\x0c'
      | none, 'n' => some '\n'
      | none, 'r' => some '\r'
      | none, 't' => some '\t'
      | none, 'v' => some '\x0b'
      | none, _ => none
  | '\\' :: 'x' :: digits =>
      (digitsValue? 16 digits).bind fun n => if n < 256 then some (Char.ofNat n) else none
  | '\\' :: digits =>
      (digitsValue? 8 digits).bind fun n => if n < 256 then some (Char.ofNat n) else none
  | _ => none

/-- How the items become arguments of commands. -/
inductive ItemUse where
  /-- At most so many are behind the others. -/
  | count (most : Nat)
  | lines (most : Nat)
  /-- One takes the place of a mark. -/
  | replaced (mark : List Char)

/-- The first word in a text is given for each mark in it. -/
def replaceMarks (mark item : List Char) : (fuel : Nat) → List Char → List Char
  | 0, cs => cs
  | fuel + 1, cs =>
      match cs with
      | [] => []
      | c :: rest =>
          if !mark.isEmpty && mark.isPrefixOf cs then
            item ++ replaceMarks mark item fuel (cs.drop mark.length)
          else c :: replaceMarks mark item fuel rest

/-- How items are used, after a warning about uses that exclude each other. -/
def itemUseOf (given : List Given) : Job ItemUse := do
  let number (g : Given) : Nat := (plainNumber? g.argument).getD 1
  let useOf (g : Given) : Option ItemUse :=
    match g.name with
    | "n" => some (.count (number g))
    | "L" | "l" => some (.lines (number g))
    | "I" => some (.replaced g.argument)
    | "i" => some (.replaced (g.argument?.getD "\x7b\x7d".toList))
    | _ => none
  given.foldlM (fun old g => do
    let warn (a b c : String) : Job Unit :=
      complainAs ("warning: options " ++ a ++ " and " ++ b ++
        " are mutually exclusive, ignoring previous " ++ c ++ " value").toList
    match old, useOf g with
    | old, none => return old
    | .replaced _, some (.count 1) => return old
    | .replaced _, some (.count n) => do
        warn "--replace" "--max-args/-n" "--replace"
        return .count n
    | .replaced _, some (.lines n) => do
        warn "--replace" (if g.name = "l" then "-l" else "-L") "--replace"
        return .lines n
    | .lines _, some (.count n) => do
        warn "--max-lines" "--max-args/-n" "--max-lines"
        return .count n
    | .lines _, some (.replaced mark) => do
        warn "--max-lines" "--replace/-I/-i" "--max-lines"
        return .replaced mark
    | .count n, some (.replaced mark) => do
        if n ≠ 0 && 1 < n then warn "--max-args" "--replace/-I/-i" "--max-args"
        return .replaced mark
    | .count n, some (.lines m) => do
        if n ≠ 0 then warn "--max-args" (if g.name = "l" then "-l" else "-L") "--max-args"
        return .lines m
    | _, some new => return new) (.count 0)

/-- Runs a command for items; answers whether more are to be run. -/
def runForItems (run : Runner) (tells asks : Bool) (words : List (List Char)) : Job Bool := do
  let s ← get
  let name := words.headD []
  if tells || asks then
    let shown ← words.mapM fun w => do
      return if needsQuotes s.isUnicode [] w then shellQuotedIn s.isUnicode w else w
    let line := List.intercalate [' '] shown
    if asks then
      discard (writeTo 2 line)
      failAs 1 "failed to open /dev/tty for reading: No such device or address".toList
    else complain line
  if asks then return false
  let before := s.status
  finishWith 0
  modify fun s => s.openStream 0 .nowhere
  let result ← observe (launch run (fun name fault =>
    complainAs (name ++ ": ".toList ++ fault.words.toList)) words)
  modify fun after => { after with streams := s.streams }
  let status := (← get).status
  match result with
  | .error (.killed n) => do
      if (← get).deadline?.any (· ≤ (← get).clock) then throw (.killed n)
      complainAs (name ++ ": terminated by signal ".toList ++ writeNat n)
      finishWith 125
      return false
  | .error ending => throw ending
  | .ok () =>
      if status = 255 then
        complainAs (name ++ ": exited with status 255; aborting".toList)
        finishWith 124
        return false
      else if status = 126 || status = 127 then
        finishWith status
        return false
      else
        finishWith (if status ≠ 0 then 123 else before)
        return true

/-- The number that the argument of an option has to be. -/
def numberFault? (given : List Given) : Option (List Char) :=
  given.findSome? fun g =>
    let isNumber := ["n", "L", "l", "P", "s"].contains g.name
    if !isNumber || g.argument?.isNone then none
    else
      match plainNumber? g.argument with
      | none =>
          some ("invalid number \"".toList ++ g.argument ++ "\" for -".toList ++ g.name.toList ++
            " option".toList)
      | some 0 =>
          if g.name = "P" then none
          else
            some ("value 0 for -".toList ++ g.name.toList ++ " option should be >= 1".toList)
      | some _ => none

/-- Runs a command with the items of the input as arguments. -/
def runXargs (run : Runner) : Tool := fun arguments =>
  withOptionsBy ⟨misuse 1, " (GNU findutils) 4.9.0"⟩ xargsForms arguments
    fun given operands => do
      let words := if operands.isEmpty then ["echo".toList] else operands
      let delimiter? := match lastOf? given ["0", "d"] with
        | some ⟨"0", _⟩ => some (some '\x00')
        | some g => some (delimiterOf? g.argument)
        | none => none
      match numberFault? given, delimiter? with
      | some fault, _ => misuse 1 fault
      | none, some none =>
          failAs 1 ("Invalid input delimiter specification ".toList ++
            (lastGiven? given "d").getD [] ++ (": the delimiter must be either a single " ++
            "character or an escape sequence starting with \\.").toList)
      | none, delimiter? => do
          let use ← itemUseOf given
          let input ← match lastGiven? given "a" with
            | none => readStream 0 endlessLength
            | some path => readPath path endlessLength
          match input with
          | .error fault =>
              failAs 1 ("Cannot open input file ".toList ++
                (← quoted ((lastGiven? given "a").getD [])) ++ ": ".toList ++ fault.words.toList)
          | .ok text => do
              let splits := match use with
                | .replaced _ => false
                | _ => true
              let (items, open?) := match delimiter? with
                | some (some c) =>
                    ((textsBy c text).zipIdx.map fun (text, n) => ReadItem.mk text (n + 1), none)
                | _ => readItems splits text
              let last? := (lastOf? given ["E", "e"]).bind Given.argument?
              let items := match last? with
                | some last =>
                    if last.isEmpty || delimiter?.isSome then items
                    else items.takeWhile fun i => i.text != last
                | none => items
              let size := ((lastGiven? given "s").bind plainNumber?).getD 131072
              let own := (words.map fun w => w.length + 1).foldl (· + ·) 0
              let commands : List (List (List Char)) := match use with
                | .replaced mark =>
                    items.map fun i =>
                      words.take 1 ++ (words.drop 1).map fun w =>
                        replaceMarks mark i.text (w.length + 1) w
                | use =>
                    let (most, lines) := match use with
                      | .count n => (if n = 0 then items.length + 1 else n, items.length + 1)
                      | .lines n => (items.length + 1, n)
                      | .replaced _ => (1, 1)
                    if items.isEmpty then
                      if isGiven given "r" then [] else [words]
                    else
                      (groupsFrom most lines (size - own) [] 0 0 items).map fun group =>
                        words ++ group.map ReadItem.text
              let isTooLong := size ≤ own || items.any fun i => size < own + i.text.length + 1
              if isTooLong then failAs 1 "argument line too long".toList
              else
                let commands := if open?.isSome && items.isEmpty then [] else commands
                let goesOn ← commands.foldlM (fun goesOn words => do
                  if goesOn then
                    runForItems run (isGiven given "t") (isGiven given "p") words
                  else return false) true
                if let (true, some q) := (goesOn, open?) then
                  failAs 1 ((if q = '"' then "unmatched double quote; "
                    else "unmatched single quote; ").toList ++ ("by default quotes are special " ++
                    "to xargs unless you use the -0 option").toList)

/-! ## Locks -/

/-- The options of `flock`. -/
def flockForms : OptionForms where
  letters := "c:E:Fnosuw:x"
  words := [("shared", .nothing, "s"), ("exclusive", .nothing, "x"), ("unlock", .nothing, "u"),
    ("nonblock", .nothing, "n"), ("nb", .nothing, "n"), ("timeout", .argument, "w"),
    ("wait", .argument, "w"), ("conflict-exit-code", .argument, "E"), ("close", .nothing, "o"),
    ("no-fork", .nothing, "F"), ("command", .argument, "c"), ("verbose", .nothing, "verbose")]
  permutes := false

/-- Runs a program while a file is locked, which nobody else does. -/
def runFlock (run : Runner) : Tool := fun arguments =>
  withOptionsBy ⟨misuse 64, " from util-linux 2.39.3"⟩ flockForms arguments
    fun given operands => do
      match operands with
      | [] => misuse 64 "not enough arguments".toList
      | [stream] =>
          match plainNumber? stream with
          | none => failAs 64 ("bad file descriptor: '".toList ++ stream ++ ['\''])
          | some n =>
              if ((← get).channel? n).isNone then
                failAs 65 (stream ++ ": Bad file descriptor".toList)
      | path :: words =>
          match (← get).create path with
          | .error fault =>
              failAs 66 ("cannot open lock file ".toList ++ path ++ ": ".toList ++
                fault.words.toList)
          | .ok (s, _) => do
              set s
              let words := match words with
                | option :: command :: _ =>
                    if option = "-c".toList || option = "--command".toList then
                      ["/bin/sh".toList, "-c".toList, command]
                    else words
                | words => words
              if isGiven given "verbose" then
                emit "flock: getting lock took 0.000001 seconds\n".toList
                emit ("flock: executing ".toList ++ words.headD [] ++ ['\n'])
              match words with
              | [] => return ()
              | name :: arguments =>
                  (← run name arguments).forM fun fault => do
                    complainAs ("failed to execute ".toList ++ name ++ ": ".toList ++
                      fault.words.toList)
                    finishWith 69

end DesiredState.Tools
