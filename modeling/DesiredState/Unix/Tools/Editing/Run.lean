import DesiredState.Unix.Shell.Streams
import DesiredState.Unix.Tools.Editing.Script
import DesiredState.Unix.Tools.Inputs

/-!
# Editing lines

A script is run for each line of its input.  The line goes through the commands, which may
change it, take more lines, or put it aside, and is written at the end.

## Main definitions

* `EditState`, `EditJob` — the state of a run.
* `runEdits` — the commands for one line.
* `runSed` — edits files.
-/

namespace DesiredState.Tools

open Shell Pattern

/-! ## State -/

/-- A text that is put aside, with whether it had a line end. -/
structure KeptText where
  letters : List Char
  hasEnd : Bool

/-- What is written before the next line is read. -/
inductive LateText where
  | text (octets : List Char)
  | file (name : List Char)

/-- Where something is written. -/
inductive EditTarget where
  | output
  /-- The output of the program itself, even while a file is edited. -/
  | console
  | complaints
  | file (node : Nat)
  deriving DecidableEq, Repr

/-- A file whose lines are edited. -/
structure EditedFile where
  name : List Char
  lines : List Line

/-- The options of a run. -/
structure EditOptions where
  isSilent : Bool
  /-- Whether each file is a text of its own. -/
  isSeparate : Bool
  separator : Char
  isUnicode : Bool
  lineWidth : Nat
  run : Runner

/-- The state of a run. -/
structure EditState where
  space : KeptText
  hold : KeptText
  line : Nat
  fileName : List Char
  /-- What is left of the file that is read, and the files behind it. -/
  lines : List Line
  files : List EditedFile
  late : List LateText
  isReplaced : Bool
  /-- For each command, up to which line it is for the lines that follow, if it is for some;
  zero where a line says so itself. -/
  ranges : List (Nat × Nat)
  lastRegex? : Option Regex
  /-- The targets to which a line without its end was written. -/
  unended : List EditTarget
  /-- The files that are written, with their nodes. -/
  written : List (List Char × EditTarget)
  /-- What is left of the files of which lines are taken. -/
  taken : List (List Char × List Line)
  /-- What is kept of the output for the file that is edited. -/
  kept? : Option (List (List Char))
  status : Nat

/-- A step of a run. -/
abbrev EditJob := StateT EditState Job

/-- How the commands for a line end. -/
inductive EditFlow where
  /-- The line is written. -/
  | finished
  | dropped
  /-- The commands start again with what is left of the line. -/
  | again
  | quit

/-! ## Writing -/

/-- Writes octets to a target. -/
def writeOctets (target : EditTarget) (octets : List Char) : EditJob Unit := do
  match target with
  | .output => do
      let s ← get
      match s.kept? with
      | some parts => set { s with kept? := some (octets :: parts) }
      | none => emit octets
  | .console => emit octets
  | .complaints => discard (writeTo 2 octets)
  | .file node =>
      (modify fun s => { s with
        files := s.files.change node fun n =>
          match n.content with
          | .octets old => { n with content := .octets (old ++ octets), modified := s.clock }
          | _ => n } : Job Unit)

/-- Writes a text as a line to a target, behind the end of the line before if that is
missing. -/
def writeLineTo (o : EditOptions) (target : EditTarget) (octets : List Char) (hasEnd : Bool) :
    EditJob Unit := do
  let s ← get
  let front := if s.unended.contains target then [o.separator] else []
  writeOctets target (front ++ octets ++ (if hasEnd then [o.separator] else []))
  let unended := s.unended.filter (· != target)
  modify fun s => { s with unended := if hasEnd then unended else target :: unended }

/-- Writes the first line of a text with line ends in it; the end of the last one may be
missing. -/
def writeFirstTo (o : EditOptions) (target : EditTarget) (kept : KeptText) : EditJob Unit :=
  let first := kept.letters.takeWhile (· != o.separator)
  writeLineTo o target (octetsOfLetters first) (kept.hasEnd || kept.letters.contains o.separator)

/-- A text whose last line ends as the lines of the run do. -/
def EditOptions.ended (o : EditOptions) (text : List Char) : List Char :=
  if text.getLast? = some '\n' then text.dropLast ++ [o.separator] else text

/-- The output of a command in the place of a line, whose end it does not have. -/
def EditOptions.withoutEnd (o : EditOptions) (octets : List Char) : List Char :=
  lettersOf o.isUnicode (if octets.getLast? = some o.separator then octets.dropLast else octets)

/-- Writes a text as it is to the output. -/
def writeText (o : EditOptions) (octets : List Char) : EditJob Unit := do
  let s ← get
  let front := if s.unended.contains .output then [o.separator] else []
  writeOctets .output (front ++ octets)
  modify fun s => { s with unended := s.unended.filter (· != .output) }

/-- Writes the line. -/
def writeSpace (o : EditOptions) (target : EditTarget) : EditJob Unit := do
  let s ← get
  writeLineTo o target (octetsOfLetters s.space.letters) s.space.hasEnd

/-- Writes what was to be written before the next line. -/
def writeLate (o : EditOptions) : EditJob Unit := do
  let s ← get
  set { s with late := [] }
  s.late.reverse.forM fun l =>
    match l with
    | .text octets => writeText o octets
    | .file name => do
        match ← (readPath name endlessLength : Job _) with
        | .ok octets => writeText o octets
        | .error _ => writeText o []

/-! ## Reading -/

/-- Whether no line follows. -/
def EditState.isLast (o : EditOptions) (s : EditState) : Bool :=
  s.lines.isEmpty && (o.isSeparate || s.files.all fun f => f.lines.isEmpty)

/-- The state with the next line; nothing if there is none. -/
def EditState.nextLine? (o : EditOptions) (s : EditState) :
    (files : List EditedFile) → Option (Line × EditState)
  | [] =>
      match s.lines with
      | l :: rest => some (l, { s with line := s.line + 1, lines := rest })
      | [] => none
  | f :: files =>
      match s.lines with
      | l :: rest => some (l, { s with line := s.line + 1, lines := rest })
      | [] => if o.isSeparate then none
          else nextLine? o { s with fileName := f.name, lines := f.lines, files := files } files

/-- Reads the next line, and answers it if there is one. -/
def readLine (o : EditOptions) : EditJob (Option KeptText) := do
  let s ← get
  match s.nextLine? o s.files with
  | none => return none
  | some (l, s) => do
      set s
      return some ⟨lettersOf o.isUnicode l.text, l.hasEnd⟩

/-! ## Selection -/

/-- Whether an expression occurs in the line, which may be the last one that was used. -/
def occursInSpace (r? : Option Regex) (hasLines : Bool) : EditJob Bool := do
  let s ← get
  match r?.or s.lastRegex? with
  | none => do
      (failAs 1 "-e expression #1, char 0: no previous regular expression".toList : Job Unit)
      throwThe Ending (.exited 1)
  | some r => do
      set { s with lastRegex? := some r }
      return (r.find? ⟨s.space.letters.toArray, hasLines⟩ 0).isSome

/-- Whether an address asks for the line. -/
def isAt (o : EditOptions) : LineAddress → EditJob Bool
  | .number n => return (← get).line == n
  | .every first step => do
      let line := (← get).line
      return first ≤ line && (line - first) % step == 0
  | .last => return (← get).isLast o
  | .having r? hasLines => occursInSpace r? hasLines

/-- Whether a command is for the line. -/
def isSelected (o : EditOptions) (place : Nat) (selector : LineSelector) : EditJob Bool := do
  let s ← get
  let setRange (until? : Option Nat) : EditJob Unit :=
    modify fun s => { s with
      ranges := match until? with
        | some n => (place, n) :: s.ranges.filter (·.1 != place)
        | none => s.ranges.filter (·.1 != place) }
  let starts (last : RangeEnd) : EditJob Unit := do
    match last with
    | .at (.number n) => if s.line < n then setRange (some n)
    | .at _ => setRange (some 0)
    | .later n => if n ≠ 0 then setRange (some (s.line + n))
    | .multiple n => if n ≠ 0 then setRange (some ((s.line / n + 1) * n))
  let isFor ← match selector.first?, selector.last? with
    | none, _ => pure true
    | some first, none => isAt o first
    | some first, some last => do
        match s.ranges.find? (·.1 == place) with
        | some (_, 0) => do
            match last with
            | .at address => if ← isAt o address then setRange none
            | _ => setRange none
            pure true
        | some (_, n) => do
            if n ≤ s.line then setRange none
            if s.line ≤ n then pure true
            else
              let isStart ← isAt o first
              if isStart then starts last
              pure isStart
        | none => do
            let isStart ← isAt o first
            if isStart then starts last
            pure isStart
  return isFor != selector.isNegated

/-! ## Substitution -/

/-- Letters with changes of case: one for all, and one for the first one. -/
def casedLetters (all first : CaseChange) (cs : List Char) : List Char :=
  let change (c : CaseChange) (letter : Char) : Char :=
    match c with
    | .upper | .upperNext => uppercaseChar letter
    | .lower | .lowerNext => lowercaseChar letter
    | .keep => letter
  match cs with
  | [] => []
  | c :: rest => change (if first = .keep then all else first) c :: rest.map (change all)

/-- What is put in the place of an occurrence. -/
def replacementOf (x : Subject) (o : Regex.Occurrence) :
    (all first : CaseChange) → List ReplacementPart → List Char
  | _, _, [] => []
  | all, first, part :: rest =>
      let add (cs : List Char) : List Char :=
        casedLetters all first cs ++
          replacementOf x o all (if cs.isEmpty then first else .keep) rest
      match part with
      | .text cs => add cs
      | .group 0 => add (x.slice o.first o.last)
      | .group n =>
          match o.parts.find? (·.1 == n) with
          | some (_, i, j) => add (x.slice i j)
          | none => add []
      | .casing .upperNext => replacementOf x o all .upperNext rest
      | .casing .lowerNext => replacementOf x o all .lowerNext rest
      | .casing c => replacementOf x o c .keep rest

/-- A text with something in the place of occurrences from a place on, and whether there are
some; `count` occurrences come first that are kept, and one ended at `ended?`. -/
def substituted (r : Regex) (s : Substitution) (x : Subject) :
    (fuel : Nat) → (start count : Nat) → (ended? : Option Nat) → List Char × Bool
  | 0, start, _, _ => (x.slice start x.text.size, false)
  | fuel + 1, start, count, ended? =>
      let others : List Char × Bool := (x.slice start x.text.size, false)
      if x.text.size < start then others
      else
        match r.find? x start with
        | none => others
        | some o =>
            let before := x.slice start o.first
            let isEmpty := o.last = o.first
            let skipped := isEmpty && ended? = some o.first
            let isKept := skipped || count + 1 < s.number
            let here := if skipped then [] else if isKept then x.slice o.first o.last
              else replacementOf x o .keep .keep s.parts
            let count := if skipped then count else count + 1
            let passed := if isEmpty then x.slice o.last (o.last + 1) else []
            let next := if isEmpty then o.last + 1 else o.last
            if isKept || s.isGlobal then
              let (rest, isFound) := substituted r s x fuel next count (some o.last)
              (before ++ here ++ passed ++ rest, isFound || !isKept)
            else (before ++ here ++ x.slice o.last x.text.size, true)

/-! ## Lists -/

/-- An octet as it is listed. -/
def listedOctet (c : Char) : List Char :=
  if c = '\\' then ['\\', '\\']
  else
    match controlLetter? c with
    | some letter => ['\\', letter]
    | none => if ' ' ≤ c && c < '\x7f' then [c] else octalEscape c

/-- Texts put one behind another in lines of a width, of which all but the last one end with a
backslash. -/
def foldTexts (width : Nat) : List (List Char) → (column : Nat) → List Char
  | [], _ => ['$']
  | t :: rest, column =>
      if width ≠ 0 && width < column + t.length + 1 then
        '\\' :: '\n' :: t ++ foldTexts width rest t.length
      else t ++ foldTexts width rest (column + t.length)

/-! ## Commands -/

/-- The place of a label in a script; that behind its end for no label. -/
def placeOfLabel (script : EditScript) (label : List Char) : Nat :=
  if label.isEmpty then script.commands.size
  else
    (script.commands.findIdx? fun command =>
      match command.edit with
      | .mark name => name == label
      | _ => false).getD script.commands.size

/-- Where a file is written. -/
def targetOf (name : List Char) : EditJob EditTarget := do
  return ((← get).written.find? (·.1 == name)).map (·.2) |>.getD .output

/-- What a command leads to: the commands behind a place, or the end of all of them. -/
inductive EditStep where
  | goOn (place : Nat)
  | stop (flow : EditFlow)

/-- Does a command for the line, at a place of the script. -/
def applyEdit (o : EditOptions) (script : EditScript) (place : Nat) (selector : LineSelector)
    (e : Edit) : EditJob EditStep := do
  let s ← get
  let goOn : EditStep := .goOn (place + 1)
  let setSpace (cs : List Char) : EditJob Unit :=
    modify fun s => { s with space := { s.space with letters := cs } }
  match e with
  | .openBlock _ | .closeBlock | .mark _ => return goOn
  | .jump rule label => do
      let isTaken := match rule with
        | .always => true
        | .ifReplaced => s.isReplaced
        | .ifNotReplaced => !s.isReplaced
      if rule ≠ .always then set { s with isReplaced := false }
      return if isTaken then .goOn (placeOfLabel script label) else goOn
  | .insertText text => do
      writeText o (o.ended text)
      return goOn
  | .appendText text => do
      set { s with late := .text text :: s.late }
      return goOn
  | .changeText text => do
      let isInside := s.ranges.any (·.1 == place)
      if selector.last?.isNone || selector.isNegated || !isInside then writeText o (o.ended text)
      return .stop .dropped
  | .delete => return .stop .dropped
  | .deleteFirst => do
      if s.space.letters.contains o.separator then
        setSpace ((s.space.letters.dropWhile (· != o.separator)).drop 1)
        return .stop .again
      else return .stop .dropped
  | .printAll => do
      writeSpace o .output
      return goOn
  | .printFirst => do
      writeFirstTo o .output s.space
      return goOn
  | .get => do
      set { s with space := s.hold }
      return goOn
  | .getMore => do
      set { s with space := ⟨s.space.letters ++ o.separator :: s.hold.letters, s.hold.hasEnd⟩ }
      return goOn
  | .keep => do
      set { s with hold := s.space }
      return goOn
  | .keepMore => do
      set { s with hold := ⟨s.hold.letters ++ o.separator :: s.space.letters, s.space.hasEnd⟩ }
      return goOn
  | .exchange => do
      set { s with space := s.hold, hold := s.space }
      return goOn
  | .next => do
      if s.isLast o then return .stop .finished
      else
        if !o.isSilent then writeSpace o .output
        writeLate o
        match ← readLine o with
        | some space => do
            modify fun s => { s with space := space }
            return goOn
        | none => return .stop .finished
  | .nextMore => do
      if s.isLast o then return .stop .finished
      else
        writeLate o
        match ← readLine o with
        | some more => do
            modify fun s => { s with
              space := ⟨s.space.letters ++ o.separator :: more.letters, more.hasEnd⟩ }
            return goOn
        | none => return .stop .finished
  | .lineNumber => do
      writeText o (writeNat s.line ++ [o.separator])
      return goOn
  | .list width? => do
      let width := width?.getD o.lineWidth
      let texts := (octetsOfLetters s.space.letters).map listedOctet
      writeText o (foldTexts width texts 0 ++ [o.separator])
      return goOn
  | .quit status prints => do
      set { s with status := status }
      if prints then
        if !o.isSilent then writeSpace o .output
        writeLate o
      return .stop .quit
  | .readFile name => do
      set { s with late := .file name :: s.late }
      return goOn
  | .readLine name => do
      let lines ← match s.taken.find? (·.1 == name) with
        | some (_, lines) => pure lines
        | none => do
            match ← (readPath name endlessLength : Job _) with
            | .ok octets => pure (linesBy o.separator octets)
            | .error _ => pure []
      match lines with
      | l :: rest =>
          modify fun s => { s with
            taken := (name, rest) :: s.taken.filter (·.1 != name)
            late := .text (l.octets o.separator) :: s.late }
      | [] => modify fun s => { s with taken := (name, []) :: s.taken.filter (·.1 != name) }
      return goOn
  | .writeFile name => do
      writeSpace o (← targetOf name)
      return goOn
  | .writeFirst name => do
      writeFirstTo o (← targetOf name) s.space
      return goOn
  | .substitute sub => do
      match sub.regex?.or s.lastRegex? with
      | none => do
          discard (occursInSpace none false)
          return goOn
      | some r => do
          set { s with lastRegex? := some r }
          let x : Subject := ⟨s.space.letters.toArray, sub.hasLines⟩
          let (text, isFound) := substituted r sub x (x.text.size + 2) 0 0 none
          if !isFound then return goOn
          else
            setSpace text
            modify fun s => { s with isReplaced := true }
            if sub.runs then
              let arguments := ["-c".toList, octetsOfLetters text]
              let octets ← (captured (discard (o.run "sh".toList arguments)) : Job _)
              setSpace (o.withoutEnd octets)
            if sub.prints then writeSpace o .output
            match sub.file? with
            | some name => writeSpace o (← targetOf name)
            | none => pure ()
            return goOn
  | .transliterate pairs => do
      setSpace (s.space.letters.map fun c => ((pairs.find? (·.1 == c)).map (·.2)).getD c)
      return goOn
  | .fileName => do
      writeText o (s.fileName ++ [o.separator])
      return goOn
  | .clear => do
      setSpace []
      return goOn
  | .runCommand command => do
      if command.isEmpty then
        let arguments := ["-c".toList, octetsOfLetters s.space.letters]
        let octets ← (captured (discard (o.run "sh".toList arguments)) : Job _)
        setSpace (o.withoutEnd octets)
      else
        let octets ← (captured (discard (o.run "sh".toList ["-c".toList, command])) : Job _)
        writeText o octets
      return goOn

/-- Does the commands from a place on for the line. -/
def runEdits (o : EditOptions) (script : EditScript) : (fuel : Nat) → Nat → EditJob EditFlow
  | 0, _ => return .quit
  | fuel + 1, place => do
      match script.commands[place]? with
      | none => return .finished
      | some command => do
          if ← isSelected o place command.selector then
            match ← applyEdit o script place command.selector command.edit with
            | .goOn next => runEdits o script fuel next
            | .stop flow => return flow
          else
            match command.edit with
            | .openBlock last => runEdits o script fuel last
            | _ => runEdits o script fuel (place + 1)

/-- How many commands are done at most. -/
def editLimit : Nat := 1 <<< 22

/-- Does the commands for line after line. -/
def editLines (o : EditOptions) (script : EditScript) : (fuel : Nat) → (isAgain : Bool) →
    EditJob Bool
  | 0, _ => return false
  | fuel + 1, isAgain => do
      let hasLine ← if isAgain then pure true else do
        match ← readLine o with
        | some space => do
            modify fun s => { s with space := space, isReplaced := false }
            pure true
        | none => pure false
      if !hasLine then return false
      else
        match ← runEdits o script editLimit 0 with
        | .finished => do
            if !o.isSilent then writeSpace o .output
            writeLate o
            editLines o script fuel false
        | .dropped => do
            writeLate o
            editLines o script fuel false
        | .again => do
            writeLate o
            editLines o script fuel true
        | .quit => return true

/-! ## Files -/

/-- The options of `sed`. -/
def sedForms : OptionForms where
  letters := "bsnrzuEe:f:l:i::V"
  words := [("binary", .nothing, "b"), ("regexp-extended", .nothing, "E"),
    ("debug", .nothing, "debug"), ("in-place", .maybe, "i"), ("expression", .argument, "e"),
    ("file", .argument, "f"), ("line-length", .argument, "l"), ("null-data", .nothing, "z"),
    ("zero-terminated", .nothing, "z"), ("quiet", .nothing, "n"), ("posix", .nothing, "p"),
    ("silent", .nothing, "n"), ("sandbox", .nothing, "sandbox"), ("separate", .nothing, "s"),
    ("unbuffered", .nothing, "u"), ("follow-symlinks", .nothing, "follow-symlinks")]
  permutes := true

/-- How `sed` is called. -/
def sedUsage : List Char :=
  "Usage: sed [OPTION]... \x7bscript-only-if-no-other-script\x7d [input-file]...\n\n".toList

/-- What `sed` does about arguments. -/
def sedManners : Manners where
  refuse text := do
    complainAs text
    discard (writeTo 2 sedUsage)
    finishWith 1
  version := " (GNU sed) 4.9"

/-- The parts of a script, of which one that ends with a backslash goes on in the next one. -/
def joinedSources : List (EditScript.ScriptSource × List Char) →
    List (EditScript.ScriptSource × List Char)
  | [] => []
  | (source, text) :: rest =>
      match joinedSources rest with
      | (other, next) :: more =>
          let slashes := (text.reverse.takeWhile (· == '\\')).length
          if slashes % 2 = 1 then (source, text ++ '\n' :: next) :: more
          else (source, text) :: (other, next) :: more
      | [] => [(source, text)]

/-- The parts of a script that options give, or the name of a file that can not be read. -/
def scriptSources (isUnicode : Bool) (given : List Given) :
    Job (Except (List Char × Fault) (List (EditScript.ScriptSource × List Char))) := do
  let step (done : Except (List Char × Fault) (List (EditScript.ScriptSource × List Char)))
      (g : Given) :
      Job (Except (List Char × Fault) (List (EditScript.ScriptSource × List Char))) := do
    match done, g.name with
    | .ok sources, "e" =>
        let number := (sources.countP fun s =>
          match s.1 with
          | .expression _ => true
          | .file _ => false) + 1
        return .ok (sources ++ [(.expression number, lettersOf isUnicode g.argument)])
    | .ok sources, "f" =>
        match ← readOperand g.argument with
        | .ok text =>
            let name := g.argument
            let text := if text.getLast? = some '\n' then text.dropLast else text
            return .ok (sources ++ [(.file name, lettersOf isUnicode text)])
        | .error fault => return .error (g.argument, fault)
    | done, _ => return done
  given.foldlM step (.ok [])

/-- The files that a script writes. -/
def filesOfScript (script : EditScript) : List (List Char) :=
  script.commands.toList.filterMap fun command =>
    match command.edit with
    | .writeFile name | .writeFirst name => some name
    | .substitute s => s.file?
    | _ => none

/-- Makes the files that a script writes; answers where they are. -/
def openTargets (names : List (List Char)) : Job (Option (List (List Char × EditTarget))) := do
  let step (done : Option (List (List Char × EditTarget))) (name : List Char) :
      Job (Option (List (List Char × EditTarget))) := do
    match done with
    | none => return none
    | some targets =>
        if name = "/dev/stdout".toList then return some ((name, .console) :: targets)
        else if name = "/dev/stderr".toList then return some ((name, .complaints) :: targets)
        else
          match (← get).create name with
          | .ok (s, id) => do
              set (s.truncate id)
              return some ((name, .file id) :: targets)
          | .error fault => do
              failAs 4 ("couldn't open file ".toList ++ name ++ ": ".toList ++ fault.words.toList)
              return none
  names.foldlM step (some [])

/-- The files of operands that can be read; the others are complained about. -/
def editedFiles (o : EditOptions) (isInPlace : Bool) (operands : List (List Char)) :
    Job (List EditedFile) := do
  let found ← operands.mapM fun name => do
    if isInPlace && (← get).isDirectory name then
      complainAs ("couldn't edit ".toList ++ name ++ ": not a regular file".toList)
      finishWith 4
      return none
    else
      let isInput := name = ['-'] && !isInPlace
      let result ← if isInput then readStream 0 endlessLength else readPath name endlessLength
      match result with
      | .ok text => return some ⟨name, linesBy o.separator text⟩
      | .error .isDirectory => do
          complainAs ("read error on ".toList ++ name ++ ": Is a directory".toList)
          finishWith 4
          return none
      | .error fault => do
          complainAs ("can't read ".toList ++ name ++ ": ".toList ++ fault.words.toList)
          modify fun s => { s with status := max 2 s.status }
          return none
  return found.filterMap id

/-- The name of the copy of a file. -/
def copyName (suffix name : List Char) : List Char :=
  if suffix.contains '*' then
    let base := baseOfPath name
    let directory := name.take (name.length - base.length)
    let copy := suffix.flatMap fun c => if c = '*' then base else [c]
    if copy.contains '/' then copy else directory ++ copy
  else name ++ suffix

/-- Puts what was kept of the output into the file that is edited, of which a copy is made if
that is wanted. -/
def replaceFile (suffix? : Option (List Char)) (name octets : List Char) : Job Unit := do
  let s ← get
  match s.findNode name true with
  | .error _ => return ()
  | .ok id => do
      let old := s.files.node id
      match suffix? with
      | some suffix =>
          match s.create (copyName suffix name) with
          | .ok (s, copy) =>
              set { s with files := s.files.change copy fun _ => old }
          | .error _ => return ()
      | none => pure ()
      modify fun s => { s with
        files := s.files.change id fun n =>
          { n with content := .octets octets, modified := s.clock } }

/-- Runs a script on files each of which is a text of its own. -/
def runSeparately (o : EditOptions) (script : EditScript) (inPlace? : Option (Option (List Char))) :
    List EditedFile → EditJob Unit
  | [] => return ()
  | f :: rest => do
      modify fun s => { s with
        fileName := f.name
        lines := f.lines
        files := rest
        line := 0
        ranges := initialRanges script.commands.toList 0
        unended := s.unended.filter fun t => inPlace?.isNone || t != .output
        kept? := if inPlace?.isSome then some [] else none }
      let hasQuit ← editLines o script (1 <<< 20) false
      let s ← get
      match inPlace?, s.kept? with
      | some suffix?, some parts => do
          let left := if hasQuit then s.lines.flatMap (Line.octets o.separator) else []
          (replaceFile suffix? f.name (parts.reverse.flatten ++ left) : Job Unit)
      | _, _ => pure ()
      if hasQuit then return () else runSeparately o script inPlace? rest
where
  /-- The ranges that are open at the start: those from the line zero on. -/
  initialRanges : List EditCommand → Nat → List (Nat × Nat)
    | [], _ => []
    | command :: rest, n =>
        match command.selector.first? with
        | some (.number 0) => (n, 0) :: initialRanges rest (n + 1)
        | _ => initialRanges rest (n + 1)

/-- What a script that quits leaves of the input, if that can be gone back to. -/
def leaveInput (o : EditOptions) (s : EditState) : Job Unit := do
  let session ← get
  match session.channel? 0 with
  | some (id, .node n offset appends) =>
      if (session.files.content n).isFile && s.fileName = ['-'] then
        let left := (s.lines.map fun l => (l.octets o.separator).length).foldl (· + ·) 0
        set (session.setChannel id (.node n (offset - left) appends))
  | _ => return ()

/-- Edits operands with a script. -/
def editOperands (o : EditOptions) (script : EditScript) (inPlace? : Option (Option (List Char)))
    (operands : List (List Char)) : Job Unit := do
  let some targets ← openTargets (filesOfScript script) | return ()
  let files ← editedFiles o inPlace?.isSome operands
  let status := (← get).status
  let empty : KeptText := ⟨[], true⟩
  let start : EditState := {
    space := empty
    hold := empty
    line := 0
    fileName := ['-']
    lines := []
    files := []
    late := []
    isReplaced := false
    ranges := []
    lastRegex? := none
    unended := []
    written := targets
    taken := []
    kept? := none
    status := status }
  let all ← if o.isSeparate then do
      let ((), s) ← (runSeparately o script inPlace? files).run start
      pure s
    else do
      let ranges := runSeparately.initialRanges script.commands.toList 0
      let first := files.head?
      let (hasQuit, s) ← (editLines o script (1 <<< 20) false).run { start with
        fileName := (first.map EditedFile.name).getD ['-']
        lines := (first.map EditedFile.lines).getD []
        files := files.drop 1
        ranges := ranges }
      if hasQuit then leaveInput o s
      pure s
  finishWith all.status

/-- Edits the lines of files. -/
def runSed (run : Runner) : Tool := fun arguments =>
  withOptionsBy sedManners sedForms arguments fun given operands => do
    let isUnicode := (← get).isUnicode
    let has (name : String) : Bool := isGiven given name
    let width := match lastGiven? given "l" with
      | some text => digitsValue (text.takeWhile Char.isDigit)
      | none => 70
    match ← scriptSources isUnicode given with
    | .error (name, fault) =>
        failAs 4 ("couldn't open file ".toList ++ name ++ ": ".toList ++ fault.words.toList)
    | .ok sources =>
        let hasScript := has "e" || has "f"
        match hasScript, operands with
        | false, [] => do
            discard (writeTo 2 sedUsage)
            finishWith 1
        | _, _ => do
            let sources := if hasScript then sources
              else [(.expression 1, lettersOf isUnicode (operands.headD []))]
            let files := if hasScript then operands else operands.drop 1
            let dialect : EditDialect := ⟨has "E" || has "r", has "sandbox"⟩
            match EditScript.read dialect (joinedSources sources) with
            | .error (status, words) => failAs status words
            | .ok script =>
                let inPlace? := (lastOf? given ["i"]).map (·.argument?)
                if inPlace?.isSome && files.isEmpty then failAs 4 "no input files".toList
                else
                  let options : EditOptions :=
                    ⟨script.isSilent || has "n", has "s" || inPlace?.isSome,
                      if has "z" then '\x00' else '\n', isUnicode, width, run⟩
                  editOperands options script inPlace? (orInput files)

end DesiredState.Tools
