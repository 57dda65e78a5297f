import DesiredState.Number.Layout
import DesiredState.Number.Reading
import DesiredState.Unix.Files.Usual
import DesiredState.Unix.Shell.Command
import DesiredState.Unix.Shell.Signal

/-!
# Sessions of the shell

A script runs on a session: parameters, options, open streams, the files, and what
was written so far.  A step of a script may end more than itself: a loop, a function,
or the whole script.  What was done before stays done.

Commands that are not waited for are run at once, but on a clock of their own.  What
is written is kept with the time at which it was, and is put in order when it is
taken.

## Main definitions

* `Session`, `Ending`, `Job` — a session, how a script is left, and a step of it.
* `Channel`, `readAll`, `writeTo` — what open streams lead to, and their use.
* `Session.parameter?` — the value of a parameter.
-/

namespace DesiredState.Shell

/-- What an open stream leads to. -/
inductive Channel where
  | nowhere
  | zeros
  | full
  /-- The output at a level: that of the script, or one inside of another that is
  taken by the shell itself. -/
  | output (level : Nat)
  | complaints
  /-- Octets without an end that nobody can foresee. -/
  | random
  /-- A text that is read, as far as it is left, and when all of it is there. -/
  | text (rest : List Char) (ready : Nat)
  /-- A file at a place in it; what is written to it may always go to its end. -/
  | node (id offset : Nat) (appends : Bool)
  deriving DecidableEq, Repr

/-- A text that was written, with the time, and the process that did. -/
structure Chunk where
  time : Nat
  process : Nat
  text : List Char

/-- A variable; one that is only marked has no value. -/
structure Variable where
  value? : Option (List Char)
  /-- Whether other programs get it. -/
  isExported : Bool
  /-- Whether it can not be assigned. -/
  isConstant : Bool

/-- A command that was not waited for. -/
structure BackgroundJob where
  number : Nat
  /-- The first and the last one of its processes. -/
  process : Nat
  lastProcess : Nat
  /-- When it ended, or will end. -/
  ended : Nat
  status : Nat
  /-- The signal that ended it. -/
  endedBy? : Option Nat
  /-- Whether it was waited for. -/
  isWaited : Bool
  /-- Whether its end was told. -/
  isTold : Bool

/-- A signal that is sent to a process at a time. -/
structure PendingSignal where
  time : Nat
  process : Nat
  number : Nat

/-- The state of a script. -/
structure Session where
  /-- The name under which the shell complains. -/
  shellName : List Char
  arguments : List (List Char)
  vars : List (String × Variable)
  /-- The functions: the number of their first line, and what they do. -/
  functions : List (String × Nat × Command)
  aliases : List (String × List Char)
  /-- Inside of a function, the local variables as they were before. -/
  outer? : Option (List (String × Option Variable))
  /-- The letters of the options that are on. -/
  options : List Char
  /-- What is done on signals and at the end. -/
  traps : List (String × List Char)
  /-- The status of the last command. -/
  status : Nat
  /-- The status of the last commands whose output was taken. -/
  substituted : Nat
  jobs : List BackgroundJob
  /-- The process of the last command that was not waited for. -/
  lastJob? : Option Nat
  /-- The command of the shell that is run, empty for none. -/
  command : String
  /-- The program that is run, as it was called. -/
  program : List Char
  /-- The line of the command that is run, and the first line of the function that
  it is in. -/
  line : Nat
  firstLine : Nat
  /-- How many loops are around it. -/
  loops : Nat
  /-- The directory as it was gone to, and its node. -/
  directory : List Char
  directoryNode : Nat
  /-- The bits that new files do not get. -/
  umask : Nat
  /-- The programs that were run, with their paths. -/
  remembered : List (String × List Char)
  /-- The number of the argument in which the next option is, and how far options were read
  in the one before that; zero if that is finished. -/
  optionIndex : Nat
  optionOffset : Nat
  channels : List (Nat × Channel)
  /-- The channels of the open streams. -/
  streams : List (Nat × Nat)
  /-- What was written at the innermost level, the last part first. -/
  output : List Chunk
  /-- What was written at the levels around it, the innermost first. -/
  outerOutputs : List (List Chunk)
  /-- What was complained, the last part first. -/
  complaints : List Chunk
  files : FileTree
  /-- The time, in millionths of a second. -/
  clock : Nat
  /-- When the script is ended, if it is. -/
  deadline? : Option Nat
  /-- The process of the shell, and the one that is run for it. -/
  shellProcess : Nat
  process : Nat
  /-- How many processes there were. -/
  processes : Nat
  pending : List PendingSignal
  /-- How much the process leaves to others. -/
  niceness : Int
  /-- Why what the program that is run wrote could not be written. -/
  writeFault? : Option Fault

/-- How a step leaves a script. -/
inductive Ending where
  | exited (status : Nat)
  | killed (signal : Nat)
  /-- The function or the script is left. -/
  | returned (status : Nat)
  /-- So many loops are left. -/
  | broken (loops : Nat)
  /-- So many loops are left, of which the last one goes on. -/
  | continued (loops : Nat)
  deriving DecidableEq, Repr

/-- A step of a script. -/
abbrev Job := ExceptT Ending (StateM Session)

/-- A program: what it does with its arguments. -/
abbrev Tool := List (List Char) → Job Unit

/-- Runs a program by its name with arguments, or answers why that is not possible. -/
abbrev Runner := List Char → List (List Char) → Job (Option Fault)

/-- The number of the process of the first shell. -/
def firstProcess : Nat := 1000

/-- When the first shell starts. -/
def firstTime : Nat := FileTree.firstChange

/-- What a variable is that is set and nothing more. -/
def Variable.plain (value : List Char) : Variable := ⟨some value, false, false⟩

/-- What a variable is that other programs get. -/
def Variable.exported (value : List Char) : Variable := ⟨some value, true, false⟩

/-- The directories in which programs are searched for if none are named. -/
def usualPlaces : List Char := "/usr/local/sbin:/usr/local/bin:/usr/sbin:/usr/bin:/sbin:/bin".toList

/-- The variables of a shell that nobody set. -/
def ownVariables : List (String × Variable) :=
  [("IFS", .plain [' ', '\t', '\n']), ("OPTIND", .plain ['1']), ("PATH", .plain usualPlaces),
    ("PPID", .plain "999".toList), ("PS1", .plain "# ".toList), ("PS2", .plain "> ".toList),
    ("PS4", .plain "+ ".toList)]

/-- The start of a session. -/
def Session.start (files : FileTree) (name : List Char) (input : List Char) : Session where
  shellName := name
  arguments := []
  vars := Entries.insert ownVariables "PATH" (.exported usualPlaces) ++
    [("HOME", .exported "/root".toList), ("LC_CTYPE", .exported "C.UTF-8".toList),
      ("PWD", .exported (octetsOf (files.pathOf files.working).toList))]
  functions := []
  aliases := []
  outer? := none
  options := []
  traps := []
  status := 0
  substituted := 0
  jobs := []
  lastJob? := none
  command := ""
  program := []
  line := 0
  firstLine := 1
  loops := 0
  directory := octetsOf (files.pathOf files.working).toList
  directoryNode := files.working
  umask := 0o022
  remembered := []
  optionIndex := 1
  optionOffset := 0
  channels := [(0, .text input 0), (1, .output 0), (2, .complaints)]
  streams := [(0, 0), (1, 1), (2, 2)]
  output := []
  outerOutputs := []
  complaints := []
  files := files
  clock := firstTime
  deadline? := none
  shellProcess := firstProcess
  process := firstProcess
  processes := 1
  pending := []
  niceness := 0
  writeFault? := none

/-! ## Texts of complaints -/

/-- The words for a fault in a complaint of the shell itself, which has words of its
own for what is not there. -/
def faultWordsOr (missing : String) : Fault → String
  | .notFound | .notDirectory => missing
  | fault => fault.words

/-- The complaint of the shell about a file that it can not read. -/
def notOpened (path : List Char) (fault : Fault) : List Char :=
  "cannot open ".toList ++ path ++ ": ".toList ++ (faultWordsOr "No such file" fault).toList

/-! ## Files -/

/-- The node that a path leads to; a link at its end is followed if `last` holds. -/
def Session.findNode (s : Session) (path : List Char) (last : Bool) : Except Fault Nat :=
  s.files.findFrom s.directoryNode last (decodeLossy path)

/-- What a path leads to. -/
def Session.find (s : Session) (path : List Char) : Except Fault FileContent := do
  pure (s.files.content (← s.findNode path true))

/-- Whether a path leads to something. -/
def Session.exists (s : Session) (path : List Char) : Bool := (s.findNode path true).isOk

/-- Whether a path leads to a directory. -/
def Session.isDirectory (s : Session) (path : List Char) : Bool :=
  match s.find path with
  | .ok content => content.isDirectory
  | .error _ => false

/-- Where a path puts something. -/
def Session.place (s : Session) (path : List Char) : Except Fault FileTree.Place :=
  s.files.placeFrom s.directoryNode (decodeLossy path)

/-! ## Open streams -/

/-- What a stream leads to, if it is open. -/
def Session.channel? (s : Session) (stream : Nat) : Option (Nat × Channel) := do
  let (_, id) ← s.streams.find? (·.1 == stream)
  let (_, channel) ← s.channels.find? (·.1 == id)
  pure (id, channel)

/-- A session with a change of what a channel is. -/
def Session.setChannel (s : Session) (id : Nat) (channel : Channel) : Session :=
  { s with channels := s.channels.map fun c => if c.1 == id then (id, channel) else c }

/-- A session with a stream that is not open. -/
def Session.closeStream (s : Session) (stream : Nat) : Session :=
  { s with streams := s.streams.filter (·.1 != stream) }

/-- A session in which a stream leads to a new channel. -/
def Session.openStream (s : Session) (stream : Nat) (channel : Channel) : Session :=
  let id := (s.channels.map Prod.fst).foldl max 0 + 1
  { s.closeStream stream with
    channels := (id, channel) :: s.channels
    streams := (stream, id) :: s.streams.filter (·.1 != stream) }

/-- A session in which a stream leads to where another one does. -/
def Session.copyStream (s : Session) (stream source : Nat) : Session :=
  match s.streams.find? (·.1 == source) with
  | some (_, id) => { s with streams := (stream, id) :: s.streams.filter (·.1 != stream) }
  | none => s

/-- How many octets are taken at most of what has no end. -/
def endlessLength : Nat := 1 <<< 20

/-- Octets that nobody can foresee, from the number that they start with. -/
def unforeseen (seed : Nat) : Nat → List Char
  | 0 => []
  | n + 1 =>
      let next := (seed * 6364136223846793005 + 1442695040888963407) % (1 <<< 64)
      Char.ofNat (next / (1 <<< 40) % 256) :: unforeseen next n

/-- What is left of a channel, of which `limit` octets are enough where there is no end, and
the session behind reading it. -/
def Session.readChannel (s : Session) (id limit : Nat) (channel : Channel) :
    Except Fault (List Char × Session) :=
  match channel with
  | .output _ | .complaints => .error .badStream
  | .nowhere => .ok ([], s)
  | .zeros | .full => .ok (List.replicate limit '\x00', s)
  | .random => .ok (unforeseen (s.clock + 7919 * s.processes) limit, s)
  | .text rest ready =>
      .ok (rest, { s.setChannel id (.text [] ready) with clock := max s.clock ready })
  | .node n offset appends =>
      match s.files.content n with
      | .queue text =>
          .ok (text, { s with files := s.files.change n fun n => { n with content := .queue [] } })
      | _ => do
          let octets ← s.files.readNode n
          pure (octets.drop offset, s.setChannel id (.node n octets.length appends))

/-- Takes all that is left of a stream, of which `limit` octets are enough where there is no
end. -/
def readStream (stream limit : Nat) : Job (Except Fault (List Char)) := do
  let s ← get
  match s.channel? stream with
  | none => return .error .badStream
  | some (id, channel) =>
      match s.readChannel id limit channel with
      | .error fault => return .error fault
      | .ok (text, s) =>
          set s
          return .ok text

/-- What a node leads to when it is opened, at its start. -/
def Session.channelOf (s : Session) (id : Nat) (appends : Bool) : Except Fault Channel :=
  match s.files.content id with
  | .device .null => .ok .nowhere
  | .device .zero => .ok .zeros
  | .device .full => .ok .full
  | .device .random => .ok .random
  | .device .terminal => .error .noDevice
  | .device (.stream n) =>
      match s.channel? n with
      | some (_, channel) => .ok channel
      | none => .error .notFound
  | _ => .ok (.node id 0 appends)

/-- Takes all of a file, of which `limit` octets are enough where there is no end. -/
def readPath (path : List Char) (limit : Nat) : Job (Except Fault (List Char)) := do
  let s ← get
  match s.findNode path true with
  | .error fault => return .error fault
  | .ok id =>
      match s.files.content id with
      | .device (.stream n) =>
          match s.channel? n with
          | some (_, .node node _ _) => return s.files.readNode node
          | some _ => readStream n limit
          | none => return .error .notFound
      | _ =>
          match s.channelOf id false with
          | .error fault => return .error fault
          | .ok channel =>
              match s.readChannel 0 limit channel with
              | .error fault => return .error fault
              | .ok (text, after) =>
                  set { s with files := after.files }
                  return .ok text

/-- Takes a part of what is left of a stream: a function answers what it makes of that and
what it leaves. -/
def takeFrom {α : Type} (stream limit : Nat) (f : List Char → α × List Char) :
    Job (Except Fault α) := do
  match ← readStream stream limit with
  | .error fault => return .error fault
  | .ok text =>
      let (a, rest) := f text
      modify fun s =>
        match s.channel? stream with
        | some (id, .text _ ready) => s.setChannel id (.text rest ready)
        | some (id, .node n offset appends) =>
            match s.files.content n with
            | .queue _ => { s with
                files := s.files.change n fun n => { n with content := .queue rest } }
            | _ => s.setChannel id (.node n (offset - rest.length) appends)
        | _ => s
      return .ok a

/-- Whether a stream has a place that can be gone back to. -/
def Session.canGoBack (s : Session) (stream : Nat) : Bool :=
  match s.channel? stream with
  | some (_, .node n _ _) => (s.files.content n).isFile
  | _ => false

/-- A file with a text written at a place, and what it is then. -/
def writtenAt (offset : Nat) (text old : List Char) : List Char :=
  if offset = old.length then old ++ text
  else
    old.take offset ++ List.replicate (offset - old.length) '\x00' ++ text ++
      old.drop (offset + text.length)

/-- Writes to where a stream leads; answers why that is not possible. -/
def writeTo (stream : Nat) (text : List Char) : Job (Option Fault) := do
  let s ← get
  let chunk : Chunk := ⟨s.clock, s.process, text⟩
  match s.channel? stream with
  | none | some (_, .text _ _) => return some .badStream
  | some (_, .full) => return if text.isEmpty then none else some .noSpace
  | some (_, .nowhere) | some (_, .zeros) | some (_, .random) => return none
  | some (_, .complaints) =>
      set { s with complaints := chunk :: s.complaints }
      return none
  | some (_, .output level) =>
      if level = s.outerOutputs.length then set { s with output := chunk :: s.output }
      else
        set { s with outerOutputs :=
          s.outerOutputs.modify (s.outerOutputs.length - 1 - level) (chunk :: ·) }
      return none
  | some (id, .node n offset appends) =>
      match s.files.content n with
      | .octets old =>
          let offset := if appends then old.length else offset
          let files := s.files.change n fun node =>
            ⟨.octets (writtenAt offset text old), node.mode, s.clock⟩
          set { s.setChannel id (.node n (offset + text.length) appends) with files := files }
          return none
      | .queue old =>
          set { s with files := s.files.change n fun node =>
            { node with content := .queue (old ++ text) } }
          return none
      | _ => return some .badStream

/-! ### Levels -/

/-- What was written, in order. -/
def textOfChunks (chunks : List Chunk) : List Char :=
  let inOrder := chunks.reverse
  let isSorted := (inOrder.zip (inOrder.drop 1)).all fun (a, b) => a.time ≤ b.time
  (if isSorted then inOrder else inOrder.mergeSort fun a b => a.time ≤ b.time).flatMap Chunk.text

/-- A session in which the output is taken at a new level. -/
def Session.openLevel (s : Session) : Session :=
  { s with output := [], outerOutputs := s.output :: s.outerOutputs }.openStream 1
    (.output (s.outerOutputs.length + 1))

/-- A session without its innermost level, and what was written at that. -/
def Session.closeLevel (s : Session) : Session × List Char :=
  ({ s with
      output := s.outerOutputs.headD []
      outerOutputs := s.outerOutputs.drop 1 }, textOfChunks s.output)

/-- A session without what some processes wrote behind a time. -/
def Session.dropWritten (s : Session) (first last time : Nat) : Session :=
  let kept (chunks : List Chunk) : List Chunk :=
    chunks.filter fun c => !(first ≤ c.process && c.process ≤ last && time < c.time)
  { s with
    output := kept s.output
    outerOutputs := s.outerOutputs.map kept
    complaints := kept s.complaints }

/-! ## Output -/

/-- Writes to the output; why that is not possible is kept. -/
def emit (text : List Char) : Job Unit := do
  match ← writeTo 1 text with
  | some fault => modify fun s => { s with writeFault? := s.writeFault?.or (some fault) }
  | none => return ()

/-- Writes a line to the complaints. -/
def complain (text : List Char) : Job Unit := discard (writeTo 2 (text ++ ['\n']))

/-- Writes a complaint of the shell about the command and the line that are run. -/
def complainHere (text : List Char) : Job Unit := do
  let s ← get
  let command := if s.command.isEmpty then [] else s.command.toList ++ ": ".toList
  complain (s.shellName ++ ": ".toList ++ writeNat (s.line + 1 - s.firstLine) ++ ": ".toList ++
    command ++ text)

/-- Ends a command with a status. -/
def finishWith (status : Nat) : Job Unit := modify fun s => { s with status := status }

/-- Ends a command with success or failure. -/
def finishIf (isFine : Bool) : Job Unit := finishWith (if isFine then 0 else 1)

/-- Complains and ends the script. -/
def giveUp {α : Type} (text : List Char) : Job α := do
  complainHere text
  throw (.exited 2)

/-- Complains about the command that is run.  That ends the script if the command is
part of the language. -/
def refuse (text : List Char) : Job Unit := do
  complainHere text
  if languageCommands.contains (← get).command then throw (.exited 2) else finishWith 2

/-- Lets time pass, up to when the script is ended, if it is. -/
def spend (time : Nat) : Job Unit := do
  let s ← get
  let clock := s.clock + time
  match s.deadline? with
  | some deadline =>
      if deadline ≤ clock then
        set { s with clock := deadline }
        throw (.killed 15)
      else set { s with clock := clock }
  | none => set { s with clock := clock }

/-- Runs a job, and answers how it ended. -/
def observe (job : Job Unit) : Job (Except Ending Unit) := fun s =>
  let (result, s) := job s
  (.ok result, s)

/-- Runs a job, and then changes the session, however the job ends. -/
def thenAlways (job : Job Unit) (change : Session → Session) : Job Unit := fun s =>
  let (result, s) := job s
  (result, change s)

/-! ## Parameters -/

/-- The names of options with their letters. -/
def optionNames : List (String × Char) :=
  [("errexit", 'e'), ("noglob", 'f'), ("ignoreeof", 'I'), ("interactive", 'i'),
    ("monitor", 'm'), ("noexec", 'n'), ("stdin", 's'), ("xtrace", 'x'), ("verbose", 'v'),
    ("vi", 'V'), ("emacs", 'E'), ("noclobber", 'C'), ("allexport", 'a'), ("notify", 'b'),
    ("nounset", 'u'), ("privileged", 'p'), ("nolog", '\x00'), ("debug", '\x01')]

/-- The letters of the options that are on, in the order of the names from the last
to the first. -/
def Session.optionLetters (s : Session) : List Char :=
  ((Entries.values optionNames).filter fun c => c.isAlpha && s.options.contains c).reverse

/-- The variable of a name. -/
def Session.variableOf? (s : Session) (name : List Char) : Option Variable :=
  Entries.get? s.vars (String.ofList name)

/-- The value of a variable, if it is set. -/
def Session.valueOf? (s : Session) (name : List Char) : Option (List Char) :=
  (s.variableOf? name).bind Variable.value?

/-- The value of a variable, empty if it is not set. -/
def Session.valueOf (s : Session) (name : String) : List Char :=
  (s.valueOf? name.toList).getD []

/-- What separates words: the characters of a variable. -/
def Session.separators (s : Session) : List Char :=
  (s.valueOf? "IFS".toList).getD [' ', '\t', '\n']

/-- The value of a parameter, if it is set. -/
def Session.parameter? (s : Session) (name : List Char) : Option (List Char) :=
  match name with
  | ['?'] => some (writeNat s.status)
  | ['$'] => some (writeNat s.shellProcess)
  | ['#'] => some (writeNat s.arguments.length)
  | ['0'] => some s.shellName
  | ['-'] => some s.optionLetters
  | ['!'] => s.lastJob?.map writeNat
  | ['@'] => some (List.intercalate [' '] s.arguments)
  | ['*'] => some (List.intercalate (s.separators.take 1) s.arguments)
  | c :: rest =>
      if c.isDigit then s.arguments[digitsValue (c :: rest) - 1]? else s.valueOf? name
  | [] => none

/-- A session with a change of a variable. -/
def Session.changeVariable (s : Session) (name : List Char) (f : Variable → Variable) : Session :=
  let old := (s.variableOf? name).getD ⟨none, false, false⟩
  { s with vars := Entries.insert s.vars (String.ofList name) (f old) }

/-- Assigns a variable, which must not be constant. -/
def assign (name value : List Char) : Job Unit := do
  let s ← get
  if (s.variableOf? name).any Variable.isConstant then giveUp (name ++ ": is read only".toList)
  else
    let s := s.changeVariable name fun v =>
      { v with value? := some value, isExported := v.isExported || s.options.contains 'a' }
    if name = "PATH".toList then set { s with remembered := [] }
    else if name = "OPTIND".toList then
      match digitsValue? 10 value with
      | some n => set { s with optionIndex := max 1 n, optionOffset := 0 }
      | none => giveUp ("Illegal number: ".toList ++ value)
    else set s

/-- Unsets a variable, which must not be constant. -/
def unassign (name : List Char) : Job Unit := do
  let s ← get
  if (s.variableOf? name).any Variable.isConstant then giveUp (name ++ ": is read only".toList)
  else set { s with vars := Entries.erase s.vars (String.ofList name) }

/-! ### What programs are given -/

/-- The place of a name among so many buckets. -/
def bucketOf (count : Nat) (name : String) : Nat :=
  let octets := octetsOf name.toList
  ((octets.headD '\x00').toNat * 16 + (octets.map Char.toNat).foldl (· + ·) 0) % count

/-- Entries in the order of the buckets of their names. -/
def inBuckets {α : Type} (count : Nat) (entries : List (String × α)) : List (String × α) :=
  (List.range count).flatMap fun n => entries.filter fun e => bucketOf count e.1 == n

/-- How many buckets there are for variables and aliases. -/
def bucketCount : Nat := 39

/-- How many buckets there are for commands. -/
def commandBucketCount : Nat := 31

/-- The variables that programs are given. -/
def Session.environment (s : Session) : List (String × List Char) :=
  inBuckets bucketCount <| s.vars.filterMap fun (name, v) =>
    if v.isExported then v.value?.map fun value => (name, value) else none

/-- Whether texts are taken to be UTF-8: the first one of three variables that is set
says so. -/
def Session.isUnicode (s : Session) : Bool :=
  let exported (name : String) : List Char :=
    match Entries.get? s.vars name with
    | some ⟨some value, true, _⟩ => value
    | _ => []
  match ["LC_ALL", "LC_CTYPE", "LANG"].map exported |>.find? (!·.isEmpty) with
  | some value => ["C.UTF-8", "C.utf8"].contains (String.ofList value)
  | none => false

end DesiredState.Shell
