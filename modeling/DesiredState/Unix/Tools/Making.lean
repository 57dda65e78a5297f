import DesiredState.Unix.Files.Changing
import DesiredState.Unix.Files.Resolving
import DesiredState.Unix.Time.Reading
import DesiredState.Unix.Tools.FileFacts
import DesiredState.Unix.Tools.Paths

/-!
# Making files

Programs that make files, directories and names, take away empty ones, and change what is
noted about them: when they were changed, how long they are, and who may use them.

## Main definitions

* `changeFiles` — a change of the files, which may not be possible.
* `runMkdir`, `runRmdir`, `runTouch`, `runLn`, `runChmod`, `runTruncate` and others.
-/

namespace DesiredState.Tools

open Shell

/-! ## Changes -/

/-- Changes the files; why that is not possible is answered. -/
def changeFiles (change : Session → Except Fault FileTree) : Job (Option Fault) := do
  let s ← get
  match change s with
  | .ok files =>
      set { s with files := files }
      return none
  | .error fault => return some fault

/-- Complains that something can not be done with a path in quotes. -/
def refuseDoing (what : String) (path : List Char) (fault : Fault) : Job Unit := do
  complainAs (what.toList ++ ' ' :: (← shellQuoted path) ++ ": ".toList ++ fault.words.toList)
  noteFailure

/-- Makes a node at a path; why that is not possible is answered. -/
def makeNode (path : List Char) (content : FileContent) (mode : Nat) : Job (Option Fault) :=
  changeFiles fun s => do
    let (files, _) ← s.files.make s.directoryNode (decodeLossy path) ⟨content, mode, s.clock⟩
    pure files

/-- Changes the mode of a node. -/
def changeMode (id mode : Nat) : Job Unit :=
  modify fun s => { s with files := s.files.change id fun n => { n with mode := mode } }

/-- Asks a question, and answers whether the next line of the input says yes. -/
def confirm (question : List Char) : Job Bool := do
  discard (writeTo 2 ((← get).program ++ ": ".toList ++ question ++ "? ".toList))
  let firstLine (text : List Char) : List Char × List Char :=
    let line := text.takeWhile (· != '\n')
    (line, text.drop (line.length + 1))
  match ← takeFrom 0 endlessLength firstLine with
  | .ok (c :: _) => return c = 'y' || c = 'Y'
  | _ => return false

/-- Whether two names lead to the same node; links at their ends are followed or not. -/
def isSameNode (s : Session) (follows : Bool) (a b : List Char) : Bool :=
  match s.findNode a follows, s.findNode b follows with
  | .ok a, .ok b => a == b
  | _, _ => false

/-! ## Directories -/

/-- The paths on the way to a path, without that itself. -/
def pathsOnWay (path : List Char) : List (List Char) :=
  let trimmed := withoutEndSlashes path
  (List.range trimmed.length).filterMap fun n =>
    if 0 < n && trimmed[n]? = some '/' && trimmed[n - 1]? ≠ some '/' then some (trimmed.take n)
    else none

/-- The options of `mkdir`. -/
def mkdirForms : OptionForms where
  letters := "m:pvZ"
  words := [("mode", .argument, "m"), ("parents", .nothing, "p"), ("verbose", .nothing, "v"),
    ("context", .maybe, "Z")]
  permutes := true

/-- Makes a directory, and tells of it if that is asked for. -/
def makeDirectory (tells : Bool) (mode : Nat) (path : List Char) : Job (Option Fault) := do
  match ← makeNode path (.directory 0 []) mode with
  | some fault => return some fault
  | none => do
      if tells then
        emit ((← get).program ++ ": created directory ".toList ++ (← shellQuoted path) ++ ['\n'])
      return none

/-- Makes the directories on the way to a path; answers whether all of them are there. -/
def makeWay (path : List Char) (tells : Bool) : Job Bool :=
  (pathsOnWay path).foldlM (fun isFine outer => do
    let s ← get
    if !isFine || s.isDirectory outer then return isFine
    else
      match ← makeDirectory tells ((0o777 - (0o777 &&& s.umask)) ||| 0o300) outer with
      | none => return true
      | some fault => do
          let fault := if s.exists outer then .notDirectory else fault
          complainAs ("cannot create directory ".toList ++ (← quoted outer) ++ ": ".toList ++
            fault.words.toList)
          noteFailure
          return false) true

/-- Makes directories. -/
def runMkdir : Tool := fun arguments =>
  withOptions mkdirForms 1 arguments fun given operands => do
    let s ← get
    let tells := isGiven given "v"
    let makesWay := isGiven given "p"
    let usual := 0o777 - (0o777 &&& s.umask)
    let modeText? := lastGiven? given "m"
    let mode? := match modeText? with
      | none => some usual
      | some text => (ModeChange.read? text).map (ModeChange.applyAll true s.umask 0o777)
    match operands, mode? with
    | [], _ => misuseMissing 1
    | _, none => failAs 1 ("invalid mode ".toList ++ (← quoted (modeText?.getD [])))
    | operands, some mode =>
        operands.forM fun path => do
          if makesWay then
            if !(← makeWay path tells) then return ()
          match ← makeDirectory tells mode path with
          | none => return ()
          | some fault => do
              if !(makesWay && (← get).isDirectory path) then
                complainAs ("cannot create directory ".toList ++ (← quoted path) ++ ": ".toList ++
                  fault.words.toList)
                noteFailure

/-- The options of `rmdir`. -/
def rmdirForms : OptionForms where
  letters := "pv"
  words := [("ignore-fail-on-non-empty", .nothing, "ignore"), ("parents", .nothing, "p"),
    ("verbose", .nothing, "v")]
  permutes := true

/-- The paths around a path, the innermost first. -/
def pathsAround (path : List Char) : List (List Char) :=
  let trimmed := withoutEndSlashes path
  ((pathsOnWay trimmed).map withoutEndSlashes).reverse.filter fun outer => !outer.isEmpty

/-- Takes away an empty directory; answers whether that was done.  Some failures may be
passed over. -/
def removeDirectoryAs (words : String) (tells passesOver : Bool) (path : List Char) : Job Bool := do
  if tells then
    emit ((← get).program ++ ": removing directory, ".toList ++ (← shellQuoted path) ++ ['\n'])
  let s ← get
  match ← changeFiles fun s =>
      s.files.removeDirectory s.directoryNode s.clock (decodeLossy path) with
  | none => return true
  | some fault => do
      if passesOver && fault = .notEmpty then return false
      else
        complainAs (words.toList ++ (← shellQuoted path) ++ ": ".toList ++
          (if fault = .notDirectory && path.getLast? = some '/' && s.isDirectory path then
            "Symbolic link not followed"
          else fault.words).toList)
        noteFailure
        return false

/-- Takes away empty directories. -/
def runRmdir : Tool := fun arguments =>
  withOptions rmdirForms 1 arguments fun given operands => do
    let tells := isGiven given "v"
    let passesOver := isGiven given "ignore"
    if operands.isEmpty then misuseMissing 1
    else
      operands.forM fun path => do
        let isGone ← removeDirectoryAs "failed to remove " tells passesOver path
        if isGone && isGiven given "p" then
          discard ((pathsAround path).foldlM (fun goesOn outer => do
            if goesOn then removeDirectoryAs "failed to remove directory " tells passesOver outer
            else return false) true)

/-! ## Times -/

/-- The options of `touch`. -/
def touchForms : OptionForms where
  letters := "acd:fhmr:t:"
  words := [("date", .argument, "d"), ("no-create", .nothing, "c"),
    ("no-dereference", .nothing, "h"), ("reference", .argument, "r"), ("time", .argument, "time")]
  permutes := true

/-- The moment of a stamp: month, day, hour and minute in two digits each, with a year of two or
four in front, and seconds behind a point. -/
def momentOfStamp? (now : Moment) (cs : List Char) : Option Moment := do
  let main := cs.takeWhile (· != '.')
  let behind := cs.drop main.length
  let second ← match behind with
    | [] => some 0
    | [_, a, b] => digitsValue? 10 [a, b]
    | _ => none
  if !main.all Char.isDigit then none
  else
    let (year, rest) ← match main.length with
      | 8 => some (now.date.year, main)
      | 10 =>
          let n := digitsValue (main.take 2)
          some (((if n < 69 then 2000 + n else 1900 + n : Nat) : Int), main.drop 2)
      | 12 => some ((digitsValue (main.take 4) : Nat), main.drop 4)
      | _ => none
    let part (n : Nat) : Nat := digitsValue ((rest.drop n).take 2)
    let (month, day, hour, minute) := (part 0, part 2, part 4, part 6)
    if 1 ≤ month && month ≤ 12 && 1 ≤ day && day ≤ daysInMonth year month && hour < 24 &&
        minute < 60 && second ≤ 60 then
      let seconds : Nat := hour * 3600 + minute * 60 + second
      some ⟨daysOfDate ⟨year, month, day⟩ * 86400 + seconds, 0, 0⟩
    else none

/-- A moment as a time of a file, which is not in front of the first one. -/
def timeOfMoment (m : Moment) : Nat := m.seconds.toNat * 1000000 + m.nanoseconds / 1000

/-- The time that options ask for, if they do; they may not be understood. -/
def askedTime (given : List Given) : Job (Option (Option Nat)) := do
  let s ← get
  let now := momentOf s.clock
  let refuse (text : List Char) : Job (Option (Option Nat)) := do
    failAs 1 ("invalid date format ".toList ++ (← quoted text))
    return none
  match lastGiven? given "t", lastGiven? given "d", lastGiven? given "r" with
  | some text, none, none =>
      match momentOfStamp? now text with
      | some m => return some (some (timeOfMoment m))
      | none => refuse text
  | none, some text, none =>
      match Moment.read? now text with
      | some m => return some (some (timeOfMoment m))
      | none => refuse text
  | none, date?, some path =>
      match s.findNode path (!isGiven given "h") with
      | .error fault => do
          refuseDoing "failed to get attributes of" path fault
          return none
      | .ok id =>
          let time := (s.files.node id).modified
          match date? with
          | none => return some (some time)
          | some text =>
              match Moment.read? (momentOf time) text with
              | some m => return some (some (timeOfMoment m))
              | none => refuse text
  | none, none, none => return some none
  | _, _, _ => do
      misuse 1 "cannot specify times from more than one source".toList
      return none

/-- Changes when files were changed, and makes those that are not there. -/
def runTouch : Tool := fun arguments =>
  withOptions touchForms 1 arguments fun given operands => do
    let kind? ← match lastGiven? given "time" with
      | none => pure (some "")
      | some text => wordAmong 1 "--time" [["atime", "access", "use"], ["mtime", "modify"]] text
    let some kind := kind? | return ()
    let some asked? ← askedTime given | return ()
    let isForAccess := (isGiven given "a" || kind = "atime") &&
      !(isGiven given "m" || kind = "mtime")
    if operands.isEmpty then misuse 1 "missing file operand".toList
    else
      operands.forM fun path => do
        let s ← get
        let time := asked?.getD s.clock
        let mark (id : Nat) : Job Unit := do
          if !isForAccess then
            modify fun s => { s with files := s.files.noteChange time id }
        let follows := !isGiven given "h"
        match s.findNode path follows with
        | .ok id => mark id
        | .error fault =>
            let endsOpen := path.getLast? = some '/'
            if path = ['-'] then return ()
            else if isGiven given "c" || !follows then
              if !(isGiven given "c" && fault = .notFound) then
                refuseDoing "setting times of" path fault
            else
              match s.create path with
              | .ok (s, id) => do
                  set s
                  mark id
              | .error made =>
                  if endsOpen then refuseDoing "setting times of" path fault
                  else refuseDoing "cannot touch" path made

/-! ## Names -/

/-- The options of `ln`. -/
def lnForms : OptionForms where
  letters := "bdfinrst:vFLPS:T"
  words := [("backup", .maybe, "backup"), ("directory", .nothing, "d"),
    ("no-dereference", .nothing, "n"), ("no-target-directory", .nothing, "T"),
    ("force", .nothing, "f"), ("interactive", .nothing, "i"), ("suffix", .argument, "S"),
    ("target-directory", .argument, "t"), ("logical", .nothing, "L"), ("physical", .nothing, "P"),
    ("relative", .nothing, "r"), ("symbolic", .nothing, "s"), ("verbose", .nothing, "v")]
  permutes := true

/-- The path from where a link is to what it leads to. -/
def relativeTarget (s : Session) (source path : List Char) : List Char :=
  let real (path : List Char) : String :=
    ((s.files.resolve .nothing s.directoryNode (decodeLossy path)).toOption).getD (decodeLossy path)
  octetsOf (relativePath (real (directoryName path)) (real source)).toList

/-- Puts a name for a file, or a link to it, at a path. -/
def makeName (given : List Given) (source path : List Char) : Job Unit := do
  let s ← get
  let isLink := isGiven given "s"
  let replaces := isGiven given "f" || isGiven given "i"
  let found := s.findNode source (isGiven given "L" || path.getLast? = some '/')
  let node? := found.toOption
  match isLink, found with
  | false, .error fault => refuseDoing "failed to access" source fault
  | _, _ => do
      if !isLink && node?.any s.files.isDirectory then
        let shown ← shellQuotedIfNeeded source
        complainAs (shown ++ ": hard link not allowed for directory".toList)
        noteFailure
      else
        let old? := (s.findNode path false).toOption
        if replaces && old?.any s.files.isDirectory then
          complainAs ((← shellQuotedIfNeeded path) ++ ": cannot overwrite directory".toList)
          noteFailure
        else if replaces && old?.isSome &&
            (if isLink then (s.findNode source true).toOption else node?) = old? &&
            (isLink || nameCount s.files (old?.getD 0) = 1 || baseName source = baseName path) then
          complainAs ((← shellQuoted source) ++ " and ".toList ++ (← shellQuoted path) ++
            " are the same file".toList)
          noteFailure
        else
          let isWanted ←
            if isGiven given "i" && old?.isSome then
              confirm ("replace ".toList ++ (← shellQuoted path))
            else pure true
          if !isWanted then
            noteFailure
            return ()
          if replaces && old?.isSome then
            discard (changeFiles fun s =>
              s.files.removeFile s.directoryNode s.clock (decodeLossy path))
          let target := if isGiven given "r" then relativeTarget s source path else source
          let fault? ←
            if isLink then
              if target.isEmpty then pure (some .notFound)
              else makeNode path (.link (decodeLossy target)) 0o777
            else changeFiles fun s =>
              s.files.linkName s.directoryNode s.clock (node?.getD 0) (decodeLossy path)
          match fault? with
          | none =>
              if isGiven given "v" then
                emit ((← shellQuoted path) ++ (if isLink then " -> " else " => ").toList ++
                  (← shellQuoted target) ++ ['\n'])
          | some fault => do
              let shown ← shellQuoted target
              let isPlain := if isLink then fault ≠ .nameTooLong && !target.isEmpty
                else fault = .alreadyExists || fault = .noSpace
              complainAs ((if isLink then "failed to create symbolic link "
                else "failed to create hard link ").toList ++ (← shellQuoted path) ++
                (if isPlain then []
                else (if isLink then " -> " else " => ").toList ++ shown) ++
                ": ".toList ++ fault.words.toList)
              noteFailure

/-- A directory with the last component of a path in it. -/
def intoDirectory (directory path : List Char) : List Char :=
  let name := baseName path
  directory ++ (if directory.getLast? = some '/' then [] else ['/']) ++
    (if name = ['/'] then [] else name)

/-- Complains that there is only one operand, where two are needed. -/
def misuseMissingTarget (first : List Char) : Job Unit := do
  misuse 1 ("missing destination file operand after ".toList ++ (← shellQuoted first))

/-- Whether a path is a directory that operands may be put into; a fault is answered if it is
none but has to be one. -/
def folderFault? (s : Session) (path : List Char) : Option Fault :=
  match s.findNode path true with
  | .error fault => some fault
  | .ok id => if s.files.isDirectory id then none else some .notDirectory

/-- Complains about a directory that is none. -/
def refuseTarget (words : String) (path : List Char) (fault : Fault) : Job Unit := do
  complainAs (words.toList ++ (← shellQuoted path) ++ ": ".toList ++ fault.words.toList)
  finishWith 1

/-- Does something with each of some operands and the path to which it is to be put: the last
operand, or a path in that if it is a directory, or in a directory that is named. -/
def withTargets (given : List Given) (followsLast : Bool) (operands : List (List Char))
    (job : List (List Char × List Char) → Job Unit) : Job Unit := do
  let s ← get
  let folder? := lastGiven? given "t"
  let isFlat := isGiven given "T"
  match operands, folder? with
  | [], _ => misuse 1 "missing file operand".toList
  | operands, some folder =>
      if isFlat then
        failAs 1 "cannot combine --target-directory (-t) and --no-target-directory (-T)".toList
      else
        match folderFault? s folder with
        | some fault => refuseTarget "target directory " folder fault
        | none => job (operands.map fun path => (path, intoDirectory folder path))
  | [path], none => misuseMissingTarget path
  | [path, target], none =>
      let isFolder := (folderFault? s target).isNone &&
        (followsLast || match s.findNode target false with
          | .ok id => s.files.isDirectory id
          | .error _ => true)
      if isFlat || !isFolder then job [(path, target)]
      else job [(path, intoDirectory target path)]
  | operands, none =>
      let target := operands.getLast?.getD []
      if isFlat then
        misuse 1 ("extra operand ".toList ++ (← shellQuoted ((operands.drop 2).headD [])))
      else
        match folderFault? s target with
        | some fault => refuseTarget "target " target fault
        | none => job (operands.dropLast.map fun path => (path, intoDirectory target path))

/-- Makes names for files, or links to them. -/
def runLn : Tool := fun arguments =>
  withOptions lnForms 1 arguments fun given operands => do
    match operands, isGiven given "t" || isGiven given "T" with
    | [path], false => makeName given path (baseName path)
    | operands, _ =>
        withTargets given (!isGiven given "n") operands fun pairs =>
          pairs.forM fun (source, path) => makeName given source path

/-- Complains about the wrong number of operands, where two are needed. -/
def withTwo (operands : List (List Char)) (job : List Char → List Char → Job Unit) : Job Unit := do
  match operands with
  | [] => misuseMissing 1
  | [a] => misuse 1 ("missing operand after ".toList ++ (← quoted a))
  | [a, b] => job a b
  | _ :: _ :: c :: _ => misuseExtra 1 c

/-- Makes one more name for a file. -/
def runLink : Tool := fun arguments =>
  withOptions ⟨"", [], true, false⟩ 1 arguments fun _ operands =>
    withTwo operands fun source path => do
      let fault? ← changeFiles fun s => do
        s.files.linkName s.directoryNode s.clock (← s.findNode source false) (decodeLossy path)
      fault?.forM fun fault => do
        failAs 1 ("cannot create link ".toList ++ (← shellQuoted path) ++ " to ".toList ++
          (← shellQuoted source) ++ ": ".toList ++ fault.words.toList)

/-- Takes away a name of a file. -/
def runUnlink : Tool := fun arguments =>
  withOptions ⟨"", [], true, false⟩ 1 arguments fun _ operands => do
    match operands with
    | [] => misuseMissing 1
    | [path] =>
        let fault? ← changeFiles fun s =>
          s.files.removeFile s.directoryNode s.clock (decodeLossy path)
        fault?.forM (refuseDoing "cannot unlink" path)
    | _ :: extra :: _ => misuseExtra 1 extra

/-- Makes queues. -/
def runMkfifo : Tool := fun arguments =>
  withOptions ⟨"m:Z", [("mode", .argument, "m"), ("context", .maybe, "Z")], true, false⟩ 1
    arguments fun given operands => do
      let umask := (← get).umask
      let mode? := match lastGiven? given "m" with
        | none => some (0o666 - (0o666 &&& umask))
        | some text => (ModeChange.read? text).map (ModeChange.applyAll false umask 0o666)
      match operands, mode? with
      | [], _ => misuseMissing 1
      | _, none => failAs 1 "invalid mode".toList
      | operands, some mode =>
          operands.forM fun path => do
            (← makeNode path (.queue []) mode).forM (refuseDoing "cannot create fifo" path)

/-- Waits until everything is written, which it is. -/
def runSync : Tool := fun arguments =>
  withOptions ⟨"df", [("data", .nothing, "d"), ("file-system", .nothing, "f")], true, false⟩ 1
    arguments fun _ operands => operands.forM fun path => do
      match (← get).findNode path true with
      | .ok _ => return ()
      | .error fault => refuseDoing "error opening" path fault

/-! ## Lengths -/

/-- How a length changes. -/
inductive LengthChange where
  | exactly
  | longer
  | shorter
  | atMost
  | atLeast
  | roundedDown
  | roundedUp
  deriving DecidableEq, Repr

/-- A changed length. -/
def LengthChange.apply (change : LengthChange) (n old : Nat) : Nat :=
  match change with
  | exactly => n
  | longer => old + n
  | shorter => old - n
  | atMost => min old n
  | atLeast => max old n
  | roundedDown => old / n * n
  | roundedUp => (old + n - 1) / n * n

/-- The change of a length that a text spells, and the rest of the text. -/
def LengthChange.read (cs : List Char) : LengthChange × List Char :=
  match cs.dropWhile isNumberBlank with
  | '<' :: rest => (atMost, rest)
  | '>' :: rest => (atLeast, rest)
  | '/' :: rest => (roundedDown, rest)
  | '%' :: rest => (roundedUp, rest)
  | '+' :: rest => (longer, rest)
  | '-' :: rest => (shorter, rest)
  | rest => (exactly, rest)

/-- A text of a length. -/
def resized (n : Nat) (text : List Char) : List Char :=
  text.take n ++ List.replicate (n - text.length) '\x00'

/-- The options of `truncate`. -/
def truncateForms : OptionForms where
  letters := "cor:s:"
  words := [("io-blocks", .nothing, "o"), ("no-create", .nothing, "c"),
    ("reference", .argument, "r"), ("size", .argument, "s")]
  permutes := true

/-- Changes the length of files. -/
def runTruncate : Tool := fun arguments =>
  withOptions truncateForms 1 arguments fun given operands => do
    let s ← get
    let sizeText? := lastGiven? given "s"
    let (change, rest) := LengthChange.read (sizeText?.getD ['+', '0'])
    let size? := match sizeOf? "EgGkKmMPtTYZ0" rest with
      | .ok n => if rest.head? = some '-' || rest.head? = some '+' then none else some n
      | .error _ => none
    let reference? := lastGiven? given "r"
    match sizeText?, reference?, size? with
    | none, none, _ =>
        misuse 1 ("you must specify either ".toList ++ (← quoted "--size".toList) ++
          " or ".toList ++ (← quoted "--reference".toList))
    | some text, _, none => failAs 1 ("Invalid number: ".toList ++ (← quoted text))
    | _, _, size? =>
        let size := size?.getD 0
        if (change = .roundedDown || change = .roundedUp) && size = 0 then
          failAs 1 "division by zero".toList
        else if sizeText?.isSome && reference?.isSome && change = .exactly then
          misuse 1 ("you must specify a relative ".toList ++ (← quoted "--size".toList) ++
            " with ".toList ++ (← quoted "--reference".toList))
        else if operands.isEmpty then misuse 1 "missing file operand".toList
        else
          let base? : Except Fault (Option Nat) := match reference? with
            | none => .ok none
            | some path => (s.findNode path true).map fun id =>
                some (contentSize (s.files.content id))
          match base? with
          | .error fault => do
              complainAs ("cannot stat ".toList ++ (← shellQuoted (reference?.getD [])) ++
                ": ".toList ++ fault.words.toList)
              finishWith 1
          | .ok base? =>
              operands.forM fun path => do
                let s ← get
                if isGiven given "c" && !s.exists path then return ()
                match s.create path with
                | .error fault => do
                    complainAs ("cannot open ".toList ++ (← shellQuoted path) ++
                      " for writing: ".toList ++ fault.words.toList)
                    noteFailure
                | .ok (s, id) =>
                    let resize (n : FileNode) : FileNode :=
                      match n.content with
                      | .octets text =>
                          let length := change.apply size (base?.getD text.length)
                          ⟨.octets (resized length text), n.mode, s.clock⟩
                      | _ => n
                    set { s with files := s.files.change id resize }

/-! ## Modes -/

/-- The options of `chmod`. -/
def chmodForms : OptionForms where
  letters := "RcfvrwxXugostaHLP"
  words := [("changes", .nothing, "c"), ("recursive", .nothing, "R"),
    ("no-preserve-root", .nothing, "no-preserve-root"),
    ("preserve-root", .nothing, "preserve-root"), ("quiet", .nothing, "f"),
    ("reference", .argument, "reference"), ("silent", .nothing, "f"), ("verbose", .nothing, "v")]
  permutes := true

/-- Whether an argument takes rights away, and is no option. -/
def takesRights (cs : List Char) : Bool :=
  match cs with
  | '-' :: c :: rest =>
      (c :: rest).all (fun c => "rwxXugost,+=-01234567".toList.contains c) && c != '-'
  | _ => false

/-- What a program says about what it changed. -/
inductive Telling where
  | nothing
  | changes
  | everything
  deriving DecidableEq, Repr

/-- What options let a program say about what it changes. -/
def tellingOf (given : List Given) : Telling :=
  match lastOf? given ["c", "v"] with
  | some ⟨"c", _⟩ => .changes
  | some _ => .everything
  | none => .nothing

/-- A mode in four digits and nine letters. -/
def modeWords (mode : Nat) : List Char :=
  let digits := Nat.toDigits 8 mode
  List.replicate (4 - digits.length) '0' ++ digits ++ " (".toList ++ writeMode mode ++ [')']

/-- How the modes of files are changed. -/
structure ModeJob where
  changes : List ModeChange
  telling : Telling
  isQuiet : Bool
  isDeep : Bool
  /-- Whether the change was spelled like an option, so that it is complained about if the
  umask makes less of it. -/
  isStrict : Bool

/-- Changes the mode of a node, and of what is in it. -/
def ModeJob.run (j : ModeJob) : (fuel : Nat) → (isOperand : Bool) → List Char → Job Unit
  | 0, _, _ => return ()
  | fuel + 1, isOperand, path => do
      let s ← get
      match s.findNode path isOperand with
      | .error fault => do
          let leadsNowhere := (s.findNode path false).isOk
          if !j.isQuiet then
            if leadsNowhere then
              complainAs ("cannot operate on dangling symlink ".toList ++ (← shellQuoted path))
            else
              complainAs ("cannot access ".toList ++ (← shellQuoted path) ++ ": ".toList ++
                fault.words.toList)
          if j.telling = .everything then
            emit ((← shellQuoted path) ++ " could not be accessed\n".toList)
          noteFailure
      | .ok id =>
          if (s.files.content id).isLink then
            if j.telling = .everything then
              emit ("neither symbolic link ".toList ++ (← shellQuoted path) ++
                " nor referent has been changed\n".toList)
          else
            let isFolder := s.files.isDirectory id
            let old := (s.files.node id).mode
            let new := ModeChange.applyAll isFolder s.umask old j.changes
            changeMode id new
            if j.telling = .everything || (j.telling = .changes && new ≠ old) then
              let words := if new = old then " retained as ".toList
                else " changed from ".toList ++ modeWords old ++ " to ".toList
              emit ("mode of ".toList ++ (← shellQuoted path) ++ words ++ modeWords new ++ ['\n'])
            let expected := ModeChange.applyAll isFolder 0 old j.changes
            if j.isStrict && (new &&& (0o7777 - expected)) ≠ 0 then
              complainAs ((← shellQuotedIfNeeded path) ++ ": new mode is ".toList ++
                writeMode new ++ ", not ".toList ++ writeMode expected)
              noteFailure
            if j.isDeep && isFolder then
              (s.files.entries id).forM fun (name, _) =>
                j.run fuel false (path ++ (if path.getLast? = some '/' then [] else ['/']) ++
                  octetsOf name.toList)

/-- Changes who may use files. -/
def runChmod : Tool := fun arguments => do
  let ends := arguments.takeWhile (· != ['-', '-'])
  let taken := ends.filter takesRights
  let others := ends.filter (fun a => !takesRights a) ++ arguments.drop ends.length
  withOptions chmodForms 1 others fun given operands => do
    let s ← get
    let isDeep := isGiven given "R"
    let spelled := List.intercalate [','] taken
    let reference? := lastGiven? given "reference"
    let (modeText?, paths) : Option (List Char) × List (List Char) :=
      if reference?.isSome then (none, operands)
      else if taken.isEmpty then (operands.head?, operands.drop 1)
      else (some spelled, operands)
    let changes? : Except Fault (Option (List ModeChange)) := match reference?, modeText? with
      | some path, _ => (s.findNode path true).map fun id =>
          some [⟨'=', .bits, 0o7777, (s.files.node id).mode, 0o7777⟩]
      | none, text? => .ok (text?.bind ModeChange.read?)
    match paths, modeText?, changes? with
    | [], none, _ => misuseMissing 1
    | [], some text, _ =>
        if taken.isEmpty then misuse 1 ("missing operand after ".toList ++ (← quoted text))
        else misuse 1 ("missing operand after ".toList ++ (← quoted text))
    | _, _, .error fault => do
        complainAs ("failed to get attributes of ".toList ++ (← shellQuoted (reference?.getD [])) ++
          ": ".toList ++ fault.words.toList)
        finishWith 1
    | _, text?, .ok none => misuse 1 ("invalid mode: ".toList ++ (← quoted (text?.getD [])))
    | paths, _, .ok (some changes) =>
        let isSafe := (lastOf? given ["preserve-root", "no-preserve-root"]).any
          (·.name == "preserve-root")
        let modeJob : ModeJob := ⟨changes, tellingOf given, isGiven given "f", isDeep,
          !taken.isEmpty⟩
        paths.forM fun path => do
          if isDeep && isSafe && (s.findNode path true).toOption = some 0 then
            complainAs ("it is dangerous to operate recursively on ".toList ++ (← shellQuoted path))
            complainAs "use --no-preserve-root to override this failsafe".toList
            noteFailure
          else modeJob.run (s.files.nodes.size + 1) true path

/-! ## Owners -/

/-- The options of `chown` and `chgrp`. -/
def chownForms : OptionForms where
  letters := "HLPRcfhv"
  words := [("recursive", .nothing, "R"), ("changes", .nothing, "c"),
    ("dereference", .nothing, "dereference"), ("from", .argument, "from"),
    ("no-dereference", .nothing, "h"), ("no-preserve-root", .nothing, "no-preserve-root"),
    ("preserve-root", .nothing, "preserve-root"), ("quiet", .nothing, "f"),
    ("silent", .nothing, "f"), ("reference", .argument, "reference"), ("verbose", .nothing, "v")]
  permutes := true

/-- Whether somebody is known by a name or a number. -/
def isKnownUser (name : List Char) : Bool :=
  (!name.isEmpty && name.all Char.isDigit) ||
    usualUsers.any fun line => line.toList.takeWhile (· != ':') == name

/-- Checks that files could be given to an owner; all of them belong to one already. -/
def runChown (isGroup : Bool) : Tool := fun arguments =>
  withOptions chownForms 1 arguments fun given operands => do
    let hasReference := isGiven given "reference"
    match operands, hasReference with
    | [], _ => misuseMissing 1
    | [owner], false => misuse 1 ("missing operand after ".toList ++ (← quoted owner))
    | operands, _ =>
        let owner := if hasReference then "root".toList else operands.headD []
        let paths := if hasReference then operands else operands.drop 1
        let user := owner.takeWhile fun c => c != ':' && c != '.'
        let group := owner.drop (user.length + 1)
        if isGroup && !isKnownUser owner then
          failAs 1 ("invalid group: ".toList ++ (← quoted owner))
        else if !isGroup && !user.isEmpty && !isKnownUser user then
          failAs 1 ("invalid user: ".toList ++ (← quoted owner))
        else if !isGroup && !group.isEmpty && !isKnownUser group then
          failAs 1 ("invalid group: ".toList ++ (← quoted owner))
        else
          paths.forM fun path => do
            let s ← get
            match s.findNode path true with
            | .error fault => do
                if !isGiven given "f" then
                  complainAs ("cannot access ".toList ++ (← shellQuoted path) ++ ": ".toList ++
                    fault.words.toList)
                noteFailure
            | .ok _ => do
                let what := if isGroup then "group".toList else "ownership".toList
                let isSame := user.isEmpty || user = "root".toList || user.all (· == '0')
                let telling := tellingOf given
                if isSame && telling = .everything then
                  emit (what ++ " of ".toList ++ (← shellQuoted path) ++ " retained as ".toList ++
                    owner ++ ['\n'])
                else if !isSame && telling ≠ .nothing then
                  emit ("changed ".toList ++ what ++ " of ".toList ++ (← shellQuoted path) ++
                    " from root to ".toList ++ owner ++ ['\n'])

end DesiredState.Tools
