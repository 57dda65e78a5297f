import DesiredState.Unix.Tools.Making

/-!
# Copying, moving and removing files

A copy of a file is a new node with the same octets; a file that is moved only gets another
name.  Both may replace what is at the path, keep it under a name of its own, or leave it
alone.  Directories are copied and removed with all that is in them, if that is asked for.

## Main definitions

* `CopyManner`, `copyTo` — how a file is copied or moved, and the step for one file.
* `runCp`, `runMv`, `runInstall`, `runRm` — the programs.
-/

namespace DesiredState.Tools

open Shell

/-! ## Manners -/

/-- What is made of a file that is copied. -/
inductive CopyKind where
  | copy
  | hardLink
  | symbolicLink
  /-- Only its name changes. -/
  | rename
  deriving DecidableEq, Repr

/-- What happens to a file that would be replaced. -/
inductive Replacing where
  | always
  /-- It is left alone. -/
  | never
  /-- It is left alone, which is a failure. -/
  | refused
  /-- Only if it is older. -/
  | older
  /-- Only if the user says so. -/
  | asked
  deriving DecidableEq, Repr

/-- Under which name a file is kept that is replaced. -/
inductive BackupNaming where
  | simple
  | numbered
  /-- Numbered if there are numbers already. -/
  | existing
  deriving DecidableEq, Repr

/-- How files are copied or moved. -/
structure CopyManner where
  kind : CopyKind
  isDeep : Bool
  /-- Whether a link that is named, or any link, stands for what it leads to. -/
  followsNamed : Bool
  followsAll : Bool
  replacing : Replacing
  /-- Whether a file that is replaced is taken away first. -/
  removesFirst : Bool
  keepsMode : Bool
  keepsTime : Bool
  /-- The mode that copies get, if it is another one. -/
  mode? : Option Nat
  /-- Whether files are put in their place for use. -/
  isInstalling : Bool
  /-- Whether the content is not copied. -/
  isEmpty : Bool
  tells : Bool
  backup? : Option BackupNaming
  suffix : List Char

/-- Whether a file only gets another name. -/
def CopyManner.isMove (m : CopyManner) : Bool := m.kind = .rename

/-- A path with a name of a directory behind it. -/
def childPath (path : List Char) (name : String) : List Char :=
  path ++ (if path.getLast? = some '/' then [] else ['/']) ++ octetsOf name.toList

/-- The path under which a file is kept. -/
def backupPath (s : Session) (naming : BackupNaming) (suffix path : List Char) : List Char :=
  let numbered (n : Nat) : List Char := path ++ ".~".toList ++ writeNat n ++ ['~']
  let taken (n : Nat) : Bool := (s.findNode (numbered n) false).isOk
  let last := ((List.range 100).filter fun n => taken (n + 1)).getLast?
  match naming, last with
  | .simple, _ | .existing, none => path ++ suffix
  | _, last => numbered (last.elim 1 (· + 2))

/-- Complains that something can not be done, without a cause of the system. -/
def refusePlainly (text : List Char) : Job Unit := do
  complainAs text
  noteFailure

/-! ## One file -/

/-- Tells what was copied where. -/
def tellCopy (m : CopyManner) (source path : List Char) (backup? : Option (List Char)) :
    Job Unit := do
  if m.tells then
    let behind ← match backup? with
      | some kept => do pure (" (backup: ".toList ++ (← shellQuoted kept) ++ [')'])
      | none => pure []
    emit ((if m.isMove then "renamed ".toList else []) ++ (← shellQuoted source) ++
      " -> ".toList ++ (← shellQuoted path) ++ behind ++ ['\n'])

/-- Gives a copy the time and the mode that it is to have. -/
def finishCopy (m : CopyManner) (source path : Nat) : Job Unit :=
  modify fun s =>
    let old := s.files.node source
    { s with files := s.files.change path fun n =>
        { n with
          mode := if m.keepsMode then old.mode else m.mode?.getD n.mode
          modified := if m.keepsTime then old.modified else n.modified } }

/-- Copies what a file holds. -/
def copyContent (m : CopyManner) (id : Nat) (source path : List Char) : Job Unit := do
  let s ← get
  let mode := (s.files.node id).mode
  let isDangling := (s.findNode path false).isOk && !s.exists path
  if isDangling then
    refusePlainly ("not writing through dangling symlink ".toList ++ (← shellQuoted path))
  else
    let isThere := s.exists path
    match s.create path with
    | .error fault =>
        let fault := if fault = .isDirectory then .notDirectory else fault
        refuseDoing "cannot create regular file" path fault
    | .ok (s, made) => do
        set s
        if !isThere then
          changeMode made (mode &&& (0o777 - (0o777 &&& s.umask)))
        let text ← if m.isEmpty then pure [] else do
          match ← readPath source endlessLength with
          | .ok text => pure text
          | .error fault => do
              refuseDoing "error reading" source fault
              pure []
        match (← get).channelOf made false with
        | .error fault => refuseDoing "cannot create regular file" path fault
        | .ok channel => do
            if !(m.isEmpty && isThere) then modify fun s => s.truncate made
            modify fun s => s.openStream 9 channel
            (← writeTo 9 text).forM (refuseDoing "error writing" path)
            modify fun s => s.closeStream 9
        finishCopy m id made

/-- Makes a copy of a node that is no directory. -/
def copyLeaf (m : CopyManner) (id : Nat) (source path : List Char) : Job Unit := do
  let s ← get
  let node := s.files.node id
  match m.kind with
  | .hardLink => do
      let fault? ← changeFiles fun s =>
        s.files.linkName s.directoryNode s.clock id (decodeLossy path)
      fault?.forM fun fault => do
        refusePlainly ("cannot create hard link ".toList ++ (← shellQuoted path) ++ " to ".toList ++
          (← shellQuoted source) ++ ": ".toList ++ fault.words.toList)
  | .symbolicLink => do
      if source.head? ≠ some '/' && directoryName path ≠ ['.'] then
        refusePlainly ((← shellQuotedIfNeeded path) ++
          ": can make relative symbolic links only in current directory".toList)
      else
        let fault? ← makeNode path (.link (decodeLossy source)) 0o777
        fault?.forM fun fault => do
          refusePlainly ("cannot create symbolic link ".toList ++ (← shellQuoted path) ++
            " to ".toList ++ (← shellQuoted source) ++ ": ".toList ++ fault.words.toList)
  | _ =>
      match node.content with
      | .link _ => do
          (← makeNode path node.content node.mode).forM
            (refuseDoing "cannot create symbolic link" path)
      | .queue _ =>
          if m.isDeep then
            (← makeNode path (.queue []) node.mode).forM (refuseDoing "cannot create fifo" path)
          else copyContent m id source path
      | .device d =>
          if m.isDeep then
            (← makeNode path (.device d) node.mode).forM
              (refuseDoing "cannot create special file" path)
          else copyContent m id source path
      | _ => copyContent m id source path

/-- Whether a file that is there may be replaced; if it may not, the file is passed over. -/
def mayReplace (m : CopyManner) (source old : Nat) (path : List Char) : Job Bool := do
  let s ← get
  match m.replacing with
  | .always => return true
  | .never => return false
  | .refused => do
      refusePlainly ("not replacing ".toList ++ (← shellQuoted path))
      return false
  | .older => return (s.files.node old).modified < (s.files.node source).modified
  | .asked => do
      if ← confirm ("overwrite ".toList ++ (← shellQuoted path)) then return true
      else
        noteFailure
        return false

/-- Gives a file its new name, and tells of it. -/
def moveTo (m : CopyManner) (source path : List Char) (backup? : Option (List Char)) :
    Job Unit := do
  let fault? ← changeFiles fun s =>
    s.files.rename s.directoryNode s.clock (decodeLossy source) (decodeLossy path)
  match fault? with
  | none => tellCopy m source path backup?
  | some .invalid =>
      refusePlainly ("cannot move ".toList ++ (← shellQuoted source) ++
        " to a subdirectory of itself, ".toList ++ (← shellQuoted path))
  | some .notEmpty => refuseDoing "cannot overwrite" path .notEmpty
  | some fault =>
      refusePlainly ("cannot move ".toList ++ (← shellQuoted source) ++ " to ".toList ++
        (← shellQuoted path) ++ ": ".toList ++ fault.words.toList)

/-- Keeps a file that would be replaced, if that is asked for; answers under which path. -/
def keepOld (m : CopyManner) (path : List Char) : Job (Option (List Char)) := do
  match m.backup? with
  | none => return none
  | some naming => do
      let kept := backupPath (← get) naming m.suffix path
      discard (changeFiles fun s =>
        s.files.rename s.directoryNode s.clock (decodeLossy path) (decodeLossy kept))
      return some kept

/-- What a path leads to where a copy is put, if something is there. -/
def targetNode (s : Session) (m : CopyManner) (id : Nat) (path : List Char) :
    Except Fault (Option Nat) :=
  let isPlain := (s.files.content id).isFile
  let staysHere := m.kind ≠ .copy || m.backup?.isSome || m.removesFirst ||
    (!isPlain && (m.isDeep || s.files.isDirectory id))
  match s.findNode path (!staysHere) with
  | .ok old => .ok (some old)
  | .error .notFound => .ok none
  | .error fault => .error fault

/-- Whether a copy would be put on the file itself. -/
def isOnItself (s : Session) (m : CopyManner) (source path : List Char) : Bool :=
  if m.isMove then isSameNode s false source path
  else if m.removesFirst || m.backup?.isSome then
    isSameNode s true source path && isSameNode s false source path
  else isSameNode s m.followsNamed source path

/-- Makes room for a copy where something is already: answers under which path that is kept,
if it is, or nothing if the copy is not made. -/
def makeRoom (m : CopyManner) (id old : Nat) (source path : List Char) :
    Job (Option (Option (List Char))) := do
  let s ← get
  let isFolder := s.files.isDirectory id
  let hasFolder := s.files.isDirectory old
  let isJoined := isFolder && !m.isMove
  if isOnItself s m source path && !isJoined then
    if m.kind ≠ .hardLink then
      refusePlainly ((← shellQuoted source) ++ " and ".toList ++ (← shellQuoted path) ++
        " are the same file".toList)
    return none
  else if !(isJoined && hasFolder) && !(← mayReplace m id old path) then return none
  else if isFolder && !hasFolder then
    refusePlainly ("cannot overwrite non-directory ".toList ++ (← shellQuoted path) ++
      " with directory ".toList ++ (← shellQuoted source))
    return none
  else if !isFolder && hasFolder then
    refusePlainly ("cannot overwrite directory ".toList ++ (← shellQuoted path) ++
      " with non-directory".toList)
    return none
  else if isJoined then return some none
  else
    let kept? ← keepOld m path
    let isTakenFirst := kept?.isNone && (m.removesFirst ||
      (!m.isMove && !m.followsNamed && !(s.files.content id).isFile))
    if isTakenFirst then
      discard (changeFiles fun s => s.files.removeFile s.directoryNode s.clock (decodeLossy path))
      if m.tells && !m.isInstalling then
        emit ("removed ".toList ++ (← shellQuoted path) ++ ['\n'])
    return some kept?

/-- The directory in which the copies of what is in another one are put, which is made if it
is not there. -/
def copiedFolder? (m : CopyManner) (id : Nat) (isNew : Bool) (source path : List Char) :
    Job (Option Nat) := do
  let s ← get
  let mode := (s.files.node id).mode &&& (0o777 - (0o777 &&& s.umask))
  let fault? ← if isNew then makeNode path (.directory 0 []) mode else pure none
  match fault?, (← get).findNode path true with
  | some fault, _ => do
      refuseDoing "cannot create directory" path fault
      return none
  | none, .error fault => do
      refuseDoing "cannot stat" path fault
      return none
  | none, .ok made => do
      if isNew then tellCopy m source path none
      return some made

/-- Where a copy goes: whether nothing is there yet, and under which path what was there is
kept; nothing if the copy is not made. -/
def roomFor? (m : CopyManner) (id : Nat) (source path : List Char) :
    Job (Option (Bool × Option (List Char))) := do
  let s ← get
  if s.files.isDirectory id && !m.isDeep then
    refusePlainly ((if m.isInstalling then "omitting directory "
      else "-r not specified; omitting directory ").toList ++ (← shellQuoted source))
    return none
  else
    match targetNode s m id path with
    | .error fault => do
        refuseDoing "cannot stat" path fault
        return none
    | .ok none => return some (true, none)
    | .ok (some old) => return (← makeRoom m id old source path).map fun kept? => (false, kept?)

/-- Copies a file to a path, or moves it there; `top` are the names of the outermost file and
its copy, with the node of that. -/
def copyTo (m : CopyManner) : (fuel : Nat) → (top? : Option (List Char × List Char × Nat)) →
    (source path : List Char) → Job Unit
  | 0, _, _, _ => return ()
  | fuel + 1, top?, source, path => do
      let s ← get
      match s.findNode source (if top?.isNone then m.followsNamed else m.followsAll) with
      | .error fault => refuseDoing "cannot stat" source fault
      | .ok id => do
          let some (isNew, kept?) ← roomFor? m id source path | return ()
          if m.isMove then moveTo m source path kept?
          else if !s.files.isDirectory id then
            tellCopy m source path kept?
            copyLeaf m id source path
          else
            let some made ← copiedFolder? m id isNew source path | return ()
            let top := top?.getD (source, path, made)
            ((← get).files.entries id).forM fun (name, child) => do
              if child = top.2.2 then
                refusePlainly ("cannot copy a directory, ".toList ++ (← shellQuoted top.1) ++
                  ", into itself, ".toList ++ (← shellQuoted top.2.1))
              else copyTo m fuel (some top) (childPath source name) (childPath path name)
            if isNew then finishCopy m id made

/-! ## The programs -/

/-- How often directories may be inside of each other at most. -/
def maxDepth : Nat := 256

/-- Copies or moves files to their targets.  A file that was just made is not replaced. -/
def copyAll (m : CopyManner) (pairs : List (List Char × List Char)) : Job Unit :=
  discard (pairs.foldlM (fun (done : List (List Char) × List (List Char)) (source, path) => do
    let s ← get
    if !m.isMove && (s.findNode source true).isOk && done.1.contains source then
      let kind := if s.isDirectory source then "directory" else "file"
      complainAs (("warning: source " ++ kind ++ " ").toList ++ (← shellQuoted source) ++
        " specified more than once".toList)
      return done
    else if m.backup?.isNone && !isOnItself s m source path && s.exists source &&
        s.exists path && !s.isDirectory path && done.2.contains path then
      refusePlainly ("will not overwrite just-created ".toList ++ (← shellQuoted path) ++
        " with ".toList ++ (← shellQuoted source))
      return done
    else
      finishWith 0
      copyTo m maxDepth none source path
      let isMade := (← get).status = 0
      finishWith (max s.status (← get).status)
      return (source :: done.1, if isMade then path :: done.2 else done.2)) ([], []))

/-- The names for ways to keep what is replaced. -/
def backupGroups : List (List String) :=
  [["none", "off"], ["simple", "never"], ["existing", "nil"], ["numbered", "t"]]

/-- How what is replaced is kept; the words that are given may not be understood. -/
def backupOf (given : List Given) : Job (Option (Option BackupNaming)) := do
  match lastOf? given ["backup", "b", "S"] with
  | some ⟨"backup", some text⟩ =>
      match ← wordAmong 1 "backup type" backupGroups text with
      | some "none" => return some none
      | some "simple" => return some (some .simple)
      | some "existing" => return some (some .existing)
      | some _ => return some (some .numbered)
      | none => return none
  | some _ => return some (some .existing)
  | none => return some none

/-- What happens to what would be replaced; the words that are given may not be understood. -/
def replacingOf (refusal : Replacing) (given : List Given) : Job (Option Replacing) := do
  let isOlder := isGiven given "u"
  match lastOf? given ["i", "n", "f", "update"] with
  | some ⟨"i", _⟩ => return some .asked
  | some ⟨"n", _⟩ => return some refusal
  | some ⟨"update", some text⟩ =>
      match ← wordAmong 1 "--update" [["all"], ["none"], ["older"]] text with
      | some "all" => return some .always
      | some "none" => return some .never
      | some _ => return some .older
      | none => return none
  | some ⟨"update", none⟩ => return some .older
  | _ => return some (if isOlder then .older else .always)

/-- The options of `cp`. -/
def cpForms : OptionForms where
  letters := "abdfHilLnprst:uvxPRS:TZ"
  words := [("archive", .nothing, "a"), ("attributes-only", .nothing, "attributes-only"),
    ("backup", .maybe, "backup"), ("copy-contents", .nothing, "copy-contents"),
    ("debug", .nothing, "v"), ("dereference", .nothing, "L"), ("force", .nothing, "f"),
    ("interactive", .nothing, "i"), ("link", .nothing, "l"), ("no-clobber", .nothing, "n"),
    ("no-dereference", .nothing, "P"), ("no-preserve", .argument, "no-preserve"),
    ("no-target-directory", .nothing, "T"), ("one-file-system", .nothing, "x"),
    ("parents", .nothing, "parents"), ("path", .nothing, "parents"),
    ("preserve", .maybe, "preserve"), ("recursive", .nothing, "R"),
    ("remove-destination", .nothing, "remove-destination"), ("sparse", .argument, "sparse"),
    ("reflink", .maybe, "reflink"), ("strip-trailing-slashes", .nothing, "strip"),
    ("suffix", .argument, "S"), ("symbolic-link", .nothing, "s"),
    ("target-directory", .argument, "t"), ("update", .maybe, "update"),
    ("verbose", .nothing, "v"), ("context", .maybe, "Z")]
  permutes := true

/-- Whether an attribute is among those that are kept. -/
def keepsAttribute (given : List Given) (name : String) : Bool :=
  let relevant := given.filter fun g => ["p", "a", "preserve", "no-preserve"].contains g.name
  relevant.foldl (fun keeps g =>
    let words := (splitAtChar ',' g.argument).map String.ofList
    match g.name with
    | "preserve" =>
        keeps || (g.argument?.isNone && name != "links") || words.contains name ||
          words.contains "all"
    | "no-preserve" => keeps && !(words.contains name || words.contains "all")
    | "p" => keeps || name != "links"
    | _ => true) false

/-- The pairs of files and targets if the directories on the way to the files are kept. -/
def pairsWithWays (folder : List Char) (operands : List (List Char)) :
    List (List Char × List Char) :=
  operands.map fun path => (path, folder ++ '/' :: path.dropWhile (· == '/'))

/-- Makes the directories on the way to a file in another directory. -/
def makeWayIn (tells : Bool) (folder source : List Char) : Job Unit :=
  (pathsOnWay source).forM fun outer => do
    let s ← get
    let path := folder ++ '/' :: outer.dropWhile (· == '/')
    if s.isDirectory outer && !s.exists path then
      let mode := match s.findNode outer true with
        | .ok id => (s.files.node id).mode
        | .error _ => 0o755
      (← makeNode path (.directory 0 []) mode).forM (refuseDoing "cannot make directory" path)
      if tells then emit (outer ++ " -> ".toList ++ path ++ ['\n'])

/-- Copies files. -/
def runCp : Tool := fun arguments =>
  withOptions cpForms 1 arguments fun given operands => do
    let has (name : String) : Bool := isGiven given name
    let isDeep := has "r" || has "R" || has "a"
    let some backup? ← backupOf given | return ()
    let some replacing ← replacingOf .never given | return ()
    let links := lastOf? given ["a", "d", "H", "L", "P"]
    let follow : Bool × Bool := match links.map Given.name with
      | some "L" => (true, true)
      | some "H" => (true, false)
      | some _ => (false, false)
      | none => if isDeep then (false, false) else (true, true)
    if (lastOf? given ["i", "n", "f"]).any (·.name == "n") then
      complainAs ("warning: behavior of -n is non-portable and may change in future; " ++
        "use --update=none instead").toList
    let s ← get
    let dropsMode := has "no-preserve" && !keepsAttribute given "mode" &&
      ["mode", "all"].any fun w =>
        (splitAtChar ',' ((lastGiven? given "no-preserve").getD [])).contains w.toList
    if has "l" && has "s" then misuse 1 "cannot make both hard and symbolic links".toList
    else
      let m : CopyManner := {
        kind := if has "l" then .hardLink else if has "s" then .symbolicLink else .copy
        isDeep := isDeep
        followsNamed := follow.1
        followsAll := follow.2
        replacing := replacing
        removesFirst := has "remove-destination" ||
          (has "f" && (has "l" || has "s"))
        keepsMode := keepsAttribute given "mode"
        keepsTime := keepsAttribute given "timestamps"
        mode? := if dropsMode then some (0o666 - (0o666 &&& s.umask)) else none
        isInstalling := false
        isEmpty := has "attributes-only"
        tells := has "v"
        backup? := backup?
        suffix := (lastGiven? given "S").getD ['~'] }
      let operands := if has "strip" then operands.map withoutEndSlashes else operands
      if has "parents" && !operands.isEmpty then
        let folder? := (lastGiven? given "t").orElse fun _ =>
          if 1 < operands.length then operands.getLast? else none
        let paths := if has "t" then operands else operands.dropLast
        match folder? with
        | none => misuseMissingTarget (operands.headD [])
        | some folder =>
            if (folderFault? (← get) folder).isSome || has "T" then
              misuse 1 "with --parents, the destination must be a directory".toList
            else
              paths.forM fun path => do
                if (← get).exists path then makeWayIn m.tells folder path
              copyAll m (pairsWithWays folder paths)
      else
        withTargets given true operands fun pairs =>
          copyAll m (pairs.map fun (source, path) =>
            if baseName source = ['.', '.'] && path ≠ source && isDeep &&
                (baseName path = ['.', '.']) then (source, directoryName path)
            else (source, path))

/-- The options of `mv`. -/
def mvForms : OptionForms where
  letters := "bfint:uvS:TZ"
  words := [("backup", .maybe, "backup"), ("context", .nothing, "Z"), ("debug", .nothing, "v"),
    ("force", .nothing, "f"), ("interactive", .nothing, "i"), ("no-clobber", .nothing, "n"),
    ("no-copy", .nothing, "no-copy"), ("no-target-directory", .nothing, "T"),
    ("strip-trailing-slashes", .nothing, "strip"), ("suffix", .argument, "S"),
    ("target-directory", .argument, "t"), ("update", .maybe, "update"), ("verbose", .nothing, "v")]
  permutes := true

/-- Moves files. -/
def runMv : Tool := fun arguments =>
  withOptions mvForms 1 arguments fun given operands => do
    let some backup? ← backupOf given | return ()
    let some replacing ← replacingOf .refused given | return ()
    let operands :=
      if isGiven given "strip" then operands.map withoutEndSlashes else operands
    let m : CopyManner := {
      kind := .rename
      isDeep := true
      followsNamed := false
      followsAll := false
      replacing := replacing
      removesFirst := false
      keepsMode := true
      keepsTime := true
      mode? := none
      isInstalling := false
      isEmpty := false
      tells := isGiven given "v"
      backup? := backup?
      suffix := (lastGiven? given "S").getD ['~'] }
    withTargets given true operands (copyAll m)

/-- The options of `install`. -/
def installForms : OptionForms where
  letters := "bcCdDg:m:o:pst:vS:TZ"
  words := [("backup", .maybe, "backup"), ("compare", .nothing, "C"), ("directory", .nothing, "d"),
    ("group", .argument, "g"), ("mode", .argument, "m"), ("no-target-directory", .nothing, "T"),
    ("owner", .argument, "o"), ("preserve-timestamps", .nothing, "p"), ("strip", .nothing, "s"),
    ("strip-program", .argument, "strip-program"), ("suffix", .argument, "S"),
    ("target-directory", .argument, "t"), ("verbose", .nothing, "v"), ("context", .maybe, "Z")]
  permutes := true

/-- Makes the directories of a path that are not there, and that itself if asked for, and
tells of it. -/
def installWay (tells isAll : Bool) (mode : Nat) (path : List Char) : Job Unit := do
  let paths := pathsOnWay path ++ (if isAll then [path] else [])
  discard (paths.foldlM (fun isFine outer => do
    let s ← get
    if !isFine || s.isDirectory outer then return isFine
    else
      let mode := if isAll && outer = path then mode else 0o755
      match ← makeNode outer (.directory 0 []) mode with
      | none => do
          if tells then
            emit (s.program ++ ": creating directory ".toList ++ (← shellQuoted outer) ++ ['\n'])
          return true
      | some fault => do
          refuseDoing "cannot create directory" outer
            (if s.exists outer then .notDirectory else fault)
          return false) true)

/-- Copies files, with a mode of their own. -/
def runInstall : Tool := fun arguments =>
  withOptions installForms 1 arguments fun given operands => do
    let some backup? ← backupOf given | return ()
    let modeText := (lastGiven? given "m").getD "755".toList
    match ModeChange.read? modeText with
    | none => failAs 1 ("invalid mode ".toList ++ (← quoted modeText))
    | some changes =>
        let isFolder := isGiven given "d"
        let mode := ModeChange.applyAll isFolder 0 0 changes
        let tells := isGiven given "v"
        if isFolder then
          if operands.isEmpty then misuse 1 "missing file operand".toList
          else
            operands.forM fun path => do
              installWay tells true mode (withoutEndSlashes path)
              (← get).findNode path true |>.toOption |>.forM fun id => changeMode id mode
        else
          let m : CopyManner := {
            kind := .copy
            isDeep := false
            followsNamed := true
            followsAll := true
            replacing := .always
            removesFirst := true
            keepsMode := false
            keepsTime := isGiven given "p"
            mode? := some mode
            isInstalling := true
            isEmpty := false
            tells := tells
            backup? := backup?
            suffix := (lastGiven? given "S").getD ['~'] }
          if isGiven given "D" then
            match lastGiven? given "t", operands with
            | some folder, _ => installWay tells true 0o755 (withoutEndSlashes folder)
            | none, [_, path] => installWay tells false 0o755 path
            | none, _ => pure ()
          withTargets given true operands (copyAll m)

/-! ## Removing -/

/-- How files are removed. -/
structure Removal where
  isDeep : Bool
  takesEmpty : Bool
  isForced : Bool
  asks : Bool
  tells : Bool

/-- The kind of a node in a question. -/
def removedKind (s : Session) (id : Nat) : String := (factsOf s id).kindName

/-- Removes a file, or a directory with all that is in it; answers whether it is gone. -/
def Removal.run (r : Removal) : (fuel : Nat) → List Char → Job Bool
  | 0, _ => return false
  | fuel + 1, path => do
      let s ← get
      let text := decodeLossy path
      let agrees (question : String) : Job Bool := do
        if r.asks then confirm (question.toList ++ ' ' :: (← shellQuoted path)) else return true
      match s.findNode path false with
      | .error fault => do
          if !(r.isForced && (fault = .notFound || fault = .notDirectory)) then
            refuseDoing "cannot remove" path fault
          return false
      | .ok id =>
          if !s.files.isDirectory id then
            if ← agrees ("remove " ++ removedKind s id) then
              gone "removed " path
                (← changeFiles fun s => s.files.removeFile s.directoryNode s.clock text)
            else return false
          else if !r.isDeep && !(r.takesEmpty && (s.files.entries id).isEmpty) then
            refuseDoing "cannot remove" path (if r.takesEmpty then .notEmpty else .isDirectory)
            return false
          else
            let isEmpty := (s.files.entries id).isEmpty
            if !isEmpty && !(← agrees "descend into directory") then return false
            else
              let names := (s.files.entries id).map Prod.fst
              let isCleared ← names.foldlM (fun isCleared name => do
                return (← r.run fuel (childPath path name)) && isCleared) true
              if isCleared && (← agrees "remove directory") then
                gone "removed directory " path
                  (← changeFiles fun s => s.files.removeDirectory s.directoryNode s.clock text)
              else return false
where
  /-- Tells that something is gone, or complains that it is not. -/
  gone (words : String) (path : List Char) (fault? : Option Fault) : Job Bool := do
    match fault? with
    | none => do
        if r.tells then emit (words.toList ++ (← shellQuoted path) ++ ['\n'])
        return true
    | some fault => do
        refuseDoing "cannot remove" path fault
        return false

/-- The options of `rm`. -/
def rmForms : OptionForms where
  letters := "dfirvIR"
  words := [("force", .nothing, "f"), ("interactive", .maybe, "interactive"),
    ("one-file-system", .nothing, "x"), ("no-preserve-root", .nothing, "no-preserve-root"),
    ("preserve-root", .maybe, "preserve-root"), ("recursive", .nothing, "r"),
    ("dir", .nothing, "d"), ("verbose", .nothing, "v")]
  permutes := true

/-- Complains about the options of `rm`; files whose names look like options are told of. -/
def refuseRm (arguments : List (List Char)) (text : List Char) : Job Unit := do
  complainAs text
  let s ← get
  arguments.forM fun a => do
    if a.head? = some '-' && 1 < a.length && (s.findNode a false).isOk then
      complain ("Try '".toList ++ s.program ++ " ./".toList ++ a ++
        "' to remove the file ".toList ++ (← shellQuoted a) ++ ['.'])
  pointToHelp 1

/-- Whether files are asked about one by one, all at once, or not at all; the word that is
given may not be understood. -/
def askingOf (given : List Given) : Job (Option (Bool × Bool)) := do
  match lastOf? given ["i", "I", "f", "interactive"] with
  | some ⟨"i", _⟩ | some ⟨"interactive", none⟩ => return some (true, false)
  | some ⟨"I", _⟩ => return some (false, true)
  | some ⟨"interactive", some text⟩ =>
      match ← wordAmong 1 "--interactive" [["never", "no", "none"], ["once"], ["always", "yes"]]
          text with
      | some "never" => return some (false, false)
      | some "once" => return some (false, true)
      | some _ => return some (true, false)
      | none => return none
  | _ => return some (false, false)

/-- Removes files. -/
def runRm : Tool := fun arguments =>
  withOptionsBy ⟨refuseRm arguments, " (GNU coreutils) 9.4"⟩ rmForms arguments
    fun given operands => do
      let some (asks, asksOnce) ← askingOf given | return ()
      let isDeep := isGiven given "r" || isGiven given "R"
      let isForced := (lastOf? given ["i", "I", "f", "interactive"]).any (·.name == "f")
      let r : Removal := ⟨isDeep, isGiven given "d", isForced, asks, isGiven given "v"⟩
      if operands.isEmpty then
        if !isGiven given "f" then misuseMissing 1
      else
        let count := operands.length
        let question := "remove ".toList ++ writeNat count ++
          (if count = 1 then " argument" else " arguments").toList ++
          (if isDeep then " recursively" else "").toList
        let goesOn ← if asksOnce && (isDeep || 3 < count) then confirm question else pure true
        if goesOn then
          operands.forM fun path => do
            let s ← get
            let last := baseName path
            if isDeep && (last = ['.'] || last = ['.', '.']) then
              refusePlainly ("refusing to remove '.' or '..' directory: skipping ".toList ++
                (← shellQuoted path))
            else if isDeep && !isGiven given "no-preserve-root" &&
                (s.findNode path false).toOption = some 0 then
              complainAs ("it is dangerous to operate recursively on ".toList ++
                (← shellQuoted path) ++
                (if path = ['/'] then "" else " (same as '/')").toList)
              refusePlainly "use --no-preserve-root to override this failsafe".toList
            else discard (r.run maxDepth path)

end DesiredState.Tools
