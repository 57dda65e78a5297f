import DesiredState.Unix.Files.Resolving
import DesiredState.Unix.Shell.Streams
import DesiredState.Unix.Tools.Inputs

/-!
# Programs on paths

Parts of paths, the paths that links lead to, and names for files that are not there yet.

## Main definitions

* `baseName`, `directoryName` — the parts of a path.
* `runBasename`, `runDirname`, `runRealpath`, `runReadlink`, `runPathchk`, `runMktemp`, `runPwd`.
-/

namespace DesiredState.Tools

open Shell

/-! ## Parts -/

/-- A path without the slashes at its end. -/
def withoutEndSlashes (cs : List Char) : List Char := (cs.reverse.dropWhile (· == '/')).reverse

/-- The last component of a path. -/
def baseName (path : List Char) : List Char :=
  let trimmed := withoutEndSlashes path
  if trimmed.isEmpty then path.take 1 else baseOfPath trimmed

/-- A path without its last component. -/
def directoryName (path : List Char) : List Char :=
  let trimmed := withoutEndSlashes path
  if trimmed.isEmpty then (if path.isEmpty then ['.'] else ['/'])
  else
    let front := trimmed.take (trimmed.length - (baseOfPath trimmed).length)
    if front.isEmpty then ['.']
    else
      let outer := withoutEndSlashes front
      if outer.isEmpty then ['/'] else outer

/-- A name without a text at its end, if it is longer than that. -/
def withoutSuffix (suffix name : List Char) : List Char :=
  if suffix.length < name.length && suffix.isSuffixOf name then
    name.take (name.length - suffix.length)
  else name

/-- Writes the last components of paths. -/
def runBasename : Tool := fun arguments =>
  let forms : OptionForms := ⟨"as:z", [("multiple", .nothing, "a"), ("suffix", .argument, "s"),
    ("zero", .nothing, "z")], false, false⟩
  withOptions forms 1 arguments fun given operands => do
    let ending := if isGiven given "z" then '\x00' else '\n'
    let write (suffix path : List Char) : Job Unit :=
      emit (withoutSuffix suffix (baseName path) ++ [ending])
    let isMany := isGiven given "a" || isGiven given "s"
    match operands with
    | [] => misuseMissing 1
    | operands =>
        if isMany then operands.forM (write ((lastGiven? given "s").getD []))
        else
          match operands with
          | _ :: _ :: extra :: _ => misuseExtra 1 extra
          | path :: rest => write (rest.headD []) path
          | [] => return ()

/-- Writes paths without their last components. -/
def runDirname : Tool := fun arguments =>
  withOptions ⟨"z", [("zero", .nothing, "z")], true, false⟩ 1 arguments fun given operands => do
    let ending := if isGiven given "z" then '\x00' else '\n'
    if operands.isEmpty then misuseMissing 1
    else operands.forM fun path => emit (directoryName path ++ [ending])

/-! ## Resolved paths -/

/-- The path that a path stands for. -/
def resolved (existence : Existence) (path : List Char) : Job (Except Fault (List Char)) := do
  let s ← get
  return (s.files.resolve existence s.directoryNode (decodeLossy path)).map fun p =>
    octetsOf p.toList

/-- The path that a path stands for if no link is followed. -/
def unlinked (existence : Existence) (path : List Char) : Job (Except Fault (List Char)) := do
  let s ← get
  let text := decodeLossy path
  if text.isEmpty then return .error .notFound
  else
    let start := if isAbsolute text then "" else s.files.pathOf s.directoryNode ++ "/"
    let plain := absolutePath (plainComponents (start ++ text))
    let isThere := existence = .nothing || s.exists path ||
      (existence = .allButLast && s.isDirectory (directoryName path))
    return if isThere then .ok (octetsOf plain.toList) else .error .notFound

/-- The options of `realpath`. -/
def realpathForms : OptionForms where
  letters := "eLmPqsz"
  words := [("canonicalize-existing", .nothing, "e"), ("canonicalize-missing", .nothing, "m"),
    ("logical", .nothing, "L"), ("physical", .nothing, "P"), ("quiet", .nothing, "q"),
    ("strip", .nothing, "s"), ("no-symlinks", .nothing, "s"), ("zero", .nothing, "z"),
    ("relative-to", .argument, "relative-to"), ("relative-base", .argument, "relative-base")]
  permutes := true

/-- Writes the paths that paths stand for. -/
def runRealpath : Tool := fun arguments =>
  withOptions realpathForms 1 arguments fun given operands => do
    let existence : Existence := match lastOf? given ["e", "m"] with
      | some ⟨"e", _⟩ => .all
      | some _ => .nothing
      | none => .allButLast
    let isPlain := (lastOf? given ["s", "L", "P"]).any (·.name == "s")
    let isLogical := (lastOf? given ["s", "L", "P"]).any (·.name == "L")
    let find (path : List Char) : Job (Except Fault (List Char)) := do
      if isPlain then unlinked existence path
      else if isLogical then
        match ← unlinked existence path with
        | .ok path => resolved existence path
        | .error fault => return .error fault
      else resolved existence path
    let ending := if isGiven given "z" then '\x00' else '\n'
    if operands.isEmpty then misuseMissing 1
    else
      let place (name : String) : Job (Option (Option (List Char))) := do
        match lastGiven? given name with
        | none => return some none
        | some path =>
            match ← find path with
            | .ok path => return some (some path)
            | .error fault => do
                complainAbout path fault
                finishWith 1
                return none
      let some base? ← place "relative-base" | return ()
      let some start? ← place "relative-to" | return ()
      operands.forM fun path => do
        match ← find path with
        | .ok found =>
            let isBelow (outer : List Char) : Bool :=
              commonLength (plainComponents (decodeLossy outer))
                (plainComponents (decodeLossy found)) =
                (plainComponents (decodeLossy outer)).length
            let start? := match base?, start? with
              | some base, some start => if isBelow base then some start else none
              | some base, none => if isBelow base then some base else none
              | none, start? => start?
            let text := match start? with
              | some start => octetsOf (relativePath (decodeLossy start) (decodeLossy found)).toList
              | none => found
            emit (text ++ [ending])
        | .error fault => do
            if !isGiven given "q" then complainAbout path fault
            noteFailure

/-- The options of `readlink`. -/
def readlinkForms : OptionForms where
  letters := "efmnqsvz"
  words := [("canonicalize", .nothing, "f"), ("canonicalize-existing", .nothing, "e"),
    ("canonicalize-missing", .nothing, "m"), ("no-newline", .nothing, "n"),
    ("quiet", .nothing, "q"), ("silent", .nothing, "s"), ("verbose", .nothing, "v"),
    ("zero", .nothing, "z")]
  permutes := true

/-- What a link holds. -/
def linkTarget (path : List Char) : Job (Except Fault (List Char)) := do
  let s ← get
  match s.findNode path (path.getLast? = some '/') with
  | .error fault => return .error fault
  | .ok id =>
      match s.files.content id with
      | .link target => return .ok (octetsOf target.toList)
      | _ => return .error .invalid

/-- Writes what links hold, or the paths that paths stand for. -/
def runReadlink : Tool := fun arguments =>
  withOptions readlinkForms 1 arguments fun given operands => do
    let isVerbose := (lastOf? given ["q", "s", "v"]).any (·.name == "v")
    let isMany := 1 < operands.length
    if operands.isEmpty then misuseMissing 1
    else
      if isGiven given "n" && isMany then
        complainAs "ignoring --no-newline with multiple arguments".toList
      let ending :=
        if isGiven given "z" then ['\x00']
        else if isGiven given "n" && !isMany then []
        else ['\n']
      operands.forM fun path => do
        let found ← match lastOf? given ["f", "e", "m"] with
          | some ⟨"f", _⟩ => resolved .allButLast path
          | some ⟨"e", _⟩ => resolved .all path
          | some _ => resolved .nothing path
          | none => linkTarget path
        match found with
        | .ok text => emit (text ++ ending)
        | .error fault => do
            if isVerbose then complainAbout path fault
            noteFailure

/-! ## Checks -/

/-- Whether a letter may stand in names everywhere. -/
def isPortable (c : Char) : Bool := c.isAlphanum || c == '.' || c == '_' || c == '-' || c == '/'

/-- Says what is wrong with a path, if something is. -/
def checkPath (isPortableOnly isStrict : Bool) (path : List Char) : Job Unit := do
  let components := splitAtChar '/' path
  let s ← get
  let refuse (text : List Char) : Job Unit := do
    complainAs text
    noteFailure
  if isStrict && components.any fun c => c.head? == some '-' then
    refuse ("leading '-' in a component of file name ".toList ++ (← shellQuoted path))
  else if (isPortableOnly || isStrict) && path.isEmpty then refuse "empty file name".toList
  else if isPortableOnly then
    match (lettersOf s.isUnicode path).find? fun c => !isPortable c with
    | some c =>
        refuse ("non-portable character ".toList ++ (← quoted (octetsOfLetter c)) ++
          " in file name ".toList ++ (← shellQuoted path))
    | none =>
        match components.find? fun c => 14 < c.length with
        | some c =>
            refuse ("limit 14 exceeded by length ".toList ++ writeNat c.length ++
              " of file name component ".toList ++ (← quoted c))
        | none =>
            if 255 < path.length then
              refuse ("limit 255 exceeded by length ".toList ++ writeNat path.length ++
                " of file name ".toList ++ (← shellQuoted path))
  else
    match s.findNode path false with
    | .error fault =>
        if path.isEmpty || fault ≠ .notFound then
          refuse ((← shellQuotedIfNeeded path) ++ ": ".toList ++ fault.words.toList)
    | .ok _ => return ()

/-- Checks paths. -/
def runPathchk : Tool := fun arguments =>
  withOptions ⟨"pP", [("portability", .nothing, "portability")], false, false⟩ 1 arguments
    fun given operands => do
      let isAll := isGiven given "portability"
      if operands.isEmpty then misuseMissing 1
      else operands.forM (checkPath (isAll || isGiven given "p") (isAll || isGiven given "P"))

/-! ## New names -/

/-- Letters that nobody can foresee. -/
def unforeseenLetters (seed count : Nat) : List Char :=
  let letters := "ABCDEFGHIJKLMNOPQRSTUVWXYZabcdefghijklmnopqrstuvwxyz0123456789".toList
  (unforeseen seed count).map fun c => letters.getD (c.toNat % 62) 'X'

/-- The options of `mktemp`. -/
def mktempForms : OptionForms where
  letters := "dp:qtuV"
  words := [("directory", .nothing, "d"), ("quiet", .nothing, "q"), ("dry-run", .nothing, "u"),
    ("suffix", .argument, "suffix"), ("tmpdir", .maybe, "tmpdir")]
  permutes := true

/-- Makes a file or a directory with a name of its own. -/
def runMktemp : Tool := fun arguments =>
  withOptions mktempForms 1 arguments fun given operands => do
    match operands with
    | _ :: _ :: _ => misuse 1 "too many templates".toList
    | operands => do
        let isDirectory := isGiven given "d"
        let template := operands.headD "tmp.XXXXXXXXXX".toList
        let refuse (text : List Char) : Job Unit := do
          if !isGiven given "q" then complainAs text
          finishWith 1
        let s ← get
        let own := (s.valueOf? "TMPDIR".toList).getD []
        let usual := if own.isEmpty then "/tmp".toList else own
        let place? : Option (List Char) :=
          match lastOf? given ["p", "tmpdir"] with
          | some g => some (if g.argument.isEmpty then usual else g.argument)
          | none => if operands.isEmpty || isGiven given "t" then some usual else none
        let suffix? := lastGiven? given "suffix"
        let behind := template.reverse.takeWhile (· != 'X')
        let front := template.take (template.length - behind.length)
        let suffix := suffix?.getD behind.reverse
        let marks := (front.reverse.takeWhile (· == 'X')).length
        if suffix?.isSome && template.getLast? ≠ some 'X' then
          refuse ("with --suffix, template ".toList ++ (← quoted template) ++
            " must end in X".toList)
        else if suffix.contains '/' then
          refuse ("invalid suffix ".toList ++ (← quoted suffix) ++
            ", contains directory separator".toList)
        else if marks < 3 then
          refuse ("too few X's in template ".toList ++ (← quoted template))
        else
          let named (marksText : List Char) : List Char :=
            let name := front.take (front.length - marks) ++ marksText ++ suffix
            match place? with
            | some place => place ++ (if place.getLast? = some '/' then [] else ['/']) ++ name
            | none => name
          let path := named (unforeseenLetters (s.clock + 31 * s.processes + s.files.nodes.size)
            marks)
          if isGiven given "u" then emit (path ++ ['\n'])
          else
            let kind := if isDirectory then "directory" else "file"
            match s.place path with
            | .error fault => do
                let shown ← quoted (named (List.replicate marks 'X'))
                refuse (("failed to create " ++ kind ++ " via template ").toList ++ shown ++
                  ": ".toList ++ fault.words.toList)
            | .ok place => do
                let content : FileContent :=
                  if isDirectory then .directory place.directory [] else .octets []
                let (s, _) := { s with umask := 0o077 }.newFile place content
                  (if isDirectory then 0o700 else 0o600)
                modify fun old => { s with umask := old.umask }
                emit (path ++ ['\n'])

/-! ## The working directory -/

/-- Writes the path of the working directory. -/
def runPwd : Tool := fun arguments =>
  withOptions ⟨"LP", [("logical", .nothing, "L"), ("physical", .nothing, "P")], true, false⟩ 1
    arguments fun given operands => do
      if !operands.isEmpty then complainAs "ignoring non-option arguments".toList
      let s ← get
      let plain := octetsOf (s.files.pathOf s.directoryNode).toList
      let own := s.valueOf "PWD"
      let isLogical := (lastOf? given ["L", "P"]).any (·.name == "L")
      let isRight := own.head? = some '/' && (s.findNode own true).toOption = some s.directoryNode
      emit ((if isLogical && isRight then own else plain) ++ ['\n'])

end DesiredState.Tools
