import DesiredState.Unix.Files.Mode
import DesiredState.Unix.Shell.Builtin.Flags

/-!
# Commands on what surrounds a script

The commands of the shell that change the directory, the rights of new files, limits, and
what is done on signals.

## Main definitions

* `runCd`, `runPwd` — the directory.
* `runUmask`, `runUlimit`, `runTimes` — rights, limits and time.
* `runTrap` — what is done on signals.
-/

namespace DesiredState.Shell

/-! ## Directories -/

/-- The path that leads from a directory to another one, without the components that lead
nowhere, and with those that lead back taken by their names. -/
def joinedPath (directory path : List Char) : List Char :=
  let isDouble (cs : List Char) : Bool := (cs.takeWhile (· == '/')).length == 2
  let start :=
    if path.head? == some '/' then path
    else directory ++ (if directory.getLast? = some '/' then [] else ['/']) ++ path
  let names := (splitAtChar '/' start).foldl (fun names name =>
    if name = [] || name = ['.'] then names
    else if name = ['.', '.'] then names.drop 1
    else name :: names) []
  let root := if isDouble start then ['/', '/'] else ['/']
  root ++ List.intercalate ['/'] names.reverse

/-- The path of a directory without links. -/
def Session.physicalDirectory (s : Session) (id : Nat) : List Char :=
  octetsOf (s.files.pathOf id).toList

/-- Goes to a directory, which is kept as it was called or without links; answers whether
that was possible. -/
def goTo (isPhysical : Bool) (path : List Char) : Job Bool := do
  let s ← get
  let target := if isPhysical then path else joinedPath s.directory path
  match s.findNode target true with
  | .error _ => return false
  | .ok id =>
      if !s.files.isDirectory id then return false
      else
        let directory := if isPhysical then s.physicalDirectory id else target
        set { s with directory := directory, directoryNode := id }
        assign "OLDPWD".toList s.directory
        assign "PWD".toList directory
        modify fun s =>
          let mark (v : Variable) : Variable := { v with isExported := true }
          (s.changeVariable "OLDPWD".toList mark).changeVariable "PWD".toList mark
        return true

/-- The directories in which one is searched for that is named without a start. -/
def Session.searchedDirectories (s : Session) (path : List Char) : List (List Char) :=
  let first := path.takeWhile (· != '/')
  let isFixed := path.head? == some '/' || first = ['.'] || first = ['.', '.']
  match isFixed, s.valueOf? "CDPATH".toList with
  | false, some places => splitAtChar ':' places
  | _, _ => []

/-- Goes to a directory, or back to the one before. -/
def runCd : Tool := fun arguments =>
  withFlags "LP" arguments fun flags names => do
    let s ← get
    let isPhysical := (flags.getLast?.map Flag.letter) == some 'P'
    let home := (s.valueOf? "HOME".toList).getD []
    let name := names.headD home
    let isBack := name = ['-']
    let target := if isBack then (s.valueOf? "OLDPWD".toList).getD [] else name
    let target := if target.isEmpty then ['.'] else target
    let found? := (s.searchedDirectories target).findSome? fun place =>
      let path := if place.isEmpty then target else place ++ '/' :: target
      if s.isDirectory path then some (path, !place.isEmpty) else none
    let (path, isFound) := found?.getD (target, false)
    if ← goTo isPhysical path then
      finishWith 0
      if isBack || isFound then emit ((← get).directory ++ ['\n'])
    else refuse ("can't cd to ".toList ++ target)

/-- Writes the directory. -/
def runPwd : Tool := fun arguments =>
  withFlags "LP" arguments fun flags _ => do
    let s ← get
    let isPhysical := (flags.getLast?.map Flag.letter) == some 'P'
    emit ((if isPhysical then s.physicalDirectory s.directoryNode else s.directory) ++ ['\n'])
    finishWith 0

/-! ## Rights and limits -/

/-- The letters of the rights that a umask leaves for some. -/
def rightsLeft (bits : Nat) : List Char :=
  (if bits &&& 4 = 0 then ['r'] else []) ++ (if bits &&& 2 = 0 then ['w'] else []) ++
    (if bits &&& 1 = 0 then ['x'] else [])

/-- Sets which rights new files do not get, or writes that. -/
def runUmask : Tool := fun arguments =>
  withFlags "S" arguments fun flags operands => do
    let s ← get
    match operands with
    | [] => do
        let m := s.umask
        if hasFlag flags 'S' then
          emit ("u=".toList ++ rightsLeft (m / 64 % 8) ++ ",g=".toList ++ rightsLeft (m / 8 % 8) ++
            ",o=".toList ++ rightsLeft (m % 8) ++ ['\n'])
        else
          let digits := Nat.toDigits 8 m
          emit (List.replicate (4 - digits.length) '0' ++ digits ++ ['\n'])
        finishWith 0
    | operand :: _ =>
        if operand.head?.any Char.isDigit then
          match digitsValue? 8 operand with
          | some n => set { s with umask := n % 0o1000, status := 0 }
          | none => refuse ("Illegal number: ".toList ++ operand)
        else
          match ModeChange.read? operand with
          | some changes =>
              let rights := ModeChange.applyAll false s.umask (0o777 - s.umask) changes
              set { s with umask := 0o777 - rights % 0o1000, status := 0 }
          | none => refuse ("Illegal mode: ".toList ++ operand)

/-- A limit of the resources. -/
structure ResourceLimit where
  letter : Char
  name : String
  limit? : Option Nat

/-- The limits of the resources. -/
def resourceLimits : List ResourceLimit :=
  [⟨'t', "time(seconds)", none⟩, ⟨'f', "file(blocks)", none⟩, ⟨'d', "data(kbytes)", none⟩,
    ⟨'s', "stack(kbytes)", some 8192⟩, ⟨'c', "coredump(blocks)", some 0⟩,
    ⟨'m', "memory(kbytes)", none⟩, ⟨'l', "locked memory(kbytes)", some 8192⟩,
    ⟨'p', "process", some 128604⟩, ⟨'n', "nofiles", some 20000⟩,
    ⟨'v', "vmemory(kbytes)", none⟩, ⟨'w', "locks", none⟩, ⟨'r', "rtprio", some 0⟩]

/-- The text of a limit. -/
def ResourceLimit.text (l : ResourceLimit) : List Char :=
  match l.limit? with
  | some n => writeNat n
  | none => "unlimited".toList

/-- Writes limits of the resources. -/
def runUlimit : Tool := fun arguments =>
  withFlags "HSatfdscmlpnvwr" arguments fun flags operands => do
    let letter := ((flags.map Flag.letter).filter fun c => c != 'H' && c != 'S').getLast?.getD 'f'
    if letter = 'a' then
      resourceLimits.forM fun l =>
        emit (l.name.toList ++ List.replicate (20 - l.name.length) ' ' ++ ' ' :: l.text ++ ['\n'])
      finishWith 0
    else
      match operands with
      | [] =>
          (resourceLimits.filter (·.letter == letter)).forM fun l => emit (l.text ++ ['\n'])
          finishWith 0
      | [operand] =>
          if operand = "unlimited".toList || (digitsValue? 10 operand).isSome then finishWith 0
          else refuse "bad number".toList
      | _ => refuse "too many arguments".toList

/-- Writes how much time was used. -/
def runTimes : Tool := fun _ => do
  emit "0m0.000000s 0m0.000000s\n0m0.000000s 0m0.000000s\n".toList
  finishWith 0

/-! ## Signals -/

/-- Writes what is done on signals. -/
def listTraps : Job Unit := do
  let traps := (← get).traps
  let numbers := 0 :: signals.map Signal.number
  numbers.forM fun n => do
    let name := signalName n
    (Entries.get? traps name).forM fun action =>
      emit ("trap -- ".toList ++ quotedForShell action ++ [' '] ++ name.toList ++ ['\n'])

/-- Sets what is done on some signals, up to one that there is not. -/
def setTraps (action? : Option (List Char)) : List (List Char) → Job Unit
  | [] => finishWith 0
  | text :: rest => do
      match signalOf? text with
      | some n => do
          let name := signalName n
          modify fun s => { s with
            traps := match action? with
              | some action => Entries.insert s.traps name action
              | none => s.traps.filter (·.1 != name) }
          setTraps action? rest
      | none => do
          complain ("trap: ".toList ++ text ++ ": bad trap".toList)
          finishWith 1

/-- Sets what is done on signals, or lists it. -/
def runTrap : Tool := fun arguments =>
  withFlags "" arguments fun _ operands => do
    match operands with
    | [] => do
        listTraps
        finishWith 0
    | first :: rest =>
        if rest.isEmpty || (digitsValue? 10 first).isSome then setTraps none (first :: rest)
        else setTraps (if first = ['-'] then none else some first) rest

end DesiredState.Shell
