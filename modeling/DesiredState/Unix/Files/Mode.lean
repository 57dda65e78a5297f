import DesiredState.Number.Reading
import DesiredState.Text.Split

/-!
# Modes of files

The mode of a file says in nine bits who may read, write and run it, and has three more
bits in front of those.  A text can spell a mode in octal digits, or changes of one.

## Main definitions

* `ModeChange`, `ModeChange.read?` — changes of a mode, and how they are spelled.
* `ModeChange.applyAll` — a mode behind changes.
* `writeMode` — a mode in letters.
-/

namespace DesiredState

/-- Where the bits of a change of a mode come from. -/
inductive ModeSource where
  | bits
  /-- Those who own the file, its group, or all others, as it is. -/
  | existing
  /-- The bit to run it too, if somebody has that, or if it is a directory. -/
  | runnable
  deriving DecidableEq, Repr

/-- A change of a mode. -/
structure ModeChange where
  sign : Char
  source : ModeSource
  /-- The bits that may change; none if nobody was named. -/
  affected : Nat
  value : Nat
  /-- The bits that the change speaks of. -/
  mentioned : Nat
  deriving Repr

namespace ModeChange

/-- The bits of a letter for somebody. -/
def bitsOfPerson? : Char → Option Nat
  | 'u' => some 0o4700
  | 'g' => some 0o2070
  | 'o' => some 0o1007
  | 'a' => some 0o7777
  | _ => none

/-- The bits of a letter for something to be done. -/
def bitsOfRight? : Char → Option Nat
  | 'r' => some 0o444
  | 'w' => some 0o222
  | 'x' => some 0o111
  | 'X' => some 0
  | 's' => some 0o6000
  | 't' => some 0o1000
  | _ => none

/-- One or more changes for the same persons. -/
def readSteps (affected : Nat) : Nat → List Char → Option (List ModeChange)
  | 0, _ => none
  | fuel + 1, cs =>
      match cs with
      | [] => none
      | sign :: rest =>
          if sign != '+' && sign != '-' && sign != '=' then none
          else
            let (source, value, behind) : ModeSource × Nat × List Char :=
              match rest with
              | c :: behind =>
                  if c = 'u' || c = 'g' || c = 'o' then
                    (.existing, (bitsOfPerson? c).getD 0 &&& 0o777, behind)
                  else
                    let rights := rest.takeWhile fun c => (bitsOfRight? c).isSome
                    (if rights.contains 'X' then .runnable else .bits,
                      rights.foldl (fun bits c => bits ||| (bitsOfRight? c).getD 0) 0,
                      rest.drop rights.length)
              | [] => (.bits, 0, [])
            let change : ModeChange :=
              ⟨sign, source, affected, value, if affected = 0 then value else affected &&& value⟩
            if behind.isEmpty then some [change]
            else (readSteps affected fuel behind).map (change :: ·)

/-- The changes that a text spells. -/
def read? (cs : List Char) : Option (List ModeChange) :=
  match digitsValue? 8 cs with
  | some n =>
      if n ≤ 0o7777 then
        let mentioned := if cs.length < 5 then (n &&& 0o6000) ||| 0o1777 else 0o7777
        some [⟨'=', .bits, 0o7777, n, mentioned⟩]
      else none
  | none =>
      if cs.isEmpty then none
      else
        (splitAtChar ',' cs).foldr (fun clause changes => do
          let persons := clause.takeWhile fun c => (bitsOfPerson? c).isSome
          let affected := persons.foldl (fun bits c => bits ||| (bitsOfPerson? c).getD 0) 0
          let first ← readSteps affected (clause.length + 1) (clause.drop persons.length)
          pure (first ++ (← changes))) (some [])

/-- A mode behind a change. -/
def apply (isDirectory : Bool) (umask old : Nat) (c : ModeChange) : Nat :=
  let omitted := if isDirectory then 0o6000 - (0o6000 &&& c.mentioned) else 0
  let value := match c.source with
    | .bits => c.value
    | .existing =>
        let own := c.value &&& old
        (if own &&& 0o444 ≠ 0 then 0o444 else 0) ||| (if own &&& 0o222 ≠ 0 then 0o222 else 0) |||
          (if own &&& 0o111 ≠ 0 then 0o111 else 0)
    | .runnable => if old &&& 0o111 ≠ 0 || isDirectory then c.value ||| 0o111 else c.value
  let allowed := (if c.affected = 0 then 0o7777 - umask else c.affected)
  let value := value &&& allowed &&& (0o7777 - omitted)
  match c.sign with
  | '+' => old ||| value
  | '-' => old &&& (0o7777 - value)
  | _ =>
      let kept := (if c.affected = 0 then 0 else 0o7777 - c.affected) ||| omitted
      (old &&& kept) ||| value

/-- A mode behind changes. -/
def applyAll (isDirectory : Bool) (umask old : Nat) (changes : List ModeChange) : Nat :=
  changes.foldl (apply isDirectory umask) old

end ModeChange

/-- The letters of three bits. -/
def writeRights (bits : Nat) (special : Bool) (letter : Char) : List Char :=
  [if bits &&& 4 ≠ 0 then 'r' else '-', if bits &&& 2 ≠ 0 then 'w' else '-',
    if special then (if bits &&& 1 ≠ 0 then letter else letter.toUpper)
    else if bits &&& 1 ≠ 0 then 'x' else '-']

/-- A mode in nine letters. -/
def writeMode (mode : Nat) : List Char :=
  writeRights (mode / 64 % 8) (mode &&& 0o4000 ≠ 0) 's' ++
    writeRights (mode / 8 % 8) (mode &&& 0o2000 ≠ 0) 's' ++
    writeRights (mode % 8) (mode &&& 0o1000 ≠ 0) 't'

end DesiredState
