import DesiredState.Number.Layout
import DesiredState.Text.Split
import DesiredState.Unix.Number.Leading
import DesiredState.Unix.Tools.Options

/-!
# Inputs of programs

The operands of many programs are files that are read one after another.  A dash, or no
operand at all, stands for the input of the program.

## Main definitions

* `readOperand`, `forInputs` — files that are read.
* `sizeOf?` — a number with a unit.
-/

namespace DesiredState.Tools

open Shell

/-- The content of an operand, of which `limit` octets are enough where there is no end. -/
def readUpTo (limit : Nat) (name : List Char) : Job (Except Fault (List Char)) :=
  if name = ['-'] then readStream 0 limit else readPath name limit

/-- The content of an operand. -/
def readOperand (name : List Char) : Job (Except Fault (List Char)) :=
  readUpTo endlessLength name

/-- The operands, or the input in their place. -/
def orInput (operands : List (List Char)) : List (List Char) :=
  if operands.isEmpty then [['-']] else operands

/-- Does something with the content of each operand; those that can not be read are
complained about. -/
def forInputs (operands : List (List Char)) (job : List Char → List Char → Job Unit) : Job Unit :=
  (orInput operands).forM fun name => do
    match ← readOperand name with
    | .ok text => job name text
    | .error fault => do
        complainAbout name fault
        noteFailure

/-- What the operands hold, one after another. -/
def readAllInputs (operands : List (List Char)) : Job (List Char) := do
  let parts ← (orInput operands).mapM fun name => do
    match ← readOperand name with
    | .ok text => pure text
    | .error fault => do
        complainAbout name fault
        noteFailure
        pure []
  return parts.flatten

/-! ## Lines -/

/-- A line, and whether it has an end. -/
structure Line where
  text : List Char
  hasEnd : Bool

/-- The lines of a text that end with a character. -/
def linesBy (separator : Char) (cs : List Char) : List Line :=
  let parts := splitAtChar separator cs
  let complete := parts.dropLast.map fun text => Line.mk text true
  match parts.getLast? with
  | some [] | none => complete
  | some text => complete ++ [⟨text, false⟩]

/-- The texts of lines that end with a character. -/
def textsBy (separator : Char) (cs : List Char) : List (List Char) :=
  (linesBy separator cs).map Line.text

/-- The octets of a line. -/
def Line.octets (separator : Char) (l : Line) : List Char :=
  if l.hasEnd then l.text ++ [separator] else l.text

/-! ## Numbers with units -/

/-- Why a text is no number with a unit. -/
inductive SizeFault where
  | invalid
  | badUnit
  | tooLarge
  deriving DecidableEq, Repr

/-- The power of a letter for a unit. -/
def unitPower? (c : Char) : Option Nat :=
  match c with
  | 'k' | 'K' => some 1
  | 'M' | 'm' => some 2
  | 'G' | 'g' => some 3
  | 'T' | 't' => some 4
  | 'P' => some 5
  | 'E' => some 6
  | 'Z' => some 7
  | 'Y' => some 8
  | 'R' => some 9
  | 'Q' => some 10
  | _ => none

/-- The factor of a unit, if it is one of those that are allowed. -/
def unitFactor? (allowed : String) (cs : List Char) : Option Nat :=
  match cs with
  | [] => some 1
  | c :: rest =>
      if !allowed.toList.contains c then none
      else
        match c, rest with
        | 'b', [] => some 512
        | 'c', [] => some 1
        | 'w', [] => some 2
        | 'B', [] => some 1024
        | c, rest =>
            (unitPower? c).bind fun power =>
              match rest with
              | [] | ['i', 'B'] => some (Nat.pow 1024 power)
              | ['B'] | ['D'] => some (Nat.pow 1000 power)
              | _ => none

/-- A number with a unit, of those that are allowed. -/
def sizeOf? (allowed : String) (cs : List Char) : Except SizeFault Nat :=
  let text := cs.dropWhile isNumberBlank
  let unsigned := if text.head? = some '+' then text.drop 1 else text
  let digits := unsigned.takeWhile Char.isDigit
  let unit := unsigned.drop digits.length
  if digits.isEmpty then
    match unitFactor? allowed unit with
    | some factor =>
        if unit.isEmpty || text.length ≠ unsigned.length then .error .invalid else .ok factor
    | none => .error .invalid
  else
    match unitFactor? allowed unit with
    | some factor =>
        let n := digitsValue digits * factor
        if n < 1 <<< 64 then .ok n else .error .tooLarge
    | none => .error .badUnit

/-- A plain number. -/
def plainNumber? (cs : List Char) : Option Nat :=
  let unsigned := if cs.head? = some '+' then cs.drop 1 else cs
  digitsValue? 10 unsigned

/-- A number filled up with blanks in front. -/
def rightAligned (width : Nat) (cs : List Char) : List Char :=
  List.replicate (width - cs.length) ' ' ++ cs

end DesiredState.Tools
