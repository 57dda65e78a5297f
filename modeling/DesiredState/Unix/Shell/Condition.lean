import DesiredState.Unix.Number.Leading
import DesiredState.Unix.Shell.Session

/-!
# Conditions on texts, numbers and files

A condition is spelled by the arguments of a command.  What an argument means
depends on those behind it: the sign of a test is a text where nothing follows
that it could test.

## Main definitions

* `ConditionFault` — why arguments spell no condition.
* `Condition.holds` — whether the condition that arguments spell holds.
-/

namespace DesiredState.Shell

/-- Why arguments spell no condition. -/
inductive ConditionFault where
  | unexpected (text : List Char)
  | operandMissing (sign : List Char)
  | notNumber (text : List Char)
  | notClosed
  deriving DecidableEq, Repr

/-- The complaint about a fault. -/
def ConditionFault.message : ConditionFault → List Char
  | unexpected text => text ++ ": unexpected operator".toList
  | operandMissing sign => sign ++ ": argument expected".toList
  | notNumber text => "Illegal number: ".toList ++ text
  | notClosed => "closing paren expected".toList

namespace Condition

/-- What the first one of some arguments is. -/
inductive Role where
  | text
  /-- The sign of a test of one text. -/
  | unary
  /-- The sign of a test of two texts. -/
  | binary
  | negation
  | conjunction
  | disjunction
  | opening
  | closing
  | finish
  deriving DecidableEq, Repr

/-- The signs of tests of two texts. -/
def binarySigns : List String :=
  ["=", "!=", "<", ">", "-eq", "-ne", "-lt", "-le", "-gt", "-ge", "-nt", "-ot", "-ef"]

/-- The letters of tests of one text. -/
def unaryLetters : List Char := "rwxefdcbpugkshLStznOG".toList

/-- Whether an argument is the sign of a test of one text. -/
def isUnarySign : List Char → Bool
  | ['-', c] => unaryLetters.contains c
  | _ => false

/-- Whether an argument is the sign of a test of two texts. -/
def isBinarySign (cs : List Char) : Bool := binarySigns.contains (String.ofList cs)

/-- What the first argument is. -/
def roleOf : List (List Char) → Role
  | [] => .finish
  | a :: rest =>
      let isOperand := match rest with
        | [] => true
        | [_] => false
        | sign :: b :: _ => isBinarySign sign && b != [')']
      if isUnarySign a then if isOperand then .text else .unary
      else if isBinarySign a then .binary
      else
        match String.ofList a with
        | "!" => .negation
        | "-a" => .conjunction
        | "-o" => .disjunction
        | "(" => if rest.isEmpty then .text else .opening
        | ")" => .closing
        | _ => .text

/-- The number that an argument spells. -/
def numberOf (cs : List Char) : Except ConditionFault Int :=
  match leadingInteger? (some 10) cs with
  | some n => if n.isOver || !n.rest.all isNumberBlank then throw (.notNumber cs) else pure n.value
  | none => throw (.notNumber cs)

/-- Whether the node of a path is of a kind. -/
def isKind (s : Session) (path : List Char) (last : Bool) (test : FileNode → Bool) : Bool :=
  match s.findNode path last with
  | .ok id => test (s.files.node id)
  | .error _ => false

/-- Whether a node has one of some bits in its mode. -/
def hasBits (bits : Nat) (node : FileNode) : Bool := node.mode &&& bits != 0

/-- Whether a node can be run, or gone into. -/
def isRunnable (node : FileNode) : Bool := node.content.isDirectory || hasBits 0o111 node

/-- Whether a node has some octets. -/
def hasOctets (node : FileNode) : Bool :=
  match node.content with
  | .octets text => !text.isEmpty
  | .program _ | .directory _ _ | .link _ => true
  | .device _ | .queue _ => false

/-- Whether a test of one text holds. -/
def unaryHolds (s : Session) (sign text : List Char) : Except ConditionFault Bool :=
  let isOf (test : FileNode → Bool) : Except ConditionFault Bool := pure (isKind s text true test)
  match String.ofList sign with
  | "-z" => pure text.isEmpty
  | "-n" => pure !text.isEmpty
  | "-e" | "-r" | "-w" | "-O" | "-G" => isOf fun _ => true
  | "-x" => isOf isRunnable
  | "-d" => isOf fun node => node.content.isDirectory
  | "-f" => isOf fun node => node.content.isFile
  | "-c" => isOf fun node =>
      match node.content with
      | .device (.stream _) => false
      | .device _ => true
      | _ => false
  | "-p" => isOf fun node =>
      match node.content with
      | .queue _ | .device (.stream _) => true
      | _ => false
  | "-s" => isOf hasOctets
  | "-u" => isOf (hasBits 0o4000)
  | "-g" => isOf (hasBits 0o2000)
  | "-k" => isOf (hasBits 0o1000)
  | "-h" | "-L" => pure (isKind s text false fun node => node.content.isLink)
  | "-t" => do
      let _ ← numberOf text
      pure false
  | _ => pure false

/-- Compares when two files were changed, if both are there. -/
def compareTimes (s : Session) (a b : List Char) (test : Nat → Nat → Bool) : Bool :=
  match s.findNode a true, s.findNode b true with
  | .ok i, .ok j => test (s.files.node i).modified (s.files.node j).modified
  | _, _ => false

/-- Whether a test of two texts holds. -/
def binaryHolds (s : Session) (a sign b : List Char) : Except ConditionFault Bool :=
  let compare (test : Int → Int → Bool) : Except ConditionFault Bool := do
    pure (test (← numberOf a) (← numberOf b))
  match String.ofList sign with
  | "=" => pure (a == b)
  | "!=" => pure (a != b)
  | "<" => pure (decide (a < b))
  | ">" => pure (decide (b < a))
  | "-eq" => compare (· == ·)
  | "-ne" => compare (· != ·)
  | "-lt" => compare fun m n => decide (m < n)
  | "-le" => compare fun m n => decide (m ≤ n)
  | "-gt" => compare fun m n => decide (n < m)
  | "-ge" => compare fun m n => decide (n ≤ m)
  | "-nt" => pure (compareTimes s a b fun m n => decide (n < m))
  | "-ot" => pure (compareTimes s a b fun m n => decide (m < n))
  | "-ef" =>
      match s.findNode a true, s.findNode b true with
      | .ok i, .ok j => pure (i == j)
      | _, _ => pure false
  | _ => pure false

/-- A step of reading: whether what was read holds; the arguments that are left are
kept. -/
abbrev Step := StateT (List (List Char)) (Except ConditionFault)

/-- Takes the first argument if it has a role. -/
def takeRole (role : Role) : Step Bool := do
  let cs ← get
  if roleOf cs = role then
    set (cs.drop 1)
    return true
  else return false

mutual

/-- Conditions of which one has to hold. -/
def disjunction (s : Session) : Nat → Step Bool
  | 0 => return false
  | fuel + 1 => do
      let a ← conjunction s fuel
      if ← takeRole .disjunction then
        let b ← disjunction s fuel
        return a || b
      else return a

/-- Conditions that all have to hold. -/
def conjunction (s : Session) : Nat → Step Bool
  | 0 => return false
  | fuel + 1 => do
      let a ← negation s fuel
      if ← takeRole .conjunction then
        let b ← conjunction s fuel
        return a && b
      else return a

/-- A condition that has to hold, or not to. -/
def negation (s : Session) : Nat → Step Bool
  | 0 => return false
  | fuel + 1 => do
      if ← takeRole .negation then return !(← negation s fuel) else test s fuel

/-- One test, or a condition in parentheses. -/
def test (s : Session) : Nat → Step Bool
  | 0 => return false
  | fuel + 1 => do
      let cs ← get
      match roleOf cs, cs with
      | .finish, _ | _, [] => return false
      | .opening, _ :: rest =>
          set rest
          let holds ← disjunction s fuel
          if ← takeRole .closing then return holds else throw .notClosed
      | .unary, sign :: rest =>
          set (rest.drop 1)
          unaryHolds s sign (rest.headD [])
      | _, a :: rest =>
          if roleOf rest = .binary then
            let sign := rest.headD []
            match rest.drop 1 with
            | [] => throw (.operandMissing sign)
            | b :: rest =>
                set rest
                binaryHolds s a sign b
          else
            set rest
            return !a.isEmpty

end

/-- Whether a condition holds that is spelled by all of some arguments. -/
def holdsAll (s : Session) (arguments : List (List Char)) : Except ConditionFault Bool := do
  let (holds, rest) ← (disjunction s (4 * arguments.length + 4)).run arguments
  if rest.isEmpty then pure holds
  else throw (.unexpected ((arguments[arguments.length - rest.length - 1]?).getD []))

/-- Whether the condition that arguments spell holds.  Of three arguments the middle
one decides, if it is a sign; behind that, a first one that negates, or
parentheses around the others. -/
def holds (s : Session) : List (List Char) → Except ConditionFault Bool
  | [] => pure false
  | [a, sign, b] =>
      if isBinarySign sign then binaryHolds s a sign b
      else if a = ['('] && b = [')'] then holdsAll s [sign]
      else if a = ['!'] then do pure !(← holds s [sign, b])
      else holdsAll s [a, sign, b]
  | [a, b, c, d] =>
      if a = ['('] && d = [')'] then holdsAll s [b, c]
      else if a = ['!'] then do pure !(← holds s [b, c, d])
      else holdsAll s [a, b, c, d]
  | arguments => holdsAll s arguments

end Condition

end DesiredState.Shell
