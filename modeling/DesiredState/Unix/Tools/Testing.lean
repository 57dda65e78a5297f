import DesiredState.Unix.Shell.Condition
import DesiredState.Unix.Tools.Inputs

/-!
# Testing

A program that ends with whether a condition holds.  How its arguments are read depends on how
many there are: up to four have one reading each, and more are read as terms that are joined.

## Main definitions

* `TestFault` — why arguments spell no condition.
* `Conditions.holds` — whether a condition holds.
* `runTest`, `runBracket` — the programs.
-/

namespace DesiredState.Tools

open Shell

/-- Why arguments spell no condition. -/
inductive TestFault where
  | missingBehind (text : List Char)
  | noUnary (text : List Char)
  | noBinary (text : List Char)
  | notInteger (text : List Char)
  | unclosed (found? : Option (List Char))
  | extra (text : List Char)
  | bracketMissing

/-- The words for a fault. -/
def TestFault.message (isUnicode : Bool) : TestFault → List Char
  | missingBehind text => "missing argument after ".toList ++ quotedIn isUnicode text
  | noUnary text => quotedIn isUnicode text ++ ": unary operator expected".toList
  | noBinary text => quotedIn isUnicode text ++ ": binary operator expected".toList
  | notInteger text => "invalid integer ".toList ++ quotedIn isUnicode text
  | unclosed none => quotedIn isUnicode [')'] ++ " expected".toList
  | unclosed (some found) =>
      quotedIn isUnicode [')'] ++ " expected, found ".toList ++ quotedIn isUnicode found
  | extra text => "extra argument ".toList ++ quotedIn isUnicode text
  | bracketMissing => "missing ".toList ++ quotedIn isUnicode [']']

namespace Conditions

/-- A step of reading the arguments that are left. -/
abbrev Reading := StateT (List (List Char)) (Except TestFault)

/-- The signs of tests of two texts. -/
def binarySigns : List String :=
  ["=", "==", "!=", "-eq", "-ne", "-lt", "-le", "-gt", "-ge", "-nt", "-ot", "-ef"]

/-- Whether an argument is the sign of a test of two texts. -/
def isBinarySign (cs : List Char) : Bool := binarySigns.contains (String.ofList cs)

/-- Whether an argument is a dash and one letter. -/
def isShort (cs : List Char) : Bool := cs.length = 2 && cs.head? = some '-'

/-- The integer that an argument spells, with blanks around it. -/
def integerOf (cs : List Char) : Except TestFault Int :=
  let trimmed := ((cs.dropWhile isNumberBlank).reverse.dropWhile isNumberBlank).reverse
  let (isNegative, digits) := splitSign trimmed
  match digitsValue? 10 digits with
  | some n => .ok (if isNegative then -(n : Int) else n)
  | none => .error (.notInteger cs)

/-- The next argument; `all` are all of them. -/
def next (all : List (List Char)) : Reading (List Char) := do
  match ← get with
  | a :: rest =>
      set rest
      return a
  | [] => throw (.missingBehind (all.getLast?.getD []))

/-- Whether a test of one text holds. -/
def unary (s : Session) (all : List (List Char)) : Reading Bool := do
  let sign ← next all
  let letter := (sign.drop 1).headD ' '
  if !Condition.unaryLetters.contains letter && letter != 'N' then throw (.noUnary sign)
  let text ← next all
  if letter = 't' then
    discard (integerOf text)
    return false
  else if letter = 'N' then return false
  else
    match Condition.unaryHolds s sign text with
    | .ok holds => return holds
    | .error _ => return false

/-- The number that an operand stands for: one that is spelled, or the length of a text. -/
def operand (isLength : Bool) (text : List Char) : Except TestFault Int :=
  if isLength then .ok text.length else integerOf text

/-- Whether a test of two texts holds. -/
def binary (s : Session) (all : List (List Char)) (isLength : Bool) : Reading Bool := do
  if isLength then discard (next all)
  let a ← next all
  let sign ← next all
  let isRight := match ← get with
    | ['-', 'l'] :: _ :: _ => true
    | _ => false
  let isNumeric := ["-eq", "-ne", "-lt", "-le", "-gt", "-ge"].contains (String.ofList sign)
  if isRight && isNumeric then discard (next all)
  let b ← next all
  if isNumeric then
    let m ← operand isLength a
    let n ← operand (isRight && isNumeric) b
    return match String.ofList sign with
      | "-eq" => m == n
      | "-ne" => m != n
      | "-lt" => decide (m < n)
      | "-le" => decide (m ≤ n)
      | "-gt" => decide (n < m)
      | _ => decide (n ≤ m)
  else
    let sign := if sign = ['=', '='] then ['='] else sign
    match Condition.binaryHolds s a sign b with
    | .ok holds => return holds
    | .error _ => return false

mutual

/-- Whether a condition of so many arguments holds. -/
def counted (s : Session) (all : List (List Char)) : (fuel : Nat) → Nat → Reading Bool
  | 0, _ => return false
  | fuel + 1, count => do
      let left ← get
      match count, left with
      | 1, _ => return !(← next all).isEmpty
      | 2, a :: _ =>
          if a = ['!'] then
            discard (next all)
            return (← next all).isEmpty
          else if isShort a then unary s all
          else throw (.missingBehind (all.getLast?.getD []))
      | 3, a :: b :: rest =>
          if isBinarySign b then binary s all false
          else if a = ['!'] then
            discard (next all)
            return !(← counted s all fuel 2)
          else if a = ['('] && rest.head? = some [')'] then
            discard (next all)
            let holds := !(← next all).isEmpty
            discard (next all)
            return holds
          else if b = "-a".toList || b = "-o".toList then disjunction s all fuel
          else throw (.noBinary b)
      | 4, a :: _ =>
          if a = ['!'] then
            discard (next all)
            return !(← counted s all fuel 3)
          else if a = ['('] && left[3]? = some [')'] then
            discard (next all)
            let holds ← counted s all fuel 2
            discard (next all)
            return holds
          else disjunction s all fuel
      | _, [] => throw (.missingBehind (all.getLast?.getD []))
      | _, _ => disjunction s all fuel

/-- Whether one of some conditions holds. -/
def disjunction (s : Session) (all : List (List Char)) : (fuel : Nat) → Reading Bool
  | 0 => return false
  | fuel + 1 => do
      let a ← conjunction s all fuel
      if (← get).head? = some "-o".toList then
        discard (next all)
        let b ← disjunction s all fuel
        return a || b
      else return a

/-- Whether some conditions all hold. -/
def conjunction (s : Session) (all : List (List Char)) : (fuel : Nat) → Reading Bool
  | 0 => return false
  | fuel + 1 => do
      let a ← term s all fuel
      if (← get).head? = some "-a".toList then
        discard (next all)
        let b ← conjunction s all fuel
        return a && b
      else return a

/-- Whether one condition holds, or does not behind a sign that negates it. -/
def term (s : Session) (all : List (List Char)) : (fuel : Nat) → Reading Bool
  | 0 => return false
  | fuel + 1 => do
      match ← get with
      | [] => throw (.missingBehind (all.getLast?.getD []))
      | ['!'] :: _ =>
          discard (next all)
          if (← get).isEmpty then throw (.missingBehind (all.getLast?.getD []))
          return !(← term s all fuel)
      | ['('] :: rest =>
          if rest.isEmpty then throw (.missingBehind (all.getLast?.getD []))
          discard (next all)
          let inside := 1 + (rest.drop 1).findIdx (· == [')'])
          let count := if 4 ≤ inside then rest.length else min inside rest.length
          let holds ← counted s all fuel count
          match ← get with
          | [] => throw (.unclosed none)
          | [')'] :: rest => do
              set rest
              return holds
          | found :: _ => throw (.unclosed (some found))
      | a :: rest =>
          if a = "-l".toList && 3 ≤ rest.length && (rest[1]?).any isBinarySign then
            binary s all true
          else if 2 ≤ rest.length && (rest.head?).any isBinarySign then binary s all false
          else if isShort a then unary s all
          else
            set rest
            return !a.isEmpty

end

/-- Whether the condition holds that arguments spell. -/
def holds (s : Session) (arguments : List (List Char)) : Except TestFault Bool := do
  if arguments.isEmpty then pure false
  else
    let fuel := 8 * arguments.length + 8
    let (holds, left) ← (counted s arguments fuel arguments.length).run arguments
    match left with
    | [] => pure holds
    | extra :: _ => throw (.extra extra)

end Conditions

/-- Ends with whether a condition holds. -/
def endWith (name : String) (result : Except TestFault Bool) : Job Unit := do
  match result with
  | .ok holds => finishIf holds
  | .error fault => do
      complain (name.toList ++ ": ".toList ++ fault.message (← get).isUnicode)
      finishWith 2

/-- Ends with whether the condition holds that arguments spell. -/
def runTest : Tool := fun arguments => do
  endWith "test" (Conditions.holds (← get) arguments)

/-- Ends with whether the condition holds that arguments in front of a bracket spell. -/
def runBracket : Tool := fun arguments => do
  match arguments.map String.ofList with
  | ["--help"] => do
      finishWith 0
      emit "Usage: test EXPRESSION\n".toList
  | ["--version"] => do
      finishWith 0
      emit "[ (GNU coreutils) 9.4\n".toList
  | _ =>
      if arguments.getLast? = some [']'] then
        endWith "[" (Conditions.holds (← get) arguments.dropLast)
      else endWith "[" (.error .bracketMissing)

end DesiredState.Tools
