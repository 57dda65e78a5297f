import DesiredState.Number.Layout
import DesiredState.Unix.Number.Leading
import DesiredState.Unix.Shell.Command

/-!
# Formulas in shell scripts

A formula is computed with integers of 64 bits; what does not fit wraps around.
Variables count as the number that their value spells, and as zero when they
are not set or empty.

## Main definitions

* `Formula` — expressions.
* `FormulaFault` — why a text is no formula, or has no value.
* `Formula.read`, `Formula.value` — the expression that a text spells, and its value.
* `valueOfFormula` — the value of a text.
-/

namespace DesiredState.Shell

/-- What is done with two numbers. -/
inductive BinaryOp where
  | mul | div | rem | add | sub | shiftLeft | shiftRight
  | less | lessEqual | greater | greaterEqual | equal | unequal
  | bitAnd | bitXor | bitOr
  deriving DecidableEq, Repr

/-- What is done with one number. -/
inductive UnaryOp where
  | plus | minus | negate | complement
  deriving DecidableEq, Repr

/-- An expression. -/
inductive Formula where
  | number (value : Int)
  | named (name : List Char)
  | unary (op : UnaryOp) (a : Formula)
  | binary (op : BinaryOp) (a b : Formula)
  /-- Whether both are other than zero; the second one counts only if the first
  one is. -/
  | both (a b : Formula)
  /-- Whether one is other than zero; the second one counts only if the first one
  is not. -/
  | either (a b : Formula)
  | choose (test a b : Formula)
  /-- A value that is assigned to a variable, or put together with the old one
  before that. -/
  | assign (name : List Char) (op? : Option BinaryOp) (a : Formula)
  deriving Inhabited

/-- Why a text is no formula, or has no value. -/
inductive FormulaFault where
  | primaryMissing
  | endMissing
  | closeMissing
  | colonMissing
  | divisionByZero
  /-- The value of a variable is not a number. -/
  | notNumber (text : List Char)
  deriving DecidableEq, Repr

/-- The complaint about a fault in the formula of a text. -/
def FormulaFault.message (text : List Char) : FormulaFault → List Char
  | notNumber value => "Illegal number: ".toList ++ value
  | primaryMissing => about "expecting primary"
  | endMissing => about "expecting EOF"
  | closeMissing => about "expecting ')'"
  | colonMissing => about "expecting ':'"
  | divisionByZero => about "division by zero"
where
  /-- A complaint that shows the text. -/
  about (reason : String) : List Char :=
    ("arithmetic expression: " ++ reason ++ ": \"").toList ++ text ++ ['"']

/-- The integer of 64 bits that another one wraps to. -/
def wrap (i : Int) : Int := i.bmod (1 <<< 64)

/-! ## Tokens -/

/-- A token of a formula. -/
inductive FormulaToken where
  | number (value : Int)
  | name (cs : List Char)
  | op (sign : String)
  deriving DecidableEq, Repr

namespace FormulaToken

/-- The signs of operators, longer ones first. -/
def signs : List String :=
  ["<<=", ">>=", "<<", ">>", "<=", ">=", "==", "!=", "&&", "||", "*=", "/=", "%=", "+=",
    "-=", "&=", "^=", "|=", "*", "/", "%", "+", "-", "<", ">", "=", "!", "~", "&", "^", "|",
    "?", ":", "(", ")"]

/-- The tokens of a text; a character that starts none is a token of its own. -/
def scan : Nat → List Char → List FormulaToken
  | 0, _ => []
  | fuel + 1, cs =>
      match cs with
      | [] => []
      | c :: rest =>
          if c == ' ' || c == '\t' || c == '\n' then scan fuel rest
          else if c.isDigit then
            match leadingDigits? none cs with
            | some (n, rest) => number (min (n : Int) greatestLong) :: scan fuel rest
            | none => []
          else if isNameStart c then
            let text := cs.takeWhile isNamePart
            name text :: scan fuel (cs.drop text.length)
          else
            match signs.find? fun sign => sign.toList.isPrefixOf cs with
            | some sign => op sign :: scan fuel (cs.drop sign.length)
            | none => op (String.singleton c) :: scan fuel rest

/-- The operation of a sign, and how tightly it binds. -/
def binary? : FormulaToken → Option (BinaryOp × Nat)
  | op "*" => some (.mul, 8)
  | op "/" => some (.div, 8)
  | op "%" => some (.rem, 8)
  | op "+" => some (.add, 7)
  | op "-" => some (.sub, 7)
  | op "<<" => some (.shiftLeft, 6)
  | op ">>" => some (.shiftRight, 6)
  | op "<" => some (.less, 5)
  | op "<=" => some (.lessEqual, 5)
  | op ">" => some (.greater, 5)
  | op ">=" => some (.greaterEqual, 5)
  | op "==" => some (.equal, 4)
  | op "!=" => some (.unequal, 4)
  | op "&" => some (.bitAnd, 3)
  | op "^" => some (.bitXor, 2)
  | op "|" => some (.bitOr, 1)
  | _ => none

/-- The operation in front of an assignment, if a sign assigns. -/
def assign? : FormulaToken → Option (Option BinaryOp)
  | op "=" => some none
  | op sign =>
      if sign.endsWith "=" then
        ((op (sign.dropEnd 1).toString).binary?).bind fun (operation, tightness) =>
          if tightness = 5 || tightness = 4 then none else some (some operation)
      else none
  | _ => none

/-- The operation of a sign in front of a number. -/
def unary? : FormulaToken → Option UnaryOp
  | op "+" => some .plus
  | op "-" => some .minus
  | op "!" => some .negate
  | op "~" => some .complement
  | _ => none

end FormulaToken

/-! ## Reading -/

namespace Formula

/-- A step of reading. -/
abbrev Step := StateT (List FormulaToken) (Except FormulaFault)

/-- Takes the next token if it is a sign. -/
def takeSign (sign : String) : Step Bool := do
  match ← get with
  | token :: rest =>
      if token = .op sign then
        set rest
        return true
      else return false
  | [] => return false

mutual

/-- An expression with an assignment, or without. -/
def assignment : Nat → Step Formula
  | 0 => throw .primaryMissing
  | fuel + 1 => do
      match ← get with
      | .name name :: token :: rest =>
          match token.assign? with
          | some op? =>
              set rest
              return .assign name op? (← assignment fuel)
          | none => condition fuel
      | _ => condition fuel

/-- An expression that chooses, or not. -/
def condition : Nat → Step Formula
  | 0 => throw .primaryMissing
  | fuel + 1 => do
      let test ← disjunction fuel
      if ← takeSign "?" then
        let a ← assignment fuel
        if !(← takeSign ":") then throw .colonMissing
        return .choose test a (← condition fuel)
      else return test

/-- Expressions joined by `||`. -/
def disjunction : Nat → Step Formula
  | 0 => throw .primaryMissing
  | fuel + 1 => do
      let a ← conjunction fuel
      if ← takeSign "||" then return .either a (← disjunction fuel) else return a

/-- Expressions joined by `&&`. -/
def conjunction : Nat → Step Formula
  | 0 => throw .primaryMissing
  | fuel + 1 => do
      let a ← operand fuel
      let a ← operations 0 a fuel
      if ← takeSign "&&" then return .both a (← conjunction fuel) else return a

/-- The operations behind an operand that bind at least as tightly as `least`. -/
def operations (least : Nat) (a : Formula) : Nat → Step Formula
  | 0 => throw .primaryMissing
  | fuel + 1 => do
      match ← get with
      | token :: rest =>
          match token.binary? with
          | some (op, tightness) =>
              if tightness < least then return a
              else
                set rest
                let b ← operand fuel
                let b ← operations (tightness + 1) b fuel
                operations least (.binary op a b) fuel
          | none => return a
      | [] => return a

/-- A number, a variable, or something in parentheses, with the signs in front
of it. -/
def operand : Nat → Step Formula
  | 0 => throw .primaryMissing
  | fuel + 1 => do
      match ← get with
      | .number value :: rest =>
          set rest
          return .number value
      | .name name :: rest =>
          set rest
          return .named name
      | .op "(" :: rest =>
          set rest
          let a ← assignment fuel
          if !(← takeSign ")") then throw .closeMissing
          return a
      | token :: rest =>
          match token.unary? with
          | some op =>
              set rest
              return .unary op (← operand fuel)
          | none => throw .primaryMissing
      | [] => throw .primaryMissing

end

/-- The expression that a text spells.  Seven steps lead from one operand to the
next. -/
def read (cs : List Char) : Except FormulaFault Formula := do
  let tokens := FormulaToken.scan cs.length cs
  match ← (assignment (8 * tokens.length + 8)).run tokens with
  | (formula, []) => pure formula
  | _ => throw .endMissing

/-! ## Values -/

/-- One for true and zero for false. -/
def ofBool (b : Bool) : Int := if b then 1 else 0

/-- What an operation makes of two numbers. -/
def binaryValue (op : BinaryOp) (a b : Int) : Except FormulaFault Int :=
  let bits (i : Int) : BitVec 64 := BitVec.ofInt 64 i
  let power : Nat := 1 <<< (b % 64).toNat
  match op with
  | .mul => pure (wrap (a * b))
  | .div => if b = 0 then throw .divisionByZero else pure (wrap (a.tdiv b))
  | .rem => if b = 0 then throw .divisionByZero else pure (a.tmod b)
  | .add => pure (wrap (a + b))
  | .sub => pure (wrap (a - b))
  | .shiftLeft => pure (wrap (a * power))
  | .shiftRight => pure (a.fdiv power)
  | .less => pure (ofBool (decide (a < b)))
  | .lessEqual => pure (ofBool (decide (a ≤ b)))
  | .greater => pure (ofBool (decide (b < a)))
  | .greaterEqual => pure (ofBool (decide (b ≤ a)))
  | .equal => pure (ofBool (a == b))
  | .unequal => pure (ofBool (a != b))
  | .bitAnd => pure (bits a &&& bits b).toInt
  | .bitXor => pure (bits a ^^^ bits b).toInt
  | .bitOr => pure (bits a ||| bits b).toInt

/-- What an operation makes of one number. -/
def unaryValue (op : UnaryOp) (a : Int) : Int :=
  match op with
  | .plus => a
  | .minus => wrap (-a)
  | .negate => ofBool (a == 0)
  | .complement => -a - 1

/-- The number that the value of a variable spells; blanks spell zero. -/
def numberOfValue (cs : List Char) : Except FormulaFault Int :=
  if cs.all isNumberBlank then pure 0
  else
    match leadingInteger? none cs with
    | some n =>
        if n.isOver || !n.rest.all isNumberBlank then throw (.notNumber cs) else pure n.value
    | none => throw (.notNumber cs)

/-- What a formula assigns, the last assignment first, over variables that can be looked
up. -/
abbrev Evaluation :=
  ReaderT (List Char → List Char) (StateT (List (List Char × Int)) (Except FormulaFault))

/-- The number that a variable stands for. -/
def numberOf (name : List Char) : Evaluation Int := do
  let lookup ← ReaderT.read
  match (← get).find? (·.1 == name) with
  | some (_, n) => return n
  | none => numberOfValue (lookup name)

/-- The value of an expression. -/
def value : Formula → Evaluation Int
  | number n => return n
  | named name => numberOf name
  | unary op a => do return unaryValue op (← value a)
  | binary op a b => do
      let m ← value a
      let n ← value b
      binaryValue op m n
  | both a b => do
      if (← value a) = 0 then return 0 else return ofBool ((← value b) != 0)
  | either a b => do
      if (← value a) = 0 then return ofBool ((← value b) != 0) else return 1
  | choose test a b => do
      if (← value test) = 0 then value b else value a
  | assign name op? a => do
      let n ← value a
      let n ← match op? with
        | some op => do binaryValue op (← numberOf name) n
        | none => pure n
      modify fun assigned => (name, n) :: assigned
      return n

end Formula

/-- The value of a formula, and what it assigns, in order. -/
def valueOfFormula (lookup : List Char → List Char) (cs : List Char) :
    Except FormulaFault (Int × List (List Char × Int)) := do
  let formula ← Formula.read cs
  let (n, assigned) ← (formula.value.run lookup).run []
  pure (n, assigned.reverse)

end DesiredState.Shell
