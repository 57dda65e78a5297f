import DesiredState.Unix.Pattern.Reading
import DesiredState.Unix.Tools.Inputs

/-!
# Evaluating expressions of words

An expression is given word by word: the operators of arithmetic and comparison, and some on
texts.  Numbers have any size.  Each word is a text, and a number where one is asked for.

## Main definitions

* `WordValue` — the values of expressions.
* `runExpr` — writes the value of an expression.
-/

namespace DesiredState.Tools

open Shell Pattern

/-- The value of an expression. -/
inductive WordValue where
  | text (cs : List Char)
  | number (i : Int)
  deriving DecidableEq, Repr

namespace WordValue

/-- A value as a text. -/
def octets : WordValue → List Char
  | text cs => cs
  | number i => writeInt i

/-- The integer that a text spells. -/
def integerOf? (cs : List Char) : Option Int :=
  match cs with
  | '-' :: digits => (digitsValue? 10 digits).map fun n => -(n : Int)
  | digits => (digitsValue? 10 digits).map fun n => (n : Int)

/-- A value as a number, if it is one. -/
def integer? : WordValue → Option Int
  | text cs => integerOf? cs
  | number i => some i

/-- Whether a value counts as false: an empty text, or nothing but zeros. -/
def isNull : WordValue → Bool
  | number i => i == 0
  | text cs =>
      let digits := if cs.head? = some '-' then cs.drop 1 else cs
      cs.isEmpty || (!digits.isEmpty && digits.all (· == '0'))

end WordValue

/-- Why words are no expression, or have no value. -/
inductive WordFault where
  | missingAfter (word : List Char)
  | unexpected (word : List Char)
  | unexpectedClose
  | openAfter (word : List Char)
  | openBefore (word : List Char)
  | notInteger
  | divisionByZero
  | badPattern (fault : RegexFault)

/-- The words for a fault, with quotes around words of the expression. -/
def WordFault.message (quote : List Char → List Char) : WordFault → List Char
  | missingAfter word => "syntax error: missing argument after ".toList ++ quote word
  | unexpected word => "syntax error: unexpected argument ".toList ++ quote word
  | unexpectedClose => "syntax error: unexpected ')'".toList
  | openAfter word => "syntax error: expecting ')' after ".toList ++ quote word
  | openBefore word => "syntax error: expecting ')' instead of ".toList ++ quote word
  | notInteger => "non-integer argument".toList
  | divisionByZero => "division by zero".toList
  | badPattern fault => fault.message.toList

namespace WordExpression

/-- The words that are left, with the last one that was read. -/
structure Rest where
  last : List Char
  words : List (List Char)

/-- A step of evaluation. -/
abbrev Step := StateT Rest (Except WordFault)

/-- Takes the next word if it is the one that is given. -/
def take (word : String) : Step Bool := do
  match (← get).words with
  | w :: rest =>
      if w = word.toList then
        set (Rest.mk w rest)
        return true
      else return false
  | [] => return false

/-- Takes the next word, of which there has to be one. -/
def next : Step (List Char) := do
  let s ← get
  match s.words with
  | w :: rest =>
      set (Rest.mk w rest)
      return w
  | [] => throw (.missingAfter s.last)

/-- Fails if no word is left. -/
def requireMore : Step Unit := do
  let s ← get
  if s.words.isEmpty then throw (.missingAfter s.last)

/-- How a text fits a pattern from its start on: the text of the first group of the pattern, or
how many letters fit. -/
def fit (isUnicode : Bool) (text pattern : List Char) : Except WordFault WordValue := do
  let (r, _) ← (Regex.read ⟨false, false, false⟩ (lettersOf isUnicode pattern)).mapError .badPattern
  let x := Subject.ofList (lettersOf isUnicode text)
  let hasGroup := r.hasGroup
  match r.at? x 0 with
  | none => pure (if hasGroup then .text [] else .number 0)
  | some o =>
      if hasGroup then
        match o.parts.find? (·.1 == 1) with
        | some (_, i, j) => pure (.text (octetsOfLetters (x.slice i j)))
        | none => pure (.text [])
      else pure (.number o.last)

/-- Two values as numbers. -/
def numbers (a b : WordValue) : Step (Int × Int) := do
  match a.integer?, b.integer? with
  | some i, some j => return (i, j)
  | _, _ => throw .notInteger

/-- The value of an operator of arithmetic. -/
def arithmetic (operator : String) (a b : WordValue) : Step WordValue := do
  let (i, j) ← numbers a b
  match operator with
  | "+" => return .number (i + j)
  | "-" => return .number (i - j)
  | "*" => return .number (i * j)
  | "/" => if j = 0 then throw .divisionByZero else return .number (i.tdiv j)
  | _ => if j = 0 then throw .divisionByZero else return .number (i.tmod j)

/-- How two values compare: as numbers if both are, else as texts. -/
def compareValues (a b : WordValue) : Ordering :=
  match a.integer?, b.integer? with
  | some i, some j => compare i j
  | _, _ => compareOfLessAndEq a.octets b.octets

/-- Whether a comparison holds. -/
def holds (operator : String) (o : Ordering) : Bool :=
  match operator with
  | "<" => o == .lt
  | "<=" => o != .gt
  | "=" | "==" => o == .eq
  | "!=" => o != .eq
  | ">=" => o != .lt
  | _ => o == .gt

/-- Takes the next word if it is one of some. -/
def takeOneOf (operators : List String) : Step (Option String) := do
  match operators with
  | [] => return none
  | operator :: rest => if ← take operator then return some operator else takeOneOf rest

/-- The operators between values, by how tightly they bind, the loosest ones first. -/
def levels : List (List String) :=
  [["|"], ["&"], ["<=", "<", "==", "=", "!=", ">=", ">"], ["+", "-"], ["*", "/", "%"], [":"]]

/-- The first position of one of some letters in a text, counted from one; zero if there is
none. -/
def placeOfAny (letters accepted : List Char) : Nat :=
  let before := letters.takeWhile fun c => !accepted.contains c
  if before.length < letters.length then before.length + 1 else 0

mutual

/-- The value of operands between which the operators of some levels stand.  Where
`isWanted` does not hold, nothing is computed. -/
def level (isUnicode isWanted : Bool) : Nat → List (List String) → Step WordValue
  | 0, _ => return .number 0
  | fuel + 1, [] => single isUnicode isWanted fuel
  | fuel + 1, operators :: tighter => do
      let first ← level isUnicode isWanted fuel tighter
      others isUnicode isWanted fuel operators tighter first

/-- The value of the operators of a level behind a first operand. -/
def others (isUnicode isWanted : Bool) :
    Nat → List String → List (List String) → WordValue → Step WordValue
  | 0, _, _, a => return a
  | fuel + 1, operators, tighter, a => do
      match ← takeOneOf operators with
      | none => return a
      | some operator => do
          let isNeeded := match operator with
            | "|" => isWanted && a.isNull
            | "&" => isWanted && !a.isNull
            | _ => isWanted
          let b ← level isUnicode isNeeded fuel tighter
          let value ← match operator with
            | "|" => pure (if !a.isNull then a else if b.isNull then .number 0 else b)
            | "&" => pure (if a.isNull || b.isNull then .number 0 else a)
            | ":" => if isWanted then (fit isUnicode a.octets b.octets : Except _ _) else pure a
            | operator =>
                if !isWanted then pure a
                else if ["+", "-", "*", "/", "%"].contains operator then arithmetic operator a b
                else pure (.number (if holds operator (compareValues a b) then 1 else 0))
          others isUnicode isWanted fuel operators tighter value

/-- The value of a word, of an expression in parentheses, or of a function of texts. -/
def single (isUnicode isWanted : Bool) : Nat → Step WordValue
  | 0 => return .number 0
  | fuel + 1 => do
      let letters (v : WordValue) : List Char := lettersOf isUnicode v.octets
      requireMore
      if ← take "+" then return .text (← next)
      else if ← take "length" then
        let a ← single isUnicode isWanted fuel
        return .number (letters a).length
      else if ← take "match" then
        let a ← single isUnicode isWanted fuel
        let b ← single isUnicode isWanted fuel
        if isWanted then (fit isUnicode a.octets b.octets : Except _ _) else return a
      else if ← take "index" then
        let a ← single isUnicode isWanted fuel
        let b ← single isUnicode isWanted fuel
        return .number (placeOfAny (letters a) (letters b))
      else if ← take "substr" then
        let a ← single isUnicode isWanted fuel
        let i ← single isUnicode isWanted fuel
        let n ← single isUnicode isWanted fuel
        match i.integer?, n.integer? with
        | some i, some n =>
            if i ≤ 0 || n ≤ 0 then return .text []
            else return .text (octetsOfLetters (((letters a).drop (i.toNat - 1)).take n.toNat))
        | _, _ => return .text []
      else if ← take "(" then
        let a ← level isUnicode isWanted fuel levels
        if ← take ")" then return a
        else
          let s ← get
          match s.words with
          | [] => throw (.openAfter s.last)
          | w :: _ => throw (.openBefore w)
      else if ← take ")" then throw .unexpectedClose
      else return .text (← next)

end

/-- The value of words. -/
def value (isUnicode : Bool) (words : List (List Char)) : Except WordFault WordValue := do
  let (v, s) ← (level isUnicode true (16 * words.length + 16) levels).run ⟨[], words⟩
  match s.words with
  | [] => pure v
  | w :: _ => throw (.unexpected w)

end WordExpression

/-- Writes the value of an expression. -/
def runExpr : Tool := fun arguments => do
  let words := if arguments.head? = some ['-', '-'] then arguments.drop 1 else arguments
  let s ← get
  match words with
  | [] => misuseMissing 2
  | [word] =>
      if word = "--version".toList || word = "--help".toList then
        withOptions ⟨"", [], false, false⟩ 2 [word] fun _ _ => return ()
      else evaluate s words
  | words => evaluate s words
where
  /-- Writes the value of words. -/
  evaluate (s : Session) (words : List (List Char)) : Job Unit := do
    match WordExpression.value s.isUnicode words with
    | .ok v => do
        emit (v.octets ++ ['\n'])
        finishIf (!v.isNull)
    | .error fault => failAs 2 (fault.message (quotedIn s.isUnicode))

end DesiredState.Tools
