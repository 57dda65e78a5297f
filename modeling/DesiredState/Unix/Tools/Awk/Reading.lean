import DesiredState.Unix.Tools.Awk.Token

/-!
# Reading programs of the record language

A mistake in a program is complained about, and reading goes on behind the statement that it
is in, so that more mistakes are found.  A program with mistakes is not run.

## Main definitions

* `Reading` — what is known of a program that is read.
* `Program.read` — the program of a text, or what is wrong with it.
-/

namespace DesiredState.Tools.Awk

open Pattern

/-- What a statement is a part of. -/
inductive Place where
  | start
  | finish
  | records
  | function
  deriving DecidableEq, Repr

/-- A function that is called: from which one, with which arguments that are bare names, and
on which line. -/
structure CallNote where
  caller? : Option String
  callee : String
  arguments : List (Option String)
  line : Nat

/-- What is known of a program that is read. -/
structure Reading where
  reader : Reader
  /-- The next token, if it was looked at already. -/
  ahead? : Option Token
  place : Place
  /-- The function that is read. -/
  function? : Option String
  loops : Nat
  calls : List CallNote
  rules : List Rule
  /-- The functions, with what is known of their parameters. -/
  functions : List (Function × List (String × Option NameKind))

/-- Why a part of a program is not understood; it was complained about. -/
inductive Stop where
  | fault
  /-- Nothing more is read. -/
  | halt
  deriving DecidableEq, Repr

/-- A step of reading. -/
abbrev Step := ExceptT Stop (StateM Reading)

/-- How many mistakes are complained about. -/
def maxComplaints : Nat := 5

/-! ## Tokens -/

/-- Changes the reader. -/
def changeReader (f : Reader → Reader) : Step Unit :=
  modify fun s => { s with reader := f s.reader }

/-- Stops if there were too many mistakes. -/
def haltAtLast : Step Unit := do
  if maxComplaints ≤ (← get).reader.complaints.length then throw .halt

/-- Complains about something that can be passed over. -/
def note (text : List Char) : Step Unit := do
  changeReader fun r => r.complain text
  haltAtLast

/-- The next token. -/
def peek : Step Token := do
  let s ← get
  match s.ahead? with
  | some token => return token
  | none =>
      match s.reader.scan (s.reader.rest.length + 2) with
      | .ok (token, reader) => do
          set { s with reader := reader, ahead? := some token }
          haltAtLast
          return token
      | .error (_, reader) => do
          set { s with reader := reader }
          throw .halt

/-- Passes over the next token. -/
def advance : Step Unit := modify fun s => { s with ahead? := none }

/-- Passes over line ends behind the last token, which was the last one looked at. -/
def passLines : Step Unit := changeReader fun r => r.passBlanks true

/-- Whether the next token is a sign. -/
def isNext (spelling : String) : Step Bool := do
  match ← peek with
  | .sign s => return s == spelling
  | _ => return false

/-- Whether the next token is a word of the language. -/
def isNextWord (spelling : String) : Step Bool := do
  match ← peek with
  | .keyword s => return s == spelling
  | _ => return false

/-- Complains about the next token. -/
def refuseToken {α : Type} : Step α := do
  let token ← peek
  let spelling := token.spelling
  let isEnd := match token with
    | .newLine | .semicolon | .blockEnd | .sign "\x7d" => true
    | _ => false
  let isOutside := match token with
    | .endOfFile | .keyword "BEGIN" | .keyword "END" => true
    | _ => false
  changeReader fun r =>
    match token with
    | .stray c =>
        { r with complaints :=
            (writeNat r.tokenLine ++ ": unexpected character '".toList ++ [c, '\'']) ::
              r.complaints }
    | _ =>
        if isEnd && 0 < r.parens then
          { r.complain ("missing ) near ".toList ++ spelling) with parens := 0 }
        else if isOutside && 0 < r.braces then
          { r.complain ("missing \x7d near ".toList ++ spelling) with braces := 0 }
        else r.complain ("syntax error at or near ".toList ++ spelling)
  haltAtLast
  throw .fault

/-- Passes over a sign, which must be the next token. -/
def expect (spelling : String) : Step Unit := do
  if ← isNext spelling then advance else refuseToken

/-- Passes over a word of the language, which must be the next token. -/
def expectWord (spelling : String) : Step Unit := do
  if ← isNextWord spelling then advance else refuseToken

/-- Passes over a name, which must be the next token. -/
def expectName : Step String := do
  match ← peek with
  | .name name => do
      advance
      return name
  | _ => refuseToken

/-- Passes over the end of a statement. -/
def endStatement : Step Unit := do
  match ← peek with
  | .newLine | .semicolon | .blockEnd => do
      advance
      changeReader fun r => { r with isPrinting := false }
  | _ => refuseToken

/-- Passes over what is left of a statement that is not understood; it may end with its
block. -/
def skipStatement (endsWithBlock : Bool) : (fuel : Nat) → Step Unit
  | 0 => throw .halt
  | fuel + 1 => do
      if endsWithBlock && (← isNext "\x7d") then return ()
      match ← peek with
      | .newLine | .semicolon | .blockEnd => advance
      | .endOfFile => throw .halt
      | _ => do
          advance
          skipStatement endsWithBlock fuel

/-- Goes on behind a statement that is not understood. -/
def recover {α : Type} (endsWithBlock : Bool) (value : α) (stop : Stop) : Step α := do
  if stop = .halt then throw .halt
  skipStatement endsWithBlock ((← get).reader.rest.length + 2)
  changeReader fun r => { r with isPrinting := false, parens := 0 }
  return value

/-! ## Names -/

/-- Notes that a name is used for something; another use of it is complained about. -/
def useName (name : String) (kind : NameKind) : Step Unit := do
  let r := (← get).reader
  let complainOf (front : String) (old : NameKind) : Step Unit :=
    let word := if old = .table then "array " else "variable "
    note ("illegal reference to ".toList ++ front.toList ++ word.toList ++ name.toList)
  match Entries.get? r.parameters name with
  | some none =>
      changeReader fun r => { r with
        parameters := r.parameters.map fun p => if p.1 == name then (name, some kind) else p }
  | some (some old) => if old ≠ kind then complainOf "local " old
  | none =>
      match Entries.get? r.names name with
      | some old => if old ≠ kind then complainOf "" old
      | none => changeReader fun r => { r with names := r.names ++ [(name, kind)] }

/-- The pattern of a text; one that is none is complained about. -/
def patternOf (source : List Char) : Step Expr := do
  match readPattern source with
  | .ok r => return .pattern r
  | .error fault => do
      note ("regular expression compile failed (".toList ++ fault.words.toList ++ ")\n".toList ++
        source)
      return .pattern .empty

/-- An expression where a pattern is asked for. -/
def asPattern (e : Expr) : Step Expr :=
  match e with
  | .text cs => patternOf cs
  | e => return e

/-! ## Expressions -/

/-- The signs that assign, with the operation that goes with it. -/
def assignSigns : List (String × Option Arithmetic) :=
  [("=", none), ("+=", some .add), ("-=", some .subtract), ("*=", some .multiply),
    ("/=", some .divide), ("%=", some .remainder), ("^=", some .power)]

/-- The signs that compare. -/
def compareSigns : List (String × Comparison) :=
  [("==", .equal), ("!=", .different), ("<", .less), ("<=", .atMost), (">", .greater),
    (">=", .atLeast)]

/-- The signs of arithmetic with their levels. -/
def arithmeticSigns : List (String × Nat × Arithmetic) :=
  [("+", 1, .add), ("-", 1, .subtract), ("*", 2, .multiply), ("/", 2, .divide),
    ("%", 2, .remainder)]

/-- Whether a token can start an operand that follows another one. -/
def startsOperand : Token → Bool
  | .number _ _ | .text _ _ | .pattern _ | .name _ | .function _ | .builtin _ _ | .field _ => true
  | .sign s => ["(", "$", "!", "++", "--"].contains s
  | .keyword s => ["length", "split", "match", "sub", "gsub", "getline"].contains s
  | _ => false

/-- What is behind a target: it may be made greater by one, or less. -/
def behindTarget (target : Expr) : Step (Expr × Bool) := do
  if ← isNext "++" then
    advance
    return (.step true false target, false)
  else if ← isNext "--" then
    advance
    return (.step false false target, false)
  else return (target, true)

mutual

/-- Expressions between commas. -/
def expressions : (fuel : Nat) → Step (List Expr)
  | 0 => throw .halt
  | fuel + 1 => do
      let first ← expression fuel 0
      if ← isNext "," then
        advance
        return first :: (← expressions fuel)
      else return [first]

/-- An expression whose signs are of a level or above. -/
def expression : (fuel : Nat) → (least : Nat) → Step Expr
  | 0, _ => throw .halt
  | fuel + 1, least => do
      let (first, isTarget) ← joined fuel
      let left ← match ← peek with
        | .sign s =>
            match isTarget, Entries.get? assignSigns s with
            | true, some op? => do
                advance
                let value ← expression fuel 0
                pure (match op? with
                  | some op => .update op first value
                  | none => .assign first value)
            | _, _ => pure first
        | _ => pure first
      furtherSigns fuel least left

/-- An expression with the signs of a level or above that are behind it. -/
def furtherSigns : (fuel : Nat) → (least : Nat) → Expr → Step Expr
  | 0, _, _ => throw .halt
  | fuel + 1, least, left => do
      match ← peek with
      | .sign "?" =>
          if 1 < least then return left
          else
            advance
            let yes ← expression fuel 0
            expect ":"
            let no ← expression fuel 1
            furtherSigns fuel least (.condition left yes no)
      | .sign "||" =>
          if 2 < least then return left
          else
            advance
            furtherSigns fuel least (.either left (← expression fuel 3))
      | .sign "&&" =>
          if 3 < least then return left
          else
            advance
            furtherSigns fuel least (.both left (← expression fuel 4))
      | .keyword "in" =>
          if 4 < least then return left
          else
            advance
            let table ← expectName
            useName table .table
            furtherSigns fuel least (.isIn [left] table)
      | .sign s =>
          if s = "~" || s = "!~" then
            if 5 < least then return left
            else
              advance
              let wanted ← asPattern (← expression fuel 6)
              furtherSigns fuel least (.occurs (s == "~") left wanted)
          else
            match Entries.get? compareSigns s with
            | some op =>
                if 6 < least then return left
                else
                  advance
                  furtherSigns fuel least (.compare op left (← expression fuel 7))
            | none => return left
      | _ => return left

/-- Operands that are joined, and whether it is a single one that can be assigned. -/
def joined : (fuel : Nat) → Step (Expr × Bool)
  | 0 => throw .halt
  | fuel + 1 => do
      let (first, isTarget) ← operand fuel 1
      furtherOperands fuel first isTarget

/-- An operand with those behind it. -/
def furtherOperands : (fuel : Nat) → Expr → Bool → Step (Expr × Bool)
  | 0, _, _ => throw .halt
  | fuel + 1, left, isTarget => do
      if startsOperand (← peek) then
        let (right, _) ← operand fuel 1
        furtherOperands fuel (.join left right) false
      else return (left, isTarget)

/-- An operand whose signs are of a level or above, and whether it can be assigned. -/
def operand : (fuel : Nat) → (least : Nat) → Step (Expr × Bool)
  | 0, _ => throw .halt
  | fuel + 1, least => do
      let signed (f : Expr → Expr) : Step (Expr × Bool) := do
        advance
        let (a, _) ← operand fuel 3
        return (f a, false)
      let (first, isTarget) ← match ← peek with
        | .sign "!" => signed .not
        | .sign "-" => signed .negate
        | .sign "+" => signed .plus
        | _ => primary fuel
      furtherArithmetic fuel least first isTarget

/-- An operand with the signs of arithmetic of a level or above that are behind it. -/
def furtherArithmetic : (fuel : Nat) → (least : Nat) → Expr → Bool → Step (Expr × Bool)
  | 0, _, _, _ => throw .halt
  | fuel + 1, least, left, isTarget => do
      match ← peek with
      | .sign "^" =>
          advance
          let (right, _) ← operand fuel 5
          furtherArithmetic fuel least (.arithmetic .power left right) false
      | .sign "|" =>
          if 4 < least then return (left, isTarget)
          else
            advance
            expectWord "getline"
            let target? ← optionalTarget fuel
            furtherArithmetic fuel least (.getline (.command left) target?) false
      | .sign s =>
          match Entries.get? arithmeticSigns s with
          | some (level, op) =>
              if level < least then return (left, isTarget)
              else
                advance
                let (right, _) ← operand fuel (level + 1)
                furtherArithmetic fuel least (.arithmetic op left right) false
          | none => return (left, isTarget)
      | _ => return (left, isTarget)

/-- A target, if one is next. -/
def optionalTarget : (fuel : Nat) → Step (Option Expr)
  | 0 => throw .halt
  | fuel + 1 => do
      match ← peek with
      | .name _ | .field _ | .sign "$" | .sign "(" => return some (← target fuel)
      | _ => return none

/-- A variable, an element of a table, or a field. -/
def target : (fuel : Nat) → Step Expr
  | 0 => throw .halt
  | fuel + 1 => do
      match ← peek with
      | .name name => do
          advance
          if ← isNext "[" then
            advance
            useName name .table
            let indices ← expressions fuel
            expect "]"
            return .element name indices
          else
            useName name .variable
            return .variable name
      | .field n => do
          advance
          return .field (.number (numberOf n))
      | .sign "(" => do
          advance
          match ← peek with
          | .name "NF" | .field _ | .sign "$" => do
              let inner ← target fuel
              expect ")"
              return inner
          | _ => refuseToken
      | .sign "$" => do
          advance
          match ← peek with
          | .name name => do
              if name = "NF" then return .field (← primary fuel).1
              else return .field (← target fuel)
          | .sign "!" => do
              advance
              return .field (.not (← operand fuel 3).1)
          | .sign "-" => do
              advance
              return .field (.negate (← operand fuel 3).1)
          | .sign "+" => do
              advance
              return .field (.plus (← operand fuel 3).1)
          | _ => return .field (← primary fuel).1
      | _ => refuseToken

/-- What stands between brackets behind the name of a function. -/
def callArguments : (fuel : Nat) → Step (List (Expr × Option String))
  | 0 => throw .halt
  | fuel + 1 => do
      let before ← get
      let bare? : Option String ← match ← peek with
        | .name name => do
            advance
            let isAlone := match ← peek with
              | .sign s => s == "," || s == ")"
              | _ => false
            if isAlone then pure (some name)
            else
              set before
              pure none
        | _ => pure none
      let first ← match bare? with
        | some name => pure (Expr.variable name, some name)
        | none => do pure (← expression fuel 0, none)
      if ← isNext "," then
        advance
        return first :: (← callArguments fuel)
      else return [first]

/-- An operand without signs in front, and whether it can be assigned. -/
def primary : (fuel : Nat) → Step (Expr × Bool)
  | 0 => throw .halt
  | fuel + 1 => do
      match ← peek with
      | .number x _ => do
          advance
          return (.number x, false)
      | .text cs _ => do
          advance
          return (.text cs, false)
      | .pattern source => do
          advance
          return (← patternOf source, false)
      | .name _ | .field _ | .sign "$" => behindTarget (← target fuel)
      | .sign "(" => do
          advance
          let all ← expressions fuel
          expect ")"
          match all with
          | [.field n] => behindTarget (.field n)
          | [.variable "NF"] => behindTarget (.variable "NF")
          | [e] => return (e, false)
          | all => do
              expectWord "in"
              let table ← expectName
              useName table .table
              return (.isIn all table, false)
      | .sign "++" => do
          advance
          return (.step true true (← target fuel), false)
      | .sign "--" => do
          advance
          return (.step false true (← target fuel), false)
      | .function name => do
          advance
          expect "("
          let arguments ← if ← isNext ")" then pure [] else callArguments fuel
          expect ")"
          modify fun s => { s with
            calls := ⟨s.function?, name, arguments.map Prod.snd, s.reader.tokenLine⟩ :: s.calls }
          return (.call name (arguments.map Prod.fst), false)
      | .builtin f name => do
          advance
          expect "("
          let arguments ← if ← isNext ")" then pure [] else expressions fuel
          expect ")"
          let isFine := match Entries.get? builtins name with
            | some (_, least, most) => least ≤ arguments.length && arguments.length ≤ most
            | none => false
          if !isFine then
            note ("wrong number of arguments in call to ".toList ++ name.toList)
          return (.builtin f arguments, false)
      | .keyword "length" => do
          advance
          if ← isNext "(" then
            advance
            let arguments ← if ← isNext ")" then pure [] else callArguments fuel
            expect ")"
            match arguments with
            | [] => return (.builtin .length [], false)
            | [(_, some name)] => return (.tableLength name, false)
            | [(e, none)] => return (.builtin .length [e], false)
            | _ => do
                note "wrong number of arguments in call to length".toList
                return (.builtin .length [], false)
          else return (.builtin .length [], false)
      | .keyword "split" => do
          advance
          expect "("
          let text ← expression fuel 0
          expect ","
          let table ← expectName
          useName table .table
          let separator? ← if ← isNext "," then do
              advance
              pure (some (← expression fuel 0))
            else pure none
          expect ")"
          return (.split text table separator?, false)
      | .keyword "match" => do
          advance
          expect "("
          let text ← expression fuel 0
          expect ","
          let wanted ← asPattern (← expression fuel 0)
          expect ")"
          return (.find text wanted, false)
      | .keyword "getline" => do
          advance
          let target? ← optionalTarget fuel
          if ← isNext "<" then
            advance
            let (file, _) ← operand fuel 5
            return (.getline (.file file) target?, false)
          else return (.getline .input target?, false)
      | .keyword word => do
          if word = "sub" || word = "gsub" then
            advance
            expect "("
            let wanted ← asPattern (← expression fuel 0)
            expect ","
            let replacement ← expression fuel 0
            let place ← if ← isNext "," then do
                advance
                target fuel
              else pure (.field (.number zero))
            expect ")"
            return (.substitute (word == "gsub") wanted replacement place, false)
          else refuseToken
      | _ => refuseToken

end

/-! ## Statements -/

/-- How many steps it takes at most to read what is left. -/
def stepsLeft : Step Nat := do return 24 * (← get).reader.rest.length + 200

/-- An expression. -/
def anyExpression : Step Expr := do expression (← stepsLeft) 0

/-- Expressions between commas. -/
def anyExpressions : Step (List Expr) := do expressions (← stepsLeft)

/-- Whether the next token ends a statement, or says where something is written to. -/
def isAtEnd : Step Bool := do
  match ← peek with
  | .newLine | .semicolon | .blockEnd | .redirect _ => return true
  | _ => return false

/-- What is to be written: expressions, which may stand between parentheses. -/
def printedValues : Step (List Expr) := do
  if ← isAtEnd then return []
  let before ← get
  if ← isNext "(" then
    advance
    if ← isNext ")" then
      advance
      return []
    let all ← anyExpressions
    expect ")"
    if 2 ≤ all.length && !(← isNextWord "in") then return all
    set before
  anyExpressions

/-- Where something is written to. -/
def printTarget : Step (Target Expr) := do
  match ← peek with
  | .redirect s => do
      advance
      let place ← anyExpression
      return match s with
        | ">" => .file place
        | ">>" => .append place
        | _ => .command place
  | _ => return .output

/-- Runs a step in one more loop. -/
def inLoop {α : Type} (step : Step α) : Step α := do
  modify fun s => { s with loops := s.loops + 1 }
  let a ← step
  modify fun s => { s with loops := s.loops - 1 }
  return a

/-- An expression in parentheses, with the line ends behind it. -/
def conditionInParens : Step Expr := do
  expect "("
  let test ← anyExpression
  expect ")"
  passLines
  return test

/-- A statement that ends where the next one starts. -/
def simpleStatement : Step Statement := do
  match ← peek with
  | .keyword "print" => do
      advance
      let values ← printedValues
      let target ← printTarget
      endStatement
      return .print values target
  | .keyword "printf" => do
      advance
      let values ← printedValues
      let target ← printTarget
      endStatement
      if values.isEmpty then note "no arguments in call to printf".toList
      return .printf values target
  | .keyword "delete" => do
      advance
      let table ← expectName
      useName table .table
      let indices? ← if ← isNext "[" then do
          advance
          let indices ← anyExpressions
          expect "]"
          pure (some indices)
        else pure none
      endStatement
      return .delete table indices?
  | .keyword "next" => do
      advance
      endStatement
      if (← get).place ≠ .records then note "improper use of next".toList
      return .next
  | .keyword "nextfile" => do
      advance
      endStatement
      if (← get).place ≠ .records then note "improper use of nextfile".toList
      return .nextFile
  | .keyword "exit" => do
      advance
      let status? ← if ← isAtEnd then pure none else do pure (some (← anyExpression))
      endStatement
      return .exit status?
  | .keyword "return" => do
      advance
      let value? ← if ← isAtEnd then pure none else do pure (some (← anyExpression))
      endStatement
      if (← get).place ≠ .function then note "return outside function body".toList
      return .result value?
  | .keyword "break" => do
      advance
      endStatement
      if (← get).loops = 0 then note "break statement outside of loop".toList
      return .leave
  | .keyword "continue" => do
      advance
      endStatement
      if (← get).loops = 0 then note "continue statement outside of loop".toList
      return .continue
  | .newLine | .semicolon | .blockEnd => do
      advance
      return .block []
  | _ => do
      let e ← anyExpression
      endStatement
      return .expr e

/-- The name and the table of a loop over keys, if one is next. -/
def keyLoop? : Step (Option (String × String)) := do
  let before ← get
  if let .name name ← peek then
    advance
    if ← isNextWord "in" then
      advance
      if let .name table ← peek then
        advance
        if ← isNext ")" then
          advance
          passLines
          return some (name, table)
  set before
  return none

/-- An expression up to a sign or a semicolon, if there is one. -/
def optionalPart (ends : Step Bool) (pass : Step Unit) : Step (Option Expr) := do
  let e? ← if ← ends then pure none else do pure (some (← anyExpression))
  pass
  return e?

/-- Whether a semicolon is next. -/
def isSemicolonNext : Step Bool := do
  match ← peek with
  | .semicolon => return true
  | _ => return false

/-- Passes over a semicolon, which must be the next token. -/
def expectSemicolon : Step Unit := do
  if ← isSemicolonNext then advance else refuseToken

/-- The condition behind the body of a loop; what else is there is passed over. -/
def testBehind : (fuel : Nat) → Step Expr
  | 0 => throw .halt
  | fuel + 1 =>
      tryCatch (do
        expectWord "while"
        expect "("
        let test ← anyExpression
        expect ")"
        endStatement
        return test) fun stop => do
        recover false () stop
        testBehind fuel

mutual

/-- A statement; what is not understood is passed over. -/
def statement : (fuel : Nat) → Step Statement
  | 0 => throw .halt
  | fuel + 1 => tryCatch (statementBody fuel) (recover true (.block []))

/-- A statement. -/
def statementBody : (fuel : Nat) → Step Statement
  | 0 => throw .halt
  | fuel + 1 => do
      match ← peek with
      | .sign "\x7b" => block fuel
      | .keyword "if" => do
          advance
          let test ← conditionInParens
          let yes ← statement fuel
          if ← isNextWord "else" then
            advance
            passLines
            return .choice test yes (some (← statement fuel))
          else return .choice test yes none
      | .keyword "while" => do
          advance
          let test ← conditionInParens
          return .repeatWhile test (← inLoop (statement fuel))
      | .keyword "do" => do
          advance
          passLines
          let body ← inLoop (statement fuel)
          return .repeatUntil body (← testBehind fuel)
      | .keyword "for" => do
          advance
          expect "("
          match ← keyLoop? with
          | some (name, table) => do
              useName name .variable
              useName table .table
              return .forKeys name table (← inLoop (statement fuel))
          | none => do
              let first? ← optionalPart isSemicolonNext expectSemicolon
              let test? ← optionalPart isSemicolonNext expectSemicolon
              let next? ← optionalPart (isNext ")") (do
                expect ")"
                passLines)
              return .count first? test? next? (← inLoop (statement fuel))
      | _ => simpleStatement

/-- Statements in braces. -/
def block : (fuel : Nat) → Step Statement
  | 0 => throw .halt
  | fuel + 1 => do
      expect "\x7b"
      let body ← statements fuel
      expect "\x7d"
      return .block body

/-- The statements up to a closing brace. -/
def statements : (fuel : Nat) → Step (List Statement)
  | 0 => throw .halt
  | fuel + 1 => do
      if ← isNext "\x7d" then return []
      else
        let first ← statement fuel
        return first :: (← statements fuel)

end

/-- Statements in braces. -/
def anyBlock : Step Statement := do block (← stepsLeft)

/-! ## Rules and functions -/

/-- Adds a rule. -/
def addRule (selection : Selection) (body? : Option Statement) : Step Unit :=
  modify fun s => { s with rules := ⟨selection, body?⟩ :: s.rules }

/-- A rule behind what selects its records: a block, or the end of a statement. -/
def ruleBody (selection : Selection) : Step Unit := do
  if ← isNext "\x7b" then addRule selection (some (← anyBlock))
  else
    endStatement
    addRule selection none

/-- The names of parameters up to the closing parenthesis. -/
def parameterNames : (fuel : Nat) → List String → Step (List String)
  | 0, _ => throw .halt
  | fuel + 1, names => do
      let name ← expectName
      if names.contains name then
        note (name.toList ++ " is duplicated in argument list".toList)
      if ← isNext "," then
        advance
        parameterNames fuel (names ++ [name])
      else return names ++ [name]

/-- A function behind its first word. -/
def functionDefinition : Step Unit := do
  let name ← match ← peek with
    | .name name | .function name => pure name
    | _ => refuseToken
  advance
  if (← get).functions.any (·.1.name == name) then
    note ("redefinition of ".toList ++ name.toList)
  useName name .function
  expect "("
  let names ← if ← isNext ")" then pure [] else do
    parameterNames ((← get).reader.rest.length + 1) []
  expect ")"
  passLines
  changeReader fun r => { r with parameters := names.map fun n => (n, none) }
  modify fun s => { s with place := .function, function? := some name, loops := 0 }
  let body ← anyBlock
  modify fun s => { s with
    functions := s.functions ++ [(⟨name, names, body⟩, s.reader.parameters)]
    function? := none }
  changeReader fun r => { r with parameters := [] }

/-- Goes on behind a rule that is not understood: with the next block. -/
def skipToBlock : (fuel : Nat) → Step Unit
  | 0 => throw .halt
  | fuel + 1 => do
      match ← peek with
      | .sign "\x7b" => discard anyBlock
      | .endOfFile => throw .halt
      | _ => do
          advance
          skipToBlock fuel

/-- The rules and functions up to the end. -/
def program : (fuel : Nat) → Step Unit
  | 0 => throw .halt
  | fuel + 1 => do
      modify fun s => { s with place := .records, loops := 0 }
      let isLast ← tryCatch (do
        match ← peek with
        | .endOfFile => return true
        | .keyword "BEGIN" => do
            advance
            modify fun s => { s with place := .start }
            addRule .start (some (← anyBlock))
            return false
        | .keyword "END" => do
            advance
            modify fun s => { s with place := .finish }
            addRule .finish (some (← anyBlock))
            return false
        | .keyword "function" => do
            advance
            functionDefinition
            return false
        | .sign "\x7b" => do
            ruleBody .always
            return false
        | _ => do
            let first ← anyExpression
            if ← isNext "," then
              advance
              ruleBody (.range first (← anyExpression))
            else ruleBody (.matching first)
            return false) fun stop => do
        if stop = .halt then throw .halt
        changeReader fun r => { r with parameters := [] }
        modify fun s => { s with function? := none }
        skipToBlock ((← get).reader.rest.length + 2)
        return false
      if isLast then return () else program fuel

/-! ## What names stand for -/

/-- What the names in functions, and outside of them, are known to stand for. -/
abbrev NameKinds := List ((Option String × String) × NameKind)

/-- The kinds of names with those that calls tell: what is a table as a parameter is a table
as the argument, and the other way round. -/
def spreadKinds (functions : List (Function × List (String × Option NameKind)))
    (calls : List CallNote) (kinds : NameKinds) : NameKinds :=
  let scopeOf (caller? : Option String) (name : String) : Option String × String :=
    let isLocal := functions.any fun f => some f.1.name == caller? && f.1.parameters.contains name
    (if isLocal then caller? else none, name)
  calls.foldl (fun kinds call =>
    match functions.find? (·.1.name == call.callee) with
    | none => kinds
    | some (f, _) =>
        (f.parameters.zip call.arguments).foldl (fun kinds (parameter, argument?) =>
          match argument? with
          | none => kinds
          | some argument =>
              let inner := (some f.name, parameter)
              let outer := scopeOf call.caller? argument
              let find (key : Option String × String) : Option NameKind :=
                (kinds.find? (·.1 == key)).map Prod.snd
              match find inner, find outer with
              | some .table, none => (outer, .table) :: kinds
              | none, some .table => (inner, .table) :: kinds
              | _, _ => kinds) kinds) kinds

/-- The kinds of names as far as calls tell them. -/
def settledKinds (functions : List (Function × List (String × Option NameKind)))
    (calls : List CallNote) : (fuel : Nat) → NameKinds → NameKinds
  | 0, kinds => kinds
  | fuel + 1, kinds =>
      let more := spreadKinds functions calls kinds
      if more.length = kinds.length then kinds else settledKinds functions calls fuel more

/-- What is wrong with a call. -/
def callFaults (functions : List (Function × List (String × Option NameKind)))
    (kinds : NameKinds) (lastLine : Nat) (call : CallNote) : List (List Char) :=
  let onLine (line : Nat) (text : List Char) : List Char :=
    "line ".toList ++ writeNat line ++ ": ".toList ++ text
  match functions.find? (·.1.name == call.callee) with
  | none =>
      [onLine lastLine ("function ".toList ++ call.callee.toList ++ " never defined".toList)]
  | some (f, _) =>
      if f.parameters.length < call.arguments.length then
        [onLine call.line ("too many arguments in call to ".toList ++ f.name.toList)]
      else
        let isLocal (name : String) : Bool := functions.any fun g =>
          some g.1.name == call.caller? && g.1.parameters.contains name
        let kindOf (key : Option String × String) : Option NameKind :=
          (kinds.find? (·.1 == key)).map Prod.snd
        let word (kind : NameKind) : List Char :=
          (if kind = .table then "local array" else "local variable").toList
        (f.parameters.zip call.arguments).zipIdx.filterMap fun ((parameter, argument?), n) => do
          let argument ← argument?
          let inner ← kindOf (some f.name, parameter)
          let outer ← kindOf (if isLocal argument then call.caller? else none, argument)
          if (inner = .table) = (outer = .table) then none
          else
            some (onLine call.line ("type error in arg(".toList ++ writeNat (n + 1) ++
              ") in call to ".toList ++ f.name.toList ++ " (actual ".toList ++ word outer ++
              " vs ".toList ++ word inner ++ ")".toList))

/-- The program of a text, or what is wrong with it. -/
def Program.read (text : List Char) : Except (List (List Char)) Program :=
  let reader := (Reader.ofText (text ++ ['\n'])).passBlanks true
  let (_, s) := (program (text.length + 2)).run
    ⟨reader, none, .records, none, 0, [], [], []⟩
  if !s.reader.complaints.isEmpty then .error s.reader.complaints.reverse
  else
    let known : NameKinds :=
      (s.reader.names.map fun (name, kind) => ((none, name), kind)) ++
        s.functions.flatMap fun (f, parameters) =>
          parameters.filterMap fun (name, kind?) =>
            kind?.map fun kind => ((some f.name, name), kind)
    let calls := s.calls.reverse
    let kinds := settledKinds s.functions calls (4 * calls.length + 4) known
    let faults := calls.flatMap (callFaults s.functions kinds s.reader.tokenLine)
    if !faults.isEmpty then .error faults.eraseDups
    else
      .ok {
        rules := s.rules.reverse
        functions := s.functions.map Prod.fst
        tables := kinds.filterMap fun (key, kind) => if kind = .table then some key else none }

end DesiredState.Tools.Awk
