import DesiredState.Text.Split
import DesiredState.Unix.Pattern.Regex
import DesiredState.Unix.Tools.Awk.Value

/-!
# Patterns of the record language

Patterns are regular expressions in which every sign has its meaning wherever it stands, and a
backslash makes any letter stand for itself, or for a control character.

## Main definitions

* `PatternFault` — why a text is no pattern.
* `readPattern` — the expression of a text.
* `splitterOf` — the expression that separates the parts of a text.
-/

namespace DesiredState.Tools.Awk

open Pattern

/-- Why a text is no pattern. -/
inductive PatternFault where
  | openGroup
  | missingOperand
  | badClass
  | repeatedStart
  | badInterval
  deriving DecidableEq, Repr

/-- The words for a fault. -/
def PatternFault.words : PatternFault → String
  | openGroup => "missing ')'"
  | missingOperand => "missing operand"
  | badClass => "bad class -- [], [^] or ["
  | repeatedStart => "syntax error ^* or ^+"
  | badInterval => "bad interval expression"

/-- The control character that a letter behind a backslash stands for. -/
def controlOf? : Char → Option Char
  | 'a' => some '\x07'
  | 'b' => some '\x08'
  | 'f' => some '\x0c'
  | 'n' => some '\n'
  | 'r' => some '\r'
  | 't' => some '\t'
  | 'v' => some '\x0b'
  | _ => none

/-- The octet of octal digits, and what follows them. -/
def octalEscape? (cs : List Char) : Option (Char × List Char) :=
  let digits := (cs.take 3).takeWhile fun c => (digitValue? 8 c).isSome
  (digitsValue? 8 digits).map fun n => (Char.ofNat (n % 256), cs.drop digits.length)

/-- The letter behind a backslash in a pattern, and what follows it. -/
def patternEscape (cs : List Char) : Char × List Char :=
  match cs with
  | [] => ('\\', [])
  | 'x' :: rest =>
      let digits := (rest.take 2).takeWhile fun c => (digitValue? 16 c).isSome
      match digitsValue? 16 digits with
      | some n => (Char.ofNat n, rest.drop digits.length)
      | none => ('x', rest)
  | c :: rest => (octalEscape? (c :: rest)).getD ((controlOf? c).getD c, rest)

/-! ## Brackets -/

/-- A class between colons, and what follows it. -/
def bracketClass? (cs : List Char) : Option (List Char × List Char) :=
  match cs with
  | '[' :: ':' :: rest =>
      let name := rest.takeWhile Char.isAlpha
      match rest.drop name.length with
      | ':' :: ']' :: rest => some (name, rest)
      | _ => none
  | _ => none

/-- A letter in brackets, and what follows it. -/
def bracketLetter (cs : List Char) : Char × List Char :=
  match cs with
  | '\\' :: rest => patternEscape rest
  | c :: rest => (c, rest)
  | [] => ('\x00', [])

/-- What stands in brackets, and what follows them. -/
def bracketItems (isFirst : Bool) : (fuel : Nat) → List Char →
    Except PatternFault (List SetItem × List Char)
  | 0, _ => .error .badClass
  | fuel + 1, cs => do
      match cs, bracketClass? cs with
      | [], _ => throw .badClass
      | _, some (name, rest) =>
          match LetterClass.ofName? (String.ofList name) with
          | some cls => do
              let (items, rest) ← bracketItems false fuel rest
              pure (.ofClass cls :: items, rest)
          | none => throw .badClass
      | c :: rest, none =>
          if c = ']' && !isFirst then pure ([], rest)
          else
            let (first, behind) := bracketLetter (c :: rest)
            match behind with
            | '-' :: last :: others =>
                let (last, others) := if last = '\\' then patternEscape others else (last, others)
                if behind.drop 1 |>.head? |>.any (· == ']') then do
                  let (items, rest) ← bracketItems false fuel behind
                  pure (.range first first :: items, rest)
                else if last < first then do
                  let (items, rest) ← bracketItems false fuel others
                  pure (.range first first :: .range '-' '-' :: .range last last :: items, rest)
                else do
                  let (items, rest) ← bracketItems false fuel others
                  pure (.range first last :: items, rest)
            | _ => do
                let (items, rest) ← bracketItems false fuel behind
                pure (.range first first :: items, rest)

/-- The set in brackets behind the opening one, and what follows. -/
def bracketSet (cs : List Char) : Except PatternFault (LetterSet × List Char) := do
  let isNegated := cs.head? == some '^'
  let cs := if isNegated then cs.drop 1 else cs
  let (items, rest) ← bracketItems true (cs.length + 1) cs
  pure (.oneOf isNegated items, rest)

/-! ## Expressions -/

/-- The counts between braces, and what follows them, if there are some. -/
def interval? (cs : List Char) : Option (Nat × Option Nat × List Char) :=
  match cs with
  | '\x7b' :: rest =>
      let least := rest.takeWhile Char.isDigit
      match rest.drop least.length with
      | '\x7d' :: rest =>
          if least.isEmpty then none
          else some (digitsValue least, some (digitsValue least), rest)
      | ',' :: rest =>
          let most := rest.takeWhile Char.isDigit
          match rest.drop most.length with
          | '\x7d' :: rest =>
              if least.isEmpty && most.isEmpty then none
              else
                some (digitsValue least, if most.isEmpty then none else some (digitsValue most),
                  rest)
          | _ => none
      | _ => none
  | _ => none

/-- The greatest count between braces that is used. -/
def maxRepeats : Nat := 1000

/-- An expression with the repetitions behind it, and what follows.  From two on, the least
count is the only one. -/
def repeats : (fuel : Nat) → Regex → List Char → Except PatternFault (Regex × List Char)
  | 0, r, cs => .ok (r, cs)
  | fuel + 1, r, cs =>
      match cs with
      | '*' :: rest => repeats fuel (.repeated r 0 none) rest
      | '+' :: rest => repeats fuel (.repeated r 1 none) rest
      | '?' :: rest => repeats fuel (.repeated r 0 (some 1)) rest
      | cs =>
          match interval? cs with
          | none => .ok (r, cs)
          | some (least, most?, rest) =>
              if most?.any (· < least) then .error .badInterval
              else
                let least := min least maxRepeats
                let most? := if 2 ≤ least then some least else most?.map (min · maxRepeats)
                repeats fuel (.repeated r least most?) rest

mutual

/-- Expressions joined by bars, and what follows. -/
def patternChoices (depth : Nat) : (fuel : Nat) → List Char →
    Except PatternFault (Regex × List Char)
  | 0, cs => .ok (.empty, cs)
  | fuel + 1, cs => do
      let (a, rest) ← patternParts depth true fuel cs
      match rest with
      | '|' :: rest => do
          let (b, rest) ← patternChoices depth fuel rest
          pure (.choice a b, rest)
      | rest => pure (a, rest)

/-- The expressions up to a bar, the end of a group, or the end, of which there must be
one. -/
def patternParts (depth : Nat) (isFirst : Bool) : (fuel : Nat) → List Char →
    Except PatternFault (Regex × List Char)
  | 0, cs => .ok (.empty, cs)
  | fuel + 1, cs => do
      let isEnd := match cs with
        | [] | '|' :: _ => true
        | ')' :: _ => 0 < depth
        | _ => false
      if isEnd then if isFirst then throw .missingOperand else pure (.empty, cs)
      else
        let (a, rest) ← patternPart depth fuel cs
        let (b, rest) ← patternParts depth false fuel rest
        pure (.sequence a b, rest)

/-- One expression with its repetitions, and what follows. -/
def patternPart (depth : Nat) : (fuel : Nat) → List Char →
    Except PatternFault (Regex × List Char)
  | 0, cs => .ok (.empty, cs)
  | fuel + 1, cs => do
      let again (r : Regex) (rest : List Char) : Except PatternFault (Regex × List Char) :=
        repeats (rest.length + 1) r rest
      match cs with
      | [] => throw .missingOperand
      | '(' :: rest =>
          let (a, rest) ← match patternChoices (depth + 1) fuel rest with
            | .ok found => pure found
            | .error .missingOperand =>
                throw (if rest.isEmpty then .openGroup else .missingOperand)
            | .error fault => throw fault
          match rest with
          | ')' :: rest => again a rest
          | _ => throw .openGroup
      | '\\' :: rest =>
          let (c, rest) := patternEscape rest
          again (.one (.only c)) rest
      | '.' :: rest => again (.one .any) rest
      | '[' :: rest => do
          let (set, rest) ← bracketSet rest
          again (.one set) rest
      | '^' :: '*' :: _ | '^' :: '+' :: _ => throw .repeatedStart
      | '^' :: rest => again (.anchor .textStart) rest
      | '$' :: rest => again (.anchor .textEnd) rest
      | c :: rest =>
          if c = '*' || c = '+' || c = '?' then throw .missingOperand
          else again (.one (.only c)) rest

end

/-- The letters of a text that is looked at octet by octet. -/
def subjectOf (cs : List Char) : Subject := .ofList (lettersOf false cs)

/-- The expression of a text. -/
def readPattern (text : List Char) : Except PatternFault Regex := do
  let cs := lettersOf false text
  if cs.isEmpty then return .empty
  let (r, _) ← patternChoices 0 (4 * cs.length + 8) cs
  pure r

/-- What separates the parts of a text. -/
inductive Splitter where
  | blanks
  /-- Each letter is a part. -/
  | nothing
  | letter (c : Char)
  | pattern (r : Regex)

/-- What a text separates the parts of others with: a single letter stands for itself. -/
def splitterOf (text : List Char) : Except PatternFault Splitter :=
  match text with
  | [] => .ok .nothing
  | [' '] => .ok .blanks
  | [c] => .ok (.letter c)
  | text => (readPattern text).map .pattern

/-- The words in a text. -/
def wordsOf : (fuel : Nat) → List Char → List (List Char)
  | 0, _ => []
  | fuel + 1, cs =>
      let cs := cs.dropWhile isSpace
      if cs.isEmpty then []
      else cs.takeWhile (!isSpace ·) :: wordsOf fuel (cs.dropWhile (!isSpace ·))

/-- The parts of a text between occurrences of an expression that are not empty, from a place
on; `first` is where the part starts. -/
def partsFrom (r : Regex) (x : Subject) : (fuel : Nat) → (first place : Nat) → List (List Char)
  | 0, first, _ => [x.slice first x.text.size]
  | fuel + 1, first, place =>
      match r.find? x place with
      | none => [x.slice first x.text.size]
      | some o =>
          if o.last = o.first then
            if x.text.size ≤ o.first then [x.slice first x.text.size]
            else partsFrom r x fuel first (o.first + 1)
          else x.slice first o.first :: partsFrom r x fuel o.last o.last

/-- The parts of a text. -/
def Splitter.parts (s : Splitter) (cs : List Char) : List (List Char) :=
  if cs.isEmpty then []
  else
    match s with
    | blanks => wordsOf (cs.length + 1) cs
    | nothing => cs.map ([·])
    | letter c => splitAtChar c cs
    | pattern r =>
        (partsFrom r (subjectOf cs) (cs.length + 2) 0 0).map octetsOfLetters

end DesiredState.Tools.Awk
