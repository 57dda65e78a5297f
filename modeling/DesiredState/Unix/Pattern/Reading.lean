import DesiredState.Number.Reading
import DesiredState.Unix.Pattern.Regex

/-!
# Reading regular expressions

Two languages spell regular expressions: in the basic one most signs have a backslash in
front of them, in the extended one they have not.  Either one may be read strictly, such
that a repetition of nothing is a mistake, or not.

## Main definitions

* `Dialect`, `RegexFault` — how expressions are spelled, and why a text spells none.
* `Regex.read` — the expression that a text spells, with warnings about it.
-/

namespace DesiredState.Pattern

/-- How expressions are spelled. -/
structure Dialect where
  isExtended : Bool
  /-- Whether a repetition of nothing is a mistake. -/
  isStrict : Bool
  ignoresCase : Bool
  deriving DecidableEq, Repr

/-- Why a text spells no expression. -/
inductive RegexFault where
  | nothingInBrackets
  | openBracket
  | openGroup
  | closedGroup
  | openCounts
  | badCounts
  | nothingRepeated
  | badRange
  | badClass
  | badCollation
  | classAlone
  | badReference
  | lastBackslash
  | tooBig
  deriving DecidableEq, Repr

/-- The text of a fault. -/
def RegexFault.message : RegexFault → String
  | nothingInBrackets => "Invalid regular expression"
  | openBracket => "Unmatched [, [^, [:, [., or [="
  | openGroup => "Unmatched ( or \\("
  | closedGroup => "Unmatched ) or \\)"
  | openCounts => "Unmatched \\\x7b"
  | badCounts => "Invalid content of \\\x7b\\\x7d"
  | nothingRepeated => "Invalid preceding regular expression"
  | badRange => "Invalid range end"
  | badClass => "Invalid character class name"
  | badCollation => "Invalid collation character"
  | classAlone => "character class syntax is [[:space:]], not [:space:]"
  | badReference => "Invalid back reference"
  | lastBackslash => "Trailing backslash"
  | tooBig => "Regular expression too big"

/-! ## Brackets -/

namespace Brackets

/-- A letter or a class in brackets, and what follows it. -/
def item (cs : List Char) : Except RegexFault (SetItem × List Char) :=
  match cs with
  | '[' :: ':' :: rest =>
      let name := rest.takeWhile fun c => c != ':' && c != ']'
      match rest.drop name.length with
      | ':' :: ']' :: behind =>
          match LetterClass.ofName? (String.ofList name) with
          | some cls => .ok (.ofClass cls, behind)
          | none => .error .badClass
      | _ => .error .openBracket
  | '[' :: mark :: rest =>
      if mark = '.' || mark = '=' then
        match rest with
        | c :: d :: ']' :: behind =>
            if d = mark then .ok (.range c c, behind) else .error .badCollation
        | [] => .error .openBracket
        | _ => .error .badCollation
      else .ok (.range '[' '[', mark :: rest)
  | c :: rest => .ok (.range c c, rest)
  | [] => .error .openBracket

/-- What stands in brackets, and what follows the closing one, which is not the closing
one if it is the first. -/
def items (isFirst : Bool) : Nat → List Char → Except RegexFault (List SetItem × List Char)
  | 0, _ => .error .openBracket
  | fuel + 1, cs =>
      match cs with
      | [] => .error (if isFirst then .nothingInBrackets else .openBracket)
      | c :: rest =>
          if c = ']' && !isFirst then .ok ([], rest)
          else do
            let (first, behind) ← item cs
            match first, behind with
            | .range low _, '-' :: last :: others =>
                if last = ']' then
                  let (more, rest) ← items false fuel behind
                  pure (first :: more, rest)
                else
                  match ← item (last :: others) with
                  | (.range high _, behind) =>
                      if high < low then throw .badRange
                      let (more, rest) ← items false fuel behind
                      pure (.range low high :: more, rest)
                  | (.ofClass _, _) => throw .badRange
            | _, _ =>
                let (more, rest) ← items false fuel behind
                pure (first :: more, rest)

/-- The set in brackets behind the opening one, and what follows. -/
def read (cs : List Char) : Except RegexFault (LetterSet × List Char) := do
  let isNegated := cs.head? == some '^'
  let content := if isNegated then cs.drop 1 else cs
  let (found, rest) ← items true (cs.length + 1) content
  let text := cs.take (cs.length - rest.length - 1)
  if 2 ≤ text.length && text.head? == some ':' && text.getLast? == some ':' then
    throw .classAlone
  pure (.oneOf isNegated found, rest)

end Brackets

namespace Regex

/-! ## Expressions -/

/-- What is read of an expression. -/
structure ReadState where
  rest : List Char
  /-- How many groups were opened. -/
  opened : Nat
  /-- The numbers of the groups that were closed. -/
  closed : List Nat
  /-- How many groups are open. -/
  depth : Nat
  warnings : List String

/-- A step of reading. -/
abbrev Step := StateT ReadState (Except RegexFault)

/-- Sets what is left. -/
def setRest (cs : List Char) : Step Unit := modify fun s => { s with rest := cs }

/-- Whether a text goes on with a sign, which a backslash stands in front of in the
basic language. -/
def isSign (d : Dialect) (c : Char) (cs : List Char) : Bool :=
  if d.isExtended then cs.head? == some c else ['\\', c].isPrefixOf cs

/-- What follows a sign. -/
def behindSign (d : Dialect) (cs : List Char) : List Char :=
  cs.drop (if d.isExtended then 1 else 2)

/-- The numbers between braces, and what follows them; nothing if they are not
numbers. -/
def counts? (d : Dialect) (cs : List Char) : Option (Nat × Option Nat × List Char) :=
  let least := cs.takeWhile Char.isDigit
  let close (rest : List Char) : Option (List Char) :=
    if isSign d '\x7d' rest then some (behindSign d rest) else none
  match cs.drop least.length with
  | ',' :: rest =>
      let most := rest.takeWhile Char.isDigit
      (close (rest.drop most.length)).map fun rest =>
        (digitsValue least, if most.isEmpty then none else some (digitsValue most), rest)
  | rest =>
      if least.isEmpty then none
      else (close rest).map fun rest => (digitsValue least, some (digitsValue least), rest)

/-- The greatest number between braces. -/
def maxCount : Nat := 32767

/-- The repetition behind an expression, and what follows it. -/
def repetition? (d : Dialect) (cs : List Char) :
    Except RegexFault (Option (Nat × Option Nat × List Char)) :=
  match cs with
  | '*' :: rest => .ok (some (0, none, rest))
  | _ =>
      if isSign d '+' cs then .ok (some (1, none, behindSign d cs))
      else if isSign d '?' cs then .ok (some (0, some 1, behindSign d cs))
      else if isSign d '\x7b' cs then
        let inner := behindSign d cs
        match counts? d inner with
        | some (least, most?, rest) =>
            if most?.any (· < least) then .error .badCounts
            else if maxCount < most?.getD least then .error .tooBig
            else .ok (some (least, most?, rest))
        | none =>
            if d.isExtended && !d.isStrict then .ok none
            else if (inner.dropWhile fun c => c.isDigit || c == ',').isEmpty then
              .error .openCounts
            else .error .badCounts
      else .ok none

/-- An expression with the repetitions behind it. -/
def repetitions (d : Dialect) : Nat → Regex → Step Regex
  | 0, a => return a
  | fuel + 1, a => do
      let cs := (← get).rest
      match ← (repetition? d cs : Except RegexFault _) with
      | none => return a
      | some (least, most?, rest) =>
          setRest rest
          let isDoubled := rest.head? == some '*' || isSign d '\x7b' rest
          if d.isStrict && !d.isExtended && isDoubled then throw .nothingRepeated
          repetitions d fuel (.repeated a least most?)

/-- The anchor that a letter behind a backslash stands for. -/
def escapedAnchor? : Char → Option Anchor
  | '<' => some .wordStart
  | '>' => some .wordEnd
  | 'b' => some .wordEdge
  | 'B' => some .notWordEdge
  | '`' => some .textStart
  | '\'' => some .textEnd
  | _ => none

/-- The set that a letter behind a backslash stands for. -/
def escapedSet (c : Char) : LetterSet :=
  match c with
  | 'w' => .oneOf false LetterSet.word
  | 'W' => .oneOf true LetterSet.word
  | 's' => .oneOf false [.ofClass .space]
  | 'S' => .oneOf true [.ofClass .space]
  | c => .only c

mutual

/-- Expressions joined by bars. -/
def choices (d : Dialect) : Nat → Step Regex
  | 0 => return .empty
  | fuel + 1 => do
      let a ← parts d true fuel
      let cs := (← get).rest
      if isSign d '|' cs then
        setRest (behindSign d cs)
        return .choice a (← choices d fuel)
      else return a

/-- The expressions up to a bar, the end of a group, or the end.  At the start of
them signs of repetitions have nothing in front of them. -/
def parts (d : Dialect) (isFirst : Bool) : Nat → Step Regex
  | 0 => return .empty
  | fuel + 1 => do
      let s ← get
      let cs := s.rest
      let endsGroup := isSign d ')' cs &&
        (0 < s.depth || !d.isExtended || d.isStrict)
      if cs.isEmpty || isSign d '|' cs then return .empty
      else if endsGroup then
        if s.depth = 0 then throw .closedGroup else return .empty
      else
        let (a, isAnchor) ← part d isFirst fuel
        let a ← if isAnchor then pure a else repetitions d (cs.length + 1) a
        return .sequence a (← parts d isAnchor fuel)

/-- One expression, and whether it is a condition that can not be repeated. -/
def part (d : Dialect) (isFirst : Bool) : Nat → Step (Regex × Bool)
  | 0 => return (.empty, false)
  | fuel + 1 => do
      let s ← get
      let cs := s.rest
      let single (c : Char) (rest : List Char) : Step (Regex × Bool) := do
        setRest rest
        return (.one (.only c), false)
      let anchored (a : Anchor) (rest : List Char) : Step (Regex × Bool) := do
        setRest rest
        return (.anchor a, true)
      if isSign d '(' cs then
        let number := s.opened + 1
        set { s with rest := behindSign d cs, opened := number, depth := s.depth + 1 }
        let a ← choices d fuel
        let s ← get
        if isSign d ')' s.rest then
          set { s with
            rest := behindSign d s.rest, closed := number :: s.closed, depth := s.depth - 1 }
          return (.group number a, false)
        else throw .openGroup
      else
        let isRepeat := isFirst &&
          (if d.isExtended then
            cs.head? == some '*' || cs.head? == some '+' || cs.head? == some '?' ||
              (cs.head? == some '\x7b' && (d.isStrict || (counts? d (cs.drop 1)).isSome))
          else isSign d '\x7b' cs && d.isStrict)
        if isRepeat then
          if d.isStrict then throw .nothingRepeated
          else
            let c := cs.headD '*'
            let rest := match counts? d (cs.drop 1) with
              | some (_, _, rest) => if c = '\x7b' then rest else cs.drop 1
              | none => cs.drop 1
            let sign := if c = '\x7b' then "\x7b...\x7d" else String.singleton c
            set { s with
              rest := rest, warnings := (sign ++ " at start of expression") :: s.warnings }
            return (.empty, true)
        else
          match cs with
          | [] => return (.empty, false)
          | ['\\'] => throw .lastBackslash
          | '\\' :: c :: rest =>
              if c.isDigit && c != '0' then
                if s.closed.contains (c.toNat - 48) then
                  setRest rest
                  return (.again (c.toNat - 48) d.ignoresCase, false)
                else throw .badReference
              else
                match escapedAnchor? c with
                | some a => anchored a rest
                | none =>
                    setRest rest
                    return (.one (escapedSet c), false)
          | '.' :: rest =>
              setRest rest
              return (.one .any, false)
          | '[' :: rest =>
              let (set, rest) ← (Brackets.read rest : Except RegexFault _)
              setRest rest
              return (.one set, false)
          | '^' :: rest =>
              if d.isExtended || isFirst then anchored .lineStart rest else single '^' rest
          | '$' :: rest =>
              let isLast := rest.isEmpty || isSign d '|' rest || isSign d ')' rest
              if d.isExtended || isLast then anchored .lineEnd rest else single '$' rest
          | c :: rest => single c rest

end

/-- The expression that a text spells, with warnings about it. -/
def read (d : Dialect) (cs : List Char) : Except RegexFault (Regex × List String) := do
  let (r, s) ← (choices d (4 * cs.length + 4)).run ⟨cs, 0, [], 0, []⟩
  if s.rest.isEmpty then pure (if d.ignoresCase then r.foldCase else r, s.warnings.reverse)
  else throw .closedGroup

end Regex

end DesiredState.Pattern
