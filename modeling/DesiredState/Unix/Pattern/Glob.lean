import DesiredState.Unix.Pattern.Regex

/-!
# Patterns of whole texts

The patterns of a shell are compared with a whole text: a star takes any text, a question
mark any letter, and brackets a letter of a set.  What is in quotes, or behind a
backslash, stands for itself.

## Main definitions

* `MarkedText` — letters with whether each was in quotes.
* `ofGlob` — the expression of a pattern.
* `isGlob` — whether a text says more than itself.
-/

namespace DesiredState.Pattern

/-- Letters, each with whether it was in quotes. -/
abbrev MarkedText := List (Char × Bool)

/-- A marked text without the marks. -/
def MarkedText.unmarked (text : MarkedText) : List Char := text.map Prod.fst

/-- A text of which nothing is in quotes. -/
def MarkedText.bare (cs : List Char) : MarkedText := cs.map (·, false)

namespace Glob

/-- The next letter of a pattern in brackets, and what follows; a backslash in front
of it is dropped. -/
def letter? : MarkedText → Option (Char × MarkedText)
  | ('\\', false) :: (c, _) :: rest => some (c, rest)
  | (c, _) :: rest => some (c, rest)
  | [] => none

/-- The class at the start of a pattern in brackets, and what follows. -/
def class? (text : MarkedText) : Option (LetterClass × MarkedText) :=
  match text with
  | ('[', false) :: (':', false) :: rest =>
      let name := rest.takeWhile fun c => c.1 != ':'
      match rest.drop name.length with
      | (':', _) :: (']', _) :: behind =>
          (LetterClass.ofName? (String.ofList (MarkedText.unmarked name))).map (·, behind)
      | _ => none
  | _ => none

/-- What stands in brackets, and what follows the closing one; nothing if they are not
closed. -/
def items? (isFirst : Bool) : Nat → MarkedText → Option (List SetItem × MarkedText)
  | 0, _ => none
  | fuel + 1, text =>
      if !isFirst && text.head? == some (']', false) then some ([], text.drop 1)
      else
        match class? text with
        | some (cls, rest) =>
            (items? false fuel rest).map fun (more, rest) => (.ofClass cls :: more, rest)
        | none => do
            let (low, rest) ← letter? text
            match rest with
            | ('-', false) :: behind =>
                if behind.head? == some (']', false) then
                  let (more, rest) ← items? false fuel rest
                  pure (.range low low :: more, rest)
                else
                  let (high, rest) ← letter? behind
                  let (more, rest) ← items? false fuel rest
                  pure (.range low high :: more, rest)
            | _ =>
                let (more, rest) ← items? false fuel rest
                pure (.range low low :: more, rest)

/-- The set in brackets behind the opening one, and what follows. -/
def brackets? (text : MarkedText) : Option (LetterSet × MarkedText) :=
  let isNegated := text.head? == some ('!', false) || text.head? == some ('^', false)
  (items? true (text.length + 1) (if isNegated then text.drop 1 else text)).map
    fun (found, rest) => (.oneOf isNegated found, rest)

/-- The expression of a pattern, of which so many letters are read. -/
def read : Nat → MarkedText → Regex
  | 0, _ => .empty
  | fuel + 1, text =>
      match text with
      | [] => .empty
      | (c, true) :: rest => .sequence (.one (.only c)) (read fuel rest)
      | ('\\', false) :: (c, _) :: rest => .sequence (.one (.only c)) (read fuel rest)
      | ('*', false) :: rest => .sequence (.repeated (.one .any) 0 none) (read fuel rest)
      | ('?', false) :: rest => .sequence (.one .any) (read fuel rest)
      | ('[', false) :: rest =>
          match brackets? rest with
          | some (set, rest) => .sequence (.one set) (read fuel rest)
          | none => .sequence (.one (.only '[')) (read fuel rest)
      | (c, false) :: rest => .sequence (.one (.only c)) (read fuel rest)

end Glob

/-- The expression of a pattern. -/
def ofGlob (text : MarkedText) : Regex :=
  let letters := (lettersOf false text.unmarked).zip (text.map Prod.snd)
  Glob.read (letters.length + 1) letters

/-- Whether a text says more than itself. -/
def isGlob (text : MarkedText) : Bool :=
  text.any fun (c, isQuoted) => !isQuoted && (c == '*' || c == '?' || c == '[')

/-- Whether a pattern takes a text of octets. -/
def globTakes (pattern : Regex) (octets : List Char) : Bool :=
  pattern.takesAll (lettersOf false octets)

end DesiredState.Pattern
