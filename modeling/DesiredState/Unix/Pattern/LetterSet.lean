import DesiredState.Unix.Text.Letter

/-!
# Sets of letters

A pattern takes letters one by one; a set says which ones.  It is any letter, a single
one, or what brackets hold: ranges and classes, or all letters but those.

## Main definitions

* `LetterClass`, `LetterSet` — classes and sets of letters.
* `LetterSet.contains`, `LetterSet.foldCase`.
-/

namespace DesiredState.Pattern

/-- A class of letters. -/
inductive LetterClass where
  | alpha | digit | alnum | upper | lower | space | blank | punct | printing | graph | control
  | hexDigit
  deriving DecidableEq, Repr

namespace LetterClass

/-- The class of a name. -/
def ofName? : String → Option LetterClass
  | "alpha" => some alpha
  | "digit" => some digit
  | "alnum" => some alnum
  | "upper" => some upper
  | "lower" => some lower
  | "space" => some space
  | "blank" => some blank
  | "punct" => some punct
  | "print" => some printing
  | "graph" => some graph
  | "cntrl" => some control
  | "xdigit" => some hexDigit
  | _ => none

/-- Whether a letter beyond ASCII is in a class. -/
def containsWide (cls : LetterClass) (c : Char) : Bool :=
  if 0x10FE00 ≤ c.toNat then false
  else
    match cls with
    | alpha | alnum => isAlphabetic c
    | upper => lowercaseChar c != c
    | lower => isCased c && lowercaseChar c == c && uppercaseChar c != c
    | space | blank => isBlank c && c.toNat != 0xA0 && c.toNat != 0x85
    | punct => !isAlphabetic c && !isBlank c
    | printing => true
    | graph => !isBlank c
    | digit | control | hexDigit => false

/-- Whether a letter is in a class. -/
def contains (cls : LetterClass) (c : Char) : Bool :=
  if 0x80 ≤ c.toNat then cls.containsWide c
  else
    match cls with
    | alpha => c.isAlpha
    | digit => c.isDigit
    | alnum => c.isAlphanum
    | upper => c.isUpper
    | lower => c.isLower
    | space => c == ' ' || ('\t' ≤ c && c ≤ '\x0d')
    | blank => c == ' ' || c == '\t'
    | punct => '!' ≤ c && c ≤ '~' && !c.isAlphanum
    | printing => ' ' ≤ c && c ≤ '~'
    | graph => '!' ≤ c && c ≤ '~'
    | control => c < ' ' || c == '\x7f'
    | hexDigit => c.isDigit || ('a' ≤ c && c ≤ 'f') || ('A' ≤ c && c ≤ 'F')

end LetterClass

/-- A part of what stands in brackets. -/
inductive SetItem where
  | range (first last : Char)
  | ofClass (cls : LetterClass)
  deriving DecidableEq, Repr

/-- Whether a letter is in a part. -/
def SetItem.contains : SetItem → Char → Bool
  | range first last, c => first ≤ c && c ≤ last
  | ofClass cls, c => cls.contains c

/-- A set of letters. -/
inductive LetterSet where
  | any
  | only (c : Char)
  | oneOf (isNegated : Bool) (items : List SetItem)
  deriving DecidableEq, Repr

namespace LetterSet

/-- Whether a letter is in a set.  An octet that is no text is in no set but its own. -/
def contains : LetterSet → Char → Bool
  | any, c => !isStray c
  | only d, c => c == d
  | oneOf isNegated items, c => items.any (·.contains c) != isNegated && !(isNegated && isStray c)

/-- The letters of words. -/
def word : List SetItem := [.ofClass .alnum, .range '_' '_']

/-- The forms of a letter in both cases. -/
def bothCases (c : Char) : List Char := [c, lowercaseChar c, uppercaseChar c]

/-- A part with the letters of both cases for each letter in it. -/
def foldItem : SetItem → List SetItem
  | .range first last =>
      if first = last then (bothCases first).map fun c => .range c c
      else if 0x80 ≤ last.toNat then [.range first last]
      else
        let letters := (List.range (last.toNat + 1 - first.toNat)).map fun n =>
          Char.ofNat (first.toNat + n)
        .range first last ::
          ((letters.filter Char.isAlpha).map fun c =>
            let d := if c.isUpper then c.toLower else c.toUpper
            .range d d)
  | .ofClass .upper | .ofClass .lower => [.ofClass .upper, .ofClass .lower]
  | item => [item]

/-- A set with the letters of both cases for each letter in it. -/
def foldCase : LetterSet → LetterSet
  | any => any
  | only c => oneOf false ((bothCases c).map fun d => .range d d)
  | oneOf isNegated items => oneOf isNegated (items.flatMap foldItem)

end LetterSet

end DesiredState.Pattern
