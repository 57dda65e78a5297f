import DesiredState.Unix.Pattern.LetterSet

/-!
# Regular expressions

An expression is searched for in a text: the first place where it occurs counts, and of
the occurrences there the longest one.  All places that an expression leads to are found
at once, so no expression takes long; afterwards the parts of the one occurrence are
found by dividing it, each part being as long as those behind it let it be.

An expression that asks for the text of a part once more is followed step by step
instead.

## Main definitions

* `Subject`, `Regex` — texts, and regular expressions.
* `Regex.ends` — the places that an expression leads to.
* `Regex.Occurrence`, `Regex.find?` — the first occurrence from a place on.
* `Regex.takesAll`, `Regex.occursIn` — whether an expression takes a text, or occurs in it.
-/

namespace DesiredState.Pattern

/-- A text that is looked at. -/
structure Subject where
  text : Array Char
  /-- Whether what follows a line end is the start of a line. -/
  hasLines : Bool

/-- The subject of letters. -/
def Subject.ofList (cs : List Char) : Subject := ⟨cs.toArray, false⟩

/-- A condition on a place. -/
inductive Anchor where
  | lineStart
  | lineEnd
  | textStart
  | textEnd
  | wordStart
  | wordEnd
  /-- The start or the end of a word. -/
  | wordEdge
  /-- Anywhere but at the start or the end of a word. -/
  | notWordEdge
  deriving DecidableEq, Repr

/-- A regular expression. -/
inductive Regex where
  | empty
  | one (s : LetterSet)
  | anchor (a : Anchor)
  | sequence (a b : Regex)
  | choice (a b : Regex)
  | repeated (a : Regex) (least : Nat) (most? : Option Nat)
  /-- A part with a number. -/
  | group (number : Nat) (a : Regex)
  /-- The text of a part once more. -/
  | again (number : Nat) (ignoresCase : Bool)
  deriving Inhabited

namespace Subject

/-- Whether a letter of a word is at a place. -/
def isWordAt (x : Subject) (i : Nat) : Bool :=
  match x.text[i]? with
  | some c => (LetterSet.oneOf false LetterSet.word).contains c
  | none => false

/-- Whether a letter of a word is before a place. -/
def isWordBefore (x : Subject) (i : Nat) : Bool := 0 < i && x.isWordAt (i - 1)

/-- Whether a condition holds at a place. -/
def holds (x : Subject) (i : Nat) : Anchor → Bool
  | .textStart => i == 0
  | .textEnd => i == x.text.size
  | .lineStart => i == 0 || (x.hasLines && x.text[i - 1]? == some '\n')
  | .lineEnd => i == x.text.size || (x.hasLines && x.text[i]? == some '\n')
  | .wordStart => !x.isWordBefore i && x.isWordAt i
  | .wordEnd => x.isWordBefore i && !x.isWordAt i
  | .wordEdge => x.isWordBefore i != x.isWordAt i
  | .notWordEdge => x.isWordBefore i == x.isWordAt i

/-- The letters between two places. -/
def slice (x : Subject) (i j : Nat) : List Char := (x.text.extract i j).toList

end Subject

/-! ## Places -/

/-- Ascending places, of which none comes twice, put together. -/
def joinPlaces (a b : List Nat) : List Nat :=
  if a.isEmpty then b
  else if b.isEmpty then a
  else (a.merge b (· ≤ ·)).eraseReps

/-- Applies a step to places again and again, as long as there are new ones. -/
def closure (step : List Nat → List Nat) : Nat → (known fresh : List Nat) → List Nat
  | 0, known, _ => known
  | fuel + 1, known, fresh =>
      match (step fresh).filter fun i => !known.contains i with
      | [] => known
      | new => closure step fuel (joinPlaces known new) new

/-- Applies a step to places at most so many times. -/
def upToTimes (step : List Nat → List Nat) : Nat → List Nat → List Nat
  | 0, places => places
  | n + 1, places =>
      match places with
      | [] => []
      | _ => joinPlaces places (upToTimes step n (step places))

/-- Applies a step to places so many times. -/
def times (step : List Nat → List Nat) : Nat → List Nat → List Nat
  | 0, places => places
  | n + 1, places =>
      match places with
      | [] => []
      | _ => times step n (step places)

namespace Regex

/-- The places behind letters of a set that follow each other from a place on, the
place itself first. -/
def run (x : Subject) (s : LetterSet) : Nat → Nat → List Nat
  | 0, i => [i]
  | fuel + 1, i =>
      match x.text[i]? with
      | some c => if s.contains c then i :: run x s fuel (i + 1) else [i]
      | none => [i]

/-- The places behind any number of letters of a set from places on.  A place inside
of what was passed already leads nowhere new. -/
def runs (x : Subject) (s : LetterSet) (places : List Nat) : List Nat :=
  (places.foldl (fun (found, reached) i =>
    if i < reached then (found, reached)
    else
      let new := run x s (x.text.size - i) i
      (found ++ new, i + new.length)) ([], 0)).1

/-- The places that an expression leads to from places. -/
def ends (x : Subject) : Regex → List Nat → List Nat
  | empty, places => places
  | one s, places => places.filterMap fun i =>
      match x.text[i]? with
      | some c => if s.contains c then some (i + 1) else none
      | none => none
  | anchor a, places => places.filter fun i => x.holds i a
  | sequence a b, places =>
      match ends x a places with
      | [] => []
      | places => ends x b places
  | choice a b, places => joinPlaces (ends x a places) (ends x b places)
  | repeated (one s) 0 none, places => runs x s places
  | repeated a least most?, places =>
      let places := times (ends x a) least places
      match most? with
      | some most => upToTimes (ends x a) (most - least) places
      | none => closure (ends x a) (x.text.size + 1) places places
  | group _ a, places => ends x a places
  | again _ _, places => places

/-- Whether an expression asks for the text of a part once more. -/
def hasAgain : Regex → Bool
  | again _ _ => true
  | sequence a b | choice a b => hasAgain a || hasAgain b
  | repeated a _ _ | group _ a => hasAgain a
  | _ => false

/-- Whether an expression has a part with a number. -/
def hasGroup : Regex → Bool
  | group _ _ => true
  | sequence a b | choice a b => hasGroup a || hasGroup b
  | repeated a _ _ => hasGroup a
  | _ => false

/-- How many nodes an expression has. -/
def size : Regex → Nat
  | sequence a b | choice a b => size a + size b + 1
  | repeated a _ _ | group _ a => size a + 1
  | _ => 1

/-! ## Parts -/

/-- The parts of an occurrence: their numbers, starts and ends. -/
abbrev Parts := List (Nat × Nat × Nat)

/-- The parts of an expression that takes what is between two places. -/
def divide (x : Subject) : Nat → Regex → Nat → Nat → Parts → Parts
  | 0, _, _, _, parts => parts
  | fuel + 1, r, i, j, parts =>
      match r with
      | sequence a b =>
          match (ends x a [i]).reverse.find? fun k => k ≤ j && (ends x b [k]).contains j with
          | some k => divide x fuel b k j (divide x fuel a i k parts)
          | none => parts
      | choice a b =>
          if (ends x a [i]).contains j then divide x fuel a i j parts
          else divide x fuel b i j parts
      | repeated a least most? =>
          if most? = some 0 then parts
          else
            let others := repeated a (least - 1) (most?.map (· - 1))
            let next? := (ends x a [i]).reverse.find? fun k =>
              i < k && k ≤ j && (ends x others [k]).contains j
            match next? with
            | some k => divide x fuel others k j (divide x fuel a i k parts)
            | none =>
                if i = j && (ends x a [i]).contains i then divide x fuel a i i parts else parts
      | group number a => (number, i, j) :: divide x fuel a i j parts
      | _ => parts

/-! ## Step by step -/

/-- The farther one of two ends, the first one if both are as far. -/
def farther : Option (Nat × Parts) → Option (Nat × Parts) → Option (Nat × Parts)
  | some p, some q => if q.1 ≤ p.1 then some p else some q
  | p?, q? => p?.or q?

/-- The text of a part, if it was passed. -/
def partText? (x : Subject) (parts : Parts) (number : Nat) : Option (List Char) :=
  (parts.find? (·.1 == number)).map fun (_, i, j) => x.slice i j

/-- The end that an expression and what follows it lead to. -/
def follow (x : Subject) : Nat → Regex → Nat → Parts →
    (Nat → Parts → Option (Nat × Parts)) → Option (Nat × Parts)
  | 0, _, _, _, _ => none
  | fuel + 1, r, i, parts, next =>
      match r with
      | empty => next i parts
      | one s =>
          match x.text[i]? with
          | some c => if s.contains c then next (i + 1) parts else none
          | none => none
      | anchor a => if x.holds i a then next i parts else none
      | sequence a b => follow x fuel a i parts fun k parts => follow x fuel b k parts next
      | choice a b => farther (follow x fuel a i parts next) (follow x fuel b i parts next)
      | repeated a least most? =>
          let more :=
            if most? = some 0 then none
            else follow x fuel a i parts fun k parts =>
              if k = i then none
              else follow x fuel (repeated a (least - 1) (most?.map (· - 1))) k parts next
          match more with
          | some found => some found
          | none => if least = 0 then next i parts else none
      | group number a =>
          follow x fuel a i parts fun k parts => next k ((number, i, k) :: parts)
      | again number ignoresCase =>
          match partText? x parts number with
          | none => none
          | some text =>
              let here := x.slice i (i + text.length)
              let fold (cs : List Char) : List Char :=
                if ignoresCase then cs.map lowercaseChar else cs
              if fold here = fold text then next (i + text.length) parts else none

/-! ## Occurrences -/

/-- An occurrence of an expression: its start, its end, and its parts. -/
structure Occurrence where
  first : Nat
  last : Nat
  parts : Parts

/-- How many steps it takes at most to divide or to follow an expression. -/
def steps (r : Regex) (x : Subject) : Nat := (2 * r.size + 2) * (x.text.size + 2)

/-- The longest occurrence of an expression at a place. -/
def at? (r : Regex) (x : Subject) (i : Nat) : Option Occurrence :=
  if r.hasAgain then
    (follow x (r.steps x) r i [] fun j parts => some (j, parts)).map fun (j, parts) =>
      ⟨i, j, parts⟩
  else
    ((ends x r [i]).getLast?).map fun j => ⟨i, j, divide x (r.steps x) r i j []⟩

/-- The first occurrence of an expression from a place on, at one of so many places. -/
def findFrom (r : Regex) (x : Subject) : Nat → Nat → Option Occurrence
  | 0, _ => none
  | fuel + 1, i =>
      match r.at? x i with
      | some found => some found
      | none => findFrom r x fuel (i + 1)

/-- The first occurrence of an expression from a place on. -/
def find? (r : Regex) (x : Subject) (i : Nat) : Option Occurrence :=
  r.findFrom x (x.text.size + 1 - i) i

/-- Whether an expression takes a whole text. -/
def takesAll (r : Regex) (cs : List Char) : Bool :=
  let x := Subject.ofList cs
  if r.hasAgain then
    (follow x (r.steps x) r 0 [] fun j parts =>
      if j = x.text.size then some (j, parts) else none).isSome
  else (ends x r [0]).contains x.text.size

/-- Whether an expression occurs in a text. -/
def occursIn (r : Regex) (cs : List Char) : Bool := (r.find? (Subject.ofList cs) 0).isSome

/-- An expression to which the case of letters does not matter. -/
def foldCase : Regex → Regex
  | one s => one s.foldCase
  | sequence a b => sequence (foldCase a) (foldCase b)
  | choice a b => choice (foldCase a) (foldCase b)
  | repeated a least most? => repeated (foldCase a) least most?
  | group number a => group number (foldCase a)
  | again number _ => again number true
  | r => r

/-- The expression of a text, letter by letter. -/
def verbatim (cs : List Char) : Regex :=
  cs.foldr (fun c r => sequence (one (.only c)) r) empty

end Regex

end DesiredState.Pattern
