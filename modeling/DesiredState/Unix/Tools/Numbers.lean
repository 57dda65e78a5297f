import DesiredState.Unix.Number.Conversion
import DesiredState.Unix.Tools.Inputs

/-!
# Programs on numbers

Sequences of numbers, and the factors of numbers.  A sequence of plain integers is written
digit by digit; any other one is computed in numbers of 64 bits, and written with as many
places as its start and its step have.

## Main definitions

* `SequenceTerm`, `runSeq` — sequences.
* `factorsOf`, `runFactor` — factors.
-/

namespace DesiredState.Tools

open Shell

/-! ## Sequences -/

/-- A number of a sequence, with how much room it takes and how many places it has; nothing
for places that can not be told. -/
structure SequenceTerm where
  value : Rounded
  width : Int
  places? : Option Int
  /-- The digits of a number that is a plain integer. -/
  digits? : Option Nat

/-- The place of a character in a text. -/
def placeOf? (c : Char) (cs : List Char) : Option Nat :=
  let before := cs.takeWhile (· != c)
  if before.length < cs.length then some before.length else none

/-- The term that a text spells, if it spells a number. -/
def sequenceTerm? (text : List Char) : Option SequenceTerm := do
  let value ← Rounded.read? .extended text
  let unsigned := text.dropWhile fun c => isNumberBlank c || c == '+'
  let point? := placeOf? '.' unsigned
  let digits? := if !text.isEmpty && text.all Char.isDigit then some (digitsValue text) else none
  if unsigned.contains 'x' || unsigned.contains 'X' || !value.isFinite then
    let isWhole := point?.isNone && !unsigned.contains 'p'
    pure ⟨value, 0, if isWhole then some 0 else none, digits?⟩
  else
    let length : Int := unsigned.length
    let (places, width) : Int × Int :=
      match point? with
      | none => (0, length)
      | some n =>
          let fraction := (unsigned.drop (n + 1)).takeWhile fun c => c != 'e' && c != 'E'
          let isBare := n = 0 || !(unsigned[n - 1]?.any Char.isDigit)
          ((fraction.length : Int),
            length + (if fraction.isEmpty then -1 else if isBare then 1 else 0))
    match (placeOf? 'e' unsigned).or (placeOf? 'E' unsigned) with
    | none => pure ⟨value, width, some places, digits?⟩
    | some n =>
        let exponent : Int :=
          ((leadingInteger? (some 10) (unsigned.drop (n + 1))).map (·.value)).getD 0
        let places := if exponent < 0 then places - exponent else places - min places exponent
        let width := width - (length - n)
        let width :=
          if exponent < 0 then
            match point? with
            | some point => if n = point + 1 then width + 1 else width
            | none => width + 1
          else width
        pure ⟨value, width + exponent.natAbs, some places, digits?⟩

/-- How the numbers of a sequence are written: what stands in front, the form, and what stands
behind. -/
structure SequenceForm where
  front : List Char
  conversion : Conversion
  behind : List Char

namespace SequenceForm

/-- The text of a number. -/
def write (f : SequenceForm) (x : Rounded) : List Char :=
  f.front ++ f.conversion.writeReal .extended x ++ f.behind

/-- The number that the text of another one spells. -/
def reread? (f : SequenceForm) (x : Rounded) : Option Rounded :=
  Rounded.read? .extended (f.conversion.writeReal .extended x)

/-- The form of terms that say nothing about it. -/
def general : SequenceForm := ⟨[], Conversion.plain 'g', []⟩

/-- The form for the terms of a sequence, all of which get the same width if that is
wanted. -/
def ofTerms (isWide : Bool) (first step last : SequenceTerm) : SequenceForm :=
  match first.places?, step.places?, last.places? with
  | some p, some q, some r =>
      let places := max p q
      if isWide then
        let firstWidth := first.width + (places - p) + (if p = 0 && places ≠ 0 then 1 else 0)
        let lastWidth := last.width + (places - r) +
          (if r ≠ 0 && places = 0 then -1 else if r = 0 && places ≠ 0 then 1 else 0)
        ⟨[], ⟨['0'], (max firstWidth lastWidth).toNat, some places.toNat, 'f'⟩, []⟩
      else ⟨[], ⟨[], 0, some places.toNat, 'f'⟩, []⟩
  | _, _, _ => general

/-- A text up to its directive, with doubled percent signs made single, and the rest. -/
def plainPart : Nat → List Char → List Char × List Char
  | 0, cs => ([], cs)
  | fuel + 1, cs =>
      match cs with
      | '%' :: '%' :: rest =>
          let (text, rest) := plainPart fuel rest
          ('%' :: text, rest)
      | '%' :: rest => ([], '%' :: rest)
      | c :: rest =>
          let (text, rest) := plainPart fuel rest
          (c :: text, rest)
      | [] => ([], [])

/-- The form that a text spells, or what is wrong with it, in front of which stands the text
itself in quotes. -/
def read (text : List Char) : Except (List Char) SequenceForm :=
  let (front, rest) := plainPart text.length text
  match rest with
  | [] => .error " has no % directive".toList
  | _ :: rest =>
      let flags := rest.takeWhile "-+#0 '".toList.contains
      let rest := rest.drop flags.length
      let width := rest.takeWhile Char.isDigit
      let rest := rest.drop width.length
      let (precision?, rest) := match rest with
        | '.' :: rest =>
            let digits := rest.takeWhile Char.isDigit
            (some (digitsValue digits), rest.drop digits.length)
        | rest => (none, rest)
      let rest := if rest.head? = some 'L' then rest.drop 1 else rest
      match rest with
      | [] => .error " ends in %".toList
      | kind :: rest =>
          if !"efgaEFGA".toList.contains kind then
            .error (" has unknown %".toList ++ kind :: " directive".toList)
          else
            let (behind, others) := plainPart rest.length rest
            if others.isEmpty then
              .ok ⟨front, ⟨flags, digitsValue width, precision?, kind⟩, behind⟩
            else .error " has too many % directives".toList

end SequenceForm

/-- How many octets of a sequence are written at most. -/
def sequenceLimit : Nat := 1 <<< 23

/-- The texts of the numbers of a sequence from a place on. -/
def sequenceFrom (form : SequenceForm) (first step last : Rounded) :
    (fuel : Nat) → (place : Nat) → (value : Rounded) → List (List Char)
  | 0, _, _ => []
  | fuel + 1, place, value =>
      let text := form.write value
      let next := Rounded.add .extended first
        (Rounded.multiply .extended (.ofInt .extended place) step)
      let isPast :=
        if step.isNegative then next.compare last == .lt else last.compare next == .lt
      if !isPast then text :: sequenceFrom form first step last fuel (place + 1) next
      else
        let nextText := form.write next
        let isLast : Bool := match form.reread? next with
          | some x => x.compare last == .eq && nextText != text
          | none => false
        if isLast then [text, nextText] else [text]

/-- The numbers from one to another one. -/
def integersFrom (last step : Nat) : Nat → Nat → List (List Char)
  | 0, _ => []
  | fuel + 1, n => if last < n then [] else writeNat n :: integersFrom last step fuel (n + step)

/-- Writes texts with a separator between them. -/
def emitSequence (separator : List Char) (texts : List (List Char)) : Job Unit := do
  match texts with
  | [] => return ()
  | first :: rest => emit (first ++ (rest.flatMap fun t => separator ++ t) ++ ['\n'])

/-- The options of `seq`. -/
def seqForms : OptionForms where
  letters := "f:s:w"
  words := [("equal-width", .nothing, "w"), ("format", .argument, "f"),
    ("separator", .argument, "s")]
  permutes := false
  hasNumbers := true

/-- The term of an operand; one that is none is complained about. -/
def readTerm (text : List Char) : Job (Option SequenceTerm) := do
  match sequenceTerm? text with
  | none => do
      misuse 1 ("invalid floating point argument: ".toList ++ (← quoted text))
      return none
  | some ⟨.nan _, _, _, _⟩ => do
      misuse 1 ("invalid ".toList ++ (← quoted "not-a-number".toList) ++ " argument: ".toList ++
        (← quoted text))
      return none
  | some term => return some term

/-- Writes a sequence in a form, or in the one that suits it. -/
def writeSequence (form? : Option SequenceForm) (isWide : Bool) (separator : List Char)
    (first step last : SequenceTerm) : Job Unit := do
  let isPlain := form?.isNone && !isWide && separator.length = 1
  let isWhole := [first, step].all fun t => t.places? == some 0 && t.value.isFinite
  let least := Rounded.finite false 0 0
  let isFast := isPlain && isWhole && last.places? == some 0 && !first.value.isNegative &&
    !(last.value.compare least == .lt) && step.value.compare least == .gt &&
    step.value.truncated ≤ 200
  let wholeOf (t : SequenceTerm) : Nat := t.digits?.getD t.value.truncated.toNat
  let width (t : SequenceTerm) : Nat := (writeNat (wholeOf t)).length + 1
  if isFast then
    let fuel := sequenceLimit / max (width first) 1
    let final := if last.value.isFinite then wholeOf last else Nat.pow 10 30
    emitSequence separator (integersFrom final (wholeOf step) fuel (wholeOf first))
  else
    let form := form?.getD (SequenceForm.ofTerms isWide first step last)
    let isEmpty :=
      if step.value.isNegative then first.value.compare last.value == .lt
      else last.value.compare first.value == .lt
    if !isEmpty then
      emitSequence separator
        (sequenceFrom form first.value step.value last.value (1 <<< 18) 1 first.value)

/-- Writes a sequence of numbers. -/
def runSeq : Tool := fun arguments =>
  withOptions seqForms 1 arguments fun given operands => do
    let isWide := isGiven given "w"
    let separator := (lastGiven? given "s").getD ['\n']
    let one : SequenceTerm := ⟨.ofInt .extended 1, 1, some 0, some 1⟩
    match operands with
    | [] => misuseMissing 1
    | _ :: _ :: _ :: extra :: _ => misuseExtra 1 extra
    | operands =>
        let form? ← match lastGiven? given "f" with
          | none => pure (some none)
          | some text =>
              match SequenceForm.read text with
              | .ok form => pure (some (some form))
              | .error words => do
                  failAs 1 ("format ".toList ++ (← quoted text) ++ words)
                  pure none
        let some form? := form? | return ()
        if form?.isSome && isWide then
          misuse 1 "format string may not be specified when printing equal width strings".toList
        else
          match operands with
          | [last] =>
              let some last ← readTerm last | return ()
              writeSequence form? isWide separator one one last
          | [first, last] =>
              let some first ← readTerm first | return ()
              let some last ← readTerm last | return ()
              writeSequence form? isWide separator first one last
          | [first, stepText, last] =>
              let some first ← readTerm first | return ()
              let some step ← readTerm stepText | return ()
              if step.value.isZero then
                misuse 1 ("invalid Zero increment value: ".toList ++ (← quoted stepText))
              else
                let some last ← readTerm last | return ()
                writeSequence form? isWide separator first step last
          | _ => return ()

/-! ## Factors -/

/-- The prime factors of a number that are not less than another one. -/
def factorsFrom : (fuel : Nat) → (least n : Nat) → List Nat
  | 0, _, n => [n]
  | fuel + 1, least, n =>
      if n < 2 then []
      else if n < least * least then [n]
      else if n % least = 0 then least :: factorsFrom fuel least (n / least)
      else factorsFrom fuel (if least = 2 then 3 else least + 2) n

/-- The prime factors of a number. -/
def factorsOf (n : Nat) : List Nat := factorsFrom (1 <<< 22) 2 n

/-- The factors of a number, each one once with its power. -/
def powersOf : List Nat → List (Nat × Nat)
  | [] => []
  | p :: rest =>
      match powersOf rest with
      | (q, k) :: others => if p = q then (q, k + 1) :: others else (p, 1) :: (q, k) :: others
      | [] => [(p, 1)]

/-- The options of `factor`. -/
def factorForms : OptionForms where
  letters := "h"
  words := [("exponents", .nothing, "h")]
  permutes := true

/-- Writes the factors of numbers. -/
def runFactor : Tool := fun arguments =>
  withOptions factorForms 1 arguments fun given operands => do
    let showsPowers := isGiven given "h"
    let words ← if operands.isEmpty then do
        let text ← readAllInputs []
        pure ((splitAtChar ' ' (text.map fun c => if isNumberBlank c then ' ' else c)).filter
          fun w => !w.isEmpty)
      else pure operands
    words.forM fun word => do
      let text := word.dropWhile (· == ' ')
      match plainNumber? text with
      | none => do
          complainAs ((← quoted word) ++ " is not a valid positive integer".toList)
          noteFailure
      | some n =>
          let factors := factorsOf n
          let texts :=
            if showsPowers then
              (powersOf factors).map fun (p, k) =>
                if k = 1 then writeNat p else writeNat p ++ '^' :: writeNat k
            else factors.map writeNat
          emit (writeNat n ++ ':' :: (texts.flatMap fun t => ' ' :: t) ++ ['\n'])

end DesiredState.Tools
