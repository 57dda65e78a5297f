import DesiredState.Unix.Number.Conversion
import DesiredState.Unix.Number.Leading

/-!
# Values of the record language

A value is a number or a text, and each is taken for the other where that is asked for.  A
text that was read and looks like a number is both, and one that nobody set is neither.

## Main definitions

* `Value` — numbers, texts, and what is both.
* `Value.ofInput` — a text that was read.
* `numberOfText`, `textOfNumber` — one taken for the other.
* `Value.compare`, `Value.isTrue` — what conditions ask for.
-/

namespace DesiredState.Tools.Awk

/-- A value. -/
inductive Value where
  | unset
  | number (x : Rounded)
  | text (cs : List Char)
  /-- A text that was read, and the number that it looks like. -/
  | both (cs : List Char) (x : Rounded)
  deriving Inhabited

/-! ## Numbers -/

/-- The number of an integer. -/
def numberOf (i : Int) : Rounded := .ofInt .double i

/-- The number zero. -/
def zero : Rounded := .finite false 0 (-1074)

/-- Whether a number is none. -/
def isNan : Rounded → Bool
  | .nan _ => true
  | _ => false

/-- The value of a condition. -/
def Value.ofBool (b : Bool) : Value := .number (if b then numberOf 1 else zero)

/-- The value of a count. -/
def Value.ofNat (n : Nat) : Value := .number (numberOf n)

/-- The quotient of two numbers. -/
def divide (x y : Rounded) : Rounded :=
  let sign := x.isNegative != y.isNegative
  match x, y with
  | .nan b, _ => .nan b
  | _, .nan b => .nan b
  | .infinite _, .infinite _ => .nan true
  | .infinite _, _ => .infinite sign
  | _, .infinite _ => .finite sign 0 (-1074)
  | x, y =>
      if y.isZero then if x.isZero then .nan true else .infinite sign
      else
        let (a, b) := x.magnitude
        let (c, d) := y.magnitude
        .ofQuotient .double sign (a * d) (b * c)

/-- What is left of a number when another one is taken away from it as often as possible. -/
def remainder (x y : Rounded) : Rounded :=
  match x, y with
  | .nan b, _ => .nan b
  | _, .nan b => .nan b
  | .infinite _, _ => .nan true
  | x, .infinite _ => x
  | x, y =>
      if y.isZero then .nan true
      else
        let (a, b) := x.magnitude
        let (c, d) := y.magnitude
        .ofQuotient .double x.isNegative (a * d % (c * b)) (b * d)

/-- A power of a number. -/
def power (x y : Rounded) : Rounded :=
  match Rounded.ofFloat (x.toFloat.pow y.toFloat) with
  | .nan _ => .nan true
  | z => z

/-- A function of the machine on a number; where it has no value, the number that is none
has a sign. -/
def applyFloat (f : Float → Float) (x : Rounded) : Rounded :=
  match x, Rounded.ofFloat (f x.toFloat) with
  | .nan b, _ => .nan b
  | _, .nan _ => .nan true
  | _, y => y

/-- A number without its fraction. -/
def integral (x : Rounded) : Rounded :=
  if x.isFinite then
    match numberOf x.truncated with
    | .finite _ m e => .finite x.isNegative m e
    | y => y
  else x

/-- The integer of a number without its fraction, at most the greatest one of 64 bits. -/
def clampedInteger (x : Rounded) : Int :=
  match x with
  | .nan _ => leastLong
  | .infinite b => if b then -greatestLong else greatestLong
  | x =>
      let n := x.truncated
      if greatestLong < n then greatestLong else if n < leastLong then -greatestLong else n

/-- The integer of a number that is written without a sign. -/
def unsignedInteger (x : Rounded) : Int :=
  match x with
  | .infinite false => greatestWord
  | .finite _ _ _ =>
      let n := x.truncated
      if greatestWord < n then greatestWord
      else if n < leastLong then -leastLong
      else n % (greatestWord + 1)
  | _ => -leastLong

/-! ## Numbers and texts -/

/-- Whether a letter is a blank in front of a number or behind it. -/
def isSpace (c : Char) : Bool := c == ' ' || ('\t' ≤ c && c ≤ '\r')

/-- The number at the start of a text, zero if there is none. -/
def numberOfText (cs : List Char) : Rounded :=
  match Rounded.leading? .double cs with
  | some l => l.value
  | none => zero

/-- The value of a text that was read. -/
def Value.ofInput (cs : List Char) : Value :=
  let front := cs.dropWhile isSpace
  let core := (front.reverse.dropWhile isSpace).reverse
  let starts := match core.head? with
    | some c => c.isDigit || c == '+' || c == '-' || c == '.'
    | none => false
  let ends := match core.getLast? with
    | some c => c.isDigit || c == '.'
    | none => false
  if starts && ends then
    match Rounded.leading? .double core with
    | some ⟨x, []⟩ => if x.isFinite then .both cs x else .text cs
    | _ => .text cs
  else .text cs

/-- The text of an integer, if a number is one that is written as such. -/
def integerText? (x : Rounded) : Option (List Char) :=
  if x.isInteger then
    let n := x.truncated
    if leastLong ≤ n && n ≤ greatestWord + 1 then some (writeInt (min n greatestWord)) else none
  else none

/-- The conversion that a format starts with, and the texts in front of it and behind it. -/
def firstConversion (cs : List Char) : List Char × Conversion × List Char :=
  let front := cs.takeWhile (· != '%')
  let body := (cs.drop front.length).drop 1
  let flags := body.takeWhile "-+ #0".toList.contains
  let body := body.drop flags.length
  let width := body.takeWhile Char.isDigit
  let body := body.drop width.length
  let (precision?, body) := match body with
    | '.' :: rest =>
        let digits := rest.takeWhile Char.isDigit
        (some (digitsValue digits), rest.drop digits.length)
    | rest => (none, rest)
  (front, ⟨flags, digitsValue width, precision?, body.headD 'g'⟩, body.drop 1)

/-- A number in a format. -/
def formattedNumber (format : List Char) (x : Rounded) : List Char :=
  if format = "%.6g".toList then (⟨[], 0, some 6, 'g'⟩ : Conversion).writeReal .double x
  else
    let (front, c, rest) := firstConversion format
    let middle :=
      if "diouxX".toList.contains c.kind then c.writeInteger (clampedInteger x)
      else if "eEfFgG".toList.contains c.kind then c.writeReal .double x
      else []
    front ++ middle ++ rest

/-- The text of a number: an integer has all its digits, and others are as a format says. -/
def textOfNumber (format : List Char) (x : Rounded) : List Char :=
  (integerText? x).getD (formattedNumber format x)

namespace Value

/-- The number that a value is taken for. -/
def toNumber : Value → Rounded
  | unset => zero
  | number x => x
  | text cs => numberOfText cs
  | both _ x => x

/-- The text that a value is taken for, with numbers as a format says. -/
def toText (format : List Char) : Value → List Char
  | unset => []
  | number x => textOfNumber format x
  | text cs | both cs _ => cs

/-- Whether a value holds as a condition. -/
def isTrue : Value → Bool
  | unset => false
  | number x | both _ x => !x.isZero
  | text cs => !cs.isEmpty

/-- The order of two texts. -/
def compareTexts : List Char → List Char → Ordering
  | [], [] => .eq
  | [], _ => .lt
  | _, [] => .gt
  | a :: as, b :: bs => (Ord.compare a.toNat b.toNat).then (compareTexts as bs)

/-- The number of a value that is no text. -/
def number? : Value → Option Rounded
  | unset => some zero
  | number x | both _ x => some x
  | text _ => none

/-- The order of two values: that of numbers if both are some, else that of texts. -/
def compare (format : List Char) (a b : Value) : Ordering :=
  match a.number?, b.number? with
  | some x, some y => if isNan x || isNan y then .eq else x.compare y
  | _, _ => compareTexts (a.toText format) (b.toText format)

/-- The text under which a value is looked up in a table. -/
def toKey (format : List Char) : Value → List Char
  | number x =>
      if x.isInteger && x.truncated.natAbs ≤ 1 <<< 63 then writeInt (clampedInteger x)
      else formattedNumber format x
  | v => v.toText format

end Value

end DesiredState.Tools.Awk
