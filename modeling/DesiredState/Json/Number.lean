import DesiredState.Json.Value
import DesiredState.Number.Reading

/-!
# Numbers of JSON

An integer that fits 64 bits is read exactly.  Every other number is a binary64
number that is made in two roundings: the digits give an integer of 64 bits,
further digits being left out, and the nearest number to that integer is then
multiplied or divided by the nearest number to a power of ten.

## Main definitions

* `Significand` — the digits collected, and the exponent that goes with them.
* `Json.scale` — the number of an integer and an exponent.
* `Json.readNumber?` — the number of a text, and whether it is in range.
-/

namespace DesiredState

/-- The greatest integer of 64 bits. -/
def maxWord : Nat := (1 <<< 64) - 1

/-- The greatest exponent that is computed with. -/
def maxExponentWord : Nat := (1 <<< 31) - 1

/-- Digits collected in 64 bits, with the exponent of the last one. -/
structure Significand where
  value : Nat
  exponent : Int
  /-- Whether a digit was left out. -/
  isFull : Bool

namespace Significand

/-- One more digit of the whole part.  A digit left out raises the exponent. -/
def addWhole (s : Significand) (digit : Nat) : Significand :=
  if s.isFull || s.value * 10 + digit > maxWord then ⟨s.value, s.exponent + 1, true⟩
  else ⟨s.value * 10 + digit, s.exponent, false⟩

/-- One more digit of the fraction.  A digit left out changes nothing. -/
def addFraction (s : Significand) (digit : Nat) : Significand :=
  if s.isFull || s.value * 10 + digit > maxWord then ⟨s.value, s.exponent, true⟩
  else ⟨s.value * 10 + digit, s.exponent - 1, false⟩

/-- The digits of a whole part. -/
def ofWhole (digits : List Char) : Significand :=
  digits.foldl (fun s c => s.addWhole (c.toNat - 48)) ⟨0, 0, false⟩

/-- The digits of a whole part followed by those of a fraction. -/
def addFractionDigits (s : Significand) (digits : List Char) : Significand :=
  digits.foldl (fun s c => s.addFraction (c.toNat - 48)) { s with isFull := false }

end Significand

namespace Json

/-- The number times a power of ten; nothing if it is too great.  A great
negative exponent is taken in steps of 308, of which three leave zero. -/
def scale : Nat → Binary64 → Int → Option Binary64
  | 0, x, _ => some x
  | fuel + 1, x, exponent =>
      if exponent.natAbs ≤ 308 then
        if 0 ≤ exponent then
          let y := x.scaleUp exponent.natAbs
          if y.isInfinite then none else some y
        else some (x.scaleDown exponent.natAbs)
      else if x.same (.zero false) then some x
      else if 0 ≤ exponent then none
      else scale fuel (x.scaleDown 308) (exponent + 308)

/-- The parts of a number: sign, whole part, fraction if there is a point, and
exponent with its sign if there is a mark. -/
structure NumberParts where
  isNegative : Bool
  whole : List Char
  fraction : Option (List Char)
  exponent : Option (Bool × List Char)

/-- The exponent part of a number, which nothing may follow. -/
def splitExponent? : List Char → Option (Option (Bool × List Char))
  | [] => some none
  | c :: rest =>
      if c = 'e' ∨ c = 'E' then
        let (isNegative, digits) := splitSign rest
        if digits.isEmpty || !digits.all Char.isDigit then none
        else some (some (isNegative, digits))
      else none

/-- The parts of the text of a number: no leading zeros, and at least one digit
in each part that is there. -/
def splitNumber? (cs : List Char) : Option NumberParts :=
  let isNegative := cs.head? == some '-'
  let cs := if isNegative then cs.drop 1 else cs
  let whole := cs.takeWhile Char.isDigit
  if whole.isEmpty || (whole.head? == some '0' && whole.length != 1) then none
  else
    match cs.dropWhile Char.isDigit with
    | '.' :: rest =>
        let fraction := rest.takeWhile Char.isDigit
        if fraction.isEmpty then none
        else
          (splitExponent? (rest.dropWhile Char.isDigit)).map fun exponent =>
            ⟨isNegative, whole, some fraction, exponent⟩
    | rest =>
        (splitExponent? rest).map fun exponent => ⟨isNegative, whole, none, exponent⟩

/-- The magnitude of a number that is not an integer of 64 bits; nothing if it
is out of range. -/
def NumberParts.magnitude? (p : NumberParts) : Option Binary64 :=
  let s := Significand.ofWhole p.whole
  let s := match p.fraction with
    | some digits => s.addFractionDigits digits
    | none => s
  let start := Binary64.ofNat s.value
  match p.exponent with
  | none => scale 4 start s.exponent
  | some (isNegative, digits) =>
      let n := digitsValue digits
      if n > maxExponentWord then
        if s.value ≠ 0 && !isNegative then none else some (.zero false)
      else scale 4 start (if isNegative then s.exponent - n else s.exponent + n)

/-- The number of its parts: an integer if 64 bits hold it, and negative zero
is not an integer. -/
def NumberParts.value? (p : NumberParts) : Option Json :=
  let n := digitsValue p.whole
  let isInteger := p.fraction.isNone && p.exponent.isNone &&
    (if p.isNegative then n != 0 && n ≤ 1 <<< 63 else n ≤ maxWord)
  if isInteger then some (.int (if p.isNegative then -(n : Int) else n))
  else p.magnitude?.map fun x => .float (if p.isNegative then x.neg else x)

/-- The number of a text: nothing if the text is not a number, and no value if
the number is out of range. -/
def readNumber? (cs : List Char) : Option (Option Json) :=
  (splitNumber? cs).map NumberParts.value?

end Json

end DesiredState
