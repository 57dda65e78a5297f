import DesiredState.Number.Reading

/-!
# Integers at the start of a text

Blanks and a sign may stand in front of an integer, and anything behind it.

## Main definitions

* `LeadingInteger`, `leadingInteger?` — an integer, and what follows.
-/

namespace DesiredState

/-- An integer at the start of a text, and what follows. -/
structure LeadingInteger where
  isNegative : Bool
  magnitude : Nat
  rest : List Char
  deriving Repr

/-- The least integer of 64 bits with a sign. -/
def leastLong : Int := -9223372036854775808

/-- The greatest integer of 64 bits with a sign. -/
def greatestLong : Int := 9223372036854775807

/-- The greatest integer of 64 bits without a sign. -/
def greatestWord : Int := 18446744073709551615

/-- Whether a character is a blank in front of a number. -/
def isNumberBlank (c : Char) : Bool := c == ' ' || ('\t' ≤ c && c ≤ '\r')

/-- The unsigned integer at the start of a text, and what follows; without a base, the
digits tell it: hexadecimal behind `0x`, octal behind a zero, and decimal otherwise. -/
def leadingDigits? (base? : Option Nat) (cs : List Char) : Option (Nat × List Char) :=
  let digitsIn (base : Nat) (cs : List Char) : Option (Nat × List Char) :=
    let digits := cs.takeWhile fun c => (digitValue? base c).isSome
    (digitsValue? base digits).map fun n => (n, cs.drop digits.length)
  let hex? : Option (Nat × List Char) :=
    match cs with
    | '0' :: x :: rest => if x == 'x' || x == 'X' then digitsIn 16 rest else none
    | _ => none
  match base? with
  | some 16 => hex?.or (digitsIn 16 cs)
  | some base => digitsIn base cs
  | none => hex?.or (digitsIn (if cs.head? == some '0' then 8 else 10) cs)

/-- The integer at the start of a text in a base, or in the one that its digits
tell. -/
def leadingInteger? (base? : Option Nat) (cs : List Char) : Option LeadingInteger :=
  let (isNegative, unsigned) := splitSign (cs.dropWhile isNumberBlank)
  (leadingDigits? base? unsigned).map fun (n, rest) => ⟨isNegative, n, rest⟩

namespace LeadingInteger

/-- The integer. -/
def value (l : LeadingInteger) : Int := if l.isNegative then -(l.magnitude : Int) else l.magnitude

/-- The nearest integer of 64 bits. -/
def clamped (l : LeadingInteger) : Int := max leastLong (min l.value greatestLong)

/-- Whether it is not an integer of 64 bits. -/
def isOver (l : LeadingInteger) : Bool := l.clamped != l.value

end LeadingInteger

end DesiredState
