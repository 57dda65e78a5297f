import DesiredState.Number.Binary64

/-!
# Reading numbers

The grammars of the numbers that documents and answers hold, over lists of
characters.  Reading a decimal is exact: digits and exponent are collected as
integers and rounded once.

## Main definitions

* `digitsValue?` — a non-empty digit string in a base.
* `Binary64.parse?` — a decimal number with optional sign, fraction and
  exponent, or one of the names of the special values.
-/

namespace DesiredState

/-- The value of a digit in a base of at most 36, letters in either case. -/
def digitValue? (base : Nat) (c : Char) : Option Nat :=
  let n := c.toNat
  let value? :=
    if '0' ≤ c ∧ c ≤ '9' then some (n - 48)
    else if 'a' ≤ c ∧ c ≤ 'z' then some (n - 87)
    else if 'A' ≤ c ∧ c ≤ 'Z' then some (n - 55)
    else none
  value?.filter (· < base)

/-- The value of digits in a base, appended to those already read. -/
def digitsFrom? (base : Nat) : Nat → List Char → Option Nat
  | acc, [] => some acc
  | acc, c :: rest =>
      match digitValue? base c with
      | some d => digitsFrom? base (acc * base + d) rest
      | none => none

/-- The value of a non-empty string of digits in a base. -/
def digitsValue? (base : Nat) : List Char → Option Nat
  | [] => none
  | cs => digitsFrom? base 0 cs

/-- The value of decimal digits; other characters count as zero. -/
def digitsValue (cs : List Char) : Nat :=
  cs.foldl (fun acc c => acc * 10 + (c.toNat - 48)) 0

/-- An optional sign in front of a text: whether it is a minus, and the rest. -/
def splitSign : List Char → Bool × List Char
  | '-' :: rest => (true, rest)
  | '+' :: rest => (false, rest)
  | cs => (false, cs)

namespace Binary64

/-- The exponent part of a decimal, empty or `e` with an optional sign and at
least one digit. -/
def readExponent? : List Char → Option Int
  | [] => some 0
  | c :: rest =>
      if c = 'e' ∨ c = 'E' then
        let (negative, digits) := splitSign rest
        (digitsValue? 10 digits).map fun n => if negative then -(n : Int) else n
      else none

/-- An unsigned decimal with at least one digit, a fraction or none, and an
exponent or none, rounded to the nearest number. -/
def readDecimal? (negative : Bool) (cs : List Char) : Option Binary64 :=
  let whole := cs.takeWhile Char.isDigit
  let rest := cs.dropWhile Char.isDigit
  let (fraction, rest) :=
    match rest with
    | '.' :: rest => (rest.takeWhile Char.isDigit, rest.dropWhile Char.isDigit)
    | rest => ([], rest)
  if whole.isEmpty && fraction.isEmpty then none
  else
    (readExponent? rest).map fun exponent =>
      ofDecimal negative (digitsValue (whole ++ fraction)) (exponent - fraction.length)

/-- A number with an optional sign: a decimal, or `inf`, `infinity` or `nan` in
any case. -/
def parse? (text : List Char) : Option Binary64 :=
  let (negative, cs) := splitSign text
  match String.ofList (cs.map Char.toLower) with
  | "inf" | "infinity" => some (.infinite negative)
  | "nan" => some .nan
  | _ => readDecimal? negative cs

end Binary64

end DesiredState
