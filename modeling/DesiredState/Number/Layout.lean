import DesiredState.Number.Shortest

/-!
# Layout of floating-point numbers

How the digits of a binary64 number are written down: positionally when its
leading digit is within a range of places, otherwise with one digit before the
point and an exponent.  The choices a format makes are one `Layout` record.
A positional text always has a fraction, so it can not be taken for an
integer; an exponent has no leading zeros.

## Main definitions

* `Layout` — the choices of a format.
* `Layout.write` — the text of a number.
-/

namespace DesiredState

/-- The digits of a natural number, most significant first. -/
def writeNat (n : Nat) : List Char := Nat.toDigits 10 n

/-- The digits of an integer, behind a minus sign if it is negative. -/
def writeInt (i : Int) : List Char :=
  if i < 0 then '-' :: writeNat i.natAbs else writeNat i.natAbs

/-- How a format writes binary64 numbers. -/
structure Layout where
  /-- The least exponent of the leading digit that is written positionally. -/
  plainFrom : Int
  /-- The exponent of the leading digit from which on a number is no longer
  written positionally. -/
  plainBelow : Int
  /-- Which of two equally near shortest decimals is written. -/
  tie : Tie
  /-- Whether a positive exponent has a plus sign. -/
  hasPlus : Bool
  /-- The text of a number that is none. -/
  nan : String
  /-- The text of positive infinity. -/
  infinity : String
  /-- The text of negative infinity. -/
  negativeInfinity : String

namespace Layout

/-- A decimal with leading digit at the exponent `lead` without an exponent:
the point stands behind, inside or before its digits. -/
def plain (digits : List Char) (lead : Int) : List Char :=
  let point := lead + 1
  if (digits.length : Int) ≤ point then
    digits ++ List.replicate (point.toNat - digits.length) '0' ++ ['.', '0']
  else if 0 < point then
    digits.take point.toNat ++ '.' :: digits.drop point.toNat
  else
    '0' :: '.' :: (List.replicate (-point).toNat '0' ++ digits)

/-- A decimal with leading digit at the exponent `lead`, with an exponent. -/
def scientific (hasPlus : Bool) (digits : List Char) (lead : Int) : List Char :=
  let fraction := match digits.drop 1 with
    | [] => []
    | rest => '.' :: rest
  let sign := if hasPlus && 0 < lead then ['+'] else []
  digits.take 1 ++ fraction ++ 'e' :: sign ++ writeInt lead

/-- The text of the magnitude of a finite number. -/
def writeFinite (l : Layout) (mantissa : Nat) (exponent : Int) : List Char :=
  if mantissa = 0 then ['0', '.', '0']
  else
    let d := shortestDecimal l.tie mantissa exponent
    let digits := writeNat d.digits
    let lead := d.exponent + digits.length - 1
    if l.plainFrom ≤ lead ∧ lead < l.plainBelow then plain digits lead
    else scientific l.hasPlus digits lead

/-- The text of a number. -/
def write (l : Layout) : Binary64 → List Char
  | .nan => l.nan.toList
  | .infinite negative => (if negative then l.negativeInfinity else l.infinity).toList
  | .finite negative mantissa exponent _ =>
      (if negative then ['-'] else []) ++ l.writeFinite mantissa exponent

end Layout

end DesiredState
