import DesiredState.Unix.Number.Rounded

/-!
# Conversions of a format

A conversion says how a text or a number is written: in which form, how wide at least,
and with how many digits.  Numbers are written from their exact value, and a half goes
to the even neighbour.

## Main definitions

* `Conversion` — how something is written.
* `Conversion.pad`, `Conversion.writeInteger`, `Conversion.writeReal` — texts, integers
  and other numbers.
-/

namespace DesiredState

/-- How something is written. -/
structure Conversion where
  flags : List Char
  width : Nat
  precision? : Option Nat
  kind : Char
  deriving Repr

/-- The integer nearest to a quotient, of the even one of two equally near. -/
def roundedQuotient (num den : Nat) : Nat :=
  let quotient := num / den
  let twice := 2 * (num % den)
  if twice > den || (twice == den && quotient % 2 == 1) then quotient + 1 else quotient

/-- The digits of a number, with zeros in front up to a length. -/
def digitsOfLength (n length : Nat) : List Char :=
  let digits := writeNat n
  List.replicate (length - digits.length) '0' ++ digits

/-- Digits without the zeros at their end. -/
def dropLastZeros (cs : List Char) : List Char := (cs.reverse.dropWhile (· == '0')).reverse

namespace Conversion

/-- The conversion of a kind without more. -/
def plain (kind : Char) : Conversion := ⟨[], 0, none, kind⟩

/-- A text filled up to the width. -/
def pad (c : Conversion) (cs : List Char) : List Char :=
  let fill := List.replicate (c.width - cs.length) ' '
  if c.flags.contains '-' then cs ++ fill else fill ++ cs

/-- A number filled up to the width, with zeros behind what stands in front of its
digits if a flag says so. -/
def padNumber (c : Conversion) (front digits : List Char) : List Char :=
  if c.flags.contains '0' && !c.flags.contains '-' then
    front ++ List.replicate (c.width - front.length - digits.length) '0' ++ digits
  else c.pad (front ++ digits)

/-- A text cut to the precision, and filled up to the width. -/
def writeText (c : Conversion) (cs : List Char) : List Char :=
  c.pad (match c.precision? with
    | some n => cs.take n
    | none => cs)

/-- What stands in front of the digits of a number that has a sign. -/
def sign (c : Conversion) (isNegative : Bool) : List Char :=
  if isNegative then ['-']
  else if c.flags.contains '+' then ['+']
  else if c.flags.contains ' ' then [' ']
  else []

/-- Digits, at least as many as the precision says, in front of which a number is
filled up. -/
def writeDigits (c : Conversion) (front digits : List Char) : List Char :=
  match c.precision? with
  | some n =>
      let digits := if n = 0 && digits = ['0'] then [] else digits
      c.pad (front ++ List.replicate (n - digits.length) '0' ++ digits)
  | none => c.padNumber front digits

/-- An integer; without a sign it is one of 64 bits. -/
def writeInteger (c : Conversion) (i : Int) : List Char :=
  let unsigned := (BitVec.ofInt 64 i).toNat
  let mark (text : String) : List Char :=
    if c.flags.contains '#' && unsigned != 0 then text.toList else []
  match c.kind with
  | 'x' => c.writeDigits (mark "0x") (Nat.toDigits 16 unsigned)
  | 'X' => c.writeDigits (mark "0X") ((Nat.toDigits 16 unsigned).map Char.toUpper)
  | 'o' =>
      let digits := Nat.toDigits 8 unsigned
      let least := if c.flags.contains '#' && unsigned != 0 then digits.length + 1 else 0
      match c.precision? with
      | some n =>
          let isMarked := c.flags.contains '#' && n = 0 && unsigned = 0
          { c with precision? := some (if isMarked then 1 else max n least) }.writeDigits [] digits
      | none => c.writeDigits [] (List.replicate (least - digits.length) '0' ++ digits)
  | 'u' => c.writeDigits [] (writeNat unsigned)
  | _ => c.writeDigits (c.sign (decide (i < 0))) (writeNat i.natAbs)

/-! ## Numbers with a fraction -/

/-- The point and what stands behind it. -/
def behindPoint (c : Conversion) (digits : List Char) : List Char :=
  if digits.isEmpty then (if c.flags.contains '#' then ['.'] else []) else '.' :: digits

/-- The digits of a magnitude with a fixed count of decimal places: in front of the
point and behind it. -/
def fixedDigits (places : Nat) (num den : Nat) : List Char × List Char :=
  let rounded := roundedQuotient (num * Nat.pow 10 places) den
  (writeNat (rounded / Nat.pow 10 places),
    if places = 0 then [] else digitsOfLength (rounded % Nat.pow 10 places) places)

/-- The exponent of the leading decimal digit of a quotient that is not zero. -/
def leadOf (num den : Nat) : Int :=
  let estimate : Int := ((num.log2 : Int) - (den.log2 : Int)) * 30103 / 100000
  let isBelow (lead : Int) : Bool :=
    if lead < 0 then decide (num * Nat.pow 10 lead.natAbs < den)
    else decide (num < den * Nat.pow 10 lead.natAbs)
  if isBelow (estimate - 1) then estimate - 2
  else if isBelow estimate then estimate - 1
  else if isBelow (estimate + 1) then estimate
  else if isBelow (estimate + 2) then estimate + 1
  else estimate + 2

/-- So many significant digits of a magnitude, and the exponent of the first one. -/
def significantDigits (count : Nat) (num den : Nat) : List Char × Int :=
  if num = 0 then (List.replicate count '0', 0)
  else
    let lead := leadOf num den
    let shift := (count : Int) - 1 - lead
    let rounded :=
      if shift < 0 then roundedQuotient num (den * Nat.pow 10 shift.natAbs)
      else roundedQuotient (num * Nat.pow 10 shift.natAbs) den
    let digits := writeNat rounded
    if count < digits.length then (digits.take count, lead + 1) else (digits, lead)

/-- An exponent with a sign and two digits or more. -/
def writeExponent (letter : Char) (e : Int) : List Char :=
  letter :: (if e < 0 then '-' else '+') :: digitsOfLength e.natAbs 2

/-- Hexadecimal digits of a magnitude: the first one, those behind the point, and the
exponent of two. -/
def hexDigits (c : Conversion) (leadBits : Nat) (p : Precision) (m : Nat) (e : Int) :
    List Char × List Char × Int :=
  let width := p.bits - leadBits
  let lowDigits := (width + 3) / 4
  let m := m * (1 <<< (4 * lowDigits - width))
  let lead := m / (1 <<< (4 * lowDigits))
  let low := m % (1 <<< (4 * lowDigits))
  let exponent := if m = 0 then 0 else e + (width : Int)
  let digitsOf (n length : Nat) : List Char :=
    let digits := Nat.toDigits 16 n
    if length = 0 then [] else List.replicate (length - digits.length) '0' ++ digits
  match c.precision? with
  | none => ([(Nat.toDigits 16 lead).headD '0'], dropLastZeros (digitsOf low lowDigits), exponent)
  | some n =>
      if lowDigits ≤ n then
        (Nat.toDigits 16 lead,
          digitsOf low lowDigits ++ List.replicate (n - lowDigits) '0', exponent)
      else
        let rounded := roundedQuotient m (1 <<< (4 * (lowDigits - n)))
        (Nat.toDigits 16 (rounded / Nat.pow 16 n), digitsOf (rounded % Nat.pow 16 n) n, exponent)

/-- The unsigned text of a finite number in the form of a kind in lower case. -/
def writeMagnitude (c : Conversion) (p : Precision) (kind : Char) (x : Rounded) : List Char :=
  let (num, den) := x.magnitude
  let scientific (digits : List Char) (lead : Int) : List Char :=
    digits.take 1 ++ c.behindPoint (digits.drop 1) ++ writeExponent 'e' lead
  match kind with
  | 'f' =>
      let (whole, fraction) := fixedDigits (c.precision?.getD 6) num den
      whole ++ c.behindPoint fraction
  | 'e' =>
      let (digits, lead) := significantDigits (c.precision?.getD 6 + 1) num den
      scientific digits lead
  | 'a' =>
      match x with
      | .finite _ m e =>
          let (lead, low, exponent) := c.hexDigits (if p.bits = 53 then 1 else 4) p m e
          lead ++ c.behindPoint low ++ 'p' :: (if exponent < 0 then '-' else '+') ::
            writeNat exponent.natAbs
      | _ => []
  | _ =>
      let count := max 1 (c.precision?.getD 6)
      let (digits, lead) := significantDigits count num den
      let keep (ds : List Char) : List Char :=
        if c.flags.contains '#' then ds else dropLastZeros ds
      if -4 ≤ lead && lead < count then
        if lead < 0 then
          '0' :: c.behindPoint (keep (List.replicate (lead.natAbs - 1) '0' ++ digits))
        else
          let whole := lead.toNat + 1
          digits.take whole ++ c.behindPoint (keep (digits.drop whole))
      else scientific (digits.take 1 ++ keep (digits.drop 1)) lead

/-- A number in decimal or hexadecimal form, with an exponent or without. -/
def writeReal (c : Conversion) (p : Precision) (x : Rounded) : List Char :=
  let kind := c.kind.toLower
  let cased (cs : List Char) : List Char := if c.kind.isUpper then cs.map Char.toUpper else cs
  match x with
  | .nan b => c.pad (cased (c.sign b ++ "nan".toList))
  | .infinite b => c.pad (cased (c.sign b ++ "inf".toList))
  | .finite b _ _ =>
      let front := c.sign b ++ (if kind = 'a' then "0x".toList else [])
      cased (c.padNumber front (c.writeMagnitude p kind x))

end Conversion

end DesiredState
