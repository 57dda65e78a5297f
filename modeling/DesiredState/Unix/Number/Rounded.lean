import DesiredState.Number.Layout
import DesiredState.Number.Reading

/-!
# Rounded numbers

Programs compute with floating-point numbers of different precision.  Such a number is
kept as what it denotes, and is the exact value rounded once, to nearest with ties to
even.

## Main definitions

* `Precision`, `Rounded` — how many bits there are, and the numbers.
* `Rounded.ofQuotient`, `Rounded.ofDecimal` — the number nearest to an exact value.
* `Rounded.leading` — the number at the start of a text.
-/

namespace DesiredState

/-- How numbers are rounded: the bits of a full mantissa, and the exponents of the least
and the greatest of them. -/
structure Precision where
  bits : Nat
  leastExponent : Int
  greatestExponent : Int
  deriving DecidableEq, Repr

/-- Numbers of 53 bits. -/
def Precision.double : Precision := ⟨53, -1074, 971⟩

/-- Numbers of 64 bits. -/
def Precision.extended : Precision := ⟨64, -16445, 16320⟩

/-- A number of floating point. -/
inductive Rounded where
  | nan (isNegative : Bool)
  | infinite (isNegative : Bool)
  /-- The number `± mantissa · 2 ^ exponent`. -/
  | finite (isNegative : Bool) (mantissa : Nat) (exponent : Int)
  deriving DecidableEq, Repr, Inhabited

namespace Rounded

/-- Whether a sign stands in front of a number. -/
def isNegative : Rounded → Bool
  | nan b | infinite b | finite b _ _ => b

/-- Whether a number is zero. -/
def isZero : Rounded → Bool
  | finite _ m _ => m == 0
  | _ => false

/-- Whether a number is neither infinite nor none. -/
def isFinite : Rounded → Bool
  | finite _ _ _ => true
  | _ => false

/-- The number nearest to `num / den`, of the even one of two equally near. -/
def ofQuotient (p : Precision) (isNegative : Bool) (num den : Nat) : Rounded :=
  if num = 0 then .finite isNegative 0 p.leastExponent
  else
    let estimate : Int := (num.log2 : Int) - (den.log2 : Int) - (p.bits - 1 : Nat)
    let exact :=
      if (Binary64.unitsOf num den estimate).1 < 1 <<< (p.bits - 1) then estimate - 1 else estimate
    let exponent := max p.leastExponent exact
    let (units, rest, den) := Binary64.unitsOf num den exponent
    let mantissa :=
      if 2 * rest < den then units
      else if den < 2 * rest then units + 1
      else if units % 2 = 0 then units else units + 1
    let (mantissa, exponent) :=
      if mantissa = 1 <<< p.bits then (1 <<< (p.bits - 1), exponent + 1) else (mantissa, exponent)
    if p.greatestExponent < exponent then .infinite isNegative
    else .finite isNegative mantissa exponent

/-- The exact magnitude of a finite number as a quotient. -/
def magnitude : Rounded → Nat × Nat
  | finite _ m e => Binary64.quotientOf m e
  | _ => (0, 1)

/-- The number nearest to another one. -/
def roundTo (p : Precision) (x : Rounded) : Rounded :=
  match x with
  | finite b _ _ => ofQuotient p b x.magnitude.1 x.magnitude.2
  | x => x

/-- The number nearest to `± digits · 10 ^ exponent`. -/
def ofDecimal (p : Precision) (isNegative : Bool) (digits : Nat) (exponent : Int) : Rounded :=
  if digits = 0 then .finite isNegative 0 p.leastExponent
  else
    let magnitude : Int := exponent + digits.log2 / 3
    if exponent > 5000 then .infinite isNegative
    else if magnitude < -10000 then .finite isNegative 0 p.leastExponent
    else if exponent < 0 then ofQuotient p isNegative digits (Nat.pow 10 exponent.natAbs)
    else ofQuotient p isNegative (digits * Nat.pow 10 exponent.natAbs) 1

/-- The number nearest to an integer. -/
def ofInt (p : Precision) (i : Int) : Rounded := ofQuotient p (decide (i < 0)) i.natAbs 1

/-- The integer that is left of a finite number without its fraction. -/
def truncated : Rounded → Int
  | finite b m e =>
      let n : Nat := if e < 0 then m >>> e.natAbs else m <<< e.natAbs
      if b then -(n : Int) else n
  | _ => 0

/-- Whether a number is an integer. -/
def isInteger : Rounded → Bool
  | finite _ m e => decide (0 ≤ e) || (m >>> e.natAbs) <<< e.natAbs == m
  | _ => false

/-- Compares two numbers that are some. -/
def compare : Rounded → Rounded → Ordering
  | .finite a m e, .finite b n f =>
      let least := min e f
      let x : Int := (m <<< (e - least).toNat : Nat)
      let y : Int := (n <<< (f - least).toNat : Nat)
      Ord.compare (if a then -x else x) (if b then -y else y)
  | .infinite a, .infinite b => if a == b then .eq else if a then .lt else .gt
  | .infinite a, _ => if a then .lt else .gt
  | _, .infinite b => if b then .gt else .lt
  | _, _ => .eq

/-! ## Arithmetic -/

/-- A finite number as an integer of units of a power of two. -/
private def unitsAt (least : Int) (isNegative : Bool) (m : Nat) (e : Int) : Int :=
  let k : Int := (m <<< (e - least).toNat : Nat)
  if isNegative then -k else k

/-- The sum of two numbers. -/
def add (p : Precision) : Rounded → Rounded → Rounded
  | .finite a m e, .finite b n f =>
      let least := min e f
      let sum := unitsAt least a m e + unitsAt least b n f
      if sum = 0 then .finite (a && b) 0 p.leastExponent
      else roundTo p (.finite (decide (sum < 0)) sum.natAbs least)
  | .infinite a, .infinite b => if a == b then .infinite a else .nan true
  | .nan a, _ => .nan a
  | _, .nan b => .nan b
  | .infinite a, _ => .infinite a
  | _, .infinite b => .infinite b

/-- The number of opposite sign. -/
def negate : Rounded → Rounded
  | .nan b => .nan !b
  | .infinite b => .infinite !b
  | .finite b m e => .finite (!b) m e

/-- The product of two numbers. -/
def multiply (p : Precision) : Rounded → Rounded → Rounded
  | .finite a m e, .finite b n f => roundTo p (.finite (a != b) (m * n) (e + f))
  | .nan a, _ => .nan a
  | _, .nan b => .nan b
  | x, y =>
      if x.isZero || y.isZero then .nan true else .infinite (x.isNegative != y.isNegative)

/-! ## Reading -/

/-- A number at the start of a text, and what follows. -/
structure Leading where
  value : Rounded
  rest : List Char

/-- The exponent behind a letter in either case, if one follows; else all is left. -/
private def leadingExponent (letter : Char) (cs : List Char) : Int × List Char :=
  match cs with
  | c :: rest =>
      if c.toLower = letter then
        let (isNegative, digits) := splitSign rest
        let taken := digits.takeWhile Char.isDigit
        if taken.isEmpty then (0, cs)
        else
          let n : Int := digitsValue taken
          (if isNegative then -n else n, digits.drop taken.length)
      else (0, cs)
  | [] => (0, cs)

/-- Digits with a point or without: those in front, those behind, and what follows. -/
private def leadingDigits (isDigit : Char → Bool) (cs : List Char) :
    List Char × List Char × List Char :=
  let whole := cs.takeWhile isDigit
  match cs.drop whole.length with
  | '.' :: rest => (whole, rest.takeWhile isDigit, rest.dropWhile isDigit)
  | rest => (whole, [], rest)

/-- Whether a text starts with a word in either case. -/
private def startsWithWord (word : String) (cs : List Char) : Bool :=
  (cs.take word.length).map Char.toLower == word.toList

/-- The unsigned number at the start of a text. -/
private def leadingMagnitude? (p : Precision) (isNegative : Bool) (cs : List Char) :
    Option Leading :=
  let decimal? : Option Leading :=
    let (whole, fraction, rest) := leadingDigits Char.isDigit cs
    if whole.isEmpty && fraction.isEmpty then none
    else
      let (exponent, rest) := leadingExponent 'e' rest
      let value := ofDecimal p isNegative (digitsValue (whole ++ fraction))
        (exponent - fraction.length)
      some ⟨value, rest⟩
  if startsWithWord "infinity" cs then some ⟨.infinite isNegative, cs.drop 8⟩
  else if startsWithWord "inf" cs then some ⟨.infinite isNegative, cs.drop 3⟩
  else if startsWithWord "nan" cs then
    let rest := cs.drop 3
    let inside := (rest.drop 1).takeWhile fun c => c.isAlphanum || c == '_'
    let hasWord := rest.head? == some '(' && rest[inside.length + 1]? == some ')'
    some ⟨.nan isNegative, if hasWord then rest.drop (inside.length + 2) else rest⟩
  else
    match cs with
    | '0' :: x :: rest =>
        let isHex (c : Char) : Bool := (digitValue? 16 c).isSome
        let (whole, fraction, rest) := leadingDigits isHex rest
        if x.toLower = 'x' && !(whole.isEmpty && fraction.isEmpty) then
          let (exponent, rest) := leadingExponent 'p' rest
          let digits := (digitsValue? 16 (whole ++ fraction)).getD 0
          let power := exponent - 4 * fraction.length
          let value :=
            if digits = 0 then .finite isNegative 0 p.leastExponent
            else if 20000 < power then .infinite isNegative
            else if power < -40000 then .finite isNegative 0 p.leastExponent
            else roundTo p (.finite isNegative digits power)
          some ⟨value, rest⟩
        else decimal?
    | _ => decimal?

/-- The number at the start of a text behind blanks: with a sign or without, decimal or
hexadecimal, or the name of one that is not finite. -/
def leading? (p : Precision) (cs : List Char) : Option Leading :=
  let isBlank (c : Char) : Bool := c == ' ' || ('\t' ≤ c && c ≤ '\r')
  let (isNegative, unsigned) := splitSign (cs.dropWhile isBlank)
  leadingMagnitude? p isNegative unsigned

/-- The number that a text spells as a whole. -/
def read? (p : Precision) (cs : List Char) : Option Rounded :=
  match leading? p cs with
  | some ⟨value, []⟩ => some value
  | _ => none

/-! ## Conversion -/

/-- A number of 53 bits as the machine has it. -/
def toFloat : Rounded → Float
  | .nan _ => 0.0 / 0.0
  | .infinite b => if b then -1.0 / 0.0 else 1.0 / 0.0
  | x =>
      match roundTo .double x with
      | .finite b m e =>
          let sign : Nat := if b then 1 <<< 63 else 0
          let low := m % (1 <<< 52)
          let field := if m < 1 <<< 52 then 0 else (e + 1075).toNat
          Float.ofBits (sign + field * (1 <<< 52) + low).toUInt64
      | .infinite b => if b then -1.0 / 0.0 else 1.0 / 0.0
      | .nan _ => 0.0 / 0.0

/-- A number as the machine has it. -/
def ofFloat (x : Float) : Rounded :=
  let bits := x.toBits.toNat
  let isNegative := 1 <<< 63 ≤ bits
  let field : Nat := bits / (1 <<< 52) % (1 <<< 11)
  let low := bits % (1 <<< 52)
  if field = 2047 then if low = 0 then .infinite isNegative else .nan isNegative
  else if field = 0 then .finite isNegative low (-1074)
  else .finite isNegative (low + (1 <<< 52)) ((field : Int) - 1075)

end Rounded

end DesiredState
