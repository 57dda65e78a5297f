import DesiredState.Unix.Tools.Awk.Machine

/-!
# Formats of the record language

A format is a text with conversions, each of which takes the next value, and one more for a
width or a precision that is a star.

## Main definitions

* `FormatPart`, `readFormat` — the parts of a format.
* `FormatFault` — why values can not be written.
* `formatValues` — values in a format.
-/

namespace DesiredState.Tools.Awk

/-- A width or a precision. -/
inductive Extent where
  | fixed (n : Nat)
  /-- A value says it. -/
  | taken

/-- A part of a format. -/
inductive FormatPart where
  | text (cs : List Char)
  | conversion (flags : List Char) (width? precision? : Option Extent) (kind? : Option Char)

/-- Why values can not be written. -/
inductive FormatFault where
  | tooFew
  /-- The conversion of a number is none. -/
  | improper (number : Nat)

/-- What is said about a fault. -/
def FormatFault.message (name format : List Char) : FormatFault → List Char
  | tooFew =>
      "not enough arguments passed to ".toList ++ name ++ "(\"".toList ++ format ++ "\")".toList
  | improper n =>
      "improper conversion(number ".toList ++ writeNat n ++ ") in ".toList ++ name ++
        "(\"".toList ++ format ++ "\")".toList

/-- The extent at the start of a text, if there is one, and what follows. -/
def readExtent (cs : List Char) : Option Extent × List Char :=
  match cs with
  | '*' :: rest => (some .taken, rest)
  | cs =>
      let digits := cs.takeWhile Char.isDigit
      (if digits.isEmpty then none else some (.fixed (digitsValue digits)), cs.drop digits.length)

/-- The parts of a format, which ends at the character of number zero. -/
def readFormat : (fuel : Nat) → List Char → List FormatPart
  | 0, _ => []
  | fuel + 1, cs =>
      match cs with
      | [] | '\x00' :: _ => []
      | '%' :: '%' :: rest => .text ['%'] :: readFormat fuel rest
      | '%' :: rest =>
          let flags := rest.takeWhile "-+ #0".toList.contains
          let (width?, rest) := readExtent (rest.drop flags.length)
          let (precision?, rest) := match rest with
            | '.' :: rest =>
                let (extent?, rest) := readExtent rest
                (some (extent?.getD (.fixed 0)), rest)
            | rest => (none, rest)
          let rest := match rest with
            | c :: more => if c = 'l' || c = 'h' then more else rest
            | [] => []
          .conversion flags width? precision? rest.head? :: readFormat fuel (rest.drop 1)
      | cs =>
          let front := cs.takeWhile fun c => c != '%' && c != '\x00'
          .text front :: readFormat fuel (cs.drop front.length)

/-- The next value, and the others. -/
def takeValue (values : List Value) : Except FormatFault (Value × List Value) :=
  match values with
  | v :: rest => .ok (v, rest)
  | [] => .error .tooFew

/-- The integer that an extent says, and the values that are left. -/
def takeExtent (extent? : Option Extent) (values : List Value) :
    Except FormatFault (Option Int × List Value) := do
  match extent? with
  | none => pure (none, values)
  | some (.fixed n) => pure (some n, values)
  | some .taken =>
      let (v, values) ← takeValue values
      pure (some (clampedInteger v.toNumber), values)

/-- A value in a conversion. -/
def convertedValue? (format : List Char) (c : Conversion) (v : Value) : Option (List Char) :=
  let x := v.toNumber
  match c.kind with
  | 's' => some (c.writeText (v.toText format))
  | 'c' =>
      let letter := match v with
        | .number y | .both _ y => Char.ofNat (unsignedInteger y % 256).toNat
        | v => (v.toText format).headD '\x00'
      some (c.pad [letter])
  | 'i' => some (c.writeInteger (clampedInteger x))
  | 'd' =>
      let isGreat := match x with
        | .infinite b => !b
        | x => greatestLong < x.truncated
      if isGreat then some ({ c with kind := 'u' }.writeInteger (unsignedInteger x))
      else some (c.writeInteger (clampedInteger x))
  | 'o' | 'u' | 'x' | 'X' => some (c.writeInteger (unsignedInteger x))
  | 'e' | 'E' | 'f' | 'g' | 'G' => some (c.writeReal .double x)
  | _ => none

/-- Values in the parts of a format, behind what was written already; what is written up to
a fault comes with it.  `number` is that of the next conversion. -/
def formatParts (format : List Char) : List FormatPart → (number : Nat) → List Value →
    (done : List (List Char)) → List (List Char) × Option FormatFault
  | [], _, _, done => (done, none)
  | .text cs :: parts, number, values, done => formatParts format parts number values (cs :: done)
  | .conversion flags width? precision? kind? :: parts, number, values, done =>
      let taken : Except FormatFault (List Char × List Value) := do
        let (width?, values) ← takeExtent width? values
        let (precision?, values) ← takeExtent precision? values
        let (v, values) ← takeValue values
        let some kind := kind? | throw (.improper number)
        let width := width?.getD 0
        let c : Conversion := {
          flags := if width < 0 then '-' :: flags else flags
          width := min width.natAbs (1 <<< 16)
          precision? := precision?.bind fun p =>
            if p < 0 then none else some (min p.toNat (1 <<< 16))
          kind := kind }
        match convertedValue? format c v with
        | some text => pure (text, values)
        | none => throw (.improper number)
      match taken with
      | .ok (text, values) => formatParts format parts (number + 1) values (text :: done)
      | .error fault => (done, some fault)

/-- Values in a format: what is written, and what is wrong behind that. -/
def formatValues (numberFormat format : List Char) (values : List Value) :
    List Char × Option FormatFault :=
  let (parts, fault?) :=
    formatParts numberFormat (readFormat (format.length + 1) format) 1 values []
  (parts.reverse.flatten, fault?)

end DesiredState.Tools.Awk
