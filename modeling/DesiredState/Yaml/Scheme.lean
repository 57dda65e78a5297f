import DesiredState.Number.Reading
import DesiredState.Yaml.Value

/-!
# What plain scalars mean

A plain scalar is null, a truth value, a number, or a text, by its spelling
alone.  Integers are decimal, hexadecimal, octal or binary; leading zeros make
a decimal one a text.  An integer that 64 bits hold is one; a greater one is no
value at all as long as 128 bits hold it, and a floating-point number beyond
that.

## Main definitions

* `isNullText`, `boolOfText?`, `IntegerText.read`, `floatOfText?` — the spellings.
* `Yaml.ofPlain?` — the value of a plain scalar.
-/

namespace DesiredState

/-- Whether a text spells null. -/
def isNullText (text : String) : Bool :=
  text == "null" || text == "Null" || text == "NULL" || text == "~"

/-- The truth value that a text spells. -/
def boolOfText? (text : String) : Option Bool :=
  if text == "true" || text == "True" || text == "TRUE" then some true
  else if text == "false" || text == "False" || text == "FALSE" then some false
  else none

/-! ## Integers -/

/-- Whether a text is a leading zero with more digits behind it, with or without
a sign. -/
def hasLeadingZero (cs : List Char) : Bool :=
  match (splitSign cs).2 with
  | '0' :: rest => !rest.isEmpty && rest.all Char.isDigit
  | _ => false

/-- The value of digits behind the mark of a base. -/
def basedValue? : List Char → Option Nat
  | '0' :: 'x' :: digits => digitsValue? 16 digits
  | '0' :: 'o' :: digits => digitsValue? 8 digits
  | '0' :: 'b' :: digits => digitsValue? 2 digits
  | _ => none

/-- What a text is as an integer. -/
inductive IntegerText where
  /-- An integer that 64 bits hold. -/
  | fits (value : Int)
  /-- An integer that 128 bits hold, but 64 do not. -/
  | wide
  /-- No integer, or a greater one. -/
  | other
  deriving DecidableEq, Repr

namespace IntegerText

/-- An integer by its size.  Negative ones have one bit less. -/
def ofValue (isNegative : Bool) (magnitude : Nat) : IntegerText :=
  if isNegative then
    if magnitude ≤ 1 <<< 63 then fits (-(magnitude : Int))
    else if magnitude ≤ 1 <<< 127 then wide
    else other
  else if magnitude < 1 <<< 64 then fits magnitude
  else if magnitude < 1 <<< 128 then wide
  else other

/-- The integer that a text spells. -/
def read (cs : List Char) : IntegerText :=
  let (isNegative, unsigned) := splitSign cs
  match basedValue? unsigned with
  | some n => ofValue isNegative n
  | none =>
      if hasLeadingZero cs then other
      else
        match digitsValue? 10 unsigned with
        | some n => ofValue isNegative n
        | none => other

end IntegerText

/-! ## Floating-point numbers -/

/-- Whether a text spells infinity. -/
def isInfinityText (text : String) : Bool :=
  text == ".inf" || text == ".Inf" || text == ".INF"

/-- Whether a text spells the number that is none. -/
def isNanText (text : String) : Bool :=
  text == ".nan" || text == ".NaN" || text == ".NAN"

/-- A number, if it is finite. -/
def finiteOnly? : Binary64 → Option Binary64
  | .finite negative mantissa exponent canonical =>
      some (.finite negative mantissa exponent canonical)
  | _ => none

/-- The floating-point number that a text spells. -/
def floatOfText? (text : String) : Option Binary64 :=
  if isNanText text then some .nan
  else
    match text.toList with
    | '+' :: rest =>
        if rest.head? == some '+' || rest.head? == some '-' then none
        else if isInfinityText (String.ofList rest) then some (.infinite false)
        else (Binary64.parse? rest).bind finiteOnly?
    | '-' :: rest =>
        if isInfinityText (String.ofList rest) then some (.infinite true)
        else (Binary64.parse? text.toList).bind finiteOnly?
    | cs =>
        if isInfinityText text then some (.infinite false)
        else (Binary64.parse? cs).bind finiteOnly?

/-! ## Values -/

namespace Yaml

/-- The value of a text that must spell an integer. -/
def intOfText? (text : String) : Option Yaml :=
  match IntegerText.read text.toList with
  | .fits i => some (.int i)
  | _ => none

/-- The value of a plain scalar; none for an integer that is too great. -/
def ofPlain? (text : String) : Option Yaml :=
  if text.isEmpty || isNullText text then some .null
  else
    match boolOfText? text with
    | some b => some (.bool b)
    | none =>
        match IntegerText.read text.toList with
        | .fits i => some (.int i)
        | .wide => none
        | .other =>
            if hasLeadingZero text.toList then some (.string text)
            else
              match floatOfText? text with
              | some x => some (.float x)
              | none => some (.string text)

end Yaml

end DesiredState
