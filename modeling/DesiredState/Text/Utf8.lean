/-!
# Texts as octets

The output of a program is a sequence of octets and need not be a text.  It is
read as UTF-8; where an octet can not continue the sequence before it, what was
read of that sequence is replaced by one U+FFFD and the octet starts anew.

Octets are kept as characters below U+0100, so that the texts a shell works on
are ordinary lists of characters.

## Main definitions

* `octetsOf` — the octets of a text.
* `decodeLossy` — the text of octets, with replacements.
* `decodeExact?` — the text of octets that are UTF-8 throughout.
-/

namespace DesiredState

/-- The octets of one character. -/
def octetsOfChar (c : Char) : List Char :=
  let n := c.toNat
  let octet (k : Nat) : Char := Char.ofNat k
  let tail (k : Nat) : Char := octet (0x80 + k % 0x40)
  if n < 0x80 then [octet n]
  else if n < 0x800 then [octet (0xC0 + n / 0x40), tail n]
  else if n < 0x10000 then [octet (0xE0 + n / 0x1000), tail (n / 0x40), tail n]
  else [octet (0xF0 + n / 0x40000), tail (n / 0x1000), tail (n / 0x40), tail n]

/-- The octets of a text. -/
def octetsOf (cs : List Char) : List Char := cs.flatMap octetsOfChar

/-- A character of which octets are still owed: how many, the bounds of the
next one, and the number read so far. -/
structure PartialChar where
  owed : Nat
  low : Nat
  high : Nat
  value : Nat

/-- What an octet starts: a character of one octet, a longer one, or nothing. -/
def startChar (octet : Nat) : Option (Char ⊕ PartialChar) :=
  if octet < 0x80 then some (.inl (Char.ofNat octet))
  else if 0xC2 ≤ octet ∧ octet ≤ 0xDF then some (.inr ⟨1, 0x80, 0xBF, octet % 0x20⟩)
  else if octet = 0xE0 then some (.inr ⟨2, 0xA0, 0xBF, 0⟩)
  else if octet = 0xED then some (.inr ⟨2, 0x80, 0x9F, octet % 0x10⟩)
  else if 0xE1 ≤ octet ∧ octet ≤ 0xEF then some (.inr ⟨2, 0x80, 0xBF, octet % 0x10⟩)
  else if octet = 0xF0 then some (.inr ⟨3, 0x90, 0xBF, 0⟩)
  else if octet = 0xF4 then some (.inr ⟨3, 0x80, 0x8F, octet % 8⟩)
  else if 0xF1 ≤ octet ∧ octet ≤ 0xF3 then some (.inr ⟨3, 0x80, 0xBF, octet % 8⟩)
  else none

/-- The characters of octets, with `none` in place of each sequence that is not
one; `pending` is the character under way. -/
def decodeOctets : Option PartialChar → List Char → List (Option Char)
  | none, [] => []
  | some _, [] => [none]
  | pending, c :: rest =>
      let octet := c.toNat
      -- What the octet gives when it starts a character, after `lost` before it.
      let start (lost : List (Option Char)) : List (Option Char) :=
        match startChar octet with
        | some (.inl c) => lost ++ some c :: decodeOctets none rest
        | some (.inr p) => lost ++ decodeOctets (some p) rest
        | none => lost ++ none :: decodeOctets none rest
      match pending with
      | none => start []
      | some p =>
          if p.low ≤ octet ∧ octet ≤ p.high then
            let value := p.value * 0x40 + octet % 0x40
            if p.owed ≤ 1 then some (Char.ofNat value) :: decodeOctets none rest
            else decodeOctets (some ⟨p.owed - 1, 0x80, 0xBF, value⟩) rest
          else start [none]

/-- The text of octets, each sequence that is no character replaced by one
U+FFFD. -/
def decodeLossy (octets : List Char) : String :=
  if octets.all fun c => c.toNat < 0x80 then String.ofList octets
  else String.ofList ((decodeOctets none octets).map (·.getD '\ufffd'))

/-- The text of octets, if every sequence is a character. -/
def decodeExact? (octets : List Char) : Option String :=
  ((decodeOctets none octets).mapM id).map String.ofList

end DesiredState
