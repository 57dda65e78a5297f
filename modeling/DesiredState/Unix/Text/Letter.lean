import DesiredState.Text.Lowercase
import DesiredState.Text.Utf8

/-!
# Letters of octets

Programs that look at texts take their octets either one by one or as UTF-8.  Both
ways a text becomes a list of characters from which the octets come back: an octet
that is no text by itself is kept as one of the last private characters.

## Main definitions

* `lettersOf`, `octetsOfLetters` — octets as letters, and back.
* `isStray` — whether a letter stands for an octet that is no text.
* `uppercaseChar`, `isAlphabetic`, `letterWidth` — properties of letters.
-/

namespace DesiredState

/-- The letter of an octet from 0x80 on, where each octet is a letter. -/
def singleOctet (octet : Nat) : Char := Char.ofNat (0x10FE00 + octet)

/-- The letter of an octet that is not a part of UTF-8. -/
def strayOctet (octet : Nat) : Char := Char.ofNat (0x10FF00 + octet)

/-- Whether a letter stands for an octet that is no text. -/
def isStray (c : Char) : Bool := 0x10FF00 ≤ c.toNat

/-- The character at the start of octets, and what follows it. -/
def firstCharacter? (octets : List Char) : Option (Char × List Char) :=
  match octets with
  | [] => none
  | c :: rest =>
      match startChar c.toNat with
      | some (.inl c) => some (c, rest)
      | some (.inr p) =>
          let others := rest.take p.owed
          match decodeOctets (some p) others with
          | [some c] => if others.length = p.owed then some (c, rest.drop p.owed) else none
          | _ => none
      | none => none

/-- The letters of UTF-8, of which `fuel` are read at most, behind those that were read, last
letter first. -/
def lettersFrom : Nat → List Char → List Char → List Char
  | 0, _, done => done.reverse
  | _ + 1, [], done => done.reverse
  | fuel + 1, c :: rest, done =>
      match firstCharacter? (c :: rest) with
      | some (c, rest) => lettersFrom fuel rest (c :: done)
      | none => lettersFrom fuel rest (strayOctet c.toNat :: done)

/-- The letters of octets. -/
def lettersOf (isUnicode : Bool) (octets : List Char) : List Char :=
  if octets.all fun c => c.toNat < 0x80 then octets
  else if isUnicode then lettersFrom octets.length octets []
  else octets.map fun c => if c.toNat < 0x80 then c else singleOctet c.toNat

/-- The octets of a letter. -/
def octetsOfLetter (c : Char) : List Char :=
  let n := c.toNat
  if n < 0x80 then [c]
  else if 0x10FE00 ≤ n then [Char.ofNat (n % 0x100)]
  else octetsOfChar c

/-- The octets of letters. -/
def octetsOfLetters (cs : List Char) : List Char := cs.flatMap octetsOfLetter

/-- The upper-case form of a letter with a single one. -/
def uppercaseChar (c : Char) : Char :=
  if c.toNat < 0x80 then c.toUpper
  else
    let n : Int := c.toNat
    match lowercaseRuns.find? fun (first, last, step, shift) =>
        (first : Int) ≤ n - shift && n - shift ≤ (last : Int) &&
          (n - shift - first) % (step : Int) == 0 with
    | some (_, _, _, shift) => Char.ofNat (n - shift).toNat
    | none => c

/-- The scripts without case whose characters are letters. -/
def uncasedRanges : List (Nat × Nat) :=
  [(0x1BB, 0x1BB), (0x294, 0x295), (0x5D0, 0x5F2), (0x620, 0x64A), (0x671, 0x6D3),
    (0x904, 0x939), (0xE01, 0xE46), (0x1100, 0x11FF), (0x3041, 0x3096), (0x30A1, 0x30FA),
    (0x3105, 0x312F), (0x3131, 0x318E), (0x3400, 0x4DBF), (0x4E00, 0x9FFF), (0xAC00, 0xD7A3),
    (0xF900, 0xFAFF), (0x20000, 0x2FA1F)]

/-- Whether a character is a letter. -/
def isAlphabetic (c : Char) : Bool :=
  if c.toNat < 0x80 then c.isAlpha else isCased c || inRanges uncasedRanges c

/-- The characters that take the room of two. -/
def wideRanges : List (Nat × Nat) :=
  [(0x1100, 0x115F), (0x2E80, 0x303E), (0x3041, 0x33FF), (0x3400, 0x4DBF), (0x4E00, 0x9FFF),
    (0xA000, 0xA4CF), (0xAC00, 0xD7A3), (0xF900, 0xFAFF), (0xFE30, 0xFE6F), (0xFF00, 0xFF60),
    (0xFFE0, 0xFFE6), (0x1F300, 0x1F64F), (0x1F680, 0x1F6FF), (0x1F900, 0x1F9FF),
    (0x20000, 0x3FFFD)]

/-- The characters that take no room, because they are joined to the one before. -/
def joinedRanges : List (Nat × Nat) :=
  [(0x300, 0x36F), (0x200B, 0x200F), (0x20D0, 0x20F0), (0xFE00, 0xFE0F), (0xFE20, 0xFE2F)]

/-- How much room a letter takes. -/
def letterWidth (c : Char) : Nat :=
  if c.toNat < 0x20 || c.toNat = 0x7f || isStray c then 0
  else if c.toNat < 0x300 then 1
  else if inRanges joinedRanges c then 0
  else if inRanges wideRanges c then 2
  else 1

end DesiredState
