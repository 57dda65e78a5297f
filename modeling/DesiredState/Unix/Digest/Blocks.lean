/-!
# Blocks of octets

A digest of a text is made block by block.  The text is filled up to whole blocks, at the
end of which its length stands, and each block is taken as words.

## Main definitions

* `Digest.filled` — octets filled up to whole blocks.
* `Digest.blocks` — octets in blocks.
* `Digest.number`, `Digest.octetsOfNumber` — numbers of octets, and back.
* `Digest.rootFraction` — the binary fraction of a root of a number.
-/

namespace DesiredState.Digest

/-- The number that octets spell, the highest one first. -/
def number (octets : List Nat) : Nat := octets.foldl (fun n octet => 256 * n + octet) 0

/-- The last octets of a number, the highest one first. -/
def octetsOfNumber (n : Nat) : Nat → List Nat
  | 0 => []
  | count + 1 => octetsOfNumber (n / 256) count ++ [n % 256]

/-- Octets in blocks of a length, of which there are at most so many. -/
def blocks (length : Nat) : (fuel : Nat) → List Nat → List (List Nat)
  | 0, _ => []
  | fuel + 1, octets =>
      if octets.isEmpty then [] else octets.take length :: blocks length fuel (octets.drop length)

/-- Octets filled up to whole blocks: with a one, zeros, and their length in bits, of which the
highest octet is the first one or the last one. -/
def filled (blockLength fieldLength : Nat) (isHighFirst : Bool) (octets : List Nat) : List Nat :=
  let used := (octets.length + 1 + fieldLength) % blockLength
  let field := octetsOfNumber (8 * octets.length) fieldLength
  octets ++ 0x80 :: List.replicate ((blockLength - used) % blockLength) 0 ++
    (if isHighFirst then field else field.reverse)

/-- The words of a block, each of so many octets. -/
def words (length : Nat) (isHighFirst : Bool) (block : List Nat) : List Nat :=
  (blocks length block.length block).map fun octets =>
    number (if isHighFirst then octets else octets.reverse)

/-- The greatest number among those below a power of two whose power is at most `n`. -/
def rootOf (power n : Nat) : (bits : Nat) → (found : Nat) → Nat
  | 0, found => found
  | bits + 1, found =>
      let tried := found + (1 <<< bits)
      rootOf power n bits (if Nat.pow tried power ≤ n then tried else found)

/-- The first 64 bits of the binary fraction of a root of a number. -/
def rootFraction (power n : Nat) : UInt64 :=
  (rootOf power (n * (1 <<< (64 * power))) 72 0 % (1 <<< 64)).toUInt64

/-- The first numbers from one on that have no divisor among those that were found. -/
def primesFrom : (fuel count : Nat) → (found : List Nat) → (n : Nat) → List Nat
  | 0, _, found, _ => found.reverse
  | _, 0, found, _ => found.reverse
  | fuel + 1, count + 1, found, n =>
      if found.any fun p => n % p == 0 then primesFrom fuel (count + 1) found (n + 1)
      else primesFrom fuel count (n :: found) (n + 1)

/-- The first eighty prime numbers. -/
def primes : List Nat := primesFrom 410 80 [] 2

/-- A digest in hexadecimal digits. -/
def hexText (octets : List Nat) : List Char :=
  octets.flatMap fun octet => [Nat.digitChar (octet / 16), Nat.digitChar (octet % 16)]

end DesiredState.Digest
