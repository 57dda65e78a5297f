import DesiredState.Unix.Digest.Blocks

/-!
# Checksums

Short sums of octets, which tell whether a text came through as it was.

## Main definitions

* `Digest.cyclicSum`, `Digest.rotatingSum`, `Digest.foldedSum`.
-/

namespace DesiredState.Digest

/-- Eight steps of the division of a polynomial. -/
def divideOctet : Nat → UInt32 → UInt32
  | 0, x => x
  | n + 1, x =>
      divideOctet n (if x &&& 0x80000000 = 0 then x <<< 1 else (x <<< 1) ^^^ 0x04c11db7)

/-- The sum behind one more octet. -/
def cyclicStep (x : UInt32) (octet : Nat) : UInt32 :=
  divideOctet 8 (x ^^^ (octet.toUInt32 <<< 24))

/-- The octets of a number without those that are zero at its front, the lowest one first. -/
def lengthOctets : (fuel : Nat) → Nat → List Nat
  | 0, _ => []
  | fuel + 1, n => if n = 0 then [] else n % 256 :: lengthOctets fuel (n / 256)

/-- The remainder of octets and their length, divided as polynomials. -/
def cyclicSum (octets : List Nat) : Nat :=
  (~~~((octets ++ lengthOctets 9 octets.length).foldl cyclicStep 0)).toNat

/-- The sum of 16 bits that is turned to the right for each octet. -/
def rotatingSum (octets : List Nat) : Nat :=
  octets.foldl (fun n octet => (n / 2 + n % 2 * 0x8000 + octet) % 0x10000) 0

/-- The sum of all octets, folded to 16 bits. -/
def foldedSum (octets : List Nat) : Nat :=
  let sum := octets.foldl (· + ·) 0 % (1 <<< 32)
  let once := sum % 0x10000 + sum / 0x10000
  once % 0x10000 + once / 0x10000

end DesiredState.Digest
