import DesiredState.Unix.Digest.Blocks

/-!
# Digests of 224 to 512 bits

The digests of this family keep eight words, and differ in how long these are, in their
words at the start, and in how many of them are the result.  All constants are parts of the
roots of prime numbers.  Another digest of 512 bits starts with the same words.

## Main definitions

* `Digest.sha224`, `Digest.sha256`, `Digest.sha384`, `Digest.sha512`.
* `Digest.blake2b` — a digest of up to 512 bits.
-/

namespace DesiredState.Digest

/-- Words of 64 bits of which the roots of primes have the bits. -/
def cubeWords : Array UInt64 := (primes.map (rootFraction 3)).toArray

/-- The parts of the square roots of some primes. -/
def squareWords (first count : Nat) : List UInt64 :=
  ((primes.drop first).take count).map (rootFraction 2)

/-- How a digest of the family is made. -/
structure Sha2Form where
  /-- How many bits a word has. -/
  bits : Nat
  rounds : Nat
  start : List Nat
  constants : Array Nat
  /-- How far words are turned for the two sums of a step, and for the two of later words. -/
  high : Nat × Nat × Nat
  low : Nat × Nat × Nat
  later : Nat × Nat × Nat
  latest : Nat × Nat × Nat
  /-- How many octets the result has. -/
  length : Nat

namespace Sha2Form

/-- A word whose bits are turned to the right. -/
def turn (f : Sha2Form) (x n : Nat) : Nat := x / (1 <<< n) ||| x % (1 <<< n) * (1 <<< (f.bits - n))

/-- Three turns of a word together. -/
def mix (f : Sha2Form) (t : Nat × Nat × Nat) (x : Nat) : Nat :=
  f.turn x t.1 ^^^ f.turn x t.2.1 ^^^ f.turn x t.2.2

/-- Two turns and a shift of a word together. -/
def blend (f : Sha2Form) (t : Nat × Nat × Nat) (x : Nat) : Nat :=
  f.turn x t.1 ^^^ f.turn x t.2.1 ^^^ x / (1 <<< t.2.2)

/-- The words of a block, and those that follow from them. -/
def expand (f : Sha2Form) (block : Array Nat) : (count : Nat) → Array Nat
  | 0 => block
  | n + 1 =>
      let ws := expand f block n
      let back (k : Nat) : Nat := ws.getD (ws.size - k) 0
      ws.push ((f.blend f.latest (back 2) + back 7 + f.blend f.later (back 15) + back 16) %
        1 <<< f.bits)

/-- One step of a block. -/
def step (f : Sha2Form) (ws : Array Nat) (w : List Nat) (n : Nat) : List Nat :=
  match w with
  | [a, b, c, d, e, g, h, k] =>
      let all := (1 <<< f.bits) - 1
      let choice := (e &&& g) ^^^ ((all - e) &&& h)
      let first := k + f.mix f.low e + choice + f.constants.getD n 0 + ws.getD n 0
      let majority := (a &&& b) ^^^ (a &&& c) ^^^ (b &&& c)
      let second := f.mix f.high a + majority
      [(first + second) % (1 <<< f.bits), a, b, c, (d + first) % (1 <<< f.bits), e, g, h]
  | w => w

/-- The digest of octets. -/
def digest (f : Sha2Form) (octets : List Nat) : List Nat :=
  let blockLength := 2 * f.bits
  let all := filled blockLength (f.bits / 4) true octets
  let w := (blocks blockLength all.length all).foldl (fun w block =>
    let ws := f.expand (words (f.bits / 8) true block).toArray (f.rounds - 16)
    let next := (List.range f.rounds).foldl (f.step ws) w
    (w.zip next).map fun (x, y) => (x + y) % (1 <<< f.bits)) f.start
  (w.flatMap fun x => octetsOfNumber x (f.bits / 8)).take f.length

/-- The form with words of 32 bits. -/
def short (start : List Nat) (length : Nat) : Sha2Form :=
  ⟨32, 64, start, cubeWords.map fun x => x.toNat / (1 <<< 32), (2, 13, 22), (6, 11, 25), (7, 18, 3),
    (17, 19, 10), length⟩

/-- The form with words of 64 bits. -/
def long (start : List Nat) (length : Nat) : Sha2Form :=
  ⟨64, 80, start, cubeWords.map UInt64.toNat, (28, 34, 39), (14, 18, 41), (1, 8, 7), (19, 61, 6),
    length⟩

end Sha2Form

/-- The digest of 224 bits. -/
def sha224 : List Nat → List Nat :=
  (Sha2Form.short ((squareWords 8 8).map fun x => x.toNat % (1 <<< 32)) 28).digest

/-- The digest of 256 bits. -/
def sha256 : List Nat → List Nat :=
  (Sha2Form.short ((squareWords 0 8).map fun x => x.toNat / (1 <<< 32)) 32).digest

/-- The digest of 384 bits. -/
def sha384 : List Nat → List Nat := (Sha2Form.long ((squareWords 8 8).map UInt64.toNat) 48).digest

/-- The digest of 512 bits. -/
def sha512 : List Nat → List Nat := (Sha2Form.long ((squareWords 0 8).map UInt64.toNat) 64).digest

/-! ## Another digest of 512 bits -/

/-- The orders in which the words of a block are taken, round by round. -/
def wordOrders : List (List Nat) :=
  [[0, 1, 2, 3, 4, 5, 6, 7, 8, 9, 10, 11, 12, 13, 14, 15],
    [14, 10, 4, 8, 9, 15, 13, 6, 1, 12, 0, 2, 11, 7, 5, 3],
    [11, 8, 12, 0, 5, 2, 15, 13, 10, 14, 3, 6, 7, 1, 9, 4],
    [7, 9, 3, 1, 13, 12, 11, 14, 2, 6, 5, 10, 4, 0, 15, 8],
    [9, 0, 5, 7, 2, 4, 10, 15, 14, 1, 11, 12, 6, 8, 3, 13],
    [2, 12, 6, 10, 0, 11, 8, 3, 4, 13, 7, 5, 15, 14, 1, 9],
    [12, 5, 1, 15, 14, 13, 4, 10, 0, 7, 6, 3, 9, 2, 8, 11],
    [13, 11, 7, 14, 12, 1, 3, 9, 5, 0, 15, 4, 8, 6, 2, 10],
    [6, 15, 14, 9, 11, 3, 0, 8, 12, 2, 13, 7, 1, 4, 10, 5],
    [10, 2, 8, 4, 7, 6, 1, 5, 15, 11, 9, 14, 3, 12, 13, 0]]

/-- A word of 64 bits whose bits are turned to the right. -/
def turnedRight (x : UInt64) (n : UInt64) : UInt64 := (x >>> n) ||| (x <<< (64 - n))

/-- Mixes two words of a block into four words. -/
def mixFour (v : Array UInt64) (a b c d : Nat) (x y : UInt64) : Array UInt64 :=
  let va := v.getD a 0 + v.getD b 0 + x
  let vd := turnedRight (v.getD d 0 ^^^ va) 32
  let vc := v.getD c 0 + vd
  let vb := turnedRight (v.getD b 0 ^^^ vc) 24
  let va := va + vb + y
  let vd := turnedRight (vd ^^^ va) 16
  let vc := vc + vd
  let vb := turnedRight (vb ^^^ vc) 63
  (((v.setIfInBounds a va).setIfInBounds b vb).setIfInBounds c vc).setIfInBounds d vd

/-- The words that are mixed in a round, in order. -/
def mixedPlaces : List (Nat × Nat × Nat × Nat) :=
  [(0, 4, 8, 12), (1, 5, 9, 13), (2, 6, 10, 14), (3, 7, 11, 15), (0, 5, 10, 15), (1, 6, 11, 12),
    (2, 7, 8, 13), (3, 4, 9, 14)]

/-- Eight words behind a block of which `count` octets of the text were taken. -/
def blakeStep (ws : Array UInt64) (count : Nat) (isLast : Bool) (h : List UInt64) :
    List UInt64 :=
  let start := squareWords 0 8
  let v := (h ++ start).toArray
  let v := v.setIfInBounds 12 (v.getD 12 0 ^^^ count.toUInt64)
  let v := if isLast then v.setIfInBounds 14 (~~~(v.getD 14 0)) else v
  let v := (List.range 12).foldl (fun v round =>
    let order := wordOrders.getD (round % 10) []
    (mixedPlaces.zipIdx).foldl (fun v ((a, b, c, d), n) =>
      mixFour v a b c d (ws.getD (order.getD (2 * n) 0) 0) (ws.getD (order.getD (2 * n + 1) 0) 0))
      v) v
  h.mapIdx fun n x => x ^^^ v.getD n 0 ^^^ v.getD (n + 8) 0

/-- The digest of so many octets. -/
def blake2b (length : Nat) (octets : List Nat) : List Nat :=
  let start := match squareWords 0 8 with
    | first :: rest => (first ^^^ (0x01010000 + length).toUInt64) :: rest
    | [] => []
  let parts := if octets.isEmpty then [[]] else blocks 128 octets.length octets
  let (h, _) := parts.foldl (fun (h, count) block =>
    let count := count + block.length
    let ws := ((words 8 false (block ++ List.replicate (128 - block.length) 0)).map
      Nat.toUInt64).toArray
    (blakeStep ws count (count == octets.length) h, count)) (start, 0)
  (h.flatMap fun x => (octetsOfNumber x.toNat 8).reverse).take length

end DesiredState.Digest
