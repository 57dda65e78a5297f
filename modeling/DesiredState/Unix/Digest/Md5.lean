import DesiredState.Unix.Digest.Blocks

/-!
# Digests of 128 and 160 bits

Both digests keep a few words of 32 bits, which the words of each block change in rounds.

## Main definitions

* `Digest.md5`, `Digest.sha1`.
-/

namespace DesiredState.Digest

/-- A word whose bits are turned to the left. -/
def turned (x : UInt32) (n : Nat) : UInt32 :=
  (x <<< n.toUInt32) ||| (x >>> (32 - n).toUInt32)

/-- Four or five words. -/
structure FiveWords where
  a : UInt32
  b : UInt32
  c : UInt32
  d : UInt32
  e : UInt32

/-- Words added one by one. -/
def FiveWords.add (x y : FiveWords) : FiveWords :=
  ⟨x.a + y.a, x.b + y.b, x.c + y.c, x.d + y.d, x.e + y.e⟩

/-- The words at the start. -/
def fiveStart : FiveWords := ⟨0x67452301, 0xefcdab89, 0x98badcfe, 0x10325476, 0xc3d2e1f0⟩

/-- The constants of the rounds: the sines of the first numbers. -/
def sineWords : Array UInt32 :=
  ((List.range 64).map fun n =>
    (Float.floor (Float.abs (Float.sin (n + 1).toFloat) * 4294967296.0)).toUInt32).toArray

/-- How far words are turned in each round. -/
def turns : List (List Nat) := [[7, 12, 17, 22], [5, 9, 14, 20], [4, 11, 16, 23], [6, 10, 15, 21]]

/-- One step of a block. -/
def md5Step (block : Array UInt32) (w : FiveWords) (n : Nat) : FiveWords :=
  let (f, place) : UInt32 × Nat :=
    if n < 16 then ((w.b &&& w.c) ||| (~~~w.b &&& w.d), n)
    else if n < 32 then ((w.d &&& w.b) ||| (~~~w.d &&& w.c), (5 * n + 1) % 16)
    else if n < 48 then (w.b ^^^ w.c ^^^ w.d, (3 * n + 5) % 16)
    else (w.c ^^^ (w.b ||| ~~~w.d), 7 * n % 16)
  let sum := w.a + f + sineWords.getD n 0 + block.getD place 0
  let turn := (turns.getD (n / 16) []).getD (n % 4) 0
  ⟨w.d, w.b + turned sum turn, w.b, w.c, w.e⟩

/-- The digest of 128 bits. -/
def md5 (octets : List Nat) : List Nat :=
  let all := filled 64 8 false octets
  let w := (blocks 64 all.length all).foldl (fun w block =>
    let ws := ((words 4 false block).map Nat.toUInt32).toArray
    w.add { (List.range 64).foldl (md5Step ws) w with e := 0 }) fiveStart
  [w.a, w.b, w.c, w.d].flatMap fun x => (octetsOfNumber x.toNat 4).reverse

/-- The words of a block, and those that follow from them. -/
def sha1Words (block : Array UInt32) : (count : Nat) → Array UInt32
  | 0 => block
  | n + 1 =>
      let ws := sha1Words block n
      let back (k : Nat) : UInt32 := ws.getD (ws.size - k) 0
      ws.push (turned (back 3 ^^^ back 8 ^^^ back 14 ^^^ back 16) 1)

/-- One step of a block. -/
def sha1Step (ws : Array UInt32) (w : FiveWords) (n : Nat) : FiveWords :=
  let (f, constant) : UInt32 × UInt32 :=
    if n < 20 then ((w.b &&& w.c) ||| (~~~w.b &&& w.d), 0x5a827999)
    else if n < 40 then (w.b ^^^ w.c ^^^ w.d, 0x6ed9eba1)
    else if n < 60 then ((w.b &&& w.c) ||| (w.b &&& w.d) ||| (w.c &&& w.d), 0x8f1bbcdc)
    else (w.b ^^^ w.c ^^^ w.d, 0xca62c1d6)
  ⟨turned w.a 5 + f + w.e + constant + ws.getD n 0, w.a, turned w.b 30, w.c, w.d⟩

/-- The digest of 160 bits. -/
def sha1 (octets : List Nat) : List Nat :=
  let all := filled 64 8 true octets
  let w := (blocks 64 all.length all).foldl (fun w block =>
    let ws := sha1Words ((words 4 true block).map Nat.toUInt32).toArray 64
    w.add ((List.range 80).foldl (sha1Step ws) w)) fiveStart
  [w.a, w.b, w.c, w.d, w.e].flatMap fun x => octetsOfNumber x.toNat 4

end DesiredState.Digest
