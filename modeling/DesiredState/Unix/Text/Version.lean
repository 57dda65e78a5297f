/-!
# The order of versions

Texts with numbers in them are ordered such that the numbers count as numbers.  The
extensions at the end of a name count only where all in front of them is equal, and a
tilde comes before everything, even before the end.

## Main definitions

* `compareVersions` — the order of two texts.
-/

namespace DesiredState

/-- The rank of the character at the start of a text, where a digit counts as an end of
letters. -/
def versionRank : List Char → Int
  | [] => -1
  | c :: _ =>
      if c.isDigit then 0
      else if c.isAlpha then c.toNat
      else if c = '~' then -2
      else c.toNat + 256

/-- Compares texts in turns: letters up to a digit, then a number. -/
def compareParts : Nat → List Char → List Char → Ordering
  | 0, _, _ => .eq
  | fuel + 1, a, b =>
      if a.isEmpty && b.isEmpty then .eq
      else if a.head?.any (!·.isDigit) || b.head?.any (!·.isDigit) then
        match compare (versionRank a) (versionRank b) with
        | .eq => compareParts fuel (a.drop 1) (b.drop 1)
        | order => order
      else
        let x := (a.takeWhile Char.isDigit).dropWhile (· == '0')
        let y := (b.takeWhile Char.isDigit).dropWhile (· == '0')
        let order := if x.length != y.length then compare x.length y.length else compare x y
        match order with
        | .eq => compareParts fuel (a.dropWhile Char.isDigit) (b.dropWhile Char.isDigit)
        | order => order

/-- What follows the extensions at the start of a text. -/
def dropExtensions : Nat → List Char → List Char
  | 0, cs => cs
  | fuel + 1, cs =>
      match cs with
      | '.' :: c :: rest =>
          if c.isAlpha || c == '~' then
            dropExtensions fuel (rest.dropWhile fun c => c.isAlphanum || c == '~')
          else cs
      | cs => cs

/-- How long a text is without the extensions at its end. -/
def stemLength : Nat → List Char → Nat → Nat → Nat
  | 0, _, _, stem => stem
  | fuel + 1, cs, place, stem =>
      match cs with
      | [] => stem
      | _ :: rest =>
          let behind := dropExtensions rest.length rest
          stemLength fuel behind (place + 1 + (rest.length - behind.length)) (place + 1)

/-- The order of two texts with numbers in them. -/
def compareVersions (a b : List Char) : Ordering :=
  let rank : List Char → Nat
    | [] => 0
    | ['.'] => 1
    | ['.', '.'] => 2
    | '.' :: _ => 3
    | _ => 4
  match compare (rank a) (rank b) with
  | .eq =>
      let fuel := a.length + b.length + 2
      let x := a.take (stemLength fuel a 0 0)
      let y := b.take (stemLength fuel b 0 0)
      match compareParts fuel x y with
      | .eq => compareParts fuel a b
      | order => order
  | order => order

end DesiredState
