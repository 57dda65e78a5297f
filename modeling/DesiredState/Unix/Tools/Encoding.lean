import DesiredState.Unix.Number.Conversion
import DesiredState.Unix.Tools.Inputs

/-!
# Octets as text

Octets are spelled in letters of which each stands for a few bits, and read back.

## Main definitions

* `Base`, `Base.encode`, `Base.decode` — the alphabets, and their use.
* `runBase` — spells or reads files.
-/

namespace DesiredState.Tools

open Shell

/-- An alphabet. -/
inductive Base where
  | base64
  | base64url
  | base32
  | base32hex
  | base16
  | base2msbf
  | base2lsbf
  | z85
  deriving DecidableEq, Repr

namespace Base

/-- The letters of an alphabet, in the order of their values. -/
def letters : Base → List Char
  | base64 => "ABCDEFGHIJKLMNOPQRSTUVWXYZabcdefghijklmnopqrstuvwxyz0123456789+/".toList
  | base64url => "ABCDEFGHIJKLMNOPQRSTUVWXYZabcdefghijklmnopqrstuvwxyz0123456789-_".toList
  | base32 => "ABCDEFGHIJKLMNOPQRSTUVWXYZ234567".toList
  | base32hex => "0123456789ABCDEFGHIJKLMNOPQRSTUV".toList
  | base16 => "0123456789ABCDEF".toList
  | base2msbf | base2lsbf => "01".toList
  | z85 =>
      ("0123456789abcdefghijklmnopqrstuvwxyzABCDEFGHIJKLMNOPQRSTUVWXYZ" ++
        ".-:+=^!/*?&<>()[]\x7b\x7d@%$#").toList

/-- How many octets a group has, and how many letters spell it. -/
def group : Base → Nat × Nat
  | base64 | base64url => (3, 4)
  | base32 | base32hex => (5, 8)
  | base16 => (1, 2)
  | base2msbf | base2lsbf => (1, 8)
  | z85 => (4, 5)

/-- Whether a group that is not full is filled up with a sign. -/
def isFilled : Base → Bool
  | base64 | base64url | base32 | base32hex => true
  | _ => false

/-- The last digits of a number in a base, the highest one first. -/
def digitsOf (base n : Nat) : Nat → List Nat
  | 0 => []
  | count + 1 => digitsOf base (n / base) count ++ [n % base]

/-- The letters of a group. -/
def encodeGroup (b : Base) (octets : List Char) : List Char :=
  let (size, count) := b.group
  let missing := size - octets.length
  let n := (octets ++ List.replicate missing '\x00').foldl (fun n c => 256 * n + c.toNat) 0
  let alphabet := b.letters
  let digits := digitsOf alphabet.length n count
  let digits := if b = base2lsbf then digits.reverse else digits
  let spelled := digits.map fun d => alphabet.getD d '0'
  if missing = 0 then spelled
  else
    let used := (8 * octets.length * count + 8 * size - 1) / (8 * size)
    spelled.take used ++ (if b.isFilled then List.replicate (count - used) '=' else [])

/-- Octets in groups of a size. -/
def groups (size : Nat) : (fuel : Nat) → List Char → List (List Char)
  | 0, _ => []
  | fuel + 1, cs => if cs.isEmpty then [] else cs.take size :: groups size fuel (cs.drop size)

/-- The letters that spell octets. -/
def encode (b : Base) (octets : List Char) : List Char :=
  (groups b.group.1 octets.length octets).flatMap b.encodeGroup

/-- The octets that the letters of a group spell, and whether the group is right. -/
def decodeGroup (b : Base) (cs : List Char) : List Char × Bool :=
  let (size, count) := b.group
  let alphabet := b.letters
  let spelled := if b.isFilled then cs.takeWhile (· != '=') else cs
  let values := spelled.map fun c =>
    (alphabet.findIdx? (· == (if b = base16 then c.toUpper else c)))
  let known := (values.takeWhile Option.isSome).filterMap id
  let known := if b = base2lsbf then known.reverse else known
  let full := known ++ List.replicate (count - known.length) 0
  let n := full.foldl (fun n d => alphabet.length * n + d) 0
  let octets := (digitsOf 256 n size).map Char.ofNat
  let bits := 8 * size * known.length / count
  let isWhole := known.length = count
  let hasEnd := b.isFilled && cs.length = count && spelled.length = known.length &&
    (cs.drop spelled.length).all (· == '=') && 8 ≤ bits && isShort known.length
  if isWhole then (octets, n < Nat.pow 256 size)
  else if count = 8 && !hasEnd then ([], false)
  else (octets.take (bits / 8), hasEnd)
where
  /-- Whether so many letters can spell a part of a group. -/
  isShort (n : Nat) : Bool :=
    match b with
    | base64 | base64url => 2 ≤ n
    | _ => n = 2 || n = 4 || n = 5 || n = 7

/-- The octets that letters spell, and whether all of them do. -/
def decodeGroups (b : Base) : List (List Char) → List Char × Bool
  | [] => ([], true)
  | g :: rest =>
      let (octets, isRight) := b.decodeGroup g
      if isRight then
        let (more, isFine) := decodeGroups b rest
        (octets ++ more, isFine)
      else (octets, false)

/-- The octets that letters spell, and whether all of them do; line ends do not count. -/
def decode (b : Base) (ignoresOthers : Bool) (cs : List Char) : List Char × Bool :=
  let alphabet := b.letters
  let kept := cs.filter fun c =>
    c != '\n' && (!ignoresOthers || alphabet.contains c || (b.isFilled && c == '=') ||
      (b == base16 && alphabet.contains c.toUpper))
  b.decodeGroups (groups b.group.2 kept.length kept)

end Base

/-- A text in lines of a width, or in none. -/
def wrapped (width : Nat) : (fuel : Nat) → List Char → List Char
  | 0, cs => cs
  | fuel + 1, cs =>
      if cs.isEmpty then []
      else if width = 0 then cs
      else cs.take width ++ '\n' :: wrapped width fuel (cs.drop width)

/-- Spells a file in an alphabet, or reads it. -/
def codeFile (b : Base) (given : List Given) (operands : List (List Char)) : Job Unit := do
  let width? ← match lastGiven? given "w" with
    | none => pure (some 76)
    | some text =>
        match plainNumber? text with
        | some n => pure (some n)
        | none => do
            failAs 1 ("invalid wrap size: ".toList ++ (← quoted text))
            pure none
  let some width := width? | return ()
  match operands with
  | _ :: extra :: _ => misuseExtra 1 extra
  | operands => do
      let name := operands.headD ['-']
      match ← readOperand name with
      | .error .isDirectory => failAs 1 "read error: Is a directory".toList
      | .error fault => failAs 1 ((← shellQuotedIfNeeded name) ++ ": ".toList ++ fault.words.toList)
      | .ok octets =>
          if isGiven given "d" then
            let (text, isFine) := b.decode (isGiven given "i") octets
            emit text
            if !isFine then failAs 1 "invalid input".toList
          else if b = .z85 && octets.length % 4 ≠ 0 then
            failAs 1 "invalid input (length must be multiple of 4 characters)".toList
          else emit (wrapped width octets.length.succ (b.encode octets))

/-- The options of programs for one alphabet. -/
def baseForms : OptionForms where
  letters := "diw:"
  words := [("decode", .nothing, "d"), ("ignore-garbage", .nothing, "i"), ("wrap", .argument, "w")]
  permutes := true

/-- Spells files in an alphabet, or reads them. -/
def runBase (b : Base) : Tool := fun arguments =>
  withOptions baseForms 1 arguments (codeFile b)

/-- The alphabets of `basenc`, by their names. -/
def namedBases : List (String × Base) :=
  [("base64", .base64), ("base64url", .base64url), ("base32", .base32), ("base32hex", .base32hex),
    ("base16", .base16), ("base2msbf", .base2msbf), ("base2lsbf", .base2lsbf), ("z85", .z85)]

/-- Spells files in the alphabet that is asked for, or reads them. -/
def runBasenc : Tool := fun arguments =>
  let words := namedBases.map fun (name, _) => (name, Takes.nothing, name)
  withOptions { baseForms with words := baseForms.words ++ words } 1 arguments
    fun given operands => do
      let chosen := lastOf? given (namedBases.map Prod.fst)
      match chosen.bind fun g => namedBases.find? (·.1 == g.name) with
      | some (_, b) => codeFile b given operands
      | none => misuse 1 "missing encoding type".toList

end DesiredState.Tools
