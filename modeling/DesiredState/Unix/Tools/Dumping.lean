import DesiredState.Unix.Number.Conversion
import DesiredState.Unix.Tools.Inputs

/-!
# Dumps of octets

The octets of files are written line by line, each line behind its place in the text, as
numbers, as letters, or as names.  A line may be written in several forms, which are
aligned with each other.

## Main definitions

* `DumpKind`, `DumpForm` — how octets are written.
* `runOd` — writes dumps.
-/

namespace DesiredState.Tools

open Shell

/-- What octets are taken for. -/
inductive DumpKind where
  /-- Letters with escapes. -/
  | letters
  /-- Letters with names. -/
  | names
  | signed
  | unsigned
  | octal
  | hexadecimal
  | real
  deriving DecidableEq, Repr

/-- How octets are written: so many at a time, of a kind, and as a text behind the line. -/
structure DumpForm where
  kind : DumpKind
  size : Nat
  showsText : Bool
  deriving DecidableEq, Repr

namespace DumpForm

/-- How much room a field takes. -/
def width (f : DumpForm) : Nat :=
  let pick (one two four eight : Nat) : Nat :=
    match f.size with
    | 1 => one
    | 2 => two
    | 4 => four
    | _ => eight
  match f.kind with
  | .letters | .names => 3
  | .signed => pick 4 6 11 20
  | .unsigned => pick 3 5 10 20
  | .octal => pick 3 6 11 22
  | .hexadecimal => pick 2 4 8 16
  | .real => if f.size = 4 then 15 else 24

/-- The names of control characters. -/
def controlNames : List String :=
  ["nul", "soh", "stx", "etx", "eot", "enq", "ack", "bel", "bs", "ht", "nl", "vt", "ff", "cr",
    "so", "si", "dle", "dc1", "dc2", "dc3", "dc4", "nak", "syn", "etb", "can", "em", "sub", "esc",
    "fs", "gs", "rs", "us", "sp"]

/-- An octet as a letter or an escape. -/
def letterText (n : Nat) : List Char :=
  let c := Char.ofNat n
  if n = 0 then ['\\', '0']
  else
    match controlLetter? c with
    | some letter => ['\\', letter]
    | none => if 0x20 ≤ n && n < 0x7f then [c] else
        let digits := Nat.toDigits 8 n
        List.replicate (3 - digits.length) '0' ++ digits

/-- An octet as a letter or a name. -/
def nameText (n : Nat) : List Char :=
  let n := n % 128
  if n = 127 then "del".toList
  else if n ≤ 32 then (controlNames.getD n "").toList
  else [Char.ofNat n]

/-- Numbers of 32 bits. -/
def single : Precision := ⟨24, -149, 104⟩

/-- The number that the bits of a real one spell. -/
def realOf (p : Precision) (bits exponentBits n : Nat) : Rounded :=
  let fractionBits := bits - exponentBits - 1
  let isNegative := 1 <<< (bits - 1) ≤ n
  let field := n / (1 <<< fractionBits) % (1 <<< exponentBits)
  let low := n % (1 <<< fractionBits)
  if field = (1 <<< exponentBits) - 1 then
    if low = 0 then .infinite isNegative else .nan isNegative
  else if field = 0 then .finite isNegative low p.leastExponent
  else .finite isNegative (low + (1 <<< fractionBits)) (p.leastExponent + (field - 1 : Nat))

/-- The shortest one of the texts of a number with so many digits or more that is read as the
number. -/
def shortestReal (p : Precision) (x : Rounded) : (count : Nat) → (digits : Nat) → List Char
  | 0, digits => (⟨[], 0, some digits, 'g'⟩ : Conversion).writeReal p x
  | count + 1, digits =>
      let text := (⟨[], 0, some digits, 'g'⟩ : Conversion).writeReal p x
      if (Rounded.read? p text).any fun y => y.compare x == .eq then text
      else shortestReal p x count (digits + 1)

/-- A field, which may be wider than it has to be; the first octet of a number may be its
highest or its lowest one. -/
def field (f : DumpForm) (isBigFirst : Bool) (width : Nat) (octets : List Char) : List Char :=
  let ordered := if isBigFirst then octets else octets.reverse
  let n := ordered.foldl (fun n c => 256 * n + c.toNat) 0
  let bits := 8 * f.size
  let filled (digits : List Char) : List Char :=
    List.replicate (f.width - digits.length) '0' ++ digits
  rightAligned width <|
    match f.kind with
    | .letters => letterText n
    | .names => nameText n
    | .unsigned => writeNat n
    | .signed =>
        writeInt (if 1 <<< (bits - 1) ≤ n then (n : Int) - ((1 <<< bits : Nat) : Int) else n)
    | .octal => filled (Nat.toDigits 8 n)
    | .hexadecimal => filled (Nat.toDigits 16 n)
    | .real =>
        if f.size = 4 then
          shortestReal single (realOf single 32 8 n) 9
            (if n / (1 <<< 23) % (1 <<< 8) = 0 then 1 else 6)
        else
          shortestReal .double (realOf .double 64 11 n) 17
            (if n / (1 <<< 52) % (1 <<< 11) = 0 then 1 else 15)

/-- The fields of octets, which are spread over a width. -/
def fields (f : DumpForm) (isBigFirst : Bool) (blanks count : Nat) :
    (fuel : Nat) → (left : Nat) → (room : Nat) → List Char → List Char
  | 0, _, _, _ => []
  | fuel + 1, left, room, octets =>
      if octets.isEmpty then []
      else
        let next := blanks * (left - 1) / count
        let own := octets.take f.size
        let own := own ++ List.replicate (f.size - own.length) '\x00'
        f.field isBigFirst (room - next + f.width) own ++
          fields f isBigFirst blanks count fuel (left - 1) next (octets.drop f.size)

end DumpForm

/-- How a dump is written. -/
structure Dump where
  forms : List DumpForm
  /-- How many octets are in a line. -/
  lineLength : Nat
  /-- The base of places, and how many digits they have; nothing for none. -/
  places? : Option (Nat × Nat)
  /-- Whether lines that are the same are left out. -/
  skips : Bool
  /-- Whether the first octet of a number is the highest one. -/
  isBigFirst : Bool

namespace Dump

/-- A place in the text. -/
def place (d : Dump) (n : Nat) : List Char :=
  match d.places? with
  | none => []
  | some (base, count) =>
      let digits := Nat.toDigits base n
      List.replicate (count - digits.length) '0' ++ digits

/-- How much room the fields of a line take. -/
def room (d : Dump) : Nat :=
  (d.forms.map fun f => (f.width + 1) * (d.lineLength / f.size)).foldl max 0

/-- The lines of octets at a place. -/
def lines (d : Dump) (n : Nat) (octets : List Char) : List Char :=
  let parts := d.forms.zipIdx.map fun (f, k) =>
    let count := d.lineLength / f.size
    let blanks := d.room - f.width * count
    let front := if k = 0 then d.place n else List.replicate (d.place 0).length ' '
    let body := f.fields d.isBigFirst blanks count octets.length count blanks octets
    let behind :=
      if f.showsText then
        List.replicate (d.room - body.length) ' ' ++ "  >".toList ++
          (octets.map fun c => if ' ' ≤ c && c < '\x7f' then c else '.') ++ ['<']
      else []
    front ++ body ++ behind ++ ['\n']
  parts.flatten

/-- The dump of octets from a place on; `previous` are those of the line before, and `isSkipped`
says whether that was left out. -/
def write (d : Dump) : (fuel : Nat) → (n : Nat) → (previous : List Char) → (isSkipped : Bool) →
    List Char → List (List Char)
  | 0, _, _, _, _ => []
  | fuel + 1, n, previous, isSkipped, octets =>
      let own := octets.take d.lineLength
      if own.isEmpty then if d.places?.isSome then [d.place n, ['\n']] else []
      else
        let rest := octets.drop d.lineLength
        let isSame := d.skips && own.length = d.lineLength && own == previous
        let text := if isSame then (if isSkipped then [] else ['*', '\n']) else d.lines n own
        text :: d.write fuel (n + own.length) own isSame rest

/-- The texts of at least so many visible octets that end with a zero octet, each behind its
place; `run` is the visible text in front of place `n`, last octet first. -/
def texts (d : Dump) (least : Nat) (n : Nat) (run : List Char) : List Char → List Char
  | [] => []
  | c :: rest =>
      if ' ' ≤ c && c < '\x7f' then texts d least (n + 1) (c :: run) rest
      else
        let found := if c = '\x00' && least ≤ run.length then
            let place := d.place (n - run.length)
            (if place.isEmpty then [] else place ++ [' ']) ++ run.reverse ++ ['\n']
          else []
        found ++ texts d least (n + 1) [] rest

end Dump

/-! ## Options -/

/-- The options of `od`. -/
def odForms : OptionForms where
  letters := "A:aBbcDdeFfHhIij:LlN:OoS:st:vw::Xx"
  words := [("skip-bytes", .argument, "j"), ("address-radix", .argument, "A"),
    ("read-bytes", .argument, "N"), ("format", .argument, "t"),
    ("output-duplicates", .nothing, "v"), ("endian", .argument, "endian"),
    ("strings", .maybe, "S"), ("traditional", .nothing, "traditional"), ("width", .maybe, "w")]
  permutes := true

/-- The form of an option of one letter. -/
def dumpFormOf? : String → Option DumpForm
  | "a" => some ⟨.names, 1, false⟩
  | "b" => some ⟨.octal, 1, false⟩
  | "c" => some ⟨.letters, 1, false⟩
  | "d" => some ⟨.unsigned, 2, false⟩
  | "D" => some ⟨.unsigned, 4, false⟩
  | "f" => some ⟨.real, 4, false⟩
  | "F" | "e" => some ⟨.real, 8, false⟩
  | "h" | "x" => some ⟨.hexadecimal, 2, false⟩
  | "H" | "X" => some ⟨.hexadecimal, 4, false⟩
  | "i" => some ⟨.signed, 4, false⟩
  | "I" | "l" | "L" => some ⟨.signed, 8, false⟩
  | "o" | "B" => some ⟨.octal, 2, false⟩
  | "O" => some ⟨.octal, 4, false⟩
  | "s" => some ⟨.signed, 2, false⟩
  | _ => none

/-- The forms that a text spells, or what is wrong with it. -/
def readDumpForms (quotedText : List Char) : (fuel : Nat) → List Char →
    Except (List Char) (List DumpForm)
  | 0, _ => .ok []
  | fuel + 1, cs =>
      let finish (kind : DumpKind) (size : Nat) (rest : List Char) :
          Except (List Char) (List DumpForm) := do
        let showsText := rest.head? = some 'z'
        let others ← readDumpForms quotedText fuel (if showsText then rest.drop 1 else rest)
        pure (⟨kind, size, showsText⟩ :: others)
      let sized (kind : DumpKind) (rest : List Char) : Except (List Char) (List DumpForm) :=
        match rest with
        | 'C' :: rest => finish kind 1 rest
        | 'S' :: rest => finish kind 2 rest
        | 'I' :: rest => finish kind 4 rest
        | 'L' :: rest => finish kind 8 rest
        | rest =>
            let digits := rest.takeWhile Char.isDigit
            let n := digitsValue digits
            if digits.isEmpty then finish kind 4 rest
            else if [1, 2, 4, 8].contains n then finish kind n (rest.drop digits.length)
            else
              .error ("invalid type string ".toList ++ quotedText ++
                ";\nthis system doesn't provide a ".toList ++ digits ++
                "-byte integral type".toList)
      match cs with
      | [] => .ok []
      | 'a' :: rest => finish .names 1 rest
      | 'c' :: rest => finish .letters 1 rest
      | 'd' :: rest => sized .signed rest
      | 'o' :: rest => sized .octal rest
      | 'u' :: rest => sized .unsigned rest
      | 'x' :: rest => sized .hexadecimal rest
      | 'f' :: 'F' :: rest => finish .real 4 rest
      | 'f' :: 'D' :: rest => finish .real 8 rest
      | 'f' :: rest =>
          let digits := rest.takeWhile Char.isDigit
          let n := digitsValue digits
          if digits.isEmpty then finish .real 8 rest
          else if n = 4 || n = 8 then finish .real n (rest.drop digits.length)
          else
            .error ("invalid type string ".toList ++ quotedText ++
              ";\nthis system doesn't provide a ".toList ++ digits ++
              "-byte floating point type".toList)
      | c :: _ =>
          .error ("invalid character '".toList ++ c :: "' in type string ".toList ++ quotedText)

/-- A number of octets: octal, decimal or hexadecimal, with a unit. -/
def octetCount? (cs : List Char) : Option Nat :=
  match leadingDigits? none cs with
  | none => none
  | some (n, rest) => (unitFactor? "bEGKkMmPQRTYZ0" rest).map (n * ·)

/-- The number of an option; a text that is none is complained about. -/
def countOption (given : List Given) (letter word : String) : Job (Option (Option Nat)) := do
  match given.filter (·.name == letter) |>.getLast? with
  | none => return some none
  | some g =>
      match octetCount? g.argument with
      | some n => return some (some n)
      | none => do
          let isWord := word.isEmpty
          failAs 1 ("invalid ".toList ++ (if isWord then [] else ("-" ++ letter).toList) ++
            " argument ".toList ++ (← shellQuoted g.argument))
          return none

/-- Writes dumps of the octets of files. -/
def runOd : Tool := fun arguments =>
  withOptions odForms 1 arguments fun given operands => do
    let step (done : Option (List DumpForm)) (g : Given) : Job (Option (List DumpForm)) := do
      match done with
      | none => return none
      | some forms =>
          if g.name = "t" then
            match readDumpForms (← quoted g.argument) (g.argument.length + 1) g.argument with
            | .ok more => return some (forms ++ more)
            | .error words => do
                failAs 1 words
                return none
          else return some (forms ++ (dumpFormOf? g.name).toList)
    let some forms ← given.foldlM step (some []) | return ()
    let places? ← match lastGiven? given "A" with
      | none | some ['o'] => pure (some (some (8, 7)))
      | some ['d'] => pure (some (some (10, 7)))
      | some ['x'] => pure (some (some (16, 6)))
      | some ['n'] => pure (some none)
      | some (c :: _) => do
          complainAs ("invalid output address radix '".toList ++
            c :: "'; it must be one character from [doxn]".toList)
          finishWith 1
          pure none
      | some [] => do
          failAs 1 "invalid output address radix ''; it must be one character from [doxn]".toList
          pure none
    let some places? := places? | return ()
    let some skipped? ← countOption given "j" "j" | return ()
    let some most? ← countOption given "N" "N" | return ()
    let forms := if forms.isEmpty then [⟨.octal, 2, false⟩] else forms
    let endian? ← match lastGiven? given "endian" with
      | none => pure (some "little")
      | some text => wordAmong 1 "--endian" [["little"], ["big"]] text
    let some endian := endian? | return ()
    let least? ← match (given.filter (·.name == "S")).getLast? with
      | none => pure (some none)
      | some ⟨_, none⟩ => pure (some (some 3))
      | some _ => countOption given "S" "S"
    let some least? := least? | return ()
    let unit := (forms.map DumpForm.size).foldl Nat.lcm 1
    let asked? ← match (given.filter (·.name == "w")).getLast? with
      | none => pure (some none)
      | some ⟨_, none⟩ => pure (some (some 32))
      | some ⟨_, some text⟩ =>
          match octetCount? text with
          | some n => pure (some (some n))
          | none => do
              failAs 1 ("invalid -w argument ".toList ++ (← shellQuoted text))
              pure none
    let some asked? := asked? | return ()
    let lineLength ← match asked? with
      | none => pure (if unit < 16 then unit * (16 / unit) else unit)
      | some n =>
          if n ≠ 0 && n % unit = 0 then pure n
          else do
            complainAs ("warning: invalid width ".toList ++ writeNat n ++ "; using ".toList ++
              writeNat unit ++ " instead".toList)
            pure unit
    let limit := skipped?.getD 0 + most?.getD endlessLength
    let parts ← (orInput operands).mapM fun name => do
      match ← readUpTo (min limit endlessLength) name with
      | .ok octets => pure (some octets)
      | .error fault => do
          complainAbout name fault
          noteFailure
          pure none
    let all := (parts.filterMap id).flatten
    let skipped := skipped?.getD 0
    if parts.all Option.isNone then return ()
    else if all.length < skipped then failAs 1 "cannot skip past end of combined input".toList
    else
      let octets := (all.drop skipped).take (most?.getD all.length)
      let dump : Dump := ⟨forms, lineLength, places?, !(isGiven given "v"), endian = "big"⟩
      match least? with
      | some least => emit (dump.texts least skipped [] octets)
      | none => emit (dump.write (octets.length + 2) skipped [] false octets).flatten

end DesiredState.Tools
