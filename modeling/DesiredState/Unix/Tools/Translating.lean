import DesiredState.Unix.Pattern.LetterSet
import DesiredState.Unix.Tools.Inputs

/-!
# Octets in the place of others

A set of octets is spelled by a text with ranges, classes and repeated octets.  The octets of
one set are replaced by those of another one at the same places, or left out, and runs of one
octet are made a single one.

## Main definitions

* `SetPart`, `setPartsOf` — the parts of a set, and how they are spelled.
* `pairUp` — the octets of one set with those in their place.
* `runTr` — the input with other octets.
-/

namespace DesiredState.Tools

open Shell Pattern

/-- A part of a set. -/
inductive SetPart where
  | one (c : Char)
  | range (first last : Char)
  | ofClass (name : String)
  | equivalent (c : Char)
  /-- An octet so many times; zero stands for as often as is needed. -/
  | repeated (c : Char) (count : Nat)
  deriving Repr

/-- All octets. -/
def allOctets : List Char := (List.range 256).map Char.ofNat

/-- The octets of a class. -/
def octetsOfClass (name : String) : List Char :=
  match LetterClass.ofName? name with
  | some cls => allOctets.filter fun c => c.toNat < 0x80 && cls.contains c
  | none => []

/-- The octets of a part. -/
def SetPart.octets : SetPart → List Char
  | one c | equivalent c => [c]
  | range first last =>
      (List.range (last.toNat + 1 - first.toNat)).map fun k => Char.ofNat (first.toNat + k)
  | ofClass name => octetsOfClass name
  | repeated c count => List.replicate count c

/-! ## Spelling -/

/-- Octets with whether a backslash stood in front of them, and warnings. -/
def unescapeSet : Nat → List Char → List (Char × Bool) × List String
  | 0, _ => ([], [])
  | fuel + 1, cs =>
      let andThen (c : Char) (isEscaped : Bool) (rest : List Char) :
          List (Char × Bool) × List String :=
        let (others, warnings) := unescapeSet fuel rest
        ((c, isEscaped) :: others, warnings)
      match cs with
      | [] => ([], [])
      | ['\\'] => ([('\\', false)], ["an unescaped backslash at end of string is not portable"])
      | '\\' :: c :: rest =>
          let letter? : Option Char := match c with
            | 'a' => some '\x07'
            | 'b' => some '\x08'
            | 'f' => some '\x0c'
            | 'n' => some '\n'
            | 'r' => some '\r'
            | 't' => some '\t'
            | 'v' => some '\x0b'
            | _ => none
          match letter?, digitValue? 8 c with
          | some letter, _ => andThen letter true rest
          | none, some _ =>
              let digits := ((c :: rest).take 3).takeWhile fun c => (digitValue? 8 c).isSome
              let n := (digitsValue? 8 digits).getD 0
              if n < 256 then andThen (Char.ofNat n) true ((c :: rest).drop digits.length)
              else
                let short := digits.take 2
                let (others, warnings) := andThen (Char.ofNat ((digitsValue? 8 short).getD 0)) true
                  ((c :: rest).drop 2)
                (others, String.ofList ("the ambiguous octal escape \\".toList ++ digits ++
                  " is being\n\tinterpreted as the 2-byte sequence \\0".toList ++ short ++
                  ", ".toList ++ digits.drop 2) :: warnings)
          | none, none => andThen c true rest
      | c :: rest => andThen c false rest

/-- What stands in front of a sign and a closing bracket, if they follow. -/
def upToClosing? (sign : Char) : List (Char × Bool) → Option (List Char × List (Char × Bool))
  | (c, false) :: (']', false) :: rest =>
      if c = sign then some ([], rest)
      else (upToClosing? sign ((']', false) :: rest)).map fun (cs, rest) => (c :: cs, rest)
  | (c, _) :: rest => (upToClosing? sign rest).map fun (cs, rest) => (c :: cs, rest)
  | [] => none

/-- The repeated octet behind an opening bracket, if one follows; or why it is none. -/
def repeated? (isUnicode : Bool) (cs : List (Char × Bool)) :
    Except (List Char) (Option (SetPart × List (Char × Bool))) :=
  match cs with
  | (c, _) :: ('*', false) :: rest =>
      let inside := (rest.takeWhile fun c => c != (']', false)).map Prod.fst
      match rest.drop inside.length with
      | _ :: behind =>
          let base := if inside.head? = some '0' then 8 else 10
          if inside.isEmpty then .ok (some (.repeated c 0, behind))
          else
            match digitsValue? base inside with
            | some n => .ok (some (.repeated c n, behind))
            | none => .error ("invalid repeat count ".toList ++ quotedIn isUnicode inside ++
                " in [c*n] construct".toList)
      | [] => .ok none
  | _ => .ok none

/-- An octet as a message shows it. -/
def shownOctet (c : Char) : List Char :=
  if 0x20 ≤ c.toNat && c.toNat < 0x7f then [c]
  else
    match controlLetter? c with
    | some letter => ['\\', letter]
    | none => octalEscape c

/-- The parts of a set that octets spell. -/
def partsOf (isUnicode : Bool) : Nat → List (Char × Bool) → Except (List Char) (List SetPart)
  | 0, _ => .ok []
  | fuel + 1, cs =>
      let andThen (part : SetPart) (rest : List (Char × Bool)) :
          Except (List Char) (List SetPart) := do
        pure (part :: (← partsOf isUnicode fuel rest))
      let plain (cs : List (Char × Bool)) : Except (List Char) (List SetPart) :=
        match cs with
        | (a, _) :: ('-', false) :: (b, _) :: rest =>
            if a.toNat ≤ b.toNat then andThen (.range a b) rest
            else .error ("range-endpoints of '".toList ++ shownOctet a ++ '-' :: shownOctet b ++
              "' are in reverse collating sequence order".toList)
        | (a, _) :: rest => andThen (.one a) rest
        | [] => .ok []
      let repeatedOrPlain (rest : List (Char × Bool)) : Except (List Char) (List SetPart) := do
        match ← repeated? isUnicode rest with
        | some (part, behind) => andThen part behind
        | none => plain (('[', false) :: rest)
      if cs.length ≤ 2 then .ok (cs.map fun c => .one c.1)
      else
        match cs with
        | ('[', false) :: (':', false) :: rest =>
            match upToClosing? ':' rest with
            | some ([], _) => .error "missing character class name '[::]'".toList
            | some (name, behind) =>
                if (LetterClass.ofName? (String.ofList name)).isSome then
                  andThen (.ofClass (String.ofList name)) behind
                else
                  .error ("invalid character class ".toList ++ quotedIn isUnicode name)
            | none => repeatedOrPlain ((':', false) :: rest)
        | ('[', false) :: ('=', false) :: rest =>
            match upToClosing? '=' rest with
            | some ([], _) => .error "missing equivalence class character '[==]'".toList
            | some ([c], behind) => andThen (.equivalent c) behind
            | some (name, _) =>
                .error (name ++ ": equivalence class operand must be a single character".toList)
            | none => repeatedOrPlain (('=', false) :: rest)
        | ('[', false) :: rest => repeatedOrPlain rest
        | cs => plain cs

/-- The parts of a set that a text spells. -/
def setPartsOf (isUnicode : Bool) (text : List Char) :
    Except (List Char) (List SetPart) × List String :=
  let (octets, warnings) := unescapeSet (text.length + 1) text
  (partsOf isUnicode (octets.length + 1) octets, warnings)

/-! ## Sets -/

/-- A set under way: its octets one by one, or the letters of one case as a whole. -/
inductive SetUnit where
  | octet (c : Char)
  | letters (isUpper : Bool)
  deriving DecidableEq

/-- The units of a part. -/
def SetPart.units : SetPart → List SetUnit
  | ofClass "upper" => [.letters true]
  | ofClass "lower" => [.letters false]
  | part => part.octets.map .octet

/-- The letters of one case. -/
def lettersOfCase (isUpper : Bool) : List Char :=
  octetsOfClass (if isUpper then "upper" else "lower")

/-- Parts in which the one that is repeated as often as needed is repeated so that there are so
many octets. -/
def filledParts (length : Nat) (parts : List SetPart) : List SetPart :=
  let known := (parts.map fun p => p.octets.length).foldl (· + ·) 0
  parts.map fun p =>
    match p with
    | .repeated c 0 => .repeated c (length - known)
    | p => p

/-- The octets of one set with those in their place, which are those of another set. -/
def pairUp : Nat → List SetUnit → List SetUnit → Except (List Char) (List (Char × Char) ×
    List SetUnit)
  | 0, _, _ => .ok ([], [])
  | fuel + 1, a, b =>
      let misaligned := "misaligned [:upper:] and/or [:lower:] construct".toList
      match a, b with
      | a, [] => .ok ([], a)
      | .letters upper :: a, .letters other :: b => do
          let (pairs, rest) ← pairUp fuel a b
          let letters := lettersOfCase upper
          let changed := if upper = other then letters else lettersOfCase other
          pure (letters.zip changed ++ pairs, rest)
      | _, .letters _ :: _ => .error misaligned
      | [], _ => .ok ([], [])
      | .letters upper :: a, b =>
          pairUp fuel ((lettersOfCase upper).map .octet ++ a) b
      | .octet x :: a, .octet y :: b => do
          let (pairs, rest) ← pairUp fuel a b
          pure ((x, y) :: pairs, rest)

/-- How octets are changed. -/
structure OctetMap where
  pairs : List (Char × Char)

/-- The octets of a map in the order of their numbers. -/
def OctetMap.table (m : OctetMap) : Array Char :=
  m.pairs.foldl (fun t (a, b) => t.setIfInBounds a.toNat b) allOctets.toArray

/-- An octet changed as a table says. -/
def changedBy (table : Array Char) (c : Char) : Char := table.getD c.toNat c

/-- A text in which runs of an octet of a set are a single one. -/
def squeezed (isInSet : Char → Bool) : List Char → Option Char → List Char → List Char
  | [], _, done => done.reverse
  | c :: rest, last?, done =>
      if last? = some c && isInSet c then squeezed isInSet rest last? done
      else squeezed isInSet rest (some c) (c :: done)

/-- The options of `tr`. -/
def trForms : OptionForms where
  letters := "cCdst"
  words := [("complement", .nothing, "c"), ("delete", .nothing, "d"),
    ("squeeze-repeats", .nothing, "s"), ("truncate-set1", .nothing, "t")]
  permutes := false

/-- Whether a part is repeated as often as needed. -/
def isEndless : SetPart → Bool
  | .repeated _ 0 => true
  | _ => false

/-- The octets of one set with those of another one in their place, or why that is not
possible. -/
def translationOf (complements truncates : Bool) (first second : List SetPart) :
    Except (List Char) (List (Char × Char)) := do
  let own := first.flatMap SetPart.octets
  let outside := allOctets.filter fun c => !own.contains c
  let length := if complements then outside.length else own.length
  if (second.filter isEndless).length > 1 then
    throw "only one [c*] repeat construct may appear in string2".toList
  let second := filledParts length second
  let hasEquivalent := second.any fun p => match p with
    | .equivalent _ => true
    | _ => false
  if hasEquivalent then
    throw "[=c=] expressions may not appear in string2 when translating".toList
  let isRestricted := second.any fun p => match p with
    | .ofClass name => name ≠ "upper" && name ≠ "lower"
    | _ => false
  if isRestricted then
    throw ("when translating, the only character classes that may appear in\n" ++
      "string2 are 'upper' and 'lower'").toList
  let units := if complements then outside.map SetUnit.octet else first.flatMap SetPart.units
  let others := if complements then (second.flatMap SetPart.octets).map SetUnit.octet
    else second.flatMap SetPart.units
  let (pairs, rest) ← pairUp (units.length + others.length + 600) units others
  let left := rest.flatMap fun u => match u with
    | .octet c => [c]
    | .letters upper => lettersOfCase upper
  if left.isEmpty || truncates then pure pairs
  else
    match second.getLast? with
    | none => throw "when not truncating set1, string2 must be non-empty".toList
    | some (.ofClass _) =>
        throw ("when translating with string1 longer than string2,\n" ++
          "the latter string must not end with a character class").toList
    | some last =>
        let filler := match last.octets.getLast?, last with
          | some c, _ => c
          | none, .repeated c _ => c
          | none, _ => '\x00'
        pure (pairs ++ left.map fun c => (c, filler))

/-- Writes the input with other octets. -/
def runTr : Tool := fun arguments =>
  withOptions trForms 1 arguments fun given operands => do
    let isUnicode := (← get).isUnicode
    let complements := isGiven given "c" || isGiven given "C"
    let deletes := isGiven given "d"
    let squeezes := isGiven given "s"
    let translates := operands.length == 2 && !deletes
    let least := if deletes == squeezes then 2 else 1
    let most := if deletes && !squeezes then 1 else 2
    if operands.length < least then
      match operands.getLast? with
      | none => misuseMissing 1
      | some last => do
          complainAs ("missing operand after ".toList ++ (← quoted last))
          complain (if squeezes then
            "Two strings must be given when both deleting and squeezing repeats.".toList
            else "Two strings must be given when translating.".toList)
          pointToHelp 1
    else if most < operands.length then do
      complainAs ("extra operand ".toList ++ (← quoted (operands.getD most [])))
      if operands.length = 2 then
        complain "Only one string may be given when deleting without squeezing repeats.".toList
      pointToHelp 1
    else
      let (first, warnings) := setPartsOf isUnicode (operands.headD [])
      let (second, others) := setPartsOf isUnicode (operands.getD 1 [])
      (warnings ++ (if first.isOk then others else [])).forM fun w =>
        complainAs ("warning: ".toList ++ w.toList)
      let plan : Except (List Char) (List SetPart × List SetPart × List (Char × Char)) := do
        let first ← first
        let second ← second
        if first.any isEndless then
          throw "the [c*] repeat construct may not appear in string1".toList
        if translates then
          pure (first, second, ← translationOf complements (isGiven given "t") first second)
        else if second.any isEndless then
          throw "the [c*] construct may appear in string2 only when translating".toList
        else pure (first, second, [])
      match plan with
      | .error complaint => failAs 1 complaint
      | .ok (first, second, pairs) =>
          let own := first.flatMap SetPart.octets
          let firstTable := allOctets.toArray.map fun c => own.contains c != complements
          let isInFirst (c : Char) : Bool := firstTable.getD c.toNat false
          let other := if translates then pairs.map Prod.snd ++
            second.flatMap SetPart.octets else second.flatMap SetPart.octets
          let secondTable := allOctets.toArray.map fun c => other.contains c
          let isInSecond (c : Char) : Bool := secondTable.getD c.toNat false
          match ← readOperand ['-'] with
          | .error fault => failAs 1 ("read error: ".toList ++ fault.words.toList)
          | .ok text =>
              let kept := if deletes then text.filter fun c => !isInFirst c else text
              let table := OctetMap.table ⟨pairs⟩
              let changed := if translates then kept.map (changedBy table) else kept
              let out :=
                if !squeezes then changed
                else if operands.length = 2 then squeezed isInSecond changed none []
                else squeezed isInFirst changed none []
              emit out

end DesiredState.Tools
