import DesiredState.Unix.Digest.Checksum
import DesiredState.Unix.Digest.Md5
import DesiredState.Unix.Digest.Sha2
import DesiredState.Unix.Tools.Encoding
import DesiredState.Unix.Tools.Inputs

/-!
# Digests of files

The digest of a file is written in front of its name.  A list of such lines can be checked.

## Main definitions

* `DigestKind` — the digests that there are.
* `runDigest`, `runCksum`, `runSum`.
-/

namespace DesiredState.Tools

open Shell Digest

/-- A kind of digest. -/
inductive DigestKind where
  | md5
  | sha1
  | sha224
  | sha256
  | sha384
  | sha512
  | blake2b
  deriving DecidableEq, Repr

namespace DigestKind

/-- The name of a kind in tagged lines. -/
def tag : DigestKind → String
  | md5 => "MD5"
  | sha1 => "SHA1"
  | sha224 => "SHA224"
  | sha256 => "SHA256"
  | sha384 => "SHA384"
  | sha512 => "SHA512"
  | blake2b => "BLAKE2b"

/-- How many octets a digest has. -/
def length : DigestKind → Nat
  | md5 => 16
  | sha1 => 20
  | sha224 => 28
  | sha256 => 32
  | sha384 => 48
  | sha512 | blake2b => 64

/-- The digest of octets; some kinds can be shorter than they usually are. -/
def digest (kind : DigestKind) (length : Nat) (octets : List Nat) : List Nat :=
  match kind with
  | md5 => Digest.md5 octets
  | sha1 => Digest.sha1 octets
  | sha224 => Digest.sha224 octets
  | sha256 => Digest.sha256 octets
  | sha384 => Digest.sha384 octets
  | sha512 => Digest.sha512 octets
  | blake2b => Digest.blake2b length octets

/-- The kind of a name. -/
def ofName? : String → Option DigestKind
  | "md5" => some md5
  | "sha1" => some sha1
  | "sha224" => some sha224
  | "sha256" => some sha256
  | "sha384" => some sha384
  | "sha512" => some sha512
  | "blake2b" => some blake2b
  | _ => none

end DigestKind

/-! ## Writing -/

/-- How digests are written. -/
structure DigestForm where
  kind : DigestKind
  length : Nat
  isTagged : Bool
  isBinary : Bool
  endsWithZero : Bool
  isBase64 : Bool

/-- The name of a file with escapes, if it needs some. -/
def escapedName (name : List Char) : List Char :=
  name.flatMap fun c =>
    match c with
    | '\\' => ['\\', '\\']
    | '\n' => ['\\', 'n']
    | '\r' => ['\\', 'r']
    | c => [c]

/-- The text of a digest. -/
def DigestForm.text (f : DigestForm) (octets : List Char) : List Char :=
  let digest := f.kind.digest f.length (octets.map Char.toNat)
  if f.isBase64 then Base.encode .base64 (digest.map Char.ofNat) else hexText digest

/-- The line of a file with its digest. -/
def DigestForm.line (f : DigestForm) (name octets : List Char) : List Char :=
  let escaped := escapedName name
  let isEscaped := escaped ≠ name && !f.endsWithZero
  let shown := if isEscaped then escaped else name
  let front := if isEscaped then ['\\'] else []
  let tag := f.kind.tag.toList ++
    (if f.length = f.kind.length then [] else '-' :: writeNat (8 * f.length))
  front ++
    (if f.isTagged then tag ++ " (".toList ++ shown ++ ") = ".toList ++ f.text octets
    else f.text octets ++ [' ', if f.isBinary then '*' else ' '] ++ shown) ++
    [if f.endsWithZero then '\x00' else '\n']

/-! ## Checking -/

/-- A name without escapes. -/
def unescapedName : List Char → List Char
  | '\\' :: 'n' :: rest => '\n' :: unescapedName rest
  | '\\' :: 'r' :: rest => '\r' :: unescapedName rest
  | '\\' :: '\\' :: rest => '\\' :: unescapedName rest
  | c :: rest => c :: unescapedName rest
  | [] => []

/-- The digest and the name in a line, if it is one of a list of digests. -/
def checkedLine? (f : DigestForm) (line : List Char) : Option (List Char × List Char) :=
  let cs := line.dropWhile fun c => c == ' ' || c == '\t'
  let isEscaped := cs.head? = some '\\'
  let cs := if isEscaped then cs.drop 1 else cs
  let named (name : List Char) : List Char := if isEscaped then unescapedName name else name
  let isHex (digits : List Char) : Bool :=
    digits.length = 2 * f.length && digits.all fun c => (digitValue? 16 c).isSome
  let tag := f.kind.tag.toList ++ " (".toList
  if tag.isPrefixOf cs then
    let rest := cs.drop tag.length
    let digits := (rest.reverse.takeWhile fun c => (digitValue? 16 c).isSome).reverse
    let front := rest.take (rest.length - digits.length)
    let behind := ") = ".toList
    if isHex digits && behind.isSuffixOf front then
      some (digits, named (front.take (front.length - behind.length)))
    else none
  else
    let digits := cs.take (2 * f.length)
    match cs.drop (2 * f.length) with
    | ' ' :: mark :: name =>
        if isHex digits && (mark = ' ' || mark = '*') && !name.isEmpty then
          some (digits, named name)
        else none
    | _ => none

/-- What a check found. -/
structure CheckCounts where
  proper : Nat
  improper : Nat
  unread : Nat
  wrong : Nat
  right : Nat

/-- How lists are checked. -/
structure CheckRule where
  isSilent : Bool
  isQuiet : Bool
  warns : Bool
  isStrict : Bool
  ignoresMissing : Bool

/-- Writes a warning about how many of something there are. -/
def warnOfCount (n : Nat) (one many : String) : Job Unit := do
  if n ≠ 0 then
    complainAs ("WARNING: ".toList ++ writeNat n ++ ' ' :: (if n = 1 then one else many).toList)

/-- Checks the lines of a list. -/
def checkList (f : DigestForm) (rule : CheckRule) (list : List Char) : Job Unit := do
  let shownList ← if list = ['-'] then pure "'standard input'".toList else shellQuotedIfNeeded list
  match ← readOperand list with
  | .error fault => do
      complainAbout list fault
      noteFailure
  | .ok text => do
      let lines := (textsBy '\n' text).map fun l =>
        if l.getLast? = some '\r' then l.dropLast else l
      let n ← lines.zipIdx.foldlM (fun (n : CheckCounts) (line, place) => do
        if line.head? = some '#' then return n
        match checkedLine? f line with
        | none => do
            if rule.warns then
              complainAs (shownList ++ ": ".toList ++ writeNat (place + 1) ++
                ": improperly formatted ".toList ++ f.kind.tag.toList ++ " checksum line".toList)
            return { n with improper := n.improper + 1 }
        | some (digits, name) => do
            let n := { n with proper := n.proper + 1 }
            let escaped := escapedName name
            let shown := if escaped = name then name else '\\' :: escaped
            match ← readOperand name with
            | .error fault => do
                if rule.ignoresMissing && fault = .notFound then return n
                else
                  complainAbout name fault
                  if !rule.isSilent then emit (shown ++ ": FAILED open or read\n".toList)
                  return { n with unread := n.unread + 1 }
            | .ok octets => do
                let found := hexText (f.kind.digest f.length (octets.map Char.toNat))
                let isRight := found = digits.map Char.toLower
                if !rule.isSilent && !(isRight && rule.isQuiet) then
                  emit (shown ++ (if isRight then ": OK\n" else ": FAILED\n").toList)
                return if isRight then { n with right := n.right + 1 }
                  else { n with wrong := n.wrong + 1 }) ⟨0, 0, 0, 0, 0⟩
      if n.proper = 0 then
        complainAs (shownList ++ ": no properly formatted checksum lines found".toList)
        noteFailure
      else
        if !rule.isSilent then
          warnOfCount n.improper "line is improperly formatted" "lines are improperly formatted"
          warnOfCount n.unread "listed file could not be read" "listed files could not be read"
          warnOfCount n.wrong "computed checksum did NOT match" "computed checksums did NOT match"
        if rule.ignoresMissing && n.right = 0 then
          if !rule.isSilent then complainAs (shownList ++ ": no file was verified".toList)
          noteFailure
        if n.wrong ≠ 0 || n.unread ≠ 0 || (rule.isStrict && n.improper ≠ 0) then noteFailure

/-! ## Programs -/

/-- The words of the options that digests have in common. -/
def digestWords : List (String × Takes × String) :=
  [("binary", .nothing, "b"), ("text", .nothing, "t"), ("check", .nothing, "c"),
    ("zero", .nothing, "z"), ("warn", .nothing, "w"), ("tag", .nothing, "tag"),
    ("quiet", .nothing, "quiet"), ("status", .nothing, "status"), ("strict", .nothing, "strict"),
    ("ignore-missing", .nothing, "ignore-missing")]

/-- The first option that only makes sense for a check. -/
def strayCheckOption? (given : List Given) : Option String :=
  [("ignore-missing", "ignore-missing"), ("status", "status"), ("w", "warn"), ("quiet", "quiet"),
    ("strict", "strict")].find? (fun (name, _) => isGiven given name) |>.map Prod.snd

/-- Writes digests in a form, or checks them. -/
def digestOperands (f : DigestForm) (given : List Given) (operands : List (List Char)) :
    Job Unit := do
  let has (name : String) : Bool := isGiven given name
  if has "c" then
    let rule : CheckRule := ⟨has "status", has "quiet", has "w", has "strict", has "ignore-missing"⟩
    if f.isTagged && isGiven given "tag" then
      misuse 1 "the --tag option is meaningless when verifying checksums".toList
    else (orInput operands).forM (checkList f rule)
  else
    match strayCheckOption? given with
    | some option =>
        misuse 1 ("the --".toList ++ option.toList ++
          " option is meaningful only when verifying checksums".toList)
    | none => forInputs operands fun name octets => emit (f.line name octets)

/-- Writes the digests of files. -/
def runDigest (kind : DigestKind) : Tool := fun arguments =>
  let forms : OptionForms := {
    letters := if kind = .blake2b then "bctwzl:" else "bctwz"
    words := digestWords ++ (if kind = .blake2b then [("length", .argument, "l")] else [])
    permutes := true }
  withOptions forms 1 arguments fun given operands => do
    let length? ← match lastGiven? given "l" with
      | none => pure (some kind.length)
      | some text =>
          match plainNumber? text with
          | some bits =>
              if bits % 8 ≠ 0 then
                complainAs ("invalid length: ".toList ++ (← quoted text))
                failAs 1 "length is not a multiple of 8".toList
                pure none
              else if 512 < bits then
                complainAs ("invalid length: ".toList ++ (← quoted text))
                failAs 1 "maximum digest length for ‘BLAKE2b’ is 512 bits".toList
                pure none
              else pure (some (if bits = 0 then 64 else bits / 8))
          | none => do
              failAs 1 ("invalid length: ".toList ++ (← quoted text))
              pure none
    let some length := length? | return ()
    let isBinary := (lastOf? given ["b", "t"]).any (·.name == "b")
    digestOperands ⟨kind, length, isGiven given "tag", isBinary, isGiven given "z", false⟩ given
      operands

/-- The line of a file with a sum of all of its octets; the name is left out if there is none. -/
def sumLine (isFolded : Bool) (octets : List Char) (name? : Option (List Char)) : List Char :=
  let numbers := octets.map Char.toNat
  let name := match name? with
    | some name => ' ' :: name
    | none => []
  if isFolded then
    writeNat (foldedSum numbers) ++ ' ' :: writeNat ((octets.length + 511) / 512) ++ name ++ ['\n']
  else
    digitsOfLength (rotatingSum numbers) 5 ++
      ' ' :: rightAligned 5 (writeNat ((octets.length + 1023) / 1024)) ++ name ++ ['\n']

/-- Writes sums of the octets of files. -/
def runSum : Tool := fun arguments =>
  let forms : OptionForms := ⟨"rs", [("sysv", .nothing, "s")], true, false⟩
  withOptions forms 1 arguments fun given operands => do
    let isFolded := (lastOf? given ["r", "s"]).any (·.name == "s")
    forInputs operands fun name octets =>
      emit (sumLine isFolded octets (if operands.isEmpty then none else some name))

/-- The options of `cksum`. -/
def cksumForms : OptionForms where
  letters := "a:bctwzl:"
  words := digestWords ++ [("algorithm", .argument, "a"), ("length", .argument, "l"),
    ("untagged", .nothing, "untagged"), ("base64", .nothing, "base64"), ("raw", .nothing, "raw")]
  permutes := true

/-- Writes checksums or digests of files. -/
def runCksum : Tool := fun arguments =>
  withOptions cksumForms 1 arguments fun given operands => do
    let algorithm? ← match lastGiven? given "a" with
      | none => pure (some "crc")
      | some text =>
          wordAmong 1 "--algorithm" [["bsd"], ["sysv"], ["crc"], ["md5"], ["sha1"], ["sha224"],
            ["sha256"], ["sha384"], ["sha512"], ["blake2b"], ["sm3"]] text
    algorithm?.forM fun algorithm => do
      let nameOf (name : List Char) : Option (List Char) :=
        if operands.isEmpty then none else some name
      match DigestKind.ofName? algorithm with
      | some kind =>
          let form : DigestForm := {
            kind := kind
            length := kind.length
            isTagged := !(isGiven given "untagged")
            isBinary := false
            endsWithZero := isGiven given "z"
            isBase64 := isGiven given "base64" }
          digestOperands form given operands
      | none =>
          forInputs operands fun name octets => do
            match algorithm with
            | "bsd" => emit (sumLine false octets (nameOf name))
            | "sysv" => emit (sumLine true octets (nameOf name))
            | _ =>
                let shown := match nameOf name with
                  | some name => ' ' :: name
                  | none => []
                emit (writeNat (cyclicSum (octets.map Char.toNat)) ++ ' ' ::
                  writeNat octets.length ++ shown ++ ['\n'])

end DesiredState.Tools
