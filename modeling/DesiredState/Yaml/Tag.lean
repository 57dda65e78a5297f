import DesiredState.Number.Reading
import DesiredState.Text.Utf8
import DesiredState.Yaml.Cursor

/-!
# Tags in a YAML text

A tag is written in full between angle brackets, or as a handle with a suffix.
A percent sign stands for an octet by its number; octets must come in sequences
of the right length, but need not be a text.  So tags are kept as octets.  An
octet that is zero ends the part of the tag that it is in.

## Main definitions

* `isTagChar` — the characters of a tag.
* `beforeZero` — the octets of a part of a tag.
* `uri?` — the octets of a tag or of the suffix of one.
* `YamlCursor.tag?` — the handle and the suffix at the cursor.
* `YamlCursor.handle?` — a handle on its own.
-/

namespace DesiredState

/-- Whether a character can be part of a tag; some only where nothing else can
be meant. -/
def isTagChar (inFull : Bool) (c : Char) : Bool :=
  isNameChar c || ";/?:@&=+$.%!~*'()".toList.contains c ||
    (inFull && (c == ',' || c == '[' || c == ']'))

/-- The octets in front of the first that is zero. -/
def beforeZero (octets : List Char) : List Char := octets.takeWhile (· != '\x00')

/-- The octet of a percent sign and two hexadecimal digits. -/
def percentOctet? : List Char → Option (Nat × List Char)
  | '%' :: a :: b :: rest => (digitsValue? 16 [a, b]).map fun n => (n, rest)
  | _ => none

/-- The length of the sequence that an octet starts. -/
def sequenceLength? (octet : Nat) : Option Nat :=
  if octet < 0x80 then some 1
  else if octet / 0x20 = 6 then some 2
  else if octet / 0x10 = 14 then some 3
  else if octet / 8 = 30 then some 4
  else none

/-- So many octets that continue a sequence. -/
def continuation? : Nat → List Char → Option (List Char × List Char)
  | 0, cs => some ([], cs)
  | n + 1, cs => do
      let (octet, rest) ← percentOctet? cs
      if octet / 0x40 = 2 then
        let (octets, rest) ← continuation? n rest
        some (Char.ofNat octet :: octets, rest)
      else none

/-- The octets of a tag, and what is left behind it. -/
def uriFrom? (inFull : Bool) : Nat → List Char → Option (List Char × List Char)
  | 0, cs => some ([], cs)
  | fuel + 1, cs =>
      match cs with
      | [] => some ([], [])
      | c :: rest =>
          if c == '%' then do
            let (octet, rest) ← percentOctet? cs
            let (octets, rest) ← continuation? ((← sequenceLength? octet) - 1) rest
            let (others, rest) ← uriFrom? inFull fuel rest
            some (Char.ofNat octet :: octets ++ others, rest)
          else if isTagChar inFull c then
            (uriFrom? inFull fuel rest).map fun (octets, rest) => (c :: octets, rest)
          else some ([], cs)

namespace YamlCursor

/-- The octets of a tag at the cursor, and the cursor behind it. -/
def uri? (c : YamlCursor) (inFull : Bool) : Option (List Char × YamlCursor) := do
  let (octets, rest) ← uriFrom? inFull c.rest.length c.rest
  some (octets, c.skip (c.rest.length - rest.length))

/-- A handle at the cursor: an exclamation mark, a name, and an exclamation mark
if there is one. -/
def handle? (c : YamlCursor) : Option (List Char × YamlCursor) :=
  if c.next? == some '!' then
    let (name, after) := (c.skip 1).takeWhile isNameChar
    if after.next? == some '!' then some ('!' :: name ++ ['!'], after.skip 1)
    else some ('!' :: name, after)
  else none

/-- The handle and the suffix of the tag at the cursor.  A name that is no
handle belongs to the suffix, and an exclamation mark on its own is a tag
without a handle. -/
def tag? (c : YamlCursor) : Option (List Char × List Char × YamlCursor) :=
  if c.nextAt? 1 == some '<' then do
    let (suffix, c) ← (c.skip 2).uri? true
    if suffix.isEmpty || c.next? != some '>' then none
    else some ([], beforeZero suffix, c.skip 1)
  else do
    let (handle, c) ← c.handle?
    let (suffix, c) ← c.uri? false
    if handle.length ≥ 2 && handle.getLast? == some '!' then
      if suffix.isEmpty then none else some (handle, beforeZero suffix, c)
    else
      let suffix := beforeZero (handle.drop 1 ++ suffix)
      if suffix.isEmpty then some ([], ['!'], c) else some (['!'], suffix, c)

end YamlCursor

end DesiredState
