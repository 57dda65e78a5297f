/-!
# Positions in a YAML text

A document is read from front to back.  The cursor is what is left of it,
together with the place reached: how many octets and lines came before, and how
many characters of the line.  Columns decide on structure, so every step keeps
them exact.

A line ends at a line feed, a carriage return or both, a next-line character,
or a line or paragraph separator.  When a line end becomes part of a text, the
separators stay what they are and all others become line feeds.

## Main definitions

* `isDocumentChar` — the characters a document may hold.
* `isLineEnd`, `isGap`, `endsWord` — line ends, blanks in a line, and what ends a
  word.
* `YamlCursor` — what is left, and the place.
-/

namespace DesiredState

/-- Whether a document may hold the character at all. -/
def isDocumentChar (c : Char) : Bool :=
  let n := c.toNat
  n == 0x09 || n == 0x0A || n == 0x0D || (0x20 ≤ n && n ≤ 0x7E) || n == 0x85 ||
    (0xA0 ≤ n && n ≤ 0xD7FF) || (0xE000 ≤ n && n ≤ 0xFFFD) || 0x10000 ≤ n

/-- Whether a character ends a line. -/
def isLineEnd (c : Char) : Bool :=
  c == '\n' || c == '\r' || c == '\u0085' || c == '\u2028' || c == '\u2029'

/-- Whether a character is a blank inside a line. -/
def isGap (c : Char) : Bool := c == ' ' || c == '\t'

/-- Whether a word ends in front of what comes next: a blank, a line end, or
nothing. -/
def endsWord : Option Char → Bool
  | none => true
  | some c => isGap c || isLineEnd c

/-- Whether a character can be part of a name. -/
def isNameChar (c : Char) : Bool := c.isAlphanum || c == '_' || c == '-'

/-- How many octets of UTF-8 characters take. -/
def octetCount : List Char → Nat
  | [] => 0
  | c :: rest => c.utf8Size + octetCount rest

/-- What is left of a document, and how much of it was read. -/
structure YamlCursor where
  rest : List Char
  /-- How many octets of UTF-8 were read. -/
  index : Nat
  /-- How many lines were read. -/
  line : Nat
  /-- How many characters of the line were read. -/
  column : Nat
  /-- How many steps it takes at most to read what is left, one for each
  character. -/
  steps : Nat

namespace YamlCursor

/-- The start of a document. -/
def ofText (cs : List Char) : YamlCursor := ⟨cs, 0, 0, 0, cs.length + 1⟩

/-- The next character. -/
def next? (c : YamlCursor) : Option Char := c.rest.head?

/-- The character behind the next `n` ones. -/
def nextAt? (c : YamlCursor) (n : Nat) : Option Char := c.rest[n]?

/-- The cursor behind the next `n` characters, none of which ends a line. -/
def skip (c : YamlCursor) (n : Nat) : YamlCursor :=
  let octets := octetCount (c.rest.take n)
  { c with rest := c.rest.drop n, index := c.index + octets, column := c.column + n }

/-- The next characters of a kind that holds no line ends, and the cursor
behind them. -/
def takeWhile (c : YamlCursor) (p : Char → Bool) : List Char × YamlCursor :=
  let cs := c.rest.takeWhile p
  (cs, c.skip cs.length)

/-- The cursor behind the next characters of a kind that holds no line ends. -/
def skipWhile (c : YamlCursor) (p : Char → Bool) : YamlCursor := (c.takeWhile p).2

/-- The text of the line end at the cursor, empty if there is none, and the
cursor behind it. -/
def takeLineEnd (c : YamlCursor) : List Char × YamlCursor :=
  let behind (rest : List Char) (n : Nat) : YamlCursor :=
    { c with rest := rest, index := c.index + n, line := c.line + 1, column := 0 }
  match c.rest with
  | '\r' :: '\n' :: rest => (['\n'], behind rest 2)
  | x :: rest =>
      let after := behind rest x.utf8Size
      if x == '\u2028' || x == '\u2029' then ([x], after)
      else if isLineEnd x then (['\n'], after)
      else ([], c)
  | [] => ([], c)

/-- The cursor behind the line end at the cursor. -/
def skipLineEnd (c : YamlCursor) : YamlCursor := c.takeLineEnd.2

/-- Whether a line that starts here marks the start or the end of a document
with three times the character `x`. -/
def isAtMark (c : YamlCursor) (x : Char) : Bool :=
  c.column == 0 && [x, x, x].isPrefixOf c.rest && endsWord (c.nextAt? 3)

/-- Whether a line that starts here marks the start or the end of a document. -/
def isAtDocumentMark (c : YamlCursor) : Bool := c.isAtMark '-' || c.isAtMark '.'

/-- Whether the next character ends a line. -/
def isAtLineEnd (c : YamlCursor) : Bool := c.next?.any isLineEnd

/-- Whether the next character is a blank inside a line. -/
def isAtGap (c : YamlCursor) : Bool := c.next?.any isGap

/-- The cursor in front of the end of the line. -/
def skipLine (c : YamlCursor) : YamlCursor := c.skipWhile fun x => !isLineEnd x

end YamlCursor

end DesiredState
