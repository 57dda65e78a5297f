import DesiredState.Yaml.Scalar
import DesiredState.Yaml.Tag

/-!
# Tokens of a YAML text

A text is cut into tokens.  In block context the structure is given by
indentation, so some tokens stand for columns and not for characters: where an
indentation level begins and ends.

Whether a word is a key shows only behind it, at a colon.  So the place of
every token that may start a key is remembered, one for each open collection,
and the tokens that say so are inserted there afterwards.  A possible key ends
with its line, and after 1024 octets.

## Main definitions

* `YamlToken` — the tokens.
* `YamlScanner` — a text cut up to some point.
* `YamlToken.scan?` — the tokens of a text.
-/

namespace DesiredState

/-- A token of a YAML text. -/
inductive YamlToken where
  | versionDirective (major minor : Nat)
  /-- What a handle stands for. -/
  | tagDirective (handle : List Char) (meaning : List Char)
  | documentStart
  | documentEnd
  | blockSequenceStart
  | blockMappingStart
  | blockEnd
  | flowSequenceStart
  | flowSequenceEnd
  | flowMappingStart
  | flowMappingEnd
  | blockEntry
  | flowEntry
  | key
  | value
  | alias (name : List Char)
  | anchor (name : List Char)
  | tag (handle : List Char) (suffix : List Char)
  | scalar (style : ScalarStyle) (text : String)
  deriving DecidableEq, Repr

/-- A place where a key may start. -/
structure PossibleKey where
  /-- Whether there must be a key. -/
  isRequired : Bool
  /-- How many tokens stand before it. -/
  tokenNumber : Nat
  index : Nat
  line : Nat
  column : Nat

/-- How many octets there may be at most from the start of a key to its colon. -/
def maxKeyLength : Nat := 1024

/-- A text cut up to some point. -/
structure YamlScanner where
  cursor : YamlCursor
  /-- The tokens so far, last first. -/
  tokens : List YamlToken
  /-- How many tokens there are. -/
  count : Nat
  /-- The column of the innermost open block, and -1 outside of all. -/
  indent : Int
  /-- The columns of the blocks around it, innermost first. -/
  indents : List Int
  /-- For each open flow collection, innermost first, and for the block context
  around them, the place where a key may start. -/
  keys : List (Option PossibleKey)
  /-- Whether a key may start here. -/
  keyAllowed : Bool

namespace YamlScanner

/-- The start of a text. -/
def ofText (cs : List Char) : YamlScanner :=
  ⟨.ofText cs, [], 0, -1, [], [none], true⟩

/-- Whether a flow collection is open. -/
def inFlow (s : YamlScanner) : Bool := !(s.keys.drop 1).isEmpty

/-- One more token. -/
def push (s : YamlScanner) (token : YamlToken) : YamlScanner :=
  { s with tokens := token :: s.tokens, count := s.count + 1 }

/-- A token in front of the one with a number. -/
def insertAt (s : YamlScanner) (number : Nat) (token : YamlToken) : YamlScanner :=
  let behind := s.count - number
  { s with
    tokens := s.tokens.take behind ++ token :: s.tokens.drop behind
    count := s.count + 1 }

/-! ## Possible keys -/

/-- The place where a key may start in the innermost collection. -/
def possibleKey? (s : YamlScanner) : Option PossibleKey := s.keys.head?.join

/-- No key can start at the remembered place any more; a failure if there must
be one. -/
def forgetKey? (s : YamlScanner) : Option YamlScanner :=
  if s.possibleKey?.any (·.isRequired) then none
  else some { s with keys := none :: s.keys.drop 1 }

/-- Remembers this place if a key may start here.  In block context there must
be one in the column of the open block. -/
def rememberKey? (s : YamlScanner) : Option YamlScanner :=
  if s.keyAllowed then do
    let s ← s.forgetKey?
    let c := s.cursor
    let key : PossibleKey :=
      ⟨!s.inFlow && s.indent == (c.column : Int), s.count, c.index, c.line, c.column⟩
    some { s with keys := some key :: s.keys.drop 1 }
  else some s

/-- Whether a key that starts at a place can not end at the cursor. -/
def isStale (c : YamlCursor) (key : PossibleKey) : Bool :=
  key.line < c.line || key.index + maxKeyLength < c.index

/-- Forgets the places where a key has become impossible; a failure if there
must be one. -/
def dropStaleKeys? (s : YamlScanner) : Option YamlScanner := do
  let keys ← s.keys.mapM fun key? =>
    match key? with
    | some key =>
        if isStale s.cursor key then (if key.isRequired then none else some none)
        else some (some key)
    | none => some none
  some { s with keys := keys }

/-! ## Indentation -/

/-- Opens a block at a column if that is deeper than the open one; its token
goes in front of the one with the number, or to the end. -/
def openBlock (s : YamlScanner) (column : Nat) (number : Option Nat) (token : YamlToken) :
    YamlScanner :=
  if !s.inFlow && s.indent < (column : Int) then
    let s := { s with indent := column, indents := s.indent :: s.indents }
    match number with
    | some number => s.insertAt number token
    | none => s.push token
  else s

/-- Closes the blocks that are deeper than a column, given the columns of the
blocks around them. -/
def closeBlocksFrom (column : Int) : List Int → YamlScanner → YamlScanner
  | [], s => s
  | outer :: rest, s =>
      if s.indent > column then
        closeBlocksFrom column rest
          { s.push .blockEnd with indent := outer, indents := rest }
      else s

/-- Closes the blocks that are deeper than a column. -/
def closeBlocks (s : YamlScanner) (column : Int) : YamlScanner :=
  if s.inFlow then s else closeBlocksFrom column s.indents s

/-! ## Blanks and comments -/

/-- Skips blanks, comments and line ends, and the byte-order mark that may start
a line.  In block context a key may start behind a line end, and a tab may not
stand where a key may start. -/
def skipBlanks : Nat → YamlScanner → YamlScanner
  | 0, s => s
  | fuel + 1, s =>
      let c := s.cursor
      let c := if c.column = 0 && c.next? == some '\ufeff' then c.skip 1 else c
      let c := c.skipWhile fun x => x == ' ' || (x == '\t' && (s.inFlow || !s.keyAllowed))
      let c := if c.next? == some '#' then c.skipLine else c
      if c.isAtLineEnd then
        skipBlanks fuel { s with cursor := c.skipLineEnd, keyAllowed := s.keyAllowed || !s.inFlow }
      else { s with cursor := c }

/-! ## Directives -/

/-- A number of at most nine digits. -/
def versionNumber? (c : YamlCursor) : Option (Nat × YamlCursor) :=
  let (digits, c) := c.takeWhile Char.isDigit
  if digits.isEmpty || digits.length > 9 then none else some (digitsValue digits, c)

/-- The token of the directive at the cursor, and the cursor behind it. -/
def directive? (c : YamlCursor) : Option (YamlToken × YamlCursor) := do
  let (name, c) := (c.skip 1).takeWhile isNameChar
  if name.isEmpty || !endsWord c.next? then none
  else
    let c := c.skipWhile isGap
    match String.ofList name with
    | "YAML" =>
        let (major, c) ← versionNumber? c
        if c.next? != some '.' then none
        else
          let (minor, c) ← versionNumber? (c.skip 1)
          some (.versionDirective major minor, c)
    | "TAG" =>
        let (handle, c) ← c.handle?
        if handle != ['!'] && handle.getLast? != some '!' then none
        else if !c.isAtGap then none
        else
          let (meaning, c) ← (c.skipWhile isGap).uri? true
          if meaning.isEmpty || !endsWord c.next? then none
          else some (.tagDirective handle (beforeZero meaning), c)
    | _ => none

/-- Reads the line of a directive. -/
def takeDirective? (s : YamlScanner) : Option YamlScanner := do
  let s ← (s.closeBlocks (-1)).forgetKey?
  let (token, c) ← directive? s.cursor
  let c := c.skipWhile isGap
  let c := if c.next? == some '#' then c.skipLine else c
  if !c.rest.isEmpty && !c.isAtLineEnd then none
  else some { s.push token with cursor := c.skipLineEnd, keyAllowed := false }

/-! ## Tokens -/

/-- Reads the mark of the start or the end of a document. -/
def takeDocumentMark? (s : YamlScanner) (token : YamlToken) : Option YamlScanner := do
  let s ← (s.closeBlocks (-1)).forgetKey?
  some { s.push token with cursor := s.cursor.skip 3, keyAllowed := false }

/-- Reads the start of a flow collection. -/
def takeFlowStart? (s : YamlScanner) (token : YamlToken) : Option YamlScanner := do
  let s ← s.rememberKey?
  some { s.push token with
    cursor := s.cursor.skip 1, keys := none :: s.keys, keyAllowed := true }

/-- Reads the end of a flow collection. -/
def takeFlowEnd? (s : YamlScanner) (token : YamlToken) : Option YamlScanner := do
  let s ← s.forgetKey?
  let keys := if s.inFlow then s.keys.drop 1 else s.keys
  some { s.push token with cursor := s.cursor.skip 1, keys := keys, keyAllowed := false }

/-- Reads the comma of a flow collection. -/
def takeFlowEntry? (s : YamlScanner) : Option YamlScanner := do
  let s ← s.forgetKey?
  some { s.push .flowEntry with cursor := s.cursor.skip 1, keyAllowed := true }

/-- Reads a mark that opens a block in its column where it may stand. -/
def takeBlockMark? (s : YamlScanner) (block token : YamlToken) (keyAllowed : Bool) :
    Option YamlScanner := do
  if !s.inFlow && !s.keyAllowed then none
  else
    let s ← (s.openBlock s.cursor.column none block).forgetKey?
    some { s.push token with cursor := s.cursor.skip 1, keyAllowed := keyAllowed }

/-- Reads the colon behind a key.  If a key may have started, it did. -/
def takeValue? (s : YamlScanner) : Option YamlScanner :=
  match s.possibleKey? with
  | some key =>
      let s := (s.insertAt key.tokenNumber .key).openBlock key.column
        (some key.tokenNumber) .blockMappingStart
      some { s.push .value with
        cursor := s.cursor.skip 1, keys := none :: s.keys.drop 1, keyAllowed := false }
  | none =>
      if !s.inFlow && !s.keyAllowed then none
      else
        let s := s.openBlock s.cursor.column none .blockMappingStart
        some { s.push .value with cursor := s.cursor.skip 1, keyAllowed := !s.inFlow }

/-- Reads the name of an anchor or an alias. -/
def takeName? (s : YamlScanner) (token : List Char → YamlToken) : Option YamlScanner := do
  let s ← s.rememberKey?
  let (name, c) := (s.cursor.skip 1).takeWhile isNameChar
  let ends := endsWord c.next? || c.next?.any fun x => "?:,]\x7d%@`".toList.contains x
  if name.isEmpty || !ends then none
  else some { s.push (token name) with cursor := c, keyAllowed := false }

/-- Reads a tag. -/
def takeTag? (s : YamlScanner) : Option YamlScanner := do
  let s ← s.rememberKey?
  let (handle, suffix, c) ← s.cursor.tag?
  if !endsWord c.next? && !(s.inFlow && c.next? == some ',') then none
  else some { s.push (.tag handle suffix) with cursor := c, keyAllowed := false }

/-- Reads a block scalar. -/
def takeBlockScalar? (s : YamlScanner) (isLiteral : Bool) : Option YamlScanner := do
  let s ← s.forgetKey?
  let (text, c) ← s.cursor.block? isLiteral s.indent
  let style := if isLiteral then ScalarStyle.literal else .folded
  some { s.push (.scalar style (String.ofList text)) with cursor := c, keyAllowed := true }

/-- Reads a quoted scalar. -/
def takeQuoted? (s : YamlScanner) (isSingle : Bool) : Option YamlScanner := do
  let s ← s.rememberKey?
  let (text, c) ← s.cursor.quoted? isSingle
  let style := if isSingle then ScalarStyle.singleQuoted else .doubleQuoted
  some { s.push (.scalar style (String.ofList text)) with cursor := c, keyAllowed := false }

/-- Reads a plain scalar. -/
def takePlain? (s : YamlScanner) : Option YamlScanner := do
  let s ← s.rememberKey?
  let (text, c, endsLine) ← s.cursor.plain? s.inFlow (s.indent + 1).toNat
  some { s.push (.scalar .plain (String.ofList text)) with cursor := c, keyAllowed := endsLine }

/-- Whether a plain scalar can start with a character, given the next one. -/
def startsPlain (inFlow : Bool) (x : Char) (next? : Option Char) : Bool :=
  if x == '-' then !next?.any isGap
  else if x == '?' || x == ':' then !inFlow && !endsWord next?
  else !endsWord (some x) && !",[]\x7b\x7d#&*!|>'\"%@`".toList.contains x

/-- Reads the token that starts with the character `x` at the cursor. -/
def takeAt? (s : YamlScanner) (x : Char) : Option YamlScanner :=
  let c := s.cursor
  let endsNext := endsWord (c.nextAt? 1)
  if x == '%' && c.column = 0 then s.takeDirective?
  else if c.isAtMark '-' then s.takeDocumentMark? .documentStart
  else if c.isAtMark '.' then s.takeDocumentMark? .documentEnd
  else if x == '[' then s.takeFlowStart? .flowSequenceStart
  else if x == '\x7b' then s.takeFlowStart? .flowMappingStart
  else if x == ']' then s.takeFlowEnd? .flowSequenceEnd
  else if x == '\x7d' then s.takeFlowEnd? .flowMappingEnd
  else if x == ',' then s.takeFlowEntry?
  else if x == '-' && endsNext then s.takeBlockMark? .blockSequenceStart .blockEntry true
  else if x == '?' && (s.inFlow || endsNext) then
    s.takeBlockMark? .blockMappingStart .key !s.inFlow
  else if x == ':' && (s.inFlow || endsNext) then s.takeValue?
  else if x == '*' then s.takeName? .alias
  else if x == '&' then s.takeName? .anchor
  else if x == '!' then s.takeTag?
  else if (x == '|' || x == '>') && !s.inFlow then s.takeBlockScalar? (x == '|')
  else if x == '\'' || x == '"' then s.takeQuoted? (x == '\'')
  else if startsPlain s.inFlow x (c.nextAt? 1) then s.takePlain?
  else none

/-- Closes what is open at the end of a text. -/
def finish? (s : YamlScanner) : Option YamlScanner := (s.closeBlocks (-1)).forgetKey?

/-- Reads to the end of a text; each step takes at least one character. -/
def run? : Nat → YamlScanner → Option YamlScanner
  | 0, s => some s
  | fuel + 1, s => do
      let s ← (skipBlanks s.cursor.steps s).dropStaleKeys?
      let s := s.closeBlocks s.cursor.column
      match s.cursor.next? with
      | none => s.finish?
      | some x => run? fuel (← s.takeAt? x)

end YamlScanner

/-- The tokens of a text. -/
def YamlToken.scan? (cs : List Char) : Option (List YamlToken) :=
  if cs.all isDocumentChar then
    (YamlScanner.run? (cs.length + 1) (.ofText cs)).map fun s => s.tokens.reverse
  else none

end DesiredState
