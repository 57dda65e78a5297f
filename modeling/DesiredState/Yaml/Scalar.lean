import DesiredState.Number.Reading
import DesiredState.Yaml.Cursor

/-!
# Scalars of a YAML text

A scalar is a text written in one of five styles.  In the plain and the quoted
styles line ends are folded: one between two lines of text becomes a blank, and
of several the first is dropped.  In the block styles the lines are indented,
and the literal one keeps its line ends.

## Main definitions

* `ScalarStyle` — the styles.
* `Gap`, `Gap.fold` — blanks and line ends inside a scalar, and the text they
  become.
* `YamlCursor.plain?`, `YamlCursor.quoted?`, `YamlCursor.block?` — the text of a
  scalar, and the cursor behind it.
-/

namespace DesiredState

/-- The styles of scalars. -/
inductive ScalarStyle where
  | plain
  | singleQuoted
  | doubleQuoted
  | literal
  | folded
  deriving DecidableEq, Repr

/-! ## Blanks and line ends inside a scalar -/

/-- Blanks and line ends between two words of a scalar. -/
structure Gap where
  /-- Whether there is a line end. -/
  isBroken : Bool
  /-- The blanks, when there is no line end. -/
  blanks : List Char
  /-- The first line end. -/
  first : List Char
  /-- The line ends behind the first one. -/
  more : List Char

namespace Gap

/-- Nothing between two words. -/
def none : Gap := ⟨false, [], [], []⟩

/-- A line end that is not to be part of the text. -/
def escaped : Gap := ⟨true, [], [], []⟩

/-- The text that a gap becomes. -/
def fold (g : Gap) : List Char :=
  if g.isBroken then
    if g.first == ['\n'] then (if g.more.isEmpty then [' '] else g.more)
    else g.first ++ g.more
  else g.blanks

end Gap

namespace YamlCursor

/-- Reads the rest of a gap.  A tab in the indentation of a line, before the
column `indent`, is a failure. -/
def gapFrom? (indent : Nat) : Nat → Gap → YamlCursor → Option (Gap × YamlCursor)
  | 0, g, c => some (g, c)
  | fuel + 1, g, c =>
      match c.next? with
      | some x =>
          if isGap x then
            if g.isBroken then
              if x == '\t' && c.column < indent then none
              else gapFrom? indent fuel g (c.skip 1)
            else gapFrom? indent fuel { g with blanks := g.blanks ++ [x] } (c.skip 1)
          else if isLineEnd x then
            let (text, c) := c.takeLineEnd
            gapFrom? indent fuel
              (if g.isBroken then { g with more := g.more ++ text } else ⟨true, [], text, []⟩) c
          else some (g, c)
      | none => some (g, c)

/-- Reads the gap that starts with `g`. -/
def gap? (c : YamlCursor) (indent : Nat) (g : Gap) : Option (Gap × YamlCursor) :=
  gapFrom? indent c.steps g c

/-! ## Plain scalars -/

/-- The characters that structure a flow collection. -/
def isFlowIndicator (c : Char) : Bool :=
  c == ',' || c == '[' || c == ']' || c == '\x7b' || c == '\x7d'

/-- The next word of a plain scalar.  It ends at a blank, at a colon that ends a
key, and in a flow collection at an indicator; there a colon in front of an
indicator is a failure. -/
def plainWord? (inFlow : Bool) : List Char → Option (List Char)
  | [] => some []
  | x :: rest =>
      if isGap x || isLineEnd x then some []
      else if inFlow && x == ':' && rest.head?.any (fun y => isFlowIndicator y || y == '?') then
        none
      else if (x == ':' && endsWord rest.head?) || (inFlow && isFlowIndicator x) then some []
      else (plainWord? inFlow rest).map (x :: ·)

/-- The rest of a plain scalar behind a gap: its text, the cursor behind it, and
whether it ends with a line. -/
def plainFrom? (inFlow : Bool) (indent : Nat) :
    Nat → Gap → YamlCursor → Option (List Char × YamlCursor × Bool)
  | 0, g, c => some ([], c, g.isBroken)
  | fuel + 1, g, c =>
      if c.isAtDocumentMark || c.next? == some '#' then some ([], c, g.isBroken)
      else do
        let word ← plainWord? inFlow c.rest
        if word.isEmpty then some ([], c, g.isBroken)
        else
          let text := g.fold ++ word
          let c := c.skip word.length
          if !(c.isAtGap || c.isAtLineEnd) then some (text, c, false)
          else
            let (g, c) ← c.gap? indent .none
            if !inFlow && c.column < indent then some (text, c, g.isBroken)
            else
              let (rest, c, isBroken) ← plainFrom? inFlow indent fuel g c
              some (text ++ rest, c, isBroken)

/-- The plain scalar at the cursor: its text, the cursor behind it, and whether
it ends with a line.  In block context its lines are indented by `indent`. -/
def plain? (c : YamlCursor) (inFlow : Bool) (indent : Nat) :
    Option (List Char × YamlCursor × Bool) :=
  plainFrom? inFlow indent c.steps .none c

/-! ## Quoted scalars -/

/-- The text of an escape of one letter. -/
def escapeText? : Char → Option (List Char)
  | '0' => some ['\x00']
  | 'a' => some ['\x07']
  | 'b' => some ['\x08']
  | 't' => some ['\t']
  | '\t' => some ['\t']
  | 'n' => some ['\n']
  | 'v' => some ['\x0b']
  | 'f' => some ['\x0c']
  | 'r' => some ['\r']
  | 'e' => some ['\x1b']
  | ' ' => some [' ']
  | '"' => some ['"']
  | '/' => some ['/']
  | '\\' => some ['\\']
  | 'N' => some ['\u0085']
  | '_' => some ['\u00a0']
  | 'L' => some ['\u2028']
  | 'P' => some ['\u2029']
  | _ => none

/-- How many hexadecimal digits follow the letter of an escape by number. -/
def escapeDigits? : Char → Option Nat
  | 'x' => some 2
  | 'u' => some 4
  | 'U' => some 8
  | _ => none

/-- The text of the escape behind a backslash, and its length. -/
def escape? : List Char → Option (List Char × Nat)
  | [] => none
  | letter :: rest =>
      match escapeDigits? letter with
      | some count => do
          let digits := rest.take count
          if digits.length < count then none
          else
            let n ← digitsValue? 16 digits
            if (0xD800 ≤ n && n ≤ 0xDFFF) || n > 0x10FFFF then none
            else some ([Char.ofNat n], count + 1)
      | none => (escapeText? letter).map fun text => (text, 1)

/-- The rest of a quoted scalar behind its opening quote. -/
def quotedFrom? (isSingle : Bool) : Nat → YamlCursor → Option (List Char × YamlCursor)
  | 0, _ => none
  | fuel + 1, c =>
      /- Continues behind `text`, at the cursor `c`. -/
      let andThen (text : List Char) (c : YamlCursor) : Option (List Char × YamlCursor) :=
        (quotedFrom? isSingle fuel c).map fun (rest, c) => (text ++ rest, c)
      if c.isAtDocumentMark then none
      else
        match c.rest with
        | [] => none
        | x :: rest =>
            if isGap x || isLineEnd x then do
              let (g, c) ← c.gap? 0 .none
              andThen g.fold c
            else if isSingle then
              if x == '\'' then
                if rest.head? == some '\'' then andThen ['\''] (c.skip 2) else some ([], c.skip 1)
              else andThen [x] (c.skip 1)
            else if x == '"' then some ([], c.skip 1)
            else if x == '\\' then
              if rest.head?.any isLineEnd then do
                let (g, c) ← (c.skip 1).skipLineEnd.gap? 0 .escaped
                andThen g.fold c
              else do
                let (text, length) ← escape? rest
                andThen text (c.skip (length + 1))
            else andThen [x] (c.skip 1)

/-- The quoted scalar at the cursor. -/
def quoted? (c : YamlCursor) (isSingle : Bool) : Option (List Char × YamlCursor) :=
  quotedFrom? isSingle c.steps (c.skip 1)

/-! ## Block scalars -/

/-- What happens to the line ends at the end of a block scalar. -/
inductive Chomping where
  /-- All are dropped. -/
  | strip
  /-- The first is kept. -/
  | clip
  /-- All are kept. -/
  | keep
  deriving DecidableEq, Repr

/-- The chomping mark of a block scalar. -/
def chompingOf? : Option Char → Option Chomping
  | some '+' => some .keep
  | some '-' => some .strip
  | _ => none

/-- The indentation digit of a block scalar: nothing for another character, and
a failure for zero. -/
def incrementOf? : Option Char → Option (Option Nat)
  | some x =>
      if x == '0' then none else some (if x.isDigit then some (x.toNat - 48) else none)
  | none => some none

/-- The marks of a block scalar in either order: chomping, indentation if it is
given, and the cursor behind them. -/
def blockMarks? (c : YamlCursor) : Option (Chomping × Option Nat × YamlCursor) :=
  match chompingOf? c.next? with
  | some chomping => do
      match ← incrementOf? (c.nextAt? 1) with
      | some n => some (chomping, some n, c.skip 2)
      | none => some (chomping, none, c.skip 1)
  | none => do
      match ← incrementOf? c.next? with
      | some n =>
          match chompingOf? (c.nextAt? 1) with
          | some chomping => some (chomping, some n, c.skip 2)
          | none => some (.clip, some n, c.skip 1)
      | none => some (.clip, none, c)

/-- The line ends in front of the next line of a block scalar, the greatest
column reached, and the cursor.  An `indent` of zero is not known yet. -/
def blockBreaksFrom? (indent : Nat) :
    Nat → Nat → YamlCursor → Option (List Char × Nat × YamlCursor)
  | 0, deepest, c => some ([], deepest, c)
  | fuel + 1, deepest, c =>
      let spaces := (c.rest.takeWhile (· == ' ')).length
      let c := c.skip (if indent = 0 then spaces else min spaces (indent - c.column))
      let deepest := max deepest c.column
      if (indent = 0 || c.column < indent) && c.next? == some '\t' then none
      else if c.isAtLineEnd then do
        let (text, c) := c.takeLineEnd
        let (rest, deepest, c) ← blockBreaksFrom? indent fuel deepest c
        some (text ++ rest, deepest, c)
      else some ([], deepest, c)

/-- The line ends in front of the next line of a block scalar, and the cursor. -/
def blockBreaks? (c : YamlCursor) (indent : Nat) : Option (List Char × YamlCursor) := do
  let (text, _, c) ← blockBreaksFrom? indent c.steps 0 c
  some (text, c)

/-- The lines of a block scalar: the text up to the end of the last one, its
line end, the line ends behind that, and the cursor.  `lineEnd`, `wasIndented`
and `breaks` tell of the line before: its end, whether it starts with a blank,
and the line ends behind it. -/
def blockLinesFrom? (isLiteral : Bool) (indent : Nat) :
    Nat → List Char → Bool → List Char → YamlCursor →
      Option (List Char × List Char × List Char × YamlCursor)
  | 0, lineEnd, _, breaks, c => some ([], lineEnd, breaks, c)
  | fuel + 1, lineEnd, wasIndented, breaks, c =>
      if c.column = indent && !c.rest.isEmpty then do
        let isIndented := c.isAtGap
        let joint :=
          if !isLiteral && lineEnd == ['\n'] && !wasIndented && !isIndented then
            (if breaks.isEmpty then [' '] else [])
          else lineEnd
        let (line, c) := c.takeWhile fun x => !isLineEnd x
        let (nextEnd, c) := c.takeLineEnd
        let (nextBreaks, c) ← c.blockBreaks? indent
        let (rest, lastEnd, lastBreaks, c) ←
          blockLinesFrom? isLiteral indent fuel nextEnd isIndented nextBreaks c
        some (joint ++ breaks ++ line ++ rest, lastEnd, lastBreaks, c)
      else some ([], lineEnd, breaks, c)

/-- The block scalar at the cursor, inside a block that is indented by
`parent`. -/
def block? (c : YamlCursor) (isLiteral : Bool) (parent : Int) :
    Option (List Char × YamlCursor) := do
  let (chomping, increment, c) ← (c.skip 1).blockMarks?
  let c := c.skipWhile isGap
  let c := if c.next? == some '#' then c.skipLine else c
  if !c.rest.isEmpty && !c.isAtLineEnd then none
  else
    let c := c.skipLineEnd
    let given := increment.map fun n => if 0 ≤ parent then parent.toNat + n else n
    let (breaks, deepest, c) ← blockBreaksFrom? (given.getD 0) c.steps 0 c
    let indent := given.getD (max deepest (max (parent + 1).toNat 1))
    let (text, lineEnd, breaks, c) ←
      blockLinesFrom? isLiteral indent c.steps [] false breaks c
    some (text ++ (if chomping = .strip then [] else lineEnd) ++
      (if chomping = .keep then breaks else []), c)

end YamlCursor

end DesiredState
