import DesiredState.Unix.Pattern.Reading

/-!
# Scripts that edit lines

A script is made of commands, each for the lines that a selector takes.  A command is one
letter with what belongs to it, and commands may be put together in braces.

## Main definitions

* `EditScript`, `EditCommand`, `LineSelector`, `Edit` — scripts.
* `EditScript.read` — the script that texts spell, or why they spell none.
-/

namespace DesiredState.Tools

open Pattern

/-- A line that is asked for. -/
inductive LineAddress where
  | number (n : Nat)
  /-- Every so many lines from one on. -/
  | every (first step : Nat)
  | last
  /-- Lines in which an expression occurs: the last one that was used, if none is given. -/
  | having (r? : Option Regex) (hasLines : Bool)

/-- Where a range of lines ends. -/
inductive RangeEnd where
  | at (a : LineAddress)
  /-- So many lines later. -/
  | later (n : Nat)
  /-- At a line whose number is a multiple. -/
  | multiple (n : Nat)

/-- Which lines a command is for. -/
structure LineSelector where
  first? : Option LineAddress
  last? : Option RangeEnd
  isNegated : Bool

/-- A change of the case of letters: of all that follow, or of the next one. -/
inductive CaseChange where
  | upper
  | lower
  | upperNext
  | lowerNext
  | keep
  deriving DecidableEq, Repr

/-- A part of what is put in the place of an occurrence. -/
inductive ReplacementPart where
  | text (cs : List Char)
  | group (number : Nat)
  | casing (c : CaseChange)

/-- Putting a text in the place of occurrences. -/
structure Substitution where
  regex? : Option Regex
  hasLines : Bool
  parts : List ReplacementPart
  isGlobal : Bool
  prints : Bool
  runs : Bool
  /-- The first occurrence that is replaced. -/
  number : Nat
  file? : Option (List Char)

/-- When a jump is taken. -/
inductive JumpRule where
  | always
  | ifReplaced
  | ifNotReplaced
  deriving DecidableEq, Repr

/-- What is done with a line. -/
inductive Edit where
  /-- The start of commands that belong together, which end at a place. -/
  | openBlock (last : Nat)
  | closeBlock
  | jump (rule : JumpRule) (label : List Char)
  | mark (label : List Char)
  | insertText (text : List Char)
  | appendText (text : List Char)
  | changeText (text : List Char)
  | delete
  | deleteFirst
  | printAll
  | printFirst
  | get
  | getMore
  | keep
  | keepMore
  | exchange
  | next
  | nextMore
  | lineNumber
  | list (width? : Option Nat)
  | quit (status : Nat) (prints : Bool)
  | readFile (name : List Char)
  | readLine (name : List Char)
  | writeFile (name : List Char)
  | writeFirst (name : List Char)
  | substitute (s : Substitution)
  | transliterate (pairs : List (Char × Char))
  | fileName
  | clear
  | runCommand (command : List Char)

/-- A command of a script. -/
structure EditCommand where
  selector : LineSelector
  edit : Edit

/-- A script. -/
structure EditScript where
  commands : Array EditCommand
  /-- Whether the first line says that nothing is written unasked. -/
  isSilent : Bool

/-- How a script is spelled. -/
structure EditDialect where
  isExtended : Bool
  isSandboxed : Bool

/-- Why a text spells no script: what is wrong, and how many letters were read. -/
structure ScriptFault where
  words : List Char
  position : Nat

/-- The state of reading a script: what is left of a text, how long it was, the commands that
were read, last one first, and the places of braces that are open. -/
structure ScriptState where
  rest : List Char
  length : Nat
  isFirst : Bool
  commands : List EditCommand
  count : Nat
  opened : List Nat
  isSilent : Bool

namespace EditScript

/-- A step of reading. -/
abbrev Step := StateT ScriptState (Except ScriptFault)

/-- Fails at the letter that was read last. -/
def fail {α : Type} (words : String) : Step α := do
  let s ← get
  throw ⟨words.toList, s.length - s.rest.length⟩

/-- The next letter, if there is one. -/
def next? : Step (Option Char) := do
  let s ← get
  match s.rest with
  | c :: rest =>
      set { s with rest := rest }
      return some c
  | [] => return none

/-- What is left. -/
def rest : Step (List Char) := return (← get).rest

/-- Sets what is left. -/
def setRest (cs : List Char) : Step Unit := modify fun s => { s with rest := cs }

/-- Drops letters. -/
def skipWhile (p : Char → Bool) : Step Unit := do setRest ((← rest).dropWhile p)

/-- Whether a letter is a blank inside of a line. -/
def isGap (c : Char) : Bool := c == ' ' || c == '\t'

/-- The next letter behind blanks, if there is one. -/
def nextBehindGap? : Step (Option Char) := do
  skipWhile isGap
  next?

/-- Takes the letters that fit. -/
def takeWhile (p : Char → Bool) : Step (List Char) := do
  let taken := (← rest).takeWhile p
  setRest ((← rest).drop taken.length)
  return taken

/-- The number of digits. -/
def number : Step Nat := do return digitsValue (← takeWhile Char.isDigit)

/-! ## Texts between delimiters -/

/-- How far a class in brackets was read. -/
inductive ClassState where
  | outside
  /-- Behind a bracket. -/
  | opened
  /-- Inside, up to a mark. -/
  | inside (mark : Char)
  /-- Behind such a mark. -/
  | closing (mark : Char)
  deriving DecidableEq, Repr

/-- What stands in brackets up to the closing one, with that, and what follows; or where the
line ends. -/
def bracketed : ClassState → List Char → Except (List Char) (List Char × List Char)
  | _, [] => .error []
  | state, c :: rest =>
      let goOn (state : ClassState) : Except (List Char) (List Char × List Char) :=
        (bracketed state rest).map fun (text, rest) => (c :: text, rest)
      if c = '\n' then .error (c :: rest)
      else
        match state with
        | .outside =>
            if c = ']' then .ok ([c], rest) else goOn (if c = '[' then .opened else .outside)
        | .opened =>
            if c = ']' then .ok ([c], rest)
            else if c = '.' || c = ':' || c = '=' then goOn (.inside c)
            else goOn .outside
        | .inside mark => goOn (if c = mark then .closing mark else .inside mark)
        | .closing mark =>
            if c = ']' then goOn .outside
            else goOn (if c = mark then .closing mark else .inside mark)

/-- The start of brackets that does not end them: a sign that negates them, and a closing
bracket. -/
def bracketStart (cs : List Char) : List Char :=
  let sign := if cs.head? = some '^' then ['^'] else []
  if (cs.drop sign.length).head? = some ']' then sign ++ [']'] else sign

/-- The text up to a delimiter, and what follows; or where its line ends. -/
def upTo (delimiter : Char) (isRegex : Bool) :
    (fuel : Nat) → List Char → List Char → Except (List Char) (List Char × List Char)
  | 0, cs, _ => .error cs
  | fuel + 1, cs, done =>
      match cs with
      | [] => .error []
      | '\\' :: c :: rest =>
          if c = delimiter then
            upTo delimiter isRegex fuel rest
              (if !isRegex && c = '&' then c :: '\\' :: done else c :: done)
          else if c = 'n' && isRegex then upTo delimiter isRegex fuel rest ('\n' :: done)
          else if c = '\n' then
            upTo delimiter isRegex fuel rest (if isRegex then c :: done else c :: '\\' :: done)
          else upTo delimiter isRegex fuel rest (c :: '\\' :: done)
      | c :: rest =>
          if c = delimiter then .ok (done.reverse, rest)
          else if c = '\n' then .error cs
          else if c = '[' && isRegex then do
            let start := bracketStart rest
            let (text, rest) ← bracketed .outside (rest.drop start.length)
            upTo delimiter isRegex fuel rest ((c :: start ++ text).reverse ++ done)
          else upTo delimiter isRegex fuel rest (c :: done)

/-- The text up to a delimiter. -/
def takeUpTo (delimiter : Char) (isRegex : Bool) (complaint : String) : Step (List Char) := do
  let cs ← rest
  match upTo delimiter isRegex (cs.length + 1) cs [] with
  | .ok (text, rest) =>
      setRest rest
      return text
  | .error rest => do
      setRest rest
      fail complaint

/-- The letter that an escape with a number stands for, and what follows. -/
def numberedLetter? (base digits : Nat) (cs : List Char) : Option (Char × List Char) :=
  let taken := (cs.take digits).takeWhile fun c => (digitValue? base c).isSome
  if taken.isEmpty then none
  else
    let n := ((digitsValue? base taken).getD 0) % 256
    let c := if n < 0x80 then Char.ofNat n else strayOctet n
    some (c, cs.drop taken.length)

/-- The letter that an escape stands for, and what follows, if it is one that stands for a
letter everywhere. -/
def escape? (cs : List Char) : Option (Char × List Char) :=
  match cs with
  | 'a' :: rest => some ('\x07', rest)
  | 'f' :: rest => some ('\x0c', rest)
  | 'n' :: rest => some ('\n', rest)
  | 'r' :: rest => some ('\r', rest)
  | 't' :: rest => some ('\t', rest)
  | 'v' :: rest => some ('\x0b', rest)
  | 'c' :: c :: rest => some (Char.ofNat (c.toUpper.toNat ^^^ 0x40), rest)
  | 'd' :: rest => numberedLetter? 10 3 rest
  | 'o' :: rest => numberedLetter? 8 3 rest
  | 'x' :: rest => numberedLetter? 16 2 rest
  | _ => none

/-- A text in which escapes are the letters that they stand for; those of `special` letters
keep a backslash. -/
def withLetters (special : List Char) : (fuel : Nat) → List Char → List Char
  | 0, cs => cs
  | fuel + 1, cs =>
      match cs with
      | '\\' :: rest =>
          match escape? rest with
          | some (c, behind) =>
              let isNumbered := ["d".toList, "o".toList, "x".toList].contains (rest.take 1)
              (if isNumbered && special.contains c then ['\\', c] else [c]) ++
                withLetters special fuel behind
          | none =>
              match rest with
              | c :: behind => '\\' :: c :: withLetters special fuel behind
              | [] => ['\\']
      | c :: rest => c :: withLetters special fuel rest
      | [] => []

/-- A text without the backslashes in front of letters. -/
def withoutBackslashes : List Char → List Char
  | '\\' :: c :: rest => c :: withoutBackslashes rest
  | ['\\'] => []
  | c :: rest => c :: withoutBackslashes rest
  | [] => []

/-- The expression of a text; nothing if the text is empty. -/
def regex? (d : EditDialect) (ignoresCase isModified : Bool) (text : List Char) :
    Step (Option Regex) := do
  if text.isEmpty then
    if isModified then fail "cannot specify modifiers on empty regexp" else return none
  else
    match Regex.read ⟨d.isExtended, true, ignoresCase⟩ (withLetters [] text.length text) with
    | .ok (r, _) => return some r
    | .error fault => fail fault.message

/-! ## Selectors -/

/-- The letters behind an expression that say how it is meant. -/
def modifiers : Nat → Step (Bool × Bool)
  | 0 => return (false, false)
  | fuel + 1 => do
      let before ← rest
      match ← nextBehindGap? with
      | some 'I' => do
          let (_, hasLines) ← modifiers fuel
          return (true, hasLines)
      | some 'M' => do
          let (ignoresCase, _) ← modifiers fuel
          return (ignoresCase, true)
      | _ => do
          setRest (before.dropWhile isGap)
          return (false, false)

/-- The line that a text asks for from its first letter on, if it asks for one. -/
def address? (d : EditDialect) (c : Char) : Step (Option LineAddress) := do
  if c = '/' || c = '\\' then
    let delimiter? ← if c = '\\' then next? else pure (some c)
    match delimiter? with
    | none => fail "unterminated address regex"
    | some delimiter => do
        let text ← takeUpTo delimiter true "unterminated address regex"
        let (ignoresCase, hasLines) ← modifiers (← rest).length
        let r? ← regex? d ignoresCase (ignoresCase || hasLines) text
        return some (.having r? hasLines)
  else if c.isDigit then
    setRest (c :: (← rest))
    let first ← number
    skipWhile isGap
    if (← rest).head? = some '~' then
      setRest ((← rest).drop 1)
      skipWhile isGap
      let step ← number
      return some (if step = 0 then .number first else .every first step)
    else return some (.number first)
  else if c = '$' then return some .last
  else return none

/-- The end of a range from its first letter on, if it is one. -/
def rangeEnd? (d : EditDialect) (c : Char) : Step (Option RangeEnd) := do
  if c = '+' || c = '~' then
    skipWhile isGap
    let n ← number
    return some (if c = '+' then .later n else .multiple n)
  else return (← address? d c).map .at

/-- The selector at the start of a command, and the letter behind it. -/
def selector (d : EditDialect) (c : Char) : Step (LineSelector × Option Char) := do
  if c = '+' || c = '~' then
    skipWhile isGap
    discard number
    fail "invalid usage of +N or ~N as first address"
  let first? ← address? d c
  let (last?, sign?) ← match first? with
    | none => pure (none, some c)
    | some _ => do
        match ← nextBehindGap? with
        | some ',' => do
            match ← nextBehindGap? with
            | none => fail "unexpected `,'"
            | some c => do
                match ← rangeEnd? d c with
                | none => fail "unexpected `,'"
                | some last => do pure (some last, ← nextBehindGap?)
        | sign? => pure (none, sign?)
  let isZero := match first?, last? with
    | some (.number 0), some (.at (.having _ _)) => false
    | some (.number 0), _ => true
    | _, _ => false
  if isZero then fail "invalid usage of line address 0"
  if sign? = some '!' then
    let sign? ← nextBehindGap?
    if sign? = some '!' then fail "multiple `!'s"
    return (⟨first?, last?, true⟩, sign?)
  else return (⟨first?, last?, false⟩, sign?)

/-! ## Commands -/

/-- Nothing but the end of a command may follow. -/
def endOfCommand : Step Unit := do
  match ← nextBehindGap? with
  | none | some '\n' | some ';' => return ()
  | some c =>
      if c = '\x7d' || c = '#' then setRest (c :: (← rest))
      else fail "extra characters after command"

/-- The name of a place in a script. -/
def label : Step (List Char) := do
  skipWhile isGap
  takeWhile fun c => !c.isWhitespace && c != ';' && c != '\x7d'

/-- The name of a file, which takes all of a line. -/
def fileNameOf (d : EditDialect) : Step (List Char) := do
  if d.isSandboxed then fail "e/r/w commands disabled in sandbox mode"
  skipWhile isGap
  let name ← takeWhile (· != '\n')
  setRest ((← rest).drop 1)
  if name.isEmpty then fail "missing filename in r/R/w/W commands"
  return octetsOfLetters name

/-- A text that goes on behind lines that end with a backslash, and what follows. -/
def textLines : (fuel : Nat) → List Char → List Char → List Char × List Char
  | 0, cs, done => (done.reverse, cs)
  | fuel + 1, cs, done =>
      match cs with
      | [] => (done.reverse, [])
      | '\n' :: rest => (done.reverse, rest)
      | '\\' :: c :: rest => textLines fuel rest (c :: '\\' :: done)
      | c :: rest => textLines fuel rest (c :: done)

/-- The text that belongs to a command. -/
def textOfCommand : Step (List Char) := do
  skipWhile isGap
  let cs ← rest
  match cs with
  | [] => fail "expected \\ after `a', `c' or `i'"
  | _ =>
      let content := match cs with
        | '\\' :: more =>
            match more.dropWhile isGap with
            | '\n' :: content => content
            | _ => more
        | cs => cs
      let (text, rest) := textLines (content.length + 1) content []
      setRest rest
      let letters := withLetters [] text.length text
      return octetsOfLetters (withoutBackslashes letters) ++
        (if content.isEmpty then [] else ['\n'])

/-- The parts of what is put in the place of an occurrence. -/
def replacementParts : (fuel : Nat) → List Char → List ReplacementPart
  | 0, _ => []
  | fuel + 1, cs =>
      let casing (c : CaseChange) (rest : List Char) : List ReplacementPart :=
        .casing c :: replacementParts fuel rest
      match cs with
      | [] => []
      | '&' :: rest => .group 0 :: replacementParts fuel rest
      | '\\' :: 'U' :: rest => casing .upper rest
      | '\\' :: 'L' :: rest => casing .lower rest
      | '\\' :: 'E' :: rest => casing .keep rest
      | '\\' :: 'u' :: rest => casing .upperNext rest
      | '\\' :: 'l' :: rest => casing .lowerNext rest
      | '\\' :: c :: rest =>
          if c.isDigit then .group (c.toNat - 48) :: replacementParts fuel rest
          else .text [c] :: replacementParts fuel rest
      | c :: rest =>
          let more := rest.takeWhile fun c => c != '&' && c != '\\'
          .text (c :: more) :: replacementParts fuel (rest.drop more.length)

/-- The flags behind what is put in the place of an occurrence. -/
structure SubstitutionFlags where
  isGlobal : Bool
  prints : Bool
  runs : Bool
  ignoresCase : Bool
  hasLines : Bool
  number? : Option Nat
  file? : Option (List Char)

/-- The flags at the end of a substitution. -/
def substitutionFlags (d : EditDialect) : Nat → SubstitutionFlags → Step SubstitutionFlags
  | 0, f => return f
  | fuel + 1, f => do
      match ← next? with
      | none | some '\n' | some ';' => return f
      | some c =>
          if isGap c then substitutionFlags d fuel f
          else if c = '\x7d' || c = '#' then
            setRest (c :: (← rest))
            return f
          else if c.isDigit then
            if f.number?.isSome then fail "multiple number options to `s' command"
            setRest (c :: (← rest))
            let n ← number
            if n = 0 then fail "number option to `s' command may not be zero"
            substitutionFlags d fuel { f with number? := some n }
          else
            match c with
            | 'i' | 'I' => substitutionFlags d fuel { f with ignoresCase := true }
            | 'm' | 'M' => substitutionFlags d fuel { f with hasLines := true }
            | 'e' =>
                if d.isSandboxed then fail "e/r/w commands disabled in sandbox mode"
                substitutionFlags d fuel { f with runs := true }
            | 'p' =>
                if f.prints then fail "multiple `p' options to `s' command"
                substitutionFlags d fuel { f with prints := true }
            | 'g' =>
                if f.isGlobal then fail "multiple `g' options to `s' command"
                substitutionFlags d fuel { f with isGlobal := true }
            | 'w' => return { f with file? := some (← fileNameOf d) }
            | _ => fail "unknown option to `s'"

/-- The number of groups of an expression. -/
def groupCount : Regex → Nat
  | .group n a => max n (groupCount a)
  | .sequence a b | .choice a b => max (groupCount a) (groupCount b)
  | .repeated a _ _ => groupCount a
  | _ => 0

/-- A substitution behind its letter. -/
def substitution (d : EditDialect) : Step Substitution := do
  let complaint := "unterminated `s' command"
  match ← next? with
  | none => fail complaint
  | some delimiter => do
      if delimiter = '\n' || delimiter = '\\' then fail complaint
      let pattern ← takeUpTo delimiter true complaint
      let text ← takeUpTo delimiter false complaint
      let flags ← substitutionFlags d ((← rest).length + 1)
        ⟨false, false, false, false, false, none, none⟩
      let r? ← regex? d flags.ignoresCase (flags.ignoresCase || flags.hasLines) pattern
      let parts := replacementParts (text.length + 1) (withLetters ['&', '\\'] text.length text)
      let highest := (parts.map fun part =>
        match part with
        | .group n => n
        | _ => 0).foldl max 0
      match r? with
      | some r =>
          if groupCount r < highest then
            fail (String.ofList ("invalid reference \\".toList ++ Nat.toDigits 10 highest ++
              " on `s' command's RHS".toList))
      | none => pure ()
      return ⟨r?, flags.hasLines, parts, flags.isGlobal, flags.prints, flags.runs,
        flags.number?.getD 1, flags.file?⟩

/-- The letters of a text of a transliteration. -/
def transliterated : List Char → List Char
  | '\\' :: '\\' :: rest => '\\' :: transliterated rest
  | '\\' :: c :: rest => c :: transliterated rest
  | c :: rest => c :: transliterated rest
  | [] => []

/-- A transliteration behind its letter. -/
def transliteration : Step (List (Char × Char)) := do
  let complaint := "unterminated `y' command"
  match ← next? with
  | none => fail complaint
  | some delimiter => do
      let spelled (cs : List Char) : List Char :=
        transliterated (withLetters ['\\'] cs.length cs)
      let old := spelled (← takeUpTo delimiter false complaint)
      let new := spelled (← takeUpTo delimiter false complaint)
      if old.length ≠ new.length then fail "strings for `y' command are different lengths"
      endOfCommand
      return old.zip new

/-- The number behind a command, if there is one. -/
def numberOfCommand? : Step (Option Nat) := do
  skipWhile isGap
  let n? ← if (← rest).head?.any Char.isDigit then pure (some (← number)) else pure none
  endOfCommand
  return n?

/-- The command of a letter with nothing that belongs to it. -/
def plainEdit? : Char → Option Edit
  | '=' => some .lineNumber
  | 'd' => some .delete
  | 'D' => some .deleteFirst
  | 'F' => some .fileName
  | 'g' => some .get
  | 'G' => some .getMore
  | 'h' => some .keep
  | 'H' => some .keepMore
  | 'n' => some .next
  | 'N' => some .nextMore
  | 'p' => some .printAll
  | 'P' => some .printFirst
  | 'x' => some .exchange
  | 'z' => some .clear
  | _ => none

/-- What is done by the command of a letter, if it does something. -/
def edit (d : EditDialect) (selector : LineSelector) (c : Char) : Step (Option Edit) := do
  let jump (rule : JumpRule) : Step (Option Edit) := do
    let name ← label
    return some (.jump rule name)
  match c with
  | '#' => do
      if selector.first?.isSome then fail "comments don't accept any addresses"
      let s ← get
      let isSilent := s.isFirst && s.length = s.rest.length + 1 && s.rest.head? = some 'n' &&
        (s.rest.drop 1).head?.all (· == '\n')
      skipWhile (· != '\n')
      modify fun s => { s with isSilent := s.isSilent || isSilent }
      return none
  | '\x7b' => do
      modify fun s => { s with opened := s.count :: s.opened }
      return some (.openBlock 0)
  | '\x7d' => do
      let s ← get
      match s.opened with
      | [] => fail "unexpected `\x7d'"
      | place :: others => do
          if selector.first?.isSome then fail "\x7d doesn't want any addresses"
          endOfCommand
          modify fun s =>
            let commands := s.commands.mapIdx fun n command =>
              if n + 1 + place = s.count then { command with edit := .openBlock s.count }
              else command
            { s with opened := others, commands := commands }
          return some .closeBlock
  | 'a' => return some (.appendText (← textOfCommand))
  | 'i' => return some (.insertText (← textOfCommand))
  | 'c' => return some (.changeText (← textOfCommand))
  | ':' => do
      if selector.first?.isSome then fail ": doesn't want any addresses"
      let name ← label
      if name.isEmpty then fail "\":\" lacks a label"
      return some (.mark name)
  | 'b' => jump .always
  | 't' => jump .ifReplaced
  | 'T' => jump .ifNotReplaced
  | 'q' | 'Q' => do
      if selector.last?.isSome then fail "command only uses one address"
      return some (.quit ((← numberOfCommand?).getD 0) (c == 'q'))
  | 'l' => return some (.list (← numberOfCommand?))
  | 'r' => return some (.readFile (← fileNameOf d))
  | 'R' => return some (.readLine (← fileNameOf d))
  | 'w' => return some (.writeFile (← fileNameOf d))
  | 'W' => return some (.writeFirst (← fileNameOf d))
  | 's' => return some (.substitute (← substitution d))
  | 'y' => return some (.transliterate (← transliteration))
  | 'v' => do
      let version ← label
      let parts := (version.takeWhile fun c => c.isDigit || c == '.')
      let major := digitsValue (parts.takeWhile Char.isDigit)
      if 4 < major then fail "expected newer version of sed"
      endOfCommand
      return none
  | 'e' => do
      if d.isSandboxed then fail "e/r/w commands disabled in sandbox mode"
      skipWhile isGap
      let command ← takeWhile (· != '\n')
      return some (.runCommand (octetsOfLetters command))
  | c =>
      match plainEdit? c with
      | some e => do
          endOfCommand
          return some e
      | none => fail (String.ofList ("unknown command: `".toList ++ [c, '\'']))

/-- The commands of a text. -/
def readCommands (d : EditDialect) : Nat → Step Unit
  | 0 => return ()
  | fuel + 1 => do
      skipWhile fun c => c == ';' || c.isWhitespace
      match ← next? with
      | none => return ()
      | some c => do
          let (selector, sign?) ← selector d c
          match sign? with
          | none => fail "missing command"
          | some '\n' => fail "missing command"
          | some sign => do
              match ← edit d selector sign with
              | none => pure ()
              | some e =>
                  modify fun s => { s with
                    commands := ⟨selector, e⟩ :: s.commands, count := s.count + 1 }
              readCommands d fuel

/-- Where a script comes from: an option with a number, or a file. -/
inductive ScriptSource where
  | expression (number : Nat)
  | file (name : List Char)

/-- Where something is wrong in a script. -/
def ScriptSource.place (source : ScriptSource) (text : List Char) (position : Nat) : List Char :=
  match source with
  | expression n =>
      "-e expression #".toList ++ Nat.toDigits 10 n ++ ", char ".toList ++
        Nat.toDigits 10 position ++ ": ".toList
  | file name =>
      let line := ((text.take (position - 1)).filter (· == '\n')).length + 1
      "file ".toList ++ name ++ " line ".toList ++ Nat.toDigits 10 line ++ ": ".toList

/-- Reads texts one after another. -/
def readAll (d : EditDialect) : ScriptState → List (ScriptSource × List Char) →
    Except (List Char) ScriptState
  | s, [] => .ok s
  | s, (source, text) :: rest =>
      let start := { s with rest := text, length := text.length }
      match (readCommands d (text.length + 1)).run start with
      | .ok ((), s) => readAll d { s with isFirst := false } rest
      | .error fault => .error (source.place text fault.position ++ fault.words)

/-- The names of the places that jumps lead to. -/
def wanted (commands : List EditCommand) : List (List Char) :=
  commands.filterMap fun command =>
    match command.edit with
    | .jump _ name => if name.isEmpty then none else some name
    | _ => none

/-- The script that texts spell, or what to complain about. -/
def read (d : EditDialect) (texts : List (ScriptSource × List Char)) :
    Except (Nat × List Char) EditScript := do
  let s ← (readAll d ⟨[], 0, true, [], 0, [], false⟩ texts).mapError fun words => (1, words)
  let commands := s.commands.reverse
  if !s.opened.isEmpty then
    throw (1, "-e expression #1, char 0: unmatched `\x7b'".toList)
  let marks := commands.filterMap fun command =>
    match command.edit with
    | .mark name => some name
    | _ => none
  match (wanted commands).find? fun name => !marks.contains name with
  | some name => throw (4, "can't find label for jump to `".toList ++ name ++ ['\''])
  | none => pure ⟨commands.toArray, s.isSilent⟩

end EditScript

end DesiredState.Tools
