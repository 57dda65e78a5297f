import DesiredState.Text.Split
import DesiredState.Unix.Shell.Command

/-!
# Reading shell scripts

A script is read one line of commands at a time, so what stands before a mistake
is run first.  Tokens are read as commands need them, because what is in
parentheses behind a dollar sign is a script of its own.

A text that stands below a line and feeds a stream is taken out of the script
when the redirection is read; the line that follows it is then the next one.

## Main definitions

* `ScriptSource`, `SyntaxError`, `Read` — what is left of a script, why it is
  none, and a step of reading.
* `ShellToken` — tokens.
* `Read.pieces`, `Read.command` — words and commands.
* `Read.line` — the commands of the next line.
-/

namespace DesiredState.Shell

/-- A token of a script. -/
inductive ShellToken where
  | word (w : ShellWord)
  | op (name : String)
  | newLine
  /-- A redirection: the stream and the sign. -/
  | redirect (stream : Nat) (sign : String)
  | finish

/-- A name that stands for a text, in the place of which that was put. -/
structure ExpandedAlias where
  name : List Char
  /-- How long the script is behind the text. -/
  behind : Nat
  /-- Whether the text ends with a blank, so that the next word may be such a name too. -/
  endsBlank : Bool

/-- What is left of a script. -/
structure ScriptSource where
  rest : List Char
  /-- The names that stand for texts. -/
  aliases : List (String × List Char)
  /-- Those of them that are under way. -/
  expanded : List ExpandedAlias
  line : Nat
  /-- How many lines were taken out below this one. -/
  hidden : Nat
  /-- The next token, if it was looked at. -/
  pending? : Option ShellToken
  /-- How many steps it takes at most to read what is left.  Each step takes a
  character, or is one of a few that lead to such a step. -/
  steps : Nat

/-- The start of a script. -/
def ScriptSource.ofText (cs : List Char) (line : Nat) (aliases : List (String × List Char)) :
    ScriptSource :=
  let longest := (aliases.map fun a => a.2.length + 1).foldl (· + ·) 0
  ⟨cs, aliases, [], line, 0, none, 16 * cs.length * (1 + longest) + 64⟩

/-- A script with other names for texts. -/
def ScriptSource.withAliases (s : ScriptSource) (aliases : List (String × List Char)) :
    ScriptSource :=
  let longest := (aliases.map fun a => a.2.length + 1).foldl (· + ·) 0
  { s with aliases := aliases, steps := 16 * s.rest.length * (1 + longest) + 64 }

/-- What is left behind the next `n` characters. -/
def ScriptSource.skip (s : ScriptSource) (n : Nat) : ScriptSource :=
  match (s.rest.take n).count '\n' with
  | 0 => { s with rest := s.rest.drop n }
  | lines => { s with rest := s.rest.drop n, line := s.line + lines + s.hidden, hidden := 0 }

/-- Why a script is none. -/
structure SyntaxError where
  line : Nat
  reason : String

/-- A step of reading a script. -/
abbrev Read := StateT ScriptSource (Except SyntaxError)

/-! ## Characters -/

/-- Whether a character ends a word. -/
def endsShellWord (c : Char) : Bool := " \t\n;&|<>()".toList.contains c

/-- The operator at the start of a text. -/
def operator? : List Char → Option String
  | '&' :: '&' :: _ => some "&&"
  | '|' :: '|' :: _ => some "||"
  | ';' :: ';' :: _ => some ";;"
  | '&' :: _ => some "&"
  | '|' :: _ => some "|"
  | ';' :: _ => some ";"
  | '(' :: _ => some "("
  | ')' :: _ => some ")"
  | _ => none

/-- The sign of a redirection at the start of a text. -/
def redirectSign? : List Char → Option String
  | '>' :: '>' :: _ => some ">>"
  | '>' :: '&' :: _ => some ">&"
  | '>' :: '|' :: _ => some ">|"
  | '>' :: _ => some ">"
  | '<' :: '<' :: '-' :: _ => some "<<-"
  | '<' :: '<' :: _ => some "<<"
  | '<' :: '&' :: _ => some "<&"
  | '<' :: '>' :: _ => some "<>"
  | '<' :: _ => some "<"
  | _ => none

/-- What surrounds the pieces of a word. -/
inductive Surrounding where
  | nothing
  | quotes
  /-- The braces of a parameter. -/
  | braces
  /-- The parentheses of a formula. -/
  | formula
  /-- The lines of a text that feeds a stream. -/
  | document
  deriving DecidableEq, Repr

/-- Whether a character ends the pieces of a word. -/
def Surrounding.endsAt : Surrounding → Char → Bool
  | nothing, c => endsShellWord c
  | quotes, c => c == '"'
  | braces, c => c == '\x7d'
  | formula, _ | document, _ => false

/-- Whether a character stands for itself. -/
def Surrounding.isPlain (around : Surrounding) (isQuoted : Bool) (c : Char) : Bool :=
  !(around.endsAt c || c == '\\' || c == '$' || c == '`' || (c == '\'' && !isQuoted) ||
    (c == '"' && around != .document) || (around == .formula && (c == '(' || c == ')')))

/-- Whether a backslash in quotes takes the meaning of the character behind it. -/
def Surrounding.escapes (around : Surrounding) (c : Char) : Bool :=
  c == '$' || c == '`' || c == '\\' || (c == '"' && around != .document) ||
    (c == '\x7d' && around == .braces)

/-- Why pieces can not end with the script. -/
def Surrounding.unfinished? : Surrounding → Option String
  | nothing | document => none
  | quotes => some "Unterminated quoted string"
  | braces => some "Missing '\x7d'"
  | formula => some "Missing '))'"

/-- A text between backward quotes, and its length; nothing if it does not
end. -/
def backwardQuoted? (isQuoted : Bool) : List Char → Option (List Char × Nat)
  | [] => none
  | '`' :: _ => some ([], 1)
  | '\\' :: c :: rest =>
      (backwardQuoted? isQuoted rest).map fun (cs, n) =>
        if c == '\\' || c == '`' || c == '$' || (c == '"' && isQuoted) then (c :: cs, n + 2)
        else ('\\' :: c :: cs, n + 2)
  | c :: rest => (backwardQuoted? isQuoted rest).map fun (cs, n) => (c :: cs, n + 1)

/-- The text of a word without its quotes, and whether it has some. -/
def unquotedText (w : ShellWord) : List Char × Bool :=
  (w.flatMap fun piece => (WordPiece.text? piece).getD [], w.any fun piece => !piece.isBare)

/-! ## Parameters in braces -/

/-- What stands in braces up to the word of a rule: the name, the rule, whether
an empty parameter counts as not set, and the length. -/
structure ParameterHead where
  name : List Char
  rule : ParameterRule
  emptyToo : Bool
  length : Nat

namespace ParameterHead

/-- The rule behind the name of a parameter, and its length. -/
def ruleOf : List Char → ParameterRule × Bool × Nat
  | '\x7d' :: _ => (.plain, false, 0)
  | '-' :: _ => (.orElse, false, 1)
  | '+' :: _ => (.ifSet, false, 1)
  | '=' :: _ => (.assign, false, 1)
  | '?' :: _ => (.demand, false, 1)
  | ':' :: '-' :: _ => (.orElse, true, 2)
  | ':' :: '+' :: _ => (.ifSet, true, 2)
  | ':' :: '=' :: _ => (.assign, true, 2)
  | ':' :: '?' :: _ => (.demand, true, 2)
  | '%' :: '%' :: _ => (.trim true true, false, 2)
  | '%' :: _ => (.trim true false, false, 1)
  | '#' :: '#' :: _ => (.trim false true, false, 2)
  | '#' :: _ => (.trim false false, false, 1)
  | _ => (.unknown, false, 0)

/-- What stands in braces behind a name. -/
def behindName (name rest : List Char) : ParameterHead :=
  let (rule, emptyToo, length) := ruleOf rest
  ⟨name, rule, emptyToo, name.length + length⟩

/-- The name at the start of a text. -/
def nameOf : List Char → List Char
  | [] => []
  | c :: rest =>
      if isNameStart c then (c :: rest).takeWhile isNamePart
      else if c.isDigit then (c :: rest).takeWhile Char.isDigit
      else if isSpecialParameter c then [c]
      else []

/-- The parameter at the start of what stands in braces.  A number sign in front
of another parameter asks for its length, and names a parameter on its own
otherwise. -/
def read (cs : List Char) : ParameterHead :=
  let whole := nameOf cs
  match cs with
  | '#' :: rest =>
      let name := nameOf rest
      if !name.isEmpty && rest[name.length]? == some '\x7d' then
        ⟨name, .length, false, name.length + 1⟩
      else if name.head?.any Char.isAlphanum then ⟨name, .unknown, false, name.length + 1⟩
      else behindName ['#'] rest
  | cs =>
      if whole.isEmpty then ⟨[], .unknown, false, 0⟩
      else behindName whole (cs.drop whole.length)

end ParameterHead

/-! ## Reserved words -/

/-- The words that commands are built with. -/
def reservedWords : List String :=
  ["if", "then", "else", "elif", "fi", "while", "until", "do", "done", "for", "in", "case",
    "esac", "\x7b", "\x7d", "!"]

/-- The words and operators that end a list of commands. -/
def listEnds : List String :=
  ["then", "else", "elif", "fi", "do", "done", "esac", "\x7d", ")", ";;"]

namespace ShellToken

/-- The reserved word that a token is. -/
def reserved? : ShellToken → Option String
  | .word w => ((bareText? w).map String.ofList).filter reservedWords.contains
  | _ => none

/-- Whether a token is a reserved word or an operator. -/
def is (token : ShellToken) (name : String) : Bool :=
  match token with
  | .op other => other == name
  | token => token.reserved? == some name

/-- Whether a token ends a line. -/
def isNewLine : ShellToken → Bool
  | newLine => true
  | _ => false

/-- Whether a token ends a list of commands. -/
def endsList : ShellToken → Bool
  | finish => true
  | token => listEnds.any token.is

/-- The name of a token in a message. -/
def name (token : ShellToken) : String :=
  match token with
  | .word _ =>
      match token.reserved? with
      | some reserved => "\"" ++ reserved ++ "\""
      | none => "word"
  | .op name => "\"" ++ name ++ "\""
  | .newLine => "newline"
  | .redirect _ _ => "redirection"
  | .finish => "end of file"

end ShellToken

namespace Read

/-- A failure at this place. -/
def fail {α : Type} (reason : String) : Read α := do throw ⟨(← get).line, reason⟩

/-- Skips characters. -/
def skipChars (n : Nat) : Read Unit := modify (·.skip n)

/-- Reads another text as a script, at the line of this one. -/
def within {α : Type} (text : List Char) (read : Read α) : Read α := do
  let s ← get
  match read (.ofText text s.line s.aliases) with
  | .ok (a, _) => return a
  | .error e => throw e

/-- Skips blanks, comments, and line ends behind a backslash. -/
def skipBetween : Nat → Read Unit
  | 0 => return ()
  | fuel + 1 => do
      match (← get).rest with
      | ' ' :: _ | '\t' :: _ =>
          skipChars 1
          skipBetween fuel
      | '\\' :: '\n' :: _ =>
          skipChars 2
          skipBetween fuel
      | '#' :: rest =>
          skipChars (rest.takeWhile (· != '\n')).length.succ
          skipBetween fuel
      | _ => return ()

/-- Takes out the lines of a text below this line, up to the line that ends it. -/
def takeDocument (lastLine : List Char) (dropsTabs : Bool) : Read (List Char) := do
  let s ← get
  let line := s.rest.takeWhile (· != '\n')
  let trim (l : List Char) : List Char := if dropsTabs then l.dropWhile (· == '\t') else l
  let lines := splitAtChar '\n' (s.rest.drop (line.length + 1))
  let content := (lines.map trim).takeWhile (· != lastLine)
  let below := lines.drop (content.length + 1)
  set { s with
    rest := line ++ (if below.isEmpty then [] else '\n' :: List.intercalate ['\n'] below)
    hidden := s.hidden + min (content.length + 1) (lines.length - 1) }
  return if content.length < lines.length then unlines content
    else List.intercalate ['\n'] content

/-- The name of a function that a word can be. -/
def functionName? (w : ShellWord) : Option (List Char) :=
  (bareText? w).filter fun name =>
    isVariableName name && !languageCommands.contains (String.ofList name)

/-- The assignment that a word is. -/
def assignment? : ShellWord → Option (List Char × ShellWord)
  | .text false cs :: rest =>
      let name := cs.takeWhile isNamePart
      match cs.drop name.length with
      | '=' :: value =>
          if isVariableName name then
            some (name, if value.isEmpty then rest else .text false value :: rest)
          else none
      | _ => none
  | _ => none

/-- Takes the next token. -/
def take : Read Unit := modify fun s => { s with pending? := none }

/-- Puts the text that a name stands for in the place of the next token, if that is such a name
which is not under way; answers whether it is. -/
def expandToken (token : ShellToken) : Read Bool := do
  let s ← get
  if s.aliases.isEmpty then return false
  else
    match token with
    | .word w =>
        let text? := do
          let name ← bareText? w
          if reservedWords.contains (String.ofList name) then none
          else do
            let isNamed (a : String × List Char) : Bool := a.1.toList == name
            let text ← (s.aliases.find? isNamed).map Prod.snd
            pure (name, text)
        let length := s.rest.length
        let live := s.expanded.filter fun e => e.behind ≤ length
        match text? with
        | some (name, text) =>
            if live.any fun e => e.name == name then return false
            else
              let endsBlank := text.getLast?.any fun c => c == ' ' || c == '\t'
              set { s with
                rest := text ++ s.rest
                pending? := none
                expanded := ⟨name, length, endsBlank⟩ :: live }
              return true
        | none => return false
    | _ => return false

/-- Whether the next word is the first one behind a text that ends with a blank. -/
def isBehindBlankAlias : Read Bool := do
  let s ← get
  if s.expanded.isEmpty || s.pending?.isSome then return false
  else
    let length := s.rest.length
    return s.expanded.any fun e =>
      e.endsBlank && e.behind ≤ length &&
        (s.rest.take (length - e.behind)).all fun c => c == ' ' || c == '\t'

mutual

/-- The pieces of a word up to what ends them; `depth` parentheses of a formula are
open. -/
def pieces (around : Surrounding) (isQuoted : Bool) (depth : Nat) : Nat → Read ShellWord
  | 0 => return []
  | fuel + 1 => do
      /- Continues behind some pieces. -/
      let andThen (first : ShellWord) : Read ShellWord := do
        return first.foldr consPiece (← pieces around isQuoted depth fuel)
      let rest := (← get).rest
      let run := rest.takeWhile (around.isPlain isQuoted)
      if !run.isEmpty then
        skipChars run.length
        andThen [.text isQuoted run]
      else
        match rest with
        | [] =>
            match around.unfinished? with
            | some reason => fail reason
            | none => return []
        | c :: rest =>
            if around.endsAt c then return []
            else if c = '\\' then
              skipChars 2
              match rest with
              | '\n' :: _ => pieces around isQuoted depth fuel
              | x :: _ =>
                  andThen [.text true (if isQuoted && !around.escapes x then ['\\', x] else [x])]
              | [] => andThen [.text true ['\\']]
            else if c = '$' then
              skipChars 1
              andThen [← dollar isQuoted fuel]
            else if c = '`' then
              skipChars 1
              match backwardQuoted? isQuoted rest with
              | some (text, length) =>
                  skipChars length
                  andThen [.output isQuoted (← within text (list true fuel))]
              | none =>
                  skipChars rest.length
                  fail "EOF in backquote substitution"
            else if c = '\'' then
              let content := rest.takeWhile (· != '\'')
              skipChars (content.length + 2)
              if content.length = rest.length then fail "Unterminated quoted string"
              andThen [.text true content]
            else if around = .formula then
              skipChars 1
              if c = '(' then
                return consPiece (.text true [c]) (← pieces around isQuoted (depth + 1) fuel)
              else if c = ')' then
                if depth ≠ 0 then
                  return consPiece (.text true [c]) (← pieces around isQuoted (depth - 1) fuel)
                else if rest.head? = some ')' then
                  skipChars 1
                  return []
                else andThen [.text true [c]]
              else pieces around isQuoted depth fuel
            else
              skipChars 1
              let inner ← pieces .quotes true 0 fuel
              skipChars 1
              andThen (.text true [] :: inner)

/-- The piece behind a dollar sign. -/
def dollar (isQuoted : Bool) : Nat → Read WordPiece
  | 0 => return .text isQuoted ['$']
  | fuel + 1 => do
      match (← get).rest with
      | '(' :: '(' :: _ =>
          skipChars 2
          return .formula isQuoted (← pieces .formula true 0 fuel)
      | '(' :: _ =>
          skipChars 1
          let body ← list true fuel
          expect ")" fuel
          return .output isQuoted body
      | '\x7b' :: rest =>
          let head := ParameterHead.read rest
          skipChars (1 + head.length)
          match head.rule with
          | .plain | .length =>
              skipChars 1
              return .parameter isQuoted head.name head.rule head.emptyToo []
          | rule =>
              let isPattern := match rule with
                | .trim _ _ => true
                | _ => false
              let word ← pieces .braces (isQuoted && !isPattern) 0 fuel
              skipChars 1
              return .parameter isQuoted head.name rule head.emptyToo word
      | c :: rest =>
          if isNameStart c then
            let name := (c :: rest).takeWhile isNamePart
            skipChars name.length
            return .parameter isQuoted name .plain false []
          else if isSpecialParameter c then
            skipChars 1
            return .parameter isQuoted [c] .plain false []
          else return .text isQuoted ['$']
      | [] => return .text isQuoted ['$']

/-- The next token; it stays the next one. -/
def peek : Nat → Read ShellToken
  | 0 => return .finish
  | fuel + 1 => do
      match (← get).pending? with
      | some token => return token
      | none =>
          skipBetween fuel
          let token ← token fuel
          modify fun s => { s with pending? := some token }
          return token

/-- Reads a token where no blanks are. -/
def token : Nat → Read ShellToken
  | 0 => return .finish
  | fuel + 1 => do
      match (← get).rest with
      | [] => return .finish
      | '\n' :: _ =>
          skipChars 1
          return .newLine
      | c :: rest =>
          match operator? (c :: rest), redirectSign? (c :: rest), redirectSign? rest with
          | some name, _, _ =>
              skipChars name.length
              return .op name
          | none, some sign, _ =>
              skipChars sign.length
              return .redirect (if sign.startsWith "<" then 0 else 1) sign
          | none, none, some sign =>
              if c.isDigit then
                skipChars (sign.length + 1)
                return .redirect (c.toNat - 48) sign
              else return .word (← pieces .nothing false 0 fuel)
          | none, none, none => return .word (← pieces .nothing false 0 fuel)

/-- Puts texts in the place of names for them, as long as the next token is one. -/
def expandNames : Nat → Read Unit
  | 0 => return ()
  | fuel + 1 => do
      if ← expandToken (← peek fuel) then expandNames fuel

/-- A failure at the next token. -/
def unexpected (expecting? : Option String) : Nat → Read Unit
  | 0 => return ()
  | fuel + 1 => do
      fail ((← peek fuel).name ++ " unexpected" ++
        match expecting? with
        | some name => " (expecting " ++ name ++ ")"
        | none => "")

/-- Takes a reserved word or an operator that must come next. -/
def expect (name : String) : Nat → Read Unit
  | 0 => return ()
  | fuel + 1 => do
      if (← peek fuel).is name then take else unexpected (some ("\"" ++ name ++ "\"")) fuel

/-- Takes the next token if it is a reserved word or an operator. -/
def takeIf (name : String) : Nat → Read Bool
  | 0 => return false
  | fuel + 1 => do
      if (← peek fuel).is name then
        take
        return true
      else return false

/-- Takes line ends. -/
def takeNewLines : Nat → Read Unit
  | 0 => return ()
  | fuel + 1 => do
      if (← peek fuel).isNewLine then
        take
        takeNewLines fuel

/-- The redirections at this place. -/
def redirects : Nat → Read (List Redirect)
  | 0 => return []
  | fuel + 1 => do
      match ← peek fuel with
      | .redirect stream sign =>
          take
          match ← peek fuel with
          | .word w =>
              take
              let first ← redirect stream sign w fuel
              return first :: (← redirects fuel)
          | _ =>
              unexpected none fuel
              return []
      | _ => return []

/-- A redirection of its parts. -/
def redirect (stream : Nat) (sign : String) (w : ShellWord) : Nat → Read Redirect
  | 0 => return .to stream .output w
  | fuel + 1 => do
      match sign with
      | "<" => return .to stream .input w
      | ">>" => return .to stream .append w
      | "<>" => return .to stream .both w
      | ">|" => return .to stream .overwrite w
      | ">&" | "<&" => return .to stream .duplicate w
      | "<<" | "<<-" =>
          let (lastLine, hasQuotes) := unquotedText w
          let text ← takeDocument lastLine (sign == "<<-")
          if hasQuotes then return .document stream [.text true text]
          else return .document stream (← within text (pieces .document true 0 fuel))
      | _ => return .to stream .output w

/-- A list of commands; nothing stands for one that is empty. -/
def list (mayBeEmpty : Bool) : Nat → Read Command
  | 0 => return .nothing
  | fuel + 1 => do
      match ← peek fuel with
      | .finish => return .nothing
      | _ =>
          takeNewLines fuel
          expandNames fuel
          if mayBeEmpty && (← peek fuel).endsList then return .nothing
          else listFrom (← andOr fuel) fuel

/-- The rest of a list behind a command. -/
def listFrom (c : Command) : Nat → Read Command
  | 0 => return c
  | fuel + 1 => do
      let isApart := (← peek fuel).is "&"
      let c := if isApart then .background c else c
      if isApart || (← peek fuel).is ";" || (← peek fuel).isNewLine then
        take
        takeNewLines fuel
        expandNames fuel
        if (← peek fuel).endsList then return c
        else return .sequence c (← listFrom (← andOr fuel) fuel)
      else return c

/-- Pipelines joined by `&&` and `||`. -/
def andOr : Nat → Read Command
  | 0 => return .nothing
  | fuel + 1 => do andOrFrom (← pipeline fuel) fuel

/-- The rest of such a chain behind a command. -/
def andOrFrom (c : Command) : Nat → Read Command
  | 0 => return c
  | fuel + 1 => do
      if ← takeIf "&&" fuel then
        takeNewLines fuel
        andOrFrom (.andThen c (← pipeline fuel)) fuel
      else if ← takeIf "||" fuel then
        takeNewLines fuel
        andOrFrom (.orElse c (← pipeline fuel)) fuel
      else return c

/-- Commands joined by `|`, or what is not to succeed. -/
def pipeline : Nat → Read Command
  | 0 => return .nothing
  | fuel + 1 => do
      expandNames fuel
      if ← takeIf "!" fuel then return .negate (← pipes fuel) else pipes fuel

/-- Commands joined by `|`. -/
def pipes : Nat → Read Command
  | 0 => return .nothing
  | fuel + 1 => do
      let c ← command fuel
      if ← takeIf "|" fuel then
        takeNewLines fuel
        return .pipe c (← pipes fuel)
      else return c

/-- The rest of a conditional behind `if` or `elif`. -/
def conditional : Nat → Read Command
  | 0 => return .nothing
  | fuel + 1 => do
      let test ← list false fuel
      expect "then" fuel
      let body ← list false fuel
      if ← takeIf "elif" fuel then return .choose test body (← conditional fuel)
      else if ← takeIf "else" fuel then
        let otherwise ← list false fuel
        expect "fi" fuel
        return .choose test body otherwise
      else
        expect "fi" fuel
        return .choose test body .nothing

/-- The words at this place. -/
def words : Nat → Read (List ShellWord)
  | 0 => return []
  | fuel + 1 => do
      match ← peek fuel with
      | .word w =>
          take
          return w :: (← words fuel)
      | _ => return []

/-- The rest of a loop over words. -/
def forEach : Nat → Read Command
  | 0 => return .nothing
  | fuel + 1 => do
      let name := match ← peek fuel with
        | .word w => ((bareText? w).filter isVariableName).getD []
        | _ => []
      if name.isEmpty then fail "Bad for loop variable"
      take
      takeNewLines fuel
      let words? ←
        if ← takeIf "in" fuel then
          let ws ← words fuel
          if !((← takeIf ";" fuel) || (← peek fuel).isNewLine) then unexpected none fuel
          pure (some ws)
        else do
          discard (takeIf ";" fuel)
          pure none
      takeNewLines fuel
      expect "do" fuel
      let body ← list false fuel
      expect "done" fuel
      return .forEach name words? body

/-- The patterns of a branch. -/
def patterns : Nat → Read (List ShellWord)
  | 0 => return []
  | fuel + 1 => do
      let first := match ← peek fuel with
        | .word w => w
        | _ => []
      take
      if ← takeIf "|" fuel then return first :: (← patterns fuel)
      else
        expect ")" fuel
        return [first]

/-- The branches of a selection. -/
def branches : Nat → Read (List (List ShellWord × Command))
  | 0 => return []
  | fuel + 1 => do
      takeNewLines fuel
      if ← takeIf "esac" fuel then return []
      else
        discard (takeIf "(" fuel)
        let ws ← patterns fuel
        let body ← list true fuel
        takeNewLines fuel
        if ← takeIf "esac" fuel then return [(ws, body)]
        else
          expect ";;" fuel
          return (ws, body) :: (← branches fuel)

/-- One command. -/
def command : Nat → Read Command
  | 0 => return .nothing
  | fuel + 1 => do
      expandNames fuel
      let token ← peek fuel
      let compound? : Option (Read Command) :=
        match token.reserved?, token with
        | some "if", _ => some (conditional fuel)
        | some "while", _ | some "until", _ => some do
            let test ← list false fuel
            expect "do" fuel
            let body ← list false fuel
            expect "done" fuel
            return .loop (token.is "until") test body
        | some "for", _ => some (forEach fuel)
        | some "case", _ => some do
            let line := (← get).line
            let w ← match ← peek fuel with
              | .word w => pure w
              | _ => do
                  unexpected (some "word") fuel
                  pure []
            take
            takeNewLines fuel
            expect "in" fuel
            return .select line w (← branches fuel)
        | some "\x7b", _ => some do
            let body ← list false fuel
            expect "\x7d" fuel
            return body
        | none, .op "(" => some do
            let body ← list false fuel
            expect ")" fuel
            return .apart body
        | _, _ => none
      match compound?, token with
      | some read, _ => do
          take
          let c ← read
          let line := (← get).line
          match ← redirects fuel with
          | [] => return c
          | rs => return .redirected line c rs
      | none, .word _ | none, .redirect _ _ =>
          if token.reserved?.isSome then unexpected none fuel
          simple (← get).line [] [] [] fuel
      | none, _ => do
          unexpected none fuel
          return .nothing

/-- The rest of a simple command behind assignments and words, of which the last ones
come first. -/
def simple (line : Nat) (assignments : List (List Char × ShellWord)) (ws : List ShellWord)
    (rs : List Redirect) : Nat → Read Command
  | 0 => return .simple line assignments.reverse ws.reverse rs
  | fuel + 1 => do
      if ws.isEmpty || (← isBehindBlankAlias) then expandNames fuel
      match ← peek fuel with
      | .redirect _ _ => do
          let more ← redirects fuel
          simple line assignments ws (rs ++ more) fuel
      | .word w =>
          take
          match if ws.isEmpty then assignment? w else none with
          | some a => simple line (a :: assignments) ws rs fuel
          | none => simple line assignments (w :: ws) rs fuel
      | .op "(" =>
          match assignments, ws, rs with
          | [], [w], [] =>
              take
              match ← peek fuel with
              | .word _ => fail "word unexpected (expecting \")\")"
              | _ => expect ")" fuel
              match functionName? w with
              | some name =>
                  takeNewLines fuel
                  return .define line name (← command fuel)
              | none => fail "Bad function name"
          | _, _, _ => return .simple line assignments.reverse ws.reverse rs
      | _ => return .simple line assignments.reverse ws.reverse rs

end

/-- The rest of a line behind a command. -/
def lineFrom (c : Command) : Nat → Read Command
  | 0 => return c
  | fuel + 1 => do
      let isApart := (← peek fuel).is "&"
      let c := if isApart then .background c else c
      if isApart || (← peek fuel).is ";" then
        take
        match ← peek fuel with
        | .newLine | .finish => return c
        | _ => return .sequence c (← lineFrom (← andOr fuel) fuel)
      else
        match ← peek fuel with
        | .newLine | .finish => return c
        | _ => do
            unexpected none fuel
            return c

/-- The commands of the next line that has some, if there is one. -/
def line : Read (Option Command) := do
  let fuel := (← get).steps
  takeNewLines fuel
  match ← peek fuel with
  | .finish => return none
  | _ => return some (← lineFrom (← andOr fuel) fuel)

end Read

end DesiredState.Shell
