import DesiredState.Fields
import DesiredState.Unix.Tools.Awk.Program

/-!
# Tokens of the record language

A text is cut into tokens one by one, since what stands before a letter decides what it
means: a slash divides behind a value and starts a pattern elsewhere, and a greater sign
redirects what is written.  The end of a block ends its last statement too.

## Main definitions

* `Token`, `Token.spelling` — tokens, and how complaints show them.
* `Reader`, `Reader.scan` — where the reading is, and the next token.
-/

namespace DesiredState.Tools.Awk

/-- A token. -/
inductive Token where
  | endOfFile
  | newLine
  | semicolon
  /-- The end of a statement in front of the end of its block. -/
  | blockEnd
  /-- A sign, or several that belong together. -/
  | sign (spelling : String)
  | number (x : Rounded) (spelling : List Char)
  | text (cs : List Char) (spelling : List Char)
  | pattern (source : List Char)
  | name (name : String)
  /-- The name of a function. -/
  | function (name : String)
  | builtin (f : Builtin) (spelling : String)
  /-- A field of a fixed number. -/
  | field (number : Nat)
  | keyword (spelling : String)
  /-- Where something is written to. -/
  | redirect (spelling : String)
  | stray (c : Char)

/-- How complaints show a token. -/
def Token.spelling : Token → List Char
  | endOfFile => "end of file".toList
  | newLine => "end of line".toList
  | semicolon => [';']
  | blockEnd => ['\x7d']
  | sign s | name s | function s | builtin _ s | keyword s | redirect s => s.toList
  | number _ s | text _ s => s
  | pattern s => '/' :: s ++ ['/']
  | field _ => ['$']
  | stray c => [c]

/-- The words of the language. -/
def keywords : List String :=
  ["print", "printf", "do", "while", "for", "break", "continue", "if", "else", "in", "delete",
    "split", "match", "BEGIN", "END", "exit", "next", "nextfile", "return", "getline", "sub",
    "gsub", "function", "length"]

/-- The functions that are there from the start, with the least and the greatest number of
their arguments. -/
def builtins : List (String × Builtin × Nat × Nat) :=
  [("index", .index, 2, 2), ("substr", .substr, 2, 3), ("sprintf", .sprintf, 1, 255),
    ("sin", .sine, 1, 1), ("cos", .cosine, 1, 1), ("atan2", .arcTangent, 2, 2),
    ("exp", .exponential, 1, 1), ("log", .logarithm, 1, 1), ("int", .integer, 1, 1),
    ("sqrt", .squareRoot, 1, 1), ("rand", .random, 0, 0), ("srand", .seed, 0, 1),
    ("close", .close, 1, 1), ("system", .system, 1, 1), ("toupper", .upper, 1, 1),
    ("tolower", .lower, 1, 1), ("fflush", .flush, 0, 1), ("mktime", .makeTime, 1, 1),
    ("strftime", .formatTime, 0, 3), ("systime", .currentTime, 0, 0)]

/-- What a name stands for. -/
inductive NameKind where
  | variable
  | table
  | function
  deriving DecidableEq, Repr

/-- Where the reading of a program is. -/
structure Reader where
  rest : List Char
  line : Nat
  /-- The line on which the last token starts. -/
  tokenLine : Nat
  /-- The last token. -/
  last : Token
  /-- How many parentheses and braces are open. -/
  parens : Nat
  braces : Nat
  /-- Whether a greater sign redirects what is written. -/
  isPrinting : Bool
  /-- What names are known to stand for. -/
  names : List (String × NameKind)
  /-- The parameters of the function that is read. -/
  parameters : List (String × Option NameKind)
  /-- What was complained, the last one first. -/
  complaints : List (List Char)

/-- The reader of a text. -/
def Reader.ofText (text : List Char) : Reader where
  rest := text
  line := 1
  tokenLine := 1
  last := .newLine
  parens := 0
  braces := 0
  isPrinting := false
  names := (["NF", "NR", "FNR", "FS", "OFS", "RS", "ORS", "SUBSEP", "CONVFMT", "OFMT", "FILENAME",
    "RSTART", "RLENGTH", "ARGC"].map fun n => (n, NameKind.variable)) ++
      [("ENVIRON", .table), ("ARGV", .table)]
  parameters := []
  complaints := []

/-- Blanks, comments and broken lines are passed over; `isEnd` says whether line ends are
too.  Answers what is left, and how many lines were passed. -/
def passOver (lines : Bool) : (fuel : Nat) → List Char → Nat → List Char × Nat
  | 0, cs, n => (cs, n)
  | fuel + 1, cs, n =>
      match cs with
      | '\\' :: '\n' :: rest => passOver lines fuel rest (n + 1)
      | '\\' :: '\r' :: '\n' :: rest => passOver lines fuel rest (n + 1)
      | '\n' :: rest => if lines then passOver lines fuel rest (n + 1) else (cs, n)
      | '#' :: rest => passOver lines fuel (rest.dropWhile (· != '\n')) n
      | c :: rest => if isSpace c then passOver lines fuel rest n else (cs, n)
      | [] => ([], n)

namespace Reader

/-- A reader behind blanks, and line ends too if `lines` holds. -/
def passBlanks (r : Reader) (lines : Bool) : Reader :=
  let (rest, n) := passOver lines (r.rest.length + 1) r.rest 0
  { r with rest := rest, line := r.line + n }

/-- Complains about something on the line of the last token. -/
def complain (r : Reader) (text : List Char) : Reader :=
  { r with complaints :=
      ("line ".toList ++ writeNat r.tokenLine ++ ": ".toList ++ text) :: r.complaints }

/-- A reader behind a token. -/
def take (r : Reader) (token : Token) (rest : List Char) : Token × Reader :=
  (token, { r with last := token, rest := rest })

/-- Whether a slash behind the last token divides. -/
def isBehindValue (r : Reader) : Bool :=
  match r.last with
  | .number _ _ | .text _ _ | .pattern _ | .name _ | .field _ => true
  | .sign s => [")", "]", "++", "--"].contains s
  | .keyword s => s == "getline"
  | _ => false

/-- Whether the end of a block has to end a statement first. -/
def hasOpenStatement (r : Reader) : Bool :=
  match r.last with
  | .newLine | .semicolon | .blockEnd => false
  | .sign s => s != "\x7d"
  | _ => true

end Reader

/-! ## Texts and patterns -/

/-- The content of a text up to its closing quote, and what follows; nothing if the line ends
first. -/
def textLiteral : (fuel : Nat) → List Char → List Char → Option (List Char × List Char)
  | 0, _, _ => none
  | fuel + 1, cs, done =>
      match cs with
      | [] | '\n' :: _ => none
      | '"' :: rest => some (done.reverse, rest)
      | '\\' :: '\n' :: rest => textLiteral fuel rest done
      | '\\' :: c :: rest => textLiteral fuel rest (c :: '\\' :: done)
      | c :: rest => textLiteral fuel rest (c :: done)

/-- A text with its escapes replaced; those that mean nothing are kept. -/
def unescapeText : (fuel : Nat) → List Char → List Char
  | 0, cs => cs
  | fuel + 1, cs =>
      match cs with
      | '\\' :: c :: rest =>
          if c = '"' || c = '\\' then c :: unescapeText fuel rest
          else
            match controlOf? c, octalEscape? (c :: rest) with
            | some d, _ => d :: unescapeText fuel rest
            | none, some (d, rest) => d :: unescapeText fuel rest
            | none, none => '\\' :: c :: unescapeText fuel rest
      | c :: rest => c :: unescapeText fuel rest
      | [] => []

/-- A text with its escapes replaced. -/
def unescaped (cs : List Char) : List Char := unescapeText (cs.length + 1) cs

/-- The source of a pattern up to its closing slash, and what follows; nothing if the line ends
first.  Inside of brackets a slash stands for itself. -/
def patternLiteral : (fuel : Nat) → (isInside : Bool) → List Char → List Char →
    Option (List Char × List Char)
  | 0, _, _, _ => none
  | fuel + 1, isInside, cs, done =>
      match cs with
      | [] | '\n' :: _ => none
      | '/' :: rest =>
          if isInside then patternLiteral fuel isInside rest ('/' :: done)
          else some (done.reverse, rest)
      | '\\' :: '/' :: rest => patternLiteral fuel isInside rest ('/' :: done)
      | '\\' :: '\n' :: rest => patternLiteral fuel isInside rest done
      | '\\' :: c :: rest => patternLiteral fuel isInside rest (c :: '\\' :: done)
      | '[' :: '^' :: ']' :: rest =>
          if isInside then patternLiteral fuel isInside ('^' :: ']' :: rest) ('[' :: done)
          else patternLiteral fuel true rest (']' :: '^' :: '[' :: done)
      | '[' :: ']' :: rest =>
          if isInside then patternLiteral fuel isInside (']' :: rest) ('[' :: done)
          else patternLiteral fuel true rest (']' :: '[' :: done)
      | '[' :: ':' :: rest =>
          if isInside then
            let name := rest.takeWhile Char.isAlpha
            match rest.drop name.length with
            | ':' :: ']' :: behind =>
                patternLiteral fuel isInside behind
                  (("[:".toList ++ name ++ ":]".toList).reverse ++ done)
            | _ => patternLiteral fuel isInside (':' :: rest) ('[' :: done)
          else patternLiteral fuel true (':' :: rest) ('[' :: done)
      | c :: rest =>
          let isInside := if c = '[' then true else if c = ']' then false else isInside
          patternLiteral fuel isInside rest (c :: done)

/-- The decimal number at the start of a text: its spelling, and what follows. -/
def decimalLiteral (cs : List Char) : List Char × List Char :=
  let whole := cs.takeWhile Char.isDigit
  let rest := cs.drop whole.length
  let (fraction, rest) := match rest with
    | '.' :: rest =>
        let digits := rest.takeWhile Char.isDigit
        ('.' :: digits, rest.drop digits.length)
    | rest => ([], rest)
  match rest with
  | e :: behind =>
      let sign := behind.takeWhile fun c => c == '+' || c == '-'
      let digits := (behind.drop sign.length).takeWhile Char.isDigit
      if (e = 'e' || e = 'E') && sign.length ≤ 1 && !digits.isEmpty then
        (whole ++ fraction ++ e :: sign ++ digits, behind.drop (sign.length + digits.length))
      else (whole ++ fraction, rest)
  | [] => (whole ++ fraction, [])

namespace Reader

/-- Why reading stops at once. -/
inductive Halt where
  /-- A text or a pattern without an end. -/
  | runaway
  deriving DecidableEq, Repr

/-- The start of a letter sequence in a complaint. -/
def shownStart (cs : List Char) : List Char := (cs.takeWhile (· != '\n')).take 10

/-- The token of a decimal number; a number that is too great is complained about. -/
def scanNumber (r : Reader) : Token × Reader :=
  let (spelling, rest) := decimalLiteral r.rest
  let x := numberOfText spelling
  let mantissa := spelling.takeWhile fun c => c != 'e' && c != 'E'
  let isSmall := match x with
    | .finite _ m _ => m < 1 <<< 52
    | _ => false
  let r :=
    if !x.isFinite then r.complain (spelling ++ " : decimal overflow".toList)
    else if mantissa.any (fun c => c.isDigit && c != '0') && isSmall then
      r.complain (spelling ++ (if x.isZero then " : decimal underflow"
        else " : decimal overflow").toList)
    else r
  r.take (.number x spelling) rest

/-- The token of a word. -/
def scanWord (r : Reader) : Token × Reader :=
  let word := r.rest.takeWhile fun c => c.isAlphanum || c == '_'
  let rest := r.rest.drop word.length
  let name := String.ofList word
  if keywords.contains name then
    let r := if name = "print" || name = "printf" then { r with isPrinting := true } else r
    r.take (.keyword name) rest
  else
    match builtins.find? (·.1 == name) with
    | some (_, f, _) => r.take (.builtin f name) rest
    | none =>
        if r.parameters.any (·.1 == name) then r.take (.name name) rest
        else
          match Entries.get? r.names name with
          | some .function => r.take (.function name) rest
          | some _ => r.take (.name name) rest
          | none =>
              if rest.head? = some '(' then
                let named := { r with names := r.names ++ [(name, NameKind.function)] }
                named.take (.function name) rest
              else r.take (.name name) rest

/-- The signs of several letters, the longer ones first. -/
def longSigns : List String :=
  ["++", "--", "+=", "-=", "*=", "%=", "^=", "==", "!=", "!~", "<=", "&&", "||"]

/-- The signs of one letter. -/
def shortSigns : List Char := "+-*%^=!~<>|?:,()[]\x7b\x7d$".toList

/-- The next token of signs. -/
def scanSign (r : Reader) (c : Char) (rest : List Char) : Token × Reader :=
  match longSigns.find? fun s => s.toList.isPrefixOf r.rest with
  | some s =>
      let (token, r) := r.take (.sign s) (r.rest.drop 2)
      (token, if s = "&&" || s = "||" then r.passBlanks true else r)
  | none =>
      let redirects := r.isPrinting && r.parens = 0
      match c, rest with
      | '>', '>' :: rest =>
          if redirects then { r with isPrinting := false }.take (.redirect ">>") rest
          else r.take (.sign ">") ('>' :: rest)
      | '>', rest =>
          if redirects then { r with isPrinting := false }.take (.redirect ">") rest
          else if rest.head? = some '=' then r.take (.sign ">=") (rest.drop 1)
          else r.take (.sign ">") rest
      | '|', rest =>
          if redirects then { r with isPrinting := false }.take (.redirect "|") rest
          else r.take (.sign "|") rest
      | '(', rest => { r with parens := r.parens + 1 }.take (.sign "(") rest
      | '\x7b', rest =>
          let (token, r) := { r with braces := r.braces + 1 }.take (.sign "\x7b") rest
          (token, r.passBlanks true)
      | ',', rest =>
          let (token, r) := r.take (.sign ",") rest
          (token, r.passBlanks true)
      | '$', rest =>
          let behind := rest.dropWhile fun c => c == ' ' || c == '\t'
          match behind with
          | d :: _ =>
              if d.isDigit then
                let digits := behind.takeWhile Char.isDigit
                r.take (.field (digitsValue digits)) (behind.drop digits.length)
              else r.take (.sign "$") rest
          | [] => r.take (.sign "$") rest
      | c, rest =>
          if shortSigns.contains c then r.take (.sign (String.singleton c)) rest
          else r.take (.stray c) rest

/-- The next token. -/
def scan : (fuel : Nat) → Reader → Except (Halt × Reader) (Token × Reader)
  | 0, r => .ok (.endOfFile, r)
  | fuel + 1, r =>
      let r := r.passBlanks false
      let r := { r with tokenLine := r.line }
      match r.rest with
      | [] => .ok (r.take .endOfFile [])
      | '\n' :: rest =>
          let (token, r) := { r with line := r.line + 1 }.take .newLine rest
          .ok (token, r.passBlanks true)
      | ';' :: rest =>
          let (token, r) := r.take .semicolon rest
          .ok (token, r.passBlanks true)
      | '"' :: rest =>
          match textLiteral (rest.length + 1) rest [] with
          | some (source, behind) =>
              let lines := (rest.take (rest.length - behind.length)).count '\n'
              .ok ({ r with line := r.line + lines }.take
                (.text (unescaped source) (unescaped source)) behind)
          | none =>
              .error (.runaway, r.complain ("runaway string constant \"".toList ++
                shownStart rest ++ " ...".toList))
      | '/' :: rest =>
          if r.isBehindValue then
            if rest.head? = some '=' then .ok (r.take (.sign "/=") (rest.drop 1))
            else .ok (r.take (.sign "/") rest)
          else
            match patternLiteral (rest.length + 1) false rest [] with
            | some (source, behind) => .ok (r.take (.pattern source) behind)
            | none =>
                .error (.runaway, r.complain ("runaway regular expression /".toList ++
                  shownStart rest ++ " ...".toList))
      | ')' :: rest =>
          if r.parens = 0 then
            scan fuel { r.complain "extra ')'".toList with rest := rest }
          else .ok ({ r with parens := r.parens - 1 }.take (.sign ")") rest)
      | '\x7d' :: rest =>
          if r.braces = 0 then
            let r := { r.complain "extra '\x7d'".toList with rest := rest }
            scan fuel (eatSemicolon r)
          else if r.hasOpenStatement then .ok (.blockEnd, { r with last := .blockEnd })
          else
            let (token, r) := { r with braces := r.braces - 1 }.take (.sign "\x7d") rest
            let r := if r.braces = 0 then eatSemicolon r else r
            .ok (token, r.passBlanks true)
      | c :: rest =>
          if c.isDigit || (c = '.' && rest.head?.any Char.isDigit) then .ok r.scanNumber
          else if c.isAlpha || c = '_' then .ok r.scanWord
          else .ok (r.scanSign c rest)
where
  /-- A reader behind a semicolon on the same line. -/
  eatSemicolon (r : Reader) : Reader :=
    match r.rest.dropWhile fun c => c == ' ' || c == '\t' with
    | ';' :: rest => { r with rest := rest }
    | _ => r

end Reader

end DesiredState.Tools.Awk
