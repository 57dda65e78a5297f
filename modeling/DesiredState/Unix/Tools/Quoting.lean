import DesiredState.Unix.Shell.Session
import DesiredState.Unix.Text.Letter

/-!
# Texts in messages

A message of a program shows a text in quotes.  The quotes are those of the locale, or
those that a shell would read.

## Main definitions

* `quoted` — a text in the quotes of the locale.
* `shellQuoted`, `shellQuotedIfNeeded` — a text as a shell would read it.
-/

namespace DesiredState.Tools

open Shell

/-- The letter of an escape for a control character. -/
def controlLetter? : Char → Option Char
  | '\x07' => some 'a'
  | '\x08' => some 'b'
  | '\x0c' => some 'f'
  | '\n' => some 'n'
  | '\r' => some 'r'
  | '\t' => some 't'
  | '\x0b' => some 'v'
  | _ => none

/-- An octet in three octal digits behind a backslash. -/
def octalEscape (octet : Char) : List Char :=
  let digits := Nat.toDigits 8 octet.toNat
  '\\' :: List.replicate (3 - digits.length) '0' ++ digits

/-- Whether a letter can be seen. -/
def isVisible (isUnicode : Bool) (c : Char) : Bool :=
  let n := c.toNat
  if n < 0x80 then 0x20 ≤ n && n < 0x7f
  else isUnicode && !isStray c && 0xa0 ≤ n

/-- A letter that can not be seen, as an escape. -/
def escapedLetter (c : Char) : List Char :=
  match controlLetter? c with
  | some letter => ['\\', letter]
  | none => (octetsOfLetter c).flatMap octalEscape

/-- A text in the quotes of the locale. -/
def quotedIn (isUnicode : Bool) (octets : List Char) : List Char :=
  let opening := if isUnicode then octetsOf ['‘'] else ['\'']
  let closing := if isUnicode then octetsOf ['’'] else ['\'']
  let inner := (lettersOf isUnicode octets).flatMap fun c =>
    if c = '\\' then ['\\', '\\']
    else if (if isUnicode then c = '’' else c = '\'') then '\\' :: octetsOfLetter c
    else if isVisible isUnicode c then octetsOfLetter c
    else escapedLetter c
  opening ++ inner ++ closing

/-- A text in the quotes of the locale. -/
def quoted (text : List Char) : Job (List Char) := do
  return quotedIn (← get).isUnicode text

/-! ## Quotes for a shell -/

/-- Whether a character of a text, at its start or not, means something to a shell. -/
def isShellSign (isStart isAlone : Bool) (c : Char) : Bool :=
  if c = '\x7b' || c = '\x7d' then isAlone
  else if c = '#' || c = '~' then isStart
  else " !\"$&()*;<=>[^|?\\'".toList.contains c || c == '`'

/-- Whether a text has to be quoted for a shell; `others` are more characters that ask for
it. -/
def needsQuotes (isUnicode : Bool) (others : List Char) (octets : List Char) : Bool :=
  let letters := lettersOf isUnicode octets
  octets.isEmpty || letters.zipIdx.any fun (c, n) =>
    others.contains c || !isVisible isUnicode c ||
      isShellSign (n == 0) (letters.length == 1) c

/-- The parts of letters that can be seen, and of those that can not. -/
def visibleRuns (isUnicode : Bool) : List Char → List (Bool × List Char)
  | [] => []
  | c :: rest =>
      let isSeen := isVisible isUnicode c
      match visibleRuns isUnicode rest with
      | (seen, run) :: runs =>
          if seen = isSeen then (seen, c :: run) :: runs else (isSeen, [c]) :: (seen, run) :: runs
      | [] => [(isSeen, [c])]

/-- A text in quotes, as a shell would read it. -/
def shellQuotedIn (isUnicode : Bool) (octets : List Char) : List Char :=
  let letters := lettersOf isUnicode octets
  let isPlain (c : Char) : Bool := c.isAlphanum || " '%+,-./:]_#~\x7b\x7d".toList.contains c
  if letters.contains '\'' && letters.all isPlain then '"' :: octets ++ ['"']
  else
    let part (first : Bool) (run : Bool × List Char) : List Char :=
      if run.1 then
        let inner := run.2.flatMap fun c =>
          if c = '\'' then ['\'', '\\', '\'', '\''] else octetsOfLetter c
        '\'' :: inner ++ ['\'']
      else
        (if first then ['\'', '\''] else []) ++ '$' :: '\'' :: run.2.flatMap escapedLetter ++ ['\'']
    match visibleRuns isUnicode letters with
    | [] => ['\'', '\'']
    | run :: runs => part true run ++ runs.flatMap (part false)

/-- A text in quotes, as a shell would read it. -/
def shellQuoted (text : List Char) : Job (List Char) := do
  return shellQuotedIn (← get).isUnicode text

/-- A text as a shell would read it, in quotes only if it needs them. -/
def shellQuotedIfNeeded (text : List Char) : Job (List Char) := do
  let isUnicode := (← get).isUnicode
  return if needsQuotes isUnicode [':'] text then shellQuotedIn isUnicode text else text

end DesiredState.Tools
