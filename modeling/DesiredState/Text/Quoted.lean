import DesiredState.Text.Invisible

/-!
# Quoted texts in messages

A message shows a text between double quotes.  Quote and backslash, the line
and tab controls and NUL are written with a backslash, every other invisible
character by its number; a single quote stands for itself.

## Main definitions

* `Quoted.write` — the quoted form of a text.
-/

namespace DesiredState.Quoted

/-- The letter behind the backslash for a character that has one. -/
def letter? : Char → Option Char
  | '"' => some '"'
  | '\\' => some '\\'
  | '\n' => some 'n'
  | '\r' => some 'r'
  | '\t' => some 't'
  | '\x00' => some '0'
  | _ => none

/-- One character of a quoted text. -/
def writeChar (c : Char) : List Char :=
  match letter? c with
  | some l => ['\\', l]
  | none =>
      if isInvisible c then
        '\\' :: 'u' :: '\x7b' :: (Nat.toDigits 16 c.toNat ++ ['\x7d'])
      else [c]

/-- The quoted form of a text. -/
def write (text : String) : List Char :=
  '"' :: (text.toList.flatMap writeChar ++ ['"'])

end DesiredState.Quoted
