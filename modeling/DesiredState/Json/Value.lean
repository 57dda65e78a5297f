import DesiredState.Fields
import DesiredState.Number.Layout

/-!
# JSON values

The answers of an interpreter are JSON.  Members of an object keep their order.
A number is an integer as long as 64 bits hold it, and a binary64 number
otherwise.

## Main definitions

* `Json` — JSON values.
* `Json.write` — the text of a value, one item or member a line.
-/

namespace DesiredState

/-- A JSON value. -/
inductive Json where
  | null
  | bool (b : Bool)
  | int (i : Int)
  | float (x : Binary64)
  | string (s : String)
  | array (items : List Json)
  | object (members : List (String × Json))
  deriving Inhabited

namespace Json

/-- Numbers of JSON are positional from `1e-5` up to `1e16`; of two equally near
shortest decimals the one with the even last digit is taken.  Positive exponents
have a plus sign. -/
def floatLayout : Layout := ⟨-5, 16, .even, true, "null", "null", "null"⟩

/-- The letter behind the backslash for a character that has one. -/
def escapeLetter? : Char → Option Char
  | '"' => some '"'
  | '\\' => some '\\'
  | '\x08' => some 'b'
  | '\x0c' => some 'f'
  | '\n' => some 'n'
  | '\r' => some 'r'
  | '\t' => some 't'
  | _ => none

/-- One character of a string. -/
def writeChar (c : Char) : List Char :=
  match escapeLetter? c with
  | some letter => ['\\', letter]
  | none =>
      if c.toNat < 0x20 then
        ['\\', 'u', '0', '0', Nat.digitChar (c.toNat / 16), Nat.digitChar (c.toNat % 16)]
      else [c]

/-- A string in double quotes. -/
def writeString (s : String) : List Char := '"' :: (s.toList.flatMap writeChar ++ ['"'])

/-- A line feed and the blanks in front of what stands `depth` levels deep. -/
def newLine (depth : Nat) : List Char := '\n' :: List.replicate (2 * depth) ' '

/-- Items between brackets, each on a line of its own. -/
def writeBlock (opening closing : Char) (depth : Nat) (items : List (List Char)) : List Char :=
  match items with
  | [] => [opening, closing]
  | items =>
      opening :: (newLine (depth + 1) ++
        List.intercalate (',' :: newLine (depth + 1)) items ++ newLine depth ++ [closing])

mutual

/-- The text of a value that stands `depth` levels deep. -/
def writeAt (depth : Nat) : Json → List Char
  | null => "null".toList
  | bool true => "true".toList
  | bool false => "false".toList
  | int i => writeInt i
  | float x => floatLayout.write x
  | string s => writeString s
  | array items => writeBlock '[' ']' depth (writeItems depth items)
  | object members => writeBlock '\x7b' '\x7d' depth (writeMembers depth members)

/-- The texts of the items of an array that stands `depth` levels deep. -/
def writeItems (depth : Nat) : List Json → List (List Char)
  | [] => []
  | item :: rest => writeAt (depth + 1) item :: writeItems depth rest

/-- The texts of the members of an object that stands `depth` levels deep. -/
def writeMembers (depth : Nat) : List (String × Json) → List (List Char)
  | [] => []
  | (key, value) :: rest =>
      (writeString key ++ ": ".toList ++ writeAt (depth + 1) value) :: writeMembers depth rest

end

/-- The text of a value. -/
def write (value : Json) : List Char := writeAt 0 value

end Json

end DesiredState
