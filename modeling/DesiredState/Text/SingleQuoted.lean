/-!
# Single-quoted literals

A script writes a text verbatim between single quotes.  The only character that
needs care is the single quote itself: inside the literal it is written twice.

## Main definitions

* `SingleQuoted.escape` — a text with its single quotes doubled.
* `SingleQuoted.write` — the literal of a text.
-/

namespace DesiredState.SingleQuoted

/-- A text with every single quote doubled. -/
def escape : List Char → List Char
  | [] => []
  | c :: rest => if c = '\'' then '\'' :: '\'' :: escape rest else c :: escape rest

/-- The literal of a text. -/
def write (text : String) : List Char := '\'' :: (escape text.toList ++ ['\''])

end DesiredState.SingleQuoted
