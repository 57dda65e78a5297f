import DesiredState.Script.Expr

/-!
# Redaction

The copy of a script that people may see has a fixed text in the place of every
literal that is marked as sensitive.  The search knows the form of a literal
only: a single quote, characters other than quotes or pairs of quotes, a single
quote, and the marker.

Literals behind the password flag are replaced first, and marked literals
anywhere after that.

## Main definitions

* `sensitiveLength?` — the length of a marked literal at the start of a text.
* `redactPasswords`, `redactMarked` — the two passes.
* `redact` — the copy of a text.
-/

namespace DesiredState

/-- What stands in the place of a sensitive literal. -/
def redactedLiteral : List Char := "'#<Sensitive [value redacted]>'".toList

/-- What stands in front of the password of a credential. -/
def passwordFlag : List Char := "-Password ".toList

/-- The end of a marked literal behind its closing quote. -/
def markerTail : List Char := ' ' :: Expr.sensitiveMarker.toList

/-- The length of the rest of a marked literal behind its opening quote, if one
ends in the text. -/
def restLength? : List Char → Option Nat
  | '\'' :: '\'' :: rest => (restLength? rest).map (· + 2)
  | '\'' :: rest => if markerTail.isPrefixOf rest then some (markerTail.length + 1) else none
  | _ :: rest => (restLength? rest).map (· + 1)
  | [] => none

/-- The length of the marked literal that a text starts with. -/
def sensitiveLength? : List Char → Option Nat
  | '\'' :: rest => (restLength? rest).map (· + 1)
  | _ => none

/-- Replaces from left to right what `match?` finds at the start of a text:
the length it gives, by the text it gives.  The first `skip` characters belong
to what was replaced. -/
def replaceFrom (match? : List Char → Option (Nat × List Char)) :
    Nat → List Char → List Char
  | _, [] => []
  | skip + 1, _ :: rest => replaceFrom match? skip rest
  | 0, c :: rest =>
      match match? (c :: rest) with
      | some (length, text) => text ++ replaceFrom match? (length - 1) rest
      | none => c :: replaceFrom match? 0 rest

/-- Replaces the marked literals that stand behind the password flag. -/
def redactPasswords : List Char → List Char :=
  replaceFrom (fun cs =>
    if passwordFlag.isPrefixOf cs then
      (sensitiveLength? (cs.drop passwordFlag.length)).map fun length =>
        (passwordFlag.length + length, passwordFlag ++ redactedLiteral)
    else none) 0

/-- Replaces the marked literals, wherever they stand. -/
def redactMarked : List Char → List Char :=
  replaceFrom (fun cs => (sensitiveLength? cs).map fun length => (length, redactedLiteral)) 0

/-- The copy of a text that people may see. -/
def redact (cs : List Char) : List Char := redactMarked (redactPasswords cs)

end DesiredState
