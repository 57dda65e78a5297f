import DesiredState.Unix.Number.Conversion
import DesiredState.Unix.Number.Leading

/-!
# Formatted output of a shell

Two commands write texts with escapes: one writes its arguments, the other one
writes a format again and again until its arguments are used up.  Texts are
octets.

## Main definitions

* `echo` — arguments with escapes.
* `printf` — a format with arguments.
-/

namespace DesiredState.Shell

/-- The octet of a one-letter escape. -/
def escapedOctet? : Char → Option Char
  | 'a' => some '\x07'
  | 'b' => some '\x08'
  | 'e' => some '\x1b'
  | 'f' => some '\x0c'
  | 'n' => some '\n'
  | 'r' => some '\r'
  | 't' => some '\t'
  | 'v' => some '\x0b'
  | '\\' => some '\\'
  | _ => none

/-- The octet of at most three octal digits, and what follows. -/
def octalOctet (cs : List Char) : Char × List Char :=
  let digits := (cs.take 3).takeWhile fun c => '0' ≤ c && c ≤ '7'
  (Char.ofNat (((digitsValue? 8 digits).getD 0) % 256), cs.drop digits.length)

/-- A text with its escapes replaced, behind what was read of it, last character first, and
whether an escape ends all output.  Where `zeroFirst` holds, octal digits follow a zero,
and there is an escape that ends it. -/
def unescape (zeroFirst : Bool) : Nat → List Char → List Char → List Char × Bool
  | 0, cs, done => (cs.reverse ++ done, false)
  | fuel + 1, cs, done =>
      match cs with
      | [] => (done, false)
      | '\\' :: c :: rest =>
          if zeroFirst && c = 'c' then (done, true)
          else if zeroFirst && c = '0' then
            let (octet, rest) := octalOctet rest
            unescape zeroFirst fuel rest (octet :: done)
          else if !zeroFirst && '0' ≤ c && c ≤ '7' then
            let (octet, rest) := octalOctet (c :: rest)
            unescape zeroFirst fuel rest (octet :: done)
          else
            match escapedOctet? c with
            | some octet => unescape zeroFirst fuel rest (octet :: done)
            | none => unescape zeroFirst fuel rest (c :: '\\' :: done)
      | c :: rest => unescape zeroFirst fuel rest (c :: done)

/-- A text with its escapes replaced, and whether an escape ends all output. -/
def unescaped (zeroFirst : Bool) (cs : List Char) : List Char × Bool :=
  let (done, ends) := unescape zeroFirst cs.length cs []
  (done.reverse, ends)

/-- What `echo` writes. -/
def echo (arguments : List (List Char)) : List Char :=
  let (newLine, arguments) := match arguments with
    | ['-', 'n'] :: rest => ([], rest)
    | arguments => (['\n'], arguments)
  let (text, ends) := unescaped true (List.intercalate [' '] arguments)
  if ends then text else text ++ newLine

/-! ## Formats -/

/-- A width or a precision. -/
inductive Amount where
  | fixed (n : Nat)
  /-- The next argument. -/
  | argument
  deriving DecidableEq, Repr

/-- How an argument is written. -/
structure ArgumentForm where
  /-- The form as it is spelled. -/
  spelling : List Char
  flags : List Char
  width : Amount
  precision? : Option Amount
  kind : Char

/-- A directive of a format. -/
inductive Directive where
  | text (cs : List Char)
  | convert (c : ArgumentForm)
  /-- A conversion that does not end. -/
  | unfinished

/-- The width or the precision at the start of a text, and what follows. -/
def readAmount : List Char → Amount × List Char
  | '*' :: rest => (.argument, rest)
  | cs =>
      let digits := cs.takeWhile Char.isDigit
      (.fixed (digitsValue digits), cs.drop digits.length)

/-- The form behind a percent sign, and what follows. -/
def readArgumentForm (cs : List Char) : Option ArgumentForm × List Char :=
  let flags := cs.takeWhile "#-+ 0".toList.contains
  let (width, rest) := readAmount (cs.drop flags.length)
  let (precision?, rest) := match rest with
    | '.' :: rest =>
        let (precision, rest) := readAmount rest
        (some precision, rest)
    | rest => (none, rest)
  match rest with
  | [] => (none, [])
  | kind :: rest =>
      (some ⟨'%' :: cs.take (cs.length - rest.length), flags, width, precision?, kind⟩, rest)

/-- The directives of a format. -/
def directives : Nat → List Char → List Directive
  | 0, _ => []
  | fuel + 1, cs =>
      match cs with
      | [] => []
      | '%' :: '%' :: rest => .text ['%'] :: directives fuel rest
      | '%' :: rest =>
          match readArgumentForm rest with
          | (some c, rest) => .convert c :: directives fuel rest
          | (none, _) => [.unfinished]
      | '\\' :: rest =>
          let part := '\\' :: rest.takeWhile (fun c => c != '\\' && c != '%')
          if part.length = 1 then
            .text (unescaped false ('\\' :: rest.take 1)).1 :: directives fuel (rest.drop 1)
          else .text (unescaped false part).1 :: directives fuel (rest.drop (part.length - 1))
      | c :: rest => .text [c] :: directives fuel rest

/-! ## Numbers in arguments -/

/-- The complaint about an argument of which a number takes a part, if it does not take all
of it or the number does not fit. -/
def aboutNumber? (argument rest : List Char) (isOver : Bool) : Option (List Char) :=
  if rest.isEmpty then
    if isOver then some (argument ++ ": Numerical result out of range".toList) else none
  else if rest.length = argument.length then some (argument ++ ": expected numeric value".toList)
  else some (argument ++ ": not completely converted".toList)

/-- The integer at the start of an argument, with a sign or without, and the complaint about
it.  Behind a quote, an octet stands for its number. -/
def integerArgument (isSigned : Bool) (argument : List Char) : Int × Option (List Char) :=
  match argument with
  | '\'' :: rest | '"' :: rest => ((rest.headD '\x00').toNat, none)
  | _ =>
      match leadingInteger? none argument with
      | none => (0, aboutNumber? argument argument false)
      | some n =>
          if isSigned then (n.clamped, aboutNumber? argument n.rest n.isOver)
          else
            let isOver := 1 <<< 64 ≤ n.magnitude
            (if isOver then greatestWord else n.value, aboutNumber? argument n.rest isOver)

/-- The number at the start of an argument, and the complaint about it. -/
def realArgument (argument : List Char) : Rounded × Option (List Char) :=
  match argument with
  | '\'' :: rest | '"' :: rest => (.ofInt .double (rest.headD '\x00').toNat, none)
  | _ =>
      match Rounded.leading? .double argument with
      | none => (.finite false 0 0, aboutNumber? argument argument false)
      | some n =>
          let spelled := (argument.take (argument.length - n.rest.length)).map Char.toLower
          let isNamed := spelled.contains 'n'
          let mantissa := spelled.takeWhile fun c => c != 'e' && c != 'p'
          let hasDigit := mantissa.any fun c => '1' ≤ c && c ≤ '9'
          let isOver := !isNamed && (!n.value.isFinite || (n.value.isZero && hasDigit))
          (n.value, aboutNumber? argument n.rest isOver)

/-! ## Writing -/

/-- What was written of a format. -/
structure Formatted where
  text : List Char
  /-- The arguments that are left. -/
  arguments : List (List Char)
  complaints : List (List Char)
  /-- Whether nothing more is to be written. -/
  ends : Bool
  /-- Whether the format is none. -/
  isBroken : Bool

/-- A width or a precision, the arguments that are left, and complaints. -/
def Amount.take (arguments : List (List Char)) : Amount → Int × List (List Char) × List (List Char)
  | fixed n => (n, arguments, [])
  | argument =>
      match arguments with
      | [] => (0, [], [])
      | a :: rest =>
          let (n, complaint?) := integerArgument true a
          (n, rest, complaint?.toList)

/-- An argument in the form of a conversion; nothing if there is no such conversion. -/
def converted? (c : Conversion) (argument : List Char) :
    Option (List Char × List (List Char) × Bool) :=
  match c.kind with
  | 's' => some (c.writeText argument, [], false)
  | 'b' =>
      let (text, ends) := unescaped true argument
      some (c.writeText text, [], ends)
  | 'c' => some (c.pad [argument.headD '\x00'], [], false)
  | 'd' | 'i' =>
      let (i, complaint?) := integerArgument true argument
      some (c.writeInteger i, complaint?.toList, false)
  | 'o' | 'u' | 'x' | 'X' =>
      let (i, complaint?) := integerArgument false argument
      some (c.writeInteger i, complaint?.toList, false)
  | 'a' | 'A' | 'e' | 'E' | 'f' | 'F' | 'g' | 'G' =>
      let (x, complaint?) := realArgument argument
      some (c.writeReal .double x, complaint?.toList, false)
  | _ => none

/-- What one pass over a format writes. -/
def formatOnce : List Directive → List (List Char) → Formatted
  | [], arguments => ⟨[], arguments, [], false, false⟩
  | .text cs :: rest, arguments =>
      let f := formatOnce rest arguments
      { f with text := cs ++ f.text }
  | .unfinished :: _, arguments =>
      ⟨[], arguments, ["missing format character".toList], true, true⟩
  | .convert form :: rest, arguments =>
      let (width, arguments, first) := form.width.take arguments
      let (precision, arguments, second) := (form.precision?.getD (.fixed 0)).take arguments
      let c : Conversion := {
        flags := if width < 0 then '-' :: form.flags else form.flags
        width := width.natAbs
        precision? := if form.precision?.isSome && 0 ≤ precision then some precision.toNat else none
        kind := form.kind }
      match converted? c (arguments.headD []) with
      | none =>
          ⟨[], arguments, first ++ second ++ [form.spelling ++ ": invalid directive".toList], true,
            true⟩
      | some (text, complaints, ends) =>
          let complaints := first ++ second ++ complaints
          if ends then ⟨text, [], complaints, true, false⟩
          else
            let f := formatOnce rest (arguments.drop 1)
            { f with
              text := text ++ f.text
              complaints := complaints ++ f.complaints }

/-- What a format writes until all arguments are used. -/
def formatAll (format : List Directive) : Nat → List (List Char) → Formatted
  | 0, arguments => ⟨[], arguments, [], true, false⟩
  | fuel + 1, arguments =>
      let first := formatOnce format arguments
      if first.ends || first.arguments.isEmpty || first.arguments.length = arguments.length then
        first
      else
        let f := formatAll format fuel first.arguments
        { f with
          text := first.text ++ f.text
          complaints := first.complaints ++ f.complaints }

/-- What `printf` writes, with its complaints and its status. -/
def printf (format : List Char) (arguments : List (List Char)) :
    List Char × List (List Char) × Nat :=
  let f := formatAll (directives (format.length + 1) format) (arguments.length + 1) arguments
  (f.text, f.complaints, if f.isBroken then 2 else if f.complaints.isEmpty then 0 else 1)

end DesiredState.Shell
