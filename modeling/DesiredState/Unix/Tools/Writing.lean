import DesiredState.Unix.Shell.Format
import DesiredState.Unix.Shell.Streams
import DesiredState.Unix.Tools.Inputs

/-!
# Writing texts

Programs that write their arguments, as they are or as a format says, and one that copies its
input to files.

## Main definitions

* `runEcho`, `runYes` — arguments as they are, once or again and again.
* `runPrintf` — arguments as a format says.
* `runTee` — the input in many files.
-/

namespace DesiredState.Tools

open Shell

/-! ## Escapes -/

/-- The octet of at most so many digits, and what follows; nothing if there are none. -/
def digitsOctet? (base most : Nat) (cs : List Char) : Option (Char × List Char) :=
  let digits := (cs.take most).takeWhile fun c => (digitValue? base c).isSome
  (digitsValue? base digits).map fun n => (Char.ofNat (n % 256), cs.drop digits.length)

/-- A text behind which its escapes are replaced, and whether an escape ends all output. -/
def unescapedEcho : (fuel : Nat) → List Char → List Char × Bool
  | 0, cs => (cs, false)
  | fuel + 1, cs =>
      let andThen (octet : Char) (rest : List Char) : List Char × Bool :=
        let (text, ends) := unescapedEcho fuel rest
        (octet :: text, ends)
      match cs with
      | '\\' :: 'c' :: _ => ([], true)
      | '\\' :: 'x' :: rest =>
          match digitsOctet? 16 2 rest with
          | some (octet, rest) => andThen octet rest
          | none =>
              let (text, ends) := andThen 'x' rest
              ('\\' :: text, ends)
      | '\\' :: '0' :: rest =>
          match digitsOctet? 8 3 rest with
          | some (octet, rest) => andThen octet rest
          | none => andThen '\x00' rest
      | '\\' :: c :: rest =>
          match digitsOctet? 8 3 (c :: rest), escapedOctet? c with
          | some (octet, rest), _ => andThen octet rest
          | none, some octet => andThen octet rest
          | none, none =>
              let (text, ends) := andThen c rest
              ('\\' :: text, ends)
      | c :: rest => andThen c rest
      | [] => ([], false)

/-- Writes arguments. -/
def runEcho : Tool := fun arguments => do
  let s ← get
  let isStandard := (s.valueOf? "POSIXLY_CORRECT".toList).isSome
  let isOption (a : List Char) : Bool :=
    match a with
    | '-' :: c :: rest => (c :: rest).all fun c => c == 'n' || c == 'e' || c == 'E'
    | _ => false
  finishWith 0
  match arguments.map String.ofList, isStandard with
  | ["--help"], false => emit ("Usage: ".toList ++ s.program ++ " [OPTION]...\n".toList)
  | ["--version"], false => emit (baseOfPath s.program ++ " (GNU coreutils) 9.4\n".toList)
  | _, _ => do
      let options :=
        if isStandard && arguments.head? ≠ some "-n".toList then []
        else arguments.takeWhile isOption
      let letters := options.flatMap fun o => o.drop 1
      let words := arguments.drop options.length
      let hasEscapes := isStandard ||
        (letters.filter fun c => c != 'n').getLast? = some 'e'
      let text := List.intercalate [' '] words
      let newLine := if letters.contains 'n' then [] else ['\n']
      if hasEscapes then
        let (text, ends) := unescapedEcho (text.length + 1) text
        emit (if ends then text else text ++ newLine)
      else emit (text ++ newLine)

/-- How many octets are written of what has no end. -/
def maxEndlessOutput : Nat := 1 <<< 18

/-- Writes arguments again and again, until nobody reads them. -/
def runYes : Tool := fun arguments =>
  withOptions ⟨"", [], false, false⟩ 1 arguments fun _ operands => do
    let line := (if operands.isEmpty then ['y'] else List.intercalate [' '] operands) ++ ['\n']
    emit (List.replicate (maxEndlessOutput / line.length + 1) line).flatten

/-! ## Formats -/

/-- What happens while a format is written. -/
structure FormatRun where
  /-- The parts of what was written, the last one first. -/
  parts : List (List Char)
  arguments : List (List Char)
  /-- Whether nothing more is to be written. -/
  ends : Bool

/-- What was written. -/
def FormatRun.text (f : FormatRun) : List Char := f.parts.reverse.flatten

/-- Adds a text to what is written. -/
def FormatRun.write (f : FormatRun) (text : List Char) : FormatRun :=
  { f with parts := text :: f.parts }

/-- The octets of a character of a number. -/
def octetsOfNumber (n : Nat) : List Char := octetsOf [Char.ofNat n]

/-- An escape behind its backslash: its octets, and what follows.  Where `isBare` holds, octal
digits need no zero in front. -/
def formatEscape (isBare : Bool) (cs : List Char) : Job (Option (List Char) × List Char) := do
  let fail : Job (Option (List Char) × List Char) := do
    complainAs "missing hexadecimal number in escape".toList
    noteFailure
    return (none, [])
  match cs with
  | [] => return (some ['\\'], [])
  | 'c' :: _ => return (none, [])
  | '"' :: rest => return (some ['"'], rest)
  | 'x' :: rest =>
      match digitsOctet? 16 2 rest with
      | some (octet, rest) => return (some [octet], rest)
      | none => fail
  | '0' :: rest =>
      if isBare then
        match digitsOctet? 8 3 ('0' :: rest) with
        | some (octet, rest) => return (some [octet], rest)
        | none => return (some ['\x00'], rest)
      else
        match digitsOctet? 8 3 rest with
        | some (octet, rest) => return (some [octet], rest)
        | none => return (some ['\x00'], rest)
  | c :: rest =>
      if c = 'u' || c = 'U' then
        let digits := rest.take (if c = 'u' then 4 else 8)
        match digitsValue? 16 digits with
        | some n =>
            if digits.length = (if c = 'u' then 4 else 8) then
              return (some (octetsOfNumber n), rest.drop digits.length)
            else fail
        | none => fail
      else
        match digitsOctet? 8 3 (c :: rest), escapedOctet? c with
        | some (octet, rest), _ => return (some [octet], rest)
        | none, some octet => return (some [octet], rest)
        | none, none => return (some ['\\', c], rest)

/-- A text with its escapes replaced, and whether an escape ends all output. -/
def unescapedArgument : (fuel : Nat) → List Char → Job (List Char × Bool)
  | 0, cs => return (cs, false)
  | fuel + 1, cs => do
      match cs with
      | [] => return ([], false)
      | '\\' :: rest =>
          match ← formatEscape false rest with
          | (none, _) => return ([], true)
          | (some octets, rest) => do
              let (text, ends) ← unescapedArgument fuel rest
              return (octets ++ text, ends)
      | c :: rest => do
          let (text, ends) ← unescapedArgument fuel rest
          return (c :: text, ends)

/-- Complains about what is behind a number in an argument. -/
def noteNumber (argument rest : List Char) (isOver : Bool) : Job Unit := do
  if isOver && rest.isEmpty then
    complainAs ((← quoted argument) ++ ": Numerical result out of range".toList)
    noteFailure
  else if !rest.isEmpty then
    complainAs ((← quoted argument) ++ (if rest.length = argument.length then
      ": expected a numeric value" else ": value not completely converted").toList)
    noteFailure

/-- The letter behind a quote in an argument, as a number. -/
def quotedLetter? (argument : List Char) : Job (Option Nat) := do
  match argument with
  | '\'' :: rest | '"' :: rest =>
      let letters := lettersOf (← get).isUnicode rest
      return letters.head?.map Char.toNat
  | _ => return none

/-- The integer of an argument, with a sign or without. -/
def formatInteger (isSigned : Bool) (argument : List Char) : Job Int := do
  match ← quotedLetter? argument with
  | some n => return n
  | none =>
      match leadingInteger? none argument with
      | none => do
          if !argument.isEmpty then noteNumber argument argument false
          return 0
      | some n =>
          if isSigned then
            noteNumber argument n.rest n.isOver
            return n.clamped
          else
            let isOver := 1 <<< 64 ≤ n.magnitude
            noteNumber argument n.rest isOver
            return if isOver then greatestWord else n.value

/-- The number of an argument. -/
def formatReal (argument : List Char) : Job Rounded := do
  match ← quotedLetter? argument with
  | some n => return .ofInt .extended n
  | none =>
      match Rounded.leading? .extended argument with
      | none => do
          if !argument.isEmpty then noteNumber argument argument false
          return .finite false 0 0
      | some n => do
          noteNumber argument n.rest false
          return n.value

/-- Complains about a conversion that is none. -/
def refuseConversion (spelling : List Char) : Job (Option (List Char × Bool)) := do
  complainAs (spelling ++ ": invalid conversion specification".toList)
  noteFailure
  return none

/-- An argument in the form of a conversion, and whether nothing more is to be written; nothing
if there is no such conversion. -/
def convertedArgument (c : Conversion) (spelling argument : List Char) :
    Job (Option (List Char × Bool)) := do
  let isPlain := c.precision?.isNone && c.flags.all fun f => f == '-'
  match c.kind with
  | 's' => return some (c.writeText argument, false)
  | 'b' =>
      if c.width = 0 && isPlain && c.flags.isEmpty then
        return some (← unescapedArgument (argument.length + 1) argument)
      else refuseConversion spelling
  | 'q' =>
      let isUnicode := (← get).isUnicode
      let text := if needsQuotes isUnicode [] argument then shellQuotedIn isUnicode argument
        else argument
      return some (text, false)
  | 'c' => return some (c.pad (argument.take 1), false)
  | 'd' | 'i' => do return some (c.writeInteger (← formatInteger true argument), false)
  | 'o' | 'u' | 'x' | 'X' => do return some (c.writeInteger (← formatInteger false argument), false)
  | 'a' | 'A' | 'e' | 'E' | 'f' | 'F' | 'g' | 'G' => do
      return some (c.writeReal .extended (← formatReal argument), false)
  | _ => refuseConversion spelling

/-- A width or a precision, and the arguments that are left. -/
def takeAmount (amount : Amount) (arguments : List (List Char)) : Job (Int × List (List Char)) := do
  match amount, arguments with
  | .fixed n, _ => return (n, arguments)
  | .argument, [] => return (0, [])
  | .argument, a :: rest => return (← formatInteger true a, rest)

/-- A form without letters for the size of a number, and without a sign for groups of digits. -/
def withoutSize (cs : List Char) : List Char :=
  let front := cs.takeWhile "#-+ 0'.*123456789".toList.contains
  front.filter (· != '\'') ++ (cs.drop front.length).dropWhile "hjlLtz".toList.contains

/-- One pass over a format; nothing if it is broken. -/
def formatPass : (fuel : Nat) → List Char → FormatRun → Job (Option FormatRun)
  | 0, _, f => return some f
  | fuel + 1, cs, f => do
      match cs with
      | [] => return some f
      | '%' :: '%' :: rest => formatPass fuel rest (f.write ['%'])
      | '%' :: rest =>
          match readArgumentForm (withoutSize rest) with
          | (none, _) => do
              emit f.text
              discard (refuseConversion ('%' :: rest))
              return none
          | (some form, left) => do
              let (width, arguments) ← takeAmount form.width f.arguments
              let (precision, arguments) ← takeAmount (form.precision?.getD (.fixed 0)) arguments
              let c : Conversion := {
                flags := if width < 0 then '-' :: form.flags else form.flags
                width := width.natAbs
                precision? :=
                  if form.precision?.isSome && 0 ≤ precision then some precision.toNat else none
                kind := form.kind }
              let spelling := '%' :: rest.take (rest.length - left.length)
              match ← convertedArgument c spelling (arguments.headD []) with
              | none => do
                  emit f.text
                  return none
              | some (text, ends) =>
                  let f := { f.write text with arguments := arguments.drop 1, ends := ends }
                  if ends then return some f else formatPass fuel left f
      | '\\' :: rest =>
          match ← formatEscape true rest with
          | (none, _) => return some { f with ends := true }
          | (some octets, rest) => formatPass fuel rest (f.write octets)
      | c :: rest => formatPass fuel rest (f.write [c])

/-- Writes a format until all arguments are used. -/
def formatPasses (format : List Char) : (fuel : Nat) → FormatRun → Job Unit
  | 0, f => emit f.text
  | fuel + 1, f => do
      let (some after) ← formatPass (format.length + 1) format f | return ()
      if after.ends || after.arguments.isEmpty then emit after.text
      else if after.arguments.length = f.arguments.length then
        emit after.text
        complainAs ("warning: ignoring excess arguments, starting with ".toList ++
          (← quoted (after.arguments.headD [])))
      else formatPasses format fuel after

/-- Writes arguments as a format says. -/
def runPrintf : Tool := fun arguments => do
  let s ← get
  finishWith 0
  match arguments.map String.ofList with
  | ["--help"] => emit ("Usage: ".toList ++ s.program ++ " FORMAT [ARGUMENT]...\n".toList)
  | ["--version"] => emit (baseOfPath s.program ++ " (GNU coreutils) 9.4\n".toList)
  | _ =>
      match dropDashes arguments with
      | [] => misuseMissing 1
      | format :: arguments => formatPasses format (arguments.length + 1) ⟨[], arguments, false⟩
where
  /-- Arguments without the sign that ends options. -/
  dropDashes : List (List Char) → List (List Char)
    | ['-', '-'] :: rest => rest
    | arguments => arguments

/-! ## Copies of the input -/

/-- Opens a file for writing; answers the channel, or why that is not possible. -/
def openForWriting (appends : Bool) (path : List Char) : Job (Except Fault Channel) := do
  match (← get).create path with
  | .error fault => return .error fault
  | .ok (s, id) =>
      let s := if appends then s else s.truncate id
      match s.channelOf id appends with
      | .error fault => return .error fault
      | .ok channel => do
          set s
          return .ok channel

/-- Writes a text to a channel; answers why that is not possible. -/
def writeToChannel (channel : Channel) (text : List Char) : Job (Option Fault) := do
  modify fun s => s.openStream 9 channel
  let fault? ← writeTo 9 text
  modify fun s => s.closeStream 9
  return fault?

/-- The options of `tee`. -/
def teeForms : OptionForms where
  letters := "aip"
  words := [("append", .nothing, "a"), ("ignore-interrupts", .nothing, "i"),
    ("output-error", .maybe, "output-error")]
  permutes := true

/-- Copies the input to the output and to files. -/
def runTee : Tool := fun arguments =>
  withOptions teeForms 1 arguments fun given operands => do
    let mode? ← match lastGiven? given "output-error" with
      | some (c :: cs) =>
          wordAmong 1 "--output-error" [["warn"], ["warn-nopipe"], ["exit"], ["exit-nopipe"]]
            (c :: cs)
      | _ => pure (some "")
    let some _ := mode? | return ()
    let channels ← operands.filterMapM fun path => do
      match ← openForWriting (isGiven given "a") path with
      | .ok channel => return some (path, channel)
      | .error fault => do
          complainAbout path fault
          noteFailure
          return none
    let text := match ← readStream 0 endlessLength with
      | .ok text => text
      | .error _ => []
    if !text.isEmpty then
      emit text
      channels.forM fun (path, channel) => do
        (← writeToChannel channel text).forM fun fault => do
          complainAbout path fault
          noteFailure

end DesiredState.Tools
