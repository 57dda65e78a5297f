import DesiredState.Unix.Tools.Making

/-!
# Copying blocks

Octets are read in blocks of one size, may be converted, and are written in blocks of another
size.  How many blocks there were, full ones and others, is told at the end.

## Main definitions

* `BlockJob` — what is read and written, and how.
* `runDd` — copies blocks.
-/

namespace DesiredState.Tools

open Shell

/-- A way to convert blocks. -/
inductive BlockConversion where
  | lower
  | upper
  /-- Each two octets change places. -/
  | swapped
  /-- Blocks are filled up. -/
  | filled
  /-- Lines become records of one length, or the other way round. -/
  | records
  | lines
  /-- What was in the output stays there. -/
  | kept
  /-- The output must not be there, or must be there. -/
  | isNew
  | isOld
  /-- It makes no difference here. -/
  | other
  deriving DecidableEq, Repr

/-- The conversion of a name. -/
def blockConversion? : String → Option BlockConversion
  | "lcase" => some .lower
  | "ucase" => some .upper
  | "swab" => some .swapped
  | "sync" => some .filled
  | "block" => some .records
  | "unblock" => some .lines
  | "notrunc" => some .kept
  | "excl" => some .isNew
  | "nocreat" => some .isOld
  | "noerror" | "sparse" | "fdatasync" | "fsync" => some .other
  | _ => none

/-- The names of flags for the input and the output. -/
def blockFlags : List String :=
  ["append", "cio", "direct", "directory", "dsync", "noatime", "nocache", "noctty", "nofollow",
    "nolinks", "nonblock", "sync", "text", "binary", "fullblock", "count_bytes", "skip_bytes",
    "seek_bytes"]

/-- What is read and written, and how. -/
structure BlockJob where
  input? : Option (List Char)
  output? : Option (List Char)
  inputSize : Nat
  outputSize : Nat
  /-- Whether each block that is read is written as one. -/
  isDirect : Bool
  recordSize : Nat
  skip : Nat
  seek : Nat
  count? : Option Nat
  conversions : List BlockConversion
  inputFlags : List String
  outputFlags : List String
  status : String

/-- The usual job: all of the input is copied in blocks of 512 octets. -/
def BlockJob.usual : BlockJob :=
  ⟨none, none, 512, 512, false, 0, 0, 0, none, [], [], [], "progress"⟩

/-- A number of blocks: factors with units. -/
def blockNumber? (cs : List Char) : Option Nat :=
  (splitAtChar 'x' cs).foldl (fun product? factor => do
    let product ← product?
    match sizeOf? "bcwBkKMGTPEZYRQ0" factor with
    | .ok n => if factor.head?.any Char.isDigit then some (product * n) else none
    | .error _ => none) (some 1)

/-- Whether conversions contradict each other, and which ones. -/
def contradiction? (conversions : List BlockConversion) : Option String :=
  let both (a b : BlockConversion) : Bool := conversions.contains a && conversions.contains b
  if both .lower .upper then some "cannot combine lcase and ucase"
  else if both .isNew .isOld then some "cannot combine excl and nocreat"
  else if both .records .lines then
    some "cannot combine any two of \x7bascii,ebcdic,ibm\x7d"
  else none

/-- What is wrong with an operand. -/
structure OperandFault where
  words : String
  text : List Char
  /-- Whether the text is quoted as a shell would read it. -/
  asShell : Bool
  pointsToHelp : Bool

/-- The job behind an operand, or what is wrong with that. -/
def BlockJob.withOperand (j : BlockJob) (operand : List Char) : Except OperandFault BlockJob :=
  let name := operand.takeWhile (· != '=')
  let value := operand.drop (name.length + 1)
  let unknown : Except OperandFault BlockJob :=
    .error ⟨"unrecognized operand ", operand, true, true⟩
  let number (f : Nat → BlockJob) : Except OperandFault BlockJob :=
    match blockNumber? value with
    | some n => .ok (f n)
    | none => .error ⟨"invalid number: ", value, true, false⟩
  let size (f : Nat → BlockJob) : Except OperandFault BlockJob :=
    match blockNumber? value with
    | some 0 | none => .error ⟨"invalid number: ", value, true, false⟩
    | some n => .ok (f n)
  let words := (splitAtChar ',' value).map String.ofList
  let flags (what : String) (f : List String → BlockJob) : Except OperandFault BlockJob :=
    match words.find? fun w => !blockFlags.contains w with
    | some w => .error ⟨what, w.toList, false, true⟩
    | none => .ok (f words)
  if name.length = operand.length then unknown
  else
    match String.ofList name with
    | "if" => .ok { j with input? := some value }
    | "of" => .ok { j with output? := some value }
    | "bs" => size fun n => { j with inputSize := n, outputSize := n, isDirect := true }
    | "ibs" => size fun n => if j.isDirect then j else { j with inputSize := n }
    | "obs" => size fun n => if j.isDirect then j else { j with outputSize := n }
    | "cbs" => size fun n => { j with recordSize := n }
    | "skip" | "iseek" => number fun n => { j with skip := n }
    | "seek" | "oseek" => number fun n => { j with seek := n }
    | "count" => number fun n => { j with count? := some n }
    | "conv" =>
        match words.find? fun w => (blockConversion? w).isNone with
        | some w => .error ⟨"invalid conversion: ", w.toList, false, true⟩
        | none =>
            .ok { j with conversions := j.conversions ++ words.filterMap blockConversion? }
    | "iflag" => flags "invalid input flag: " fun ws => { j with inputFlags := j.inputFlags ++ ws }
    | "oflag" =>
        flags "invalid output flag: " fun ws => { j with outputFlags := j.outputFlags ++ ws }
    | "status" =>
        if ["none", "noxfer", "progress"].contains (String.ofList value) then
          .ok { j with status := String.ofList value }
        else .error ⟨"invalid status level: ", value, false, true⟩
    | _ => unknown

/-- The blocks of a size in a text; the last one may be shorter. -/
def blocksOf (size : Nat) : (fuel : Nat) → List Char → List (List Char)
  | 0, _ => []
  | fuel + 1, cs =>
      if cs.isEmpty then [] else cs.take size :: blocksOf size fuel (cs.drop size)

/-- A text in which each two octets have changed places. -/
def swappedPairs : List Char → List Char
  | a :: b :: rest => b :: a :: swappedPairs rest
  | rest => rest

/-- A converted text, and how many lines were cut. -/
def BlockJob.converted (j : BlockJob) (text : List Char) : List Char × Nat :=
  let has (c : BlockConversion) : Bool := j.conversions.contains c
  let text := if has .swapped then swappedPairs text else text
  let text :=
    if has .lower then text.map Char.toLower
    else if has .upper then text.map Char.toUpper
    else text
  if 0 < j.recordSize && has .records then
    let lines := textsBy '\n' text
    (lines.flatMap fun l =>
      l.take j.recordSize ++ List.replicate (j.recordSize - l.length) ' ',
      lines.countP fun l => j.recordSize < l.length)
  else if 0 < j.recordSize && has .lines then
    ((blocksOf j.recordSize (text.length + 1) text).flatMap fun b =>
      (b.reverse.dropWhile (· == ' ')).reverse ++ ['\n'], 0)
  else (text, 0)

/-- A number with a unit behind it that keeps it short. -/
def shortRate (n : Nat) : List Char :=
  let tenths := n / 100
  writeNat (tenths / 10) ++ '.' :: writeNat (tenths % 10) ++ " kB/s".toList

/-- Tells how many blocks were copied. -/
def BlockJob.tell (j : BlockJob) (read written : Nat × Nat) (cut octets : Nat) : Job Unit := do
  let line (n : Nat × Nat) (what : String) : List Char :=
    writeNat n.1 ++ '+' :: writeNat n.2 ++ (" records " ++ what).toList
  if j.status ≠ "none" then
    complain (line read "in")
    complain (line written "out")
    if 0 < cut then
      complain (writeNat cut ++
        (if cut = 1 then " truncated record" else " truncated records").toList)
    if j.status ≠ "noxfer" then
      complain (writeNat octets ++ (if octets = 1 then " byte" else " bytes").toList ++
        " copied, 0.0001 s, ".toList ++ shortRate (octets * 10000))

/-- How many full blocks there are, and how many others. -/
def blockCount (size : Nat) (blocks : List (List Char)) : Nat × Nat :=
  (blocks.countP fun b => b.length = size, blocks.countP fun b => b.length ≠ size)

/-- Opens the output, at the place where it is to be written; answers whether that was
possible. -/
def BlockJob.openOutput (j : BlockJob) : Job Bool := do
  match j.output? with
  | none => return true
  | some path =>
      let s ← get
      let refuse (fault : Fault) : Job Bool := do
        refuseDoing "failed to open" path fault
        return false
      let isThere := s.exists path
      let has (c : BlockConversion) : Bool := j.conversions.contains c
      let start := if j.outputFlags.contains "seek_bytes" then j.seek else j.seek * j.outputSize
      if has .isNew && isThere then refuse .alreadyExists
      else if has .isOld && !isThere then refuse .notFound
      else
        match s.create path with
        | .error fault => refuse fault
        | .ok (s, id) =>
            let s := if has .kept then s
              else { s with files := s.files.change id fun n =>
                match n.content with
                | .octets old => { n with content := .octets (resized start old) }
                | _ => n }
            match s.channelOf id (j.outputFlags.contains "append") with
            | .error fault => refuse fault
            | .ok (.node id _ appends) => do
                set (s.openStream 1 (.node id start appends))
                return true
            | .ok channel => do
                set (s.openStream 1 channel)
                return true

/-- Opens the input; answers whether that was possible. -/
def BlockJob.openInput (j : BlockJob) : Job Bool := do
  match j.input? with
  | none => return true
  | some path =>
      let s ← get
      let found := do s.channelOf (← s.findNode path true) false
      match found with
      | .ok channel => do
          set (s.openStream 0 channel)
          return true
      | .error fault => do
          refuseDoing "failed to open" path fault
          return false

/-- Copies blocks. -/
def BlockJob.run (j : BlockJob) : Job Unit := do
  if !(← j.openInput) then return ()
  if !(← j.openOutput) then return ()
  let skip := if j.inputFlags.contains "skip_bytes" then j.skip else j.skip * j.inputSize
  let length? := j.count?.map fun n =>
    if j.inputFlags.contains "count_bytes" then n else n * j.inputSize
  let limit := length?.elim endlessLength (· + skip)
  let take (text : List Char) : (List Char × Bool) × List Char :=
    let behind := text.drop skip
    let taken := length?.elim behind behind.take
    ((taken, decide (skip ≤ text.length)), behind.drop taken.length)
  match ← takeFrom 0 limit take with
  | .error fault => do
      refuseDoing "error reading" (j.input?.getD "standard input".toList) fault
      j.tell (0, 0) (0, 0) 0 0
  | .ok (text, isReached) => do
      if !isReached && j.status ≠ "none" then
        complainAs ((← shellQuotedIfNeeded (j.input?.getD "standard input".toList)) ++
          ": cannot skip to specified offset".toList)
      let blocks := blocksOf j.inputSize (text.length + 1) text
      let isRecorded := j.conversions.any fun c => c = .records || c = .lines
      let fill := if isRecorded then ' ' else '\x00'
      let filled := if j.conversions.contains .filled then
          blocks.map fun b => b ++ List.replicate (j.inputSize - b.length) fill
        else blocks
      let (content, cut) := j.converted filled.flatten
      let written :=
        if j.isDirect && !isRecorded then filled
        else blocksOf j.outputSize (content.length + 1) content
      emit content
      j.tell (blockCount j.inputSize blocks) (blockCount j.outputSize written) cut content.length

/-- Copies blocks. -/
def runDd : Tool := fun arguments =>
  withOptions ⟨"", [], false, false⟩ 1 arguments fun _ operands => do
    match operands.foldlM BlockJob.withOperand BlockJob.usual with
    | .error fault => do
        let text := fault.words.toList ++
          (← if fault.asShell then shellQuoted fault.text else quoted fault.text)
        if fault.pointsToHelp then misuse 1 text else failAs 1 text
    | .ok job =>
        match contradiction? job.conversions with
        | some text => failAs 1 text.toList
        | none => job.run

end DesiredState.Tools
