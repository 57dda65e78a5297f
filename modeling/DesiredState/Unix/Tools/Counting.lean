import DesiredState.Unix.Tools.Inputs

/-!
# Counting

How many lines, words, letters and octets a text has, and how wide its widest line is.

## Main definitions

* `Counts`, `Counts.ofText` — the numbers of a text.
* `runWc` — the numbers of files.
-/

namespace DesiredState.Tools

open Shell

/-- The numbers of a text. -/
structure Counts where
  lines : Nat
  words : Nat
  letters : Nat
  octets : Nat
  width : Nat
  deriving Repr

/-- Whether a letter stands between words. -/
def isWordGap (c : Char) : Bool :=
  isNumberBlank c || [0xa0, 0x1680, 0x2007, 0x2028, 0x2029, 0x202f, 0x205f, 0x2060,
    0x3000].contains c.toNat || (0x2000 ≤ c.toNat && c.toNat ≤ 0x200a)

/-- Counting under way. -/
structure Counting where
  lines : Nat
  words : Nat
  letters : Nat
  isInWord : Bool
  column : Nat
  width : Nat

/-- One more letter. -/
def Counting.step (isUnicode : Bool) (n : Counting) (c : Char) : Counting :=
  if isStray c then n
  else
    let n := { n with letters := n.letters + 1 }
    let ended (n : Counting) : Counting := { n with width := max n.width n.column, column := 0 }
    if c = '\n' then { ended n with lines := n.lines + 1, isInWord := false }
    else if c = '\r' || c = '\x0c' then { ended n with isInWord := false }
    else if c = '\t' then { n with column := n.column / 8 * 8 + 8, isInWord := false }
    else if isWordGap c then
      { n with column := n.column + (if c = '\x0b' then 0 else letterWidth c), isInWord := false }
    else
      let isSeen := if isUnicode then c.toNat ≥ 0x20 && c.toNat ≠ 0x7f && !(0x80 ≤ c.toNat &&
        c.toNat < 0xa0) else 0x20 ≤ c.toNat && c.toNat < 0x7f
      if isSeen then
        { n with
          column := n.column + letterWidth c
          words := if n.isInWord then n.words else n.words + 1
          isInWord := true }
      else if !isUnicode && 0x80 ≤ c.toNat then
        { n with words := if n.isInWord then n.words else n.words + 1, isInWord := true }
      else n

/-- The numbers of a text. -/
def Counts.ofText (isUnicode : Bool) (octets : List Char) : Counts :=
  let n := (lettersOf isUnicode octets).foldl (Counting.step isUnicode) ⟨0, 0, 0, false, 0, 0⟩
  ⟨n.lines, n.words, n.letters, octets.length, max n.width n.column⟩

/-- The numbers of two texts together. -/
def Counts.add (a b : Counts) : Counts :=
  ⟨a.lines + b.lines, a.words + b.words, a.letters + b.letters, a.octets + b.octets,
    max a.width b.width⟩

/-- The numbers that are asked for. -/
def Counts.chosen (n : Counts) (letters : String) : List Nat :=
  let has (c : Char) : Bool := letters.toList.contains c
  (if has 'l' then [n.lines] else []) ++ (if has 'w' then [n.words] else []) ++
    (if has 'm' then [n.letters] else []) ++ (if has 'c' then [n.octets] else []) ++
    (if has 'L' then [n.width] else [])

/-- The line with the numbers of a text, and its name if it has one. -/
def Counts.line (n : Counts) (letters : String) (width : Nat) (name : List Char) : List Char :=
  let numbers := (n.chosen letters).map fun k => rightAligned width (writeNat k)
  List.intercalate [' '] numbers ++ (if name.isEmpty then [] else ' ' :: name) ++ ['\n']

/-- The options of `wc`. -/
def wcForms : OptionForms where
  letters := "clLmw"
  words := [("bytes", .nothing, "c"), ("chars", .nothing, "m"), ("lines", .nothing, "l"),
    ("words", .nothing, "w"), ("files0-from", .argument, "files0-from"),
    ("max-line-length", .nothing, "L"), ("total", .argument, "total")]
  permutes := true

/-- How many octets the file of an operand has; nothing if it has no such size. -/
def sizeOfOperand? (name : List Char) : Job (Option (Option Nat)) := do
  let s ← get
  let sizeOf (id : Nat) : Option Nat :=
    match s.files.content id with
    | .octets text => some text.length
    | .program name => some (programOctets name).length
    | _ => none
  if name = ['-'] || name.isEmpty then
    match s.channel? 0 with
    | some (_, .node id _ _) => return some (sizeOf id)
    | _ => return some none
  else
    match s.findNode name true with
    | .ok id => return some (sizeOf id)
    | .error _ => return none

/-- How wide numbers are written. -/
def numberWidth (letters : String) (names : List (List Char)) : Job Nat := do
  if names.length = 1 && letters.length = 1 then return 1
  else
    let sizes ← names.mapM sizeOfOperand?
    let known := sizes.filterMap id
    let total := (known.filterMap id).foldl (· + ·) 0
    let least := if known.any Option.isNone then 7 else 1
    return max least (writeNat total).length

/-- Writes the numbers of files, and those of all together. -/
def countFiles (letters total : String) (names : List (List Char)) : Job Unit := do
  let width ← if total = "only" then pure 1 else numberWidth letters names
  let isUnicode := (← get).isUnicode
  let sum ← names.foldlM (fun (sum : Counts) name => do
    let report (text : List Char) : Job Counts := do
      let n := Counts.ofText isUnicode text
      if total ≠ "only" then emit (n.line letters width name)
      return sum.add n
    let source := if name.isEmpty then ['-'] else name
    match ← readOperand source with
    | .ok text => report text
    | .error fault => do
        complainAbout name fault
        noteFailure
        if fault = .isDirectory then report [] else return sum) ⟨0, 0, 0, 0, 0⟩
  let isWritten := match total with
    | "always" | "only" => true
    | "never" => false
    | _ => 1 < names.length
  if isWritten then
    emit (sum.line letters width (if total = "only" then [] else "total".toList))

/-- Writes how many lines, words, letters and octets files have. -/
def runWc : Tool := fun arguments =>
  withOptions wcForms 1 arguments fun given operands => do
    let asked := ["l", "w", "m", "c", "L"].filter (isGiven given)
    let letters := if asked.isEmpty then "lwc" else String.join asked
    let total? ← match lastGiven? given "total" with
      | some text => wordAmong 1 "--total" [["auto"], ["always"], ["only"], ["never"]] text
      | none => pure (some "auto")
    total?.forM fun total => do
      match lastGiven? given "files0-from", operands with
      | some _, extra :: _ => do
          complainAs ("extra operand ".toList ++ (← shellQuoted extra))
          complain "file operands cannot be combined with --files0-from".toList
          pointToHelp 1
      | some list, [] =>
          match ← readOperand list with
          | .ok text => countFiles letters total (textsBy '\x00' text)
          | .error fault =>
              failAs 1 ("cannot open ".toList ++ (← shellQuoted list) ++ " for reading: ".toList ++
                fault.words.toList)
      | none, [] => countFiles letters total [[]]
      | none, operands => do
          if operands.contains [] then
            complainAs "invalid zero-length file name".toList
            noteFailure
          countFiles letters total (operands.filter fun o => !o.isEmpty)

end DesiredState.Tools
