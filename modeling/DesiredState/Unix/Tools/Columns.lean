import DesiredState.Unix.Tools.Inputs

/-!
# Columns of lines

These programs take parts of lines, put lines beside each other, and change where the
columns of lines stand.

## Main definitions

* `runCut`, `runPaste` — parts of lines, and lines beside each other.
* `runExpand`, `runUnexpand`, `runFold` — tabs, blanks and long lines.
-/

namespace DesiredState.Tools

open Shell

/-! ## Parts of lines -/

/-- A range of positions, counted from one. -/
structure PositionRange where
  first : Nat
  /-- Nothing stands for the end of the line. -/
  last? : Option Nat

/-- The options of `cut`. -/
def cutForms : OptionForms where
  letters := "b:c:d:f:nsz"
  words := [("bytes", .argument, "b"), ("characters", .argument, "c"), ("fields", .argument, "f"),
    ("delimiter", .argument, "d"), ("only-delimited", .nothing, "s"),
    ("output-delimiter", .argument, "output-delimiter"), ("complement", .nothing, "complement"),
    ("zero-terminated", .nothing, "z")]
  permutes := true

/-- The ranges that an argument spells, or the complaint. -/
def rangesOf (isUnicode ofFields : Bool) (text : List Char) :
    Except (List Char) (List PositionRange) := do
  let fromOne := if ofFields then "fields are numbered from 1"
    else "byte/character positions are numbered from 1"
  let number (cs : List Char) : Except (List Char) Nat := do
    let digits := cs.takeWhile Char.isDigit
    let n := digitsValue digits
    if digits.length < cs.length then
      throw ((if ofFields then "invalid field value "
        else "invalid byte/character position ").toList ++
        quotedIn isUnicode (cs.drop digits.length))
    else if (1 <<< 64) - 1 ≤ n then
      throw ((if ofFields then "field number " else "byte/character offset ").toList ++
        quotedIn isUnicode digits ++ " is too large".toList)
    else if n = 0 then throw fromOne.toList
    else pure n
  let parts := splitAtChar ',' (text.map fun c => if c = ' ' || c = '\t' then ',' else c)
  parts.mapM fun part =>
    match splitAtChar '-' part with
    | [[]] => throw fromOne.toList
    | [a] => do
        let n ← number a
        pure ⟨n, some n⟩
    | [[], []] => throw "invalid range with no endpoint: -".toList
    | [a, []] => do pure ⟨← number a, none⟩
    | [[], b] => do pure ⟨1, some (← number b)⟩
    | [a, b] => do
        let m ← number a
        let n ← number b
        if n < m then throw "invalid decreasing range".toList
        pure ⟨m, some n⟩
    | _ =>
        throw (if ofFields then "invalid field range"
          else "invalid byte or character range").toList

/-- Joins ranges that meet or overlap. -/
def joinedRanges : List PositionRange → List PositionRange
  | a :: b :: rest =>
      match a.last? with
      | none => [a]
      | some last =>
          if b.first ≤ last then
            joinedRanges (⟨a.first, b.last?.map (max last)⟩ :: rest)
          else a :: joinedRanges (b :: rest)
  | ranges => ranges
termination_by ranges => ranges.length

/-- The ranges of what other ranges do not have. -/
def otherRanges (ranges : List PositionRange) : List PositionRange :=
  let rec gaps : Nat → List PositionRange → List PositionRange
    | start, [] => [⟨start, none⟩]
    | start, r :: rest =>
        let here := if start < r.first then [⟨start, some (r.first - 1)⟩] else []
        match r.last? with
        | some last => here ++ gaps (last + 1) rest
        | none => here
  gaps 1 ranges

/-- The items of a list in some ranges. -/
def itemsIn {α : Type} (ranges : List PositionRange) (items : List α) : List (List α) :=
  (ranges.map fun r => (match r.last? with
    | some last => items.take last
    | none => items).drop (r.first - 1)).filter fun part => !part.isEmpty

/-- Writes parts of the lines of files. -/
def runCut : Tool := fun arguments =>
  withOptions cutForms 1 arguments fun given operands => do
    let isUnicode := (← get).isUnicode
    let lists := given.filter fun g => ["b", "c", "f"].contains g.name
    match lists, lastGiven? given "d" with
    | _, some (_ :: _ :: _) => misuse 1 "the delimiter must be a single character".toList
    | [], _ => misuse 1 "you must specify a list of bytes, characters, or fields".toList
    | _ :: _ :: _, _ => misuse 1 "only one list may be specified".toList
    | [list], delimiter? =>
      let ofFields := list.name == "f"
      if !ofFields && delimiter?.isSome then
        misuse 1 "an input delimiter may be specified only when operating on fields".toList
      else if !ofFields && isGiven given "s" then
        misuse 1 ("suppressing non-delimited lines makes sense\n\tonly when operating on " ++
          "fields").toList
      else
        match rangesOf isUnicode ofFields list.argument with
        | .error complaint => misuse 1 complaint
        | .ok ranges =>
            let sorted := ranges.mergeSort fun a b => a.first ≤ b.first
            let joined := joinedRanges sorted
            let ranges := if isGiven given "complement" then otherRanges joined else joined
            let separator := if isGiven given "z" then '\x00' else '\n'
            let delimiter := match delimiter? with
              | some (c :: _) => c
              | some [] => '\x00'
              | none => '\t'
            let between? := lastGiven? given "output-delimiter"
            let cutLine (line : List Char) : Option (List Char) :=
              if ofFields then
                if line.contains delimiter then
                  let fields := (itemsIn ranges (splitAtChar delimiter line)).flatten
                  some (List.intercalate (between?.getD [delimiter]) fields)
                else if isGiven given "s" then none
                else some line
              else some (List.intercalate (between?.getD []) (itemsIn ranges line))
            forInputs operands fun _ text =>
              (textsBy separator text).forM fun line =>
                (cutLine line).forM fun part => emit (part ++ [separator])

/-! ## Lines beside each other -/

/-- The delimiters that an argument spells; nothing if it ends with a backslash. -/
def delimitersOf? : List Char → Option (List (List Char))
  | [] => some []
  | ['\\'] => none
  | '\\' :: c :: rest =>
      let part := match c with
        | '0' => []
        | 'b' => ['\x08']
        | 'f' => ['\x0c']
        | 'n' => ['\n']
        | 'r' => ['\r']
        | 't' => ['\t']
        | 'v' => ['\x0b']
        | c => [c]
      (delimitersOf? rest).map (part :: ·)
  | c :: rest => (delimitersOf? rest).map ([c] :: ·)

/-- Texts with delimiters between them, which are used again and again. -/
def interleaved (delimiters : List (List Char)) (parts : List (List Char)) : List Char :=
  (parts.zipIdx.map fun (part, n) =>
    if n = 0 then part
    else
      (if delimiters.isEmpty then [] else delimiters.getD ((n - 1) % delimiters.length) []) ++
        part).flatten

/-- The options of `paste`. -/
def pasteForms : OptionForms where
  letters := "d:sz"
  words := [("serial", .nothing, "s"), ("delimiters", .argument, "d"),
    ("zero-terminated", .nothing, "z")]
  permutes := true

/-- The lines of columns side by side, as long as one of them has more. -/
def rowsOf (delimiters : List (List Char)) : Nat → List (List (List Char)) → List (List Char)
  | 0, _ => []
  | fuel + 1, columns =>
      if columns.all List.isEmpty then []
      else
        interleaved delimiters (columns.map fun c => c.headD []) ::
          rowsOf delimiters fuel (columns.map fun c => c.drop 1)

/-- Every so manieth line of lines, from one on. -/
def everyNth (step start : Nat) (lines : List (List Char)) : List (List Char) :=
  (lines.zipIdx.filter fun (_, n) => n % step == start).map Prod.fst

/-- Writes the lines of files side by side, or those of each file in one line. -/
def runPaste : Tool := fun arguments =>
  withOptions pasteForms 1 arguments fun given operands => do
    let text := (lastGiven? given "d").getD ['\t']
    match delimitersOf? text with
    | none =>
        failAs 1 ("delimiter list ends with an unescaped backslash: ".toList ++
          (← shellQuotedIfNeeded text))
    | some delimiters =>
        let separator := if isGiven given "z" then '\x00' else '\n'
        let names := orInput operands
        if isGiven given "s" then
          forInputs operands fun _ text =>
            emit (interleaved delimiters (textsBy separator text) ++ [separator])
        else
          let count := names.count ['-']
          let input ← if count = 0 then pure (.ok []) else readOperand ['-']
          let step (state : List (List (List Char)) × Nat) (name : List Char) :
              Job (List (List (List Char)) × Nat) := do
            let (columns, used) := state
            let content ← if name = ['-'] then pure input else readOperand name
            match content with
            | .ok text =>
                let lines := textsBy separator text
                if name = ['-'] then return (columns ++ [everyNth count used lines], used + 1)
                else return (columns ++ [lines], used)
            | .error .isDirectory => do
                complainAbout name .isDirectory
                noteFailure
                return (columns ++ [[]], used)
            | .error fault => do
                complainAbout name fault
                finishWith 1
                throw (.exited 1)
          let (columns, _) ← names.foldlM step ([], 0)
          let fuel := (columns.map List.length).foldl max 0 + 1
          (rowsOf delimiters fuel columns).forM fun row => emit (row ++ [separator])

/-! ## Tabs -/

/-- Where tabs lead to. -/
structure TabStops where
  stops : List Nat
  /-- How far stops behind the last one are from each other, and whether that is counted from
  the last one. -/
  step? : Option (Nat × Bool)

/-- The next stop behind a column; nothing if there is none. -/
def TabStops.next? (t : TabStops) (column : Nat) : Option Nat :=
  match t.stops.find? (column < ·) with
  | some stop => some stop
  | none =>
      match t.step? with
      | some (0, _) | none => none
      | some (step, fromLast) =>
          let base := if fromLast then t.stops.getLastD 0 else 0
          some (base + ((column - base) / step + 1) * step)

/-- The stops that an argument spells, or the complaint. -/
def tabStopsOf (isUnicode : Bool) (texts : List (List Char)) : Except (List Char) TabStops := do
  let parts := (texts.flatMap fun t =>
    splitAtChar ',' (t.map fun c => if c = ' ' || c = '\t' then ',' else c)).filter
      fun p => !p.isEmpty
  let (stops, step?) ← parts.foldlM (fun (state : List Nat × Option (Nat × Bool)) part => do
    let (stops, step?) := state
    let (sign?, digits) := match part with
      | '/' :: rest => (some '/', rest)
      | '+' :: rest => (some '+', rest)
      | part => (none, part)
    match digitsValue? 10 digits with
    | none =>
        throw ("tab size contains invalid character(s): ".toList ++
          quotedIn isUnicode (digits.dropWhile Char.isDigit))
    | some n =>
        match step? with
        | some (_, isPlus) =>
            throw (if isPlus then "'+' specifier only allowed with the last value"
              else "'/' specifier only allowed with the last value").toList
        | none =>
            match sign? with
            | some c => pure (stops, some (n, c == '+'))
            | none =>
                if n = 0 then throw "tab size cannot be 0".toList
                else if stops.getLast?.any (n ≤ ·) then throw "tab sizes must be ascending".toList
                else pure (stops ++ [n], none)) ([], none)
  match stops, step? with
  | [], none => pure ⟨[], some (8, false)⟩
  | [n], none => pure ⟨[], some (n, false)⟩
  | stops, step? => pure ⟨stops, step?⟩

/-- Arguments in which a dash and a number is an option for stops. -/
def spelledStops (option : List Char) (arguments : List (List Char)) : List (List Char) :=
  arguments.flatMap fun a =>
    match a with
    | '-' :: c :: rest =>
        if c.isDigit && rest.all (fun c => c.isDigit || c == ',') then [option, c :: rest] else [a]
    | a => [a]

/-- A line with blanks in the place of tabs; only those in front of the first other character
where `onlyFirst` holds. -/
def expandLine (t : TabStops) (onlyFirst : Bool) : List Char → Nat → Bool → List Char
  | [], _, _ => []
  | c :: rest, column, isStart =>
      let isChanged := isStart || !onlyFirst
      if c = '\t' && isChanged then
        let next := (t.next? column).getD (column + 1)
        List.replicate (next - column) ' ' ++ expandLine t onlyFirst rest next isStart
      else
        let column := if c = '\x08' then column - 1 else column + 1
        c :: expandLine t onlyFirst rest column (isStart && (c == ' ' || c == '\t'))

/-- Writes files with blanks in the place of tabs. -/
def runExpand : Tool := fun arguments =>
  let forms : OptionForms :=
    ⟨"it:", [("tabs", .argument, "t"), ("initial", .nothing, "i")], true, false⟩
  withOptions forms 1 (spelledStops ['-', 't'] arguments) fun given operands => do
    match tabStopsOf (← get).isUnicode ((given.filter (·.name == "t")).map Given.argument) with
    | .error complaint => failAs 1 complaint
    | .ok stops =>
        forInputs operands fun _ text =>
          (linesBy '\n' text).forM fun l =>
            emit (Line.octets '\n' ⟨expandLine stops (isGiven given "i") l.text 0 true, l.hasEnd⟩)

/-- A line with tabs in the place of blanks in front of a stop; `blanks` are those that were
not written yet, and `start` is the column in front of them. -/
def unexpandLine (t : TabStops) (all : Bool) : List Char → Nat → Nat → List Char → Bool → List Char
  | [], _, _, blanks, _ => blanks
  | c :: rest, column, start, blanks, isStart =>
      if (c = ' ' || c = '\t') && (all || isStart) then
        match t.next? column with
        | none => blanks ++ c :: rest
        | some stop =>
            if c = '\t' then
              let tabs := blanks.filter (· == '\t') ++ ['\t']
              tabs ++ unexpandLine t all rest stop stop [] isStart
            else
              let column := column + 1
              if column = stop then
                let isOneBlank := blanks.isEmpty && column - start = 1
                if isOneBlank && rest.head? ≠ some ' ' && rest.head? ≠ some '\t' then
                  unexpandLine t all rest column start [' '] isStart
                else '\t' :: unexpandLine t all rest column column [] isStart
              else unexpandLine t all rest column start (blanks ++ [' ']) isStart
      else
        let column := if c = '\x08' then column - 1 else column + 1
        blanks ++ c :: unexpandLine t all rest column column [] false

/-- Writes files with tabs in the place of blanks. -/
def runUnexpand : Tool := fun arguments =>
  let forms : OptionForms := ⟨"at:", [("tabs", .argument, "t"), ("all", .nothing, "a"),
    ("first-only", .nothing, "first-only")], true, false⟩
  withOptions forms 1 (spelledStops ['-', 't'] arguments) fun given operands => do
    match tabStopsOf (← get).isUnicode ((given.filter (·.name == "t")).map Given.argument) with
    | .error complaint => failAs 1 complaint
    | .ok stops =>
        let all := (isGiven given "a" || isGiven given "t") && !isGiven given "first-only"
        forInputs operands fun _ text =>
          (linesBy '\n' text).forM fun l =>
            emit (Line.octets '\n' ⟨unexpandLine stops all l.text 0 0 [] true, l.hasEnd⟩)

/-! ## Long lines -/

/-- The column behind a character of a line. -/
def columnBehind (ofOctets : Bool) (column : Nat) (c : Char) : Nat :=
  if ofOctets then column + 1
  else if c = '\x08' then column - 1
  else if c = '\r' then 0
  else if c = '\t' then column / 8 * 8 + 8
  else column + 1

/-- The parts of a line that are at most so wide; `part` is the part under way, its last
character first. -/
def foldLine (ofOctets atBlanks : Bool) (width : Nat) : Nat → List Char → Nat → List Char →
    List (List Char)
  | 0, cs, _, part => [part.reverse ++ cs]
  | fuel + 1, cs, column, part =>
      match cs with
      | [] => if part.isEmpty then [] else [part.reverse]
      | c :: rest =>
          let next := columnBehind ofOctets column c
          if next ≤ width then foldLine ofOctets atBlanks width fuel rest next (c :: part)
          else
            let isBlank (c : Char) : Bool := c == ' ' || c == '\t'
            if atBlanks && part.any isBlank then
              let behind := (part.takeWhile fun c => !isBlank c).reverse
              let front := (part.drop behind.length).reverse
              let column := behind.foldl (columnBehind ofOctets) 0
              front :: foldLine ofOctets atBlanks width fuel (c :: rest) column behind.reverse
            else if part.isEmpty then foldLine ofOctets atBlanks width fuel rest next [c]
            else part.reverse :: foldLine ofOctets atBlanks width fuel (c :: rest) 0 []

/-- Arguments in which a dash and a number is an option for the width. -/
def spelledWidth (arguments : List (List Char)) : List (List Char) :=
  arguments.flatMap fun a =>
    match a with
    | '-' :: c :: rest =>
        if c.isDigit && rest.all Char.isDigit then [['-', 'w'], c :: rest] else [a]
    | a => [a]

/-- Writes the lines of files in parts that are not too wide. -/
def runFold : Tool := fun arguments =>
  let forms : OptionForms := ⟨"bsw:", [("bytes", .nothing, "b"), ("spaces", .nothing, "s"),
    ("width", .argument, "w")], true, false⟩
  withOptions forms 1 (spelledWidth arguments) fun given operands => do
    let text := (lastGiven? given "w").getD "80".toList
    let bad (behind : String) : Job Unit := do
      failAs 1 ("invalid number of columns: ".toList ++ (← quoted text) ++ behind.toList)
    match digitsValue? 10 text with
    | none => bad ""
    | some 0 => bad ": Numerical result out of range"
    | some width =>
        forInputs operands fun _ text =>
          (linesBy '\n' text).forM fun l =>
            let parts := foldLine (isGiven given "b") (isGiven given "s") width
              (2 * l.text.length + 2) l.text 0 []
            emit (List.intercalate ['\n'] parts ++ (if l.hasEnd then ['\n'] else []))

end DesiredState.Tools
