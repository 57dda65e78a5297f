import DesiredState.Unix.Pattern.Reading
import DesiredState.Unix.Tools.Inputs

/-!
# Programs on lines

These programs write the lines of their inputs again: all of them, in reverse, with
numbers, or only the first or the last ones.

## Main definitions

* `runCat`, `runTac`, `runRev`, `runNl`, `runHead`, `runTail`.
-/

namespace DesiredState.Tools

open Shell Pattern

/-! ## All lines -/

/-- How lines are shown. -/
structure Display where
  showsEnds : Bool
  showsTabs : Bool
  showsOthers : Bool

/-- An octet as it is shown. -/
def Display.octet (d : Display) (c : Char) : List Char :=
  let n := c.toNat
  let low (n : Nat) : List Char :=
    if n < 0x20 then ['^', Char.ofNat (n + 0x40)]
    else if n = 0x7f then ['^', '?']
    else [Char.ofNat n]
  if c = '\t' then (if d.showsTabs then ['^', 'I'] else [c])
  else if !d.showsOthers then [c]
  else if n < 0x80 then low n
  else 'M' :: '-' :: low (n - 0x80)

/-- A line as it is shown. -/
def Display.line (d : Display) (l : Line) : List Char :=
  let (body, ending) :=
    if d.showsEnds && l.hasEnd && !d.showsOthers && l.text.getLast? = some '\r' then
      (l.text.dropLast, "^M".toList)
    else (l.text, [])
  body.flatMap d.octet ++ ending ++
    (if l.hasEnd then (if d.showsEnds then ['$', '\n'] else ['\n']) else [])

/-- A number in front of a line. -/
def lineNumber (n : Nat) : List Char := rightAligned 6 (writeNat n) ++ ['\t']

/-- Lines as they are shown, with numbers in front of all, of those that are not empty, or
of none; the number behind that of the last one is the start. -/
def Display.lines (d : Display) (numbersAll numbersText squeezes : Bool) :
    List Line → Nat → Bool → List (List Char)
  | [], _, _ => []
  | l :: rest, n, isBehindEmpty =>
      let isEmpty := l.text.isEmpty && l.hasEnd
      if squeezes && isEmpty && isBehindEmpty then
        d.lines numbersAll numbersText squeezes rest n true
      else
        let isNumbered := if isEmpty then numbersAll else numbersAll || numbersText
        let number := if isNumbered then lineNumber n else []
        (number ++ d.line l) ::
          d.lines numbersAll numbersText squeezes rest (if isNumbered then n + 1 else n) isEmpty

/-- The options of `cat`. -/
def catForms : OptionForms where
  letters := "benstuvAET"
  words := [("number-nonblank", .nothing, "b"), ("number", .nothing, "n"),
    ("squeeze-blank", .nothing, "s"), ("show-nonprinting", .nothing, "v"),
    ("show-ends", .nothing, "E"), ("show-tabs", .nothing, "T"), ("show-all", .nothing, "A")]
  permutes := true

/-- The file of an operand, if the output goes to it, and whether that goes to its end. -/
def outputFile? (name : List Char) : Job (Option (Nat × Bool)) := do
  let s ← get
  let id? := if name = ['-'] then
      match s.channel? 0 with
      | some (_, .node id _ _) => some id
      | _ => none
    else (s.findNode name true).toOption
  match s.channel? 1, id? with
  | some (_, .node out _ appends), some id =>
      return if out = id && (s.files.content id).isFile then some (id, appends) else none
  | _, _ => return none

/-- Whether an operand is the file that the output goes to, such that copying it has no end. -/
def isOutput (name : List Char) : Job Bool := do
  match ← outputFile? name with
  | some (id, appends) =>
      return appends || !(((← get).files.readNode id).toOption.getD []).isEmpty
  | none => return false

/-- Writes files one after another. -/
def runCat : Tool := fun arguments =>
  withOptions catForms 1 arguments fun given operands => do
    let has (letters : String) : Bool :=
      letters.toList.any fun c => isGiven given (String.singleton c)
    let display : Display := ⟨has "AeE", has "AtT", has "Aetv"⟩
    let isPlain := !(has "benstvAET")
    let parts ← (orInput operands).mapM fun name => do
      if ← isOutput name then
        complainAs ((← shellQuotedIfNeeded name) ++ ": input file is output file".toList)
        noteFailure
        pure []
      else
        match ← readOperand name with
        | .ok text =>
            if isPlain then emit text
            pure text
        | .error fault => do
            complainAbout name fault
            noteFailure
            pure []
    if !isPlain then
      emit (display.lines (has "n" && !has "b") (has "b") (has "s") (linesBy '\n' parts.flatten) 1
        false).flatten

/-! ## Reverse -/

/-- The records of a text that end with a separator, or start with it. -/
def recordsOf (isBefore : Bool) (separator text : List Char) : List (List Char) :=
  let rec split : Nat → List Char → List Char → List (List Char)
    | 0, cs, current => [current.reverse ++ cs]
    | fuel + 1, cs, current =>
        match cs with
        | [] => [current.reverse]
        | c :: rest =>
            if separator.isPrefixOf cs then
              let behind := cs.drop separator.length
              if isBefore then
                current.reverse :: split fuel behind separator.reverse
              else (current.reverse ++ separator) :: split fuel behind []
            else split fuel rest (c :: current)
  (split (text.length + 1) text []).filter fun r => !r.isEmpty

/-- The records of a text that end where an expression takes something. -/
def recordsByRegex (isBefore : Bool) (r : Regex) (text : List Char) : List (List Char) :=
  let x := Subject.ofList text
  let rec split : Nat → Nat → Nat → List (List Char)
    | 0, start, _ => [text.drop start]
    | fuel + 1, start, place =>
        match r.find? x place with
        | some o =>
            if o.last = o.first then
              if o.first < text.length then split fuel start (o.first + 1) else [text.drop start]
            else
              let cut := if isBefore then o.first else o.last
              (text.drop start).take (cut - start) :: split fuel cut o.last
        | none => [text.drop start]
  (split (text.length + 2) 0 0).filter fun r => !r.isEmpty

/-- The options of `tac`. -/
def tacForms : OptionForms where
  letters := "brs:"
  words := [("before", .nothing, "b"), ("regex", .nothing, "r"), ("separator", .argument, "s")]
  permutes := true

/-- Writes the lines of files from the last one to the first one. -/
def runTac : Tool := fun arguments =>
  withOptions tacForms 1 arguments fun given operands => do
    let separator := (lastGiven? given "s").getD ['\n']
    let isRegex := isGiven given "r"
    let isBefore := isGiven given "b"
    if separator.isEmpty && isRegex then failAs 1 "separator cannot be empty".toList
    else
      let separator := if separator.isEmpty then ['\x00'] else separator
      (orInput operands).forM fun name => do
        let fails (text : String) (isQuoted : Bool) (words : String) : Job Unit := do
          let shown ← if isQuoted then shellQuoted name else shellQuotedIfNeeded name
          let rest := shown ++ words.toList
          complainAs (if isQuoted then text.toList ++ rest else rest)
          noteFailure
        match ← readOperand name with
        | .error .isDirectory => fails "" false ": read error: Invalid argument"
        | .error fault =>
            fails "failed to open " true (" for reading: " ++ fault.words)
        | .ok text =>
            if isRegex then
              match Regex.read ⟨false, false, false⟩ separator with
              | .ok (r, _) => emit (recordsByRegex isBefore r text).reverse.flatten
              | .error fault => failAs 1 fault.message.toList
            else emit (recordsOf isBefore separator text).reverse.flatten

/-- Writes each line of files from its last letter to its first one. -/
def runRev : Tool := fun arguments =>
  withOptions ⟨"0", [("zero", .nothing, "0")], true, false⟩ 1 arguments fun given operands => do
    let separator := if isGiven given "0" then '\x00' else '\n'
    let isUnicode := (← get).isUnicode
    (orInput operands).forM fun name => do
      match ← readOperand name with
      | .ok text => do
          (linesBy separator text).forM fun l =>
            let reversed := octetsOfLetters (lettersOf isUnicode l.text).reverse
            emit (Line.octets separator ⟨reversed, l.hasEnd⟩)
      | .error fault => do
          complainAs ("cannot open ".toList ++ name ++ ": ".toList ++ fault.words.toList)
          noteFailure

/-! ## Numbers -/

/-- Which lines get numbers. -/
inductive Numbering where
  | all
  | text
  | none
  | matching (r : Regex)

/-- How lines are numbered. -/
structure NumberStyle where
  header : Numbering
  body : Numbering
  footer : Numbering
  start : Int
  increment : Int
  width : Nat
  /-- Whether numbers are filled up with zeros, or stand at the left. -/
  hasZeros : Bool
  isLeft : Bool
  separator : List Char
  /-- How many empty lines count as one. -/
  joined : Nat
  delimiter : List Char
  restarts : Bool

/-- A number as it stands in front of a line. -/
def NumberStyle.number (style : NumberStyle) (n : Int) : List Char :=
  let digits := writeInt n
  let missing := style.width - digits.length
  if style.isLeft then digits ++ List.replicate missing ' '
  else if style.hasZeros then
    if n < 0 then '-' :: (List.replicate missing '0' ++ digits.drop 1)
    else List.replicate missing '0' ++ digits
  else List.replicate missing ' ' ++ digits

/-- The lines with their numbers, in a section that numbers in its way; `n` is the next
number, and so many empty lines came just before. -/
def NumberStyle.lines (style : NumberStyle) : List (List Char) → Numbering → Int → Nat →
    List (List Char)
  | [], _, _, _ => []
  | line :: rest, numbering, n, empties =>
      let d := style.delimiter
      let next (numbering : Numbering) : List (List Char) :=
        [] :: style.lines rest numbering (if style.restarts then style.start else n) 0
      if line = d ++ d ++ d then next style.header
      else if line = d ++ d then next style.body
      else if line = d then next style.footer
      else
        let isNumbered := match numbering with
          | .all => if line.isEmpty then empties + 1 == style.joined else true
          | .text => !line.isEmpty
          | .none => false
          | .matching r => Regex.occursIn r line
        let empties := if line.isEmpty && !isNumbered then empties + 1 else 0
        if isNumbered then
          (style.number n ++ style.separator ++ line) ::
            style.lines rest numbering (n + style.increment) empties
        else
          (List.replicate (style.width + style.separator.length) ' ' ++ line) ::
            style.lines rest numbering n empties

/-- The options of `nl`. -/
def nlForms : OptionForms where
  letters := "b:d:f:h:i:l:n:pv:s:w:"
  words := [("body-numbering", .argument, "b"), ("section-delimiter", .argument, "d"),
    ("footer-numbering", .argument, "f"), ("header-numbering", .argument, "h"),
    ("line-increment", .argument, "i"), ("join-blank-lines", .argument, "l"),
    ("number-format", .argument, "n"), ("no-renumber", .nothing, "p"),
    ("starting-line-number", .argument, "v"), ("number-separator", .argument, "s"),
    ("number-width", .argument, "w")]
  permutes := true

/-- The way of numbering that a text spells. -/
def numberingOf? : List Char → Option Numbering
  | ['a'] => some .all
  | ['t'] => some .text
  | ['n'] => some .none
  | 'p' :: pattern =>
      match Regex.read ⟨false, false, false⟩ pattern with
      | .ok (r, _) => some (.matching r)
      | .error _ => none
  | _ => none

/-- The style that options ask for, or the complaint about one, and whether it points to the
help. -/
def numberStyleOf (isUnicode : Bool) (given : List Given) :
    Except (List Char × Bool) NumberStyle := do
  let bad (what : String) (text : List Char) : List Char :=
    ("invalid " ++ what ++ ": ").toList ++ quotedIn isUnicode text
  let integer (text : List Char) : Option Int :=
    match leadingInteger? (some 10) text with
    | some n => if n.rest.isEmpty then some n.value else none
    | none => none
  given.foldlM (fun style g => do
    let text := g.argument
    let numbering (section_ : String) : Except (List Char × Bool) Numbering :=
      match numberingOf? text with
      | some n => pure n
      | none => throw (bad (section_ ++ " numbering style") text, true)
    match g.name with
    | "b" => pure { style with body := ← numbering "body" }
    | "h" => pure { style with header := ← numbering "header" }
    | "f" => pure { style with footer := ← numbering "footer" }
    | "d" => pure { style with delimiter := if text.length = 1 then text ++ [':'] else text }
    | "p" => pure { style with restarts := false }
    | "s" => pure { style with separator := text }
    | "i" =>
        match integer text with
        | some n => pure { style with increment := n }
        | none => throw (bad "line number increment" text, false)
    | "v" =>
        match integer text with
        | some n => pure { style with start := n }
        | none => throw (bad "starting line number" text, false)
    | "l" =>
        match integer text with
        | some (.ofNat (n + 1)) => pure { style with joined := n + 1 }
        | _ => throw (bad "line number of blank lines" text, false)
    | "w" =>
        match integer text with
        | some (.ofNat (n + 1)) => pure { style with width := n + 1 }
        | some _ =>
            throw (bad "line number field width" text ++ ": Numerical result out of range".toList,
              false)
        | none => throw (bad "line number field width" text, false)
    | "n" =>
        match String.ofList text with
        | "ln" => pure { style with isLeft := true, hasZeros := false }
        | "rn" => pure { style with isLeft := false, hasZeros := false }
        | "rz" => pure { style with isLeft := false, hasZeros := true }
        | _ => throw (bad "line numbering format" text, true)
    | _ => pure style)
    ⟨.none, .text, .none, 1, 1, 6, false, false, ['\t'], 1, ['\\', ':'], true⟩

/-- Writes the lines of files with numbers. -/
def runNl : Tool := fun arguments =>
  withOptions nlForms 1 arguments fun given operands => do
    match numberStyleOf (← get).isUnicode given with
    | .error (complaint, pointsToHelp) =>
        if pointsToHelp then misuse 1 complaint else failAs 1 complaint
    | .ok style =>
        let text ← readAllInputs operands
        emit (unlines (style.lines (textsBy '\n' text) style.body style.start 0))

/-! ## The first and the last lines -/

/-- A count of lines or octets. -/
structure Extent where
  isOfLines : Bool
  /-- Whether it counts from the other end. -/
  fromOther : Bool
  count : Nat

/-- The octets in front of so many lines. -/
def takeLines (separator : Char) : Nat → List Char → List Char → List Char
  | 0, _, done => done.reverse
  | _ + 1, [], done => done.reverse
  | n + 1, c :: rest, done =>
      takeLines separator (if c = separator then n else n + 1) rest (c :: done)

/-- The octets behind so many lines. -/
def dropLines (separator : Char) : Nat → List Char → List Char
  | 0, cs => cs
  | _ + 1, [] => []
  | n + 1, c :: rest => dropLines separator (if c = separator then n else n + 1) rest

/-- How many lines a text has. -/
def lineCount (separator : Char) (cs : List Char) : Nat :=
  cs.count separator +
    (if cs.isEmpty || cs.getLast? = some separator then 0 else 1)

/-- What an extent takes from the start of a text. -/
def Extent.head (e : Extent) (separator : Char) (cs : List Char) : List Char :=
  match e.isOfLines, e.fromOther with
  | true, false => takeLines separator e.count cs []
  | true, true => takeLines separator (lineCount separator cs - e.count) cs []
  | false, false => cs.take e.count
  | false, true => cs.take (cs.length - e.count)

/-- What an extent takes from the end of a text. -/
def Extent.tail (e : Extent) (separator : Char) (cs : List Char) : List Char :=
  match e.isOfLines, e.fromOther with
  | true, false => dropLines separator (lineCount separator cs - e.count) cs
  | true, true => dropLines separator (e.count - 1) cs
  | false, false => cs.drop (cs.length - e.count)
  | false, true => cs.drop (e.count - 1)

/-- The units of extents. -/
def extentUnits : String := "bkKmMGTPEZYRQ0"

/-- The extent that the argument of an option spells, behind a sign that counts from the
other end; or the complaint. -/
def extentOf (isUnicode isOfLines : Bool) (sign : Char) (text : List Char) :
    Except (List Char) Extent :=
  let (fromOther, digits) :=
    match text with
    | c :: rest =>
        if c = sign then (true, rest) else if c = '-' then (false, rest) else (false, text)
    | [] => (false, [])
  let what := if isOfLines then "lines" else "bytes"
  let shown := if text.head? = some '+' then digits else
    if sign = '-' then digits else text
  let bad (behind : String) : List Char :=
    ("invalid number of " ++ what ++ ": ").toList ++ quotedIn isUnicode shown ++ behind.toList
  match sizeOf? extentUnits digits with
  | .ok n => .ok ⟨isOfLines, fromOther, n⟩
  | .error .tooLarge => .error (bad ": Value too large for defined data type")
  | .error _ => .error (bad "")

/-- When the names of files are written in front of what is taken from them. -/
def showsNames (given : List Given) (operands : List (List Char)) : Bool :=
  match lastOf? given ["q", "v"] with
  | some g => g.name == "v"
  | none => 1 < operands.length

/-- The line with the name of a file. -/
def nameLine (isFirst : Bool) (name : List Char) : List Char :=
  (if isFirst then [] else ['\n']) ++ "==> ".toList ++
    (if name = ['-'] then "standard input".toList else name) ++ " <==\n".toList

/-- Writes what is taken from each file, with its name or without. -/
def emitParts (given : List Given) (operands : List (List Char))
    (take : List Char → Job (Except Fault (List Char))) : Job Unit := do
  let names := showsNames given operands
  discard <| (orInput operands).foldlM (fun isFirst name => do
    let shown := if name = ['-'] then "standard input".toList else name
    match ← take name with
    | .ok text => do
        if names then emit (nameLine isFirst name)
        emit text
        return false
    | .error .isDirectory => do
        if names then emit (nameLine isFirst name)
        complainAs ("error reading ".toList ++ (← shellQuoted shown) ++ ": Is a directory".toList)
        noteFailure
        return false
    | .error fault => do
        complainAs ("cannot open ".toList ++ (← shellQuoted name) ++
          " for reading: ".toList ++ fault.words.toList)
        noteFailure
        return isFirst) true

/-- The options of `head`. -/
def headForms : OptionForms where
  letters := "c:n:qvz"
  words := [("bytes", .argument, "c"), ("lines", .argument, "n"), ("quiet", .nothing, "q"),
    ("silent", .nothing, "q"), ("verbose", .nothing, "v"), ("zero-terminated", .nothing, "z")]
  permutes := true

/-- Arguments in which a first one of a dash and a number is spelled out as options; or the
letter in it that is none. -/
def spelledHead : List (List Char) → Except Char (List (List Char))
  | ('-' :: c :: more) :: rest =>
      if !c.isDigit then .ok (('-' :: c :: more) :: rest)
      else
        let digits := (c :: more).takeWhile Char.isDigit
        let letters := (c :: more).drop digits.length
        match letters.find? fun c => !"cbkmlqvz".toList.contains c with
        | some c => .error c
        | none =>
            let unit := letters.filter "bkm".toList.contains
            let isOctets := letters.any "cbkm".toList.contains
            let flags := (letters.filter "qvz".toList.contains).map fun c => ['-', c]
            let option := if isOctets then ['-', 'c'] else ['-', 'n']
            .ok (flags ++ [option, digits ++ unit.take 1] ++ rest)
  | arguments => .ok arguments

/-- Writes the first lines of files. -/
def runHead : Tool := fun arguments => do
  match spelledHead arguments with
  | .error c => misuse 1 ("invalid trailing option -- ".toList ++ [c])
  | .ok arguments =>
    withOptions headForms 1 arguments fun given operands => do
      let separator := if isGiven given "z" then '\x00' else '\n'
      let isUnicode := (← get).isUnicode
      let extent := given.foldlM (fun (e : Extent) (g : Given) =>
        if g.name = "n" || g.name = "c" then extentOf isUnicode (g.name == "n") '-' g.argument
        else .ok e) ⟨true, false, 10⟩
      match extent with
      | .error complaint => failAs 1 complaint
      | .ok extent =>
          let limit := if extent.isOfLines || extent.fromOther then endlessLength else extent.count
          emitParts given operands fun name => do
            if name = ['-'] then
              let canGoBack := (← get).canGoBack 0
              takeFrom 0 limit fun text =>
                let taken := extent.head separator text
                (taken, if canGoBack then text.drop taken.length else [])
            else
              match ← readUpTo limit name with
              | .ok text => return .ok (extent.head separator text)
              | .error fault => return .error fault

/-- The options of `tail`. -/
def tailForms : OptionForms where
  letters := "c:n:fFqs:vz"
  words := [("bytes", .argument, "c"), ("follow", .maybe, "f"), ("lines", .argument, "n"),
    ("max-unchanged-stats", .argument, "max-unchanged-stats"), ("pid", .argument, "pid"),
    ("quiet", .nothing, "q"), ("retry", .nothing, "retry"), ("silent", .nothing, "q"),
    ("sleep-interval", .argument, "s"), ("verbose", .nothing, "v"),
    ("zero-terminated", .nothing, "z")]
  permutes := true

/-- Arguments in which a first one of a sign and a number is spelled out as options. -/
def spelledTail : List (List Char) → List (List Char)
  | (sign :: more) :: rest =>
      let digits := more.takeWhile Char.isDigit
      let letters := more.drop digits.length
      let isSpelled := (sign = '-' || sign = '+') && (!digits.isEmpty || sign = '+') &&
        (letters.isEmpty || letters = ['c'] || letters = ['l'] || letters = ['b']) &&
        rest.length ≤ 1
      if isSpelled then
        let count := (if digits.isEmpty then "10".toList else digits) ++
          (if letters = ['b'] then ['b'] else [])
        let isOctets := letters = ['c'] || letters = ['b']
        [if isOctets then ['-', 'c'] else ['-', 'n'],
          if sign = '+' then '+' :: count else count] ++ rest
      else (sign :: more) :: rest
  | arguments => arguments

/-- Writes the last lines of files. -/
def runTail : Tool := fun arguments => do
  match arguments with
  | ('-' :: c :: more) :: _ :: _ :: _ => do
      if c.isDigit && (more.all Char.isDigit) then
        failAs 1 ("option used in invalid context -- ".toList ++ [c])
      else run arguments
  | _ => run arguments
where
  /-- Writes what the options ask for. -/
  run (arguments : List (List Char)) : Job Unit :=
    withOptions tailForms 1 (spelledTail arguments) fun given operands => do
      let separator := if isGiven given "z" then '\x00' else '\n'
      let isUnicode := (← get).isUnicode
      let extent := given.foldlM (fun (e : Extent) (g : Given) =>
        if g.name = "n" || g.name = "c" then extentOf isUnicode (g.name == "n") '+' g.argument
        else .ok e) ⟨true, false, 10⟩
      match extent with
      | .error complaint => failAs 1 complaint
      | .ok extent =>
          emitParts given operands fun name => do
            match ← readOperand name with
            | .ok text => return .ok (extent.tail separator text)
            | .error fault => return .error fault

end DesiredState.Tools
