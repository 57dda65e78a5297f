import DesiredState.Unix.Number.Rounded
import DesiredState.Unix.Text.Version
import DesiredState.Unix.Tools.Inputs

/-!
# Sorting

Lines are sorted by keys: parts of them, which are compared as texts, numbers, months or
versions.  Lines with equal keys are sorted as texts, unless that is not wanted.

## Main definitions

* `KeyStyle`, `SortKey` — how keys are compared, and which they are.
* `compareKeys` — the order of two keys.
* `runSort` — sorted lines.
-/

namespace DesiredState.Tools

open Shell

/-- How keys are compared. -/
structure KeyStyle where
  /-- The letters of the options of a key. -/
  letters : List Char
  skipsBlanks : Bool
  skipsBlanksAtEnd : Bool

/-- A key: where it starts and ends in a line, both counted from zero. -/
structure SortKey where
  /-- Nothing stands for the whole line. -/
  startField? : Option Nat
  startLetter : Nat
  /-- Nothing stands for the end of the line. -/
  endField? : Option Nat
  endLetter : Nat
  style : KeyStyle

/-- The order of two texts, as keys are compared. -/
abbrev KeyOrder := List Char → List Char → Ordering

/-- Whether an octet is a blank in a line. -/
def isLineBlank (c : Char) : Bool := c == ' ' || c == '\t' || c == '\n'

/-! ## Orders -/

/-- The decimal number at the start of a text: whether it is negative, and its digits in front
of the point and behind it, without zeros at the ends. -/
def leadingDecimal (cs : List Char) : Bool × List Char × List Char :=
  let cs := cs.dropWhile isLineBlank
  let (isNegative, cs) := match cs with
    | '-' :: rest => (true, rest)
    | cs => (false, cs)
  let whole := cs.takeWhile Char.isDigit
  let fraction := match cs.drop whole.length with
    | '.' :: rest => rest.takeWhile Char.isDigit
    | _ => []
  (isNegative, whole.dropWhile (· == '0'), (fraction.reverse.dropWhile (· == '0')).reverse)

/-- Compares the numbers at the start of texts. -/
def compareNumbers : KeyOrder := fun a b =>
  let (aNegative, aWhole, aFraction) := leadingDecimal a
  let (bNegative, bWhole, bFraction) := leadingDecimal b
  let isZero (whole fraction : List Char) : Bool := whole.isEmpty && fraction.isEmpty
  let aNegative := aNegative && !isZero aWhole aFraction
  let bNegative := bNegative && !isZero bWhole bFraction
  let sizes := (compare aWhole.length bWhole.length).then
    ((compare aWhole bWhole).then (compare aFraction bFraction))
  match aNegative, bNegative with
  | false, false => sizes
  | true, true => sizes.swap
  | true, false => .lt
  | false, true => .gt

/-- The rank of the unit behind the number at the start of a text; it has the sign of the
number. -/
def unitRank (cs : List Char) : Int :=
  let cs := cs.dropWhile isLineBlank
  let isNegative := cs.head? == some '-'
  let unsigned := if isNegative then cs.drop 1 else cs
  let whole := unsigned.takeWhile Char.isDigit
  let behind := unsigned.drop whole.length
  let (fraction, behind) := match behind with
    | '.' :: rest => (rest.takeWhile Char.isDigit, rest.dropWhile Char.isDigit)
    | rest => ([], rest)
  if (whole ++ fraction).all (· == '0') then 0
  else
    let rank : Int := match behind.head? with
      | some c =>
          match c with
          | 'k' | 'K' => 1
          | 'M' => 2
          | 'G' => 3
          | 'T' => 4
          | 'P' => 5
          | 'E' => 6
          | 'Z' => 7
          | 'Y' => 8
          | 'R' => 9
          | 'Q' => 10
          | _ => 0
      | none => 0
    if isNegative then -rank else rank

/-- Compares numbers with units. -/
def compareSizes : KeyOrder := fun a b =>
  (compare (unitRank a) (unitRank b)).then (compareNumbers a b)

/-- The names of months. -/
def monthNames : List String :=
  ["JAN", "FEB", "MAR", "APR", "MAY", "JUN", "JUL", "AUG", "SEP", "OCT", "NOV", "DEC"]

/-- The number of the month at the start of a text, zero if there is none. -/
def leadingMonth (cs : List Char) : Nat :=
  let name := String.ofList (((cs.dropWhile isLineBlank).take 3).map Char.toUpper)
  (monthNames.idxOf? name).elim 0 (· + 1)

/-- Compares the numbers at the start of texts, which may have exponents.  What is no number
comes first. -/
def compareReals : KeyOrder := fun a b =>
  let rank : Option Rounded.Leading → Nat
    | none => 0
    | some ⟨.nan _, _⟩ => 1
    | some _ => 2
  let x? := Rounded.leading? .extended a
  let y? := Rounded.leading? .extended b
  match compare (rank x?) (rank y?) with
  | .eq =>
      match x?, y? with
      | some x, some y => x.value.compare y.value
      | _, _ => .eq
  | order => order

/-- The text of a key without the letters that do not count, and in one case if that does
not. -/
def keyText (letters : List Char) (cs : List Char) : List Char :=
  let counts (c : Char) : Bool :=
    (!letters.contains 'd' || c == ' ' || c == '\t' || c.isAlphanum) &&
      (!letters.contains 'i' || (0x20 ≤ c.toNat && c.toNat < 0x7f))
  let cs := if letters.contains 'd' || letters.contains 'i' then cs.filter counts else cs
  if letters.contains 'f' then cs.map Char.toUpper else cs

/-- The order of keys of a style. -/
def compareKeys (letters : List Char) : KeyOrder := fun a b =>
  let order :=
    if letters.contains 'n' then compareNumbers a b
    else if letters.contains 'g' then compareReals a b
    else if letters.contains 'h' then compareSizes a b
    else if letters.contains 'M' then compare (leadingMonth a) (leadingMonth b)
    else if letters.contains 'V' then compareVersions a b
    else compare (keyText letters a) (keyText letters b)
  if letters.contains 'r' then order.swap else order

/-! ## Keys -/

/-- What follows so many fields of a line. -/
def dropFields (separator? : Option Char) : Nat → List Char → List Char
  | 0, cs => cs
  | n + 1, cs =>
      match separator? with
      | some t => dropFields separator? n ((cs.dropWhile (· != t)).drop 1)
      | none => dropFields separator? n ((cs.dropWhile isLineBlank).dropWhile (!isLineBlank ·))

/-- How far the fields of a line reach; the last separator does not count where `keepsLast`
does not hold. -/
def fieldsLength (separator? : Option Char) (keepsLast : Bool) : Nat → List Char → Nat
  | 0, _ => 0
  | n + 1, cs =>
      match separator? with
      | some t =>
          let field := (cs.takeWhile (· != t)).length
          let isCut := field < cs.length && (n ≠ 0 || keepsLast)
          let length := if isCut then field + 1 else field
          length + fieldsLength separator? keepsLast n (cs.drop length)
      | none =>
          let behind := (cs.dropWhile isLineBlank).dropWhile (!isLineBlank ·)
          (cs.length - behind.length) + fieldsLength separator? keepsLast n behind

/-- The text of a key in a line. -/
def SortKey.ofLine (key : SortKey) (separator? : Option Char) (line : List Char) : List Char :=
  match key.startField? with
  | none => line
  | some field =>
      let start := dropFields separator? field line
      let start := if key.style.skipsBlanks then start.dropWhile isLineBlank else start
      let start := start.drop key.startLetter
      match key.endField? with
      | none => start
      | some field =>
          let count := if key.endLetter = 0 then field + 1 else field
          let last := fieldsLength separator? (key.endLetter != 0) count line
          let last :=
            if key.endLetter = 0 then last
            else
              let rest := line.drop last
              let blanks := if key.style.skipsBlanksAtEnd then
                (rest.takeWhile isLineBlank).length else 0
              min line.length (last + blanks + key.endLetter)
          start.take (last - (line.length - start.length))

/-! ## Options -/

/-- The letters that say how keys are compared. -/
def orderLetters : List Char := "bdfgiMhnRrV".toList

/-- Why an argument is no key. -/
def aboutKey (isUnicode : Bool) (reason : String) (spec : List Char) : List Char :=
  reason.toList ++ ": invalid field specification ".toList ++ quotedIn isUnicode spec

/-- A count at the start of a part of a key, and what follows. -/
def keyCount (isUnicode : Bool) (reason : String) (cs : List Char) :
    Except (List Char) (Nat × List Char) :=
  let digits := cs.takeWhile Char.isDigit
  if digits.isEmpty then
    .error (reason.toList ++ ": invalid count at start of ".toList ++ quotedIn isUnicode cs)
  else .ok (digitsValue digits, cs.drop digits.length)

/-- The key that an argument spells. -/
def keyOf (isUnicode : Bool) (spec : List Char) : Except (List Char) SortKey := do
  let (field, rest) ← keyCount isUnicode "invalid number at field start" spec
  if field = 0 then throw (aboutKey isUnicode "field number is zero" spec)
  let (letter, rest) ← match rest with
    | '.' :: rest => do
        let (n, rest) ← keyCount isUnicode "invalid number after '.'" rest
        if n = 0 then throw (aboutKey isUnicode "character offset is zero" spec)
        pure (n - 1, rest)
    | rest => pure (0, rest)
  let first := rest.takeWhile orderLetters.contains
  let rest := rest.drop first.length
  let (endField?, endLetter, second, rest) ← match rest with
    | ',' :: rest => do
        let (n, rest) ← keyCount isUnicode "invalid number after ','" rest
        if n = 0 then throw (aboutKey isUnicode "field number is zero" spec)
        let (letter, rest) ← match rest with
          | '.' :: rest => keyCount isUnicode "invalid number after '.'" rest
          | rest => pure (0, rest)
        let second := rest.takeWhile orderLetters.contains
        pure (some (n - 1), letter, second, rest.drop second.length)
    | rest => pure (none, 0, [], rest)
  if !rest.isEmpty then throw (aboutKey isUnicode "stray character in field spec" spec)
  let style : KeyStyle :=
    ⟨(first ++ second).filter (· != 'b'), first.contains 'b', second.contains 'b'⟩
  pure ⟨if field = 1 && letter = 0 then some 0 else some (field - 1), letter, endField?, endLetter,
    style⟩

/-- The letters of a style that exclude each other, if there are some. -/
def clash? (letters : List Char) : Option (List Char) :=
  let count := (['n', 'g', 'h', 'M'].filter letters.contains).length +
    (if letters.contains 'V' || letters.contains 'R' || letters.contains 'd' ||
      letters.contains 'i' then 1 else 0)
  if 1 < count then
    some ("dfghiMnRV".toList.filter fun c =>
      letters.contains c && !(c == 'i' && letters.contains 'd'))
  else none

/-- How lines are sorted. -/
structure Sorting where
  keys : List SortKey
  /-- What holds for all lines. -/
  style : KeyStyle
  separator? : Option Char
  isStable : Bool
  isUnique : Bool

/-- A line with its keys. -/
structure Keyed where
  line : List Char
  keys : List (List Char)

/-- A line with its keys. -/
def Sorting.keyed (s : Sorting) (line : List Char) : Keyed :=
  ⟨line, s.keys.map fun key => key.ofLine s.separator? line⟩

/-- The order of the keys of two lines. -/
def Sorting.compareByKeys (s : Sorting) (a b : Keyed) : Ordering :=
  ((a.keys.zip b.keys).zip s.keys).foldl (fun order ((x, y), key) =>
    order.then (compareKeys key.style.letters x y)) .eq

/-- The order of two lines. -/
def Sorting.compare (s : Sorting) (a b : Keyed) : Ordering :=
  let order := s.compareByKeys a b
  if order = .eq && !s.isStable && !s.isUnique then
    let last := Ord.compare a.line b.line
    if s.style.letters.contains 'r' then last.swap else last
  else order

/-- Lines without those that are equal to the one before. -/
def dropEqual (isEqual : Keyed → Keyed → Bool) : List Keyed → List Keyed
  | a :: b :: rest =>
      if isEqual a b then dropEqual isEqual (a :: rest) else a :: dropEqual isEqual (b :: rest)
  | lines => lines
termination_by lines => lines.length

/-- Sorted lines. -/
def Sorting.sorted (s : Sorting) (lines : List (List Char)) : List (List Char) :=
  let keyed := (lines.map s.keyed).mergeSort fun a b => s.compare a b != .gt
  let kept := if s.isUnique then dropEqual (fun a b => s.compareByKeys a b == .eq) keyed else keyed
  kept.map Keyed.line

/-- The lines of two sorted sequences, merged. -/
def Sorting.merge (s : Sorting) : Nat → List Keyed → List Keyed → List Keyed → List Keyed
  | 0, a, b, done => done.reverse ++ a ++ b
  | fuel + 1, a, b, done =>
      match a, b with
      | [], b => done.reverse ++ b
      | a, [] => done.reverse ++ a
      | x :: a, y :: b =>
          if s.compare x y != .gt then s.merge fuel a (y :: b) (x :: done)
          else s.merge fuel (x :: a) b (y :: done)

/-- The options of `sort`. -/
def sortForms : OptionForms where
  letters := "bcCdfghik:mMno:rRsS:t:T:uVz"
  words := [("ignore-leading-blanks", .nothing, "b"), ("check", .maybe, "check"),
    ("compress-program", .argument, "compress-program"), ("debug", .nothing, "debug"),
    ("dictionary-order", .nothing, "d"), ("ignore-case", .nothing, "f"),
    ("files0-from", .argument, "files0-from"), ("general-numeric-sort", .nothing, "g"),
    ("ignore-nonprinting", .nothing, "i"), ("key", .argument, "k"), ("merge", .nothing, "m"),
    ("month-sort", .nothing, "M"), ("numeric-sort", .nothing, "n"),
    ("human-numeric-sort", .nothing, "h"), ("version-sort", .nothing, "V"),
    ("random-sort", .nothing, "R"), ("random-source", .argument, "random-source"),
    ("sort", .argument, "sort"), ("output", .argument, "o"), ("reverse", .nothing, "r"),
    ("stable", .nothing, "s"), ("batch-size", .argument, "batch-size"),
    ("buffer-size", .argument, "S"), ("field-separator", .argument, "t"),
    ("temporary-directory", .argument, "T"), ("unique", .nothing, "u"),
    ("zero-terminated", .nothing, "z"), ("parallel", .argument, "parallel")]
  permutes := true

/-- The words for ways of sorting, with their letters. -/
def sortWords : List (String × Char) :=
  [("general-numeric", 'g'), ("human-numeric", 'h'), ("month", 'M'), ("numeric", 'n'),
    ("random", 'R'), ("version", 'V')]

/-- The separator of fields that options give. -/
def separatorOf (isUnicode : Bool) (given : List Given) : Except (List Char) (Option Char) :=
  (given.filter (·.name == "t")).foldlM (fun old? g => do
    let c ← match g.argument with
      | [] => throw "empty tab".toList
      | [c] => pure c
      | ['\\', '0'] => pure '\x00'
      | text => throw ("multi-character tab ".toList ++ quotedIn isUnicode text)
    if old?.any (· != c) then throw "incompatible tabs".toList
    pure (some c)) none

/-- How options ask for lines to be sorted. -/
def sortingOf (isUnicode : Bool) (given : List Given) : Except (List Char) Sorting := do
  let keys ← (given.filter (·.name == "k")).mapM fun g => keyOf isUnicode g.argument
  let letters := given.flatMap fun g =>
    if g.name = "sort" then
      ((sortWords.find? fun w => g.argument.isPrefixOf w.1.toList).map Prod.snd).toList
    else g.name.toList.filter fun c => g.name.length = 1 && orderLetters.contains c
  let style : KeyStyle :=
    ⟨letters.filter (· != 'b'), letters.contains 'b', letters.contains 'b'⟩
  let separator? ← separatorOf isUnicode given
  let inherited (key : SortKey) : SortKey :=
    let own := key.style
    if own.letters.isEmpty && !own.skipsBlanks && !own.skipsBlanksAtEnd then
      { key with style := style }
    else key
  let keys := keys.map inherited
  let whole : SortKey := ⟨if style.skipsBlanks then some 0 else none, 0, none, 0, style⟩
  let all := if keys.isEmpty then [whole] else keys
  let checked := if keys.isEmpty then [style.letters] else keys.map (·.style.letters)
  (checked.filterMap clash?).head?.forM fun letters =>
    throw ("options '-".toList ++ letters ++ "' are incompatible".toList)
  pure ⟨all, style, separator?, isGiven given "s", isGiven given "u"⟩

/-- The first line that is not in order, with its number. -/
def Sorting.firstOutOfOrder? (s : Sorting) : List Keyed → Nat → Option (Nat × List Char)
  | a :: b :: rest, n =>
      let order := s.compare a b
      if order = .gt || (s.isUnique && order = .eq) then some (n + 1, b.line)
      else s.firstOutOfOrder? (b :: rest) (n + 1)
  | _, _ => none

/-- Complains about a file that can not be opened, or fails in another way. -/
def failToSort (what : String) (name : List Char) (fault : Fault) : Job Unit := do
  failAs 2 (what.toList ++ ": ".toList ++ (← shellQuotedIfNeeded name) ++ ": ".toList ++
    fault.words.toList)

/-- Writes sorted lines to the output or a file. -/
def emitSorted (output? : Option (List Char)) (text : List Char) : Job Unit := do
  match output? with
  | none => do
      emit text
      (← get).writeFault?.forM fun fault => do
        complainAs ("fflush failed: 'standard output': ".toList ++ fault.words.toList)
        complainAs "write error".toList
        modify fun s => { s with writeFault? := none, status := 2 }
  | some path => do
      let s ← get
      let made : Except Fault (Session × Nat) := do
        let id ← match s.findNode path true with
          | .ok id => if s.files.isDirectory id then throw .isDirectory else pure id
          | .error .notFound => pure s.files.nodes.size
          | .error fault => throw fault
        if id < s.files.nodes.size then pure (s, id)
        else
          let place ← s.place path
          let (files, id) := s.files.add place.directory place.name
            ⟨.octets [], 0o666 - (0o666 &&& s.umask), s.clock⟩
          pure ({ s with files := files }, id)
      match made with
      | .error fault => failToSort "open failed" path fault
      | .ok (s, id) =>
          match s.channelOf id false with
          | .ok (.node id _ _) =>
              set { s with files := s.files.change id fun n =>
                { n with content := .octets text, modified := s.clock } }
          | .ok channel => do
              set (s.openStream 9 channel)
              discard (writeTo 9 text)
              modify fun s => s.closeStream 9
          | .error fault => failToSort "open failed" path fault

/-- Writes the lines of files in order, or says whether they are. -/
def runSort : Tool := fun arguments =>
  withOptions sortForms 2 arguments fun given operands => do
    let isUnicode := (← get).isUnicode
    let check? ← match given.find? (·.name == "check") with
      | some ⟨_, some text⟩ =>
          wordAmong 2 "--check" [["quiet", "silent"], ["diagnose-first"]] text
      | _ => pure (some "diagnose-first")
    let word? ← match given.find? (·.name == "sort") with
      | some g => wordAmong 2 "--sort" (sortWords.map fun w => [w.1]) g.argument
      | none => pure (some "")
    let bad? : Option (List Char) := given.findSome? fun g =>
      match g.name with
      | "parallel" =>
          if g.argument.all (· == '0') then some "number in parallel must be nonzero".toList
          else none
      | "S" =>
          match sizeOf? "bKkMGTPEZYRQ%" g.argument with
          | .ok _ => none
          | .error _ =>
              if g.argument.getLast? = some '%' then none
              else some ("invalid -S argument '".toList ++ g.argument ++ ['\''])
      | _ => none
    match check?, word?, bad?, sortingOf isUnicode given with
    | none, _, _, _ | _, none, _, _ => return ()
    | _, _, some complaint, _ | _, _, _, .error complaint => failAs 2 complaint
    | some check, _, none, .ok sorting =>
      let isChecking := isGiven given "c" || isGiven given "check" || isGiven given "C"
      let isQuiet := isGiven given "C" || check = "quiet"
      let separator := if isGiven given "z" then '\x00' else '\n'
      if isGiven given "C" && (isGiven given "c" || (isGiven given "check" && check ≠ "quiet")) then
        failAs 2 "options '-cC' are incompatible".toList
      else if isChecking && isGiven given "o" then
        failAs 2 (if isQuiet then "options '-Co' are incompatible".toList
          else "options '-co' are incompatible".toList)
      else
        match isChecking, operands with
        | true, _ :: extra :: _ =>
            failAs 2 ("extra operand ".toList ++ (← shellQuoted extra) ++
              " not allowed with -c".toList)
        | _, _ =>
          let contents ← (orInput operands).mapM fun name => do
            pure (name, ← readOperand name)
          match contents.find? fun c => !c.2.isOk with
          | some (name, .error fault) =>
              if fault = .isDirectory then failToSort "read failed" name fault
              else failToSort (if isChecking then "open failed" else "cannot read") name fault
          | _ =>
              let parts := contents.map fun c => textsBy separator (c.2.toOption.getD [])
              let lines := parts.flatten
              let ended (line : List Char) : List Char := line ++ [separator]
              if isChecking then
                match sorting.firstOutOfOrder? (lines.map sorting.keyed) 1 with
                | none => finishWith 0
                | some (n, line) =>
                    let name := (operands.headD ['-'])
                    if isQuiet then finishWith 1
                    else failAs 1 (name ++ ':' :: writeNat n ++ ": disorder: ".toList ++ line)
              else if isGiven given "m" then
                let merged := (parts.map fun p => p.map sorting.keyed).foldl (fun all part =>
                  sorting.merge (all.length + part.length + 1) all part []) []
                let kept := if sorting.isUnique then
                  dropEqual (fun a b => sorting.compareByKeys a b == .eq) merged else merged
                emitSorted (lastGiven? given "o") (kept.flatMap fun k => ended k.line)
              else emitSorted (lastGiven? given "o") ((sorting.sorted lines).flatMap ended)

end DesiredState.Tools
