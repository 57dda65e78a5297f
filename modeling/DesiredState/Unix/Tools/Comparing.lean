import DesiredState.Unix.Tools.Inputs

/-!
# Programs that compare lines

These programs look at lines that are the same: in a row, in two sorted files, or with the
same key; and one puts names in an order in which some come before others.

## Main definitions

* `runUniq`, `runComm`, `runJoin`, `runTsort`, `runShuf`.
-/

namespace DesiredState.Tools

open Shell

/-! ## Lines in a row -/

/-- The options of `uniq`. -/
def uniqForms : OptionForms where
  letters := "cdDf:is:uw:z0123456789"
  words := [("count", .nothing, "c"), ("repeated", .nothing, "d"), ("all-repeated", .maybe, "D"),
    ("group", .maybe, "group"), ("ignore-case", .nothing, "i"), ("unique", .nothing, "u"),
    ("skip-fields", .argument, "f"), ("skip-chars", .argument, "s"),
    ("check-chars", .argument, "w"), ("zero-terminated", .nothing, "z")]
  permutes := true

/-- The part of a line that is compared. -/
def comparedPart (fields letters : Nat) (width? : Option Nat) (ignoresCase : Bool)
    (line : List Char) : List Char :=
  let isBlank (c : Char) : Bool := c == ' ' || c == '\t'
  let rec skip : Nat → List Char → List Char
    | 0, cs => cs
    | n + 1, cs => skip n ((cs.dropWhile isBlank).dropWhile (!isBlank ·))
  let part := (skip fields line).drop letters
  let part := match width? with
    | some w => part.take w
    | none => part
  if ignoresCase then part.map Char.toLower else part

/-- Lines in groups of those in a row whose parts are equal. -/
def groupsBy (part : List Char → List Char) (lines : List (List Char)) :
    List (List (List Char)) :=
  (lines.splitBy fun a b => part a == part b)

/-- Writes the lines of a file without those that repeat the one before, or otherwise as
options ask for. -/
def runUniq : Tool := fun arguments =>
  withOptions uniqForms 1 arguments fun given operands => do
    let digits := given.flatMap fun g => g.name.toList.filter fun c =>
      g.name.length = 1 && c.isDigit
    let number (name what : String) : Job (Option Nat) := do
      match lastGiven? given name with
      | none => return some (if name = "f" then digitsValue digits else 0)
      | some text =>
          match digitsValue? 10 (if text.head? = some '+' then text.drop 1 else text) with
          | some n => return some n
          | none =>
              failAs 1 (text ++ ": ".toList ++ what.toList)
              return none
    let hasWidth := (lastGiven? given "w").isSome
    let methods := [["none"], ["prepend"], ["separate"]]
    let repeats? ← match given.find? (·.name == "D") with
      | some ⟨_, some text⟩ => wordAmong 1 "--all-repeated" methods text
      | _ => pure (some "none")
    let group? ← if repeats?.isNone then pure none else
      match given.find? (·.name == "group") with
      | some ⟨_, some text⟩ =>
          wordAmong 1 "--group" [["prepend"], ["append"], ["separate"], ["both"]] text
      | _ => pure (some "separate")
    if repeats?.isNone || group?.isNone then return ()
    let fields? ← number "f" "invalid number of fields to skip"
    let letters? ←
      if fields?.isNone then pure none else number "s" "invalid number of bytes to skip"
    let width? ←
      if letters?.isNone then pure none else number "w" "invalid number of bytes to compare"
    if width?.isNone then return ()
    let has (name : String) : Bool := isGiven given name
    match operands with
    | _ :: _ :: extra :: _ => misuseExtra 1 extra
    | operands =>
      if has "group" && (has "c" || has "d" || has "D" || has "u") then
        misuse 1 "--group is mutually exclusive with -c/-d/-D/-u".toList
      else if has "D" && has "c" then
        misuse 1 "printing all duplicated lines and repeat counts is meaningless".toList
      else
        let input := operands.headD ['-']
        match ← readOperand input with
        | .error .isDirectory =>
            failAs 1 ("error reading ".toList ++ (← shellQuoted input) ++ ": Is a directory".toList)
        | .error fault => do
            complainAbout input fault
            finishWith 1
        | .ok text =>
            let separator := if has "z" then '\x00' else '\n'
            let part := comparedPart (fields?.getD 0) (letters?.getD 0)
              (if hasWidth then width? else none) (has "i")
            let groups := groupsBy part (textsBy separator text)
            let ended (line : List Char) : List Char := line ++ [separator]
            let joined (before between behind : Bool) (groups : List (List (List Char))) :
                List Char :=
              let parts := groups.map fun g => g.flatMap ended
              let cut := [separator]
              if parts.isEmpty then []
              else (if before then cut else []) ++
                List.intercalate (if between then cut else []) parts ++
                (if behind then cut else [])
            let out :=
              if has "group" then
                match group?.getD "" with
                | "prepend" => joined true true false groups
                | "append" => joined false true true groups
                | "both" => joined true true true groups
                | _ => joined false true false groups
              else if has "D" then
                let chosen := if has "u" then groups.map fun g => g.dropLast
                  else groups.filter fun g => 1 < g.length
                let chosen := chosen.filter fun g => !g.isEmpty
                match repeats?.getD "" with
                | "prepend" => joined true true false chosen
                | "separate" => joined false true false chosen
                | _ => joined false false false chosen
              else
                let chosen := groups.filter fun g =>
                  (!has "u" || g.length = 1) && (!has "d" || 1 < g.length)
                chosen.flatMap fun g =>
                  (if has "c" then rightAligned 7 (writeNat g.length) ++ [' '] else []) ++
                    ended (g.headD [])
            match operands with
            | [_, output] =>
                if output = ['-'] then emit out
                else
                  let s ← get
                  match s.place output with
                  | .ok place =>
                      let (files, id) := match s.files.atPlace? place with
                        | some id => (s.files, id)
                        | none => s.files.add place.directory place.name
                            ⟨.octets [], 0o666 - (0o666 &&& s.umask), s.clock⟩
                      set { s with files := files.change id fun n =>
                        { n with content := .octets out, modified := s.clock } }
                  | .error fault => do
                      complainAbout output fault
                      finishWith 1
            | _ => emit out

/-! ## Two sorted files -/

/-- The options of `comm`. -/
def commForms : OptionForms where
  letters := "123z"
  words := [("check-order", .nothing, "check-order"), ("nocheck-order", .nothing, "nocheck-order"),
    ("output-delimiter", .argument, "output-delimiter"), ("total", .nothing, "total"),
    ("zero-terminated", .nothing, "z")]
  permutes := true

/-- In which columns lines of two files are. -/
structure Merged where
  /-- The column and the line, last line first. -/
  lines : List (Nat × List Char)
  /-- The files that are not sorted, last one first. -/
  unsorted : List Nat

/-- The lines of two files that are sorted, in columns: those of the first one, of the second
one, and of both. -/
def columnsOf (checks : Bool → Bool) : Nat → List (List Char) → List (List Char) → Bool →
    Merged → Merged
  | 0, _, _, _, m => m
  | fuel + 1, a, b, isUnpaired, m =>
      let advance (file : Nat) (isUnpaired : Bool) (m : Merged) (lines : List (List Char)) :
          Merged :=
        match lines with
        | x :: y :: _ =>
            if checks isUnpaired && decide (y < x) && !m.unsorted.contains file then
              { m with unsorted := file :: m.unsorted }
            else m
        | _ => m
      let write (column : Nat) (line : List Char) : Merged :=
        { m with lines := (column, line) :: m.lines }
      match a, b with
      | [], [] => m
      | x :: a', [] =>
          columnsOf checks fuel a' [] true (advance 1 true (write 1 x) (x :: a'))
      | [], y :: b' =>
          columnsOf checks fuel [] b' true (advance 2 true (write 2 y) (y :: b'))
      | x :: a', y :: b' =>
          if x < y then
            columnsOf checks fuel a' (y :: b') true (advance 1 true (write 1 x) (x :: a'))
          else if y < x then
            columnsOf checks fuel (x :: a') b' true (advance 2 true (write 2 y) (y :: b'))
          else
            let m := advance 1 isUnpaired (write 3 x) (x :: a')
            columnsOf checks fuel a' b' isUnpaired (advance 2 isUnpaired m (y :: b'))

/-- Writes the lines of two sorted files in columns. -/
def runComm : Tool := fun arguments =>
  withOptions commForms 1 arguments fun given operands => do
    match operands with
    | [] => misuseMissing 1
    | [only] => misuse 1 ("missing operand after ".toList ++ (← quoted only))
    | _ :: _ :: extra :: _ => misuseExtra 1 extra
    | [first, second] =>
        let a ← readOperand first
        let b ← readOperand second
        match a, b with
        | .error fault, _ => do
            complainAbout first fault
            finishWith 1
        | _, .error fault => do
            complainAbout second fault
            finishWith 1
        | .ok a, .ok b =>
            let separator := if isGiven given "z" then '\x00' else '\n'
            let delimiter := match lastGiven? given "output-delimiter" with
              | some [] => ['\x00']
              | some text => text
              | none => ['\t']
            let isStrict := isGiven given "check-order"
            let isLax := isGiven given "nocheck-order"
            let a := textsBy separator a
            let b := textsBy separator b
            let m := columnsOf (fun isUnpaired => !isLax && (isStrict || isUnpaired))
              (a.length + b.length + 1) a b false ⟨[], []⟩
            let shown (n : Nat) : Bool := !isGiven given (toString n)
            let front (n : Nat) : List Char :=
              (((List.range n).filter fun k => 0 < k && shown k).map fun _ => delimiter).flatten
            let isBroken := isStrict && !m.unsorted.isEmpty
            m.lines.reverse.forM fun (n, line) =>
              if shown n then emit (front n ++ line ++ [separator]) else return ()
            let count (n : Nat) : List Char := writeNat (m.lines.countP fun l => l.1 = n)
            if isGiven given "total" then
              emit (count 1 ++ delimiter ++ count 2 ++ delimiter ++ count 3 ++ delimiter ++
                "total".toList ++ [separator])
            m.unsorted.reverse.forM fun n =>
              complainAs ("file ".toList ++ writeNat n ++ " is not in sorted order".toList)
            if !m.unsorted.isEmpty then
              if isBroken then finishWith 1
              else failAs 1 "input is not in sorted order".toList

/-! ## Lines with equal keys -/

/-- A field of the lines of two files that is written. -/
inductive JoinField where
  | key
  | field (file number : Nat)

/-- How lines are joined. -/
structure Joining where
  separator? : Option Char
  /-- The numbers of the keys among the fields, from zero on. -/
  keys : Nat × Nat
  format? : Option (List JoinField)
  filler : List Char
  ignoresCase : Bool

/-- The fields of a line. -/
def Joining.fields (j : Joining) (line : List Char) : List (List Char) :=
  match j.separator? with
  | some t => splitAtChar t line
  | none =>
      (splitAtChar ' ' (line.map fun c => if c = '\t' then ' ' else c)).filter fun f => !f.isEmpty

/-- The key of the fields of a line of a file. -/
def Joining.key (j : Joining) (file : Nat) (fields : List (List Char)) : List Char :=
  let key := fields.getD (if file = 1 then j.keys.1 else j.keys.2) []
  if j.ignoresCase then key.map Char.toUpper else key

/-- The line of the fields of two lines, of which one may be missing. -/
def Joining.line (j : Joining) (a? b? : Option (List (List Char))) : List Char :=
  let filled (cs : List Char) : List Char := if cs.isEmpty then j.filler else cs
  let fieldOf (fields? : Option (List (List Char))) (n : Nat) : List Char :=
    filled ((fields?.getD []).getD n [])
  let key : List Char := match a?, b? with
    | some a, _ => fieldOf (some a) j.keys.1
    | none, b? => fieldOf b? j.keys.2
  let others (fields? : Option (List (List Char))) (n : Nat) : List (List Char) :=
    ((fields?.getD []).eraseIdx n).map filled
  let parts := match j.format? with
    | none => key :: others a? j.keys.1 ++ others b? j.keys.2
    | some format => format.map fun f =>
        match f with
        | .key => key
        | .field 1 n => fieldOf a? n
        | .field _ n => fieldOf b? n
  List.intercalate [j.separator?.getD ' '] parts

/-- What joining gives: lines, and the number and text of lines out of order in each file. -/
structure Joined where
  lines : List (List Char)
  unsorted : List (Nat × Nat × List Char)

/-- The joined lines of two files whose lines come with their numbers. -/
def Joining.join (j : Joining) (pairs first second : Bool) (checks : Bool → Bool) :
    Nat → List (Nat × List Char) → List (Nat × List Char) → Bool → Joined → Joined
  | 0, _, _, _, out => out
  | fuel + 1, a, b, isUnpaired, out =>
      let keyOf (file : Nat) (l : Nat × List Char) : List Char := j.key file (j.fields l.2)
      let check (file : Nat) (isUnpaired : Bool) (lines : List (Nat × List Char)) (out : Joined) :
          Joined :=
        match lines with
        | x :: y :: _ =>
            if checks isUnpaired && decide (keyOf file y < keyOf file x) &&
                !(out.unsorted.any fun u => u.1 = file) then
              { out with unsorted := (file, y.1, y.2) :: out.unsorted }
            else out
        | _ => out
      let write (isWritten : Bool) (line : List Char) (out : Joined) : Joined :=
        if isWritten then { out with lines := line :: out.lines } else out
      match a, b with
      | [], [] => out
      | x :: a', [] =>
          let out := write first (j.line (some (j.fields x.2)) none) out
          j.join pairs first second checks fuel a' [] isUnpaired (check 1 isUnpaired (x :: a') out)
      | [], y :: b' =>
          let out := write second (j.line none (some (j.fields y.2))) out
          j.join pairs first second checks fuel [] b' isUnpaired (check 2 isUnpaired (y :: b') out)
      | x :: a', y :: b' =>
          if keyOf 1 x < keyOf 2 y then
            j.join pairs first second checks fuel a' (y :: b') true
              (check 1 true (x :: a') (write first (j.line (some (j.fields x.2)) none) out))
          else if keyOf 2 y < keyOf 1 x then
            j.join pairs first second checks fuel (x :: a') b' true
              (check 2 true (y :: b') (write second (j.line none (some (j.fields y.2))) out))
          else
            let key := keyOf 1 x
            let same := (x :: a').takeWhile fun l => keyOf 1 l == key
            let others := (y :: b').takeWhile fun l => keyOf 2 l == key
            let lines := same.flatMap fun l => others.map fun m =>
              j.line (some (j.fields l.2)) (some (j.fields m.2))
            let out := if pairs then { out with lines := lines.reverse ++ out.lines } else out
            let out := check 1 isUnpaired ((x :: a').drop (same.length - 1)) out
            let out := check 2 isUnpaired ((y :: b').drop (others.length - 1)) out
            j.join pairs first second checks fuel ((x :: a').drop same.length)
              ((y :: b').drop others.length) isUnpaired out

/-- The options of `join`. -/
def joinForms : OptionForms where
  letters := "a:e:i1:2:j:o:t:v:z"
  words := [("ignore-case", .nothing, "i"), ("check-order", .nothing, "check-order"),
    ("nocheck-order", .nothing, "nocheck-order"), ("zero-terminated", .nothing, "z"),
    ("header", .nothing, "header")]
  permutes := true

/-- The fields that the arguments of options ask for, or the complaint. -/
def joinFormat? (isUnicode : Bool) (texts : List (List Char)) :
    Except (List Char) (List JoinField) := do
  let specs := (texts.flatMap fun t =>
    splitAtChar ',' (t.map fun c => if c = ' ' || c = '\t' then ',' else c)).filter
      fun t => !t.isEmpty
  specs.mapM fun spec =>
    match spec with
    | ['0'] => .ok .key
    | file :: '.' :: number =>
        if file = '1' || file = '2' then
          match digitsValue? 10 number with
          | some (n + 1) => .ok (.field (file.toNat - 48) n)
          | _ => .error ("invalid field number: ".toList ++ quotedIn isUnicode number)
        else .error ("invalid file number in field spec: ".toList ++ quotedIn isUnicode spec)
    | _ => .error ("invalid file number in field spec: ".toList ++ quotedIn isUnicode spec)

/-- Writes the lines of two sorted files with equal keys, joined. -/
def runJoin : Tool := fun arguments =>
  withOptions joinForms 1 arguments fun given operands => do
    let isUnicode := (← get).isUnicode
    let badNumber (text : List Char) : List Char :=
      "invalid field number: ".toList ++ quotedIn isUnicode text
    let fieldOf (names : List String) : Except (List Char) Nat :=
      match lastOf? given names with
      | none => .ok 0
      | some g =>
          match digitsValue? 10 g.argument with
          | some (n + 1) => .ok n
          | _ => .error (badNumber g.argument)
    let files : Except (List Char) (List Nat) :=
      (given.filter fun g => g.name == "a" || g.name == "v").mapM fun g =>
        match g.argument with
        | ['1'] => .ok 1
        | ['2'] => .ok 2
        | text => .error (badNumber text)
    let separator : Except (List Char) (Option Char) :=
      match lastGiven? given "t" with
      | none => .ok none
      | some [] => .ok (some '\n')
      | some ['\\', '0'] => .ok (some '\x00')
      | some [c] => .ok (some c)
      | some text => .error ("multi-character tab ".toList ++ quotedIn isUnicode text)
    let formats := (given.filter (·.name == "o")).map Given.argument
    let isAuto := formats.contains "auto".toList
    let settings : Except (List Char) (Joining × List Nat) := do
      let first ← fieldOf ["1", "j"]
      let second ← fieldOf ["2", "j"]
      let files ← files
      let format ← if isAuto then pure [] else joinFormat? isUnicode formats
      let filler := (lastGiven? given "e").getD []
      pure (⟨← separator, (first, second),
        if formats.isEmpty || isAuto then none else some format, filler, isGiven given "i"⟩, files)
    match settings with
    | .error complaint => failAs 1 complaint
    | .ok (j, files) =>
      match operands with
      | [] => misuseMissing 1
      | [only] => misuse 1 ("missing operand after ".toList ++ (← quoted only))
      | _ :: _ :: extra :: _ => misuseExtra 1 extra
      | [['-'], ['-']] =>
          failAs 1 "both files cannot be standard input: No such file or directory".toList
      | [first, second] =>
          let a ← readOperand first
          let b ← if a.isOk then readOperand second else pure (.ok [])
          match a, b with
          | .error fault, _ => do
              complainAbout first fault
              finishWith 1
          | _, .error fault => do
              complainAbout second fault
              finishWith 1
          | .ok a, .ok b =>
              let separator := if isGiven given "z" then '\x00' else '\n'
              let numbered (text : List Char) : List (Nat × List Char) :=
                (textsBy separator text).zipIdx.map fun (l, n) => (n + 1, l)
              let a := numbered a
              let b := numbered b
              let all (file count key : Nat) : List JoinField :=
                ((List.range count).filter (· != key)).map (.field file ·)
              let j := if isAuto then
                { j with format? := some (.key ::
                    all 1 ((a.head?.map fun l => (j.fields l.2).length).getD 0) j.keys.1 ++
                    all 2 ((b.head?.map fun l => (j.fields l.2).length).getD 0) j.keys.2) }
                else j
              let isStrict := isGiven given "check-order"
              let isLax := isGiven given "nocheck-order"
              let hasHeader := isGiven given "header"
              let header : List (List Char) := if hasHeader then
                [j.line (a.head?.map fun l => j.fields l.2) (b.head?.map fun l => j.fields l.2)]
                else []
              let a := if hasHeader then a.drop 1 else a
              let b := if hasHeader then b.drop 1 else b
              let out := j.join (!isGiven given "v") (files.contains 1) (files.contains 2)
                (fun isUnpaired => !isLax && (isStrict || isUnpaired))
                (a.length + b.length + 1) a b false ⟨[], []⟩
              (header ++ out.lines.reverse).forM fun line => emit (line ++ [separator])
              out.unsorted.reverse.forM fun (file, n, line) =>
                complainAs ((if file = 1 then first else second) ++ ':' :: writeNat n ++
                  ": is not sorted: ".toList ++ line)
              if !out.unsorted.isEmpty then
                if isStrict then finishWith 1
                else failAs 1 "input is not in sorted order".toList

/-! ## What comes before what -/

/-- The words of a text. -/
def wordsOf (cs : List Char) : List (List Char) :=
  (splitAtChar ' ' (cs.map fun c => if isNumberBlank c then ' ' else c)).filter fun w => !w.isEmpty

/-- A path of names each of which comes before the next, that leads from a name back to
it. -/
def cycleFrom (pairs : List (List Char × List Char)) (goal : List Char) :
    Nat → List Char → List (List Char) → Option (List (List Char))
  | 0, _, _ => none
  | fuel + 1, name, seen =>
      (pairs.filter (·.1 == name)).findSome? fun p =>
        if p.2 == goal then some (name :: seen).reverse
        else if (name :: seen).contains p.2 then none
        else cycleFrom pairs goal fuel p.2 (name :: seen)

/-- The names behind those of a queue, in the order in which nothing is left that comes before
them; and the pairs and names that are left at the end. -/
def followQueue : Nat → List (List Char) → List (List Char × List Char) → List (List Char) →
    List (List Char) × List (List Char × List Char)
  | 0, _, pairs, done => (done.reverse, pairs)
  | fuel + 1, queue, pairs, done =>
      match queue with
      | [] => (done.reverse, pairs)
      | name :: queue =>
          let followers := ((pairs.filter (·.1 == name)).map Prod.snd).reverse
          let left := pairs.filter (·.1 != name)
          let freed := followers.eraseDups.filter fun f => !(left.any fun p => p.2 == f)
          followQueue fuel (queue ++ freed) left (name :: done)

/-- Names in an order in which the first one of each pair comes before the second one; and
those loops that had to be cut. -/
def inOrderOf : Nat → List (List Char) → List (List Char × List Char) →
    List (List Char) × List (List (List Char))
  | 0, names, _ => (names, [])
  | fuel + 1, names, pairs =>
      if names.isEmpty then ([], [])
      else
        let free := names.filter fun n => !(pairs.any fun p => p.2 == n)
        if free.isEmpty then
          match names.findSome? fun n => cycleFrom pairs n (names.length + 1) n [] with
          | some loop =>
              let last := loop.getLastD []
              let cut := pairs.filter fun p => !(p.1 == last && p.2 == loop.headD [])
              let (rest, loops) := inOrderOf fuel names cut
              (rest, loop :: loops)
          | none => (names, [])
        else
          let (order, left) := followQueue (names.length + 1) free pairs []
          let (rest, loops) := inOrderOf fuel (names.filter fun n => !order.contains n) left
          (order ++ rest, loops)

/-- Writes names in an order in which some come before others. -/
def runTsort : Tool := fun arguments =>
  withOptions ⟨"", [], true, false⟩ 1 arguments fun _ operands => do
    match operands with
    | _ :: extra :: _ => misuseExtra 1 extra
    | operands =>
        let name := operands.headD ['-']
        match ← readOperand name with
        | .error fault => do
            complainAbout name fault
            finishWith 1
        | .ok text =>
            let words := wordsOf text
            if words.length % 2 = 1 then
              failAs 1 (name ++ ": input contains an odd number of tokens".toList)
            else
              let rec pairsOf : List (List Char) → List (List Char × List Char)
                | a :: b :: rest => (a, b) :: pairsOf rest
                | _ => []
              let names := (words.eraseDups).mergeSort fun a b => !(b < a)
              let pairs := ((pairsOf words).filter fun p => p.1 != p.2).eraseDups
              let (order, loops) := inOrderOf (2 * words.length + 2) names pairs
              loops.forM fun loop => do
                complainAs (name ++ ": input contains a loop:".toList)
                loop.forM complainAs
              emit (unlines order)
              if !loops.isEmpty then finishWith 1

/-! ## A random order -/

/-- Lines in an order that nobody can foresee. -/
def shuffled (seed : Nat) (lines : List (List Char)) : List (List Char) :=
  let keys := unforeseen seed (3 * lines.length)
  let rec weigh : List (List Char) → List Char → List (Nat × List Char)
    | line :: rest, a :: b :: c :: keys =>
        (a.toNat * 65536 + b.toNat * 256 + c.toNat, line) :: weigh rest keys
    | _, _ => []
  ((weigh lines keys).mergeSort fun a b => a.1 ≤ b.1).map Prod.snd

/-- The options of `shuf`. -/
def shufForms : OptionForms where
  letters := "ei:n:o:rz"
  words := [("echo", .nothing, "e"), ("input-range", .argument, "i"),
    ("head-count", .argument, "n"), ("output", .argument, "o"),
    ("random-source", .argument, "random-source"), ("repeat", .nothing, "r"),
    ("zero-terminated", .nothing, "z")]
  permutes := true

/-- Writes lines in an order that nobody can foresee. -/
def runShuf : Tool := fun arguments =>
  withOptions shufForms 1 arguments fun given operands => do
    let s ← get
    let isUnicode := s.isUnicode
    let separator := if isGiven given "z" then '\x00' else '\n'
    let range : Except (List Char) (Option (Nat × Nat)) :=
      match lastGiven? given "i" with
      | none => .ok none
      | some text =>
          let bad := "invalid input range: ".toList ++ quotedIn isUnicode text
          match (splitAtChar '-' text).map (digitsValue? 10) with
          | [some a, some b] => if a ≤ b + 1 then .ok (some (a, b)) else .error bad
          | _ => .error bad
    let count : Except (List Char) (Option Nat) :=
      match lastGiven? given "n" with
      | none => .ok none
      | some text =>
          match digitsValue? 10 text with
          | some n => .ok (some n)
          | none => .error ("invalid line count: ".toList ++ quotedIn isUnicode text)
    match range, count with
    | .error complaint, _ | _, .error complaint => failAs 1 complaint
    | .ok range?, .ok count? =>
        let lines? : Option (List (List Char)) ←
          match range?, isGiven given "e", operands with
          | some _, true, _ => do
              misuse 1 "cannot combine -e and -i options".toList
              pure none
          | some _, false, extra :: _ | none, false, _ :: extra :: _ => do
              misuseExtra 1 extra
              pure none
          | some (a, b), false, [] =>
              pure (some ((List.range (b + 1 - a)).map fun k => writeNat (a + k)))
          | none, true, operands => pure (some operands)
          | none, false, operands => do
              let name := operands.headD ['-']
              match ← readOperand name with
              | .ok text => pure (some (textsBy separator text))
              | .error fault => do
                  complainAbout name fault
                  finishWith 1
                  pure none
        lines?.forM fun lines =>
          let seed := s.clock + 31 * s.processes
          let out :=
            if isGiven given "r" then
              let n := count?.getD endlessLength
              if lines.isEmpty then []
              else ((unforeseen seed n).map fun c => lines.getD (c.toNat % lines.length) [])
            else (shuffled seed lines).take (count?.getD lines.length)
          emit (out.flatMap fun line => line ++ [separator])

end DesiredState.Tools
