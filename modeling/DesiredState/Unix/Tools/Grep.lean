import DesiredState.Unix.Pattern.Glob
import DesiredState.Unix.Tools.Lines

/-!
# Searching lines

The lines of files in which a pattern occurs are written, or what is asked for about them:
their number, the parts that were found, or only the names of the files.

## Main definitions

* `Search`, `Search.found` — what is searched for, and the places where it is.
* `runGrep` — searches files.
-/

namespace DesiredState.Tools

open Shell Pattern

/-! ## What is searched for -/

/-- The number of the group that is all of an occurrence that is shown. -/
def shownGroup : Nat := 1000

/-- The number of the group that has to follow an occurrence. -/
def followingGroup : Nat := 1001

/-- A pattern of Perl in the extended language, of which so many letters are read. -/
def extendedOfPerl : Nat → List Char → List Char
  | 0, cs => cs
  | fuel + 1, cs =>
      match cs with
      | '\\' :: c :: rest =>
          let spelled := match c with
            | 'd' => "[0-9]".toList
            | 'D' => "[^0-9]".toList
            | 'h' => "[ \t]".toList
            | 'H' => "[^ \t]".toList
            | 'N' => ['.']
            | 't' => ['\t']
            | 'A' => ['^']
            | 'z' | 'Z' => ['$']
            | c => ['\\', c]
          spelled ++ extendedOfPerl fuel rest
      | '(' :: '?' :: ':' :: rest => '(' :: extendedOfPerl fuel rest
      | '*' :: c :: rest | '+' :: c :: rest =>
          let rest := if c = '?' || c = '+' then rest else c :: rest
          cs.take 1 ++ extendedOfPerl fuel rest
      | c :: rest => c :: extendedOfPerl fuel rest
      | [] => []

/-- The text in front of a mark and the one behind it, if it comes. -/
def splitAtMark? (mark : List Char) : List Char → Option (List Char × List Char)
  | [] => none
  | c :: rest =>
      if mark.isPrefixOf (c :: rest) then some ([], (c :: rest).drop mark.length)
      else (splitAtMark? mark rest).map fun (before, behind) => (c :: before, behind)

/-- The expression of a pattern of Perl. -/
def readPerl (ignoresCase : Bool) (pattern : List Char) :
    Except RegexFault (Regex × List String) := do
  let ignoring := "(?i)".toList
  let ignoresCase := ignoresCase || ignoring.isPrefixOf pattern
  let pattern := if ignoring.isPrefixOf pattern then pattern.drop 4 else pattern
  let read (cs : List Char) : Except RegexFault Regex := do
    let (r, _) ← Regex.read ⟨true, false, ignoresCase⟩ (extendedOfPerl cs.length cs)
    pure r
  let (before?, pattern) :=
    if "(?<=".toList.isPrefixOf pattern then
      match splitAtMark? [')'] (pattern.drop 4) with
      | some (before, rest) => (some before, rest)
      | none => (none, pattern)
    else
      match splitAtMark? "\\K".toList pattern with
      | some (before, rest) => (some before, rest)
      | none => (none, pattern)
  let (pattern, behind?) :=
    match splitAtMark? "(?=".toList pattern with
    | some (shown, behind) =>
        if behind.getLast? = some ')' then (shown, some behind.dropLast) else (pattern, none)
    | none => (pattern, none)
  let shown ← read pattern
  let shown := if before?.isSome then .group shownGroup shown else shown
  let shown ← match before? with
    | some before => pure (.sequence (← read before) shown)
    | none => pure shown
  let whole ← match behind? with
    | some behind => pure (.sequence shown (.group followingGroup (← read behind)))
    | none => pure shown
  pure (whole, [])

/-- How patterns are spelled. -/
inductive Spelling where
  | basic
  | extended
  | fixed
  | perl
  deriving DecidableEq, Repr

/-- The expression of a pattern, with warnings about it. -/
def Spelling.read (spelling : Spelling) (ignoresCase : Bool) (pattern : List Char) :
    Except RegexFault (Regex × List String) :=
  match spelling with
  | .basic => Regex.read ⟨false, false, ignoresCase⟩ pattern
  | .extended => Regex.read ⟨true, false, ignoresCase⟩ pattern
  | .perl => readPerl ignoresCase pattern
  | .fixed =>
      let r := Regex.verbatim pattern
      .ok (if ignoresCase then r.foldCase else r, [])

/-- The words for a fault of a pattern. -/
def Spelling.faultWords (spelling : Spelling) (fault : RegexFault) : String :=
  match spelling, fault with
  | .perl, .openGroup => "missing closing parenthesis"
  | .perl, .closedGroup => "unmatched closing parenthesis"
  | .perl, .nothingRepeated => "quantifier does not follow a repeatable item"
  | .perl, .openBracket => "missing terminating ] for character class"
  | .perl, .lastBackslash => "\\ at end of pattern"
  | _, fault => fault.message

/-- What is done about files that hold no text. -/
inductive BinaryRule where
  | asText
  | asBinary
  | skipped
  deriving DecidableEq, Repr

/-- Which names of files are written in the place of lines. -/
inductive NameListing where
  | nothing
  | found
  | notFound
  deriving DecidableEq, Repr

/-- What is searched for, and what is written about it. -/
structure Search where
  /-- The patterns, if there are any. -/
  regex? : Option Regex
  isWholeLine : Bool
  isWholeWord : Bool
  isInverted : Bool
  onlyCounts : Bool
  isQuiet : Bool
  onlyParts : Bool
  showsNames : Bool
  showsNumbers : Bool
  showsOffsets : Bool
  alignsTabs : Bool
  /-- Nothing is said about files that can not be read. -/
  isSilent : Bool
  listing : NameListing
  most? : Option Nat
  before? : Option Nat
  after? : Option Nat
  groupMark? : Option (List Char)
  separator : Char
  /-- What follows the name of a file, if it is not the usual mark. -/
  nameEnd? : Option Char
  binary : BinaryRule
  /-- The name of the input. -/
  inputName : List Char

namespace Search

/-- The part of an occurrence that is shown. -/
def shownPart (o : Regex.Occurrence) : Nat × Nat :=
  let first := ((o.parts.find? (·.1 == shownGroup)).map (·.2.1)).getD o.first
  let last := ((o.parts.find? (·.1 == followingGroup)).map (·.2.1)).getD o.last
  (first, last)

/-- The longest occurrence at one of so many places, from a place on, that is a word. -/
def wordFrom (r : Regex) (x : Subject) : Nat → Nat → Option (Nat × Nat)
  | 0, _ => none
  | fuel + 1, i =>
      let ends := if r.hasAgain then ((r.at? x i).map (·.last)).toList else r.ends x [i]
      let isFree (j : Nat) : Bool := !x.isWordBefore i && !x.isWordAt j
      match ends.reverse.find? isFree with
      | some j => some (i, j)
      | none => wordFrom r x fuel (i + 1)

/-- The first place from another one on where what is searched for is. -/
def found (search : Search) (x : Subject) (i : Nat) : Option (Nat × Nat) := do
  let r ← search.regex?
  if search.isWholeLine then
    if r.takesAll x.text.toList then some (0, x.text.size) else none
  else if search.isWholeWord then wordFrom r x (x.text.size + 1 - i) i
  else (r.find? x i).map shownPart

/-- Whether what is searched for is in a line. -/
def isIn (search : Search) (letters : List Char) : Bool :=
  match search.regex? with
  | none => false
  | some r =>
      if search.isWholeLine then r.takesAll letters
      else (search.found (Subject.ofList letters) 0).isSome

/-- The places of all that is searched for in a line, from a place on. -/
def allFound (search : Search) (x : Subject) : Nat → Nat → List (Nat × Nat)
  | 0, _ => []
  | fuel + 1, i =>
      match search.found x i with
      | none => []
      | some (first, last) =>
          if last ≤ first then allFound search x fuel (first + 1)
          else (first, last) :: allFound search x fuel last

/-! ## What is written -/

/-- What stands in front of a line: names and numbers, each with a mark behind it. -/
def front (search : Search) (name : List Char) (mark : Char) (number offset : Nat) : List Char :=
  let nameText := if search.showsNames then name ++ [search.nameEnd?.getD mark] else []
  let numberText := if search.showsNumbers then writeNat number ++ [mark] else []
  let offsetText := if search.showsOffsets then writeNat offset ++ [mark] else []
  let all := nameText ++ numberText ++ offsetText
  if search.alignsTabs && !all.isEmpty then all ++ ['\t'] else all

end Search

/-- A line of a file that is searched. -/
structure SearchedLine where
  text : List Char
  letters : List Char
  number : Nat
  offset : Nat

/-- The lines of a file, with their numbers and places. -/
def searchedLines (isUnicode : Bool) (separator : Char) (text : List Char) : List SearchedLine :=
  let lines := textsBy separator text
  (lines.foldl (fun (done : List SearchedLine × Nat × Nat) line =>
    let (ls, number, offset) := done
    (⟨line, lettersOf isUnicode line, number, offset⟩ :: ls, number + 1,
      offset + line.length + 1)) ([], 1, 0)).1.reverse

namespace Search

/-- The text of a line that was found, or of the parts of it. -/
def lineText (search : Search) (name : List Char) (isFound : Bool) (l : SearchedLine) :
    List Char :=
  let mark := if isFound then ':' else '-'
  if search.onlyParts then
    if !isFound || search.isInverted then []
    else
      let x := Subject.ofList l.letters
      (search.allFound x (x.text.size + 1) 0).flatMap fun (first, last) =>
        let offset := l.offset + (octetsOfLetters (l.letters.take first)).length
        search.front name mark l.number offset ++ octetsOfLetters (x.slice first last) ++
          [search.separator]
  else search.front name mark l.number l.offset ++ l.text ++ [search.separator]

/-- The lines that are written, each with whether it was found; `last` is the number of the
last line that was written, `owed` how many lines behind a found one are still to be, and `left`
how many lines are still to be found. -/
def chosen (search : Search) : (left : Option Nat) → (recent : List SearchedLine) → (owed : Nat) →
    List SearchedLine → List (SearchedLine × Bool)
  | _, _, _, [] => []
  | left, recent, owed, l :: rest =>
      let isFound := left != some 0 && search.isIn l.letters != search.isInverted
      if isFound then
        let kept := (recent.take (search.before?.getD 0)).reverse.map (·, false)
        kept ++ (l, true) :: chosen search (left.map (· - 1)) [] (search.after?.getD 0) rest
      else if 0 < owed then (l, false) :: chosen search left [] (owed - 1) rest
      else if left = some 0 then []
      else chosen search left (l :: recent.take (search.before?.getD 0)) 0 rest

/-- Whether octets are shown that are no text. -/
def hasStray (l : SearchedLine) : Bool := l.letters.any isStray

/-- What is written of lines: the text, and whether something was not written because it is no
text. -/
def written (search : Search) (name : List Char) :
    (lastNumber? : Option Nat) → List (SearchedLine × Bool) → List Char × Bool
  | _, [] => ([], false)
  | lastNumber?, (l, isFound) :: rest =>
      let hasContext := search.before?.isSome || search.after?.isSome
      let isApart := match lastNumber? with
        | some n => hasContext && n + 1 < l.number
        | none => false
      let mark := if isApart then
          match search.groupMark? with
          | some mark => mark ++ ['\n']
          | none => []
        else []
      let isHidden := search.binary != .asText && hasStray l
      let (more, isOther) := written search name (some l.number) rest
      if isHidden then (mark ++ more, true)
      else (mark ++ search.lineText name isFound l ++ more, isOther)

/-- How many lines are found. -/
def count (search : Search) (lines : List SearchedLine) : Nat :=
  let n := lines.countP fun l => search.isIn l.letters != search.isInverted
  match search.most? with
  | some most => min n most
  | none => n

/-- Searches a text, and answers whether something is found. -/
def run (search : Search) (name : List Char) (text : List Char) : Job Bool := do
  let hasZero := search.separator = '\n' && text.contains '\x00'
  let isBinary := hasZero && search.binary != .asText
  if isBinary && search.binary = .skipped then return false
  let lines := searchedLines (← get).isUnicode search.separator text
  if search.isQuiet || search.listing ≠ .nothing then
    let isFound := search.most? != some 0 &&
      lines.any fun l => search.isIn l.letters != search.isInverted
    if !search.isQuiet && isFound == (search.listing == .found) then
      emit (name ++ [search.nameEnd?.getD '\n'])
    return isFound
  else if search.onlyCounts then
    let n := search.count lines
    emit ((if search.showsNames then name ++ [search.nameEnd?.getD ':'] else []) ++ writeNat n ++
      ['\n'])
    return n ≠ 0
  else if search.most? = some 0 then return false
  else if isBinary then
    let isFound := lines.any fun l => search.isIn l.letters != search.isInverted
    if isFound then complainAs (name ++ ": binary file matches".toList)
    return isFound
  else
    let picked := search.chosen search.most? [] 0 lines
    let (text, hides) := search.written name none picked
    emit text
    if hides && search.binary ≠ .skipped then complainAs (name ++ ": binary file matches".toList)
    return picked.any (·.2)

/-- What a search of the first lines that are enough leaves of a text. -/
def leaves (search : Search) (isUnicode : Bool) (text : List Char) : List Char :=
  match search.most? with
  | none => []
  | some most =>
      let lines := searchedLines isUnicode search.separator text
      let rec behind : Nat → List SearchedLine → List Char
        | 0, l :: _ => text.drop l.offset
        | _, [] => []
        | n + 1, l :: rest =>
            if search.isIn l.letters != search.isInverted then behind n rest
            else behind (n + 1) rest
      if search.isQuiet || search.listing ≠ .nothing then [] else behind most lines

end Search

/-! ## Files -/

/-- The options of `grep`. -/
def grepForms : OptionForms where
  letters := "0123456789A:B:C:D:EFGHILPTUVX:abcd:e:f:hiLlm:noqRrsuvwxyZz"
  words := [("basic-regexp", .nothing, "G"), ("extended-regexp", .nothing, "E"),
    ("fixed-regexp", .nothing, "F"), ("fixed-strings", .nothing, "F"),
    ("perl-regexp", .nothing, "P"), ("after-context", .argument, "A"),
    ("before-context", .argument, "B"), ("binary-files", .argument, "binary-files"),
    ("binary", .nothing, "U"), ("byte-offset", .nothing, "b"), ("context", .argument, "C"),
    ("color", .maybe, "color"), ("colour", .maybe, "color"), ("count", .nothing, "c"),
    ("devices", .argument, "D"), ("directories", .argument, "d"),
    ("exclude", .argument, "exclude"), ("exclude-from", .argument, "exclude-from"),
    ("exclude-dir", .argument, "exclude-dir"), ("file", .argument, "f"),
    ("files-with-matches", .nothing, "l"), ("files-without-match", .nothing, "L"),
    ("group-separator", .argument, "group-separator"), ("include", .argument, "include"),
    ("ignore-case", .nothing, "i"), ("no-ignore-case", .nothing, "no-ignore-case"),
    ("initial-tab", .nothing, "T"), ("label", .argument, "label"),
    ("line-buffered", .nothing, "line-buffered"), ("line-number", .nothing, "n"),
    ("line-regexp", .nothing, "x"), ("max-count", .argument, "m"), ("no-filename", .nothing, "h"),
    ("no-group-separator", .nothing, "no-group-separator"), ("no-messages", .nothing, "s"),
    ("null", .nothing, "Z"), ("null-data", .nothing, "z"), ("only-matching", .nothing, "o"),
    ("quiet", .nothing, "q"), ("recursive", .nothing, "r"),
    ("dereference-recursive", .nothing, "R"), ("regexp", .argument, "e"),
    ("invert-match", .nothing, "v"), ("silent", .nothing, "q"), ("text", .nothing, "a"),
    ("with-filename", .nothing, "H"), ("word-regexp", .nothing, "w")]
  permutes := true

/-- Says how `grep` is called, and ends it with a status. -/
def pointToGrep (status : Nat) : Job Unit := do
  let name := (← get).program
  complain ("Usage: ".toList ++ name ++ " [OPTION]... PATTERNS [FILE]...".toList)
  pointToHelp status

/-- What `grep` does about arguments. -/
def grepManners : Manners where
  refuse text := do
    complainAs text
    pointToGrep 2
  version := " (GNU grep) 3.11"

/-- Searches the content of an operand, and answers whether something is found. -/
def searchOperand (search : Search) (name shown : List Char) : Job Bool := do
  let refuse (fault : Fault) : Job Bool := do
    if !search.isSilent then complainAs (shown ++ ": ".toList ++ fault.words.toList)
    finishWith 2
    return false
  let isLoop := (← outputFile? name).isSome
  if isLoop && !search.isQuiet && search.listing = .nothing && search.most? != some 1 &&
      search.most? != some 0 && !search.onlyCounts then
    complainAs (shown ++ ": input file is also the output".toList)
    finishWith 2
    return false
  else if name = ['-'] then
    let isUnicode := (← get).isUnicode
    match ← takeFrom 0 endlessLength fun text => (text, search.leaves isUnicode text) with
    | .error fault => refuse fault
    | .ok text => search.run shown text
  else
    match ← readOperand name with
    | .error fault => refuse fault
    | .ok text => search.run shown text

/-- Which files and directories below others are searched. -/
structure FileChoice where
  included : List Regex
  excluded : List Regex
  excludedDirectories : List Regex
  followsLinks : Bool

/-- The files below a path that are searched. -/
def filesBelow (choice : FileChoice) (s : Session) : Nat → List Char → List (List Char)
  | 0, _ => []
  | fuel + 1, path =>
      match s.findNode path choice.followsLinks with
      | .error _ => [path]
      | .ok id =>
          match s.files.content id with
          | .directory _ _ =>
              let entries := (s.files.entries id).filter fun e => e.1 != "." && e.1 != ".."
              entries.flatMap fun (name, child) =>
                let octets := octetsOf name.toList
                let isFolder := s.files.isDirectory child
                let takes (rs : List Regex) : Bool := rs.any fun r => globTakes r octets
                let inner := (if path.getLast? = some '/' then path else path ++ ['/']) ++ octets
                if isFolder then
                  if takes choice.excludedDirectories then [] else filesBelow choice s fuel inner
                else if takes choice.excluded then []
                else if !choice.included.isEmpty && !takes choice.included then []
                else
                  match s.files.content child with
                  | .link _ => if choice.followsLinks then [inner] else []
                  | .device _ | .queue _ => []
                  | _ => [inner]
          | _ => [path]

/-- The patterns of files and options, each a line. -/
def patternsOf (given : List Given) : Job (Except (List Char × Fault) (List (List Char))) := do
  let step (done : Except (List Char × Fault) (List (List Char))) (g : Given) :
      Job (Except (List Char × Fault) (List (List Char))) := do
    match done, g.name with
    | .ok patterns, "e" => return .ok (patterns ++ splitAtChar '\n' g.argument)
    | .ok patterns, "f" =>
        match ← readOperand g.argument with
        | .ok text => return .ok (patterns ++ textsBy '\n' text)
        | .error fault => return .error (g.argument, fault)
    | done, _ => return done
  given.foldlM step (.ok [])

/-- A number of lines around one that is found. -/
def contextLength (text : List Char) : Job (Option Nat) := do
  match sizeOf? "" text with
  | .ok n => return some n
  | .error .tooLarge => return some (1 <<< 63)
  | .error _ => do
      failAs 2 (text ++ ": invalid context length argument".toList)
      return none

/-- The expression of patterns, of which one or another has to occur; a fault is complained
about. -/
def readPatterns (spelling : Spelling) (ignoresCase : Bool) (patterns : List (List Char)) :
    Job (Option (Option Regex)) := do
  let isUnicode := (← get).isUnicode
  let step (done : Option (List Regex)) (pattern : List Char) : Job (Option (List Regex)) := do
    match done with
    | none => return none
    | some regexes =>
        match spelling.read ignoresCase (lettersOf isUnicode pattern) with
        | .ok (r, warnings) => do
            warnings.forM fun w => complainAs ("warning: ".toList ++ w.toList)
            return some (r :: regexes)
        | .error fault => do
            failAs 2 (spelling.faultWords fault).toList
            return none
  match ← patterns.foldlM step (some []) with
  | none => return none
  | some regexes =>
      match regexes.reverse with
      | [] => return some none
      | r :: others => return some (some (others.foldl Regex.choice r))

/-- Searches with the options that are given. -/
def searchWith (spelling : Spelling) (given : List Given) (patterns operands : List (List Char)) :
    Job Unit := do
  let has (name : String) : Bool := isGiven given name
  let isCaseless := match lastOf? given ["i", "y", "no-ignore-case"] with
    | some g => g.name != "no-ignore-case"
    | none => false
  let digits := (given.filter fun g => g.name.toList.all Char.isDigit).flatMap fun g =>
    g.name.toList
  let shared := if digits.isEmpty then lastGiven? given "C" else some digits
  let length (text? : Option (List Char)) : Job (Option (Option Nat)) := do
    match text? with
    | none => return some none
    | some text => return (← contextLength text).map some
  let some before? ← length ((lastGiven? given "B").or shared) | return ()
  let some after? ← length ((lastGiven? given "A").or shared) | return ()
  let most ← match lastGiven? given "m" with
    | none => pure (some none)
    | some text =>
        match leadingInteger? (some 10) text, sizeOf? "kKmMGTPEZYRQ" text with
        | some ⟨true, _, []⟩, _ => pure (some none)
        | _, .ok n => pure (some (some n))
        | _, .error .tooLarge => pure (some none)
        | _, .error _ => do
            failAs 2 "invalid max count".toList
            pure none
  let some most? := most | return ()
  let rule? ← match lastOf? given ["a", "I", "U", "binary-files"] with
    | some ⟨"a", _⟩ => pure (some BinaryRule.asText)
    | some ⟨"I", _⟩ => pure (some .skipped)
    | some ⟨"binary-files", some text⟩ =>
        match String.ofList text with
        | "text" => pure (some .asText)
        | "binary" => pure (some .asBinary)
        | "without-match" => pure (some .skipped)
        | _ => do
            failAs 2 "unknown binary-files type".toList
            pure none
    | _ => pure (some .asBinary)
  let some rule := rule? | return ()
  let action? ← match lastOf? given ["d", "r", "R"] with
    | some ⟨"d", some text⟩ =>
        wordAmongOr (pointToGrep 1) "--directories" [["read"], ["recurse"], ["skip"]] text
    | some _ => pure (some "recurse")
    | none => pure (some "read")
  let some action := action? | return ()
  if has "u" then complainAs "warning: --unix-byte-offsets (-u) is obsolete".toList
  let some regex? ← readPatterns spelling isCaseless patterns | return ()
  let isDeep := action = "recurse"
  let named := if operands.isEmpty then (if isDeep then [['.']] else [['-']]) else operands
  let s ← get
  let showsNames := match lastOf? given ["H", "h"] with
    | some g => g.name == "H"
    | none => 1 < named.length || (isDeep && named.any s.isDirectory)
  let groupMark? := match lastOf? given ["group-separator", "no-group-separator"] with
    | some ⟨"group-separator", text?⟩ => text?
    | some _ => none
    | none => some ['-', '-']
  let search : Search := {
    regex? := regex?
    isWholeLine := has "x"
    isWholeWord := has "w"
    isInverted := has "v"
    onlyCounts := has "c"
    isQuiet := has "q"
    onlyParts := has "o"
    showsNames := showsNames
    showsNumbers := has "n"
    showsOffsets := has "b"
    alignsTabs := has "T"
    isSilent := has "s"
    listing := match lastOf? given ["l", "L"] with
      | some g => if g.name == "l" then .found else .notFound
      | none => .nothing
    most? := most?
    before? := before?
    after? := after?
    groupMark? := groupMark?
    separator := if has "z" then '\x00' else '\n'
    nameEnd? := if has "Z" then some '\x00' else none
    binary := rule
    inputName := (lastGiven? given "label").getD "(standard input)".toList }
  let globsOf (name : String) : List Regex :=
    (given.filter (·.name == name)).map fun g => ofGlob (MarkedText.bare g.argument)
  let choice : FileChoice :=
    ⟨globsOf "include", globsOf "exclude", globsOf "exclude-dir",
      (lastOf? given ["r", "R"]).any (·.name == "R")⟩
  let paths := named.flatMap fun name =>
    if name = ['-'] then [name]
    else if isDeep && s.isDirectory name then
      let inner := filesBelow choice s 64 name
      if operands.isEmpty then inner.map (·.drop 2) else inner
    else if action = "skip" && s.isDirectory name then []
    else
      let base := baseOfPath name
      let takes (rs : List Regex) : Bool := rs.any fun r => globTakes r base
      if takes choice.excluded || (!choice.included.isEmpty && !takes choice.included) then []
      else [name]
  let isFound ← paths.foldlM (fun (isFound : Bool) name => do
    if isFound && search.isQuiet then return true
    else
      let shown := if name = ['-'] then search.inputName else name
      return (← searchOperand search name shown) || isFound) false
  let status := (← get).status
  finishWith (if isFound && (search.isQuiet || status = 0) then 0
    else if status ≠ 0 then status else 1)

/-- Searches the lines of files for patterns. -/
def runGrep : Tool := fun arguments =>
  withOptionsBy grepManners grepForms arguments fun given operands => do
    let matchers := (given.filter fun g => ["E", "F", "G", "P"].contains g.name).map (·.name)
    if matchers.any (· != matchers.headD "") then
      failAs 2 "conflicting matchers specified".toList
    else if isGiven given "V" then emit ((← get).program ++ grepManners.version.toList ++ ['\n'])
    else
      let spelling : Spelling := match matchers.head? with
        | some "E" => .extended
        | some "F" => .fixed
        | some "P" => .perl
        | _ => .basic
      match ← patternsOf given with
      | .error (name, fault) => failAs 2 (name ++ ": ".toList ++ fault.words.toList)
      | .ok patterns =>
          if isGiven given "e" || isGiven given "f" then
            searchWith spelling given patterns operands
          else
            match operands with
            | [] => pointToGrep 2
            | pattern :: files => searchWith spelling given (splitAtChar '\n' pattern) files

/-- Searches as a program of another name does, with one more option. -/
def runGrepWith (option : String) : Tool := fun arguments => do
  modify fun s => { s with program := "grep".toList }
  runGrep (option.toList :: arguments)

end DesiredState.Tools
