import DesiredState.Unix.Pattern.Glob
import DesiredState.Unix.Text.Version
import DesiredState.Unix.Tools.FileFacts

/-!
# Listing files

The names in directories are listed in an order and in a form: one in a line, in columns, or
with what else is known about the files.

## Main definitions

* `Listing`, `ListedFile` — how files are listed, and what is listed.
* `runLs`, `runStat`.
-/

namespace DesiredState.Tools

open Shell Pattern

/-! ## How files are listed -/

/-- How names are put into lines. -/
inductive ListLayout where
  | single
  | long
  | columns
  | across
  | commas
  deriving DecidableEq, Repr

/-- By what files are ordered. -/
inductive ListOrder where
  | name
  | size
  | time
  | ending
  | version
  | nothing
  | width
  deriving DecidableEq, Repr

/-- Which signs follow names. -/
inductive NameMarks where
  | nothing
  | directories
  | kinds
  /-- Those of kinds, and one for programs. -/
  | all
  deriving DecidableEq, Repr

/-- How names are quoted. -/
inductive NameQuoting where
  | literal
  | shell
  | shellAlways
  | quotes
  | escape
  | locale
  deriving DecidableEq, Repr

/-- How files are listed. -/
structure Listing where
  layout : ListLayout
  order : ListOrder
  isReversed : Bool
  showsAll : Bool
  showsHidden : Bool
  isDeep : Bool
  /-- Directories are listed like files. -/
  isFlat : Bool
  marks : NameMarks
  quoting : NameQuoting
  followsLinks : Bool
  followsOperands : Bool
  showsInodes : Bool
  showsRoom : Bool
  isHuman : Bool
  isNumeric : Bool
  hasOwner : Bool
  hasGroup : Bool
  fullTime : Bool
  directoriesFirst : Bool
  width : Nat
  ignored : List Regex

/-- A file that is listed. -/
structure ListedFile where
  name : List Char
  facts : FileFacts
  /-- What a link leads to, if it is one. -/
  target? : Option (List Char)
  /-- The facts about what a link leads to. -/
  behind? : Option FileFacts

namespace Listing

/-! ## Names -/

/-- A name in quotes. -/
def quotedName (l : Listing) (isUnicode : Bool) (name : List Char) : List Char :=
  let letters := lettersOf isUnicode name
  let escaped (isQuoted : Bool) (c : Char) : List Char :=
    if c = '\\' || (isQuoted && c = '"') then ['\\', c]
    else if !isQuoted && c = ' ' then ['\\', ' ']
    else if isVisible isUnicode c then octetsOfLetter c
    else escapedLetter c
  match l.quoting with
  | .literal => name
  | .shell => if needsQuotes isUnicode [] name then shellQuotedIn isUnicode name else name
  | .shellAlways => shellQuotedIn isUnicode name
  | .quotes => '"' :: letters.flatMap (escaped true) ++ ['"']
  | .escape => letters.flatMap (escaped false)
  | .locale => quotedIn isUnicode name

/-- The sign behind a name. -/
def markOf (l : Listing) (f : FileFacts) : List Char :=
  let isOn := l.marks = .kinds || l.marks = .all
  match f.content with
  | .directory _ _ => if l.marks = .nothing then [] else ['/']
  | .link _ => if isOn then ['@'] else []
  | .queue _ => if isOn then ['|'] else []
  | .octets _ | .program _ => if l.marks = .all && f.mode &&& 0o111 ≠ 0 then ['*'] else []
  | .device _ => []

/-- A size with a unit, rounded up. -/
def humanSize (n : Nat) : List Char :=
  if n < 1024 then writeNat n
  else
    let units := ['K', 'M', 'G', 'T', 'P', 'E']
    let step := units.zipIdx.find? fun (_, k) => n < Nat.pow 1024 (k + 2)
    match step with
    | none => writeNat n
    | some (unit, k) =>
        let base := Nat.pow 1024 (k + 1)
        let tenths := (n * 10 + base - 1) / base
        if tenths < 100 then
          writeNat (tenths / 10) ++ '.' :: writeNat (tenths % 10) ++ [unit]
        else
          let whole := (n + base - 1) / base
          if whole = 1024 then
            match units[k + 1]? with
            | some next => "1.0".toList ++ [next]
            | none => writeNat whole ++ [unit]
          else writeNat whole ++ [unit]

/-- What stands for the size of a file. -/
def sizeText (l : Listing) (f : FileFacts) : List Char :=
  match f.content with
  | .device _ =>
      let (major, minor) := f.deviceNumbers
      writeNat major ++ ", ".toList ++ rightAligned 3 (writeNat minor)
  | _ => if l.isHuman then humanSize f.size else writeNat f.size

/-- The room of a file. -/
def roomText (l : Listing) (room : Nat) : List Char :=
  if l.isHuman then (if room = 0 then ['0'] else humanSize (room * 1024)) else writeNat room

/-- When a file was changed, seen from now. -/
def timeText (l : Listing) (now : Nat) (f : FileFacts) : List Char :=
  let m := momentOf f.modified
  let halfYear := 31556952 / 2 * 1000000
  let isRecent := f.modified ≤ now && now < f.modified + halfYear
  if l.fullTime then m.format "%Y-%m-%d %H:%M:%S.%N %z"
  else m.format (if isRecent then "%b %e %H:%M" else "%b %e  %Y")

/-- What follows the name of a file that is shown with all that is known about it. -/
def targetText (l : Listing) (isUnicode : Bool) (f : ListedFile) : List Char :=
  match f.target? with
  | some target =>
      " -> ".toList ++ l.quotedName isUnicode target ++
        (match f.behind? with
        | some facts => l.markOf facts
        | none => [])
  | none => []

/-! ## Lines -/

/-- The lines of files with all that is known about them. -/
def longLines (l : Listing) (s : Session) (files : List ListedFile) : List (List Char) :=
  let widest (text : ListedFile → List Char) : Nat :=
    (files.map fun f => (text f).length).foldl max 0
  let counts := widest fun f => writeNat f.facts.names
  let sizes := widest fun f => l.sizeText f.facts
  let inodes := widest fun f => writeNat f.facts.inode
  let rooms := widest fun f => l.roomText f.facts.room
  let owner := if l.isNumeric then ['0'] else "root".toList
  files.map fun f =>
    (if l.showsInodes then rightAligned inodes (writeNat f.facts.inode) ++ [' '] else []) ++
      (if l.showsRoom then rightAligned rooms (l.roomText f.facts.room) ++ [' '] else []) ++
      f.facts.modeText ++ ' ' :: rightAligned counts (writeNat f.facts.names) ++
      (if l.hasOwner then ' ' :: owner else []) ++ (if l.hasGroup then ' ' :: owner else []) ++
      ' ' :: rightAligned sizes (l.sizeText f.facts) ++ ' ' :: l.timeText s.clock f.facts ++
      ' ' :: l.quotedName s.isUnicode f.name ++
      (if f.target?.isSome then l.targetText s.isUnicode f else l.markOf f.facts) ++ ['\n']

/-- The text of a file in a line with others. -/
def shortText (l : Listing) (s : Session) (inodes rooms : Nat) (f : ListedFile) : List Char :=
  (if l.showsInodes then rightAligned inodes (writeNat f.facts.inode) ++ [' '] else []) ++
    (if l.showsRoom then rightAligned rooms (l.roomText f.facts.room) ++ [' '] else []) ++
    l.quotedName s.isUnicode f.name ++ l.markOf f.facts

/-- Blanks from one column to another one, with tabs where these reach as far. -/
def indent : (fuel : Nat) → (start stop : Nat) → List Char
  | 0, _, _ => []
  | fuel + 1, start, stop =>
      if stop ≤ start then []
      else if (start + 1) / 8 < stop / 8 then '\t' :: indent fuel (start - start % 8 + 8) stop
      else ' ' :: indent fuel (start + 1) stop

/-- The widths of so many columns of texts. -/
def columnWidths (isDown : Bool) (count : Nat) (widths : List Nat) : List Nat :=
  let rows := (widths.length + count - 1) / count
  let place (n : Nat) : Nat := if isDown then n / rows else n % count
  (List.range count).map fun column =>
    (widths.zipIdx.map fun (width, n) =>
      if place n = column then width + (if column + 1 = count then 0 else 2) else 0).foldl max 3

/-- Texts in columns, which are filled downwards or across. -/
def columnLines (isDown : Bool) (lineWidth : Nat) (texts : List (List Char × Nat)) : List Char :=
  let widths := texts.map Prod.snd
  let most := max 1 (min widths.length (lineWidth / 3))
  let fits (count : Nat) : Bool := (columnWidths isDown count widths).foldl (· + ·) 0 < lineWidth
  let count := (((List.range most).map (· + 1)).reverse.find? fits).getD 1
  let columns := columnWidths isDown count widths
  let rows := (texts.length + count - 1) / count
  (List.range rows).flatMap fun row =>
    let own := (List.range count).filterMap fun column =>
      texts[if isDown then column * rows + row else row * count + column]?
    let (line, _, _) := (own.zip columns).foldl
      (fun (done : List Char × Nat × Nat) ((text, width), column) =>
        let (line, reached, start) := done
        (line ++ indent 500 reached start ++ text, start + width, start + column)) ([], 0, 0)
    line ++ ['\n']

/-- Texts with commas between them, in lines of a width. -/
def commaLines (lineWidth : Nat) : List (List Char × Nat) → (column : Nat) → List Char
  | [], column => if column = 0 then [] else ['\n']
  | (text, width) :: rest, column =>
      if column = 0 then text ++ commaLines lineWidth rest width
      else if lineWidth ≠ 0 && lineWidth ≤ column + 2 + width then
        ',' :: '\n' :: text ++ commaLines lineWidth rest width
      else ',' :: ' ' :: text ++ commaLines lineWidth rest (column + 2 + width)

/-- What is written about files. -/
def text (l : Listing) (s : Session) (files : List ListedFile) : List Char :=
  let widest (text : ListedFile → List Char) : Nat :=
    (files.map fun f => (text f).length).foldl max 0
  let inodes := if l.layout = .commas then 0 else widest fun f => writeNat f.facts.inode
  let rooms := if l.layout = .commas then 0 else widest fun f => l.roomText f.facts.room
  let short := files.map fun f =>
    let text := l.shortText s inodes rooms f
    (text, ((lettersOf s.isUnicode text).map letterWidth).foldl (· + ·) 0)
  match l.layout with
  | .long => (l.longLines s files).flatten
  | .single => short.flatMap fun (text, _) => text ++ ['\n']
  | .columns => if short.isEmpty then [] else columnLines true l.width short
  | .across => if short.isEmpty then [] else columnLines false l.width short
  | .commas => commaLines l.width short 0

/-! ## Order -/

/-- The end of a name behind its last point. -/
def endingOf (name : List Char) : List Char :=
  let behind := name.reverse.takeWhile (· != '.')
  if behind.length = name.length then [] else '.' :: behind.reverse

/-- Whether a file comes before another one or at the same place. -/
def comesBefore (l : Listing) (a b : ListedFile) : Bool :=
  let names := compareOfLessAndEq a.name b.name
  let order := match l.order with
    | .name | .nothing => names
    | .size => (compare b.facts.size a.facts.size).then names
    | .time => (compare b.facts.modified a.facts.modified).then names
    | .ending => (compareOfLessAndEq (endingOf a.name) (endingOf b.name)).then names
    | .version => compareVersions a.name b.name
    | .width => (compare a.name.length b.name.length).then names
  if l.isReversed then order != .lt else order != .gt

/-- Files in order. -/
def sorted (l : Listing) (files : List ListedFile) : List ListedFile :=
  let ordered := if l.order = .nothing then (if l.isReversed then files.reverse else files)
    else files.mergeSort l.comesBefore
  if l.directoriesFirst then
    let isFolder (f : ListedFile) : Bool :=
      f.facts.content.isDirectory || f.behind?.any fun b => b.content.isDirectory
    ordered.filter isFolder ++ ordered.filter fun f => !isFolder f
  else ordered

/-! ## Directories -/

/-- A file by its name and its path. -/
def listedFile (l : Listing) (s : Session) (follows : Bool) (name path : List Char) (id : Nat) :
    ListedFile :=
  match s.files.content id with
  | .link target =>
      let behind? := (s.findNode path true).toOption
      match behind? with
      | some behind =>
          if follows || l.followsLinks then ⟨name, factsOf s behind, none, none⟩
          else ⟨name, factsOf s id, some (octetsOf target.toList), some (factsOf s behind)⟩
      | none => ⟨name, factsOf s id, some (octetsOf target.toList), none⟩
  | _ => ⟨name, factsOf s id, none, none⟩

/-- The files in a directory that are listed. -/
def filesIn (l : Listing) (s : Session) (path : List Char) (id : Nat) : List ListedFile :=
  let outer := match s.files.content id with
    | .directory outer _ => outer
    | _ => id
  let dots := if l.showsAll then [(".", id), ("..", outer)] else []
  let files := (dots ++ s.files.entries id).map fun (name, child) =>
    let octets := octetsOf name.toList
    l.listedFile s false octets (path ++ '/' :: octets) child
  l.sorted (files.filter fun f =>
    (l.showsAll || l.showsHidden || f.name.head? != some '.') &&
      !(l.ignored.any fun r => globTakes r f.name))

/-- What is written about a directory, and about those inside of it if that is wanted;
`isFirst` says whether nothing was written before. -/
def directoryText (l : Listing) (s : Session) : (fuel : Nat) → (hasName isFirst : Bool) →
    List Char → Nat → List Char
  | 0, _, _, _, _ => []
  | fuel + 1, hasName, isFirst, path, id =>
      let files := l.filesIn s path id
      let head := (if isFirst then [] else ['\n']) ++
        (if hasName || l.isDeep then l.quotedName s.isUnicode path ++ [':', '\n'] else [])
      let total :=
        if l.layout = .long || l.showsRoom then
          let room := (files.map fun f => f.facts.room).foldl (· + ·) 0
          "total ".toList ++ l.roomText room ++ ['\n']
        else []
      let own := head ++ total ++ l.text s files
      if l.isDeep then
        own ++ files.flatMap fun f =>
          if f.facts.content.isDirectory && f.name ≠ ['.'] && f.name ≠ ['.', '.'] then
            let inner := if path.getLast? = some '/' then path ++ f.name else path ++ '/' :: f.name
            l.directoryText s fuel true false inner f.facts.id
          else []
      else own

end Listing

/-! ## Options -/

/-- The options of `ls`. -/
def lsForms : OptionForms where
  letters := "abcdfghiklmnopqrstuvw:xABCDFGHI:LNQRST:UXZ1"
  words := [("all", .nothing, "a"), ("escape", .nothing, "b"), ("directory", .nothing, "d"),
    ("human-readable", .nothing, "h"), ("inode", .nothing, "i"), ("kibibytes", .nothing, "k"),
    ("numeric-uid-gid", .nothing, "n"), ("no-group", .nothing, "G"),
    ("hide-control-chars", .nothing, "q"), ("reverse", .nothing, "r"), ("size", .nothing, "s"),
    ("width", .argument, "w"), ("almost-all", .nothing, "A"), ("ignore-backups", .nothing, "B"),
    ("classify", .maybe, "classify"), ("file-type", .nothing, "file-type"), ("si", .nothing, "h"),
    ("dereference-command-line", .nothing, "H"), ("ignore", .argument, "I"),
    ("indicator-style", .argument, "indicator-style"), ("dereference", .nothing, "L"),
    ("literal", .nothing, "N"), ("quote-name", .nothing, "Q"),
    ("quoting-style", .argument, "quoting-style"), ("recursive", .nothing, "R"),
    ("format", .argument, "format"), ("show-control-chars", .nothing, "show-control-chars"),
    ("sort", .argument, "sort"), ("tabsize", .argument, "T"), ("time", .argument, "time"),
    ("time-style", .argument, "time-style"), ("full-time", .nothing, "full-time"),
    ("color", .maybe, "color"), ("hide", .argument, "hide"), ("zero", .nothing, "zero"),
    ("group-directories-first", .nothing, "group-directories-first"),
    ("author", .nothing, "author"), ("block-size", .argument, "block-size")]
  permutes := true

/-- The layout that options ask for. -/
def layoutOf (given : List Given) : Job (Option ListLayout) := do
  match lastOf? given ["l", "g", "o", "n", "1", "C", "x", "m", "format", "full-time", "zero"] with
  | some ⟨"1", _⟩ =>
      let isLong := given.any fun g => ["l", "g", "o", "n", "full-time"].contains g.name
      return some (if isLong then .long else .single)
  | some ⟨"C", _⟩ => return some .columns
  | some ⟨"x", _⟩ => return some .across
  | some ⟨"m", _⟩ => return some .commas
  | some ⟨"zero", _⟩ => return some .single
  | some ⟨"format", text?⟩ =>
      match ← wordAmong 2 "--format" [["verbose", "long"], ["commas"], ["horizontal", "across"],
          ["vertical"], ["single-column"]] (text?.getD []) with
      | some "verbose" => return some .long
      | some "commas" => return some .commas
      | some "horizontal" => return some .across
      | some "vertical" => return some .columns
      | some _ => return some .single
      | none => return none
  | some _ => return some .long
  | none => return some .single

/-- The order that options ask for. -/
def orderOf (given : List Given) : Job (Option ListOrder) := do
  match lastOf? given ["t", "S", "X", "v", "U", "f", "sort"] with
  | some ⟨"t", _⟩ => return some .time
  | some ⟨"S", _⟩ => return some .size
  | some ⟨"X", _⟩ => return some .ending
  | some ⟨"v", _⟩ => return some .version
  | some ⟨"sort", text?⟩ =>
      match ← wordAmong 2 "--sort" [["none"], ["time"], ["size"], ["extension"], ["version"],
          ["width"], ["name"]] (text?.getD []) with
      | some "none" => return some .nothing
      | some "time" => return some .time
      | some "size" => return some .size
      | some "extension" => return some .ending
      | some "version" => return some .version
      | some "width" => return some .width
      | some _ => return some .name
      | none => return none
  | some _ => return some .nothing
  | none => return some .name

/-- The signs behind names that options ask for. -/
def marksOf (given : List Given) : Job (Option NameMarks) := do
  match lastOf? given ["F", "p", "classify", "file-type", "indicator-style"] with
  | some ⟨"F", _⟩ => return some .all
  | some ⟨"p", _⟩ => return some .directories
  | some ⟨"file-type", _⟩ => return some .kinds
  | some ⟨"classify", text?⟩ =>
      return some (if text?.any (fun t => t = "auto".toList || t = "never".toList) then .nothing
        else .all)
  | some ⟨_, text?⟩ =>
      match ← wordAmong 2 "--indicator-style" [["none"], ["slash"], ["file-type"], ["classify"]]
          (text?.getD []) with
      | some "none" => return some .nothing
      | some "slash" => return some .directories
      | some "file-type" => return some .kinds
      | some _ => return some .all
      | none => return none
  | none => return some .nothing

/-- The quotes that options ask for. -/
def quotingOf (given : List Given) : Job (Option NameQuoting) := do
  match lastOf? given ["N", "Q", "b", "quoting-style"] with
  | some ⟨"N", _⟩ | none => return some .literal
  | some ⟨"Q", _⟩ => return some .quotes
  | some ⟨"b", _⟩ => return some .escape
  | some ⟨_, text?⟩ =>
      match ← wordAmong 2 "--quoting-style" [["literal"], ["shell"], ["shell-always"],
          ["shell-escape"], ["shell-escape-always"], ["c"], ["c-maybe"], ["escape"], ["locale"],
          ["clocale"]] (text?.getD []) with
      | some "literal" => return some .literal
      | some "shell" | some "shell-escape" => return some .shell
      | some "shell-always" | some "shell-escape-always" => return some .shellAlways
      | some "c" | some "c-maybe" => return some .quotes
      | some "escape" => return some .escape
      | some _ => return some .locale
      | none => return none

/-- Lists operands: files first, and then what is in directories. -/
def listOperands (l : Listing) (operands : List (List Char)) : Job Unit := do
  let named := if operands.isEmpty then [['.']] else operands
  let s ← get
  let found ← named.filterMapM fun path => do
    let follows := l.followsLinks || l.followsOperands ||
      (!l.isFlat && l.layout != .long && l.marks != .all)
    match s.findNode path false with
    | .error fault => do
        complainAs ("cannot access ".toList ++ (← shellQuoted path) ++ ": ".toList ++
          fault.words.toList)
        finishWith 2
        return none
    | .ok id =>
        let leads := match s.findNode path true with
          | .ok behind => s.files.isDirectory behind || l.followsLinks || l.followsOperands
          | .error _ => false
        return some (l.listedFile s (follows && leads) path path id)
  let ordered := l.sorted found
  let isFolder (f : ListedFile) : Bool := f.facts.content.isDirectory && !l.isFlat
  let files := ordered.filter fun f => !isFolder f
  let folders := ordered.filter isFolder
  emit (l.text s files)
  let hasNames := 1 < named.length
  (folders.zipIdx).forM fun (f, n) =>
    emit (l.directoryText s 64 hasNames (files.isEmpty && n = 0) f.name f.facts.id)

/-- Lists files. -/
def runLs : Tool := fun arguments =>
  withOptions lsForms 2 arguments fun given operands => do
    let has (name : String) : Bool := isGiven given name
    let some layout ← layoutOf given | return ()
    let some order ← orderOf given | return ()
    let some marks ← marksOf given | return ()
    let some quoting ← quotingOf given | return ()
    let widthText := (lastGiven? given "w").getD "80".toList
    let width? ← match plainNumber? widthText with
      | some n => pure (some (if n = 0 then 65535 else n))
      | none => do
          failAs 2 ("invalid line width: ".toList ++ (← quoted widthText))
          pure none
    let some width := width? | return ()
    let showsAll := (lastOf? given ["a", "A", "f"]).any fun g => g.name != "A"
    let leftOut := if showsAll || has "A" then [] else
      (given.filter (·.name == "hide")).map Given.argument
    let ignored := leftOut ++ (given.filter (·.name == "I")).map Given.argument ++
      (if has "B" then ["*~".toList, ".*~".toList] else [])
    let isLong := layout = .long
    let order := if has "u" || has "c" then (if isLong || order ≠ .name then order else .time)
      else order
    listOperands {
      layout := layout
      order := order
      isReversed := has "r"
      showsAll := showsAll
      showsHidden := has "A"
      isDeep := has "R" && !has "d"
      isFlat := has "d"
      marks := marks
      quoting := quoting
      followsLinks := has "L"
      followsOperands := has "H"
      showsInodes := has "i"
      showsRoom := has "s"
      isHuman := has "h"
      isNumeric := has "n"
      hasOwner := !has "g"
      hasGroup := !(has "G" || has "o")
      fullTime := has "full-time"
      directoriesFirst := has "group-directories-first"
      width := width
      ignored := ignored.map fun p => ofGlob (MarkedText.bare p) } operands

/-- Lists files in columns, or with all that is known about them, in letters that can be seen. -/
def runLsAs (options : List String) : Tool := fun arguments =>
  runLs (options.map String.toList ++ arguments)

/-! ## Facts -/

/-- The text of a directive of a format about a file, or the text itself if there is no such
directive. -/
def factText (s : Session) (path : List Char) (f : FileFacts) (target? : Option (List Char))
    (kind : Char) : Option (List Char) :=
  let m := momentOf f.modified
  let time := m.format "%Y-%m-%d %H:%M:%S.%N %z"
  let (major, minor) := f.deviceNumbers
  let hex (n : Nat) : List Char := Nat.toDigits 16 n
  match kind with
  | 'a' => some (Nat.toDigits 8 f.mode)
  | 'A' => some f.modeText
  | 'b' => some (writeNat (2 * f.room))
  | 'B' => some "512".toList
  | 'C' => some "?".toList
  | 'd' => some "2049".toList
  | 'D' => some "801".toList
  | 'f' => some (hex (f.kindBits + f.mode))
  | 'F' => some f.kindName.toList
  | 'g' | 'u' => some ['0']
  | 'G' | 'U' => some "root".toList
  | 'h' => some (writeNat f.names)
  | 'i' => some (writeNat f.inode)
  | 'm' => some ['/']
  | 'n' => some path
  | 'N' =>
      some (shellQuotedIn s.isUnicode path ++
        (match target? with
        | some target => " -> ".toList ++ shellQuotedIn s.isUnicode target
        | none => []))
  | 'o' => some "4096".toList
  | 's' => some (writeNat f.size)
  | 't' => some (hex major)
  | 'T' => some (hex minor)
  | 'r' => some (writeNat (256 * major + minor))
  | 'R' => some (hex (256 * major + minor))
  | 'w' => some ['-']
  | 'W' => some ['0']
  | 'x' | 'y' | 'z' => some time
  | 'X' | 'Y' | 'Z' => some (writeInt m.seconds)
  | _ => none

/-- The text of a format about a file, of which so many letters are read. -/
def factsText (fact : Char → Option (List Char)) (hasEscapes : Bool) : (fuel : Nat) →
    List Char → List Char
  | 0, _ => []
  | fuel + 1, cs =>
      match cs with
      | [] => []
      | '%' :: '%' :: rest => '%' :: factsText fact hasEscapes fuel rest
      | '%' :: rest =>
          let flags := rest.takeWhile "#-+ 0'".toList.contains
          let behind := rest.drop flags.length
          let digits := behind.takeWhile Char.isDigit
          let behind := behind.drop digits.length
          let (precision, behind) := match behind with
            | '.' :: more =>
                let digits := more.takeWhile Char.isDigit
                (some (digitsValue digits), more.drop digits.length)
            | behind => (none, behind)
          let behind := match behind with
            | 'H' :: c :: more | 'L' :: c :: more =>
                if c = 'd' || c = 'r' then c :: more else behind
            | behind => behind
          match behind with
          | [] => ['%']
          | kind :: more =>
              let text := (fact kind).getD ['?']
              let text := match precision with
                | some n => if kind = 'n' || kind = 'F' || kind = 'A' then text.take n else text
                | none => text
              let text := if flags.contains '#' && kind = 'a' then '0' :: text else text
              let width := digitsValue digits
              let fill := if flags.contains '0' && !flags.contains '-' then '0' else ' '
              let blanks := List.replicate (width - text.length) fill
              (if flags.contains '-' then text ++ blanks else blanks ++ text) ++
                factsText fact hasEscapes fuel more
      | '\\' :: c :: rest =>
          if hasEscapes then
            match c with
            | 'n' => '\n' :: factsText fact hasEscapes fuel rest
            | 't' => '\t' :: factsText fact hasEscapes fuel rest
            | '\\' => '\\' :: factsText fact hasEscapes fuel rest
            | '"' => '"' :: factsText fact hasEscapes fuel rest
            | 'a' => '\x07' :: factsText fact hasEscapes fuel rest
            | 'r' => '\r' :: factsText fact hasEscapes fuel rest
            | 'v' => '\x0b' :: factsText fact hasEscapes fuel rest
            | 'e' => '\x1b' :: factsText fact hasEscapes fuel rest
            | c =>
                if '0' ≤ c && c ≤ '7' then
                  let digits := ((c :: rest).take 3).takeWhile fun c => '0' ≤ c && c ≤ '7'
                  Char.ofNat (((digitsValue? 8 digits).getD 0) % 256) ::
                    factsText fact hasEscapes fuel ((c :: rest).drop digits.length)
                else '\\' :: c :: factsText fact hasEscapes fuel rest
          else '\\' :: factsText fact hasEscapes fuel (c :: rest)
      | c :: rest => c :: factsText fact hasEscapes fuel rest

/-- The format of facts if none is given. -/
def usualFacts (f : FileFacts) : String :=
  "  File: %n\n  Size: %-10s\tBlocks: %-10b IO Block: %-6o %F\nDevice: 8,1\tInode: %-11i Links: " ++
    (match f.content with
    | .device _ => "%-5h Device type: %t,%T\n"
    | _ => "%h\n") ++
    "Access: (%04a/%A)  Uid: (%5u/%8U)   Gid: (%5g/%8G)\n" ++
    "Access: %x\nModify: %y\nChange: %z\n Birth: %w\n"

/-- The options of `stat`. -/
def statForms : OptionForms where
  letters := "c:fLt"
  words := [("dereference", .nothing, "L"), ("file-system", .nothing, "f"),
    ("format", .argument, "c"), ("printf", .argument, "printf"), ("terse", .nothing, "t"),
    ("cached", .argument, "cached")]
  permutes := true

/-- Writes facts about files. -/
def runStat : Tool := fun arguments =>
  withOptions statForms 1 arguments fun given operands => do
    if operands.isEmpty then misuseMissing 1
    else
      operands.forM fun path => do
        let s ← get
        let isInput := path = ['-']
        let found := if isInput then
            match s.channel? 0 with
            | some (_, .node id _ _) => .ok id
            | _ => .error .notFound
          else s.findNode path (isGiven given "L" || path.getLast? = some '/')
        match found with
        | .error fault => do
            complainAs ("cannot statx ".toList ++ (← shellQuoted path) ++ ": ".toList ++
              fault.words.toList)
            noteFailure
        | .ok id =>
            let facts := factsOf s id
            let target? := match facts.content with
              | .link target => some (octetsOf target.toList)
              | _ => none
            let fact := factText s path facts target?
            let write (hasEscapes : Bool) (format : List Char) : List Char :=
              factsText fact hasEscapes (format.length + 1) format
            if isGiven given "f" then
              emit ((lastGiven? given "c").getD "ext2/ext3".toList ++ ['\n'])
            else
              match lastOf? given ["c", "printf"] with
              | some ⟨"c", some format⟩ => emit (write false format ++ ['\n'])
              | some ⟨_, some format⟩ => emit (write true format)
              | _ =>
                  if isGiven given "t" then
                    emit (write false "%n %s %b %f %u %g %D %i %h %t %T %X %Y %Z %W %o".toList ++
                      ['\n'])
                  else
                    let format := (usualFacts facts).toList
                    let shown := match target? with
                      | some target => path ++ " -> ".toList ++ target
                      | none => path
                    let fact (c : Char) : Option (List Char) :=
                      if c = 'n' then some shown else fact c
                    emit (factsText fact false (format.length + 1) format)

end DesiredState.Tools
