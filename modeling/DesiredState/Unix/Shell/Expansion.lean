import DesiredState.Unix.Pattern.Glob
import DesiredState.Unix.Shell.Session

/-!
# Words behind expansion

The pieces of a word expand to atoms.  Where an expansion stands outside of
quotes, its characters may split the word; and a word outside of quotes may be a
pattern, in the place of which stand the paths that it takes.  A tilde at the start of a
word stands for a home directory.

## Main definitions

* `Atom` — the parts of an expanded word.
* `wordsOfAtoms` — the words that atoms make.
* `Session.pathsOf` — the paths that a pattern takes.
* `Session.withHomes` — a word with home directories in the place of tildes.
* `trimmed` — a value without the part that a pattern takes.
-/

namespace DesiredState.Shell

open Pattern

/-- A part of an expanded word. -/
inductive Atom where
  /-- A character; one in quotes is no sign of a pattern. -/
  | fixed (c : Char) (isQuoted : Bool)
  /-- A character of an expansion outside of quotes. -/
  | loose (c : Char)
  /-- Quotes, which make a word even where nothing stands. -/
  | quotes
  /-- The end of a word. -/
  | cut
  deriving DecidableEq, Repr

/-- The atoms of a value in or outside of quotes. -/
def atomsOfValue (isQuoted : Bool) (cs : List Char) : List Atom :=
  if isQuoted then .quotes :: cs.map (.fixed · true) else cs.map .loose

/-- The atoms of values with an end between each two. -/
def atomsOfValues (isQuoted : Bool) (values : List (List Char)) : List Atom :=
  List.intercalate [.cut] (values.map (atomsOfValue isQuoted))

/-- The characters of atoms, with whether each was in quotes. -/
def markedText (atoms : List Atom) : MarkedText :=
  atoms.filterMap fun a => match a with
    | .fixed c isQuoted => some (c, isQuoted)
    | .loose c => some (c, false)
    | .cut => some (' ', false)
    | .quotes => none

/-- The text that atoms make without being split. -/
def textOfAtoms (atoms : List Atom) : List Char := MarkedText.unmarked (markedText atoms)

/-- Words under way. -/
structure Splitting where
  /-- The words that are finished, last word first. -/
  finished : List MarkedText
  /-- The word under way, last character first. -/
  current? : Option MarkedText
  /-- Whether a word was just ended by a blank. -/
  isBehindBlank : Bool

namespace Splitting

/-- One more character of the word under way. -/
def push (s : Splitting) (c : Char × Bool) : Splitting :=
  { s with current? := some (c :: s.current?.getD []), isBehindBlank := false }

/-- Ends the word under way, if there is one. -/
def cut (s : Splitting) : Splitting :=
  match s.current? with
  | some word => ⟨word.reverse :: s.finished, none, true⟩
  | none => s

/-- Ends the word under way, which is empty if there is none.  A sign behind the
blanks that ended a word belongs to them. -/
def separate (s : Splitting) : Splitting :=
  match s.current? with
  | some word => ⟨word.reverse :: s.finished, none, false⟩
  | none =>
      if s.isBehindBlank then { s with isBehindBlank := false }
      else { s with finished := [] :: s.finished }

/-- One more atom. -/
def step (separators : List Char) (s : Splitting) : Atom → Splitting
  | .fixed c isQuoted => s.push (c, isQuoted)
  | .quotes => { s with current? := some (s.current?.getD []), isBehindBlank := false }
  | .cut => s.cut
  | .loose c =>
      if !separators.contains c then s.push (c, false)
      else if c == ' ' || c == '\t' || c == '\n' then s.cut
      else s.separate

end Splitting

/-- The words that atoms make, split at the separators. -/
def wordsOfAtoms (separators : List Char) (atoms : List Atom) : List MarkedText :=
  (atoms.foldl (Splitting.step separators) ⟨[], none, false⟩).cut.finished.reverse

/-! ## Paths -/

/-- Whether a text comes before another one, or is the same. -/
def isBeforeOrSame (a b : List Char) : Bool := !(b < a)

/-- The names in a directory, sorted. -/
def Session.namesIn (s : Session) (path : List Char) : List (List Char) :=
  match s.findNode (if path.isEmpty then ['.'] else path) true with
  | .ok id => ((s.files.entries id).map fun e => octetsOf e.1.toList).mergeSort isBeforeOrSame
  | .error _ => []

/-- The paths that patterns for one component after another take behind a path. -/
def Session.pathsBehind (s : Session) (path : List Char) :
    List MarkedText → List (List Char)
  | [] => [path]
  | part :: rest =>
      let next (name : List Char) : List (List Char) :=
        if rest.isEmpty then
          let whole := path ++ name
          if (s.findNode (whole ++ (if name.isEmpty then ['.'] else [])) false).isOk then [whole]
          else []
        else s.pathsBehind (path ++ name ++ ['/']) rest
      if isGlob part then
        let pattern := ofGlob part
        let isHidden (name : List Char) : Bool := name.head? == some '.'
        let asksHidden := part.head?.map Prod.fst == some '.'
        let names := s.namesIn path ++ (if asksHidden then [['.'], ['.', '.']] else [])
        (names.filter fun name =>
          (!isHidden name || asksHidden) && globTakes pattern name).flatMap next
      else next (MarkedText.unmarked part)

/-- The components of a pattern of paths. -/
def pathParts (word : MarkedText) : List MarkedText :=
  word.foldr (fun c parts =>
    if c.1 = '/' then [] :: parts
    else
      match parts with
      | part :: parts => (c :: part) :: parts
      | [] => [[c]]) [[]]

/-- The paths that a word takes, or the word itself if it takes none. -/
def Session.pathsOf (s : Session) (word : MarkedText) : List (List Char) :=
  if s.options.contains 'f' || !isGlob word then [MarkedText.unmarked word]
  else
    let paths := (s.pathsBehind [] (pathParts word)).mergeSort isBeforeOrSame
    if paths.isEmpty then [MarkedText.unmarked word] else paths

/-! ## Parts of values -/

/-- A value without the part at one end that a pattern takes. -/
def trimmed (atEnd longest : Bool) (pattern : MarkedText) (value : List Char) : List Char :=
  let regex := ofGlob pattern
  let x := Subject.ofList (lettersOf false value)
  let n := value.length
  let pick (places : List Nat) : Option Nat :=
    if longest != atEnd then places.getLast? else places.head?
  if atEnd then
    let starts := (List.range (n + 1)).filter fun i => (Regex.ends x regex [i]).contains n
    match pick starts with
    | some i => value.take i
    | none => value
  else
    match pick (Regex.ends x regex [0]) with
    | some i => value.drop i
    | none => value

/-- A text without the line ends at its end. -/
def dropLastLineEnds (cs : List Char) : List Char :=
  (cs.reverse.dropWhile (· == '\n')).reverse

/-! ## Home directories -/

/-- The home directory of a user; no name asks for that of the variable. -/
def Session.homeOf? (s : Session) (user : List Char) : Option (List Char) :=
  if user.isEmpty then s.valueOf? "HOME".toList
  else (DesiredState.homeOf? (decodeLossy user)).map fun home => octetsOf home.toList

/-- The pieces of a text outside of quotes with a home directory in the place of a tilde at
its start; `isWhole` says that nothing follows the text. -/
def Session.homePieces (s : Session) (isWhole : Bool) (cs : List Char) : ShellWord :=
  match cs with
  | '~' :: rest =>
      let user := rest.takeWhile (· != '/')
      if user.length = rest.length && !isWhole then [.text false cs]
      else
        match s.homeOf? user with
        | some home => [.text true home, .text false (rest.drop user.length)]
        | none => [.text false cs]
  | cs => [.text false cs]

/-- A word with a home directory in the place of a tilde at its start. -/
def Session.withHome (s : Session) : ShellWord → ShellWord
  | .text false cs :: rest => s.homePieces rest.isEmpty cs ++ rest
  | word => word

/-- The pieces of a word with home directories in the place of tildes at its start and
behind colons. -/
def Session.withHomes (s : Session) (isStart : Bool) : ShellWord → ShellWord
  | .text false cs :: rest =>
      let parts := splitAtChar ':' cs
      let pieces := parts.zipIdx.flatMap fun (part, n) =>
        let isLast := n + 1 = parts.length
        let behindColon := if isLast then [] else [.text false [':']]
        (if n = 0 && !isStart then [.text false part]
          else s.homePieces (!isLast || rest.isEmpty) part) ++ behindColon
      pieces ++ s.withHomes false rest
  | piece :: rest => piece :: s.withHomes false rest
  | [] => []

/-- An argument that assigns, with home directories in its value. -/
def Session.withHomesInArgument (s : Session) : ShellWord → ShellWord
  | .text false cs :: rest =>
      let name := cs.takeWhile (· != '=')
      .text false (name ++ ['=']) ::
        s.withHomes true (.text false (cs.drop (name.length + 1)) :: rest)
  | word => word

end DesiredState.Shell
