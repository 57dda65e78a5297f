import DesiredState.Unix.Tools.Quoting

/-!
# Options of programs

The arguments of a program are options and operands.  An option is a letter behind a dash,
of which several may be joined, or a word behind two dashes, which may be cut short as
long as it is clear; and some take an argument.

## Main definitions

* `OptionForms`, `Given` — the options of a program, and those that are given.
* `parseOptions` — the options and operands in arguments.
* `withOptions` — a job that looks at them.
-/

namespace DesiredState.Tools

open Shell

/-- Whether an option takes an argument. -/
inductive Takes where
  | nothing
  | argument
  /-- Only if it is joined to the option. -/
  | maybe
  deriving DecidableEq, Repr

/-- The options of a program. -/
structure OptionForms where
  /-- Letters, with one colon behind those that take an argument, and two behind those that
  may. -/
  letters : String
  /-- Words, with the name under which they are known: their letter if they have one. -/
  words : List (String × Takes × String)
  /-- Whether operands may stand in front of options. -/
  permutes : Bool
  /-- Whether a dash in front of a digit is a sign. -/
  hasNumbers : Bool := false

/-- An option that is given, by its name. -/
structure Given where
  name : String
  argument? : Option (List Char)

/-- The argument of an option, empty if it has none. -/
def Given.argument (g : Given) : List Char := g.argument?.getD []

/-- Why arguments are not understood. -/
inductive OptionFault where
  | unknownLetter (c : Char)
  | unknownWord (spelling : List Char)
  | ambiguous (spelling : List Char) (candidates : List String)
  | letterNeedsArgument (c : Char)
  | wordNeedsArgument (name : String)
  | wordTakesNone (name : String)

/-- The words for a fault. -/
def OptionFault.message : OptionFault → List Char
  | unknownLetter c => "invalid option -- '".toList ++ [c, '\'']
  | unknownWord spelling => "unrecognized option '".toList ++ spelling ++ ['\'']
  | ambiguous spelling candidates =>
      "option '".toList ++ spelling ++ "' is ambiguous; possibilities:".toList ++
        candidates.flatMap fun c => " '--".toList ++ c.toList ++ ['\'']
  | letterNeedsArgument c => "option requires an argument -- '".toList ++ [c, '\'']
  | wordNeedsArgument name => "option '--".toList ++ name.toList ++ "' requires an argument".toList
  | wordTakesNone name =>
      "option '--".toList ++ name.toList ++ "' doesn't allow an argument".toList

/-- What a letter takes, if it is an option. -/
def OptionForms.letter? (forms : OptionForms) (c : Char) : Option Takes :=
  if c = ':' || c = '-' then none
  else
    match forms.letters.toList.dropWhile (· != c) with
    | _ :: ':' :: ':' :: _ => some .maybe
    | _ :: ':' :: _ => some .argument
    | _ :: _ => some .nothing
    | [] => none

/-- The word that a text stands for, if it is clear. -/
def OptionForms.word? (forms : OptionForms) (name : List Char) :
    Except OptionFault (String × Takes × String) :=
  let common : List (String × Takes × String) :=
    [("help", .nothing, "help"), ("version", .nothing, "version")]
  let all := forms.words ++ common
  let spelling := '-' :: '-' :: name
  match all.find? fun w => w.1.toList == name with
  | some w => .ok w
  | none =>
      match all.filter fun w => name.isPrefixOf w.1.toList with
      | [] => .error (.unknownWord spelling)
      | w :: others =>
          if others.all fun o => o.2 == w.2 then .ok w
          else .error (.ambiguous spelling ((w :: others).map Prod.fst))

/-- The options and operands in arguments. -/
def parseOptions (forms : OptionForms) : Nat → List (List Char) →
    Except OptionFault (List Given × List (List Char))
  | 0, arguments => .ok ([], arguments)
  | fuel + 1, arguments =>
      let andThen (given : Given) (rest : List (List Char)) :
          Except OptionFault (List Given × List (List Char)) := do
        let (options, operands) ← parseOptions forms fuel rest
        pure (given :: options, operands)
      match arguments with
      | [] => .ok ([], [])
      | ['-', '-'] :: rest => .ok ([], rest)
      | ('-' :: '-' :: text) :: rest => do
          let name := text.takeWhile (· != '=')
          let value? :=
            if name.length < text.length then some (text.drop (name.length + 1)) else none
          let (word, takes, key) ← (forms.word? name).mapError fun fault =>
            match fault with
            | .unknownWord _ => .unknownWord ('-' :: '-' :: text)
            | .ambiguous _ candidates => .ambiguous ('-' :: '-' :: text) candidates
            | fault => fault
          match takes, value?, rest with
          | .nothing, some _, _ => throw (.wordTakesNone word)
          | .nothing, none, _ => andThen ⟨key, none⟩ rest
          | .maybe, _, _ => andThen ⟨key, value?⟩ rest
          | .argument, some value, _ => andThen ⟨key, some value⟩ rest
          | .argument, none, value :: rest => andThen ⟨key, some value⟩ rest
          | .argument, none, [] => throw (.wordNeedsArgument word)
      | ('-' :: c :: more) :: rest =>
          if forms.hasNumbers && (c.isDigit || c = '.') then .ok ([], arguments)
          else
          match forms.letter? c with
          | none => .error (.unknownLetter c)
          | some .nothing =>
              andThen ⟨String.singleton c, none⟩
                (if more.isEmpty then rest else ('-' :: more) :: rest)
          | some .maybe =>
              andThen ⟨String.singleton c, if more.isEmpty then none else some more⟩ rest
          | some .argument =>
              match more, rest with
              | [], [] => .error (.letterNeedsArgument c)
              | [], value :: rest => andThen ⟨String.singleton c, some value⟩ rest
              | more, rest => andThen ⟨String.singleton c, some more⟩ rest
      | operand :: rest =>
          if forms.permutes then do
            let (options, operands) ← parseOptions forms fuel rest
            pure (options, operand :: operands)
          else .ok ([], operand :: rest)

/-! ## Messages -/

/-- Writes a complaint under the name of the program. -/
def complainAs (text : List Char) : Job Unit := do
  complain ((← get).program ++ ": ".toList ++ text)

/-- Points to the help of the program, and ends it with a status. -/
def pointToHelp (status : Nat) : Job Unit := do
  complain ("Try '".toList ++ (← get).program ++ " --help' for more information.".toList)
  finishWith status

/-- Complains, points to the help of the program, and ends it with a status. -/
def misuse (status : Nat) (text : List Char) : Job Unit := do
  complainAs text
  pointToHelp status

/-- Complains, and ends the program with a status. -/
def failAs (status : Nat) (text : List Char) : Job Unit := do
  complainAs text
  finishWith status

/-- Complains that an operand is missing. -/
def misuseMissing (status : Nat) : Job Unit := misuse status "missing operand".toList

/-- Complains about an operand that is one too many. -/
def misuseExtra (status : Nat) (operand : List Char) : Job Unit := do
  misuse status ("extra operand ".toList ++ (← quoted operand))

/-- Complains about a file that something can not be done with. -/
def complainAbout (name : List Char) (fault : Fault) : Job Unit := do
  complainAs ((← shellQuotedIfNeeded name) ++ ": ".toList ++ fault.words.toList)

/-- Notes that something failed, which makes the status of the program at least 1. -/
def noteFailure : Job Unit := modify fun s => { s with status := max 1 s.status }

/-- The name of a program without its directory. -/
def baseOfPath (path : List Char) : List Char :=
  (path.reverse.takeWhile (· != '/')).reverse

/-- What a program does about arguments that it does not understand, and what it says
behind its name about its version. -/
structure Manners where
  refuse : List Char → Job Unit
  version : String

/-- Does something with the options and operands of a program that has manners of its own. -/
def withOptionsBy (manners : Manners) (forms : OptionForms) (arguments : List (List Char))
    (job : List Given → List (List Char) → Job Unit) : Job Unit := do
  let fuel := (arguments.map List.length).foldl (· + ·) 0 + arguments.length + 1
  match parseOptions forms fuel arguments with
  | .error fault => manners.refuse fault.message
  | .ok (given, operands) =>
      let name := (← get).program
      finishWith 0
      match given.find? fun g => g.name == "help" || g.name == "version" with
      | some ⟨"help", _⟩ => emit ("Usage: ".toList ++ name ++ " [OPTION]...\n".toList)
      | some _ => emit (baseOfPath name ++ manners.version.toList ++ ['\n'])
      | none => job given operands

/-- Does something with the options and operands of a program, which fails with a status if
they are not understood. -/
def withOptions (forms : OptionForms) (status : Nat) (arguments : List (List Char))
    (job : List Given → List (List Char) → Job Unit) : Job Unit :=
  withOptionsBy ⟨misuse status, " (GNU coreutils) 9.4"⟩ forms arguments job

/-- Whether an option is given. -/
def isGiven (given : List Given) (name : String) : Bool := given.any (·.name == name)

/-- The argument of the last option of a name, if it is given. -/
def lastGiven? (given : List Given) (name : String) : Option (List Char) :=
  ((given.filter (·.name == name)).getLast?).map Given.argument

/-- The last one of some options that is given. -/
def lastOf? (given : List Given) (names : List String) : Option Given :=
  (given.filter fun g => names.contains g.name).getLast?

/-- The word among some that an argument of an option stands for, which may be cut short; words
in one group mean the same.  Others are complained about, and `point` says where to find
help. -/
def wordAmongOr (point : Job Unit) (option : String) (groups : List (List String))
    (text : List Char) : Job (Option String) := do
  let first (group : List String) : String := group.headD ""
  match groups.find? fun group => group.any fun w => w.toList == text with
  | some group => return some (first group)
  | none =>
      match groups.filter fun group => group.any fun w => text.isPrefixOf w.toList with
      | [group] => if text.isEmpty then refuseWord "ambiguous" else return some (first group)
      | [] => refuseWord "invalid"
      | _ => refuseWord "ambiguous"
where
  /-- Complains about a word. -/
  refuseWord (how : String) : Job (Option String) := do
    complainAs ((how ++ " argument ").toList ++ (← quoted text) ++ " for ".toList ++
      (← quoted option.toList))
    complain "Valid arguments are:".toList
    groups.forM fun group => do
      let names ← group.mapM fun w => quoted w.toList
      complain ("  - ".toList ++ List.intercalate ", ".toList names)
    point
    return none

/-- The word among some that an argument of an option stands for; the program fails with a
status for others. -/
def wordAmong (status : Nat) (option : String) (groups : List (List String)) (text : List Char) :
    Job (Option String) :=
  wordAmongOr (pointToHelp status) option groups text

end DesiredState.Tools
