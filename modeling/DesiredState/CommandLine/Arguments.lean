import DesiredState.Invocation

/-!
# Arguments of the command line

A command line names a command and gives it options.  An option has a letter and
a name; its value stands behind it, behind an equals sign, or directly behind
the letter.  Letters of options without a value may be put together.

Arguments are read from left to right, and the first mistake or the first
request for help decides.

## Main definitions

* `Request` — what a command line asks for.
* `Parsed`, `Request.parse` — a request, help, or a mistake.
-/

namespace DesiredState

/-- What a command line asks for. -/
inductive Request where
  /-- The state of the resource of a title. -/
  | query (schema title : String) (identity? : Option String) (config : String)
  /-- The change to a desired state. -/
  | change (schema resource config : String)
  /-- The script for a desired state, which is not run. -/
  | preview (schema resource : String) (method : Method) (config : String)
  deriving DecidableEq, Repr

/-- What a command line is. -/
inductive Parsed (α : Type) where
  | accepted (a : α)
  /-- A request for help or for the version. -/
  | help
  | mistake
  deriving DecidableEq, Repr

/-- What an option does. -/
inductive OptionKind where
  /-- It is on when it is given. -/
  | switch
  /-- It asks for help or for the version. -/
  | help
  /-- It has a value of which some are accepted. -/
  | value (accepts : String → Bool)

/-- An option of a command. -/
structure OptionSpec where
  letter : Char
  name : String
  kind : OptionKind

/-- The options given so far, with their values. -/
abbrev Given := List (String × String)

namespace OptionSpec

/-- The option that says more about what is done. -/
def verbose : OptionSpec := ⟨'v', "verbose", .switch⟩

/-- The option that asks for help. -/
def help : OptionSpec := ⟨'h', "help", .help⟩

/-- The option that asks for the version. -/
def version : OptionSpec := ⟨'V', "version", .help⟩

/-- An option with a path. -/
def path (letter : Char) (name : String) : OptionSpec :=
  ⟨letter, name, .value fun s => !s.isEmpty⟩

/-- One more option with its value; an option may be given once. -/
def give (o : OptionSpec) (value : String) (given : Given) : Parsed Given :=
  let isAccepted := match o.kind with
    | .value accepts => accepts value
    | _ => true
  if isAccepted && (Entries.get? given o.name).isNone then .accepted (given ++ [(o.name, value)])
  else .mistake

/-- The option of a letter. -/
def ofLetter? (options : List OptionSpec) (letter : Char) : Option OptionSpec :=
  options.find? (·.letter == letter)

/-- The option of a name. -/
def ofName? (options : List OptionSpec) (name : String) : Option OptionSpec :=
  options.find? (·.name == name)

end OptionSpec

/-- Options read from an argument, and the one whose value is to come. -/
abbrev GivenWith := Given × Option OptionSpec

/-- Reads the letters of an argument. -/
def readLetters (options : List OptionSpec) : List Char → Given → Parsed GivenWith
  | [], given => .accepted (given, none)
  | letter :: rest, given =>
      match OptionSpec.ofLetter? options letter with
      | none => .mistake
      | some o =>
          match o.kind with
          | .help => .help
          | .switch =>
              match o.give "" given with
              | .accepted given => readLetters options rest given
              | .help => .help
              | .mistake => .mistake
          | .value _ =>
              if rest.isEmpty then .accepted (given, some o)
              else
                let value := if rest.head? == some '=' then rest.drop 1 else rest
                match o.give (String.ofList value) given with
                | .accepted given => .accepted (given, none)
                | .help => .help
                | .mistake => .mistake

/-- Reads an argument that is the name of an option, maybe with a value behind an
equals sign. -/
def readName (options : List OptionSpec) (argument : List Char) (given : Given) :
    Parsed GivenWith :=
  let name := argument.takeWhile (· != '=')
  let value? := match argument.drop name.length with
    | '=' :: value => some (String.ofList value)
    | _ => none
  match OptionSpec.ofName? options (String.ofList name) with
  | none => .mistake
  | some o =>
      match o.kind, value? with
      | .help, none => .help
      | .help, some _ | .switch, some _ => .mistake
      | .value _, none => .accepted (given, some o)
      | _, value? =>
          match o.give (value?.getD "") given with
          | .accepted given => .accepted (given, none)
          | .help => .help
          | .mistake => .mistake

/-- Reads one argument that starts with a hyphen; none for another one. -/
def readOption? (options : List OptionSpec) (argument : String) (given : Given) :
    Option (Parsed GivenWith) :=
  match argument.toList with
  | '-' :: '-' :: name => some (readName options name given)
  | '-' :: letter :: letters => some (readLetters options (letter :: letters) given)
  | _ => none

/-- Reads the options of a command, which takes nothing else.  `pending` is the
option whose value is to come. -/
def readOptions (options : List OptionSpec) :
    List String → Option OptionSpec → Given → Parsed Given
  | [], none, given => .accepted given
  | [], some _, _ => .mistake
  | argument :: rest, pending, given =>
      if argument == "--" then
        if pending.isNone && rest.isEmpty then .accepted given else .mistake
      else
        match pending, readOption? options argument given with
        | some o, none =>
            match o.give argument given with
            | .accepted given => readOptions options rest none given
            | .help => .help
            | .mistake => .mistake
        | some _, some _ => .mistake
        | none, none => .mistake
        | none, some (.accepted (given, pending)) => readOptions options rest pending given
        | none, some .help => .help
        | none, some .mistake => .mistake

/-! ## Commands -/

/-- The file that configures the program if no other one is given. -/
def defaultConfig : String := "dscbridge.yaml"

/-- The options of each command. -/
def commandOptions : String → Option (List OptionSpec)
  | "get" => some [.path 's' "schema", ⟨'n', "name", .value fun _ => true⟩,
      .path 'i' "identity", .path 'c' "config", .verbose, .help]
  | "set" => some [.path 's' "schema", .path 'r' "resource", .path 'c' "config", .verbose, .help]
  | "script" => some [.path 's' "schema", .path 'r' "resource",
      ⟨'m', "method", .value fun s => (Method.ofName? s).isSome⟩, .path 'c' "config",
      .verbose, .help]
  | _ => none

/-- The request of a command with its options; none if one is missing. -/
def Request.ofGiven? (command : String) (given : Given) : Option Request := do
  let value? (name : String) : Option String := Entries.get? given name
  let schema ← value? "schema"
  let config := (value? "config").getD defaultConfig
  match command with
  | "get" => some (.query schema (← value? "name") (value? "identity") config)
  | "set" => some (.change schema (← value? "resource") config)
  | "script" =>
      let method ← match value? "method" with
        | some name => Method.ofName? name
        | none => some .set
      some (.preview schema (← value? "resource") method config)
  | _ => none

/-- Reads a request for help on a command. -/
def parseHelp (names : List String) : Parsed Request :=
  match names with
  | [] | ["help"] => .help
  | [name] => if (commandOptions name).isSome then .help else .mistake
  | _ => .mistake

/-- Reads a command and its options. -/
def parseCommand (command : String) (arguments : List String) : Parsed Request :=
  if command == "help" then parseHelp arguments
  else
    match commandOptions command with
    | none => .mistake
    | some options =>
        match readOptions options arguments none [] with
        | .accepted given =>
            match Request.ofGiven? command given with
            | some request => .accepted request
            | none => .mistake
        | .help => .help
        | .mistake => .mistake

/-- Reads the options in front of the command, and the rest. -/
def parseFrom : List String → Given → Parsed Request
  | [], _ => .mistake
  | argument :: rest, given =>
      match readOption? [.verbose, .help, .version] argument given with
      | none => parseCommand argument rest
      | some (.accepted (given, _)) => parseFrom rest given
      | some .help => .help
      | some .mistake => .mistake

/-- What a command line is. -/
def Request.parse (arguments : List String) : Parsed Request := parseFrom arguments []

end DesiredState
