/-!
# Commands of the shell

A script is made of commands, and commands are made of words.  A word is a
sequence of texts and of expansions: parameters, formulas, and the output of other
commands.  What stands in quotes is taken as it is: it is neither split into
several words nor read as a pattern of file names.

## Main definitions

* `WordPiece`, `ShellWord` — words.
* `Redirect` — where a stream goes, or what it is fed with.
* `Command` — commands.
-/

namespace DesiredState.Shell

/-- What is done with a parameter. -/
inductive ParameterRule where
  | plain
  /-- How long its value is. -/
  | length
  /-- Another word in its place when it is not set. -/
  | orElse
  /-- Another word in its place when it is set. -/
  | ifSet
  /-- Another word in its place when it is not set, which is also assigned. -/
  | assign
  /-- A failure with another word when it is not set. -/
  | demand
  /-- Its value without the part at one end that a pattern takes. -/
  | trim (atEnd longest : Bool)
  /-- Something that means nothing. -/
  | unknown
  deriving DecidableEq, Repr

/-- The sign of a redirection. -/
inductive RedirectSign where
  | input
  | output
  /-- To a file even where an option protects those that are there. -/
  | overwrite
  | append
  /-- From a file and to it. -/
  | both
  /-- To where another stream goes. -/
  | duplicate
  deriving DecidableEq, Repr

mutual

/-- A piece of a word. -/
inductive WordPiece where
  | text (isQuoted : Bool) (cs : List Char)
  /-- A parameter; `emptyToo` says whether an empty one counts as not set. -/
  | parameter (isQuoted : Bool) (name : List Char) (rule : ParameterRule)
      (emptyToo : Bool) (word : List WordPiece)
  /-- The output of commands. -/
  | output (isQuoted : Bool) (body : Command)
  /-- The value of a formula. -/
  | formula (isQuoted : Bool) (expression : List WordPiece)

/-- A redirection of a stream. -/
inductive Redirect where
  | to (stream : Nat) (sign : RedirectSign) (target : List WordPiece)
  /-- A stream that is fed with a text. -/
  | document (stream : Nat) (content : List WordPiece)

/-- A command of a script. -/
inductive Command where
  | nothing
  /-- Assignments, words and redirections, with the number of the line. -/
  | simple (line : Nat) (assignments : List (List Char × List WordPiece))
      (words : List (List WordPiece)) (redirects : List Redirect)
  | pipe (first second : Command)
  | negate (c : Command)
  /-- The second one if the first one succeeds. -/
  | andThen (first second : Command)
  /-- The second one if the first one fails. -/
  | orElse (first second : Command)
  | sequence (first second : Command)
  /-- A command that is not waited for. -/
  | background (c : Command)
  | choose (test body otherwise : Command)
  | loop (isUntil : Bool) (test body : Command)
  /-- A command for each of some words, or for each argument. -/
  | forEach (name : List Char) (words? : Option (List (List WordPiece))) (body : Command)
  /-- The first of some commands that has a pattern for a word. -/
  | select (line : Nat) (word : List WordPiece)
      (branches : List (List (List WordPiece) × Command))
  /-- A command that gets a name, with the number of its first line. -/
  | define (line : Nat) (name : List Char) (body : Command)
  /-- A command that changes nothing but what it writes. -/
  | apart (body : Command)
  /-- A command with redirections of its own. -/
  | redirected (line : Nat) (body : Command) (redirects : List Redirect)

end

instance : Inhabited Command := ⟨.nothing⟩

/-- A word. -/
abbrev ShellWord := List WordPiece

/-- The content of a piece, if it is a text. -/
def WordPiece.text? : WordPiece → Option (List Char)
  | .text _ cs => some cs
  | _ => none

/-- Whether a piece is a text outside of quotes. -/
def WordPiece.isBare : WordPiece → Bool
  | .text isQuoted _ => !isQuoted
  | _ => false

/-- The text of a word that is one text outside of quotes. -/
def bareText? : ShellWord → Option (List Char)
  | [.text false cs] => some cs
  | _ => none

/-- A word behind a piece; texts of one kind are joined. -/
def consPiece : WordPiece → ShellWord → ShellWord
  | .text q cs, .text r ds :: rest =>
      if q = r then .text q (cs ++ ds) :: rest else .text q cs :: .text r ds :: rest
  | piece, rest => piece :: rest

/-- Whether a character can start the name of a variable. -/
def isNameStart (c : Char) : Bool := c.isAlpha || c == '_'

/-- Whether a character can be part of the name of a variable. -/
def isNamePart (c : Char) : Bool := c.isAlphanum || c == '_'

/-- Whether a text is the name of a variable. -/
def isVariableName (cs : List Char) : Bool := cs.head?.any isNameStart && cs.all isNamePart

/-- Whether a character names a parameter on its own. -/
def isSpecialParameter (c : Char) : Bool := c.isDigit || "?$#@*!-".toList.contains c

/-- The names of the commands that are part of the language: a failure of one
ends the script, and no other command can take their names. -/
def languageCommands : List String :=
  [":", ".", "break", "continue", "eval", "exec", "exit", "export", "local", "readonly",
    "return", "set", "shift", "times", "trap", "unset"]

end DesiredState.Shell
