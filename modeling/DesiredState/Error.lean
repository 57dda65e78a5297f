/-!
# Failures

Everything that can go wrong is a value of `Error`, which says what happened
and with what.  The wording is one function, `Error.message`.

## Main definitions

* `Fault` — why the system refused a file or a program.
* `Error`, `Error.message` — a failure, and its text.
-/

namespace DesiredState

/-- Why the system refused a file or a program. -/
inductive Fault where
  | notFound
  | permissionDenied
  | notDirectory
  | isDirectory
  | alreadyExists
  | notEmpty
  | nameTooLong
  /-- Links lead on to links without an end. -/
  | tooManyLinks
  /-- A directory would be inside of itself, or another request makes no sense. -/
  | invalid
  /-- Not even the owner of the system may do this. -/
  | notPermitted
  /-- The directory where something is to be put or taken away is in use. -/
  | busy
  /-- A file is no program. -/
  | notRunnable
  /-- A program has too long an argument. -/
  | argumentTooLong
  /-- There is no room for what is written. -/
  | noSpace
  /-- A stream is not open. -/
  | badStream
  /-- There is no device behind a file. -/
  | noDevice
  /-- The content of a file is not UTF-8. -/
  | notText
  /-- The name of a file holds a NUL character. -/
  | nulInPath
  /-- The command line of a program holds a NUL character. -/
  | nulInCommand
  /-- Nobody reads what is written. -/
  | brokenPipe
  deriving DecidableEq, Repr

/-- The words for a fault. -/
def Fault.words : Fault → String
  | notFound => "No such file or directory"
  | permissionDenied => "Permission denied"
  | notDirectory => "Not a directory"
  | isDirectory => "Is a directory"
  | alreadyExists => "File exists"
  | notEmpty => "Directory not empty"
  | nameTooLong => "File name too long"
  | tooManyLinks => "Too many levels of symbolic links"
  | invalid => "Invalid argument"
  | notPermitted => "Operation not permitted"
  | busy => "Device or resource busy"
  | notRunnable => "Exec format error"
  | argumentTooLong => "Argument list too long"
  | noSpace => "No space left on device"
  | badStream => "Bad file descriptor"
  | noDevice => "No such device or address"
  | notText => "stream did not contain valid UTF-8"
  | nulInPath => "file name contained an unexpected NUL byte"
  | nulInCommand => "nul byte found in provided data"
  | brokenPipe => "Broken pipe"

/-- The number that the system has for a fault; some faults are not of the system. -/
def Fault.number? : Fault → Option Nat
  | notPermitted => some 1
  | notFound => some 2
  | noDevice => some 6
  | argumentTooLong => some 7
  | notRunnable => some 8
  | badStream => some 9
  | permissionDenied => some 13
  | busy => some 16
  | alreadyExists => some 17
  | notDirectory => some 20
  | isDirectory => some 21
  | invalid => some 22
  | noSpace => some 28
  | brokenPipe => some 32
  | nameTooLong => some 36
  | notEmpty => some 39
  | tooManyLinks => some 40
  | notText | nulInPath | nulInCommand => none

/-- The text of a fault: its words, and its number if it has one. -/
def Fault.message (fault : Fault) : String :=
  match fault.number? with
  | some n => fault.words ++ " (os error " ++ toString n ++ ")"
  | none => fault.words

/-- The documents that are read. -/
inductive DocumentKind where
  | schema
  | desiredState
  | config
  deriving DecidableEq, Repr

/-- The name of a document in a message. -/
def DocumentKind.name : DocumentKind → String
  | schema => "schema"
  | desiredState => "desired state"
  | config => "config"

/-- A failure. -/
inductive Error where
  /-- A value of a kind that can not be expressed. -/
  | unsupportedValue (kind : String) (value : String)
  /-- A property that the schema does not declare. -/
  | unknownProperty (property : String) (resource : String)
  /-- A credential that is not a map of user and password. -/
  | invalidCredential (property : String)
  /-- The interpreter wrote nothing but blanks. -/
  | nothingReturned (stderr : String)
  /-- The answer of the interpreter has not the expected form. -/
  | malformedAnswer
  /-- The resource reported a failure of its own. -/
  | reported (text : String)
  /-- The interpreter could not be started. -/
  | notStarted (program : String) (fault : Fault)
  /-- A file could not be read. -/
  | unreadable (path : String) (fault : Fault)
  /-- A document is not well formed. -/
  | malformedDocument (document : DocumentKind)
  /-- The exchange with the interpreter broke off. -/
  | brokenExchange (text : String)
  deriving DecidableEq, Repr

/-- The text of a failure.  What a resource reported is passed on as it is. -/
def Error.message : Error → String
  | unsupportedValue kind value => "unsupported type " ++ kind ++ " of value '" ++ value ++ "'"
  | unknownProperty property resource =>
      "property '" ++ property ++ "' is not an attribute of " ++ resource
  | invalidCredential property =>
      "credential property '" ++ property ++ "' must be a mapping with 'user' and 'password'"
  | nothingReturned _ => "Nothing returned"
  | malformedAnswer => "malformed response from interpreter"
  | reported text => text
  | notStarted program fault =>
      "failed to run interpreter '" ++ program ++ "': " ++ fault.message
  | unreadable path fault => "cannot read " ++ path ++ ": " ++ fault.message
  | malformedDocument document => "YAML parse error in " ++ document.name
  | brokenExchange text => "IO error: " ++ text

end DesiredState
