import DesiredState.Unix.Tools.Awk.Pattern

/-!
# Programs of the record language

A program is a list of rules and functions.  A rule says on which records something is done,
or that it is done before the first one or behind the last one.

## Main definitions

* `Expr`, `Statement` — what is computed, and what is done.
* `Rule`, `Function`, `Program`.
-/

namespace DesiredState.Tools.Awk

open Pattern

/-- An operation on two numbers. -/
inductive Arithmetic where
  | add | subtract | multiply | divide | remainder | power
  deriving DecidableEq, Repr

/-- A comparison of two values. -/
inductive Comparison where
  | equal | different | less | atMost | greater | atLeast
  deriving DecidableEq, Repr

/-- A function that is there from the start. -/
inductive Builtin where
  | index | substr | sprintf | sine | cosine | arcTangent | exponential | logarithm | integer
  | squareRoot | random | seed | close | system | upper | lower | flush | length | makeTime
  | formatTime | currentTime
  deriving DecidableEq, Repr

/-- Where a record is read from. -/
inductive Source (α : Type) where
  | input
  | file (name : α)
  | command (text : α)

/-- An expression. -/
inductive Expr where
  | number (x : Rounded)
  | text (cs : List Char)
  /-- Whether a pattern occurs in the record, or the pattern itself where one is asked for. -/
  | pattern (r : Regex)
  | variable (name : String)
  | element (table : String) (indices : List Expr)
  | field (number : Expr)
  | assign (target value : Expr)
  | update (op : Arithmetic) (target value : Expr)
  /-- A variable that is made greater by one, or less; its value is the new one or the old
  one. -/
  | step (isUp isNew : Bool) (target : Expr)
  | condition (test yes no : Expr)
  | both (a b : Expr)
  | either (a b : Expr)
  | isIn (indices : List Expr) (table : String)
  | occurs (isWanted : Bool) (text pattern : Expr)
  | compare (op : Comparison) (a b : Expr)
  | join (a b : Expr)
  | arithmetic (op : Arithmetic) (a b : Expr)
  | not (a : Expr)
  | negate (a : Expr)
  | plus (a : Expr)
  | call (name : String) (arguments : List Expr)
  | builtin (f : Builtin) (arguments : List Expr)
  | tableLength (table : String)
  | split (text : Expr) (table : String) (separator? : Option Expr)
  | find (text pattern : Expr)
  | substitute (isGlobal : Bool) (pattern replacement target : Expr)
  | getline (source : Source Expr) (target? : Option Expr)
  deriving Inhabited

/-- Where something is written to. -/
inductive Target (α : Type) where
  | output
  | file (name : α)
  | append (name : α)
  | command (text : α)

/-- A statement. -/
inductive Statement where
  | expr (e : Expr)
  | print (values : List Expr) (target : Target Expr)
  | printf (values : List Expr) (target : Target Expr)
  | delete (table : String) (indices? : Option (List Expr))
  | block (body : List Statement)
  | choice (test : Expr) (yes : Statement) (no? : Option Statement)
  | repeatWhile (test : Expr) (body : Statement)
  | repeatUntil (body : Statement) (test : Expr)
  | count (first? test? next? : Option Expr) (body : Statement)
  | forKeys (name table : String) (body : Statement)
  | next
  | nextFile
  | exit (status? : Option Expr)
  | result (value? : Option Expr)
  | leave
  | continue
  deriving Inhabited

/-- On which records something is done. -/
inductive Selection where
  | start
  | finish
  | always
  | matching (test : Expr)
  | range (first last : Expr)

/-- A rule: without a body, the record is written. -/
structure Rule where
  selection : Selection
  body? : Option Statement

/-- A function; some of its parameters are tables. -/
structure Function where
  name : String
  parameters : List String
  body : Statement

/-- A program. -/
structure Program where
  rules : List Rule
  functions : List Function
  /-- The names that stand for tables: those of functions with the functions they are in. -/
  tables : List (Option String × String)

end DesiredState.Tools.Awk
