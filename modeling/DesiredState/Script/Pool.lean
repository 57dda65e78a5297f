import DesiredState.Script.Expr
import DesiredState.Script.Names

/-!
# The variable pool

Composite expressions that are built by statements of their own get a variable
each.  The pool remembers under which text an expression was built and what its
variable is called, and puts references in the place of expressions with a
known text.  One pool serves exactly one script.

A replacement works from the outside in: where an expression has a variable,
nothing inside it is looked at.

## Main definitions

* `Pool` — texts with their variables, and how far the names are used up.
* `Pool.register` — the variable of a text, drawn if the text is new.
* `Pool.substitute` — references in the place of known expressions.
* `Pool.describe` — the pool in a message.
-/

namespace DesiredState

/-- The texts of built expressions with their variables. -/
structure Pool where
  /-- Where names are drawn from. -/
  source : NameSource
  /-- Texts and the names of their variables, in order of registration. -/
  entries : List (String × String)
  /-- How many names were drawn. -/
  drawn : Nat

namespace Pool

/-- The pool without variables. -/
def empty (source : NameSource) : Pool := ⟨source, [], 0⟩

/-- The names of the variables, in order of registration. -/
def variableNames (pool : Pool) : List String := Entries.values pool.entries

/-- The variable of a text. -/
def lookup? (pool : Pool) (text : String) : Option String := Entries.get? pool.entries text

/-- The variable of a text, and whether it is new.  For a new text names are
drawn until one is not in use. -/
def register (pool : Pool) (text : String) : (String × Bool) × Pool :=
  match pool.lookup? text with
  | some name => ((name, false), pool)
  | none =>
      let index := pool.source.firstUnused pool.variableNames pool.drawn
      let name := pool.source.draw index
      ((name, true), { pool with entries := pool.entries ++ [(text, name)], drawn := index + 1 })

mutual

/-- An expression with references in the place of known expressions. -/
def replace (pool : Pool) : Expr → Expr
  | .array items =>
      match pool.lookup? (Expr.array items).render with
      | some name => .variableRef name
      | none => .array (replaceItems pool items)
  | .cast typeName inner =>
      match pool.lookup? (Expr.cast typeName inner).render with
      | some name => .variableRef name
      | none => .cast typeName (replace pool inner)
  | .table entries =>
      match pool.lookup? (Expr.table entries).render with
      | some name => .variableRef name
      | none => .table (replaceEntries pool entries)
  | e => e

/-- The items of an array with references in the place of known expressions. -/
def replaceItems (pool : Pool) : List Expr → List Expr
  | [] => []
  | item :: rest => replace pool item :: replaceItems pool rest

/-- The entries of a table with references in the place of known expressions. -/
def replaceEntries (pool : Pool) : List (Key × Expr) → List (Key × Expr)
  | [] => []
  | (key, value) :: rest => (key, replace pool value) :: replaceEntries pool rest

end

/-- An expression with references in the place of known expressions; without
variables there is nothing to look for. -/
def substitute (pool : Pool) (e : Expr) : Expr :=
  if pool.entries.isEmpty then e else pool.replace e

/-- The pool in a message: the names of its variables. -/
def describe (pool : Pool) : List Char :=
  "Interner \x7b variables: [".toList ++
    Value.commaSeparated (pool.variableNames.map Quoted.write) ++ "] \x7d".toList

end Pool

end DesiredState
