import DesiredState.Text.SingleQuoted
import DesiredState.Value

/-!
# Script expressions

The literals of a script form a small expression language: constants, verbatim
texts, texts marked as sensitive, arrays, casts, tables, and references to
variables.  A value is first turned into an expression; references are put into
the expression; and only then is it written, in one place.

The marker behind a sensitive text is a block comment, so it may stand in the
middle of a table or of an array.

## Main definitions

* `Key`, `Expr` — table keys and expressions.
* `Expr.write`, `Expr.render` — the text of an expression.
* `Expr.isComposite` — the expressions that a variable may stand for.
* `Value.toExpr`, `Instance.toExpr` — the expression of a value.
-/

namespace DesiredState

/-- A key of a table: a bare word, or a quoted text. -/
inductive Key where
  | bare (name : String)
  | quoted (name : String)
  deriving DecidableEq, Repr, Inhabited

/-- A script expression. -/
inductive Expr where
  | null
  | bool (b : Bool)
  | int (i : Int)
  | float (x : Binary64)
  | text (s : String)
  /-- A text that is marked for redaction. -/
  | sensitive (s : String)
  | array (items : List Expr)
  /-- An expression behind the name of a type. -/
  | cast (typeName : String) (inner : Expr)
  | table (entries : List (Key × Expr))
  /-- A reference to a variable. -/
  | variableRef (name : String)
  deriving Inhabited

namespace Expr

/-- The marker behind a sensitive literal. -/
def sensitiveMarker : String := "<# Sensitive #>"

/-- Numbers of a script are positional from `1e-4` up to `1e16`; of two equally
near shortest decimals the greater is taken. -/
def floatLayout : Layout :=
  ⟨-4, 16, .up, false,
    "[double]::NaN", "[double]::PositiveInfinity", "[double]::NegativeInfinity"⟩

/-- Whether a variable may stand for the expression. -/
def isComposite : Expr → Bool
  | array _ | cast _ _ | table _ => true
  | _ => false

/-- A table whose keys are bare words. -/
def bareTable (entries : List (String × Expr)) : Expr :=
  table (entries.map fun (name, value) => (.bare name, value))

/-- The text of a key. -/
def writeKey : Key → List Char
  | .bare name => name.toList
  | .quoted name => SingleQuoted.write name

mutual

/-- The text of an expression. -/
def write : Expr → List Char
  | null => "$null".toList
  | bool true => "$true".toList
  | bool false => "$false".toList
  | int i => writeInt i
  | float x => floatLayout.write x
  | text s => SingleQuoted.write s
  | sensitive s => SingleQuoted.write s ++ ' ' :: sensitiveMarker.toList
  | array items => '@' :: '(' :: (List.intercalate ", ".toList (writeItems items) ++ [')'])
  | cast typeName inner => '[' :: (typeName.toList ++ ']' :: write inner)
  | table entries =>
      '@' :: '\x7b' :: (List.intercalate "; ".toList (writeEntries entries) ++ ['\x7d'])
  | variableRef name => '$' :: name.toList

/-- The texts of the items of an array. -/
def writeItems : List Expr → List (List Char)
  | [] => []
  | item :: rest => write item :: writeItems rest

/-- The texts of the entries of a table. -/
def writeEntries : List (Key × Expr) → List (List Char)
  | [] => []
  | (key, value) :: rest => (writeKey key ++ " = ".toList ++ write value) :: writeEntries rest

end

/-- The text of an expression. -/
def render (e : Expr) : String := String.ofList e.write

end Expr

/-! ## Values as expressions -/

/-- The key under which a table carries the class of an instance. -/
def classKey : String := "cim_instance_type"

/-- The type of an array of instances. -/
def instanceArrayType : String := "CimInstance[]"

namespace Value

mutual

/-- The expression of a value.  An instance is a table led by its class; a
non-empty array of instances only carries their array type. -/
def toExpr : Value → Expr
  | null => .null
  | bool b => .bool b
  | int i => .int i
  | float x => .float x
  | string s => .text s
  | secret s => .sensitive s
  | array items =>
      if !items.isEmpty && items.all isInstance then
        .cast instanceArrayType (.array (itemsToExpr items))
      else .array (itemsToExpr items)
  | map entries => .table (entriesToExpr entries)
  | instanceOf className properties =>
      .table ((.quoted classKey, .text className) :: entriesToExpr properties)

/-- The expressions of the items of an array. -/
def itemsToExpr : List Value → List Expr
  | [] => []
  | item :: rest => toExpr item :: itemsToExpr rest

/-- The entries of the table of a map. -/
def entriesToExpr : List (String × Value) → List (Key × Expr)
  | [] => []
  | (key, value) :: rest => (.quoted key, toExpr value) :: entriesToExpr rest

end

/-- The literal of a value. -/
def literal (value : Value) : String := value.toExpr.render

end Value

/-- The expression of an instance, led by its class.  Instances of different
classes have different expressions, whatever their properties. -/
def Instance.toExpr (i : Instance) : Expr := i.toValue.toExpr

end DesiredState
