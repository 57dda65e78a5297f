import DesiredState.Fields
import DesiredState.Number.Layout
import DesiredState.Text.Quoted

/-!
# Desired-state values

The values that a desired state gives to properties: scalars, secrets, arrays,
maps, and instances of a class.  Maps and instances keep their entries in
order; an instance is a class name with a map of properties.

A value can be shown in a message.  There a secret is replaced by a fixed text,
so no message carries its plaintext.

## Main definitions

* `Value`, `Instance` — values, and the instances among them on their own.
* `Value.get?`, `Value.children` — looking up a key, and the values directly
  inside.
* `Value.same` — equality by content: maps do not compare their order, and
  numbers compare by value.
* `Value.describe` — the text of a value in a message.
-/

namespace DesiredState

/-- A desired-state value. -/
inductive Value where
  | null
  | bool (b : Bool)
  | int (i : Int)
  | float (x : Binary64)
  | string (s : String)
  /-- A text that must not be shown. -/
  | secret (s : String)
  | array (items : List Value)
  | map (entries : List (String × Value))
  /-- An instance of a class, with its properties. -/
  | instanceOf (className : String) (properties : List (String × Value))
  deriving Inhabited

/-- An instance of a class: the class name and the properties in order. -/
structure Instance where
  className : String
  properties : List (String × Value)
  deriving Inhabited

/-- The properties of a resource: a desired state, or an identity. -/
abbrev Properties := Fields Value

/-- The identity that consists of a name only. -/
def Properties.ofName (name : String) : Properties := Fields.ofPairs [("name", .string name)]

namespace Value

/-- Whether the value is null. -/
def isNull : Value → Bool
  | null => true
  | _ => false

/-- Whether the value is an instance. -/
def isInstance : Value → Bool
  | instanceOf _ _ => true
  | _ => false

/-- The value under a key of a map or of an instance. -/
def get? (value : Value) (key : String) : Option Value :=
  match value with
  | map entries => Entries.get? entries key
  | instanceOf _ properties => Entries.get? properties key
  | _ => none

/-- The values directly inside a value. -/
def children : Value → List Value
  | array items => items
  | map entries => Entries.values entries
  | instanceOf _ properties => Entries.values properties
  | _ => []

/-! ## Equality by content -/

mutual

/-- Whether two values have the same content. -/
def same : Value → Value → Bool
  | null, null => true
  | bool a, bool b => a == b
  | int a, int b => a == b
  | float a, float b => a.same b
  | string a, string b => a == b
  | secret a, secret b => a == b
  | array a, array b => sameItems a b
  | map a, map b => a.length == b.length && sameEntries a b
  | instanceOf c a, instanceOf d b =>
      c == d && a.length == b.length && sameEntries a b
  | _, _ => false

/-- Whether two lists of values have the same content item by item. -/
def sameItems : List Value → List Value → Bool
  | [], [] => true
  | a :: as, b :: bs => same a b && sameItems as bs
  | _, _ => false

/-- Whether each entry has the same content as the entry of its key in
`others`. -/
def sameEntries : List (String × Value) → List (String × Value) → Bool
  | [], _ => true
  | (key, a) :: rest, others =>
      (match Entries.get? others key with
        | some b => same a b
        | none => false) && sameEntries rest others

end

/-! ## Values in messages -/

/-- Numbers in messages are positional from `1e-4` up to `1e16`, and of two
equally near shortest decimals the greater is taken. -/
def floatLayout : Layout := ⟨-4, 16, .up, false, "NaN", "inf", "-inf"⟩

/-- What a message shows in place of a secret. -/
def hiddenSecret : String := "Sensitive [value redacted]"

/-- Texts separated by a comma and a blank. -/
def commaSeparated (parts : List (List Char)) : List Char :=
  List.intercalate [',', ' '] parts

mutual

/-- The text of a value in a message: its kind, and its content in
parentheses. -/
def describe : Value → List Char
  | null => "Null".toList
  | bool true => "Bool(true)".toList
  | bool false => "Bool(false)".toList
  | int i => "Int(".toList ++ writeInt i ++ [')']
  | float x => "Float(".toList ++ floatLayout.write x ++ [')']
  | string s => "String(".toList ++ Quoted.write s ++ [')']
  | secret _ => "Secret(".toList ++ hiddenSecret.toList ++ [')']
  | array items => "Array([".toList ++ commaSeparated (describeItems items) ++ "])".toList
  | map entries =>
      "Map(\x7b".toList ++ commaSeparated (describeEntries entries) ++ "\x7d)".toList
  | instanceOf className properties =>
      "Instance(CimInstance \x7b class_name: ".toList ++ Quoted.write className ++
        ", properties: \x7b".toList ++ commaSeparated (describeEntries properties) ++
        "\x7d \x7d)".toList

/-- The texts of the items of an array. -/
def describeItems : List Value → List (List Char)
  | [] => []
  | item :: rest => describe item :: describeItems rest

/-- The texts of the entries of a map. -/
def describeEntries : List (String × Value) → List (List Char)
  | [] => []
  | (key, value) :: rest =>
      (Quoted.write key ++ ": ".toList ++ describe value) :: describeEntries rest

end

end Value

/-- An instance as a value. -/
def Instance.toValue (i : Instance) : Value := .instanceOf i.className i.properties

end DesiredState
