import DesiredState.Number.Layout
import DesiredState.Text.Quoted

/-!
# YAML values

A document that was read without a form in mind is a tree of YAML values.  Keys
of a mapping may be any values, and a value may carry a tag.

## Main definitions

* `Yaml` — YAML values.
* `Yaml.writeNumber?` — the text of a number.
* `Yaml.describe` — the text of a value in a message.
* `Yaml.same` — equality by content, under which keys must differ.
-/

namespace DesiredState

/-- A YAML value. -/
inductive Yaml where
  | null
  | bool (b : Bool)
  | int (i : Int)
  | float (x : Binary64)
  | string (s : String)
  | sequence (items : List Yaml)
  | mapping (entries : List (Yaml × Yaml))
  /-- A value behind a tag. -/
  | tagged (tag : String) (value : Yaml)
  deriving Inhabited

/-- The name of a tag: one exclamation mark in front of it does not count,
unless it is all there is. -/
def tagName (tag : String) : String :=
  match tag.toList with
  | '!' :: c :: rest => String.ofList (c :: rest)
  | _ => tag

/-- A tag in a message: its name behind an exclamation mark. -/
def writeTag (tag : String) : String := "!" ++ tagName tag

namespace Yaml

/-- Numbers of documents are positional from `1e-5` up to `1e16`; of two equally
near shortest decimals the one with the even last digit is taken. -/
def floatLayout : Layout := ⟨-5, 16, .even, false, ".nan", ".inf", "-.inf"⟩

/-- The text of a number; other values have none. -/
def writeNumber? : Yaml → Option (List Char)
  | int i => some (writeInt i)
  | float x => some (floatLayout.write x)
  | _ => none

/-! ## Equality by content -/

mutual

/-- Whether two values have the same content.  Mappings do not compare their
order, and the mark in front of a tag does not count.  Numbers compare by kind
and value; here every not-a-number is the same. -/
def same : Yaml → Yaml → Bool
  | null, null => true
  | bool a, bool b => a == b
  | int a, int b => a == b
  | float .nan, float .nan => true
  | float a, float b => a.same b
  | string a, string b => a == b
  | sequence a, sequence b => sameItems a b
  | mapping a, mapping b => a.length == b.length && sameEntries a b
  | tagged s a, tagged t b => tagName s == tagName t && same a b
  | _, _ => false

/-- Whether two lists of values have the same content item by item. -/
def sameItems : List Yaml → List Yaml → Bool
  | [], [] => true
  | a :: as, b :: bs => same a b && sameItems as bs
  | _, _ => false

/-- Whether each entry has the same content as some entry of `others`. -/
def sameEntries : List (Yaml × Yaml) → List (Yaml × Yaml) → Bool
  | [], _ => true
  | (key, value) :: rest, others =>
      others.any (fun other => same key other.1 && same value other.2) &&
        sameEntries rest others

end

/-- Writes an entry of a mapping, in the place of its key if that is present and
at the end otherwise. -/
def insertEntry : List (Yaml × Yaml) → Yaml → Yaml → List (Yaml × Yaml)
  | [], key, value => [(key, value)]
  | (old, oldValue) :: rest, key, value =>
      if same old key then (old, value) :: rest
      else (old, oldValue) :: insertEntry rest key value

/-! ## Values in messages -/

/-- The text of a key that stands bare in a message: a text, a truth value or a
number. -/
def bareKey? : Yaml → Option (List Char)
  | bool true => some "true".toList
  | bool false => some "false".toList
  | string s => some (Quoted.write s)
  | key => writeNumber? key

mutual

/-- The text of a value in a message. -/
def describe : Yaml → List Char
  | null => "Null".toList
  | bool true => "Bool(true)".toList
  | bool false => "Bool(false)".toList
  | int i => "Number(".toList ++ writeInt i ++ [')']
  | float x => "Number(".toList ++ floatLayout.write x ++ [')']
  | string s => "String(".toList ++ Quoted.write s ++ [')']
  | sequence items =>
      "Sequence [".toList ++ List.intercalate ", ".toList (describeItems items) ++ [']']
  | mapping entries =>
      "Mapping \x7b".toList ++ List.intercalate ", ".toList (describeEntries entries) ++
        ['\x7d']
  | tagged tag value =>
      "TaggedValue \x7b tag: ".toList ++ (writeTag tag).toList ++ ", value: ".toList ++
        describe value ++ " \x7d".toList

/-- The texts of the items of a sequence. -/
def describeItems : List Yaml → List (List Char)
  | [] => []
  | item :: rest => describe item :: describeItems rest

/-- The texts of the entries of a mapping. -/
def describeEntries : List (Yaml × Yaml) → List (List Char)
  | [] => []
  | (key, value) :: rest =>
      ((bareKey? key).getD (describe key) ++ ": ".toList ++ describe value) ::
        describeEntries rest

end

end Yaml

end DesiredState
