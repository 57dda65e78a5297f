import DesiredState.Unix.Tools.Awk.Value
import Std.Data.HashMap

/-!
# Tables of the record language

A table has values for keys, which are texts.  Its keys come in the order of their places in
lists: each list holds the keys of one remainder of their hash, the one that was looked for
last in front.  A key that is a number is looked for among the numbers first, and joins the
texts only when these are asked for.

## Main definitions

* `Table` — values for keys.
* `Table.find`, `Table.create`, `Table.remove` — a key that is looked for, made, or taken
  away.
* `Table.ofList` — the parts of a text, numbered from one.
* `Table.keys` — all keys in order.
-/

namespace DesiredState.Tools.Awk

/-- A key as it is looked for. -/
inductive Key where
  | number (i : Int)
  | text (cs : List Char)

/-- The text of a key. -/
def Key.toText : Key → List Char
  | number i => writeInt i
  | text cs => cs

/-- Values for keys. -/
structure Table where
  /-- The values by the texts of their keys. -/
  values : Std.HashMap String Value
  /-- The numbers, by their remainders. -/
  numbers : Array (List Int)
  /-- The texts, by the remainders of their hashes. -/
  texts : Array (List (List Char))
  /-- Whether all keys are among the texts. -/
  hasTexts : Bool
  /-- Whether the keys are the numbers from one on, and in no list yet. -/
  isPlain : Bool

namespace Table

/-- How many lists there are at first. -/
def firstCount : Nat := 64

/-- How many keys there may be for each list. -/
def keysPerList : Nat := 12

/-- The table without keys. -/
def empty : Table where
  values := ∅
  numbers := Array.replicate firstCount []
  texts := Array.replicate firstCount []
  hasTexts := false
  isPlain := false

/-- The hash of a text. -/
def hashOf (cs : List Char) : Nat :=
  cs.foldl (fun h c => (h ^^^ c.toNat) * 16777619 % (1 <<< 32)) 2166136261

/-- How many keys there are. -/
def size (t : Table) : Nat := t.values.size

/-- The value of the key with a text, if there is one. -/
def value? (t : Table) (text : List Char) : Option Value := t.values[String.ofList text]?

/-- Whether there is a value for the key with a text. -/
def hasKey (t : Table) (text : List Char) : Bool := t.values.contains (String.ofList text)

/-- The place of a number among the lists. -/
def placeOfNumber (t : Table) (i : Int) : Nat := (i % t.numbers.size).toNat

/-- The place of a text among the lists. -/
def placeOfText (t : Table) (cs : List Char) : Nat := hashOf cs % t.texts.size

/-- A table with a number in front of its list. -/
def addNumber (t : Table) (i : Int) : Table :=
  { t with numbers := t.numbers.modify (t.placeOfNumber i) fun l => i :: l.filter (· != i) }

/-- A table with a text in front of its list. -/
def addText (t : Table) (cs : List Char) : Table :=
  { t with texts := t.texts.modify (t.placeOfText cs) fun l => cs :: l.filter (· != cs) }

/-- Whether a number is in its list. -/
def hasNumber (t : Table) (i : Int) : Bool := (t.numbers.getD (t.placeOfNumber i) []).contains i

/-- A list that is divided into two by a condition. -/
def divided {α : Type} (lists : Array (List α)) (stays : Nat → α → Bool) : Array (List α) :=
  lists.mapIdx (fun n l => l.filter (stays n)) ++
    lists.mapIdx fun n l => l.filter fun a => !stays n a

/-- A table with twice as many lists. -/
def doubled (t : Table) : Table :=
  let count := 2 * t.texts.size
  { t with
    numbers := divided t.numbers fun n (i : Int) => (i % count).toNat == n
    texts := divided t.texts fun n cs => hashOf cs % count == n }

/-- A table with a value for a new key, and more lists if there are too few for all. -/
def withValue (t : Table) (key : List Char) (value : Value) : Table :=
  let t := { t with values := t.values.insert (String.ofList key) value }
  if keysPerList * t.texts.size < t.size then t.doubled else t

/-- How often the lists have to be doubled for so many keys. -/
def countFor (size : Nat) : (fuel : Nat) → Nat → Nat
  | 0, count => count
  | fuel + 1, count => if keysPerList * count < size then countFor size fuel (2 * count) else count

/-- A table whose keys are in lists. -/
def listed (t : Table) : Table :=
  if !t.isPlain then t
  else
    let count := countFor t.size 32 firstCount
    (List.range t.size).foldl (fun t (n : Nat) => t.addNumber (n + 1))
      { t with
        isPlain := false
        hasTexts := false
        numbers := Array.replicate count []
        texts := Array.replicate count [] }

/-- A table whose keys are all among the texts. -/
def withTexts (t : Table) : Table :=
  let t := t.listed
  if t.hasTexts then t
  else
    let all := t.numbers.toList.flatten
    { all.foldl (fun t i => t.addText (writeInt i)) t with hasTexts := true }

/-- A table in which a key was looked for. -/
def touch (t : Table) (key : Key) : Table :=
  match key with
  | .number i =>
      if t.isPlain then t
      else if t.hasNumber i then t.addNumber i
      else if t.hasTexts && t.hasKey key.toText then
        (t.addText key.toText).addNumber i
      else t
  | .text cs =>
      let t := t.withTexts
      if t.hasKey cs then t.addText cs else t

/-- The value of a key, if there is one, and the table in which it was looked for. -/
def find (t : Table) (key : Key) : Option Value × Table :=
  if t.size = 0 then (none, t) else (t.value? key.toText, t.touch key)

/-- The value of a key, which is made if there is none, and the table with it. -/
def create (t : Table) (key : Key) : Value × Table :=
  match t.value? key.toText with
  | some v => (v, t.touch key)
  | none =>
      let t := match key with
        | .number i =>
            let t := t.listed
            let t := t.withValue key.toText .unset
            (if t.hasTexts then t.addText key.toText else t).addNumber i
        | .text cs =>
            let t := t.withTexts
            (t.withValue cs .unset).addText cs
      (.unset, t)

/-- A table with a value for a key. -/
def set (t : Table) (key : Key) (value : Value) : Table :=
  let (_, t) := t.create key
  { t with values := t.values.insert (String.ofList key.toText) value }

/-- A table without a key. -/
def remove (t : Table) (key : Key) : Table :=
  let text := key.toText
  let t := match key with
    | .number _ => if t.isPlain && !t.hasKey text then t else t.listed
    | .text _ => if t.size = 0 then t else t.withTexts
  if !t.hasKey text then t
  else if t.size = 1 then empty
  else
    let number? : Option Int := match key with
      | .number i => some i
      | .text cs => (digitsNumber? cs)
    let t := { t with
      values := t.values.erase (String.ofList text)
      texts := t.texts.modify (t.placeOfText text) (·.filter (· != text)) }
    match number? with
    | some i => { t with numbers := t.numbers.modify (t.placeOfNumber i) (·.filter (· != i)) }
    | none => t
where
  /-- The integer whose text a key is. -/
  digitsNumber? (cs : List Char) : Option Int :=
    let (isNegative, digits) := splitSign cs
    (digitsValue? 10 digits).bind fun n =>
      let i : Int := if isNegative then -n else n
      if writeInt i = cs then some i else none

/-- The table of values that are numbered from one on. -/
def ofList (values : List Value) : Table :=
  { empty with
    values := values.zipIdx.foldl (fun m (v, n) => m.insert (String.ofList (writeNat (n + 1))) v) ∅
    isPlain := !values.isEmpty }

/-- The keys in order, and the table in which they were looked for. -/
def keys (t : Table) : List (List Char) × Table :=
  if t.size = 0 then ([], t)
  else
    let t := t.withTexts
    (t.texts.toList.flatten, t)

end Table

/-- The key that a value stands for. -/
def Value.asKey (format : List Char) (v : Value) : Key :=
  match v with
  | number x =>
      if x.isInteger && x.truncated.natAbs < 1 <<< 63 then .number x.truncated
      else .text (v.toKey format)
  | v => .text (v.toText format)

end DesiredState.Tools.Awk
