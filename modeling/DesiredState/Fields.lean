/-!
# Named fields in order

Properties of a resource, attributes of a schema and parameters of an
invocation are values under distinct names, and their order shows in every
text made from them.  Two layers are kept apart: the operations on raw lists of
entries, which nested values also use, and `Fields`, a list of entries whose
names are known to be distinct.

Writing under a name that is present replaces the value and keeps its place;
a new name goes to the end.

## Main definitions

* `Entries.get?`, `Entries.insert`, `Entries.erase` — reading, writing and
  leaving out by name.
* `Entries.ofPairs` — the entries that writing pairs one after another leaves.
* `Fields` — entries with distinct names, and the same operations on them.
-/

namespace DesiredState

namespace Entries

variable {α β : Type}

/-- The names of entries, in order. -/
def names (entries : List (String × α)) : List String := entries.map Prod.fst

/-- The values of entries, in order. -/
def values (entries : List (String × α)) : List α := entries.map Prod.snd

/-- The value under a name. -/
def get? : List (String × α) → String → Option α
  | [], _ => none
  | (key, value) :: rest, name => if key = name then some value else get? rest name

/-- Writes a value under a name, in the place of the name if it is present and
at the end otherwise. -/
def insert : List (String × α) → String → α → List (String × α)
  | [], name, value => [(name, value)]
  | (key, old) :: rest, name, value =>
      if key = name then (key, value) :: rest else (key, old) :: insert rest name value

/-- Leaves out the entry of a name; the others keep their order. -/
def erase : List (String × α) → String → List (String × α)
  | [], _ => []
  | (key, value) :: rest, name =>
      if key = name then rest else (key, value) :: erase rest name

/-- Leaves out the entry of a name; the last entry moves into its place. -/
def eraseByLast : List (String × α) → String → List (String × α)
  | [], _ => []
  | (key, value) :: rest, name =>
      if key = name then
        match rest.getLast? with
        | some last => last :: rest.dropLast
        | none => []
      else (key, value) :: eraseByLast rest name

/-- The entries that writing pairs one after another leaves. -/
def ofPairs (pairs : List (String × α)) : List (String × α) :=
  pairs.foldl (fun entries (name, value) => insert entries name value) []

/-- Writing keeps the names, with a new one at the end. -/
theorem names_insert (entries : List (String × α)) (name : String) (value : α) :
    names (insert entries name value) =
      if name ∈ names entries then names entries else names entries ++ [name] := by
  induction entries with
  | nil => simp [names, insert]
  | cons entry rest ih =>
      obtain ⟨key, old⟩ := entry
      simp only [names, List.map_cons, List.mem_cons] at ih ⊢
      by_cases h : key = name
      · simp [insert, h]
      · have h' : ¬ name = key := fun e => h e.symm
        simp only [insert, h, if_false, List.map_cons, ih, h', false_or]
        split <;> simp [*]

/-- Writing keeps names distinct. -/
theorem nodup_insert {entries : List (String × α)} (h : (names entries).Nodup)
    (name : String) (value : α) : (names (insert entries name value)).Nodup := by
  rw [names_insert]
  split
  · exact h
  · next hn =>
    refine List.nodup_append.2 ⟨h, by simp, ?_⟩
    intro a ha b hb
    rw [List.mem_singleton] at hb
    subst hb
    exact fun e => hn (e ▸ ha)

/-- Pairs written one after another onto distinct names leave distinct names. -/
theorem nodup_foldl_insert (pairs entries : List (String × α))
    (h : (names entries).Nodup) :
    (names (pairs.foldl (fun entries (name, value) => insert entries name value)
      entries)).Nodup := by
  induction pairs generalizing entries with
  | nil => exact h
  | cons pair rest ih => exact ih _ (nodup_insert h _ _)

/-- The entries left by writing pairs have distinct names. -/
theorem nodup_ofPairs (pairs : List (String × α)) : (names (ofPairs pairs)).Nodup :=
  nodup_foldl_insert pairs [] .nil

/-- A value that was written is read back. -/
theorem get?_insert_self (entries : List (String × α)) (name : String) (value : α) :
    get? (insert entries name value) name = some value := by
  induction entries with
  | nil => simp [insert, get?]
  | cons entry rest ih =>
      obtain ⟨key, old⟩ := entry
      by_cases h : key = name
      · simp [insert, get?, h]
      · simp [insert, get?, h, ih]

/-- Writing under one name leaves every other name alone. -/
theorem get?_insert_of_ne (entries : List (String × α)) {name other : String}
    (h : name ≠ other) (value : α) :
    get? (insert entries name value) other = get? entries other := by
  induction entries with
  | nil => simp [insert, get?, h]
  | cons entry rest ih =>
      obtain ⟨key, old⟩ := entry
      by_cases hk : key = name
      · subst hk
        simp [insert, get?, h]
      · simp only [insert, hk, if_false, get?, ih]

end Entries

/-- Values under distinct names, in order. -/
structure Fields (α : Type) where
  /-- The names with their values. -/
  entries : List (String × α)
  /-- No name occurs twice. -/
  nodup : (Entries.names entries).Nodup

namespace Fields

variable {α : Type}

/-- No fields. -/
def empty : Fields α := ⟨[], .nil⟩

instance : Inhabited (Fields α) := ⟨empty⟩

/-- The fields that writing pairs one after another leaves. -/
def ofPairs (pairs : List (String × α)) : Fields α :=
  ⟨Entries.ofPairs pairs, Entries.nodup_ofPairs pairs⟩

/-- The names, in order. -/
def names (fields : Fields α) : List String := Entries.names fields.entries

/-- The value under a name. -/
def get? (fields : Fields α) (name : String) : Option α := Entries.get? fields.entries name

/-- Writes a value under a name, in the place of the name if it is present and
at the end otherwise. -/
def insert (fields : Fields α) (name : String) (value : α) : Fields α :=
  ⟨Entries.insert fields.entries name value, Entries.nodup_insert fields.nodup name value⟩

/-- The number of fields. -/
def size (fields : Fields α) : Nat := fields.entries.length

/-- Whether there are no fields. -/
def isEmpty (fields : Fields α) : Bool := fields.entries.isEmpty

/-- The fields that a test on their names keeps, in the same order. -/
def filter (keep : String → Bool) (fields : Fields α) : Fields α :=
  ⟨fields.entries.filter fun entry => keep entry.1,
    fields.nodup.sublist (List.Sublist.map Prod.fst List.filter_sublist)⟩

/-- The fields that a step answers with a value, under the same names and in
the same order. -/
def filterMap {β : Type} (step : String → α → Option β) (fields : Fields α) : Fields β where
  entries := fields.entries.filterMap fun (name, value) => (step name value).map (name, ·)
  nodup := by
    refine fields.nodup.sublist ?_
    induction fields.entries with
    | nil => exact .slnil
    | cons entry rest ih =>
        obtain ⟨name, value⟩ := entry
        cases h : step name value with
        | none =>
            rw [List.filterMap_cons_none (by simp [h])]
            exact ih.cons _
        | some b =>
            rw [List.filterMap_cons_some (b := (name, b)) (by simp [h])]
            exact ih.cons_cons _

end Fields

end DesiredState
