import DesiredState.Proofs.Fields
import DesiredState.Proofs.Json.Spelling

/-!
# Members of objects

The value of an object has the values of its members.  A key may occur more than once in
the text of an object; then its last value counts.  A reader of the syntax that only
takes keys that occur once finds the same values as a reader of the value.

## Main definitions

* `JsonSyntax.ValuesOf` — the members of an object with their values.
* `Json.text?` — the text that a value is.

## Main results

* `Entries.get?_ofPairs` — of pairs with the same name the last one counts.
* `Json.exists_members` — the members of an object that was read.
* `JsonSyntax.ValuesOf.get?_ofPairs_cases` — a key that occurs once has the value that
  counts.
-/

namespace DesiredState

namespace Entries

variable {α : Type}

theorem get?_foldl_insert (pairs entries : List (String × α)) (name : String) :
    get? (pairs.foldl (fun entries (name, value) => insert entries name value) entries) name =
      (get? pairs.reverse name).or (get? entries name) := by
  induction pairs generalizing entries with
  | nil => rfl
  | cons pair rest ih =>
      obtain ⟨key, value⟩ := pair
      rw [List.foldl_cons, ih, List.reverse_cons, get?_append, Option.or_assoc]
      congr 1
      by_cases hkey : key = name
      · subst hkey
        rw [get?_insert_self]
        simp [get?]
      · rw [get?_insert_of_ne entries hkey]
        simp [get?, hkey]

/-- Of pairs with the same name the last one counts. -/
theorem get?_ofPairs (pairs : List (String × α)) (name : String) :
    get? (ofPairs pairs) name = get? pairs.reverse name := by
  rw [ofPairs, get?_foldl_insert]
  exact Option.or_none

/-- A name that occurs at most once is found from both ends. -/
theorem get?_reverse {pairs : List (String × α)} {name : String}
    (h : (names pairs).count name ≤ 1) : get? pairs.reverse name = get? pairs name := by
  induction pairs with
  | nil => rfl
  | cons pair rest ih =>
      obtain ⟨key, value⟩ := pair
      rw [List.reverse_cons, get?_append]
      by_cases hkey : key = name
      · subst hkey
        have hcount : (names rest).count key = 0 := by
          have hcons : (names ((key, value) :: rest)).count key = (names rest).count key + 1 :=
            List.count_cons_self
          omega
        have hnone : get? rest.reverse key = none := by
          rw [get?_eq_none_iff, names, List.map_reverse, List.mem_reverse]
          exact List.count_eq_zero.1 hcount
        rw [hnone]
        simp [get?]
      · have hrest : (names rest).count name ≤ 1 :=
          Nat.le_trans (List.Sublist.count_le _ (List.sublist_cons_self _ _)) h
        rw [ih hrest]
        simp [get?, hkey]

end Entries

namespace JsonSyntax

/-- The value of a syntax tree has its kind. -/
theorem toJson?_cases {depth : Nat} {s : JsonSyntax} {v : Json} (h : s.toJson? depth = some v) :
    s = .scalar (some v) ∨ (∃ t, s = .string (some t) ∧ v = .string t) ∨
      (∃ items values, s = .array items ∧ v = .array values) ∨
        ∃ members values, s = .object members ∧ v = .object values := by
  cases s with
  | scalar value => exact .inl (congrArg scalar h)
  | string content =>
      obtain ⟨t, rfl, rfl⟩ := Option.map_eq_some_iff.1 h
      exact .inr (.inl ⟨t, rfl, rfl⟩)
  | array items =>
      cases depth with
      | zero => cases h
      | succ depth =>
          obtain ⟨values, -, rfl⟩ := Option.map_eq_some_iff.1 h
          exact .inr (.inr (.inl ⟨items, values, rfl, rfl⟩))
  | object members =>
      cases depth with
      | zero => cases h
      | succ depth =>
          obtain ⟨values, -, rfl⟩ := Option.map_eq_some_iff.1 h
          exact .inr (.inr (.inr ⟨members, _, rfl, rfl⟩))

/-- The members of an object with their values, with at most `depth` arrays and objects
around any part of one. -/
def ValuesOf (depth : Nat) (members : List (String × JsonSyntax))
    (values : List (String × Json)) : Prop :=
  List.Forall₂ (fun member value => member.1 = value.1 ∧ member.2.toJson? depth = some value.2)
    members values

variable {depth : Nat} {members : List (String × JsonSyntax)} {values : List (String × Json)}

theorem ValuesOf.names_eq (h : ValuesOf depth members values) :
    Entries.names members = Entries.names values := by
  induction h with
  | nil => rfl
  | cons hfirst _ ih => exact congrArg₂ List.cons hfirst.1 ih

theorem ValuesOf.get?_cases (h : ValuesOf depth members values) (key : String) :
    (Entries.get? members key = none ∧ Entries.get? values key = none) ∨
      ∃ s v, (key, s) ∈ members ∧ Entries.get? members key = some s ∧
        Entries.get? values key = some v ∧ s.toJson? depth = some v := by
  induction h with
  | nil => exact .inl ⟨rfl, rfl⟩
  | @cons member value members values hfirst _ ih =>
      obtain ⟨name, s⟩ := member
      obtain ⟨other, v⟩ := value
      obtain ⟨rfl, hvalue⟩ := hfirst
      by_cases hkey : name = key
      · subst hkey
        exact .inr ⟨s, v, List.mem_cons_self, by simp [Entries.get?], by simp [Entries.get?],
          hvalue⟩
      · simp only [Entries.get?, if_neg hkey]
        refine ih.imp_right ?_
        rintro ⟨s, v, hmem, hrest⟩
        exact ⟨s, v, List.mem_cons_of_mem _ hmem, hrest⟩

/-- A key that occurs at most once has the value that counts. -/
theorem ValuesOf.get?_ofPairs_cases (h : ValuesOf depth members values) {key : String}
    (hcount : (Entries.names members).count key ≤ 1) :
    (Entries.get? members key = none ∧ Entries.get? (Entries.ofPairs values) key = none) ∨
      ∃ s v, (key, s) ∈ members ∧ Entries.get? members key = some s ∧
        Entries.get? (Entries.ofPairs values) key = some v ∧ s.toJson? depth = some v := by
  rw [Entries.get?_ofPairs, Entries.get?_reverse (h.names_eq ▸ hcount)]
  exact h.get?_cases key

/-- The members of an object that has a value all have texts as their keys. -/
theorem exists_valuesOf {syntaxes : List (Option String × JsonSyntax)}
    {values : List (String × Json)} (h : membersToJson? depth syntaxes = some values) :
    ∃ members, syntaxes.mapM (fun (key, value) => key.map (·, value)) = some members ∧
      syntaxes = members.map (Prod.map some id) ∧ ValuesOf depth members values := by
  induction syntaxes generalizing values with
  | nil =>
      obtain rfl := Option.some.inj h
      exact ⟨[], rfl, rfl, .nil⟩
  | cons first rest ih =>
      obtain ⟨key?, s⟩ := first
      rw [membersToJson?] at h
      cases key? with
      | none => cases h
      | some key =>
          change (toJson? depth s >>= _) = _ at h
          obtain ⟨value, hvalue, h⟩ := Option.bind_eq_some_iff.1 h
          obtain ⟨others, hothers, h⟩ := Option.bind_eq_some_iff.1 h
          obtain rfl := Option.some.inj h
          obtain ⟨members, hmapM, hmembers, hvaluesOf⟩ := ih hothers
          refine ⟨(key, s) :: members, ?_, ?_, .cons ⟨rfl, hvalue⟩ hvaluesOf⟩
          · rw [List.mapM_cons, hmapM]
            rfl
          · rw [hmembers]
            rfl

end JsonSyntax

namespace Json

/-- The text that a value is. -/
def text? : Json → Option String
  | string s => some s
  | _ => none

theorem text?_eq_some_iff {v : Json} {t : String} : v.text? = some t ↔ v = .string t := by
  cases v <;> simp [text?]

/-- Members that are all texts. -/
theorem eq_map_string {members : List (String × Json)} {pairs : List (String × String)}
    (h : members.map (Prod.map id text?) = pairs.map (Prod.map id some)) :
    members = pairs.map (Prod.map id string) := by
  induction members generalizing pairs with
  | nil => rw [List.map_eq_nil_iff.1 h.symm, List.map_nil]
  | cons member rest ih =>
      cases pairs with
      | nil => cases h
      | cons pair others =>
          obtain ⟨hfirst, hrest⟩ := List.cons.inj h
          obtain ⟨hkey, hvalue⟩ := Prod.mk.inj hfirst
          rw [List.map_cons, ← ih hrest]
          exact congrArg (· :: rest) (Prod.ext hkey (text?_eq_some_iff.1 hvalue))

/-- The members of an object that was read. -/
theorem exists_members {cs : List Char} {values : List (String × Json)}
    (h : read? cs = some (.object values)) :
    ∃ members pairs, JsonSyntax.read? cs = some (.object (members.map (Prod.map some id))) ∧
      (members.map (Prod.map some id)).mapM (fun (key, value) => key.map (·, value)) =
        some members ∧
      JsonSyntax.ValuesOf 126 members pairs ∧ values = Entries.ofPairs pairs := by
  rw [read?] at h
  obtain ⟨s, hs, h⟩ := Option.bind_eq_some_iff.1 h
  rcases JsonSyntax.toJson?_cases h with rfl | ⟨t, -, ht⟩ | ⟨items, others, -, hitems⟩ |
    ⟨syntaxes, others, rfl, -⟩
  · -- a scalar is no object
    have hspelled := JsonToken.scan?_eq_some_iff.1 (JsonSyntax.read?_eq_some_iff.1 hs)
    exact (hspelled.isPlain _ List.mem_cons_self : (Json.object values).IsScalar).elim
  · cases ht
  · cases hitems
  · obtain ⟨pairs, hpairs, hvalues⟩ := Option.map_eq_some_iff.1 h
    obtain ⟨members, hmapM, rfl, hvaluesOf⟩ := JsonSyntax.exists_valuesOf hpairs
    exact ⟨members, pairs, hs, hmapM, hvaluesOf, (Json.object.inj hvalues).symm⟩

end Json

end DesiredState
