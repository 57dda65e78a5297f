import DesiredState.Fields

/-!
# Reading and writing entries

What a lookup by name says about the entries, and which entries writing and leaving out
by name leave.

## Main results

* `Entries.get?_eq_none_iff`, `Entries.mem_of_get?`, `Entries.get?_of_mem` — a
  lookup finds an entry of the name exactly when there is one.
* `Entries.get?_append` — a lookup in entries behind other entries.
* `Entries.exists_append_of_get?` — the entry that a lookup finds, and those around it.
* `Entries.ofPairs_eq_self` — distinct names are written in their order.
* `Entries.mem_of_mem_ofPairs`, `Entries.mem_names_ofPairs` — writing pairs leaves entries
  that are among them, and all of their names.
* `Entries.mem_erase`, `Entries.eraseByLast_perm` — which entries leaving out leaves.
* `Entries.erase_append`, `Entries.eraseByLast_append`, `Entries.eraseByLast_cons_concat` — in
  which order it leaves them.
-/

namespace DesiredState

namespace Entries

variable {α β : Type}

theorem get?_eq_none_iff (entries : List (String × α)) (name : String) :
    get? entries name = none ↔ name ∉ names entries := by
  induction entries with
  | nil => simp [get?, names]
  | cons entry rest ih =>
      obtain ⟨key, value⟩ := entry
      by_cases h : key = name
      · simp [get?, names, h]
      · have h' : ¬ name = key := fun e => h e.symm
        simpa [get?, names, h, h'] using ih

theorem mem_of_get? {entries : List (String × α)} {name : String} {value : α}
    (h : get? entries name = some value) : (name, value) ∈ entries := by
  induction entries with
  | nil => simp [get?] at h
  | cons entry rest ih =>
      obtain ⟨key, first⟩ := entry
      by_cases hkey : key = name
      · subst hkey
        obtain rfl : first = value := by simpa [get?] using h
        exact List.mem_cons_self
      · rw [get?, if_neg hkey] at h
        exact List.mem_cons_of_mem _ (ih h)

theorem get?_of_mem {entries : List (String × α)} (hnodup : (names entries).Nodup)
    {name : String} {value : α} (h : (name, value) ∈ entries) :
    get? entries name = some value := by
  induction entries with
  | nil => simp at h
  | cons entry rest ih =>
      obtain ⟨key, first⟩ := entry
      obtain ⟨hkey, hrest⟩ := List.nodup_cons.1 hnodup
      rcases List.mem_cons.1 h with heq | h
      · obtain ⟨rfl, rfl⟩ := Prod.mk.inj heq
        simp [get?]
      · have hne : key ≠ name := by
          rintro rfl
          exact hkey (List.mem_map.2 ⟨_, h, rfl⟩)
        rw [get?, if_neg hne]
        exact ih hrest h

theorem get?_append (front back : List (String × α)) (name : String) :
    get? (front ++ back) name = (get? front name).or (get? back name) := by
  induction front with
  | nil => simp [get?]
  | cons entry rest ih =>
      obtain ⟨key, value⟩ := entry
      by_cases h : key = name
      · simp [get?, h]
      · simp [get?, h, ih]

/-- A lookup finds the first entry of a name. -/
theorem exists_append_of_get? {entries : List (String × α)} {name : String} {value : α}
    (h : get? entries name = some value) :
    ∃ front back, entries = front ++ (name, value) :: back ∧ name ∉ names front := by
  induction entries with
  | nil => cases h
  | cons entry rest ih =>
      obtain ⟨key, first⟩ := entry
      by_cases hkey : key = name
      · subst hkey
        obtain rfl : first = value := by simpa [get?] using h
        exact ⟨[], rest, rfl, List.not_mem_nil⟩
      · rw [get?, if_neg hkey] at h
        obtain ⟨front, back, rfl, hfront⟩ := ih h
        refine ⟨(key, first) :: front, back, rfl, ?_⟩
        exact List.not_mem_cons_of_ne_of_not_mem (fun e => hkey e.symm) hfront

theorem insert_of_not_mem {entries : List (String × α)} {name : String}
    (h : name ∉ names entries) (value : α) :
    insert entries name value = entries ++ [(name, value)] := by
  induction entries with
  | nil => rfl
  | cons entry rest ih =>
      obtain ⟨key, old⟩ := entry
      obtain ⟨hkey, hrest⟩ : ¬ name = key ∧ name ∉ names rest := by simpa [names] using h
      rw [insert, if_neg (fun e => hkey e.symm), ih hrest, List.cons_append]

/-- Pairs with distinct names, none of them in use, are written one behind
another. -/
theorem foldl_insert_of_nodup (pairs entries : List (String × α))
    (h : (names (entries ++ pairs)).Nodup) :
    pairs.foldl (fun entries (name, value) => insert entries name value) entries =
      entries ++ pairs := by
  induction pairs generalizing entries with
  | nil => simp
  | cons pair rest ih =>
      obtain ⟨name, value⟩ := pair
      have hfresh : name ∉ names entries := by
        intro hmem
        rw [names, List.map_append, List.nodup_append] at h
        exact h.2.2 name hmem name (by simp) rfl
      change rest.foldl _ (insert entries name value) = _
      rw [insert_of_not_mem hfresh, ih _ (by simpa using h)]
      simp

/-- Values are changed before or after they are written. -/
theorem map_insert (g : α → β) (entries : List (String × α)) (name : String) (value : α) :
    (insert entries name value).map (Prod.map id g) =
      insert (entries.map (Prod.map id g)) name (g value) := by
  induction entries with
  | nil => rfl
  | cons entry rest ih =>
      obtain ⟨key, old⟩ := entry
      by_cases h : key = name
      · simp [insert, h]
      · simp [insert, h, ih]

theorem map_ofPairs (g : α → β) (pairs : List (String × α)) :
    (ofPairs pairs).map (Prod.map id g) = ofPairs (pairs.map (Prod.map id g)) := by
  have hfold : ∀ pairs entries : List (String × α),
      (pairs.foldl (fun entries (name, value) => insert entries name value) entries).map
        (Prod.map id g) = (pairs.map (Prod.map id g)).foldl
          (fun entries (name, value) => insert entries name value)
          (entries.map (Prod.map id g)) := by
    intro pairs
    induction pairs with
    | nil => exact fun _ => rfl
    | cons pair rest ih =>
        intro entries
        rw [List.foldl_cons, ih, map_insert]
        rfl
  exact hfold pairs []

theorem map_erase (g : α → β) (entries : List (String × α)) (name : String) :
    (erase entries name).map (Prod.map id g) = erase (entries.map (Prod.map id g)) name := by
  induction entries with
  | nil => rfl
  | cons entry rest ih =>
      obtain ⟨key, old⟩ := entry
      by_cases h : key = name
      · simp [erase, h]
      · simp [erase, h, ih]

/-- Pairs with distinct names are written in their order. -/
theorem ofPairs_eq_self {pairs : List (String × α)} (h : (names pairs).Nodup) :
    ofPairs pairs = pairs := foldl_insert_of_nodup pairs [] h

/-- Writing leaves nothing but the new entry and old ones. -/
theorem mem_of_mem_insert {entries : List (String × α)} {name : String} {value : α}
    {entry : String × α} (h : entry ∈ insert entries name value) :
    entry = (name, value) ∨ entry ∈ entries := by
  induction entries with
  | nil => exact .inl (List.mem_singleton.1 h)
  | cons first rest ih =>
      obtain ⟨key, old⟩ := first
      rw [insert] at h
      split at h
      · next hkey =>
        subst hkey
        rcases List.mem_cons.1 h with rfl | h
        · exact .inl rfl
        · exact .inr (List.mem_cons_of_mem _ h)
      · rcases List.mem_cons.1 h with rfl | h
        · exact .inr List.mem_cons_self
        · exact (ih h).imp_right (List.mem_cons_of_mem _)

theorem mem_of_mem_foldl_insert {pairs entries : List (String × α)} {entry : String × α}
    (h : entry ∈ pairs.foldl (fun entries (name, value) => insert entries name value) entries) :
    entry ∈ entries ∨ entry ∈ pairs := by
  induction pairs generalizing entries with
  | nil => exact .inl h
  | cons pair rest ih =>
      rcases ih h with h | h
      · rcases mem_of_mem_insert h with rfl | h
        · exact .inr List.mem_cons_self
        · exact .inl h
      · exact .inr (List.mem_cons_of_mem _ h)

/-- What writing pairs leaves is among the pairs. -/
theorem mem_of_mem_ofPairs {pairs : List (String × α)} {entry : String × α}
    (h : entry ∈ ofPairs pairs) : entry ∈ pairs :=
  (mem_of_mem_foldl_insert h).resolve_left List.not_mem_nil

theorem mem_names_insert {entries : List (String × α)} {name other : String} {value : α} :
    other ∈ names (insert entries name value) ↔ other = name ∨ other ∈ names entries := by
  rw [names_insert]
  split
  · next h => exact ⟨.inr, fun hor => hor.elim (fun heq => heq ▸ h) id⟩
  · rw [List.mem_append, List.mem_singleton, or_comm]

theorem mem_names_foldl_insert {pairs entries : List (String × α)} {name : String} :
    name ∈ names (pairs.foldl (fun entries (name, value) => insert entries name value)
      entries) ↔ name ∈ names entries ∨ name ∈ names pairs := by
  induction pairs generalizing entries with
  | nil => simp [names]
  | cons pair rest ih =>
      obtain ⟨key, value⟩ := pair
      rw [List.foldl_cons, ih, mem_names_insert]
      simp only [names, List.map_cons, List.mem_cons, or_assoc, or_left_comm]

/-- Writing pairs leaves every name. -/
theorem mem_names_ofPairs {pairs : List (String × α)} {name : String} :
    name ∈ names (ofPairs pairs) ↔ name ∈ names pairs := by
  have hnil : name ∉ names ([] : List (String × α)) := List.not_mem_nil
  rw [ofPairs, mem_names_foldl_insert, or_iff_right hnil]

theorem mem_erase {entries : List (String × α)} (hnodup : (names entries).Nodup) {name : String}
    {entry : String × α} : entry ∈ erase entries name ↔ entry ∈ entries ∧ entry.1 ≠ name := by
  induction entries with
  | nil => simp [erase]
  | cons first rest ih =>
      obtain ⟨key, value⟩ := first
      obtain ⟨hkey, hrest⟩ := List.nodup_cons.1 hnodup
      by_cases h : key = name
      · subst h
        have hne : entry ∈ rest → entry.1 ≠ key := by
          rintro hmem rfl
          exact hkey (List.mem_map.2 ⟨_, hmem, rfl⟩)
        rw [erase, if_pos rfl, List.mem_cons]
        constructor
        · exact fun h => ⟨.inr h, hne h⟩
        · rintro ⟨rfl | h, hentry⟩
          · exact absurd rfl hentry
          · exact h
      · rw [erase, if_neg h, List.mem_cons, List.mem_cons, ih hrest]
        constructor
        · rintro (rfl | ⟨hmem, hne⟩)
          · exact ⟨.inl rfl, h⟩
          · exact ⟨.inr hmem, hne⟩
        · rintro ⟨rfl | hmem, hne⟩
          · exact .inl rfl
          · exact .inr ⟨hmem, hne⟩

/-- Leaving out does not touch the entries in front of the name. -/
theorem erase_append {front : List (String × α)} {name : String} (h : name ∉ names front)
    (back : List (String × α)) : erase (front ++ back) name = front ++ erase back name := by
  induction front with
  | nil => rfl
  | cons entry rest ih =>
      obtain ⟨key, value⟩ := entry
      obtain ⟨hkey, hrest⟩ : ¬ name = key ∧ name ∉ names rest := by simpa [names] using h
      rw [List.cons_append, erase, if_neg (fun e => hkey e.symm), ih hrest, List.cons_append]

theorem eraseByLast_append {front : List (String × α)} {name : String} (h : name ∉ names front)
    (back : List (String × α)) :
    eraseByLast (front ++ back) name = front ++ eraseByLast back name := by
  induction front with
  | nil => rfl
  | cons entry rest ih =>
      obtain ⟨key, value⟩ := entry
      obtain ⟨hkey, hrest⟩ : ¬ name = key ∧ name ∉ names rest := by simpa [names] using h
      rw [List.cons_append, eraseByLast, if_neg (fun e => hkey e.symm), ih hrest,
        List.cons_append]

theorem erase_cons_self (name : String) (value : α) (back : List (String × α)) :
    erase ((name, value) :: back) name = back := if_pos rfl

/-- The last entry stands where the one was that is left out. -/
theorem eraseByLast_cons_concat (name : String) (value : α) (back : List (String × α))
    (last : String × α) :
    eraseByLast ((name, value) :: (back ++ [last])) name = last :: back := by
  rw [eraseByLast, if_pos rfl, List.getLast?_concat, List.dropLast_concat]

/-- Moving the last entry into the gap only changes the order. -/
theorem eraseByLast_perm (entries : List (String × α)) (name : String) :
    (eraseByLast entries name).Perm (erase entries name) := by
  induction entries with
  | nil => exact .nil
  | cons entry rest ih =>
      obtain ⟨key, value⟩ := entry
      rw [eraseByLast, erase]
      split
      · split
        · next last hlast =>
          obtain ⟨front, rfl⟩ := List.getLast?_eq_some_iff.1 hlast
          rw [List.dropLast_concat]
          exact (List.perm_append_singleton last front).symm
        · next hlast =>
          rw [List.getLast?_eq_none_iff.1 hlast]
      · exact ih.cons _

/-- Writing under a name that a step drops changes nothing for the step. -/
theorem filterMap_insert {g : String × α → Option β} {name : String}
    (h : ∀ value, g (name, value) = none) (entries : List (String × α)) (value : α) :
    (insert entries name value).filterMap g = entries.filterMap g := by
  induction entries with
  | nil => exact List.filterMap_cons_none (h value)
  | cons entry rest ih =>
      obtain ⟨key, old⟩ := entry
      rw [insert]
      split
      · next hkey =>
        rw [hkey, List.filterMap_cons_none (h value), List.filterMap_cons_none (h old)]
      · rw [List.filterMap_cons, List.filterMap_cons, ih]

end Entries

/-- Fields are their entries. -/
theorem Fields.eq_of_entries_eq {α : Type} {fields others : Fields α}
    (h : fields.entries = others.entries) : fields = others := by
  obtain ⟨entries, _⟩ := fields
  obtain ⟨_, _⟩ := others
  cases h
  rfl

end DesiredState
