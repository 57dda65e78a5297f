import DesiredState.Proofs.Answer.Reports
import DesiredState.Proofs.Script.Registering

/-!
# The place of the failure

An answer to a query tells in one of its members that nothing failed.  This member is taken
out, and the last member moves into its place, so where it stands can show in the report.

A report has its properties in the order in which the members name them first, and each has
the value that the members give last.  So the order of the members shows in two ways: a
member that moves can become the first one of its name or stop being so, and the value that
counts can be another one, as keys that differ only in letter case fall together.

The member does not matter if it is the last one or the one before.  For two places further
in front, the reports are the same exactly if the last member can be exchanged with those
between the places.

## Main definitions

* `Entries.Exchangeable` — whether a pair may be written before or behind others.
* `Report.declaredPairs` — the members that a schema declares, under its names.

## Main results

* `eraseDups_move_iff` — which moves keep the order of first occurrences.
* `Entries.names_ofPairs` — names are in the order in which they are written first.
* `Entries.ofPairs_move_iff` — pairs that are exchangeable, and no others, can be moved.
* `Report.ofMembers_move_iff` — which moves of a member do not show in a report.
* `Provider.query_by_place` — what the place of the failure changes.
-/

namespace DesiredState

/-! ## First occurrences -/

/-- An element can be moved behind others, without a change in the order of first occurrences,
exactly if it occurs further in front, or the first of the others that is new is the same. -/
theorem eraseDups_move_iff {β : Type} [DecidableEq β] {a : β} {front middle back : List β} :
    (front ++ a :: (middle ++ back)).eraseDups = (front ++ (middle ++ a :: back)).eraseDups ↔
      a ∈ front ∨ ∀ b, middle.find? (· ∉ front) = some b → b = a := by
  rw [List.eraseDups_append, List.eraseDups_append, List.append_cancel_left_eq]
  by_cases ha : a ∈ front
  · simp [List.removeAll, ha]
  rw [or_iff_right ha, ← List.head?_filter]
  have hnew : ∀ xs : List β, xs.removeAll front = xs.filter (· ∉ front) := by
    intro xs
    simp [List.removeAll]
  rw [hnew, hnew, List.filter_cons_of_pos (by simpa using ha), List.filter_append,
    List.filter_append, List.filter_cons_of_pos (by simpa using ha)]
  generalize middle.filter (· ∉ front) = new
  cases new with
  | nil => simp
  | cons b rest =>
      constructor
      · intro h c hc
        obtain rfl := Option.some.inj hc
        rw [List.eraseDups_cons, List.cons_append, List.cons_append, List.eraseDups_cons] at h
        exact (List.cons.inj h).1.symm
      · intro h
        obtain rfl := h b rfl
        simp [List.eraseDups_cons, List.filter_append]

/-! ## Written pairs -/

namespace Entries

variable {α : Type}

theorem ofPairs_concat (pairs : List (String × α)) (pair : String × α) :
    ofPairs (pairs ++ [pair]) = insert (ofPairs pairs) pair.1 pair.2 := by
  rw [ofPairs, List.foldl_append]
  rfl

/-- Names are in the order in which they are written first. -/
theorem names_ofPairs (pairs : List (String × α)) :
    names (ofPairs pairs) = (names pairs).eraseDups := by
  induction pairs using List.reverseRecOn with
  | nil => rfl
  | append_singleton pairs pair ih =>
      have hnames : names (pairs ++ [pair]) = names pairs ++ [pair.1] := List.map_append
      rw [ofPairs_concat, names_insert, hnames, eraseDups_concat, ih]
      simp only [List.mem_eraseDups]

/-- Entries with the same names in the same order, and the same values, are the same. -/
theorem eq_of_get?_eq {entries others : List (String × α)} (hnodup : (names entries).Nodup)
    (hnames : names entries = names others)
    (hget : ∀ name, get? entries name = get? others name) : entries = others := by
  induction entries generalizing others with
  | nil => exact (List.map_eq_nil_iff.1 hnames.symm).symm
  | cons entry rest ih =>
      obtain ⟨name, value⟩ := entry
      cases others with
      | nil => cases hnames
      | cons other others =>
          obtain ⟨key, v⟩ := other
          obtain ⟨rfl, hrest⟩ := List.cons.inj hnames
          obtain ⟨hfresh, hnodup⟩ := List.nodup_cons.1 hnodup
          have hvalue : value = v := by simpa [get?] using hget name
          have hothers : rest = others := by
            refine ih hnodup hrest fun key => ?_
            by_cases hkey : name = key
            · subst hkey
              have hfresh' : name ∉ names others := fun hmem => hfresh (hrest ▸ hmem)
              rw [(get?_eq_none_iff rest name).2 hfresh, (get?_eq_none_iff others name).2 hfresh']
            · simpa [get?, hkey] using hget key
          rw [hvalue, hothers]

/-- Pairs are written to the same effect if they have the same names in order of first
occurrence, and the same last values. -/
theorem ofPairs_eq_iff {pairs others : List (String × α)} :
    ofPairs pairs = ofPairs others ↔ (names pairs).eraseDups = (names others).eraseDups ∧
      ∀ name, get? pairs.reverse name = get? others.reverse name := by
  constructor
  · intro h
    constructor
    · rw [← names_ofPairs, ← names_ofPairs, h]
    · intro name
      rw [← get?_ofPairs, ← get?_ofPairs, h]
  · rintro ⟨hnames, hget⟩
    refine eq_of_get?_eq (nodup_ofPairs pairs) ?_ fun name => ?_
    · rw [names_ofPairs, names_ofPairs, hnames]
    · rw [get?_ofPairs, get?_ofPairs, hget]

/-- Whether a pair may be written before or behind others, with further pairs in front of
them and behind. -/
structure Exchangeable (front middle back : List (String × α)) (pair : String × α) : Prop where
  /-- The others do not write a new name before that of the pair, unless that is in use. -/
  order : pair.1 ∈ names front ∨
    ∀ name, (names middle).find? (· ∉ names front) = some name → name = pair.1
  /-- The others write no other value under the name that counts. -/
  value : pair.1 ∈ names back ∨ ∀ v, get? middle.reverse pair.1 = some v → v = pair.2

/-- The values that count stay when a pair moves to the back, unless it takes the place of
another value. -/
theorem get?_move_iff {front middle back : List (String × α)} {pair : String × α} :
    (∀ name, get? (front ++ pair :: (middle ++ back)).reverse name =
        get? (front ++ (middle ++ pair :: back)).reverse name) ↔
      pair.1 ∈ names back ∨ ∀ v, get? middle.reverse pair.1 = some v → v = pair.2 := by
  obtain ⟨key, value⟩ := pair
  have hself : get? [(key, value)] key = some value := if_pos rfl
  have hother : ∀ name, key ≠ name → get? [(key, value)] name = none := fun name h => if_neg h
  have hback : get? back.reverse key = none ↔ key ∉ names back := by
    rw [get?_eq_none_iff, names, List.map_reverse, List.mem_reverse]
    rfl
  simp only [List.reverse_append, List.reverse_cons, get?_append]
  constructor
  · intro h
    by_cases hmem : key ∈ names back
    · exact .inl hmem
    refine .inr fun v hv => ?_
    have hkey := h key
    rw [hself, hback.2 hmem, hv] at hkey
    simpa using hkey
  · intro h name
    by_cases hname : key = name
    · subst hname
      rw [hself]
      cases hlast : get? back.reverse key with
      | some v => rfl
      | none =>
          have hmiddle := h.resolve_left (hback.1 hlast)
          cases hv : get? middle.reverse key with
          | none => rfl
          | some v => rw [hmiddle v hv]
    · rw [hother name hname, Option.or_none, Option.or_none]

/-- A pair can be moved behind others exactly if it is exchangeable with them. -/
theorem ofPairs_move_iff {front middle back : List (String × α)} {pair : String × α} :
    ofPairs (front ++ pair :: (middle ++ back)) = ofPairs (front ++ (middle ++ pair :: back)) ↔
      Exchangeable front middle back pair := by
  have hnames : ∀ xs ys : List (String × α), names (xs ++ ys) = names xs ++ names ys :=
    fun xs ys => List.map_append
  have hcons : ∀ xs : List (String × α), names (pair :: xs) = pair.1 :: names xs :=
    fun xs => rfl
  rw [ofPairs_eq_iff, get?_move_iff, hnames, hnames, hcons, hnames, hnames, hcons,
    eraseDups_move_iff]
  exact ⟨fun h => ⟨h.1, h.2⟩, fun h => ⟨h.order, h.value⟩⟩

/-- What is left of entries without one of them: the last one stands in its place. -/
theorem eraseByLast_middle {front back : List (String × α)} {name : String} {value : α}
    (hnodup : (names (front ++ (name, value) :: back)).Nodup) :
    eraseByLast (front ++ (name, value) :: back) name =
      front ++ (back.getLast?.toList ++ back.dropLast) := by
  have hfront : name ∉ names front := by
    rw [names, List.map_append, List.nodup_append] at hnodup
    exact fun hmem => hnodup.2.2 name hmem name List.mem_cons_self rfl
  rw [eraseByLast_append hfront]
  cases back using List.reverseRecOn with
  | nil => simp [eraseByLast]
  | append_singleton back last =>
      rw [eraseByLast_cons_concat, List.getLast?_concat, List.dropLast_concat]
      rfl

end Entries

/-! ## Members of an answer -/

namespace Report

variable {schema : Schema} {identity : Properties}

/-- The members that a schema declares, under its names and in their order. -/
def declaredPairs (schema : Schema) (members : List (String × Json)) : List (String × Json) :=
  (members.map fun (key, value) => (reportPrefix ++ lowercase key, value)).filter
    fun (name, _) => (schema.attributes.get? name).isSome

theorem declaredPairs_append (members others : List (String × Json)) :
    declaredPairs schema (members ++ others) =
      declaredPairs schema members ++ declaredPairs schema others := by
  rw [declaredPairs, List.map_append, List.filter_append]
  rfl

theorem declaredPairs_cons (member : String × Json) (others : List (String × Json)) :
    declaredPairs schema (member :: others) =
      if (schema.attributes.get? (nameOf member.1)).isSome then
        (nameOf member.1, member.2) :: declaredPairs schema others
      else declaredPairs schema others := by
  rw [declaredPairs, List.map_cons, List.filter_cons]
  rfl

/-- Members are reported in the order in which they are written first, and the last value
counts. -/
theorem ofMembers_properties (members : List (String × Json)) :
    (ofMembers schema identity members).properties.names =
        (Entries.names (declaredPairs schema members)).eraseDups ∧
      ∀ name, (ofMembers schema identity members).properties.get? name =
        Entries.get? (declaredPairs schema members).reverse name :=
  ⟨Entries.names_ofPairs _, Entries.get?_ofPairs _⟩

/-- The text that a report gives for a property. -/
def text? (name : String) (report : Report) : Option String :=
  (report.properties.get? name).bind Json.text?

/-- Reports on the same resource only differ in their properties. -/
theorem ofMembers_eq_iff {members others : List (String × Json)} :
    ofMembers schema identity members = ofMembers schema identity others ↔
      Entries.ofPairs (declaredPairs schema members) =
        Entries.ofPairs (declaredPairs schema others) := by
  constructor
  · intro h
    have hproperties := congrArg (fun report => report.properties.entries) h
    exact hproperties
  · intro h
    have hfields : declaredMembers schema members = declaredMembers schema others :=
      Fields.eq_of_entries_eq h
    rw [ofMembers, ofMembers, hfields]

/-- A member that the schema does not declare can be moved, and another one if it is
exchangeable with the declared ones. -/
theorem ofMembers_move_iff {front middle back : List (String × Json)} {member : String × Json} :
    ofMembers schema identity (front ++ member :: (middle ++ back)) =
        ofMembers schema identity (front ++ (middle ++ member :: back)) ↔
      ((schema.attributes.get? (nameOf member.1)).isSome →
        Entries.Exchangeable (declaredPairs schema front) (declaredPairs schema middle)
          (declaredPairs schema back) (nameOf member.1, member.2)) := by
  rw [ofMembers_eq_iff, declaredPairs_append, declaredPairs_append, declaredPairs_append,
    declaredPairs_cons, declaredPairs_cons, declaredPairs_append]
  by_cases hdeclared : (schema.attributes.get? (nameOf member.1)).isSome
  · rw [if_pos hdeclared, if_pos hdeclared, Entries.ofPairs_move_iff]
    exact ⟨fun h _ => h, fun h => h hdeclared⟩
  · rw [if_neg hdeclared, if_neg hdeclared]
    exact iff_of_true rfl fun h => absurd h hdeclared

end Report

/-! ## The failure among the members -/

namespace Provider

section Places

variable {m : Type → Type} (p : Provider m) (identity : Properties)
variable {front middle back : List (String × Json)} {o : Output}

/-- The member that says that nothing failed. -/
def quiet : String × Json := (failureKey, .string "")

/-- A report without the failure is one of the members in their order. -/
theorem reportOn_without_failure {members : List (String × Json)} (h : o.Shows members)
    (hnone : failureKey ∉ Entries.names members) :
    p.reportOn identity o = .ok (.ofMembers p.schema identity members) := by
  have hget : Entries.get? members failureKey = none := (Entries.get?_eq_none_iff _ _).2 hnone
  rw [p.reportOn_of_members identity h fun t ht => by rw [hget] at ht; cases ht]
  have herase : Entries.eraseByLast members failureKey = members := by
    have happend := Entries.eraseByLast_append hnone []
    rwa [List.append_nil, Entries.eraseByLast, List.append_nil] at happend
  rw [herase]

/-- The last member stands in the place of the failure. -/
theorem reportOn_of_quiet (h : o.Shows (front ++ quiet :: back)) :
    p.reportOn identity o = .ok (.ofMembers p.schema identity
      (front ++ (back.getLast?.toList ++ back.dropLast))) := by
  have hget : Entries.get? (front ++ quiet :: back) failureKey = some (.string "") :=
    Entries.get?_of_mem h.nodup (List.mem_append_right _ List.mem_cons_self)
  have hquiet : ∀ t, Entries.get? (front ++ quiet :: back) failureKey = some (.string t) →
      t = "" := by
    intro t ht
    rw [hget] at ht
    exact (Json.string.inj (Option.some.inj ht)).symm
  rw [p.reportOn_of_members identity h hquiet, quiet, Entries.eraseByLast_middle h.nodup]

/-- The report is as if the last member stood in the place of the failure. -/
theorem reportOn_quiet_eq_moved {o' : Output} (h : o.Shows (front ++ quiet :: back))
    (hmoved : o'.Shows (front ++ (back.getLast?.toList ++ back.dropLast))) :
    p.reportOn identity o = p.reportOn identity o' := by
  have hnone : failureKey ∉ Entries.names (front ++ (back.getLast?.toList ++ back.dropLast)) := by
    have hnodup : (Entries.names (front ++ (failureKey, .string "") :: back)).Nodup := h.nodup
    rw [← Entries.eraseByLast_middle hnodup]
    intro hmem
    obtain ⟨member, hmember, hkey⟩ := List.mem_map.1 hmem
    rw [(Entries.eraseByLast_perm _ _).mem_iff, Entries.mem_erase hnodup] at hmember
    exact hmember.2 hkey
  rw [p.reportOn_of_quiet identity h, p.reportOn_without_failure identity hmoved hnone]

/-- Reports for two places of the failure, in front of the last member or further in front. -/
theorem reportOn_eq_iff_exchangeable {o' : Output} {last : String × Json}
    (h : o.Shows (front ++ quiet :: (middle ++ (back ++ [last]))))
    (h' : o'.Shows (front ++ (middle ++ quiet :: (back ++ [last])))) :
    p.reportOn identity o = p.reportOn identity o' ↔
      ((p.schema.attributes.get? (Report.nameOf last.1)).isSome →
        Entries.Exchangeable (Report.declaredPairs p.schema front)
          (Report.declaredPairs p.schema middle) (Report.declaredPairs p.schema back)
          (Report.nameOf last.1, last.2)) := by
  rw [← List.append_assoc middle] at h
  rw [← List.append_assoc front] at h'
  rw [p.reportOn_of_quiet identity h, p.reportOn_of_quiet identity h', Except.ok.injEq,
    List.getLast?_concat, List.dropLast_concat, List.getLast?_concat, List.dropLast_concat,
    List.append_assoc front, Option.toList_some, List.singleton_append, List.singleton_append,
    Report.ofMembers_move_iff]

variable [Monad m] [LawfulMonad m]

/-- What the place of the failure changes, if it says that nothing failed.  Without it, a
query reports the declared members in the order in which they are written first, and with
the values that are written last.  With it the report is as if the last member stood in its
place, which is the same report if it stands at the end or in front of the last member.  Two
places give the same report exactly if the schema does not declare the last member, or the
last member can be exchanged with those between the places. -/
theorem query_by_place :
    (∀ identity script, p.scriptOf .get (p.identifying identity) = .ok script →
      p.query identity = (do
        let o ← p.interpreter script
        ExceptT.mk (pure (p.reportOn identity o)))) ∧
    ∀ identity,
      (∀ o members, o.Shows members → failureKey ∉ Entries.names members →
        ∃ report, p.reportOn identity o = .ok report ∧
          report.properties.names =
            (Entries.names (Report.declaredPairs p.schema members)).eraseDups ∧
          ∀ name, report.properties.get? name =
            Entries.get? (Report.declaredPairs p.schema members).reverse name) ∧
      (∀ o o' front back, o.Shows (front ++ quiet :: back) →
        o'.Shows (front ++ (back.getLast?.toList ++ back.dropLast)) →
          p.reportOn identity o = p.reportOn identity o') ∧
      (∀ o o' front back, o.Shows (front ++ quiet :: back) → o'.Shows (front ++ back) →
        back.length ≤ 1 → p.reportOn identity o = p.reportOn identity o') ∧
      ∀ o o' front middle back last,
        o.Shows (front ++ quiet :: (middle ++ (back ++ [last]))) →
        o'.Shows (front ++ (middle ++ quiet :: (back ++ [last]))) →
          (p.reportOn identity o = p.reportOn identity o' ↔
            ((p.schema.attributes.get? (Report.nameOf last.1)).isSome →
              Entries.Exchangeable (Report.declaredPairs p.schema front)
                (Report.declaredPairs p.schema middle) (Report.declaredPairs p.schema back)
                (Report.nameOf last.1, last.2))) := by
  refine ⟨fun identity script h => p.query_of_script h, fun identity => ⟨?_, ?_, ?_, ?_⟩⟩
  · intro o members h hnone
    exact ⟨_, p.reportOn_without_failure identity h hnone, Report.ofMembers_properties members⟩
  · intro o o' front back h hmoved
    exact p.reportOn_quiet_eq_moved identity h hmoved
  · intro o o' front back h hleft hback
    -- there is nothing to move
    have hmoved : back.getLast?.toList ++ back.dropLast = back := by
      match back, hback with
      | [], _ => rfl
      | [last], _ => rfl
    rw [← hmoved] at hleft
    exact p.reportOn_quiet_eq_moved identity h hleft
  · intro o o' front middle back last h h'
    exact p.reportOn_eq_iff_exchangeable identity h h'

end Places

/-- In front of the last member the failure does not show in the report on the sample; at the
start it changes the order. -/
theorem query_by_place_site :
    (sample "").reportOn sampleIdentity
        ⟨0, "\x7b\"Name\":\"web\",\"errormessage\":\"\",\"State\":\"Started\"\x7d", ""⟩ =
      (sample "").reportOn sampleIdentity
        ⟨0, "\x7b\"Name\":\"web\",\"State\":\"Started\"\x7d", ""⟩ ∧
    (sample "").reportOn sampleIdentity
        ⟨0, "\x7b\"errormessage\":\"\",\"Name\":\"web\",\"State\":\"Started\"\x7d", ""⟩ ≠
      (sample "").reportOn sampleIdentity
        ⟨0, "\x7b\"Name\":\"web\",\"errormessage\":\"\",\"State\":\"Started\"\x7d", ""⟩ := by
  obtain ⟨-, hplaces⟩ := query_by_place (sample "")
  obtain ⟨-, -, hend, hiff⟩ := hplaces sampleIdentity
  have hfirst : Output.Shows
      ⟨0, "\x7b\"errormessage\":\"\",\"Name\":\"web\",\"State\":\"Started\"\x7d", ""⟩
        [quiet, ("Name", .string "web"), ("State", .string "Started")] :=
    Output.shows_of_texts [("errormessage", ""), ("Name", "web"), ("State", "Started")]
      (by decide +kernel)
  have hmiddle : Output.Shows
      ⟨0, "\x7b\"Name\":\"web\",\"errormessage\":\"\",\"State\":\"Started\"\x7d", ""⟩
        [("Name", .string "web"), quiet, ("State", .string "Started")] :=
    Output.shows_of_texts [("Name", "web"), ("errormessage", ""), ("State", "Started")]
      (by decide +kernel)
  have hleft : Output.Shows ⟨0, "\x7b\"Name\":\"web\",\"State\":\"Started\"\x7d", ""⟩
      [("Name", .string "web"), ("State", .string "Started")] :=
    Output.shows_of_texts [("Name", "web"), ("State", "Started")] (by decide +kernel)
  refine ⟨hend _ _ [("Name", .string "web")] [("State", .string "Started")] hmiddle hleft
    (Nat.le_refl 1), fun hsame => ?_⟩
  have hdeclared :
      ((sample "").schema.attributes.get? (Report.nameOf "State")).isSome = true := by
    decide +kernel
  have hnew : (Entries.names (Report.declaredPairs (sample "").schema
      [("Name", .string "web")])).find? (· ∉ []) = some "dsc_name" := by decide +kernel
  obtain ⟨horder, -⟩ := (hiff _ _ [] [("Name", .string "web")] [] ("State", .string "Started")
    hfirst hmiddle).1 hsame hdeclared
  have hname := horder.resolve_left List.not_mem_nil _ hnew
  exact absurd hname (by decide +kernel)

/-- Where the failure stands can change the value of a property, if keys fall together in
lower case. -/
theorem not_forall_reportOn_quiet :
    ¬ ∀ (o o' : Output) (front back : List (String × Json)),
      o.Shows (front ++ quiet :: back) → o'.Shows (front ++ back) →
        (sample "").reportOn sampleIdentity o = (sample "").reportOn sampleIdentity o' := by
  intro h
  have hwith : Output.Shows
      ⟨0, "\x7b\"errormessage\":\"\",\"State\":\"Started\",\"state\":\"Stopped\"\x7d", ""⟩
        [quiet, ("State", .string "Started"), ("state", .string "Stopped")] :=
    Output.shows_of_texts [("errormessage", ""), ("State", "Started"), ("state", "Stopped")]
      (by decide +kernel)
  have hwithout : Output.Shows
      ⟨0, "\x7b\"State\":\"Started\",\"state\":\"Stopped\"\x7d", ""⟩
        [("State", .string "Started"), ("state", .string "Stopped")] :=
    Output.shows_of_texts [("State", "Started"), ("state", "Stopped")] (by decide +kernel)
  have hsame := congrArg (Except.map (Report.text? "dsc_state")) (h _ _ [] _ hwith hwithout)
  have hstarted : ((sample "").reportOn sampleIdentity
      ⟨0, "\x7b\"errormessage\":\"\",\"State\":\"Started\",\"state\":\"Stopped\"\x7d", ""⟩).map
        (Report.text? "dsc_state") = .ok (some "Started") := by decide +kernel
  have hstopped : ((sample "").reportOn sampleIdentity
      ⟨0, "\x7b\"State\":\"Started\",\"state\":\"Stopped\"\x7d", ""⟩).map
        (Report.text? "dsc_state") = .ok (some "Stopped") := by decide +kernel
  rw [hstarted, hstopped] at hsame
  exact absurd hsame (by decide)

end Provider

end DesiredState
