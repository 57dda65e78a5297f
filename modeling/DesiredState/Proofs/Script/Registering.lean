import DesiredState.Proofs.Script.Pool
import Mathlib.Data.List.Induction
import Mathlib.Data.List.Nodup

/-!
# Registering texts one after another

A new text gets the first name of the source that is not in use.  Names may repeat, so
the search draws again until it meets an unused one.  It ends for every source that
numbers its names once a list of given ones is used up, and over a whole run the draws
are no more than the given names and the different texts together: every name that was
drawn is in use, either because it was taken or because it was passed over.

So a run of registrations gives each text one name.  The pool after any part of the run
knows exactly the texts of that part, by these names and in the order in which they came.

## Main definitions

* `NameSource.Finds` — the search for an unused name, draw by draw.
* `Pool.texts` — the texts that a pool knows.
* `Pool.registerAll` — the pool that a run of registrations leaves.

## Main results

* `NameSource.finds_firstUnused` — the bounded search is the search without a bound.
* `Pool.draw_mem_registerAll` — every name that was drawn is in use.
* `Pool.registerAll_spec` — the names that a run gives.
-/

namespace DesiredState

/-! ## First occurrences -/

section EraseDups

variable {α β : Type} [DecidableEq α] [DecidableEq β]

/-- An element behind others is a first occurrence, if it is not among them. -/
theorem eraseDups_concat (as : List α) (a : α) :
    (as ++ [a]).eraseDups = if a ∈ as then as.eraseDups else as.eraseDups ++ [a] := by
  rw [List.eraseDups_append]
  split
  · next h => simp [List.removeAll, h]
  · next h => simp [List.removeAll, h, List.eraseDups_cons]

theorem eraseDups_map {f : α → β} (hf : Function.Injective f) (as : List α) :
    (as.map f).eraseDups = as.eraseDups.map f := by
  induction as using List.reverseRecOn with
  | nil => rfl
  | append_singleton as a ih =>
      rw [List.map_append, List.map_singleton, eraseDups_concat, eraseDups_concat, ih]
      by_cases h : a ∈ as
      · rw [if_pos h, if_pos (List.mem_map_of_mem h)]
      · have hmap : f a ∉ as.map f := by simpa [hf.eq_iff] using h
        rw [if_neg h, if_neg hmap, List.map_append, List.map_singleton]

end EraseDups

namespace NameSource

/-! ## The search for an unused name -/

/-- A search that starts at a draw stops at the first one that is not in use. -/
inductive Finds (draw : Nat → String) (used : List String) : Nat → Nat → Prop
  | unused {n : Nat} : draw n ∉ used → Finds draw used n n
  | again {n stop : Nat} : draw n ∈ used → Finds draw used (n + 1) stop → Finds draw used n stop

variable {draw : Nat → String} {used : List String} {start stop : Nat}

/-- What is found is not in use, and everything passed over is. -/
theorem Finds.spec (h : Finds draw used start stop) :
    start ≤ stop ∧ draw stop ∉ used ∧ ∀ k, start ≤ k → k < stop → draw k ∈ used := by
  induction h with
  | unused hfresh => exact ⟨Nat.le_refl _, hfresh, fun k hle hlt => by omega⟩
  | again hused _ ih =>
      obtain ⟨hle, hfresh, hpassed⟩ := ih
      refine ⟨by omega, hfresh, fun k hk hlt => ?_⟩
      rcases Nat.eq_or_lt_of_le hk with rfl | hlater
      · exact hused
      · exact hpassed k hlater hlt

/-- A search with enough fuel is a search without any. -/
theorem finds_seek (fuel : Nat) (h : ∃ k, k < fuel ∧ draw (start + k) ∉ used) :
    Finds draw used start (seek draw used fuel start) := by
  induction fuel generalizing start with
  | zero =>
      obtain ⟨k, hk, -⟩ := h
      omega
  | succ fuel ih =>
      obtain ⟨k, hk, hfresh⟩ := h
      unfold seek
      split
      · next hused =>
        refine .again hused (ih ?_)
        cases k with
        | zero => exact absurd hused hfresh
        | succ k => exact ⟨k, by omega, by rwa [Nat.add_assoc, Nat.add_comm 1 k]⟩
      · next hunused => exact .unused hunused

/-- The fuel of a source is enough for every search. -/
theorem finds_firstUnused (source : NameSource) (used : List String) (start : Nat) :
    Finds source.draw used start (source.firstUnused used start) :=
  finds_seek _ (source.exists_unused used start)

/-- Behind the given names the draws are numbered. -/
theorem drawFrom_add (names : List String) (n : Nat) :
    drawFrom names (names.length + n) = numbered (n + 1) := by
  simp [drawFrom]

/-- As long as all names drawn are in use, the draws are no more than the given names and
those in use: behind the given names no draw repeats. -/
theorem le_of_forall_draw_mem {names used : List String} {drawn : Nat}
    (h : ∀ k, k < drawn → drawFrom names k ∈ used) : drawn ≤ names.length + used.length := by
  have hsub : ∀ name ∈ (List.range (drawn - names.length)).map fun n => numbered (n + 1),
      name ∈ used := by
    intro name hname
    obtain ⟨n, hn, rfl⟩ := List.mem_map.1 hname
    have hlt : names.length + n < drawn := by
      have := List.mem_range.1 hn
      omega
    rw [← drawFrom_add names n]
    exact h _ hlt
  have hnodup : ((List.range (drawn - names.length)).map fun n => numbered (n + 1)).Nodup := by
    refine List.Pairwise.map _ (fun a b hab heq => hab ?_) List.nodup_range
    have := numbered_injective heq
    omega
  have hlength := length_le_of_subset hnodup hsub
  rw [List.length_map, List.length_range] at hlength
  omega

end NameSource

namespace Pool

/-! ## One registration -/

/-- The texts that a pool knows, in order of registration. -/
def texts (pool : Pool) : List String := Entries.names pool.entries

theorem lookup?_eq_none_iff {pool : Pool} {text : String} :
    pool.lookup? text = none ↔ text ∉ pool.texts := Entries.get?_eq_none_iff _ _

theorem exists_lookup?_iff {pool : Pool} {text : String} :
    (∃ name, pool.lookup? text = some name) ↔ text ∈ pool.texts := by
  rw [← Option.isSome_iff_exists, ← Option.ne_none_iff_isSome, Ne, lookup?_eq_none_iff,
    Classical.not_not]

theorem register_of_mem {pool : Pool} {text : String} (h : text ∈ pool.texts) :
    (pool.register text).2 = pool := by
  obtain ⟨name, hname⟩ := exists_lookup?_iff.2 h
  rw [register_of_lookup? hname]

theorem register_of_not_mem {pool : Pool} {text : String} (h : text ∉ pool.texts) :
    pool.register text = ((pool.nextName, true), pool.add text) :=
  register_of_none (lookup?_eq_none_iff.2 h)

/-- A known text is not registered once more, and a new one goes to the end. -/
theorem texts_register (pool : Pool) (text : String) :
    (pool.register text).2.texts =
      if text ∈ pool.texts then pool.texts else pool.texts ++ [text] := by
  split
  · next h => rw [register_of_mem h]
  · next h =>
    rw [register_of_not_mem h, texts, entries_add, Entries.names, List.map_append]
    rfl

/-- The answer is the name under which the text is known from then on, and whether the
text is new. -/
theorem register_answer (pool : Pool) (text : String) :
    ∃ name, (pool.register text).2.lookup? text = some name ∧
      (pool.register text).1 = (name, decide (text ∉ pool.texts)) := by
  by_cases h : text ∈ pool.texts
  · obtain ⟨name, hname⟩ := exists_lookup?_iff.2 h
    refine ⟨name, ?_, ?_⟩
    · rw [register_of_mem h, hname]
    · rw [register_of_lookup? hname]
      simp [h]
  · refine ⟨pool.nextName, ?_, ?_⟩
    · rw [register_of_not_mem h]
      exact lookup?_add_self (lookup?_eq_none_iff.2 h)
    · rw [register_of_not_mem h]
      simp [h]

/-- What a known text is called does not change. -/
theorem lookup?_register_of_some {pool : Pool} {other name : String}
    (h : pool.lookup? other = some name) (text : String) :
    (pool.register text).2.lookup? other = some name := by
  by_cases hmem : text ∈ pool.texts
  · rwa [register_of_mem hmem]
  · rw [register_of_not_mem hmem]
    exact lookup?_add_of_some h text

/-- A property of pools that one more text keeps is kept by a registration. -/
theorem register_induct {P : Pool → Prop} {pool : Pool} (h : P pool) (text : String)
    (step : text ∉ pool.texts → P (pool.add text)) : P (pool.register text).2 := by
  by_cases hmem : text ∈ pool.texts
  · rwa [register_of_mem hmem]
  · rw [register_of_not_mem hmem]
    exact step hmem

/-! ## Runs of registrations -/

/-- The pool that registering texts one after another leaves. -/
def registerAll (source : NameSource) (texts : List String) : Pool :=
  texts.foldl (fun pool text => (pool.register text).2) (empty source)

theorem registerAll_concat (source : NameSource) (texts : List String) (text : String) :
    registerAll source (texts ++ [text]) = ((registerAll source texts).register text).2 := by
  rw [registerAll, List.foldl_append]
  rfl

/-- What holds without variables, and is kept by one more text, holds after a run. -/
theorem registerAll_induct {P : Pool → Prop} {source : NameSource} (start : P (empty source))
    (step : ∀ pool text, P pool → text ∉ pool.texts → P (pool.add text)) (texts : List String) :
    P (registerAll source texts) := by
  induction texts using List.reverseRecOn with
  | nil => exact start
  | append_singleton texts text ih =>
      rw [registerAll_concat]
      exact register_induct ih text (step _ text ih)

/-- No variable of a run stands for two texts. -/
theorem distinct_registerAll (source : NameSource) (texts : List String) :
    (registerAll source texts).Distinct :=
  registerAll_induct (distinct_empty source) (fun _ text h _ => h.add text) texts

theorem nodup_texts_registerAll (source : NameSource) (texts : List String) :
    (registerAll source texts).texts.Nodup := by
  refine registerAll_induct (P := fun pool => pool.texts.Nodup) List.nodup_nil ?_ texts
  intro pool text hnodup hnew
  rw [Pool.texts, entries_add, Entries.names, List.map_append]
  refine List.nodup_append.2 ⟨hnodup, by simp, ?_⟩
  rintro known hknown _ hlast rfl
  rw [List.mem_singleton.1 hlast] at hknown
  exact hnew hknown

/-- A run knows the different texts in the order in which they came first. -/
theorem texts_registerAll (source : NameSource) (texts : List String) :
    (registerAll source texts).texts = texts.eraseDups := by
  induction texts using List.reverseRecOn with
  | nil => rfl
  | append_singleton texts text ih =>
      rw [registerAll_concat, texts_register, ih, eraseDups_concat]
      simp only [List.mem_eraseDups]

theorem source_registerAll (source : NameSource) (texts : List String) :
    (registerAll source texts).source = source :=
  registerAll_induct (P := fun pool => pool.source = source) rfl (fun _ _ h _ => h) texts

/-- Every name that was drawn in a run is in use. -/
theorem draw_mem_registerAll (source : NameSource) (texts : List String) {k : Nat}
    (h : k < (registerAll source texts).drawn) :
    source.draw k ∈ (registerAll source texts).variableNames := by
  have hall : ∀ k, k < (registerAll source texts).drawn →
      (registerAll source texts).source.draw k ∈ (registerAll source texts).variableNames := by
    refine registerAll_induct (P := fun pool => ∀ k, k < pool.drawn →
      pool.source.draw k ∈ pool.variableNames) (fun k hk => absurd hk (Nat.not_lt_zero k)) ?_ texts
    intro pool text hdrawn _ k hk
    obtain ⟨-, -, hpassed⟩ :=
      (NameSource.finds_firstUnused pool.source pool.variableNames pool.drawn).spec
    have hlt : k < pool.source.firstUnused pool.variableNames pool.drawn + 1 := hk
    rw [variableNames_add, List.mem_append, List.mem_singleton]
    rcases Nat.lt_or_ge k pool.drawn with hearlier | hlater
    · exact .inl (hdrawn k hearlier)
    · rcases Nat.eq_or_lt_of_le (Nat.lt_succ_iff.1 hlt) with rfl | hbefore
      · exact .inr rfl
      · exact .inl (hpassed k hlater hbefore)
  rw [source_registerAll] at hall
  exact hall k h

/-- What a part of a run calls a text, the whole run does. -/
theorem lookup?_registerAll_append {source : NameSource} {front : List String} {text name : String}
    (h : (registerAll source front).lookup? text = some name) (back : List String) :
    (registerAll source (front ++ back)).lookup? text = some name := by
  induction back using List.reverseRecOn with
  | nil => rwa [List.append_nil]
  | append_singleton back last ih =>
      rw [← List.append_assoc, registerAll_concat]
      exact lookup?_register_of_some ih last

/-- The variable that a run gives to a text. -/
def nameIn (source : NameSource) (texts : List String) (text : String) : String :=
  ((registerAll source texts).lookup? text).getD ""

/-- A part of a run knows its texts, by the names that the run gives them. -/
theorem lookup?_registerAll_iff {source : NameSource} {front back : List String}
    {text name : String} :
    (registerAll source front).lookup? text = some name ↔
      text ∈ front ∧ nameIn source (front ++ back) text = name := by
  have hmem : text ∈ (registerAll source front).texts ↔ text ∈ front := by
    rw [texts_registerAll, List.mem_eraseDups]
  have hname : ∀ name, (registerAll source front).lookup? text = some name →
      nameIn source (front ++ back) text = name := by
    intro name h
    rw [nameIn, lookup?_registerAll_append h, Option.getD_some]
  constructor
  · exact fun h => ⟨hmem.1 (exists_lookup?_iff.1 ⟨name, h⟩), hname name h⟩
  · rintro ⟨htext, rfl⟩
    obtain ⟨name, h⟩ := exists_lookup?_iff.2 (hmem.2 htext)
    rw [h, hname name h]

/-- The variables of a part of a run are the names of its different texts. -/
theorem variableNames_registerAll (source : NameSource) (front back : List String) :
    (registerAll source front).variableNames =
      front.eraseDups.map (nameIn source (front ++ back)) := by
  rw [← texts_registerAll source front, variableNames, texts, Entries.values, Entries.names,
    List.map_map]
  refine List.map_congr_left fun entry hentry => ?_
  have hknown : (registerAll source front).lookup? entry.1 = some entry.2 :=
    Entries.get?_of_mem (nodup_texts_registerAll source front) hentry
  exact (lookup?_registerAll_iff.1 hknown).2.symm

/-- Different texts of a run get different names. -/
theorem nameIn_injective {source : NameSource} {texts : List String} {a b : String}
    (ha : a ∈ texts) (hb : b ∈ texts) (h : nameIn source texts a = nameIn source texts b) :
    a = b := by
  have hnodup := distinct_registerAll source texts
  have hnames := variableNames_registerAll source texts []
  rw [List.append_nil] at hnames
  rw [Distinct, hnames] at hnodup
  exact List.inj_on_of_nodup_map hnodup (List.mem_eraseDups.2 ha) (List.mem_eraseDups.2 hb) h

/-- A text that is registered in a run is answered with its name, and with whether it is
the first of its kind. -/
theorem register_registerAll (source : NameSource) (front : List String) (text : String)
    (back : List String) :
    ((registerAll source front).register text).1 =
      (nameIn source (front ++ text :: back) text, decide (text ∉ front)) := by
  obtain ⟨name, hname, hanswer⟩ := register_answer (registerAll source front) text
  rw [← registerAll_concat] at hname
  have hlater := lookup?_registerAll_append hname back
  rw [List.append_assoc, List.singleton_append] at hlater
  rw [hanswer, nameIn, hlater, Option.getD_some]
  simp only [texts_registerAll, List.mem_eraseDups]

/-- A new text takes the name at which the search for an unused one stops. -/
theorem finds_registerAll (source : NameSource) {front : List String} {text : String}
    (h : text ∉ front) (back : List String) :
    ∃ stop, NameSource.Finds source.draw (registerAll source front).variableNames
        (registerAll source front).drawn stop ∧
      source.draw stop = nameIn source (front ++ text :: back) text ∧
      (registerAll source (front ++ [text])).drawn = stop + 1 := by
  have hnew : text ∉ (registerAll source front).texts := by
    rwa [texts_registerAll, List.mem_eraseDups]
  have hanswer := register_registerAll source front text back
  rw [register_of_not_mem hnew] at hanswer
  refine ⟨source.firstUnused (registerAll source front).variableNames
    (registerAll source front).drawn, NameSource.finds_firstUnused source _ _, ?_, ?_⟩
  · rw [← (Prod.mk.inj hanswer).1, nextName, source_registerAll]
  · rw [registerAll_concat, register_of_not_mem hnew, add, source_registerAll]

/-- A run of registrations over a source that gives some names, whatever they are, and
numbered ones after them.  Each text has one name in the whole run, and no two texts have
the same.  A registration is answered with the name, and with whether the text is new; for
a new text the search for its name stops, and for a known one there is no search.  After
each part of the run the pool knows the texts of that part, in order, and the names drawn
until then are no more than the given names and these texts. -/
theorem registerAll_spec (names texts : List String) :
    ∃ nameOf : String → String,
      (∀ a ∈ texts, ∀ b ∈ texts, nameOf a = nameOf b → a = b) ∧
      (∀ front text back, texts = front ++ text :: back →
        ((registerAll (.ofList names) front).register text).1 =
          (nameOf text, decide (text ∉ front)) ∧
        (text ∈ front →
          ((registerAll (.ofList names) front).register text).2 =
            registerAll (.ofList names) front) ∧
        (text ∉ front → ∃ stop,
          NameSource.Finds (NameSource.drawFrom names)
            (registerAll (.ofList names) front).variableNames
            (registerAll (.ofList names) front).drawn stop ∧
          NameSource.drawFrom names stop = nameOf text ∧
          (registerAll (.ofList names) (front ++ [text])).drawn = stop + 1)) ∧
      ∀ front back, texts = front ++ back →
        (∀ text name, (registerAll (.ofList names) front).lookup? text = some name ↔
          text ∈ front ∧ nameOf text = name) ∧
        (registerAll (.ofList names) front).variableNames = front.eraseDups.map nameOf ∧
        (registerAll (.ofList names) front).entries.length = front.eraseDups.length ∧
        (registerAll (.ofList names) front).drawn ≤ names.length + front.eraseDups.length := by
  refine ⟨nameIn (.ofList names) texts, fun a ha b hb h => nameIn_injective ha hb h, ?_, ?_⟩
  · rintro front text back rfl
    refine ⟨register_registerAll _ front text back, fun h => register_of_mem ?_,
      fun h => finds_registerAll (.ofList names) h back⟩
    rwa [texts_registerAll, List.mem_eraseDups]
  · rintro front back rfl
    have hvariables := variableNames_registerAll (.ofList names) front back
    have hlength : (registerAll (.ofList names) front).variableNames.length =
        front.eraseDups.length := by
      rw [hvariables, List.length_map]
    refine ⟨fun text name => lookup?_registerAll_iff, hvariables, ?_, ?_⟩
    · rw [← hlength, variableNames, Entries.values, List.length_map]
    · rw [← hlength]
      exact NameSource.le_of_forall_draw_mem fun k hk => draw_mem_registerAll _ front hk

end Pool

end DesiredState
