import DesiredState.Proofs.Redaction.Pieces
import DesiredState.Proofs.Script.Order

/-!
# Where the pieces of a script come from

Every piece of a script is a string of the invocation, a fixed word, or the name of a
variable.  So a property of strings that the fixed words have holds of all texts in a
script, if it holds of all strings of the invocation.

The converse is true as well: no string of the invocation gets lost.  A credential or
an instance is written by a reference only where the pool knows its text; the pool
knows what statements further up have built, and a text shows the strings in it.

Only the strings that enter the script matter: of a credential its user and its
password, of embedded values the instances that they are taken for, and of every other
value all its texts and keys.

## Main definitions

* `Value.strings`, `Parameter.strings`, `Invocation.strings` — the strings that enter a
  script.
* `Piece.Holds` — a property of the texts of pieces, and one of their names.
* `FixedWords` — the fixed words of scripts have both.

## Main results

* `Value.holds_pieces`, `Composite.holds_statement`, `Invocation.holds_block` — pieces
  have the property, if all strings do.
* `Pool.Knows.strings_of_replace`, `Pool.strings_of_declareAll`,
  `Invocation.strings_of_block` — and strings have it, if all pieces do.
-/

namespace DesiredState

/-! ## Strings of an invocation -/

namespace Value

mutual

/-- The texts, secrets, keys and class names in a value. -/
def strings : Value → List String
  | string s => [s]
  | secret s => [s]
  | array items => itemStrings items
  | map entries => entryStrings entries
  | instanceOf className properties => className :: entryStrings properties
  | _ => []

/-- The strings in the items of an array. -/
def itemStrings : List Value → List String
  | [] => []
  | item :: rest => strings item ++ itemStrings rest

/-- The strings in the entries of a map. -/
def entryStrings : List (String × Value) → List String
  | [] => []
  | (key, value) :: rest => key :: (strings value ++ entryStrings rest)

end

theorem itemStrings_eq (items : List Value) : itemStrings items = items.flatMap strings := by
  induction items with
  | nil => rfl
  | cons item rest ih => rw [itemStrings, ih, List.flatMap_cons]

theorem entryStrings_eq (entries : List (String × Value)) :
    entryStrings entries = entries.flatMap fun entry => entry.1 :: entry.2.strings := by
  induction entries with
  | nil => rfl
  | cons entry rest ih => rw [entryStrings, ih, List.flatMap_cons]; rfl

theorem mem_strings_of_child {v child : Value} (hchild : child ∈ v.children) {s : String}
    (hs : s ∈ child.strings) : s ∈ v.strings := by
  have hentries : ∀ entries : List (String × Value), child ∈ Entries.values entries →
      s ∈ entryStrings entries := by
    intro entries hmem
    obtain ⟨entry, hentry, rfl⟩ := List.mem_map.1 hmem
    rw [entryStrings_eq]
    exact List.mem_flatMap.2 ⟨entry, hentry, List.mem_cons_of_mem _ hs⟩
  cases v with
  | array items =>
      rw [strings, itemStrings_eq]
      exact List.mem_flatMap.2 ⟨child, hchild, hs⟩
  | map entries => exact hentries entries hchild
  | instanceOf className properties => exact List.mem_cons_of_mem _ (hentries properties hchild)
  | _ => cases hchild

/-- The strings of an instance in a value are strings of the value. -/
theorem strings_instance {v : Value} :
    ∀ i ∈ v.instances, ∀ s ∈ i.toValue.strings, s ∈ v.strings := by
  induction v using induct_children with
  | step v ih =>
      intro i hi s hs
      rcases mem_instances_iff.1 hi with rfl | ⟨child, hchild, hi⟩
      · exact hs
      · exact mem_strings_of_child hchild (ih child hchild i hi s hs)

end Value

namespace Parameter

/-- The strings of the credential that a parameter gives. -/
def credentialStrings (property : String) (p : Parameter) : List String :=
  match Credential.ofValue property p.value with
  | .ok c => [c.user, c.password]
  | .error _ => []

/-- The strings of the instances that a parameter embeds. -/
def instanceStrings (p : Parameter) : List String :=
  match p.instances with
  | .ok own => own.flatMap fun i => i.toValue.strings
  | .error _ => []

/-- The strings of a parameter that enter the script. -/
def strings (property : String) (p : Parameter) : List String :=
  (if p.needsCredential then p.credentialStrings property else []) ++
    (if p.needsInstances then p.instanceStrings else []) ++
      (if p.isShared then [] else p.value.strings)

variable {property : String} {p : Parameter} {s : String}

theorem mem_strings_of_credential {c : Credential} (hneeds : p.needsCredential = true)
    (hc : Credential.ofValue property p.value = .ok c) (h : s ∈ [c.user, c.password]) :
    s ∈ p.strings property := by
  rw [strings, if_pos hneeds, credentialStrings, hc]
  exact List.mem_append_left _ (List.mem_append_left _ h)

theorem mem_strings_of_instance {own : List Instance} {i : Instance}
    (hneeds : p.needsInstances = true) (hown : p.instances = .ok own) (hi : i ∈ own)
    (h : s ∈ i.toValue.strings) : s ∈ p.strings property := by
  rw [strings, if_pos hneeds, instanceStrings, hown]
  exact List.mem_append_left _ (List.mem_append_right _ (List.mem_flatMap.2 ⟨i, hi, h⟩))

theorem mem_strings_of_value (hshared : p.isShared = false) (h : s ∈ p.value.strings) :
    s ∈ p.strings property := by
  rw [strings, hshared]
  exact List.mem_append_right _ h

end Parameter

namespace Invocation

/-- The strings that name the module. -/
def moduleStrings (inv : Invocation) : List String :=
  match inv.moduleVersion? with
  | none => [inv.moduleName]
  | some version => [inv.modulesPath, inv.moduleName, version]

/-- The strings of an invocation that enter the script, apart from the names of
properties. -/
def strings (inv : Invocation) : List String :=
  inv.friendlyName :: (inv.moduleStrings ++
    inv.parameters.entries.flatMap fun parameter => parameter.2.strings parameter.1)

theorem mem_strings_of_parameter {inv : Invocation} {parameter : String × Parameter} {s : String}
    (hmem : parameter ∈ inv.parameters.entries) (h : s ∈ parameter.2.strings parameter.1) :
    s ∈ inv.strings :=
  List.mem_cons_of_mem _
    (List.mem_append_right _ (List.mem_flatMap.2 ⟨parameter, hmem, h⟩))

end Invocation

/-! ## Pieces and strings -/

/-- Whether the texts of a piece have one property, and its name has another. -/
def Piece.Holds (Q N : String → Prop) : Piece → Prop
  | name s => N s
  | text s => Q s
  | secret s => Q s
  | password s => Q s

/-- Whether the fixed texts of scripts have one property, and the fixed names have
another. -/
structure FixedWords (Q N : String → Prop) : Prop where
  classKey : Q classKey
  credentialKeys : ∀ s ∈ ["user", "password"], Q s
  method : ∀ method : Method, Q method.name
  instanceArrayType : N instanceArrayType
  blockKeys : ∀ s ∈ ["Name", "Method", "Property", "ModuleName"], N s

section Holds

variable {Q N : String → Prop}

/-- The pieces of a literal have a property that all strings in it have. -/
theorem Value.holds_pieces (hfixed : FixedWords Q N) {v : Value} (h : ∀ s ∈ v.strings, Q s) :
    ∀ p ∈ v.toExpr.pieces, p.Holds Q N := by
  have hentries : ∀ entries : List (String × Value), (∀ entry ∈ entries,
      (∀ s ∈ entry.2.strings, Q s) → ∀ p ∈ entry.2.toExpr.pieces, p.Holds Q N) →
      (∀ s ∈ entryStrings entries, Q s) →
        ∀ p ∈ (Expr.table (entriesToExpr entries)).pieces, p.Holds Q N := by
    intro entries ih h
    rw [entryStrings_eq, List.forall_mem_flatMap] at h
    rw [Expr.pieces_table, entriesToExpr_eq, List.flatMap_map, List.forall_mem_flatMap]
    intro entry hentry
    obtain ⟨hkey, hvalue⟩ := List.forall_mem_cons.1 (h entry hentry)
    exact List.forall_mem_cons.2 ⟨hkey, ih entry hentry hvalue⟩
  induction v using Value.induct with
  | array items ih =>
      rw [strings, itemStrings_eq, List.forall_mem_flatMap] at h
      have hitems : ∀ p ∈ (Expr.array (itemsToExpr items)).pieces, p.Holds Q N := by
        rw [Expr.pieces_array, itemsToExpr_eq, List.flatMap_map, List.forall_mem_flatMap]
        exact fun item hitem => ih item hitem (h item hitem)
      rw [toExpr]
      split
      · exact List.forall_mem_cons.2 ⟨hfixed.instanceArrayType, hitems⟩
      · exact hitems
  | map entries ih => exact hentries entries ih h
  | instanceOf className properties ih =>
      obtain ⟨hclass, hproperties⟩ := List.forall_mem_cons.1 h
      exact List.forall_mem_cons.2 ⟨hfixed.classKey, List.forall_mem_cons.2
        ⟨hclass, hentries properties ih hproperties⟩⟩
  | string s => exact List.forall_mem_singleton.2 (h s List.mem_cons_self)
  | secret s => exact List.forall_mem_singleton.2 (h s List.mem_cons_self)
  | _ => simp [toExpr, Expr.pieces]

/-- References add the names of variables only. -/
theorem Pool.pieces_replace (pool : Pool) (e : Expr) :
    ∀ p ∈ (pool.replace e).pieces, p ∈ e.pieces ∨ ∃ name ∈ pool.variableNames, p = .name name := by
  have hreference : ∀ {e : Expr} {name : String}, pool.lookup? e.render = some name →
      pool.replace e = .variableRef name → ∀ p ∈ (pool.replace e).pieces,
        p ∈ e.pieces ∨ ∃ name ∈ pool.variableNames, p = .name name := by
    intro e name hname heq p hp
    rw [heq, Expr.pieces, List.mem_singleton] at hp
    exact .inr ⟨name, mem_variableNames_of_lookup? hname, hp⟩
  induction e using Expr.induct with
  | array items ih =>
      rcases pool.replace_cases (.array items) with ⟨name, hname, heq⟩ | heq
      · exact hreference hname heq
      · intro p hp
        rw [heq, Expr.pieces_array, List.flatMap_map, List.mem_flatMap] at hp
        obtain ⟨item, hitem, hp⟩ := hp
        rw [Expr.pieces_array]
        exact (ih item hitem p hp).imp_left fun h => List.mem_flatMap.2 ⟨item, hitem, h⟩
  | cast typeName inner ih =>
      rcases pool.replace_cases (.cast typeName inner) with ⟨name, hname, heq⟩ | heq
      · exact hreference hname heq
      · intro p hp
        rw [heq] at hp
        rcases List.mem_cons.1 hp with rfl | hp
        · exact .inl List.mem_cons_self
        · exact (ih p hp).imp_left (List.mem_cons_of_mem _)
  | table entries ih =>
      rcases pool.replace_cases (.table entries) with ⟨name, hname, heq⟩ | heq
      · exact hreference hname heq
      · intro p hp
        rw [heq, Expr.pieces_table, List.flatMap_map, List.mem_flatMap] at hp
        obtain ⟨entry, hentry, hp⟩ := hp
        rw [Expr.pieces_table]
        rcases List.mem_cons.1 hp with rfl | hp
        · exact .inl (List.mem_flatMap.2 ⟨entry, hentry, List.mem_cons_self⟩)
        · exact (ih entry hentry p hp).imp_left fun h =>
            List.mem_flatMap.2 ⟨entry, hentry, List.mem_cons_of_mem _ h⟩
  | _ => exact fun p hp => .inl hp

theorem Pool.holds_replace {pool : Pool} (hnames : ∀ name ∈ pool.variableNames, N name)
    {e : Expr} (h : ∀ p ∈ e.pieces, p.Holds Q N) : ∀ p ∈ (pool.replace e).pieces, p.Holds Q N := by
  intro p hp
  rcases pool.pieces_replace e p hp with hp | ⟨name, hname, rfl⟩
  · exact h p hp
  · exact hnames name hname

/-- The pieces of a statement have a property that all strings of what it builds have. -/
theorem Composite.holds_statement (hfixed : FixedWords Q N) {pool : Pool}
    (hnames : ∀ name ∈ pool.variableNames, N name) {name : String} (hname : N name)
    {x : Composite} (h : ∀ s ∈ x.toValue.strings, Q s) :
    ∀ p ∈ (x.statement pool name).pieces, p.Holds Q N := by
  cases x with
  | credential c =>
      have huser : Q c.user := h _ (by simp [toValue, Value.strings, Value.entryStrings])
      have hpassword : Q c.password := h _ (by simp [toValue, Value.strings, Value.entryStrings])
      simp only [statement, Statement.pieces, List.forall_mem_cons]
      exact ⟨hname, huser, hpassword, by simp⟩
  | instanceOf i =>
      have hliteral := Value.holds_pieces hfixed h
      rw [toValue, Instance.toValue, Value.toExpr, Expr.pieces_table, List.flatMap_cons,
        List.forall_mem_append, ← Expr.pieces_table] at hliteral
      refine List.forall_mem_cons.2 ⟨hname, List.forall_mem_cons.2
        ⟨h i.className List.mem_cons_self, ?_⟩⟩
      obtain ⟨-, hproperties⟩ := hliteral
      rw [Expr.pieces_table, List.forall_mem_flatMap] at hproperties
      rw [payload, Expr.pieces_table, List.flatMap_map, List.forall_mem_flatMap]
      intro entry hentry
      obtain ⟨hkey, hvalue⟩ := List.forall_mem_cons.1 (hproperties entry hentry)
      exact List.forall_mem_cons.2 ⟨hkey, Pool.holds_replace hnames hvalue⟩

namespace Parameter

variable {property : String} {p : Parameter} (h : ∀ s ∈ p.strings property, Q s)

include h

theorem holds_credential (hfixed : FixedWords Q N) {c : Credential}
    (hneeds : p.needsCredential = true) (hc : Credential.ofValue property p.value = .ok c) :
    ∀ s ∈ (Composite.credential c).toValue.strings, Q s := by
  have hown : ∀ s ∈ [c.user, c.password], Q s :=
    fun s hs => h s (mem_strings_of_credential hneeds hc hs)
  have hkeys := hfixed.credentialKeys
  simp only [Composite.toValue, Value.strings, Value.entryStrings, List.forall_mem_cons,
    List.cons_append, List.nil_append]
  exact ⟨hkeys _ (by simp), hown _ (by simp), hkeys _ (by simp), hown _ (by simp), by simp⟩

theorem holds_instance {own : List Instance} (hneeds : p.needsInstances = true)
    (hown : p.instances = .ok own) : ∀ i ∈ own, ∀ s ∈ i.toValue.strings, Q s :=
  fun _ hi s hs => h s (mem_strings_of_instance hneeds hown hi hs)

/-- The pieces of the own expression of a parameter have a property that all its
strings have. -/
theorem holds_ownExpr (hfixed : FixedWords Q N) {e : Expr} (he : p.ownExpr property = .ok e) :
    ∀ q ∈ e.pieces, q.Holds Q N := by
  rw [ownExpr] at he
  split at he
  · next hneeds =>
    cases hc : Credential.ofValue property p.value with
    | error e => rw [hc] at he; cases he
    | ok c =>
        rw [hc] at he
        obtain rfl := Except.ok.inj he
        exact Value.holds_pieces hfixed (holds_credential h hfixed hneeds hc)
  · next hcredential =>
    split at he
    · next hneeds =>
      cases hown : p.instances with
      | error e => rw [hown] at he; cases he
      | ok own =>
          rw [hown] at he
          obtain rfl := Except.ok.inj he
          have hinstances : ∀ e ∈ own.map Instance.toExpr, ∀ q ∈ e.pieces, q.Holds Q N := by
            rw [List.forall_mem_map]
            exact fun i hi => Value.holds_pieces hfixed (holds_instance h hneeds hown i hi)
          rw [embeddedExpr]
          split
          · rw [Expr.pieces, Expr.pieces_array, List.forall_mem_cons, List.forall_mem_flatMap]
            exact ⟨hfixed.instanceArrayType, hinstances⟩
          · cases hlast : (own.map Instance.toExpr).getLast? with
            | none => simp [Expr.pieces]
            | some e => exact hinstances e (List.mem_of_getLast? hlast)
    · next hembedded =>
      obtain rfl := Except.ok.inj he
      have hshared : p.isShared = false := by simp [isShared, hcredential, hembedded]
      exact Value.holds_pieces hfixed fun s hs => h s (mem_strings_of_value hshared hs)

end Parameter

/-- The pieces of the table of properties have a property that all strings of the
parameters have. -/
theorem holds_parameterEntries (hfixed : FixedWords Q N) {pool : Pool}
    (hnames : ∀ name ∈ pool.variableNames, N name)
    {parameters : List (String × Parameter)} {entries : List (Key × Expr)}
    (h : List.Forall₂ (IsEntryOf pool) parameters entries)
    (hparameters : ∀ parameter ∈ parameters, N (bareProperty parameter.1) ∧
      ∀ s ∈ parameter.2.strings parameter.1, Q s) :
    ∀ p ∈ (Expr.table entries).pieces, p.Holds Q N := by
  rw [Expr.pieces_table]
  induction h with
  | nil => simp
  | @cons parameter entry parameters entries hentry _ ih =>
      obtain ⟨⟨hproperty, hstrings⟩, hrest⟩ := List.forall_mem_cons.1 hparameters
      obtain ⟨property, p⟩ := parameter
      obtain ⟨e, hown, hvalue⟩ := hentry.exists_own
      have hliteral := Parameter.holds_ownExpr hstrings hfixed hown
      rw [List.flatMap_cons, List.forall_mem_append, List.forall_mem_cons]
      refine ⟨⟨?_, ?_⟩, ih hrest⟩
      · rw [hentry.1]
        exact hproperty
      · rw [hvalue]
        split
        · exact Pool.holds_replace hnames hliteral
        · exact hliteral

namespace Invocation

variable {source : NameSource} {inv : Invocation}

/-- All strings of what a script builds have a property that all strings of the
invocation have. -/
theorem holds_composites (hfixed : FixedWords Q N) (h : ∀ s ∈ inv.strings, Q s)
    {xs : List Composite} (hxs : inv.composites = .ok xs) :
    ∀ x ∈ xs, ∀ s ∈ x.toValue.strings, Q s := by
  rw [composites] at hxs
  cases hc : credentialsOf inv.parameters.entries with
  | error e => rw [hc] at hxs; cases hxs
  | ok built =>
      cases hi : instancesOf inv.parameters.entries with
      | error e => rw [hc, hi] at hxs; cases hxs
      | ok embedded =>
          rw [hc, hi] at hxs
          obtain rfl := Except.ok.inj hxs
          intro x hx
          rcases List.mem_append.1 hx with hx | hx
          · obtain ⟨c, hmem, rfl⟩ := List.mem_map.1 hx
            obtain ⟨parameter, hparameter, hneeds, hvalue⟩ := exists_of_mem_credentialsOf hc c hmem
            exact Parameter.holds_credential
              (fun s hs => h s (mem_strings_of_parameter hparameter hs)) hfixed hneeds hvalue
          · rw [withNested_eq] at hx
            obtain ⟨i, hmem, rfl⟩ := List.mem_map.1 hx
            obtain ⟨j, hj, hinside⟩ := List.mem_flatMap.1 hmem
            obtain ⟨parameter, hparameter, hneeds, own, hown, hmine⟩ :=
              exists_of_mem_instancesOf hi j hj
            intro s hs
            exact Parameter.holds_instance
              (fun s hs => h s (mem_strings_of_parameter hparameter hs)) hneeds hown j hmine s
              (Value.strings_instance i hinside s hs)

/-- The pieces of the block have a property that all strings of the invocation have, if
those of the module have it. -/
theorem holds_block (hfixed : FixedWords Q N) {pool : Pool}
    (hnames : ∀ name ∈ pool.variableNames, N name) (h : ∀ s ∈ inv.strings, Q s)
    (hproperties : ∀ property ∈ Entries.names inv.parameters.entries, N (bareProperty property))
    (hmodule : ∀ p ∈ inv.moduleExpr.pieces, p.Holds Q N)
    {block : Expr} (hblock : inv.toExpr pool = .ok block) : ∀ p ∈ block.pieces, p.Holds Q N := by
  obtain ⟨entries, hentries, rfl⟩ := toExpr_eq_ok_iff.1 hblock
  have htable := holds_parameterEntries hfixed hnames (parameterEntries_eq_ok_iff.1 hentries)
    fun parameter hmem => ⟨hproperties _ (List.mem_map_of_mem hmem),
      fun s hs => h s (mem_strings_of_parameter hmem hs)⟩
  have hbare := hfixed.blockKeys
  rw [Expr.pieces] at htable
  simp only [blockOf, Expr.bareTable, List.map_cons, List.map_nil, Expr.pieces, Expr.entryPieces,
    Key.piece, List.cons_append, List.nil_append, List.append_nil, List.forall_mem_cons,
    List.forall_mem_append]
  exact ⟨hbare _ (by simp), h _ List.mem_cons_self, hbare _ (by simp), hfixed.method inv.method,
    hbare _ (by simp), htable, hbare _ (by simp), hmodule⟩

end Invocation

end Holds

/-! ## A text shows its strings -/

namespace Literal

mutual

/-- The texts and the keys in a syntax tree. -/
def strings : Literal → List String
  | text s => [s]
  | sensitive s => [s]
  | array items => itemStrings items
  | cast inner => strings inner
  | table entries => entryStrings entries
  | _ => []

/-- The texts and the keys in the items of an array. -/
def itemStrings : List Literal → List String
  | [] => []
  | item :: rest => strings item ++ itemStrings rest

/-- The texts and the keys in the entries of a table. -/
def entryStrings : List (String × Literal) → List String
  | [] => []
  | (key, value) :: rest => key :: (strings value ++ entryStrings rest)

end

theorem itemStrings_eq (items : List Literal) : itemStrings items = items.flatMap strings := by
  induction items with
  | nil => rfl
  | cons item rest ih => rw [itemStrings, ih, List.flatMap_cons]

theorem entryStrings_eq (entries : List (String × Literal)) :
    entryStrings entries = entries.flatMap fun entry => entry.1 :: entry.2.strings := by
  induction entries with
  | nil => rfl
  | cons entry rest ih => rw [entryStrings, ih, List.flatMap_cons]; rfl

end Literal

section Shown

variable {Q : String → Prop} (hclass : Q classKey)

include hclass

/-- The tree of a value has the strings of the value, besides the key of the class. -/
theorem Value.forall_strings_form (v : Value) :
    (∀ s ∈ v.form.strings, Q s) ↔ ∀ s ∈ v.strings, Q s := by
  have hentries : ∀ entries : List (String × Value), (∀ entry ∈ entries,
      ((∀ s ∈ entry.2.form.strings, Q s) ↔ ∀ s ∈ entry.2.strings, Q s)) →
      ((∀ s ∈ Literal.entryStrings (entryForms entries), Q s) ↔
        ∀ s ∈ entryStrings entries, Q s) := by
    intro entries ih
    rw [Literal.entryStrings_eq, entryForms_eq, entryStrings_eq, List.flatMap_map,
      List.forall_mem_flatMap, List.forall_mem_flatMap]
    refine forall₂_congr fun entry hentry => ?_
    rw [List.forall_mem_cons, List.forall_mem_cons, ih entry hentry]
  induction v using Value.induct with
  | array items ih =>
      have hitems : (array items).form.strings = items.flatMap fun item => item.form.strings := by
        rcases form_array_cases items with heq | heq <;>
          simp [heq, Literal.strings, Literal.itemStrings_eq, itemForms_eq, List.flatMap_map]
      rw [hitems, strings, itemStrings_eq, List.forall_mem_flatMap, List.forall_mem_flatMap]
      exact forall₂_congr ih
  | map entries ih => exact hentries entries ih
  | instanceOf className properties ih =>
      have hform : (instanceOf className properties).form.strings =
          classKey :: className :: Literal.entryStrings (entryForms properties) := rfl
      rw [hform, strings, List.forall_mem_cons, List.forall_mem_cons, List.forall_mem_cons,
        hentries properties ih]
      exact ⟨fun h => h.2, fun h => ⟨hclass, h⟩⟩
  | float x => cases x <;> exact Iff.rfl
  | _ => exact Iff.rfl

/-- Values with the same literal have the same strings, besides the key of the class. -/
theorem Value.forall_strings_of_literal_eq {v w : Value} (h : v.literal = w.literal)
    (hv : ∀ s ∈ v.strings, Q s) : ∀ s ∈ w.strings, Q s := by
  rw [← forall_strings_form hclass] at hv ⊢
  rwa [← literal_eq_iff.1 h]

end Shown

/-! ## No string gets lost -/

/-- Everything that a pool knows is a credential or an instance whose strings all have a
property. -/
def Pool.Knows (pool : Pool) (Q : String → Prop) : Prop :=
  ∀ text name, pool.lookup? text = some name →
    ∃ x : Composite, x.text = text ∧ ∀ s ∈ x.toValue.strings, Q s

section Kept

variable {Q N : String → Prop}

namespace Pool

variable {pool : Pool}

theorem knows_empty (source : NameSource) : (empty source).Knows Q :=
  fun _ _ hname => by cases hname

theorem Knows.strings_of_literal (h : pool.Knows Q) (hclass : Q classKey) {v : Value}
    {name : String} (hname : pool.lookup? v.literal = some name) : ∀ s ∈ v.strings, Q s := by
  obtain ⟨x, htext, hx⟩ := h _ _ hname
  rw [Composite.text_eq] at htext
  exact Value.forall_strings_of_literal_eq hclass htext hx

theorem Knows.lookup?_eq_none (h : pool.Knows Q) {e : Expr}
    (he : e.write.take 2 ≠ ['@', '\x7b']) : pool.lookup? e.render = none := by
  cases hname : pool.lookup? e.render with
  | none => rfl
  | some name =>
      obtain ⟨x, htext, -⟩ := h _ _ hname
      have htake := x.take_text
      rw [htext, Expr.render, String.toList_ofList] at htake
      exact absurd htake he

/-- All strings of a value have a property that the pieces of its expression with
references have, and the strings of what the references stand for. -/
theorem Knows.strings_of_replace (h : pool.Knows Q) (hclass : Q classKey) {v : Value}
    (hpieces : ∀ p ∈ (pool.replace v.toExpr).pieces, p.Holds Q N) : ∀ s ∈ v.strings, Q s := by
  have hentries : ∀ entries : List (String × Value), (∀ entry ∈ entries,
      (∀ p ∈ (pool.replace entry.2.toExpr).pieces, p.Holds Q N) → ∀ s ∈ entry.2.strings, Q s) →
      (∀ p ∈ (Expr.table ((Value.entriesToExpr entries).map
        fun entry => (entry.1, pool.replace entry.2))).pieces, p.Holds Q N) →
          ∀ s ∈ Value.entryStrings entries, Q s := by
    intro entries ih hpieces
    rw [Expr.pieces_table, Value.entriesToExpr_eq, List.map_map, List.flatMap_map,
      List.forall_mem_flatMap] at hpieces
    rw [Value.entryStrings_eq, List.forall_mem_flatMap]
    intro entry hentry
    obtain ⟨hkey, hvalue⟩ := List.forall_mem_cons.1 (hpieces entry hentry)
    exact List.forall_mem_cons.2 ⟨hkey, ih entry hentry hvalue⟩
  induction v using Value.induct with
  | array items ih =>
      have hitems : (∀ p ∈ (pool.replace (.array (Value.itemsToExpr items))).pieces,
          p.Holds Q N) → ∀ s ∈ (Value.array items).strings, Q s := by
        intro hpieces
        rw [replace_array (h.lookup?_eq_none (by simp [Expr.write_array])), Expr.pieces_array,
          Value.itemsToExpr_eq, List.map_map, List.flatMap_map, List.forall_mem_flatMap] at hpieces
        rw [Value.strings, Value.itemStrings_eq, List.forall_mem_flatMap]
        exact fun item hitem => ih item hitem (hpieces item hitem)
      rw [Value.toExpr] at hpieces
      split at hpieces
      · rw [replace_cast (h.lookup?_eq_none (by simp [Expr.write_cast]))] at hpieces
        exact hitems (List.forall_mem_cons.1 hpieces).2
      · exact hitems hpieces
  | map entries ih =>
      rcases pool.replace_cases (Value.map entries).toExpr with ⟨name, hname, -⟩ | heq
      · exact h.strings_of_literal hclass hname
      · rw [heq] at hpieces
        exact hentries entries ih hpieces
  | instanceOf className properties ih =>
      rcases pool.replace_cases (Value.instanceOf className properties).toExpr with
        ⟨name, hname, -⟩ | heq
      · exact h.strings_of_literal hclass hname
      · rw [heq] at hpieces
        -- the class of the instance is the first entry of its table
        obtain ⟨-, hrest⟩ := List.forall_mem_cons.1 hpieces
        obtain ⟨hname, hproperties⟩ := List.forall_mem_cons.1 hrest
        exact List.forall_mem_cons.2 ⟨hname, hentries properties ih hproperties⟩
  | string s => exact List.forall_mem_singleton.2 (hpieces (.text s) List.mem_cons_self)
  | secret s => exact List.forall_mem_singleton.2 (hpieces (.secret s) List.mem_cons_self)
  | _ => simp [Value.strings]

/-- All strings of what a statement builds have a property that its pieces have. -/
theorem Knows.strings_of_statement (h : pool.Knows Q) (hfixed : FixedWords Q N) {name : String}
    {x : Composite} (hpieces : ∀ p ∈ (x.statement pool name).pieces, p.Holds Q N) :
    ∀ s ∈ x.toValue.strings, Q s := by
  cases x with
  | credential c =>
      have hkeys := hfixed.credentialKeys
      simp only [Composite.statement, Statement.pieces, List.forall_mem_cons] at hpieces
      obtain ⟨-, huser, hpassword, -⟩ := hpieces
      simp only [Composite.toValue, Value.strings, Value.entryStrings, List.forall_mem_cons,
        List.cons_append, List.nil_append]
      exact ⟨hkeys _ (by simp), huser, hkeys _ (by simp), hpassword, by simp⟩
  | instanceOf i =>
      obtain ⟨-, hrest⟩ := List.forall_mem_cons.1 hpieces
      obtain ⟨hclassName, hpayload⟩ := List.forall_mem_cons.1 hrest
      refine List.forall_mem_cons.2 ⟨hclassName, ?_⟩
      rw [Composite.payload, Expr.pieces_table, Value.entriesToExpr_eq, List.map_map,
        List.flatMap_map, List.forall_mem_flatMap] at hpayload
      rw [Value.entryStrings_eq, List.forall_mem_flatMap]
      intro entry hentry
      obtain ⟨hkey, hvalue⟩ := List.forall_mem_cons.1 (hpayload entry hentry)
      exact List.forall_mem_cons.2 ⟨hkey, h.strings_of_replace hfixed.classKey hvalue⟩

theorem Knows.add (h : pool.Knows Q) {x : Composite} (hx : ∀ s ∈ x.toValue.strings, Q s) :
    (pool.add x.text).Knows Q := by
  intro text name hname
  rw [lookup?_add] at hname
  cases hold : pool.lookup? text with
  | some other => exact h text other hold
  | none =>
      rw [hold, Option.none_or] at hname
      split at hname
      · next htext => exact ⟨x, htext, hx⟩
      · cases hname

/-- All strings of what is built have a property that the pieces of all statements
have.  What is not built anew was built under the same text. -/
theorem strings_of_declareAll (hfixed : FixedWords Q N) (source : NameSource)
    (xs : List Composite)
    (hpieces : ∀ s ∈ ((empty source).declareAll xs).1, ∀ p ∈ s.pieces, p.Holds Q N) :
    ∀ x ∈ xs, ∀ s ∈ x.toValue.strings, Q s := by
  refine (declareAll_run (P := fun before statements current =>
    (∀ s ∈ statements, ∀ p ∈ s.pieces, p.Holds Q N) →
      (∀ x ∈ before, ∀ s ∈ x.toValue.strings, Q s) ∧ current.Knows Q)
    (fun _ => ⟨by simp, knows_empty source⟩) ?_ hpieces).1
  intro before x after statements current _ ih hall
  obtain ⟨hstatements, hown⟩ := List.forall_mem_append.1 hall
  obtain ⟨hbefore, hknows⟩ := ih hstatements
  cases hlookup : current.lookup? x.text with
  | some name =>
      rw [declare_of_lookup? hlookup]
      rw [Composite.text_eq] at hlookup
      have hx := hknows.strings_of_literal hfixed.classKey hlookup
      exact ⟨List.forall_mem_append.2 ⟨hbefore, List.forall_mem_singleton.2 hx⟩, hknows⟩
  | none =>
      rw [declare_of_none hlookup] at hown ⊢
      have hx := hknows.strings_of_statement hfixed (List.forall_mem_singleton.1 hown)
      exact ⟨List.forall_mem_append.2 ⟨hbefore, List.forall_mem_singleton.2 hx⟩, hknows.add hx⟩

end Pool

/-- All strings of a literal have a property that its pieces have. -/
theorem Value.strings_of_pieces (hclass : Q classKey) {v : Value}
    (h : ∀ p ∈ v.toExpr.pieces, p.Holds Q N) : ∀ s ∈ v.strings, Q s := by
  refine (Pool.knows_empty (NameSource.ofList [])).strings_of_replace (N := N) hclass ?_
  rwa [Pool.replace_of_isEmpty rfl]

namespace Invocation

variable {source : NameSource} {inv : Invocation}

/-- All strings of a parameter have a property that everything built has, and the pieces
of its entry in the table. -/
theorem strings_of_entry (hclass : Q classKey) {xs : List Composite}
    (hxs : inv.composites = .ok xs) (hbuilt : ∀ x ∈ xs, ∀ s ∈ x.toValue.strings, Q s)
    {pool : Pool} {property : String} {p : Parameter} {entry : Key × Expr}
    (hmem : (property, p) ∈ inv.parameters.entries) (hentry : IsEntryOf pool (property, p) entry)
    (hpieces : ∀ q ∈ entry.2.pieces, q.Holds Q N) : ∀ s ∈ p.strings property, Q s := by
  rw [composites] at hxs
  cases hc : credentialsOf inv.parameters.entries with
  | error e => rw [hc] at hxs; cases hxs
  | ok built =>
  cases hi : instancesOf inv.parameters.entries with
  | error e => rw [hc, hi] at hxs; cases hxs
  | ok embedded =>
  rw [hc, hi] at hxs
  obtain rfl := Except.ok.inj hxs
  obtain ⟨hcredentials, hinstances⟩ := List.forall_mem_append.1 hbuilt
  rw [Parameter.strings, List.forall_mem_append, List.forall_mem_append]
  refine ⟨⟨?_, ?_⟩, ?_⟩
  · split
    · next hneeds =>
      obtain ⟨c, hmine, hvalue⟩ := exists_credential hc hmem hneeds
      have hstrings := hcredentials (.credential c) (List.mem_map_of_mem hmine)
      rw [Parameter.credentialStrings, hvalue]
      intro s hs
      refine hstrings s ?_
      simp only [List.mem_cons, List.not_mem_nil, or_false] at hs
      rcases hs with rfl | rfl <;> simp [Composite.toValue, Value.strings, Value.entryStrings]
    · simp
  · split
    · next hneeds =>
      obtain ⟨own, hown, hmine⟩ := exists_instances hi hmem hneeds
      rw [Parameter.instanceStrings, hown]
      simp only [List.forall_mem_flatMap]
      intro i hi
      refine hinstances (.instanceOf i) ?_
      rw [withNested_eq]
      exact List.mem_map_of_mem (List.mem_flatMap.2
        ⟨i, hmine i hi, Value.mem_instances_iff.2 (.inl rfl)⟩)
    · simp
  · split
    · simp
    · next hshared =>
      obtain ⟨e, hown, hvalue⟩ := hentry.exists_own
      rw [if_neg hshared] at hvalue
      simp only [Parameter.isShared, Bool.or_eq_true, not_or] at hshared
      rw [Parameter.ownExpr, if_neg hshared.1, if_neg hshared.2] at hown
      obtain rfl := Except.ok.inj hown
      rw [hvalue] at hpieces
      exact Value.strings_of_pieces hclass hpieces

/-- All strings of an invocation, apart from those of its module, have a property that
the pieces of its script have. -/
theorem strings_of_block (hclass : Q classKey) {xs : List Composite}
    (hxs : inv.composites = .ok xs) (hbuilt : ∀ x ∈ xs, ∀ s ∈ x.toValue.strings, Q s)
    {pool : Pool} {block : Expr} (hblock : inv.toExpr pool = .ok block)
    (hpieces : ∀ p ∈ block.pieces, p.Holds Q N) :
    Q inv.friendlyName ∧ (∀ p ∈ inv.moduleExpr.pieces, p.Holds Q N) ∧
      ∀ parameter ∈ inv.parameters.entries, ∀ s ∈ parameter.2.strings parameter.1, Q s := by
  obtain ⟨entries, hentries, rfl⟩ := toExpr_eq_ok_iff.1 hblock
  simp only [blockOf, Expr.bareTable, List.map_cons, List.map_nil, Expr.pieces, Expr.entryPieces,
    Key.piece, List.cons_append, List.nil_append, List.append_nil, List.forall_mem_cons,
    List.forall_mem_append] at hpieces
  obtain ⟨-, hname, -, -, -, htable, -, hmodule⟩ := hpieces
  refine ⟨hname, hmodule, fun parameter hmem => ?_⟩
  obtain ⟨entry, hin, hentry⟩ := exists_of_forall₂ (parameterEntries_eq_ok_iff.1 hentries) _ hmem
  change ∀ p ∈ (Expr.table entries).pieces, p.Holds Q N at htable
  rw [Expr.pieces_table, List.forall_mem_flatMap] at htable
  exact strings_of_entry hclass hxs hbuilt hmem hentry
    (List.forall_mem_cons.1 (htable entry hin)).2

end Invocation

end Kept

end DesiredState
