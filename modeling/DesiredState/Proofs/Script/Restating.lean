import DesiredState.Proofs.Script.Acceptance
import Mathlib.Logic.Relation

/-!
# Embedded values in other words

An embedded value can be given in more than one way.  A map stands for an instance of the
class that is declared, and for an array type a single value stands for an array with this
value alone in it.  These are two choices of whoever writes a desired state; a script shows
neither of them.

Three passes read the parameters, and each of them takes the embedded values apart on its
own.  A parameter is used in three ways only: it is read as a credential, as a list of
instances, or as an expression of its own.  Two parameters that give the same in all three
are exchanged without a trace, in any number of places at once.

## Main definitions

* `Parameter.Restates` — one embedded value of a parameter, given in the other way.
* `Parameter.Alike` — parameters that are read in the same way by all three passes.
* `Invocation.Restates` — an invocation with any embedded values given in other ways.

## Main results

* `Parameter.Restates.alike` — a value given in the other way is read as before.
* `credentialsOf_congr`, `instancesOf_congr`, `parameterEntries_congr` — the three passes.
* `Invocation.script_restated` — the script, or its failure, is the same.
-/

namespace DesiredState

/-- An array type is not the type of credentials: its last letter is the mark. -/
theorem DeclaredType.isCredential_of_isArray {t : DeclaredType} (h : t.isArray = true) :
    t.isCredential = false := by
  rw [isArray, List.isSuffixOf_iff_suffix] at h
  obtain ⟨front, hfront⟩ := h
  have hlast : (t.text.toList.map Char.toLower).getLast? = some ']' := by
    simp [← hfront, arrayMark]
  have hname : credentialName.getLast? = some 'l' := by decide
  rw [isCredential, beq_eq_false_iff_ne]
  intro heq
  rw [heq, hname] at hlast
  exact absurd hlast (by decide)

namespace Parameter

/-! ## One value given in the other way -/

/-- One embedded value of a parameter is given in the other way. -/
inductive Restates : Parameter → Parameter → Prop
  /-- A map becomes an instance of the class that is declared. -/
  | classed (type : DeclaredType) (entries : List (String × Value)) :
      Restates ⟨.map entries, type, true⟩ ⟨.instanceOf type.elementType entries, type, true⟩
  /-- A map in an array becomes an instance of the class of its items. -/
  | classedItem {type : DeclaredType} (h : type.isArray = true) (front : List Value)
      (entries : List (String × Value)) (back : List Value) :
      Restates ⟨.array (front ++ .map entries :: back), type, true⟩
        ⟨.array (front ++ .instanceOf type.elementType entries :: back), type, true⟩
  /-- A single map or instance becomes an array with this value alone in it. -/
  | wrapped {type : DeclaredType} (h : type.isArray = true) {value : Value}
      (hvalue : value.isTable = true) :
      Restates ⟨value, type, true⟩ ⟨.array [value], type, true⟩

/-- Parameters that no pass over them can tell apart: they are credentials or embedded
together, and what is read off them is the same. -/
structure Alike (p q : Parameter) : Prop where
  needsCredential_eq : p.needsCredential = q.needsCredential
  needsInstances_eq : p.needsInstances = q.needsInstances
  credential_eq : p.needsCredential = true → ∀ property,
    Credential.ofValue property p.value = Credential.ofValue property q.value
  instances_eq : p.needsInstances = true → p.instances = q.instances
  ownExpr_eq : ∀ property, p.ownExpr property = q.ownExpr property

namespace Alike

variable {p q r : Parameter}

theorem refl (p : Parameter) : Alike p p :=
  ⟨rfl, rfl, fun _ _ => rfl, fun _ => rfl, fun _ => rfl⟩

theorem symm (h : Alike p q) : Alike q p where
  needsCredential_eq := h.needsCredential_eq.symm
  needsInstances_eq := h.needsInstances_eq.symm
  credential_eq hneeds property :=
    (h.credential_eq (h.needsCredential_eq.trans hneeds) property).symm
  instances_eq hneeds := (h.instances_eq (h.needsInstances_eq.trans hneeds)).symm
  ownExpr_eq property := (h.ownExpr_eq property).symm

theorem trans (h : Alike p q) (h' : Alike q r) : Alike p r where
  needsCredential_eq := h.needsCredential_eq.trans h'.needsCredential_eq
  needsInstances_eq := h.needsInstances_eq.trans h'.needsInstances_eq
  credential_eq hneeds property := (h.credential_eq hneeds property).trans
    (h'.credential_eq (h.needsCredential_eq.symm.trans hneeds) property)
  instances_eq hneeds := (h.instances_eq hneeds).trans
    (h'.instances_eq (h.needsInstances_eq.symm.trans hneeds))
  ownExpr_eq property := (h.ownExpr_eq property).trans (h'.ownExpr_eq property)

/-- Two embedded parameters of one type are alike if they give the same credential and the
same instances; an expression is made of these. -/
theorem of_embedded {v w : Value} {type : DeclaredType} (hv : v.isNull = false)
    (hw : w.isNull = false)
    (hcredential : type.isCredential = true → ∀ property,
      Credential.ofValue property v = Credential.ofValue property w)
    (hinstances : Parameter.instances ⟨v, type, true⟩ = Parameter.instances ⟨w, type, true⟩) :
    Alike ⟨v, type, true⟩ ⟨w, type, true⟩ := by
  have hneeds : needsCredential ⟨v, type, true⟩ = type.isCredential ∧
      needsCredential ⟨w, type, true⟩ = type.isCredential := by simp [needsCredential, hv, hw]
  have hembedded : needsInstances ⟨v, type, true⟩ = true ∧
      needsInstances ⟨w, type, true⟩ = true := by simp [needsInstances, hv, hw]
  refine ⟨hneeds.1.trans hneeds.2.symm, hembedded.1.trans hembedded.2.symm,
    fun h => hcredential (hneeds.1 ▸ h), fun _ => hinstances, fun property => ?_⟩
  rw [ownExpr, ownExpr, hneeds.1, hneeds.2, hembedded.1, hembedded.2, ← hinstances]
  by_cases h : type.isCredential = true
  · rw [if_pos h, if_pos h, hcredential h]
  · rw [if_neg h, if_neg h, if_pos rfl, if_pos rfl]
    rfl

end Alike

theorem embeddedValues_array {type : DeclaredType} (h : type.isArray = true)
    (items : List Value) : embeddedValues ⟨.array items, type, true⟩ = items := if_pos h

/-- A value given in the other way is read as before. -/
theorem Restates.alike {p q : Parameter} (h : Restates p q) : Alike p q := by
  cases h with
  | classed type entries =>
      exact .of_embedded rfl rfl (fun _ _ => rfl) rfl
  | @classedItem type harray front entries back =>
      have hcredential := DeclaredType.isCredential_of_isArray harray
      refine .of_embedded rfl rfl (by simp [hcredential]) ?_
      rw [instances, instances, embeddedValues_array harray, embeddedValues_array harray]
      -- the items in front and behind are the same, and so is what is taken for the one between
      induction front with
      | nil => rfl
      | cons value rest ih =>
          rw [List.cons_append, List.cons_append, Instance.ofValues, Instance.ofValues, ih]
  | @wrapped type harray value hvalue =>
      have hcredential := DeclaredType.isCredential_of_isArray harray
      have hembedded : embeddedValues ⟨value, type, true⟩ = [value] := by
        cases value with
        | map entries => rfl
        | instanceOf className properties => rfl
        | _ => cases hvalue
      have hnull : value.isNull = false := by
        cases value with
        | null => cases hvalue
        | _ => rfl
      refine .of_embedded hnull rfl (by simp [hcredential]) ?_
      rw [instances, instances, hembedded, embeddedValues_array harray]

/-- So is a parameter after any number of such changes, there and back. -/
theorem alike_of_eqvGen {p q : Parameter} (h : Relation.EqvGen Restates p q) : Alike p q := by
  induction h with
  | rel p q h => exact h.alike
  | refl p => exact .refl p
  | symm p q _ ih => exact ih.symm
  | trans p q r _ _ ih ih' => exact ih.trans ih'

end Parameter

/-! ## The three passes -/

section Passes

variable {parameters others : List (String × Parameter)}

/-- Whether lists of parameters have the same properties, with parameters that are alike. -/
def AlikeParameters (parameters others : List (String × Parameter)) : Prop :=
  List.Forall₂ (fun p q => p.1 = q.1 ∧ p.2.Alike q.2) parameters others

theorem credentialsOf_congr (h : AlikeParameters parameters others) :
    credentialsOf parameters = credentialsOf others := by
  induction h with
  | nil => rfl
  | @cons p q rest rest' hpq _ ih =>
      obtain ⟨property, p⟩ := p
      obtain ⟨property', q⟩ := q
      obtain ⟨hname, halike⟩ := hpq
      subst hname
      dsimp only at halike
      rw [credentialsOf, credentialsOf, ← halike.needsCredential_eq, ih]
      by_cases hneeds : p.needsCredential = true
      · rw [if_pos hneeds, if_pos hneeds, halike.credential_eq hneeds]
      · rw [if_neg hneeds, if_neg hneeds]

theorem instancesOf_congr (h : AlikeParameters parameters others) :
    instancesOf parameters = instancesOf others := by
  induction h with
  | nil => rfl
  | @cons p q rest rest' hpq _ ih =>
      obtain ⟨property, p⟩ := p
      obtain ⟨property', q⟩ := q
      have halike : p.Alike q := hpq.2
      rw [instancesOf, instancesOf, ← halike.needsInstances_eq, ih]
      by_cases hneeds : p.needsInstances = true
      · rw [if_pos hneeds, if_pos hneeds, halike.instances_eq hneeds]
      · rw [if_neg hneeds, if_neg hneeds]

theorem parameterEntries_congr (h : AlikeParameters parameters others) (pool : Pool) :
    parameterEntries pool parameters = parameterEntries pool others := by
  induction h with
  | nil => rfl
  | @cons p q rest rest' hpq _ ih =>
      obtain ⟨property, p⟩ := p
      obtain ⟨property', q⟩ := q
      obtain ⟨hname, halike⟩ := hpq
      subst hname
      dsimp only at halike
      have hshared : p.isShared = q.isShared := by
        rw [Parameter.isShared, Parameter.isShared, halike.needsCredential_eq,
          halike.needsInstances_eq]
      rw [parameterEntries, parameterEntries, Parameter.toExpr_eq, Parameter.toExpr_eq,
        halike.ownExpr_eq, hshared, ih]

end Passes

namespace Invocation

/-- Whether an invocation is another one with any of its embedded values given in other
ways. -/
structure Restates (inv other : Invocation) : Prop where
  frame : other = { inv with parameters := other.parameters }
  parameters : List.Forall₂
    (fun p q => p.1 = q.1 ∧ Relation.EqvGen Parameter.Restates p.2 q.2)
    inv.parameters.entries other.parameters.entries

theorem Restates.alike {inv other : Invocation} (h : Restates inv other) :
    AlikeParameters inv.parameters.entries other.parameters.entries :=
  h.parameters.imp fun _ _ hpq => ⟨hpq.1, Parameter.alike_of_eqvGen hpq.2⟩

/-- Only the parameters of an invocation decide on its block, if all else is the same. -/
theorem toExpr_congr {inv other : Invocation}
    (hframe : other = { inv with parameters := other.parameters }) (pool : Pool)
    (h : parameterEntries pool inv.parameters.entries =
      parameterEntries pool other.parameters.entries) : inv.toExpr pool = other.toExpr pool := by
  rw [toExpr, h, hframe]
  rfl

/-- An invocation with embedded values given in other ways has the same script, under every
source of names, or the same failure. -/
theorem script_restated {inv other : Invocation} (h : Restates inv other) (source : NameSource) :
    inv.script source = other.script source := by
  have hcredentials := credentialsOf_congr h.alike
  have hinstances := instancesOf_congr h.alike
  have hblock : ∀ pool, inv.toExpr pool = other.toExpr pool := fun pool =>
    toExpr_congr h.frame pool (parameterEntries_congr h.alike pool)
  simp only [script_eq, hcredentials, hinstances, hblock]

/-- Bindings given as a map, pairs as a single map, and rules as an array of a map and of an
instance with a class of its own. -/
def terse : Invocation := { sample with parameters := {
  entries := [
    ("dsc_binding", ⟨.map [("Port", .int 80)], ⟨"Binding"⟩, true⟩),
    ("dsc_pairs", ⟨.map [("Key", .string "a")], ⟨"Pair[]"⟩, true⟩),
    ("dsc_rules", ⟨.array [.instanceOf "Own" [], .map [("Key", .string "a")]], ⟨"Rule[]"⟩, true⟩)]
  nodup := by decide } }

/-- The same with all classes and all arrays written out. -/
def spelledOut : Invocation := { sample with parameters := {
  entries := [
    ("dsc_binding", ⟨.instanceOf "Binding" [("Port", .int 80)], ⟨"Binding"⟩, true⟩),
    ("dsc_pairs", ⟨.array [.instanceOf "Pair" [("Key", .string "a")]], ⟨"Pair[]"⟩, true⟩),
    ("dsc_rules", ⟨.array [.instanceOf "Own" [], .instanceOf "Rule" [("Key", .string "a")]],
      ⟨"Rule[]"⟩, true⟩)]
  nodup := by decide } }

/-- Both have a script, and it is the same one. -/
theorem script_restated_spelledOut :
    Restates terse spelledOut ∧
      (terse.script (NameSource.ofList [])).isOk = true ∧
      terse.script (NameSource.ofList []) = spelledOut.script (NameSource.ofList []) := by
  have hpair : Relation.EqvGen Parameter.Restates
      ⟨.map [("Key", .string "a")], ⟨"Pair[]"⟩, true⟩
      ⟨.array [.instanceOf "Pair" [("Key", .string "a")]], ⟨"Pair[]"⟩, true⟩ :=
    .trans _ _ _ (.rel _ _ (.classed ⟨"Pair[]"⟩ _)) (.rel _ _ (.wrapped (by decide) rfl))
  have hrestates : Restates terse spelledOut := by
    refine ⟨rfl, .cons ⟨rfl, .rel _ _ (.classed _ _)⟩ (.cons ⟨rfl, hpair⟩ (.cons ⟨rfl, ?_⟩ .nil))⟩
    exact .rel _ _ (.classedItem (by decide) [.instanceOf "Own" []] _ [])
  exact ⟨hrestates, by decide +kernel, script_restated hrestates _⟩

end Invocation

end DesiredState
