import DesiredState.Proofs.Redaction.Hiding
import DesiredState.Proofs.Redaction.Lockstep

/-!
# Secrecy of the redacted copy

The redacted copy of a script does not depend on its secrets: two invocations that
differ by a renaming of secrets have the same copy, or fail alike.  This holds under
two conditions.  No piece of the two scripts may mislead the search for marked
literals; and no credential that is given with a plain password may be embedded,
because the statement for the instance writes that password without a marker.

## Main definitions

* `Invocation.redacted`, `Invocation.pieces` — the copy that is shown for an
  invocation, and the pieces of its script.

## Main results

* `Invocation.redacted_mapSecrets` — secrecy under the two conditions.
-/

namespace DesiredState

namespace Invocation

/-- What people may see of the script of an invocation, or the failure. -/
def redacted (source : NameSource) (inv : Invocation) : Except Error String :=
  (inv.script source).map Script.redacted

/-- The pieces of the script of an invocation. -/
def pieces (source : NameSource) (inv : Invocation) : List Piece :=
  match inv.script source with
  | .ok script => script.pieces
  | .error _ => []

variable {f : String → String} {inv : Invocation} {source : NameSource} {script : Script}

theorem pieces_of_script (h : inv.script source = .ok script) :
    inv.pieces source = script.pieces := by
  rw [pieces, h]

theorem redacted_of_script (h : inv.script source = .ok script) :
    inv.redacted source = .ok script.redacted := by
  rw [redacted, h]
  rfl

theorem script_mapSecrets_of_ok (hf : Function.Injective f) (hplain : inv.MarksPasswords)
    (h : inv.script source = .ok script) :
    (inv.mapSecrets f).script source = .ok (script.mapSecrets f) := by
  rw [script_mapSecrets hf hplain, h]
  rfl

/-- Renamed secrets leave the copy as it is, if no piece misleads the search and no
plain password is embedded. -/
theorem redacted_mapSecrets (hf : Function.Injective f) (hplain : inv.MarksPasswords)
    (hcalm : ∀ p ∈ inv.pieces source ++ (inv.mapSecrets f).pieces source, p.Calm) :
    (inv.mapSecrets f).redacted source = inv.redacted source := by
  cases h : inv.script source with
  | error e =>
      rw [redacted, redacted, script_mapSecrets hf hplain, h]
      rfl
  | ok script =>
      have hmapped := script_mapSecrets_of_ok hf hplain h
      rw [pieces_of_script h, pieces_of_script hmapped] at hcalm
      rw [redacted_of_script h, redacted_of_script hmapped, Script.redacted_mapSecrets f script
        (fun p hp => hcalm p (List.mem_append_left _ hp))
        (fun p hp => hcalm p (List.mem_append_right _ hp))]

end Invocation

end DesiredState
