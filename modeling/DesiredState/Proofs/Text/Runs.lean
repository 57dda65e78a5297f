/-!
# Runs of characters

Readers take a text apart into runs: as many characters of a kind as there are, and what
follows them.  A run is found where the text behind it does not go on with a character of this
kind.

## Main definitions

* `Stops` — a text that does not go on with a character of a kind.

## Main results

* `Stops.takeWhile`, `Stops.dropWhile` — a run in front of such a text is found.
* `exists_run` — a text starts with a run.
-/

namespace DesiredState

/-- Whether a text does not go on with a character of this kind. -/
def Stops (p : Char → Bool) (back : List Char) : Prop := ∀ c, back.head? = some c → p c = false

namespace Stops

variable {p : Char → Bool} {front back : List Char}

theorem takeWhile (h : Stops p back) (hfront : ∀ c ∈ front, p c = true) :
    (front ++ back).takeWhile p = front := by
  rw [List.takeWhile_append_of_pos hfront]
  cases back with
  | nil => simp
  | cons c rest => simp [h c rfl]

theorem dropWhile (h : Stops p back) (hfront : ∀ c ∈ front, p c = true) :
    (front ++ back).dropWhile p = back := by
  rw [List.dropWhile_append_of_pos hfront]
  cases back with
  | nil => rfl
  | cons c rest => simp [h c rfl]

end Stops

/-- A text starts with a run of characters of a kind. -/
theorem exists_run (p : Char → Bool) (cs : List Char) : ∃ front back,
    cs.takeWhile p = front ∧ cs.dropWhile p = back ∧ cs = front ++ back ∧
      ∀ c ∈ front, p c = true :=
  ⟨_, _, rfl, rfl, List.takeWhile_append_dropWhile.symm, List.all_eq_true.1 List.all_takeWhile⟩

end DesiredState
