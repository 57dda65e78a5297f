import DesiredState.Number.Layout

/-!
# Sources of variable names

Variables of a script are named by draws from a source.  Draws may repeat, and
a pool of variables draws again until the name is not in use.  That search ends
because a source comes with a bound: however many names are in use, among so
many draws there is an unused one.

The source at hand gives a list of names first and `v1`, `v2`, … after them.
The list is empty where scripts are to be repeatable and random where they are
to be unpredictable.

## Main definitions

* `NameSource` — draws, the bound, and the proof that it suffices.
* `NameSource.firstUnused` — the number of the first draw that is not in use.
* `NameSource.ofList` — given names, then numbered ones.
* `randomNames` — names of 122 random bits each.

## Main results

* `NameSource.draw_firstUnused` — the name found is not in use.
-/

namespace DesiredState

/-- A source of names. -/
structure NameSource where
  /-- The name of a draw. -/
  draw : Nat → String
  /-- How many draws from a given one on are enough to meet an unused name. -/
  patience : List String → Nat → Nat
  /-- There is an unused name within that many draws. -/
  exists_unused : ∀ used start, ∃ k, k < patience used start ∧ draw (start + k) ∉ used

namespace NameSource

/-- The first of `fuel` draws from `start` on that is not in use. -/
def seek (draw : Nat → String) (used : List String) : Nat → Nat → Nat
  | 0, start => start
  | fuel + 1, start =>
      if draw start ∈ used then seek draw used fuel (start + 1) else start

/-- A search that has an unused draw within reach ends at an unused draw. -/
theorem seek_unused (draw : Nat → String) (used : List String) :
    ∀ fuel start, (∃ k, k < fuel ∧ draw (start + k) ∉ used) →
      draw (seek draw used fuel start) ∉ used := by
  intro fuel
  induction fuel with
  | zero => rintro start ⟨k, hk, -⟩; omega
  | succ fuel ih =>
      rintro start ⟨k, hk, hfresh⟩
      unfold seek
      split
      · next hused =>
        refine ih (start + 1) ?_
        cases k with
        | zero => exact absurd hused hfresh
        | succ k => exact ⟨k, by omega, by rwa [Nat.add_assoc, Nat.add_comm 1 k]⟩
      · next hunused => exact hunused

/-- The number of the first draw from `start` on that is not in use. -/
def firstUnused (source : NameSource) (used : List String) (start : Nat) : Nat :=
  seek source.draw used (source.patience used start) start

/-- The name found is not in use. -/
theorem draw_firstUnused (source : NameSource) (used : List String) (start : Nat) :
    source.draw (source.firstUnused used start) ∉ used :=
  seek_unused _ _ _ _ (source.exists_unused used start)

/-! ## Numbered names -/

/-- The name `v` followed by a number. -/
def numbered (n : Nat) : String := String.ofList ('v' :: writeNat n)

/-- Numbered names of different numbers differ. -/
theorem numbered_injective {m n : Nat} (h : numbered m = numbered n) : m = n := by
  have hchars : writeNat m = writeNat n := by
    have := String.ofList_injective h
    simpa using this
  have := congrArg (fun ds => Nat.ofDigitChars 10 ds 0) hchars
  simpa [writeNat] using this

/-- Distinct names that are all among `used` are at most as many as those. -/
theorem length_le_of_subset {names used : List String} (h : names.Nodup)
    (hsub : ∀ name ∈ names, name ∈ used) : names.length ≤ used.length := by
  induction names generalizing used with
  | nil => simp
  | cons name rest ih =>
      obtain ⟨hname, hrest⟩ := List.nodup_cons.1 h
      have hmem : name ∈ used := hsub name (by simp)
      have := @ih (used.erase name) hrest fun other hother =>
        (List.mem_erase_of_ne (fun e : other = name => hname (e ▸ hother))).2
          (hsub other (by simp [hother]))
      rw [List.length_erase_of_mem hmem] at this
      have := List.length_pos_of_mem hmem
      simp only [List.length_cons]
      omega

/-- Of more consecutive numbered names than are in use, one is unused. -/
theorem exists_numbered_unused (used : List String) (start : Nat) :
    ∃ k, k < used.length + 1 ∧ numbered (start + k) ∉ used := by
  refine Classical.byContradiction fun hnone => ?_
  have hall : ∀ name ∈ (List.range (used.length + 1)).map fun k => numbered (start + k),
      name ∈ used := by
    intro name hname
    obtain ⟨k, hk, rfl⟩ := List.mem_map.1 hname
    exact Classical.byContradiction fun hn => hnone ⟨k, List.mem_range.1 hk, hn⟩
  have hnodup : ((List.range (used.length + 1)).map fun k => numbered (start + k)).Nodup :=
    List.Pairwise.map _ (fun a b hab e => hab (by have := numbered_injective e; omega))
      List.nodup_range
  have hlength := length_le_of_subset hnodup hall
  rw [List.length_map, List.length_range] at hlength
  omega

/-- The names of a list, and numbered ones after them. -/
def drawFrom (names : List String) (n : Nat) : String :=
  match names[n]? with
  | some name => name
  | none => numbered (n - names.length + 1)

/-- The source of the names of a list, and of numbered ones after them. -/
def ofList (names : List String) : NameSource where
  draw := drawFrom names
  patience := fun used _ => names.length + used.length + 1
  exists_unused := by
    intro used start
    have hpast : ∀ n, names.length ≤ n → drawFrom names n = numbered (n - names.length + 1) := by
      intro n hn
      simp [drawFrom, List.getElem?_eq_none hn]
    obtain ⟨k, hk, hunused⟩ :=
      exists_numbered_unused used (start + (names.length - start) - names.length + 1)
    refine ⟨names.length - start + k, by omega, ?_⟩
    rw [hpast _ (by omega)]
    rwa [show start + (names.length - start + k) - names.length + 1 =
      start + (names.length - start) - names.length + 1 + k by omega]

end NameSource

/-! ## Random names -/

/-- The last `count` hexadecimal digits of a number. -/
def hexDigits : Nat → Nat → List Char
  | 0, _ => []
  | count + 1, n => hexDigits count (n / 16) ++ [Nat.digitChar (n % 16)]

/-- A name made from the random bits of `n`: 32 hexadecimal digits in groups,
of which one is always `4` and another carries two random bits only. -/
def uuidName (n : Nat) : String :=
  let take (count shift : Nat) : List Char := hexDigits count (n >>> shift)
  String.ofList <| List.intercalate ['_']
    [take 8 90, take 4 74, '4' :: take 3 62,
      Nat.digitChar (8 + (n >>> 60) % 4) :: take 3 48, take 12 0]

/-- Whether a text has the form of a random name: groups of hexadecimal digits in
lower case. -/
def isRandomName (name : String) : Bool :=
  let isDigit (c : Char) : Bool := c.isDigit || ('a' ≤ c && c ≤ 'f')
  let form := name.toList.map fun c => if isDigit c then 'x' else c
  form == List.intercalate ['_'] ([8, 4, 4, 4, 12].map fun n => List.replicate n 'x')

/-- Random names from a generator of random numbers. -/
def randomNames : Nat → StdGen → List String
  | 0, _ => []
  | count + 1, gen =>
      let (n, gen) := randNat gen 0 ((1 <<< 122) - 1)
      uuidName n :: randomNames count gen

end DesiredState
