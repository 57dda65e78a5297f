/-!
# Cutting texts

## Main definitions

* `splitAtChar` — the parts of a text between the places of a character.
* `unlines` — a text of lines.
-/

namespace DesiredState

/-- The parts of a text between the places of a character. -/
def splitAtChar (separator : Char) (cs : List Char) : List (List Char) :=
  cs.foldr step [[]]
where
  /-- The parts of a text with one more character in front. -/
  step (c : Char) (parts : List (List Char)) : List (List Char) :=
    if c = separator then [] :: parts
    else
      match parts with
      | part :: parts => (c :: part) :: parts
      | [] => [[c]]

/-- Lines, each with a line end. -/
def unlines (lines : List (List Char)) : List Char := lines.flatMap (· ++ ['\n'])

end DesiredState
