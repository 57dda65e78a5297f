import DesiredState.Proofs.Redaction.Pieces
import DesiredState.Proofs.Redaction.Renaming

/-!
# Scripts with hidden secrets

Each kind of piece of a script has a condition under which it does not mislead the
search for marked literals.  When all pieces of a script keep their conditions, before
and after the secrets are renamed, the redacted copy of the script is the same before
and after it: the two scripts are two writings of one script, and alike texts stay
alike with one more piece in front.

## Main definitions

* `Piece.Calm` — the conditions of the pieces.

## Main results

* `Expr.writeWith_mapSecrets`, `Script.linesWith_mapSecrets` — renaming the secrets is
  writing them in another way.
* `Statement.alike_mapSecrets`, `Script.alike_lines` — a statement and the lines of a
  script before and after a renaming.
* `Script.redacted_mapSecrets` — the redacted copy stays the same.
-/

namespace DesiredState

open Redaction

/-! ## Calm pieces -/

/-- Whether a piece does not mislead the search: no match ends in a name, or at the
start of a literal; and none starts inside of a secret. -/
def Piece.Calm : Piece → Prop
  | name s => restLength? s.toList = none
  | text s => marks s.toList = false
  | secret s => marks s.toList = false ∧ flags s.toList = false
  | password s => marks s.toList = false

instance (p : Piece) : Decidable p.Calm := by
  cases p with
  | name s => exact inferInstanceAs (Decidable (restLength? s.toList = none))
  | text s => exact inferInstanceAs (Decidable (marks s.toList = false))
  | secret s => exact inferInstanceAs (Decidable (marks s.toList = false ∧ flags s.toList = false))
  | password s => exact inferInstanceAs (Decidable (marks s.toList = false))

/-- A piece with other secrets. -/
def Piece.mapSecrets (f : String → String) : Piece → Piece
  | secret s => .secret (f s)
  | password s => .password (f s)
  | p => p

theorem Key.mapSecrets_piece (f : String → String) (key : Key) :
    key.piece.mapSecrets f = key.piece := by cases key <;> rfl

/-! ## Words in front of alike texts -/

namespace Redaction

theorem stable_alike : Stable Alike := fun _ _ _ hlead halike => halike.same hlead.toFront

/-- A word in which no match ends may stand in front of alike texts. -/
theorem keeps_alike {word : List Char} (h : restLength? word = none) : Keeps Alike word :=
  fun _ _ _ hlead halike => halike.same (hlead.front h)

end Redaction

/-- A piece that is calm before and after its secret is renamed hides the secret. -/
theorem Piece.Calm.fits_alike {f : String → String} {p : Piece} (hbefore : p.Calm)
    (hafter : (p.mapSecrets f).Calm) :
    p.Fits Alike (fun s => (Expr.sensitive s).write) (fun s => (Expr.sensitive (f s)).write) := by
  cases p with
  | name s => exact keeps_alike hbefore
  | text s => exact keeps_alike (restLength?_write_text hbefore)
  | secret s =>
      exact fun _ _ _ hlead hhyphen halike =>
        halike.sensitive hlead hhyphen hbefore.1 hafter.1 hbefore.2 hafter.2
  | password s => exact fun _ _ halike => halike.password hbefore hafter

/-! ## Renaming as writing -/

namespace Expr

variable (f : String → String)

theorem pieces_mapSecrets (e : Expr) :
    (e.mapSecrets f).pieces = e.pieces.map (Piece.mapSecrets f) := by
  induction e using Expr.induct with
  | array items ih =>
      rw [mapSecrets_array, pieces_array, pieces_array, List.flatMap_map, List.map_flatMap,
        List.flatMap_congr ih]
  | cast typeName inner ih => rw [mapSecrets, pieces, pieces, ih]; rfl
  | table entries ih =>
      rw [mapSecrets_table, pieces_table, pieces_table, List.flatMap_map, List.map_flatMap]
      refine List.flatMap_congr fun entry hentry => ?_
      rw [List.map_cons, Key.mapSecrets_piece, ih entry hentry]
  | _ => rfl

/-- Renaming the secrets of an expression is writing them in another way. -/
theorem writeWith_mapSecrets (marked : String → List Char) (e : Expr) :
    (e.mapSecrets f).writeWith marked = e.writeWith fun s => marked (f s) := by
  induction e using Expr.induct with
  | array items ih =>
      rw [mapSecrets_array, writeWith_array, writeWith_array, List.map_map]
      exact congrArg (fun texts => '@' :: '(' :: (List.intercalate ", ".toList texts ++ [')']))
        (List.map_congr_left ih)
  | cast typeName inner ih => rw [mapSecrets, writeWith, writeWith, ih]
  | table entries ih =>
      rw [mapSecrets_table, writeWith_table, writeWith_table, List.map_map]
      exact congrArg
        (fun texts => '@' :: '\x7b' :: (List.intercalate "; ".toList texts ++ ['\x7d']))
        (List.map_congr_left fun entry hentry => congrArg (_ ++ ·) (ih entry hentry))
  | _ => rfl

end Expr

namespace Statement

variable (f : String → String)

theorem pieces_mapSecrets (s : Statement) :
    (s.mapSecrets f).pieces = s.pieces.map (Piece.mapSecrets f) := by
  cases s with
  | newCredential name c => rfl
  | newInstance name className payload =>
      rw [mapSecrets, pieces, pieces, ← Expr.mapSecrets, Expr.pieces_mapSecrets]
      rfl

theorem writeWith_mapSecrets (marked : String → List Char) (s : Statement) :
    (s.mapSecrets f).writeWith marked = s.writeWith fun t => marked (f t) := by
  cases s with
  | newCredential name c => rfl
  | newInstance name className payload =>
      rw [mapSecrets, writeWith, writeWith, ← Expr.mapSecrets, Expr.writeWith_mapSecrets]

/-- A statement on a line of its own hides its secrets, if its pieces are calm before
and after they are renamed. -/
theorem alike_mapSecrets (s : Statement) (hbefore : ∀ p ∈ s.pieces, p.Calm)
    (hafter : ∀ p ∈ (s.mapSecrets f).pieces, p.Calm) {first second : List Char}
    (h : Alike first second) :
    Alike ('\n' :: s.write ++ first) ('\n' :: (s.mapSecrets f).write ++ second) := by
  rw [pieces_mapSecrets, List.forall_mem_map] at hafter
  rw [← writeWith_sensitive s, ← writeWith_sensitive (s.mapSecrets f), writeWith_mapSecrets]
  exact related_writeWith stable_alike s (fun p hp => (hbefore p hp).fits_alike (hafter p hp)) h

/-- The statement for a credential hides its password. -/
theorem alike_newCredential {name user s t : String} (hname : (Piece.name name).Calm)
    (huser : (Piece.text user).Calm) (hs : (Piece.password s).Calm)
    (ht : (Piece.password t).Calm) {first second : List Char} (h : Alike first second) :
    Alike ('\n' :: (newCredential name ⟨user, s⟩).write ++ first)
      ('\n' :: (newCredential name ⟨user, t⟩).write ++ second) := by
  have hpieces : ∀ {password : String}, (Piece.password password).Calm →
      ∀ p ∈ (newCredential name ⟨user, password⟩).pieces, p.Calm := by
    intro password hpassword
    simp only [pieces, List.forall_mem_cons]
    exact ⟨hname, huser, hpassword, by simp⟩
  exact alike_mapSecrets (fun _ => t) (newCredential name ⟨user, s⟩) (hpieces hs) (hpieces ht) h

end Statement

/-! ## Scripts -/

namespace Script

variable (f : String → String)

theorem pieces_mapSecrets (s : Script) :
    (s.mapSecrets f).pieces = s.pieces.map (Piece.mapSecrets f) := by
  rw [pieces, pieces, mapSecrets, ← List.map_append, List.flatMap_map, List.map_append,
    List.map_flatMap, Expr.pieces_mapSecrets]
  exact congrArg (· ++ _) (List.flatMap_congr fun statement _ => statement.pieces_mapSecrets f)

theorem linesWith_mapSecrets (marked : String → List Char) (s : Script) :
    (s.mapSecrets f).linesWith marked = s.linesWith fun t => marked (f t) := by
  rw [linesWith, linesWith, mapSecrets, ← List.map_append, List.map_map,
    Expr.writeWith_mapSecrets]
  exact congrArg (· ++ _)
    (List.map_congr_left fun statement _ => statement.writeWith_mapSecrets f marked)

/-- The lines of a script hide its secrets, if its pieces are calm before and after
they are renamed. -/
theorem alike_lines (s : Script) (hbefore : ∀ p ∈ s.pieces, p.Calm)
    (hafter : ∀ p ∈ (s.mapSecrets f).pieces, p.Calm) :
    Alike (s.lines.flatMap ('\n' :: ·) ++ postscript)
      ((s.mapSecrets f).lines.flatMap ('\n' :: ·) ++ postscript) := by
  have hend : Alike postscript postscript := ⟨calm_postscript, calm_postscript, rfl⟩
  rw [pieces_mapSecrets, List.forall_mem_map] at hafter
  rw [← linesWith_sensitive s, ← linesWith_sensitive (s.mapSecrets f), linesWith_mapSecrets]
  exact related_lines stable_alike s (fun p hp => (hbefore p hp).fits_alike (hafter p hp)) hend

/-- The redacted copy of a script stays the same when its secrets are renamed, if its
pieces are calm before and after that. -/
theorem redacted_mapSecrets (s : Script) (hbefore : ∀ p ∈ s.pieces, p.Calm)
    (hafter : ∀ p ∈ (s.mapSecrets f).pieces, p.Calm) :
    (s.mapSecrets f).redacted = s.redacted := by
  have halike := alike_lines f s hbefore hafter
  rw [redacted, redacted, write_eq, write_eq, List.append_assoc, List.append_assoc,
    redact_append halike.calm_first, redact_append halike.calm_second, halike.redact_eq]

end Script

end DesiredState
