import DesiredState.Proofs.Literal.Number
import DesiredState.Proofs.Redaction.Literals
import DesiredState.Proofs.Script.References
import DesiredState.Script.Assembly

/-!
# The pieces of scripts

A script is made of fixed words, of numbers, and of four kinds of pieces that come
from outside: names, which are written as they are, texts, secrets, and the
passwords of credentials, which stand behind the flag.

What is written in the place of a secret can be varied, while all other characters
stay as they are.  Two such writings of one script are compared from the end of the
script to its start: what was written so far is related, and stays related with one
more piece in front.  So a relation holds of two writings of a whole script, if an
opening may be put in front of related texts, and each piece fits between an opening
and related texts.

## Main definitions

* `Piece`, `Expr.pieces`, `Statement.pieces`, `Script.pieces` — the pieces in the
  order of the text.
* `Expr.writeWith`, `Statement.writeWith`, `Script.writeWith` — the text with secrets
  written in a given way.
* `Stable`, `Piece.Fits` — relations that openings keep, and that a piece keeps.

## Main results

* `Script.writeWith_sensitive` — with marked literals it is the text of the script.
* `Script.writeWith_eq` — a script is the preamble, its lines, and the postscript.
* `Expr.fits_writeWith`, `Statement.related_writeWith`, `Script.related_lines` — two
  writings are related, if all pieces fit.
-/

namespace DesiredState

open Redaction

/-! ## Pieces -/

/-- A piece of a script that comes from outside. -/
inductive Piece where
  /-- A bare word, the name of a type, or the name of a variable. -/
  | name (s : String)
  | text (s : String)
  /-- A text that is marked for redaction. -/
  | secret (s : String)
  /-- A marked text behind the password flag. -/
  | password (s : String)
  deriving DecidableEq

/-- The piece that a key is. -/
def Key.piece : Key → Piece
  | bare name => .name name
  | quoted name => .text name

namespace Expr

mutual

/-- The pieces of an expression. -/
def pieces : Expr → List Piece
  | text s => [.text s]
  | sensitive s => [.secret s]
  | array items => itemPieces items
  | cast typeName inner => .name typeName :: pieces inner
  | table entries => entryPieces entries
  | variableRef name => [.name name]
  | _ => []

/-- The pieces of the items of an array. -/
def itemPieces : List Expr → List Piece
  | [] => []
  | item :: rest => pieces item ++ itemPieces rest

/-- The pieces of the entries of a table. -/
def entryPieces : List (Key × Expr) → List Piece
  | [] => []
  | (key, value) :: rest => key.piece :: (pieces value ++ entryPieces rest)

end

theorem pieces_array (items : List Expr) : (array items).pieces = items.flatMap pieces := by
  rw [pieces]
  induction items with
  | nil => rfl
  | cons item rest ih => rw [itemPieces, ih, List.flatMap_cons]

theorem pieces_table (entries : List (Key × Expr)) :
    (table entries).pieces = entries.flatMap fun entry => entry.1.piece :: entry.2.pieces := by
  rw [pieces]
  induction entries with
  | nil => rfl
  | cons entry rest ih => rw [entryPieces, ih, List.flatMap_cons]; rfl

end Expr

/-- The pieces of a statement. -/
def Statement.pieces : Statement → List Piece
  | newCredential name c => [.name name, .text c.user, .password c.password]
  | newInstance name className payload =>
      .name name :: .text className :: (Expr.table payload).pieces

/-- The pieces of a script. -/
def Script.pieces (s : Script) : List Piece :=
  (s.credentials ++ s.instances).flatMap Statement.pieces ++ s.block.pieces

theorem quote_not_mem_numbered (n : Nat) : '\'' ∉ (NameSource.numbered n).toList := by
  rw [NameSource.numbered, String.toList_ofList, List.mem_cons, not_or]
  exact ⟨by decide, fun h => absurd (Literal.isDigit_of_mem_writeNat h) (by decide)⟩

/-! ## Writing secrets in a given way -/

namespace Expr

mutual

/-- The text of an expression in which sensitive texts are written in a given way. -/
def writeWith (marked : String → List Char) : Expr → List Char
  | sensitive s => marked s
  | array items =>
      '@' :: '(' :: (List.intercalate ", ".toList (itemsWriteWith marked items) ++ [')'])
  | cast typeName inner => '[' :: (typeName.toList ++ ']' :: writeWith marked inner)
  | table entries =>
      '@' :: '\x7b' :: (List.intercalate "; ".toList (entriesWriteWith marked entries) ++
        ['\x7d'])
  | e => e.write

/-- The texts of the items of an array. -/
def itemsWriteWith (marked : String → List Char) : List Expr → List (List Char)
  | [] => []
  | item :: rest => writeWith marked item :: itemsWriteWith marked rest

/-- The texts of the entries of a table. -/
def entriesWriteWith (marked : String → List Char) : List (Key × Expr) → List (List Char)
  | [] => []
  | (key, value) :: rest =>
      (writeKey key ++ " = ".toList ++ writeWith marked value) :: entriesWriteWith marked rest

end

section WriteWith

variable (marked : String → List Char)

theorem itemsWriteWith_eq (items : List Expr) :
    itemsWriteWith marked items = items.map (writeWith marked) := by
  induction items with
  | nil => rfl
  | cons item rest ih => rw [itemsWriteWith, ih, List.map_cons]

theorem entriesWriteWith_eq (entries : List (Key × Expr)) :
    entriesWriteWith marked entries = entries.map fun entry =>
      writeKey entry.1 ++ " = ".toList ++ writeWith marked entry.2 := by
  induction entries with
  | nil => rfl
  | cons entry rest ih => rw [entriesWriteWith, ih, List.map_cons]

theorem writeWith_array (items : List Expr) :
    (array items).writeWith marked =
      '@' :: '(' :: (List.intercalate ", ".toList (items.map (writeWith marked)) ++ [')']) := by
  rw [writeWith, itemsWriteWith_eq]

theorem writeWith_table (entries : List (Key × Expr)) :
    (table entries).writeWith marked =
      '@' :: '\x7b' :: (List.intercalate "; ".toList (entries.map fun entry =>
        writeKey entry.1 ++ " = ".toList ++ writeWith marked entry.2) ++ ['\x7d']) := by
  rw [writeWith, entriesWriteWith_eq]

end WriteWith

/-- With marked literals it is the text of the expression. -/
theorem writeWith_sensitive (e : Expr) : e.writeWith (fun s => (sensitive s).write) = e.write := by
  induction e using Expr.induct with
  | array items ih => rw [writeWith_array, write_array, List.map_congr_left ih]
  | cast typeName inner ih => rw [writeWith, ih, write_cast]
  | table entries ih =>
      have hentries : (entries.map fun entry => writeKey entry.1 ++ " = ".toList ++
          entry.2.writeWith fun s => (sensitive s).write) =
          entries.map fun entry => writeKey entry.1 ++ " = ".toList ++ entry.2.write :=
        List.map_congr_left fun entry hentry => congrArg (_ ++ ·) (ih entry hentry)
      rw [writeWith_table, write_table, hentries]
  | _ => rfl

end Expr

namespace Statement

/-- The text of a statement in which sensitive texts are written in a given way. -/
def writeWith (marked : String → List Char) : Statement → List Char
  | newCredential name credential =>
      '$' :: (name.toList ++ " = New-PSCredential -User ".toList ++
        (Expr.text credential.user).write ++ " -Password ".toList ++ marked credential.password)
  | newInstance name className payload =>
      '$' :: (name.toList ++ " = New-CimInstance -ClientOnly -ClassName ".toList ++
        (Expr.text className).write ++ " -Property ".toList ++
          (Expr.table payload).writeWith marked)

theorem writeWith_sensitive (s : Statement) :
    s.writeWith (fun t => (Expr.sensitive t).write) = s.write := by
  cases s with
  | newCredential => rfl
  | newInstance => rw [writeWith, Expr.writeWith_sensitive]; rfl

theorem write_newCredential (name : String) (c : Credential) :
    (newCredential name c).write = '$' :: (name.toList ++ " = New-PSCredential -User ".toList ++
      (Expr.text c.user).write ++ " -Password ".toList ++ (Expr.sensitive c.password).write) := rfl

theorem write_newInstance (name className : String) (payload : List (Key × Expr)) :
    (newInstance name className payload).write =
      '$' :: (name.toList ++ " = New-CimInstance -ClientOnly -ClassName ".toList ++
        (Expr.text className).write ++ " -Property ".toList ++ (Expr.table payload).write) := rfl

end Statement

namespace Script

/-- The lines of the part made for an invocation, with sensitive texts written in a
given way. -/
def linesWith (marked : String → List Char) (s : Script) : List (List Char) :=
  (s.credentials ++ s.instances).map (Statement.writeWith marked) ++
    ["$InvokeParams = ".toList ++ s.block.writeWith marked]

/-- The characters of a script in which sensitive texts are written in a given way. -/
def writeWith (marked : String → List Char) (s : Script) : List Char :=
  joinLines (preambleLines.map String.toList ++ [joinLines (s.linesWith marked)] ++
    postscriptLines.map String.toList) ++ ['\n']

/-- The lines of the part made for an invocation. -/
def lines (s : Script) : List (List Char) :=
  (s.credentials ++ s.instances).map Statement.write ++ [writeAssignment s.block]

theorem linesWith_sensitive (s : Script) :
    s.linesWith (fun t => (Expr.sensitive t).write) = s.lines := by
  have hstatements : (s.credentials ++ s.instances).map
      (Statement.writeWith fun t => (Expr.sensitive t).write) =
        (s.credentials ++ s.instances).map Statement.write :=
    List.map_congr_left fun statement _ => statement.writeWith_sensitive
  have hblock : "$InvokeParams = ".toList ++ s.block.writeWith (fun t => (Expr.sensitive t).write) =
      writeAssignment s.block := congrArg (_ ++ ·) s.block.writeWith_sensitive
  rw [linesWith, lines, hstatements, hblock]

/-- With marked literals it is the text of the script. -/
theorem writeWith_sensitive (s : Script) :
    s.writeWith (fun t => (Expr.sensitive t).write) = s.write := by
  rw [writeWith, linesWith_sensitive, lines, List.map_append, write, body]

/-! ## The parts of a script -/

/-- The text in front of the part made for an invocation. -/
def preamble : List Char := joinLines (preambleLines.map String.toList)

/-- The text behind the part made for an invocation. -/
def postscript : List Char :=
  (postscriptLines.map String.toList).flatMap ('\n' :: ·) ++ ['\n']

theorem joinLines_cons (first : List Char) (rest : List (List Char)) :
    joinLines (first :: rest) = first ++ rest.flatMap ('\n' :: ·) := by
  rw [joinLines, Value.intercalate_cons]
  rfl

/-- Behind other text, each line starts with a line feed. -/
theorem cons_joinLines {lines : List (List Char)} (h : lines ≠ []) :
    '\n' :: joinLines lines = lines.flatMap ('\n' :: ·) := by
  obtain ⟨first, rest, rfl⟩ := List.exists_cons_of_ne_nil h
  rw [joinLines_cons, List.flatMap_cons]
  rfl

/-- A script is the preamble, its lines, and the postscript. -/
theorem writeWith_eq (marked : String → List Char) (s : Script) :
    s.writeWith marked =
      preamble ++ (s.linesWith marked).flatMap ('\n' :: ·) ++ postscript := by
  have hbody : '\n' :: joinLines (s.linesWith marked) =
      (s.linesWith marked).flatMap ('\n' :: ·) := cons_joinLines (by simp [linesWith])
  rw [writeWith, preamble, postscript, ← hbody]
  cases h : preambleLines.map String.toList with
  | nil => cases h
  | cons first rest =>
      rw [List.cons_append, List.cons_append, joinLines_cons, joinLines_cons]
      simp only [List.flatMap_append, List.flatMap_cons, List.append_assoc, List.cons_append,
        List.nil_append]

theorem write_eq (s : Script) :
    s.write = preamble ++ s.lines.flatMap ('\n' :: ·) ++ postscript := by
  rw [← writeWith_sensitive, writeWith_eq, linesWith_sensitive]

theorem calm_postscript : Calm postscript := by
  have hguards : guards postscript = true := by decide +kernel
  have hclosed : restLength? postscript = none := by decide +kernel
  exact ⟨hguards, hclosed⟩

end Script

/-! ## Related texts -/

namespace Redaction

/-- A relation between texts that is kept when the same opening is put in front of
both. -/
def Stable (R : List Char → List Char → Prop) : Prop :=
  ∀ lead first second, Opening lead → R first second → R (lead ++ first) (lead ++ second)

/-- Whether a word may stand between an opening and related texts. -/
def Keeps (R : List Char → List Char → Prop) (word : List Char) : Prop :=
  ∀ lead first second, Opening lead → R first second →
    R (lead ++ word ++ first) (lead ++ word ++ second)

/-- Whether two texts may stand between an opening without hyphens and related
texts. -/
def Fits (R : List Char → List Char → Prop) (one other : List Char) : Prop :=
  ∀ lead first second, Opening lead → '-' ∉ lead → R first second →
    R (lead ++ one ++ first) (lead ++ other ++ second)

end Redaction

/-- Whether a piece may be written in either way in front of related texts. -/
def Piece.Fits (R : List Char → List Char → Prop) (one other : String → List Char) :
    Piece → Prop
  | name s => Keeps R s.toList
  | text s => Keeps R (Expr.text s).write
  | secret s => Redaction.Fits R (one s) (other s)
  | password s => ∀ first second, R first second →
      R (' ' :: passwordFlag ++ one s ++ first) (' ' :: passwordFlag ++ other s ++ second)

namespace Redaction

variable {R : List Char → List Char → Prop}

theorem Keeps.fits {word : List Char} (h : Keeps R word) : Fits R word word :=
  fun lead first second hlead _ hrelated => h lead first second hlead hrelated

/-- A word behind characters other than quotes. -/
theorem Keeps.behind {word : List Char} (h : Keeps R word) (front : List Char)
    (hfront : '\'' ∉ front) : Keeps R (front ++ word) := by
  intro lead first second hlead hrelated
  have hword := h (lead ++ front) first second (hlead.append hfront) hrelated
  simpa only [List.append_assoc] using hword

variable {α : Type} {one other : α → List Char} {sep bracket closer : List Char}

/-- Texts behind separators. -/
theorem separated {first second : List Char} (h : R first second) (hsep : Opening sep)
    (hhyphen : '-' ∉ sep) {items : List α}
    (hitems : ∀ item ∈ items, Fits R (one item) (other item)) :
    R ((items.map one).flatMap (sep ++ ·) ++ first)
      ((items.map other).flatMap (sep ++ ·) ++ second) := by
  induction items with
  | nil => exact h
  | cons item rest ih =>
      obtain ⟨hitem, hrest⟩ := List.forall_mem_cons.1 hitems
      have hnext := hitem sep _ _ hsep hhyphen (ih hrest)
      simpa only [List.map_cons, List.flatMap_cons, List.append_assoc] using hnext

section Stable

variable (hR : Stable R)

include hR

/-- A word without quotes may stand behind any opening. -/
theorem Stable.keeps (word : List Char) (h : '\'' ∉ word) : Keeps R word :=
  fun _ first second hlead hrelated => hR _ first second (hlead.append h) hrelated

/-- What may stand anywhere without an opening in front of it may stand behind one. -/
theorem Stable.fits {cs ds : List Char}
    (h : ∀ first second, R first second → R (cs ++ first) (ds ++ second)) : Fits R cs ds := by
  intro lead first second hlead _ hrelated
  rw [List.append_assoc, List.append_assoc]
  exact hR lead _ _ hlead (h first second hrelated)

/-- Texts between brackets, with separators between them. -/
theorem bracketed {first second : List Char} (h : R first second) (hsep : Opening sep)
    (hsepHyphen : '-' ∉ sep) (hbracket : Opening bracket) (hhyphen : '-' ∉ bracket)
    (hcloser : Opening closer) {items : List α}
    (hitems : ∀ item ∈ items, Fits R (one item) (other item)) :
    R (bracket ++ (List.intercalate sep (items.map one) ++ closer) ++ first)
      (bracket ++ (List.intercalate sep (items.map other) ++ closer) ++ second) := by
  have hclosed := hR closer first second hcloser h
  cases items with
  | nil =>
      have hopened := hR bracket _ _ hbracket hclosed
      simpa only [List.map_nil, List.intercalate_nil, List.nil_append, List.append_nil,
        List.append_assoc] using hopened
  | cons item rest =>
      obtain ⟨hitem, hrest⟩ := List.forall_mem_cons.1 hitems
      have hall := hitem bracket _ _ hbracket hhyphen (separated hclosed hsep hsepHyphen hrest)
      rw [List.map_cons, List.map_cons, Value.intercalate_cons, Value.intercalate_cons]
      simpa only [List.append_assoc] using hall

end Stable

end Redaction

/-! ## Related expressions -/

namespace Expr

theorem quote_not_mem_writeInt (i : Int) : '\'' ∉ writeInt i := by
  intro h
  exact absurd (Literal.isNumberChar_of_mem_writeInt h) (by decide)

theorem quote_not_mem_writeFloat (x : Binary64) : '\'' ∉ floatLayout.write x := by
  cases x with
  | nan => decide
  | infinite negative => cases negative <;> decide
  | finite negative mantissa exponent canonical =>
      intro h
      exact absurd (Literal.isNumberChar_of_mem_write _ negative mantissa exponent canonical h)
        (by decide)

variable {R : List Char → List Char → Prop} {one other : String → List Char}

theorem keeps_writeKey {key : Key} (h : key.piece.Fits R one other) : Keeps R (writeKey key) := by
  cases key <;> exact h

/-- An entry with the same key, and values that may stand at the same place. -/
theorem fits_entry {key : Key} (hkey : key.piece.Fits R one other) {cs ds : List Char}
    (h : Redaction.Fits R cs ds) :
    Redaction.Fits R (writeKey key ++ " = ".toList ++ cs)
      (writeKey key ++ " = ".toList ++ ds) := by
  intro lead first second hlead _ hrelated
  have hassign : Opening " = ".toList := .of_guards (by decide) (by decide) (by decide)
  have hvalue := h " = ".toList first second hassign (by decide) hrelated
  have hentry := keeps_writeKey hkey lead _ _ hlead hvalue
  simpa only [List.append_assoc] using hentry

variable (hR : Stable R)

include hR

theorem related_array {items : List Expr}
    (hitems : ∀ item ∈ items, Redaction.Fits R (item.writeWith one) (item.writeWith other))
    {first second : List Char} (h : R first second) :
    R ((array items).writeWith one ++ first) ((array items).writeWith other ++ second) := by
  have hsep : Opening ", ".toList := .of_guards (by decide) (by decide) (by decide)
  have hbracket : Opening ['@', '('] := .of_guards (by decide) (by decide) (by decide)
  have hcloser : Opening [')'] := .of_head (by decide) (by decide)
  rw [writeWith_array, writeWith_array]
  exact bracketed hR h hsep (by decide) hbracket (by decide) hcloser hitems

theorem related_table {entries : List (Key × Expr)}
    (hkeys : ∀ entry ∈ entries, entry.1.piece.Fits R one other)
    (hvalues : ∀ entry ∈ entries,
      Redaction.Fits R (entry.2.writeWith one) (entry.2.writeWith other))
    {first second : List Char} (h : R first second) :
    R ((table entries).writeWith one ++ first) ((table entries).writeWith other ++ second) := by
  have hsep : Opening "; ".toList := .of_guards (by decide) (by decide) (by decide)
  have hbracket : Opening ['@', '\x7b'] := .of_guards (by decide) (by decide) (by decide)
  have hcloser : Opening ['\x7d'] := .of_head (by decide) (by decide)
  rw [writeWith_table, writeWith_table]
  exact bracketed hR h hsep (by decide) hbracket (by decide) hcloser
    fun entry hentry => fits_entry (hkeys entry hentry) (hvalues entry hentry)

/-- Two writings of an expression may stand at the same place, if all its pieces fit. -/
theorem fits_writeWith (e : Expr) (h : ∀ p ∈ e.pieces, p.Fits R one other) :
    Redaction.Fits R (e.writeWith one) (e.writeWith other) := by
  induction e using Expr.induct with
  | null => exact (hR.keeps "$null".toList (by decide)).fits
  | bool b =>
      cases b with
      | true => exact (hR.keeps "$true".toList (by decide)).fits
      | false => exact (hR.keeps "$false".toList (by decide)).fits
  | int i => exact (hR.keeps _ (quote_not_mem_writeInt i)).fits
  | float x => exact (hR.keeps _ (quote_not_mem_writeFloat x)).fits
  | text s =>
      have hs : Keeps R (text s).write := h (.text s) (by simp [pieces])
      exact hs.fits
  | sensitive s => exact h (.secret s) (by simp [pieces])
  | array items ih =>
      rw [pieces_array] at h
      refine hR.fits fun first second => related_array hR fun item hitem => ih item hitem ?_
      exact fun p hp => h p (List.mem_flatMap.2 ⟨item, hitem, hp⟩)
  | cast typeName inner ih =>
      have hname : Keeps R ('[' :: typeName.toList) :=
        Keeps.behind (h (.name typeName) (by simp [pieces])) ['['] (by decide)
      intro lead first second hlead hhyphen hrelated
      have hinner := ih (fun p hp => h p (List.mem_cons_of_mem _ hp)) [']'] first second
        (.of_head (by decide) (by decide)) (by decide) hrelated
      have hopened := hname lead _ _ hlead hinner
      rw [writeWith, writeWith]
      simpa only [List.append_assoc, List.cons_append, List.nil_append] using hopened
  | table entries ih =>
      rw [pieces_table] at h
      refine hR.fits fun first second => related_table hR (fun entry hentry => ?_)
        fun entry hentry => ih entry hentry fun p hp => ?_
      · exact h _ (List.mem_flatMap.2 ⟨entry, hentry, List.mem_cons_self⟩)
      · exact h p (List.mem_flatMap.2 ⟨entry, hentry, List.mem_cons_of_mem _ hp⟩)
  | variableRef name =>
      have hname : Keeps R ('$' :: name.toList) :=
        Keeps.behind (h (.name name) (by simp [pieces])) ['$'] (by decide)
      exact hname.fits

/-- Two writings of a table stay related, whatever stands in front of them. -/
theorem related_writeWith_table {entries : List (Key × Expr)}
    (h : ∀ p ∈ (table entries).pieces, p.Fits R one other) {first second : List Char}
    (hrelated : R first second) :
    R ((table entries).writeWith one ++ first) ((table entries).writeWith other ++ second) := by
  rw [pieces_table] at h
  refine related_table hR (fun entry hentry => ?_)
    (fun entry hentry => fits_writeWith hR entry.2 fun p hp => ?_) hrelated
  · exact h _ (List.mem_flatMap.2 ⟨entry, hentry, List.mem_cons_self⟩)
  · exact h p (List.mem_flatMap.2 ⟨entry, hentry, List.mem_cons_of_mem _ hp⟩)

end Expr

/-! ## Related statements and scripts -/

section Related

variable {R : List Char → List Char → Prop} {one other : String → List Char} (hR : Stable R)

include hR

/-- Two writings of a statement on a line of its own stay related, if all its pieces
fit. -/
theorem Statement.related_writeWith (s : Statement) (h : ∀ p ∈ s.pieces, p.Fits R one other)
    {first second : List Char} (hrelated : R first second) :
    R ('\n' :: s.writeWith one ++ first) ('\n' :: s.writeWith other ++ second) := by
  have hline : Opening ['\n', '$'] := .of_head (by decide) (by decide)
  cases s with
  | newCredential name c =>
      have hname : Keeps R name.toList := h (.name name) (by simp [pieces])
      have huser : Keeps R (Expr.text c.user).write := h (.text c.user) (by simp [pieces])
      have hpassword : R (" -Password ".toList ++ one c.password ++ first)
          (" -Password ".toList ++ other c.password ++ second) :=
        h (.password c.password) (by simp [pieces]) first second hrelated
      have hopening : Opening " = New-PSCredential -User ".toList :=
        .of_guards (by decide) (by decide) (by decide)
      have hall := hname _ _ _ hline (huser _ _ _ hopening hpassword)
      rw [writeWith, writeWith]
      simpa only [List.append_assoc, List.cons_append, List.nil_append] using hall
  | newInstance name className payload =>
      have hname : Keeps R name.toList := h (.name name) (by simp [pieces])
      have hclass : Keeps R (Expr.text className).write := h (.text className) (by simp [pieces])
      have htable := Expr.related_writeWith_table hR (fun p hp =>
        h p (List.mem_cons_of_mem _ (List.mem_cons_of_mem _ hp))) hrelated
      have hopening : Opening " = New-CimInstance -ClientOnly -ClassName ".toList :=
        .of_guards (by decide) (by decide) (by decide)
      have hproperty : Opening " -Property ".toList :=
        .of_guards (by decide) (by decide) (by decide)
      have hall := hname _ _ _ hline (hclass _ _ _ hopening (hR _ _ _ hproperty htable))
      rw [writeWith, writeWith]
      simpa only [List.append_assoc, List.cons_append, List.nil_append] using hall

/-- Two writings of the lines of a script are related, if all its pieces fit and the
relation holds at the end. -/
theorem Script.related_lines (s : Script) (h : ∀ p ∈ s.pieces, p.Fits R one other)
    (hend : R postscript postscript) :
    R ((s.linesWith one).flatMap ('\n' :: ·) ++ postscript)
      ((s.linesWith other).flatMap ('\n' :: ·) ++ postscript) := by
  rw [pieces, List.forall_mem_append] at h
  obtain ⟨hstatements, hblock⟩ := h
  rw [linesWith, linesWith]
  have hlead : Opening ('\n' :: "$InvokeParams = ".toList) := .of_head (by decide) (by decide)
  have hassigned := Expr.fits_writeWith hR s.block hblock _ _ _ hlead (by decide) hend
  generalize s.credentials ++ s.instances = statements at hstatements ⊢
  induction statements with
  | nil =>
      simpa only [List.map_nil, List.nil_append, List.flatMap_cons, List.flatMap_nil,
        List.append_nil, List.append_assoc, List.cons_append] using hassigned
  | cons statement rest ih =>
      rw [List.flatMap_cons, List.forall_mem_append] at hstatements
      have hnext := statement.related_writeWith hR hstatements.1 (ih hstatements.2)
      simpa only [List.map_cons, List.cons_append, List.flatMap_cons, List.append_assoc]
        using hnext

end Related

end DesiredState
