import DesiredState.Proofs.Redaction.Misled
import DesiredState.Proofs.Redaction.Probing
import Mathlib.Logic.Equiv.Basic

/-!
# Secrets that leak

Both conditions for the secrecy of the redacted copy are needed.  For each piece that
misleads the search there is an invocation with no other fault whose copy tells
secrets apart, and so there is for each plain password that is embedded.

A text that ends with the password flag opens a match at its closing quote.  Whether
the match is completed shows in the copy at once.  It is completed by a literal that
starts with the marker.  And it runs through a secret of quotes only, but stops at
any other; so a name or a text behind that secret completes the match for one secret,
and not for the other.

## Main definitions

* `Piece.Leaks` — a script without other faults tells secrets apart by a piece.
* `Invocation.PlainLeaks` — and by a plain password that is embedded.

## Main results

* `Piece.leaks_iff_not_calm` — the pieces that leak are those that mislead the search.
* `Invocation.plainLeaks_of_calm` — so does every plain password that is embedded.
* `Invocation.redacted_mapSecrets_exact` — secrecy under the two conditions, and that
  both are needed.
-/

namespace DesiredState

open Redaction
open SingleQuoted (escape)

/-! ## Pieces that leak -/

/-- Whether a piece alone tells secrets apart: in some script every other piece is
calm, no plain password is embedded, and a renaming of the secrets shows. -/
def Piece.Leaks (p : Piece) : Prop :=
  ∃ (source : NameSource) (inv : Invocation) (f : String → String),
    Function.Injective f ∧ inv.MarksPasswords ∧ p ∈ inv.pieces source ∧
      (∀ q ∈ inv.pieces source ++ (inv.mapSecrets f).pieces source, q = p ∨ q.Calm) ∧
        (inv.mapSecrets f).redacted source ≠ inv.redacted source

theorem Piece.Leaks.of_script {p : Piece} {source : NameSource} {inv : Invocation}
    {f : String → String} {script : Script} (hf : Function.Injective f)
    (hplain : inv.MarksPasswords) (hscript : inv.script source = .ok script)
    (hmem : p ∈ script.pieces) (hbefore : ∀ q ∈ script.pieces, q = p ∨ q.Calm)
    (hafter : ∀ q ∈ (script.mapSecrets f).pieces, q = p ∨ q.Calm)
    (hne : redact (script.mapSecrets f).write ≠ redact script.write) : p.Leaks := by
  have hmapped := Invocation.script_mapSecrets_of_ok hf hplain hscript
  refine ⟨source, inv, f, hf, hplain, ?_, ?_, ?_⟩
  · rwa [Invocation.pieces_of_script hscript]
  · rw [Invocation.pieces_of_script hscript, Invocation.pieces_of_script hmapped]
    intro q hq
    rcases List.mem_append.1 hq with hq | hq
    · exact hbefore q hq
    · exact hafter q hq
  · rw [Invocation.redacted_of_script hscript, Invocation.redacted_of_script hmapped]
    intro h
    exact hne (String.ofList_injective (Except.ok.inj h))

/-- The text that opens a match at its closing quote. -/
def openingEntry : Key × Expr := (.bare "b", .text "-Password ")

theorem Script.exists_write_opened : ∃ front back : List Char, ∀ entry rest,
    (probe (openingEntry :: entry :: rest)).write =
      front ++ (passwordFlag ++ '\'' :: ';' ::
        (' ' :: (Expr.entryText entry ++ Expr.moreEntries rest ++ back))) := by
  obtain ⟨front, back, -, hwrite⟩ := exists_write_probe
  refine ⟨front ++ '@' :: '\x7b' :: (Expr.writeKey (.bare "b") ++ " = ".toList ++ ['\'']), back,
    fun entry rest => ?_⟩
  have hopening : Expr.entryText openingEntry =
      Expr.writeKey (.bare "b") ++ " = ".toList ++ ['\''] ++ (passwordFlag ++ ['\'']) := by
    decide
  have hsep : "; ".toList = [';', ' '] := by decide
  rw [hwrite, Expr.write_table_cons, hopening, Expr.moreEntries_cons, hsep]
  simp only [List.append_assoc, List.cons_append, List.nil_append]

/-- A piece leaks that is behind the opening text, if it completes the match for one
secret only. -/
theorem Piece.Leaks.of_opened {p : Piece} {f : String → String} (hf : Function.Injective f)
    (values : Fields Value) {entry : Key × Expr} {rest : List (Key × Expr)}
    (hvalues : values.entries.map Value.entryExpr = openingEntry :: entry :: rest)
    (hmem : p ∈ (Expr.table (entry :: rest)).pieces)
    (hbefore : ∀ q ∈ (Expr.table (entry :: rest)).pieces, q = p ∨ q.Calm)
    (hafter : ∀ q ∈ (Expr.table (Expr.entriesMapSecrets f (entry :: rest))).pieces,
      q = p ∨ q.Calm)
    (hsome : ∀ back, (restLength? (Expr.entryText entry ++ Expr.moreEntries rest ++ back)).isSome)
    (hnone : ∀ back, restLength? (Expr.entryText (entry.1, entry.2.mapSecrets f) ++
      Expr.moreEntries (Expr.entriesMapSecrets f rest) ++ back) = none) : p.Leaks := by
  have hpieces : ∀ entries, (Expr.table (openingEntry :: entries)).pieces =
      [.name "b", .text "-Password "] ++ (Expr.table entries).pieces := fun _ => rfl
  have hcalm : ∀ entries : List (Key × Expr),
      (∀ q ∈ (Expr.table entries).pieces, q = p ∨ q.Calm) →
        ∀ q ∈ (Expr.table (openingEntry :: entries)).pieces, q = p ∨ q.Calm := by
    intro entries h q hq
    have hopening : ∀ q ∈ [Piece.name "b", .text "-Password "], q.Calm := by decide
    rw [hpieces] at hq
    rcases List.mem_append.1 hq with hq | hq
    · exact .inr (hopening q hq)
    · exact h q hq
  have hscript := Invocation.script_probe values (NameSource.ofList [])
  rw [hvalues] at hscript
  refine .of_script hf (Invocation.marksPasswords_probe values) hscript ?_
    (Script.calm_probe (hcalm _ hbefore)) ?_ ?_
  · rw [Script.pieces_probe, hpieces]
    simp [hmem]
  · rw [Script.mapSecrets_probe]
    exact Script.calm_probe (hcalm _ hafter)
  · obtain ⟨front, back, hwrite⟩ := Script.exists_write_opened
    rw [Script.mapSecrets_probe]
    change redact (Script.probe (openingEntry :: (entry.1, entry.2.mapSecrets f) ::
      Expr.entriesMapSecrets f rest)).write ≠ _
    rw [hwrite, hwrite]
    refine (redact_flag_ne (by decide) (by decide) (by decide) rfl rfl ?_ ?_ front).symm
    · rw [restLength?_of_ne (by decide), restLength?_of_ne (by decide), Option.isSome_map,
        Option.isSome_map]
      exact hsome back
    · rw [restLength?_of_ne (by decide), restLength?_of_ne (by decide), hnone back]
      rfl

/-! ## Every piece that misleads the search leaks -/

/-- A search comes to the value of an entry whose key has no quote. -/
theorem Expr.restLength?_entryText {name : String} (h : '\'' ∉ name.toList) (e : Expr)
    (back : List Char) : restLength? (entryText (.bare name, e) ++ back) =
      (restLength? (e.write ++ back)).map (· + (name.toList ++ " = ".toList).length) := by
  have hfront : '\'' ∉ name.toList ++ " = ".toList := by
    rw [List.mem_append, not_or]
    exact ⟨h, by decide⟩
  change restLength? (name.toList ++ " = ".toList ++ e.write ++ back) = _
  rw [List.append_assoc, restLength?_append_of_not_mem hfront]

theorem restLength?_write_sensitive_isSome {s : String} (h : marks s.toList = true)
    (back : List Char) : (restLength? ((Expr.sensitive s).write ++ back)).isSome = true := by
  rw [write_sensitive, List.cons_append, List.append_assoc, List.cons_append]
  exact restLength?_literal_isSome h _

/-- A search from outside stops at a secret that does not start with a quote. -/
theorem restLength?_write_sensitive_letter (back : List Char) :
    restLength? ((Expr.sensitive "x").write ++ back) = none := by
  have hwrite : (Expr.sensitive "x").write = '\'' :: 'x' :: '\'' :: markerTail := by decide
  rw [hwrite]
  rfl

/-- It runs through a secret that consists of a quote. -/
theorem restLength?_write_sensitive_quote (back : List Char) :
    (restLength? ((Expr.sensitive "'").write ++ back)).isSome = (restLength? back).isSome := by
  have hwrite : (Expr.sensitive "'").write = ['\'', '\'', '\'', '\''] ++ markerTail := by decide
  rw [hwrite, List.append_assoc]
  simp only [List.cons_append, List.nil_append, restLength?, Option.isSome_map,
    restLength?_append_of_not_mem quote_not_mem_markerTail]

namespace Piece

/-- A secret that starts with the marker, apart from quotes, completes an open match. -/
theorem leaks_secret_of_marks {s : String} (h : marks s.toList = true) : (secret s).Leaks := by
  have hrename : Equiv.swap s "x" s = "x" := Equiv.swap_apply_left s "x"
  have hnames : (Entries.names [("b", Value.string "-Password "), ("a", .secret s)]).Nodup := by
    simp [Entries.names]
  have hvalues : (Fields.prefixed _ hnames).entries.map Value.entryExpr =
      [openingEntry, (.bare "a", .sensitive s)] := Fields.map_entryExpr_prefixed hnames
  have hquote : '\'' ∉ "a".toList := by decide
  have hname : (name "a").Calm := by decide
  have hother : (secret "x").Calm := by decide
  refine .of_opened (Equiv.swap s "x").injective _ hvalues ?_ ?_ ?_ ?_ ?_
  · exact List.mem_cons_of_mem _ List.mem_cons_self
  · simp [Expr.pieces, Expr.entryPieces, Key.piece, hname]
  · simp [Expr.pieces, Expr.entryPieces, Expr.entriesMapSecrets, Expr.mapSecrets, Key.piece,
      hrename, hname, hother]
  · intro back
    rw [List.append_assoc, Expr.restLength?_entryText hquote, Option.isSome_map]
    exact restLength?_write_sensitive_isSome h _
  · intro back
    rw [List.append_assoc, Expr.restLength?_entryText hquote, Expr.mapSecrets, hrename,
      restLength?_write_sensitive_letter]
    rfl

/-- What completes a match behind a secret of quotes leaks: the match does not run
through another secret. -/
theorem leaks_of_behind_quote {p : Piece} (key : String) (v : Value) (hkey : key ≠ "b")
    (hkeyOther : key ≠ "a") (hmem : p ∈ [name key] ++ v.toExpr.pieces)
    (hcalm : ∀ q ∈ [name key] ++ v.toExpr.pieces, q = p ∨ q.Calm)
    (hsame : ∀ f, v.toExpr.mapSecrets f = v.toExpr)
    (hsome : ∀ back, (restLength? (Expr.moreEntries [(.bare key, v.toExpr)] ++ back)).isSome) :
    p.Leaks := by
  have hrename : Equiv.swap "'" "x" "'" = "x" := Equiv.swap_apply_left "'" "x"
  have hnames :
      (Entries.names [("b", Value.string "-Password "), ("a", .secret "'"), (key, v)]).Nodup := by
    simp [Entries.names, hkey.symm, hkeyOther.symm]
  have hvalues : (Fields.prefixed _ hnames).entries.map Value.entryExpr =
      [openingEntry, (.bare "a", .sensitive "'"), (.bare key, v.toExpr)] :=
    Fields.map_entryExpr_prefixed hnames
  have hquote : '\'' ∉ "a".toList := by decide
  have hpieces : ∀ s, (Expr.table [(.bare "a", .sensitive s), (.bare key, v.toExpr)]).pieces =
      [name "a", secret s] ++ ([name key] ++ v.toExpr.pieces) := by
    intro s
    simp [Expr.pieces, Expr.entryPieces, Key.piece]
  have hall : ∀ s, (secret s).Calm →
      ∀ q ∈ (Expr.table [(.bare "a", .sensitive s), (.bare key, v.toExpr)]).pieces,
        q = p ∨ q.Calm := by
    intro s hs q hq
    have hname : (name "a").Calm := by decide
    rw [hpieces] at hq
    rcases List.mem_append.1 hq with hq | hq
    · refine .inr ?_
      rcases List.mem_cons.1 hq with rfl | hq
      · exact hname
      · rw [List.mem_singleton.1 hq]
        exact hs
    · exact hcalm q hq
  refine .of_opened (Equiv.swap "'" "x").injective _ hvalues ?_ (hall "'" (by decide)) ?_ ?_ ?_
  · rw [hpieces]
    exact List.mem_append_right _ hmem
  · rw [Expr.entriesMapSecrets, Expr.entriesMapSecrets, Expr.entriesMapSecrets, hsame,
      Expr.mapSecrets, hrename]
    exact hall "x" (by decide)
  · intro back
    rw [List.append_assoc, Expr.restLength?_entryText hquote, Option.isSome_map,
      restLength?_write_sensitive_quote]
    exact hsome back
  · intro back
    rw [List.append_assoc, Expr.restLength?_entryText hquote, Expr.mapSecrets, hrename,
      restLength?_write_sensitive_letter]
    rfl

/-- A text that starts with the marker, apart from quotes, completes an open match. -/
theorem leaks_text_of_marks {s : String} (h : marks s.toList = true) : (text s).Leaks := by
  have hsep : '\'' ∉ "; ".toList := by decide
  have hquote : '\'' ∉ "c".toList := by decide
  have hname : (name "c").Calm := by decide
  have hpieces : (Value.string s).toExpr.pieces = [text s] := rfl
  refine leaks_of_behind_quote "c" (.string s) (by decide) (by decide) ?_ ?_ (fun f => rfl) ?_
  · simp [hpieces]
  · simp [hpieces, hname]
  · intro back
    rw [Expr.moreEntries_cons, List.append_assoc, List.append_assoc,
      restLength?_append_of_not_mem hsep, Option.isSome_map, Expr.restLength?_entryText hquote,
      Option.isSome_map]
    change (restLength? ((Expr.text s).write ++ _)).isSome = true
    rw [write_text, List.cons_append, List.append_assoc]
    exact restLength?_literal_isSome h _

/-- So does a name in which a match ends. -/
theorem leaks_name_of_isSome {s : String} (h : (restLength? s.toList).isSome = true) :
    (name s).Leaks := by
  have hne : ∀ other, restLength? other.toList = none → s ≠ other := by
    rintro other hother rfl
    rw [hother] at h
    cases h
  have hpieces : Value.null.toExpr.pieces = [] := rfl
  have hsep : '\'' ∉ "; ".toList := by decide
  refine leaks_of_behind_quote s .null (hne "b" (by decide)) (hne "a" (by decide)) ?_ ?_
    (fun f => rfl) ?_
  · simp
  · simp [hpieces]
  · intro back
    rw [Expr.moreEntries_cons, List.append_assoc, List.append_assoc,
      restLength?_append_of_not_mem hsep, Option.isSome_map]
    change (restLength? (s.toList ++ " = ".toList ++ Expr.null.write ++ _)).isSome = true
    rw [List.append_assoc, List.append_assoc]
    exact restLength?_isSome_append h _

/-- Only the literal of a single secret differs in the copies, and what is in front of
it and behind it is redacted apart. -/
theorem exists_redact_secret : ∃ front back : List Char, ∀ s : String, marks s.toList = false →
    redact (Script.probe [(.bare "a", .sensitive s)]).write =
      front ++ (redact ("@\x7ba = ".toList ++ (Expr.sensitive s).write) ++ back) := by
  obtain ⟨front, back, hback, hwrite⟩ := Script.exists_write_probe
  have hlead : Opening ("@\x7ba = ".toList) := .of_guards (by decide) (by decide) (by decide)
  have hbracket : Front ['\x7d'] := ⟨guards_cons (by decide), by decide⟩
  have hcloser : Redaction.Calm ('\x7d' :: back) := hbracket.calm hback
  refine ⟨redact front, redact ('\x7d' :: back), fun s hs => ?_⟩
  have htable : (Script.probe [(.bare "a", .sensitive s)]).write =
      front ++ ("@\x7ba = ".toList ++ (Expr.sensitive s).write ++ '\x7d' :: back) := by
    have hopened : '@' :: '\x7b' :: Expr.entryText (.bare "a", .sensitive s) =
        "@\x7ba = ".toList ++ (Expr.sensitive s).write := rfl
    rw [hwrite, Expr.write_table_cons, ← hopened]
    simp only [Expr.moreEntries, List.map_nil, List.flatMap_nil, List.nil_append,
      List.append_assoc, List.cons_append]
  have hcalm := (hlead.front (restLength?_write_sensitive hs)).calm hcloser
  rw [htable, redact_append hcalm, redact_append hcloser]

/-- A secret with a match of its own inside keeps the flag in the copy. -/
theorem redact_secret_ne_of_flags {s : String} (h : flags s.toList = true) :
    redact ("@\x7ba = ".toList ++ (Expr.sensitive s).write) ≠
      "@\x7ba = ".toList ++ redactedLiteral := by
  intro heq
  obtain ⟨part, hpart, hmatch⟩ := exists_passwordMatch?_of_flags h markerTail
  have hinfix : passwordFlag <:+: redact ("@\x7ba = ".toList ++ (Expr.sensitive s).write) := by
    refine passwordFlag_infix_redact ?_ hmatch
    rw [write_sensitive]
    exact (hpart.trans (List.suffix_cons _ _)).trans (List.suffix_append _ _)
  have hclean : ¬ passwordFlag <:+: "@\x7ba = ".toList ++ redactedLiteral := by
    decide +kernel
  rw [heq] at hinfix
  exact hclean hinfix

/-- A secret with a match of its own inside leaks. -/
theorem leaks_secret_of_flags {s : String} (hmarks : marks s.toList = false)
    (h : flags s.toList = true) : (secret s).Leaks := by
  have hrename : Equiv.swap s "x" s = "x" := Equiv.swap_apply_left s "x"
  have hnames : (Entries.names [("a", Value.secret s)]).Nodup := by simp [Entries.names]
  have hscript := Invocation.script_probe (Fields.prefixed _ hnames) (NameSource.ofList [])
  have hvalues : (Fields.prefixed _ hnames).entries.map Value.entryExpr =
      [(.bare "a", .sensitive s)] := Fields.map_entryExpr_prefixed hnames
  have hname : (name "a").Calm := by decide
  have hother : (secret "x").Calm := by decide
  have hmapped : (Script.probe [(.bare "a", .sensitive s)]).mapSecrets (Equiv.swap s "x") =
      Script.probe [(.bare "a", .sensitive "x")] := by
    rw [Script.mapSecrets_probe, Expr.entriesMapSecrets, Expr.entriesMapSecrets, Expr.mapSecrets,
      hrename]
  rw [hvalues] at hscript
  refine .of_script (Equiv.swap s "x").injective (Invocation.marksPasswords_probe _) hscript ?_
    (Script.calm_probe ?_) ?_ ?_
  · rw [Script.pieces_probe]
    simp [Expr.pieces, Expr.entryPieces]
  · simp [Expr.pieces, Expr.entryPieces, Key.piece, hname]
  · rw [hmapped]
    refine Script.calm_probe ?_
    simp [Expr.pieces, Expr.entryPieces, Key.piece, hname, hother]
  · obtain ⟨front, back, hredact⟩ := exists_redact_secret
    have hquote : '\'' ∉ "@\x7ba = ".toList := by decide
    rw [hmapped, hredact s hmarks, hredact "x" (by decide),
      redact_sensitive hquote (by decide) (by decide)]
    intro heq
    have hsame := List.append_cancel_right (List.append_cancel_left heq)
    exact redact_secret_ne_of_flags h hsame.symm

/-- The copies of two scripts differ if the user opens a match that only one of the
passwords completes. -/
theorem redact_login_ne {login s : String} (h : marks s.toList = true) :
    redact (Script.login login "-Password " "x" []).write ≠
      redact (Script.login login "-Password " s []).write := by
  have hwrite : ∀ t, (Script.login login "-Password " t []).write =
      (Script.preamble ++ '\n' :: '$' ::
          (login.toList ++ " = New-PSCredential -User ".toList ++ ['\''])) ++
        (passwordFlag ++ '\'' :: ' ' ::
          (passwordFlag ++ ((Expr.sensitive t).write ++ Script.loginBack login))) := by
    intro t
    have huser : (Expr.text "-Password ").write = '\'' :: (passwordFlag ++ ['\'']) := by decide
    have hflag : " -Password ".toList = ' ' :: passwordFlag := by decide
    rw [Script.write_login, Statement.write_newCredential, huser, hflag]
    simp only [List.map_nil, List.flatMap_nil, List.append_assoc, List.cons_append,
      List.nil_append]
  rw [hwrite, hwrite]
  refine (redact_flag_ne (by decide) (by decide) (by decide) rfl rfl ?_ ?_ _).symm
  · rw [restLength?_of_ne (by decide), restLength?_append_of_not_mem quote_not_mem_passwordFlag,
      Option.isSome_map, Option.isSome_map]
    exact restLength?_write_sensitive_isSome h _
  · rw [restLength?_of_ne (by decide), restLength?_append_of_not_mem quote_not_mem_passwordFlag,
      restLength?_write_sensitive_letter]
    rfl

/-- A password that starts with the marker, apart from quotes, completes a match that
the user opens. -/
theorem leaks_password_of_marks {s : String} (h : marks s.toList = true) : (password s).Leaks := by
  obtain ⟨k, hscript⟩ := Invocation.exists_script_login "-Password " s (NameSource.ofList [])
  have hlogin : (name ((NameSource.ofList []).draw k)).Calm :=
    restLength?_of_not_mem (quote_not_mem_draw k)
  generalize (NameSource.ofList []).draw k = login at hscript hlogin
  have hrename : Equiv.swap s "x" s = "x" := Equiv.swap_apply_left s "x"
  have hmapped : (Script.login login "-Password " s []).mapSecrets (Equiv.swap s "x") =
      Script.login login "-Password " "x" [] := by
    change Script.login login "-Password " (Equiv.swap s "x" s) [] = _
    rw [hrename]
  -- everything but the password is calm, whatever the password is
  have hpieces : ∀ t, (password t = password s ∨ (password t).Calm) →
      ∀ q ∈ (Script.login login "-Password " t []).pieces, q = password s ∨ q.Calm := by
    intro t ht q hq
    have huser : (text "-Password ").Calm := by decide
    rw [Script.pieces_login, List.flatMap_nil, List.append_nil] at hq
    rcases List.mem_append.1 hq with hq | hq
    · simp only [List.mem_cons, List.not_mem_nil, or_false] at hq
      rcases hq with rfl | rfl | rfl
      · exact .inr hlogin
      · exact .inr huser
      · exact ht
    · exact .inr (Script.calm_loginBlock hlogin q hq)
  refine .of_script (Equiv.swap s "x").injective ?_ hscript ?_ (hpieces s (.inl rfl)) ?_ ?_
  · intro entry hentry
    rw [List.mem_singleton.1 hentry, Parameter.embedsPlainPassword, Parameter.login, Bool.and_false]
    rfl
  · rw [Script.pieces_login]
    simp
  · rw [hmapped]
    exact hpieces "x" (.inr (by decide))
  · rw [hmapped]
    exact redact_login_ne h

/-- Every piece that misleads the search leaks. -/
theorem leaks_of_not_calm {p : Piece} (h : ¬ p.Calm) : p.Leaks := by
  cases p with
  | name s => exact leaks_name_of_isSome (Option.isSome_iff_ne_none.2 h)
  | text s => exact leaks_text_of_marks (Bool.not_eq_false _ ▸ h)
  | secret s =>
      by_cases hmarks : marks s.toList = true
      · exact leaks_secret_of_marks hmarks
      · rw [Bool.not_eq_true] at hmarks
        refine leaks_secret_of_flags hmarks ?_
        by_contra hflags
        exact h ⟨hmarks, Bool.not_eq_true _ ▸ hflags⟩
  | password s => exact leaks_password_of_marks (Bool.not_eq_false _ ▸ h)

/-- The pieces that leak are those that mislead the search. -/
theorem leaks_iff_not_calm (p : Piece) : p.Leaks ↔ ¬ p.Calm := by
  constructor
  · rintro ⟨source, inv, f, hf, hplain, -, hcalm, hne⟩ h
    apply hne
    refine Invocation.redacted_mapSecrets hf hplain ?_
    intro q hq
    rcases hcalm q hq with rfl | hq
    · exact h
    · exact hq
  · exact leaks_of_not_calm

end Piece

/-! ## Plain passwords that are embedded -/

namespace Invocation

/-- Another password with another first character. -/
theorem exists_other_password (s : String) :
    ∃ other : String, (Piece.text other).Calm ∧
      other.toList.headD '\'' ≠ s.toList.headD '\'' := by
  by_cases h : s.toList.headD '\'' = 'x'
  · refine ⟨"y", by decide, ?_⟩
    rw [h]
    decide
  · refine ⟨"x", by decide, ?_⟩
    intro hx
    exact h hx.symm

/-- The parts of a script with an embedded plain password are redacted apart. -/
theorem redact_login_plain {login embedded password : String} (hlogin : (Piece.name login).Calm)
    (hembedded : '\'' ∉ embedded.toList) (hpassword : (Piece.text password).Calm)
    (hcalm : Redaction.Calm ('\n' :: (Statement.newCredential login ⟨"u", password⟩).write)) :
    redact (Script.login login "u" password [Script.plainStatement embedded password]).write =
      redact Script.preamble ++
        redact ('\n' :: (Statement.newCredential login ⟨"u", password⟩).write) ++
          (redact (Script.plainFront embedded) ++ redact (Script.plainBack login password)) := by
  have hback := Script.calm_plainBack hlogin hpassword
  rw [Script.write_login_plain, ← List.append_assoc,
    redact_append ((Script.front_plainFront hembedded).calm hback), redact_append hcalm,
    redact_append hback]

/-- The copies of two scripts with different plain passwords differ: they show the
first characters of the passwords. -/
theorem redact_login_plain_ne {login embedded s t : String} (hlogin : (Piece.name login).Calm)
    (hembedded : '\'' ∉ embedded.toList) (hs : (Piece.text s).Calm) (ht : (Piece.text t).Calm)
    (hhead : t.toList.headD '\'' ≠ s.toList.headD '\'') :
    redact (Script.login login "u" t [Script.plainStatement embedded t]).write ≠
      redact (Script.login login "u" s [Script.plainStatement embedded s]).write := by
  have huser : (Piece.text "u").Calm := by decide
  have halike := Statement.alike_newCredential hlogin huser hs ht alike_nil
  rw [List.append_nil, List.append_nil] at halike
  rw [redact_login_plain hlogin hembedded ht halike.calm_second,
    redact_login_plain hlogin hembedded hs halike.calm_first, halike.redact_eq]
  intro heq
  have hsame := List.append_cancel_left (List.append_cancel_left heq)
  have hassign : '\'' ∉ " = ".toList ∧ '-' ∉ " = ".toList := by decide
  have hclosed : restLength? ('\'' :: '\x7d' :: Script.loginBack login) = none := rfl
  obtain ⟨first, hfirst⟩ := exists_redact_literal hassign.1 hassign.2 hclosed t.toList
  obtain ⟨second, hsecond⟩ := exists_redact_literal hassign.1 hassign.2 hclosed s.toList
  rw [Script.plainBack, Script.plainBack, hfirst, hsecond] at hsame
  have hheads := (List.cons.inj (List.append_cancel_left hsame)).2
  exact hhead (List.cons.inj hheads).1

/-- A renaming of an embedded plain password. -/
theorem mapSecrets_login (f : String → String) (s : String) :
    (login "u" (.string s) true).mapSecrets f = login "u" (.string (f s)) true := by
  have hparameter : (Parameter.login "u" (.string s) true).mapSecrets f =
      .login "u" (.string (f s)) true := by
    have htype : (DeclaredType.mk "PSCredential").isCredential = true := by decide
    rw [Parameter.mapSecrets, Parameter.login, Parameter.login, if_pos htype]
    rfl
  simp only [mapSecrets, login, parametersMapSecrets, List.map_cons, List.map_nil, hparameter]

/-- No piece of the script with an embedded plain password misleads the search unless
the password does. -/
theorem calm_login_plain {login embedded password : String} (hlogin : (Piece.name login).Calm)
    (hembedded : (Piece.name embedded).Calm) (hpassword : (Piece.text password).Calm) :
    ∀ p ∈ (Script.login login "u" password [Script.plainStatement embedded password]).pieces,
      p.Calm := by
  intro p hp
  have hfixed : ∀ p ∈ [Piece.text "u", .text "PSCredential", .text "user", .text "password"],
      p.Calm := by decide
  rw [Script.pieces_login] at hp
  rcases List.mem_append.1 hp with hp | hp
  · simp only [Script.plainStatement, List.flatMap_cons, List.flatMap_nil, Statement.pieces,
      Expr.pieces, Expr.entryPieces, Key.piece, List.cons_append, List.nil_append,
      List.append_nil, List.mem_cons, List.not_mem_nil, or_false] at hp
    rcases hp with rfl | rfl | rfl | rfl | rfl | rfl | rfl | rfl | rfl
    · exact hlogin
    · exact hfixed _ (by simp)
    · exact hpassword
    · exact hembedded
    · exact hfixed _ (by simp)
    · exact hfixed _ (by simp)
    · exact hfixed _ (by simp)
    · exact hfixed _ (by simp)
    · exact hpassword
  · exact Script.calm_loginBlock hlogin p hp

/-- Whether a plain password shows when it is embedded: some invocation embeds it, no
piece of its script misleads the search, and a renaming of the secrets shows. -/
def PlainLeaks (s : String) : Prop :=
  ∃ (source : NameSource) (inv : Invocation) (f : String → String),
    Function.Injective f ∧
      (∃ entry ∈ inv.parameters.entries, entry.2.embedsPlainPassword = true ∧
        entry.2.value.get? "password" = some (.string s)) ∧
      (∀ p ∈ inv.pieces source ++ (inv.mapSecrets f).pieces source, p.Calm) ∧
        (inv.mapSecrets f).redacted source ≠ inv.redacted source

/-- Every plain password leaks when it is embedded. -/
theorem plainLeaks_of_calm {s : String} (h : (Piece.text s).Calm) : PlainLeaks s := by
  obtain ⟨t, ht, hhead⟩ := exists_other_password s
  obtain ⟨k, j, hscript⟩ := exists_script_login_embedded (NameSource.ofList [])
  have hrename : Equiv.swap s t s = t := Equiv.swap_apply_left s t
  have hembedded := quote_not_mem_draw j
  have hlogin : (Piece.name ((NameSource.ofList []).draw k)).Calm :=
    restLength?_of_not_mem (quote_not_mem_draw k)
  have hmapped : ((login "u" (.string s) true).mapSecrets (Equiv.swap s t)).script
      (NameSource.ofList []) = .ok (Script.login ((NameSource.ofList []).draw k) "u" t
        [Script.plainStatement ((NameSource.ofList []).draw j) t]) := by
    rw [mapSecrets_login, hrename, hscript t]
  have hother : (Piece.name ((NameSource.ofList []).draw j)).Calm :=
    restLength?_of_not_mem hembedded
  refine ⟨NameSource.ofList [], login "u" (.string s) true, Equiv.swap s t,
    (Equiv.swap s t).injective, ⟨_, List.mem_singleton_self _, ?_, rfl⟩, ?_, ?_⟩
  · have htype : (DeclaredType.mk "PSCredential").isCredential = true := by decide
    rw [Parameter.embedsPlainPassword, Parameter.login, htype]
    rfl
  · rw [pieces_of_script (hscript s), pieces_of_script hmapped]
    intro p hp
    rcases List.mem_append.1 hp with hp | hp
    · exact calm_login_plain hlogin hother h p hp
    · exact calm_login_plain hlogin hother ht p hp
  · rw [redacted_of_script (hscript s), redacted_of_script hmapped]
    intro heq
    exact redact_login_plain_ne hlogin hembedded h ht hhead
      (String.ofList_injective (Except.ok.inj heq))

/-! ## The exact conditions -/

/-- Two invocations that differ by a renaming of secrets, which keeps them apart, have
the same redacted copy or fail alike, if no piece of their scripts misleads the search
and no plain password is embedded.  The pieces that mislead the search are those that
leak where these conditions fail by them alone, and every plain password leaks so. -/
theorem redacted_mapSecrets_exact (source : NameSource) (inv : Invocation)
    {f : String → String} (hf : Function.Injective f) :
    (inv.MarksPasswords →
      (∀ p ∈ inv.pieces source ++ (inv.mapSecrets f).pieces source, p.Calm) →
        (inv.mapSecrets f).redacted source = inv.redacted source) ∧
    (∀ p : Piece, p.Leaks ↔ ¬ p.Calm) ∧
    ∀ s : String, (Piece.text s).Calm → PlainLeaks s := by
  refine ⟨?_, ?_, ?_⟩
  · intro hplain hcalm
    exact redacted_mapSecrets hf hplain hcalm
  · intro p
    exact p.leaks_iff_not_calm
  · intro s hs
    exact plainLeaks_of_calm hs

/-- Without conditions on the pieces a renaming of the secrets can show. -/
theorem not_forall_redacted_mapSecrets :
    ¬ ∀ (source : NameSource) (inv : Invocation) (f : String → String),
      Function.Injective f → (inv.mapSecrets f).redacted source = inv.redacted source := by
  intro hall
  have hmisled : ¬ (Piece.secret " <# Sensitive #>hunter2").Calm := by decide
  obtain ⟨source, inv, f, hf, -, -, -, hne⟩ := Piece.leaks_of_not_calm hmisled
  exact hne (hall source inv f hf)

/-- The sample has a quote in its secret, and keeps its copy when that is renamed. -/
theorem redacted_mapSecrets_exact_sample :
    (sample.mapSecrets (Equiv.swap "it's" "x")).redacted (NameSource.ofList []) =
      sample.redacted (NameSource.ofList []) := by
  refine (redacted_mapSecrets_exact _ sample (Equiv.swap "it's" "x").injective).1 ?_ ?_
  · unfold MarksPasswords
    decide +kernel
  · decide +kernel

end Invocation

end DesiredState
