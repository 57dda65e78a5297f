import DesiredState.Proofs.Redaction.Secrecy

/-!
# Small scripts

Two kinds of invocations with scripts that can be written down: those whose
properties are all written out, and those with a single credential.  Secrets that
leak are shown on them.

## Main definitions

* `Invocation.probe`, `Script.probe` — given properties, written out.
* `Invocation.login` — one credential.

## Main results

* `Invocation.script_probe`, `Script.exists_write_probe` — the script with written
  properties, and its text.
* `Invocation.exists_script_login`, `Invocation.exists_script_login_embedded` — the
  scripts with a credential.
-/

namespace DesiredState

open Redaction
open SingleQuoted (escape)

/-! ## Properties that are written out -/

/-- A parameter that is neither a credential nor embedded. -/
def Parameter.plain (v : Value) : Parameter := ⟨v, ⟨"String"⟩, false⟩

/-- An invocation with given properties, all of them written out. -/
def Invocation.probe (values : Fields Value) : Invocation where
  name := "dsc_test"
  friendlyName := "Test"
  resourceName := "MSFT_Test"
  moduleName := "TestDsc"
  moduleVersion? := none
  method := .set
  parameters := {
    entries := values.entries.map fun entry => (entry.1, .plain entry.2)
    nodup := by
      rw [Entries.names, List.map_map]
      exact values.nodup }
  modulesPath := "/opt/dsc"

/-- The script that writes out given properties. -/
def Script.probe (entries : List (Key × Expr)) : Script where
  credentials := []
  instances := []
  block := .bareTable [
    ("Name", .text "Test"),
    ("Method", .text "set"),
    ("Property", .table entries),
    ("ModuleName", .text "TestDsc")]

theorem Parameter.plain_isCredential : (DeclaredType.mk "String").isCredential = false := by
  decide

theorem Parameter.isShared_plain (v : Value) : (plain v).isShared = false := by
  rw [isShared, needsCredential, plain, plain_isCredential]
  rfl

theorem Invocation.marksPasswords_probe (values : Fields Value) :
    (probe values).MarksPasswords := by
  intro entry hentry
  obtain ⟨value, -, rfl⟩ := List.mem_map.1 hentry
  rw [Parameter.embedsPlainPassword, Parameter.plain, Parameter.plain_isCredential]
  rfl

/-- The expression of a property that is written out. -/
def Value.entryExpr (entry : String × Value) : Key × Expr :=
  (.bare (bareProperty entry.1), entry.2.toExpr)

theorem Invocation.script_probe (values : Fields Value) (source : NameSource) :
    (probe values).script source =
      .ok (Script.probe (values.entries.map Value.entryExpr)) := by
  have hcredential : ∀ v, (Parameter.plain v).needsCredential = false := by
    intro v
    rw [Parameter.needsCredential, Parameter.plain, Parameter.plain_isCredential]
    rfl
  have hcredentials : ∀ entries : List (String × Value),
      credentialsOf (entries.map fun entry => (entry.1, .plain entry.2)) = .ok [] := by
    intro entries
    induction entries with
    | nil => rfl
    | cons entry rest ih =>
        rw [List.map_cons, credentialsOf, hcredential]
        exact ih
  have hinstances : ∀ entries : List (String × Value),
      instancesOf (entries.map fun entry => (entry.1, .plain entry.2)) = .ok [] := by
    intro entries
    induction entries with
    | nil => rfl
    | cons entry rest ih => exact ih
  have hentries : ∀ (pool : Pool) (entries : List (String × Value)),
      parameterEntries pool (entries.map fun entry => (entry.1, .plain entry.2)) =
        .ok (entries.map Value.entryExpr) := by
    intro pool entries
    rw [parameterEntries_eq_ok_iff, List.forall₂_map_left_iff, List.forall₂_map_right_iff,
      List.forall₂_same]
    intro entry _
    refine ⟨rfl, ?_⟩
    rw [Parameter.toExpr_eq, Parameter.isShared_plain, Parameter.ownExpr, hcredential]
    rfl
  rw [script_eq]
  change (credentialsOf (values.entries.map _) >>= _) = _
  rw [hcredentials, show instancesOf (probe values).parameters.entries = .ok [] from hinstances _]
  change ((parameterEntries _ (values.entries.map _) >>= _) >>= _) = _
  rw [hentries]
  rfl

namespace Expr

/-- The text of an entry of a table. -/
def entryText (entry : Key × Expr) : List Char :=
  writeKey entry.1 ++ " = ".toList ++ entry.2.write

/-- The text of the entries behind the first one, with the bracket behind them. -/
def moreEntries (entries : List (Key × Expr)) : List Char :=
  (entries.map entryText).flatMap ("; ".toList ++ ·) ++ ['\x7d']

theorem moreEntries_cons (entry : Key × Expr) (rest : List (Key × Expr)) :
    moreEntries (entry :: rest) = "; ".toList ++ entryText entry ++ moreEntries rest := by
  rw [moreEntries, List.map_cons, List.flatMap_cons, List.append_assoc]
  rfl

theorem write_table_cons (entry : Key × Expr) (rest : List (Key × Expr)) :
    (table (entry :: rest)).write = '@' :: '\x7b' :: (entryText entry ++ moreEntries rest) := by
  rw [write_table, List.map_cons, Value.intercalate_cons, List.append_assoc]
  rfl

end Expr

namespace Script

/-- The text of such a script around the table of properties does not depend on it. -/
theorem exists_write_probe : ∃ front back : List Char, Calm back ∧ ∀ entries,
    (probe entries).write = front ++ (Expr.table entries).write ++ back := by
  have hblock : ∃ front back : List Char, Front back ∧ ∀ entries,
      (probe entries).block.write = front ++ (Expr.table entries).write ++ back := by
    refine ⟨'@' :: '\x7b' :: (Expr.entryText (.bare "Name", .text "Test") ++ ("; ".toList ++
      Expr.entryText (.bare "Method", .text "set") ++ ("; ".toList ++
        (Expr.writeKey (.bare "Property") ++ " = ".toList)))),
      Expr.moreEntries [(.bare "ModuleName", .text "TestDsc")], ?_, fun entries => ?_⟩
    · exact ⟨guards_append (by decide) (by decide), by decide⟩
    have hentry : Expr.entryText (.bare "Property", .table entries) =
        Expr.writeKey (.bare "Property") ++ " = ".toList ++ (Expr.table entries).write := rfl
    change (Expr.table [(.bare "Name", .text "Test"), (.bare "Method", .text "set"),
      (.bare "Property", .table entries), (.bare "ModuleName", .text "TestDsc")]).write = _
    rw [Expr.write_table_cons, Expr.moreEntries_cons, Expr.moreEntries_cons, hentry]
    simp only [List.append_assoc, List.cons_append]
  obtain ⟨front, back, hback, hblock⟩ := hblock
  refine ⟨preamble ++ '\n' :: ("$InvokeParams = ".toList ++ front), back ++ postscript,
    hback.calm calm_postscript, fun entries => ?_⟩
  have hline : writeAssignment (probe entries).block =
      "$InvokeParams = ".toList ++ (probe entries).block.write := rfl
  have hlines : (probe entries).lines = [writeAssignment (probe entries).block] := rfl
  rw [write_eq, hlines, hline, hblock]
  simp only [List.flatMap_cons, List.flatMap_nil, List.append_assoc, List.cons_append,
    List.append_nil]

theorem mapSecrets_probe (f : String → String) (entries : List (Key × Expr)) :
    (probe entries).mapSecrets f = probe (Expr.entriesMapSecrets f entries) := rfl

theorem pieces_probe (entries : List (Key × Expr)) : (probe entries).pieces =
    [.name "Name", .text "Test", .name "Method", .text "set", .name "Property"] ++
      ((Expr.table entries).pieces ++ [.name "ModuleName", .text "TestDsc"]) := rfl

/-- The pieces around the properties are calm. -/
theorem calm_probe {p : Piece} {entries : List (Key × Expr)}
    (h : ∀ q ∈ (Expr.table entries).pieces, q = p ∨ q.Calm) :
    ∀ q ∈ (probe entries).pieces, q = p ∨ q.Calm := by
  have hfront : ∀ q ∈ [Piece.name "Name", .text "Test", .name "Method", .text "set",
      .name "Property"], q.Calm := by decide
  have hback : ∀ q ∈ [Piece.name "ModuleName", .text "TestDsc"], q.Calm := by decide
  rw [pieces_probe]
  intro q hq
  rcases List.mem_append.1 hq with hq | hq
  · exact .inr (hfront q hq)
  · rcases List.mem_append.1 hq with hq | hq
    · exact h q hq
    · exact .inr (hback q hq)

end Script

/-- The expressions of properties under given names. -/
theorem entryExpr_prefixed (name : String) (v : Value) :
    Value.entryExpr (propertyPrefix ++ name, v) = (.bare name, v.toExpr) := by
  rw [Value.entryExpr, bareProperty_prefixed]

/-- Properties under given names. -/
def Fields.prefixed (values : List (String × Value)) (h : (Entries.names values).Nodup) :
    Fields Value where
  entries := values.map fun entry => (propertyPrefix ++ entry.1, entry.2)
  nodup := by
    have hnames : Entries.names (values.map fun entry => (propertyPrefix ++ entry.1, entry.2)) =
        (Entries.names values).map (propertyPrefix ++ ·) := by
      rw [Entries.names, Entries.names, List.map_map, List.map_map]
      rfl
    rw [hnames]
    refine List.Pairwise.map _ (fun one other hne hsame => hne ?_) h
    have hlists := congrArg String.toList hsame
    rw [String.toList_append, String.toList_append] at hlists
    exact String.toList_injective (List.append_cancel_left hlists)

theorem Fields.map_entryExpr_prefixed {values : List (String × Value)}
    (h : (Entries.names values).Nodup) :
    (Fields.prefixed values h).entries.map Value.entryExpr =
      values.map fun entry => (.bare entry.1, entry.2.toExpr) := by
  rw [prefixed, List.map_map]
  exact List.map_congr_left fun entry _ => entryExpr_prefixed entry.1 entry.2

/-! ## Credentials -/

/-- Numbered names are calm. -/
theorem quote_not_mem_draw (k : Nat) : '\'' ∉ ((NameSource.ofList []).draw k).toList := by
  exact quote_not_mem_numbered (k - 0 + 1)

/-- A parameter that is a credential. -/
def Parameter.login (user : String) (password : Value) (isEmbedded : Bool) : Parameter :=
  ⟨.map [("user", .string user), ("password", password)], ⟨"PSCredential"⟩, isEmbedded⟩

/-- An invocation with one credential. -/
def Invocation.login (user : String) (password : Value) (isEmbedded : Bool) : Invocation :=
  { probe Fields.empty with parameters := {
      entries := [("dsc_c", .login user password isEmbedded)]
      nodup := by simp [Entries.names] } }

namespace Script

/-- The script with one credential, and with statements for instances. -/
def login (name user password : String) (instances : List Statement) : Script where
  credentials := [.newCredential name ⟨user, password⟩]
  instances := instances
  block := (probe [(.bare "c", .variableRef name)]).block

/-- The text behind all statements. -/
def loginBack (name : String) : List Char :=
  '\n' :: writeAssignment (probe [(.bare "c", .variableRef name)]).block ++ postscript

theorem write_login (name user password : String) (instances : List Statement) :
    (login name user password instances).write =
      preamble ++ ('\n' :: (Statement.newCredential name ⟨user, password⟩).write ++
        ((instances.map Statement.write).flatMap ('\n' :: ·) ++ loginBack name)) := by
  have hlines : (login name user password instances).lines =
      (Statement.newCredential name ⟨user, password⟩).write :: (instances.map Statement.write ++
        [writeAssignment (probe [(.bare "c", .variableRef name)]).block]) := rfl
  rw [write_eq, hlines, loginBack]
  simp only [List.flatMap_cons, List.flatMap_append, List.flatMap_nil, List.append_assoc,
    List.cons_append, List.append_nil]

theorem pieces_login (name user password : String) (instances : List Statement) :
    (login name user password instances).pieces =
      [.name name, .text user, .password password] ++ instances.flatMap Statement.pieces ++
        (probe [(.bare "c", .variableRef name)]).pieces := rfl

theorem calm_loginBlock {name : String} (h : (Piece.name name).Calm) :
    ∀ q ∈ (probe [(.bare "c", .variableRef name)]).pieces, q.Calm := by
  have hkey : (Piece.name "c").Calm := by decide
  have hcalm : ∀ q ∈ (probe [(.bare "c", .variableRef name)]).pieces,
      q = .name "c" ∨ q.Calm := by
    refine calm_probe ?_
    simp [Expr.pieces, Expr.entryPieces, Key.piece, h]
  intro q hq
  rcases hcalm q hq with rfl | hq
  · exact hkey
  · exact hq

theorem calm_loginBack {name : String} (h : (Piece.name name).Calm) : Calm (loginBack name) := by
  have halike := alike_lines id (probe [(.bare "c", .variableRef name)])
    (calm_loginBlock h) (calm_loginBlock h)
  have hback : loginBack name =
      (probe [(.bare "c", .variableRef name)]).lines.flatMap ('\n' :: ·) ++ postscript := by
    rw [loginBack, lines, List.flatMap_append, List.flatMap_cons, List.flatMap_nil,
      List.append_nil]
    rfl
  rw [hback]
  exact halike.calm_first

/-- The statement for an embedded credential, up to its password. -/
def plainFront (name : String) : List Char :=
  '\n' :: '$' :: (name.toList ++ " = New-CimInstance -ClientOnly -ClassName ".toList) ++
    ((Expr.text "PSCredential").write ++ (" -Property ".toList ++ '@' :: '\x7b' ::
      (Expr.entryText (.quoted "user", .text "u") ++
        ("; ".toList ++ Expr.writeKey (.quoted "password")))))

/-- The text behind that, with the password. -/
def plainBack (name password : String) : List Char :=
  " = ".toList ++ '\'' :: (escape password.toList ++ '\'' :: '\x7d' :: loginBack name)

/-- The statement for an embedded credential with a plain password. -/
def plainStatement (name password : String) : Statement :=
  .newInstance name "PSCredential"
    [(.quoted "user", .text "u"), (.quoted "password", .text password)]

theorem write_login_plain (name other password : String) :
    (login name "u" password [plainStatement other password]).write =
      preamble ++ ('\n' :: (Statement.newCredential name ⟨"u", password⟩).write ++
        (plainFront other ++ plainBack name password)) := by
  have hentry : Expr.entryText (.quoted "password", .text password) =
      Expr.writeKey (.quoted "password") ++ " = ".toList ++
        '\'' :: (escape password.toList ++ ['\'']) := rfl
  have hclose : Expr.moreEntries [] = ['\x7d'] := rfl
  rw [write_login, plainStatement, List.map_singleton, List.flatMap_singleton,
    Statement.write_newInstance, Expr.write_table_cons, Expr.moreEntries_cons, hclose, hentry,
    plainFront, plainBack]
  simp only [List.append_assoc, List.cons_append, List.nil_append]

theorem front_plainFront {name : String} (h : '\'' ∉ name.toList) : Front (plainFront name) := by
  have hline : '\'' ∉ '\n' :: '$' ::
      (name.toList ++ " = New-CimInstance -ClientOnly -ClassName ".toList) := by
    simp [h]
  have hopening : Opening ('\n' :: '$' ::
      (name.toList ++ " = New-CimInstance -ClientOnly -ClassName ".toList)) :=
    .of_head (by decide) hline
  refine hopening.front ?_
  have hclass : (Expr.text "PSCredential").write = '\'' :: 'P' :: "SCredential'".toList := by decide
  rw [hclass]
  rfl

theorem calm_plainBack {name password : String} (hname : (Piece.name name).Calm)
    (hpassword : (Piece.text password).Calm) : Calm (plainBack name password) := by
  have hassign : Opening " = ".toList := .of_guards (by decide) (by decide) (by decide)
  have hclosed : restLength? ('\x7d' :: loginBack name) = none := by
    rw [restLength?_of_ne (by decide), (calm_loginBack hname).closed]
    rfl
  refine ⟨hassign.guards _, ?_⟩
  rw [plainBack, restLength?_append_of_not_mem hassign.plain,
    restLength?_literal hpassword hclosed]
  rfl

end Script

theorem Parameter.needsCredential_login (user : String) (password : Value) (isEmbedded : Bool) :
    (login user password isEmbedded).needsCredential = true := by
  have htype : (DeclaredType.mk "PSCredential").isCredential = true := by decide
  rw [needsCredential, login, htype]
  rfl

/-- The password is read off a secret and off a plain text. -/
theorem Credential.ofValue_login {user s : String} {password : Value} (isEmbedded : Bool)
    (hpassword : password = .secret s ∨ password = .string s) :
    ofValue "dsc_c" (Parameter.login user password isEmbedded).value = .ok ⟨user, s⟩ := by
  rcases hpassword with rfl | rfl <;> rfl

namespace Invocation

theorem credentialsOf_login {user s : String} {password : Value} (isEmbedded : Bool)
    (hpassword : password = .secret s ∨ password = .string s) :
    credentialsOf (login user password isEmbedded).parameters.entries = .ok [⟨user, s⟩] := by
  change credentialsOf [("dsc_c", Parameter.login user password isEmbedded)] = _
  rw [credentialsOf, if_pos (Parameter.needsCredential_login user password isEmbedded),
    Credential.ofValue_login isEmbedded hpassword]
  rfl

/-- The variable of a credential stands in its place in the block. -/
theorem toExpr_login {user s name : String} {password : Value} (isEmbedded : Bool)
    (hpassword : password = .secret s ∨ password = .string s) {pool : Pool}
    (hname : pool.lookup? (Composite.credential ⟨user, s⟩).text = some name) :
    (login user password isEmbedded).toExpr pool =
      .ok (Script.probe [(.bare "c", .variableRef name)]).block := by
  have hneeds := Parameter.needsCredential_login user password isEmbedded
  have hexpr : (Parameter.login user password isEmbedded).toExpr pool "dsc_c" =
      .ok (.variableRef name) := by
    rw [Parameter.toExpr_eq, Parameter.ownExpr, if_pos hneeds,
      Credential.ofValue_login isEmbedded hpassword, Parameter.isShared, hneeds]
    exact congrArg Except.ok (Pool.replace_of_lookup? rfl hname)
  have hbare : bareProperty "dsc_c" = "c" := bareProperty_prefixed "c"
  have hentries : parameterEntries pool [("dsc_c", Parameter.login user password isEmbedded)] =
      .ok [(.bare "c", .variableRef name)] := by
    rw [parameterEntries, hexpr, parameterEntries, hbare]
    rfl
  rw [toExpr_eq_ok_iff]
  exact ⟨_, hentries, rfl⟩

/-- The script of a credential that is not embedded. -/
theorem exists_script_login (user s : String) (source : NameSource) : ∃ k,
    (login user (.secret s) false).script source =
      .ok (Script.login (source.draw k) user s []) := by
  have hlookup : (Pool.empty source).lookup? (Composite.credential ⟨user, s⟩).text = none := rfl
  have hinstances : instancesOf (login user (.secret s) false).parameters.entries = .ok [] := rfl
  have hblock := toExpr_login false (.inl rfl) (Pool.lookup?_add_self hlookup)
  refine ⟨source.firstUnused (Pool.empty source).variableNames 0, ?_⟩
  rw [script_eq, credentialsOf_login false (.inl rfl), hinstances]
  simp only [bind, Except.bind, List.map_cons, List.map_nil, Pool.declareAll,
    Pool.declare_of_none hlookup, withNested, List.flatMap_nil, hblock]
  rfl

/-- The script of a credential that is embedded with a plain password.  The names do
not depend on the password. -/
theorem exists_script_login_embedded (source : NameSource) : ∃ k j, ∀ s : String,
    (login "u" (.string s) true).script source =
      .ok (Script.login (source.draw k) "u" s [Script.plainStatement (source.draw j) s]) := by
  let k := source.firstUnused (Pool.empty source).variableNames 0
  refine ⟨k, source.firstUnused [source.draw k] (k + 1), fun s => ?_⟩
  let i : Instance := ⟨"PSCredential", [("user", .string "u"), ("password", .string s)]⟩
  have htype : (DeclaredType.mk "PSCredential").elementType = "PSCredential" := by decide
  have hown : (Parameter.login "u" (.string s) true).instances = .ok [i] := by
    rw [Parameter.instances, Parameter.login, htype]
    rfl
  have hinstances : instancesOf (login "u" (.string s) true).parameters.entries = .ok [i] := by
    change instancesOf [("dsc_c", Parameter.login "u" (.string s) true)] = _
    rw [instancesOf, hown]
    rfl
  have hfirst : (Pool.empty source).lookup? (Composite.credential ⟨"u", s⟩).text = none := rfl
  have hsecond : ((Pool.empty source).add (Composite.credential ⟨"u", s⟩).text).lookup?
      (Composite.instanceOf i).text = none := by
    rw [Pool.lookup?_add, if_neg (Composite.text_credential_ne ⟨"u", s⟩ i)]
    rfl
  have hblock := toExpr_login true (.inr rfl)
    (Pool.lookup?_add_of_some (Pool.lookup?_add_self hfirst) (Composite.instanceOf i).text)
  have hnested : withNested [i] = [.instanceOf i] := rfl
  rw [script_eq, credentialsOf_login true (.inr rfl), hinstances]
  simp only [bind, Except.bind, List.map_cons, List.map_nil, Pool.declareAll,
    Pool.declare_of_none hfirst, hnested, Pool.declare_of_none hsecond, hblock]
  rfl

end Invocation

end DesiredState
