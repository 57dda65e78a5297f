import DesiredState.Document.State
import DesiredState.Proofs.Yaml.PlainLine

/-!
# A document of one secret

A document can be one line: a key, the tag of secrets, and a text without quotes.  Its tokens
are read one after another.  The colon shows that a key was in front of it, and so a mapping
begins there, which goes to the end.  So the document is a mapping of the key to the tagged
value that the text spells, whatever the text is.

## Main definitions

* `secretLine` — the document of a text.

## Main results

* `YamlToken.scan?_secretLine` — its tokens.
* `Yaml.read?_secretLine` — its value.
* `Properties.read_secretLine` — its properties, and when there are none.
-/

namespace DesiredState

/-- The document with a text as the secret of one key. -/
def secretLine (text : String) : String := "k: !Sensitive " ++ text

namespace YamlScanner

/-! ## Between two tokens -/

/-- Blanks in front of a token are skipped. -/
theorem skipBlanks_eq {s : YamlScanner} (count : Nat) (back : List Char)
    (hc : s.cursor.rest = List.replicate count ' ' ++ back)
    (hback : ∀ x ∈ back.head?, isGap x = false ∧ x ≠ '#' ∧ isLineEnd x = false)
    (hcolumn : 0 < s.cursor.column) (fuel : Nat) :
    skipBlanks (fuel + 1) s = { s with cursor := s.cursor.skip count } := by
  have hmark : ¬ (s.cursor.column = 0 && s.cursor.next? == some '\ufeff') = true := by
    rw [Bool.and_eq_true, decide_eq_true_eq]
    omega
  have hstop : Stops (fun x => x == ' ' || (x == '\t' && (s.inFlow || !s.keyAllowed))) back := by
    intro x hx
    have hgap := (hback x hx).1
    rw [isGap, Bool.or_eq_false_iff] at hgap
    simp [hgap]
  have hskip : s.cursor.skipWhile
      (fun x => x == ' ' || (x == '\t' && (s.inFlow || !s.keyAllowed))) =
        s.cursor.skip count := by
    rw [YamlCursor.skipWhile, YamlCursor.takeWhile, hc, hstop.takeWhile, List.length_replicate]
    intro c hblank
    rw [List.eq_of_mem_replicate hblank]
    rfl
  have hrest : (s.cursor.skip count).rest = back := by
    rw [YamlCursor.rest_skip, hc, List.drop_left' List.length_replicate]
  have hnext : (s.cursor.skip count).next? = back.head? := by rw [YamlCursor.next?, hrest]
  have hcomment : ((s.cursor.skip count).next? == some '#') = false := by
    rw [hnext, beq_eq_false_iff_ne]
    exact fun h => (hback '#' h).2.1 rfl
  have hline : (s.cursor.skip count).isAtLineEnd = false := by
    rw [YamlCursor.isAtLineEnd, hnext]
    cases hhead : back.head? with
    | none => rfl
    | some x => exact (hback x hhead).2.2
  unfold skipBlanks
  simp only [if_neg hmark, hskip, hcomment, hline, Bool.false_eq_true, if_false]

/-- In front of a token blanks are skipped, keys that are no longer possible are forgotten, and
blocks are closed. -/
theorem run?_token {s next after : YamlScanner} {x : Char} (htoken : next.takeAt? x = some after)
    (hblanks : (skipBlanks s.cursor.steps s).dropStaleKeys? = some next)
    (hclose : next.closeBlocks next.cursor.column = next) (hx : next.cursor.next? = some x)
    (fuel : Nat) : run? (fuel + 1) s = run? fuel after := by
  rw [run?, hblanks]
  simp only [Option.bind_eq_bind, Option.bind_some, hclose, hx, htoken]

/-! ## The tokens in front of the text -/

/-- What stands behind the key, and behind the colon. -/
def behindColon (cs : List Char) : List Char := ' ' :: '!' :: ("Sensitive".toList ++ ' ' :: cs)

/-- In front of the colon. -/
def atColon (cs : List Char) : YamlScanner where
  cursor := ⟨':' :: behindColon cs, 1, 0, 1, cs.length + 15⟩
  tokens := [.scalar .plain "k"]
  count := 1
  indent := -1
  indents := []
  keys := [some ⟨false, 0, 0, 0, 0⟩]
  keyAllowed := false

/-- In front of the blank before the tag. -/
def atTag (cs : List Char) : YamlScanner where
  cursor := ⟨behindColon cs, 2, 0, 2, cs.length + 15⟩
  tokens := [.value, .scalar .plain "k", .key, .blockMappingStart]
  count := 4
  indent := 0
  indents := [-1]
  keys := [none]
  keyAllowed := false

/-- In front of the blank before the text. -/
def atText (cs : List Char) : YamlScanner where
  cursor := ⟨' ' :: cs, 13, 0, 13, cs.length + 15⟩
  tokens := [.tag ['!'] "Sensitive".toList, .value, .scalar .plain "k", .key, .blockMappingStart]
  count := 5
  indent := 0
  indents := [-1]
  keys := [none]
  keyAllowed := false

theorem takeAt?_key (cs : List Char) :
    takeAt? (.ofText ('k' :: ':' :: behindColon cs)) 'k' = some (atColon cs) := by
  rfl

theorem takeAt?_colon (cs : List Char) : takeAt? (atColon cs) ':' = some (atTag cs) := by
  rfl

/-- The tag is read as a handle; the blank behind it does not belong to it. -/
theorem tag?_atTag (cs : List Char) : ((atTag cs).cursor.skip 1).tag? =
    some (['!'], "Sensitive".toList, (atText cs).cursor) := by
  have hverbatim : (((atTag cs).cursor.skip 1).nextAt? 1 == some '<') = false := by rfl
  have hletters : ∀ c ∈ "Sensitive".toList, isNameChar c = true := List.all_eq_true.1 (by decide)
  have hstop : Stops isNameChar (' ' :: cs) := by
    rintro c hc
    obtain rfl := Option.some.inj hc
    rfl
  have hname : (((atTag cs).cursor.skip 1).skip 1).takeWhile isNameChar =
      ("Sensitive".toList, (atText cs).cursor) := by
    rw [YamlCursor.takeWhile, show (((atTag cs).cursor.skip 1).skip 1).rest =
      "Sensitive".toList ++ ' ' :: cs from rfl, hstop.takeWhile hletters]
    rfl
  have hhandle : ((atTag cs).cursor.skip 1).handle? =
      some ('!' :: "Sensitive".toList, (atText cs).cursor) := by
    rw [YamlCursor.handle?, hname]
    rfl
  have huri : (atText cs).cursor.uri? false = some ([], (atText cs).cursor) := by
    rw [YamlCursor.uri?, show uriFrom? false (atText cs).cursor.rest.length
      (atText cs).cursor.rest = some ([], (atText cs).cursor.rest) from rfl]
    simp only [Option.bind_eq_bind, Option.bind_some, Nat.sub_self, YamlCursor.skip_zero]
  rw [YamlCursor.tag?, hverbatim, if_neg Bool.false_ne_true, hhandle]
  simp only [Option.bind_eq_bind, Option.bind_some, huri]
  rfl

/-- A tag with a blank behind it is taken, and no key is possible then. -/
theorem takeTag?_of_tag? {s : YamlScanner} {handle suffix : List Char} {c : YamlCursor}
    (hkey : s.rememberKey? = some s) (htag : s.cursor.tag? = some (handle, suffix, c))
    (hword : endsWord c.next? = true) : s.takeTag? =
      some { s.push (.tag handle suffix) with cursor := c, keyAllowed := false } := by
  rw [takeTag?, hkey]
  simp only [Option.bind_eq_bind, Option.bind_some, htag, hword]
  rfl

theorem takeAt?_tag (cs : List Char) :
    takeAt? { atTag cs with cursor := (atTag cs).cursor.skip 1 } '!' = some (atText cs) := by
  calc takeAt? { atTag cs with cursor := (atTag cs).cursor.skip 1 } '!'
      = takeTag? { atTag cs with cursor := (atTag cs).cursor.skip 1 } := rfl
    _ = some (atText cs) := takeTag?_of_tag? rfl (tag?_atTag cs) rfl

/-- The key, the colon and the tag are read one after another. -/
theorem run?_ofText (cs : List Char) (fuel : Nat) :
    run? (fuel + 3) (.ofText ('k' :: ':' :: behindColon cs)) = run? fuel (atText cs) := by
  have hcolon : (skipBlanks (atColon cs).cursor.steps (atColon cs)).dropStaleKeys? =
      some (atColon cs) := by
    have hblank := skipBlanks_eq (s := atColon cs) 0 (':' :: behindColon cs) rfl
      (by simp [isGap, isLineEnd]) Nat.one_pos (cs.length + 14)
    rw [show (atColon cs).cursor.steps = cs.length + 14 + 1 from rfl, hblank, YamlCursor.skip_zero]
    rfl
  have htag : (skipBlanks (atTag cs).cursor.steps (atTag cs)).dropStaleKeys? =
      some { atTag cs with cursor := (atTag cs).cursor.skip 1 } := by
    have hblank := skipBlanks_eq (s := atTag cs) 1 ('!' :: ("Sensitive".toList ++ ' ' :: cs)) rfl
      (by simp [isGap, isLineEnd]) Nat.two_pos (cs.length + 14)
    rw [show (atTag cs).cursor.steps = cs.length + 14 + 1 from rfl, hblank]
    rfl
  calc run? (fuel + 3) (.ofText ('k' :: ':' :: behindColon cs))
      = run? (fuel + 2) (atColon cs) := run?_token (takeAt?_key cs) rfl rfl rfl _
    _ = run? (fuel + 1) (atTag cs) := run?_token (takeAt?_colon cs) hcolon rfl rfl _
    _ = run? fuel (atText cs) := run?_token (takeAt?_tag cs) htag rfl rfl _

/-! ## The text and the end -/

/-- In front of a text without quotes the scanner reads a plain scalar. -/
theorem takeAt?_plain {s : YamlScanner} {cs : List Char} {x : Char} (h : IsPlainLine cs)
    (hc : s.cursor.rest = cs) (hx : x ∈ cs.head?) (hcolumn : 0 < s.cursor.column)
    (hflow : s.inFlow = false) : s.takeAt? x = s.takePlain? := by
  obtain ⟨y, hy, hgap, hindicator⟩ := h.starts
  obtain rfl : x = y := Option.some.inj (hx.symm.trans hy)
  have hline : isLineEnd x = false := (h.chars x (List.mem_of_mem_head? hx)).2
  have hword : endsWord (some x) = false := by rw [endsWord, hgap, hline]; rfl
  have hfirst : (s.cursor.column == 0) = false := by
    rw [beq_eq_false_iff_ne]
    omega
  have hpercent : (x == '%' && decide (s.cursor.column = 0)) = false := by
    rw [Bool.and_eq_false_iff, decide_eq_false_iff_not]
    right
    omega
  have hdash : s.cursor.isAtMark '-' = false := by simp [YamlCursor.isAtMark, hfirst]
  have hdots : s.cursor.isAtMark '.' = false := by simp [YamlCursor.isAtMark, hfirst]
  by_cases hmem : x ∈ indicators
  · obtain ⟨hmark, d, hd, hdgap⟩ := hindicator hmem
    have hdline : isLineEnd d = false := (h.chars d (List.mem_of_getElem? hd)).2
    have hnext : s.cursor.nextAt? 1 = some d := by rw [YamlCursor.nextAt?, hc]; exact hd
    have hends : endsWord (some d) = false := by rw [endsWord, hdgap, hdline]; rfl
    unfold takeAt?
    dsimp only
    rw [hpercent, hdash, hdots, hnext, hends, hflow]
    rcases hmark with rfl | rfl | rfl <;> simp [startsPlain, hdgap, hends]
  · have hne : ∀ c ∈ indicators, (x == c) = false := by
      intro c hc
      rw [beq_eq_false_iff_ne]
      rintro rfl
      exact hmem hc
    have hstart : startsPlain false x (s.cursor.nextAt? 1) = true := by
      have hdash := hne '-' (by decide)
      have hquestion := hne '?' (by decide)
      have hcolon := hne ':' (by decide)
      have hothers : ",[]\x7b\x7d#&*!|>'\"%@`".toList.contains x = false := by
        rw [← Bool.not_eq_true, List.contains_iff_mem]
        exact fun hc => hmem (List.mem_append_right ['-', '?', ':'] hc)
      rw [startsPlain, hdash, hquestion, hcolon, hword, hothers]
      rfl
    unfold takeAt?
    dsimp only
    rw [hpercent, hdash, hdots, hflow]
    simp [hne '[' (by decide), hne '\x7b' (by decide), hne ']' (by decide), hne '\x7d' (by decide),
      hne ',' (by decide), hne '-' (by decide), hne '?' (by decide), hne ':' (by decide),
      hne '*' (by decide), hne '&' (by decide), hne '!' (by decide), hne '|' (by decide),
      hne '>' (by decide), hne '\'' (by decide), hne '"' (by decide), hstart]

/-- Behind the text. -/
def atEnd (cs : List Char) : YamlScanner where
  cursor := (atText cs).cursor.skip (1 + cs.length)
  tokens := .scalar .plain (String.ofList cs) :: (atText cs).tokens
  count := 6
  indent := 0
  indents := [-1]
  keys := [none]
  keyAllowed := false

/-- A plain scalar is taken with the text that is read. -/
theorem takePlain?_of_plain? {s : YamlScanner} {text : List Char} {c : YamlCursor}
    {endsLine : Bool} (hkey : s.rememberKey? = some s)
    (htext : s.cursor.plain? s.inFlow (s.indent + 1).toNat = some (text, c, endsLine)) :
    s.takePlain? = some { s.push (.scalar .plain (String.ofList text)) with
      cursor := c, keyAllowed := endsLine } := by
  rw [takePlain?, hkey]
  simp only [Option.bind_eq_bind, Option.bind_some, htext]

/-- The text is one token. -/
theorem takePlain?_text {cs : List Char} (h : IsPlainLine cs) :
    takePlain? { atText cs with cursor := (atText cs).cursor.skip 1 } = some (atEnd cs) := by
  have htext := YamlCursor.plain?_line (c := (atText cs).cursor.skip 1) h rfl
    (show cs.length < cs.length + 15 by omega) (Nat.succ_pos _) (show 1 ≤ 14 by omega)
  have hread : YamlCursor.plain? ((atText cs).cursor.skip 1) false 1 =
      some (cs, (atEnd cs).cursor, false) := by rw [htext, YamlCursor.skip_skip]; rfl
  exact takePlain?_of_plain? rfl hread

/-- The end of the text closes the mapping. -/
theorem run?_atEnd (cs : List Char) (fuel : Nat) : run? (fuel + 1) (atEnd cs) =
    some { (atEnd cs).push .blockEnd with indent := -1, indents := [] } := by
  have hempty : (atEnd cs).cursor.rest = [] := by
    rw [atEnd, YamlCursor.rest_skip, Nat.add_comm]
    exact List.drop_length
  have hcolumn : (atEnd cs).cursor.column = 13 + (1 + cs.length) := rfl
  have hblanks : (skipBlanks (atEnd cs).cursor.steps (atEnd cs)).dropStaleKeys? =
      some (atEnd cs) := by
    have hblank := skipBlanks_eq (s := atEnd cs) 0 [] hempty (by simp) (by omega) (cs.length + 14)
    rw [show (atEnd cs).cursor.steps = cs.length + 14 + 1 from rfl, hblank, YamlCursor.skip_zero]
    rfl
  have hclose : (atEnd cs).closeBlocks (atEnd cs).cursor.column = atEnd cs := by
    have hdeep : ¬ (0 : Int) > ((atEnd cs).cursor.column : Int) := by omega
    rw [closeBlocks, show (atEnd cs).inFlow = false from rfl, if_neg Bool.false_ne_true,
      show (atEnd cs).indents = [-1] from rfl, closeBlocksFrom,
      show (atEnd cs).indent = 0 from rfl, if_neg hdeep]
  have hend : (atEnd cs).cursor.next? = none := by rw [YamlCursor.next?, hempty]; rfl
  rw [run?, hblanks]
  simp only [Option.bind_eq_bind, Option.bind_some, hclose, hend]
  rfl

/-- The text is the last token, and its end closes the mapping. -/
theorem run?_atText {cs : List Char} (h : IsPlainLine cs) (fuel : Nat) :
    run? (fuel + 2) (atText cs) =
      some { (atEnd cs).push .blockEnd with indent := -1, indents := [] } := by
  obtain ⟨x, hx, hgap, hsharp, hline⟩ := h.exists_head
  have hback : ∀ y ∈ cs.head?, isGap y = false ∧ y ≠ '#' ∧ isLineEnd y = false := by
    intro y hy
    obtain rfl := Option.some.inj (hx.symm.trans hy)
    exact ⟨hgap, hsharp, hline⟩
  have hfront : (skipBlanks (atText cs).cursor.steps (atText cs)).dropStaleKeys? =
      some { atText cs with cursor := (atText cs).cursor.skip 1 } := by
    have hblank := skipBlanks_eq (s := atText cs) 1 cs rfl hback (Nat.succ_pos _) (cs.length + 14)
    rw [show (atText cs).cursor.steps = cs.length + 14 + 1 from rfl, hblank]
    rfl
  have htoken : takeAt? { atText cs with cursor := (atText cs).cursor.skip 1 } x =
      some (atEnd cs) := by
    rw [takeAt?_plain h rfl hx (Nat.succ_pos _) rfl, takePlain?_text h]
  rw [run?_token htoken hfront rfl hx, run?_atEnd]

end YamlScanner

/-- The tokens of a document with one secret. -/
theorem YamlToken.scan?_secretLine {text : String} (h : IsPlainLine text.toList) :
    YamlToken.scan? (secretLine text).toList =
      some [.blockMappingStart, .key, .scalar .plain "k", .value,
        .tag ['!'] "Sensitive".toList, .scalar .plain text, .blockEnd] := by
  have hline : (secretLine text).toList =
      'k' :: ':' :: YamlScanner.behindColon text.toList := by
    rw [secretLine, String.toList_append]
    rfl
  have hchars : (secretLine text).toList.all isDocumentChar = true := by
    rw [secretLine, String.toList_append, List.all_append, List.all_eq_true.2 fun c hc =>
      (h.chars c hc).1]
    decide
  have hrun := YamlScanner.run?_atText h (text.toList.length + 10)
  have hsteps : (secretLine text).toList.length + 1 = text.toList.length + 10 + 2 + 3 := by
    rw [hline]
    simp [YamlScanner.behindColon]
  rw [YamlToken.scan?, if_pos hchars, hsteps, hline, YamlScanner.run?_ofText, hrun,
    Option.map_some, YamlScanner.atEnd, String.ofList_toList]
  rfl

/-- The document is a mapping of one key to a tagged scalar. -/
theorem YamlDocument.read?_secretLine {text : String} (h : IsPlainLine text.toList) :
    YamlDocument.read? (secretLine text).toList =
      some ⟨some (.mapping none [(.scalar none .plain "k",
        .scalar (some "!Sensitive".toList) .plain text)]), [], 4⟩ := by
  rw [YamlDocument.read?, YamlToken.scan?_secretLine h]
  rfl

/-- The tag stays with the value that the text spells. -/
theorem Yaml.ofScalar?_secret (text : String) :
    Yaml.ofScalar? (some "!Sensitive".toList) .plain text =
      (Yaml.ofPlain? text).map (.tagged secretTag) := by
  have htag : localTag? (some "!Sensitive".toList) = some secretTag := by decide
  have hvalue : Yaml.withTag (some "!Sensitive".toList) = Yaml.tagged secretTag := by
    funext y
    rw [Yaml.withTag, htag]
  rw [← hvalue]
  rfl

/-- A scalar is read without following an alias. -/
theorem Yaml.ofNode_scalar (document : YamlDocument) (depth : Nat) (tag? : Option (List Char))
    (style : ScalarStyle) (text : String) :
    Yaml.ofNode document depth (.scalar tag? style text) =
      Yaml.ofNode.liftOption (Yaml.ofScalar? tag? style text) := by
  cases depth with
  | zero => rw [Yaml.ofNode]; rfl
  | succ depth => rw [Yaml.ofNode]; rfl

/-- The value of the document is that which the text spells, behind the tag of secrets. -/
theorem Yaml.read?_secretLine {text : String} (h : IsPlainLine text.toList) :
    Yaml.read? (secretLine text).toList = (Yaml.ofPlain? text).map fun y =>
      .mapping [(.string "k", .tagged secretTag y)] := by
  have hkey : Yaml.ofScalar? none .plain "k" = some (.string "k") := rfl
  rw [Yaml.read?, YamlDocument.read?_secretLine h]
  simp only [Option.bind_eq_bind, Option.bind_some, YamlDocument.readAll?, yamlDepth]
  rw [Yaml.ofNode]
  simp only [YamlDocument.follow, pure_bind, List.mapM_cons, List.mapM_nil]
  rw [Yaml.ofNode_scalar, Yaml.ofNode_scalar, hkey, Yaml.ofScalar?_secret]
  cases Yaml.ofPlain? text with
  | none => rfl
  | some y => rfl

/-- The properties of the document: the secret that the spelled value becomes, if there is a
spelled value and it becomes one. -/
theorem Properties.read_secretLine {text : String} (h : IsPlainLine text.toList) :
    Properties.read (secretLine text) =
      match Yaml.ofPlain? text with
      | some y => (Value.secretOfYaml y).map fun secret => Fields.ofPairs [("k", secret)]
      | none => .error (.malformedDocument .desiredState) := by
  rw [Properties.read, Yaml.read?_secretLine h]
  cases Yaml.ofPlain? text with
  | none => rfl
  | some y =>
      have htagged : Value.ofYaml (.tagged secretTag y) = Value.secretOfYaml y := by
        rw [Value.ofYaml, if_pos (by decide)]
      rw [Option.map_some]
      dsimp only
      rw [Properties.ofYaml, Value.ofYaml, Value.entriesOfYaml, htagged]
      cases Value.secretOfYaml y with
      | error e => rfl
      | ok secret => rfl

end DesiredState
