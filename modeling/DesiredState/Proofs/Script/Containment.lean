import DesiredState.Proofs.Literal.Quotes
import DesiredState.Proofs.Script.Origins

/-!
# Literals stay closed

A script is code, with literals in between.  Behind each literal stands code that does
not start with a quote, so the interpreter, once it is at the opening quote of a literal,
takes exactly the literal, if the text in it is without typographic quotes.  With a
typographic quote it takes less: the rest of the text is then read as code.

So the literals of a script hold their texts exactly if no string that enters the script
has a typographic quote.

## Main definitions

* `Segment`, `Segment.writeAll` — code or a literal, and the text of several of them.
* `Segment.Apart` — no literal is followed by a quote.
* `Expr.segments`, `Statement.segments`, `Script.segments` — the segments in the order of
  the text.
* `Script.Contained` — each literal of a script is read back where it stands.

## Main results

* `Script.writeAll_segments`, `Script.apart_segments` — the segments make up the text,
  and keep the literals apart.
* `Invocation.contained_iff` — the literals of a script hold their texts exactly if all
  strings that enter it are plain.
-/

namespace DesiredState

open SingleQuoted (Plain StartsApart read?)

/-! ## Segments -/

/-- A part of a script: code, or the literal of a text. -/
inductive Segment where
  | code (cs : List Char)
  | literal (s : String)

namespace Segment

/-- The text of a segment. -/
def write : Segment → List Char
  | code cs => cs
  | literal s => SingleQuoted.write s

/-- The text of several segments. -/
def writeAll (segments : List Segment) : List Char := segments.flatMap write

/-- Each literal is followed by something else than a quote, also the last one, which
stands in front of the text behind. -/
def Apart (back : List Char) : List Segment → Prop
  | [] => True
  | code _ :: rest => Apart back rest
  | literal _ :: rest => StartsApart (writeAll rest ++ back) ∧ Apart back rest

@[simp]
theorem writeAll_nil : writeAll [] = [] := rfl

@[simp]
theorem writeAll_cons (segment : Segment) (rest : List Segment) :
    writeAll (segment :: rest) = segment.write ++ writeAll rest := rfl

@[simp]
theorem writeAll_append (front rest : List Segment) :
    writeAll (front ++ rest) = writeAll front ++ writeAll rest := List.flatMap_append

theorem writeAll_intercalate (separator : List Char) (parts : List (List Segment)) :
    writeAll (List.intercalate [.code separator] parts) =
      List.intercalate separator (parts.map writeAll) := by
  induction parts with
  | nil => rfl
  | cons first rest ih =>
      cases rest with
      | nil => simp
      | cons next rest =>
          rw [List.intercalate_cons_cons, writeAll_append, writeAll_append, ih]
          simp only [List.map_cons, List.intercalate_cons_cons, writeAll_cons, writeAll_nil,
            List.append_nil, write]

theorem apart_append {back : List Char} {front rest : List Segment} :
    Apart back (front ++ rest) ↔ Apart (writeAll rest ++ back) front ∧ Apart back rest := by
  induction front with
  | nil => simp [Apart]
  | cons segment front ih =>
      cases segment with
      | code cs => exact ih
      | literal s =>
          rw [List.cons_append, Apart, Apart, ih, writeAll_append, List.append_assoc, and_assoc]

/-- Parts that are apart in front of everything but a quote are so with a separator
between them. -/
theorem apart_intercalate {separator : List Char} (hne : separator ≠ [])
    (hseparator : StartsApart separator) {parts : List (List Segment)}
    (hparts : ∀ part ∈ parts, ∀ back, StartsApart back → Apart back part)
    {back : List Char} (hback : StartsApart back) :
    Apart back (List.intercalate [.code separator] parts) := by
  induction parts with
  | nil => trivial
  | cons first rest ih =>
      obtain ⟨hfirst, hrest⟩ := List.forall_mem_cons.1 hparts
      cases rest with
      | nil => simpa using hfirst back hback
      | cons next rest =>
          rw [List.intercalate_cons_cons, List.append_assoc, apart_append]
          refine ⟨hfirst _ ?_, ih hrest⟩
          obtain ⟨c, cs, rfl⟩ := List.exists_cons_of_ne_nil hne
          exact hseparator

/-- A literal that is apart from the text behind it is read back exactly if its text is
plain. -/
theorem read?_writeAll_iff {front rest : List Segment} {s : String}
    (h : Apart [] (front ++ .literal s :: rest)) :
    read? (writeAll (.literal s :: rest)) = some (s, writeAll rest) ↔ Plain s := by
  have hliteral : Apart [] (.literal s :: rest) := (apart_append.1 h).2
  have hstart : StartsApart (writeAll rest) := by simpa using hliteral.1
  exact SingleQuoted.read?_write_append_iff s hstart

end Segment

open Segment (writeAll Apart)

/-- The segment that a key is. -/
def Key.segment : Key → Segment
  | bare name => .code name.toList
  | quoted name => .literal name

/-! ## The segments of expressions -/

namespace Expr

mutual

/-- The segments of an expression. -/
def segments : Expr → List Segment
  | text s => [.literal s]
  | sensitive s => [.literal s, .code (' ' :: sensitiveMarker.toList)]
  | array items =>
      .code ['@', '('] :: (List.intercalate [.code ", ".toList] (itemSegments items) ++
        [.code [')']])
  | cast typeName inner => .code ('[' :: (typeName.toList ++ [']'])) :: segments inner
  | table entries =>
      .code ['@', '\x7b'] :: (List.intercalate [.code "; ".toList] (entrySegments entries) ++
        [.code ['\x7d']])
  | e => [.code e.write]

/-- The segments of the items of an array. -/
def itemSegments : List Expr → List (List Segment)
  | [] => []
  | item :: rest => segments item :: itemSegments rest

/-- The segments of the entries of a table. -/
def entrySegments : List (Key × Expr) → List (List Segment)
  | [] => []
  | (key, value) :: rest =>
      (key.segment :: .code " = ".toList :: segments value) :: entrySegments rest

end

theorem segments_array (items : List Expr) :
    (array items).segments = .code ['@', '('] ::
      (List.intercalate [.code ", ".toList] (items.map segments) ++ [.code [')']]) := by
  have hitems : itemSegments items = items.map segments := by
    induction items with
    | nil => rfl
    | cons item rest ih => rw [itemSegments, ih, List.map_cons]
  rw [segments, hitems]

theorem segments_table (entries : List (Key × Expr)) :
    (table entries).segments = .code ['@', '\x7b'] ::
      (List.intercalate [.code "; ".toList] (entries.map fun entry =>
        entry.1.segment :: .code " = ".toList :: entry.2.segments) ++ [.code ['\x7d']]) := by
  have hentries : entrySegments entries = entries.map fun entry =>
      entry.1.segment :: .code " = ".toList :: entry.2.segments := by
    induction entries with
    | nil => rfl
    | cons entry rest ih => rw [entrySegments, ih, List.map_cons]
  rw [segments, hentries]

/-- The segments make up the text of the expression. -/
theorem writeAll_segments (e : Expr) : writeAll e.segments = e.write := by
  induction e using Expr.induct with
  | array items ih =>
      have hitems : (items.map segments).map writeAll = items.map write := by
        rw [List.map_map]
        exact List.map_congr_left ih
      rw [segments_array, write_array, Segment.writeAll_cons, Segment.writeAll_append,
        Segment.writeAll_intercalate, hitems]
      rfl
  | cast typeName inner ih =>
      rw [segments, Segment.writeAll_cons, ih, write_cast, Segment.write]
      simp
  | table entries ih =>
      have hentries : (entries.map fun entry =>
          entry.1.segment :: .code " = ".toList :: entry.2.segments).map writeAll =
            entries.map fun entry => writeKey entry.1 ++ " = ".toList ++ entry.2.write := by
        rw [List.map_map]
        refine List.map_congr_left fun entry hentry => ?_
        have hkey : entry.1.segment.write = writeKey entry.1 := by cases entry.1 <;> rfl
        rw [Function.comp_apply, Segment.writeAll_cons, Segment.writeAll_cons, hkey,
          ih entry hentry, List.append_assoc]
        rfl
      rw [segments_table, write_table, Segment.writeAll_cons, Segment.writeAll_append,
        Segment.writeAll_intercalate, hentries]
      rfl
  | text s => exact List.append_nil _
  | sensitive s => exact congrArg (_ ++ ·) (List.append_nil _)
  | _ => exact List.append_nil _

/-- Behind a bare word or a key stands an equals sign. -/
theorem apart_entry {key : Key} {value : Expr} {back : List Char}
    (h : Apart back value.segments) :
    Apart back (key.segment :: .code " = ".toList :: value.segments) := by
  cases key with
  | bare name => exact h
  | quoted name =>
      have hequals : StartsApart (" = ".toList ++ writeAll value.segments ++ back) := by
        intro c hc
        obtain rfl : ' ' = c := Option.some.inj hc
        decide
      exact ⟨hequals, h⟩

/-- The literals of an expression are apart from what follows them. -/
theorem apart_segments (e : Expr) :
    ∀ {back : List Char}, StartsApart back → Apart back e.segments := by
  have hclosed : ∀ {c : Char} {back : List Char}, SingleQuoted.isQuote c = false →
      StartsApart (writeAll [.code [c]] ++ back) := by
    intro c back hc d hd
    obtain rfl : c = d := Option.some.inj hd
    exact hc
  induction e using Expr.induct with
  | array items ih =>
      intro back hback
      have hitems : ∀ part ∈ items.map segments, ∀ back, StartsApart back → Apart back part := by
        rw [List.forall_mem_map]
        exact fun item hitem back => ih item hitem
      rw [segments_array]
      exact Segment.apart_append.2 ⟨Segment.apart_intercalate (by decide) (by decide) hitems
        (hclosed (by decide)), trivial⟩
  | cast typeName inner ih => exact ih
  | table entries ih =>
      intro back hback
      have hentries : ∀ part ∈ entries.map fun entry =>
          entry.1.segment :: .code " = ".toList :: entry.2.segments,
          ∀ back, StartsApart back → Apart back part := by
        rw [List.forall_mem_map]
        exact fun entry hentry back hback => apart_entry (ih entry hentry hback)
      rw [segments_table]
      exact Segment.apart_append.2 ⟨Segment.apart_intercalate (by decide) (by decide) hentries
        (hclosed (by decide)), trivial⟩
  | text s =>
      intro back hback
      exact ⟨hback, trivial⟩
  | sensitive s =>
      intro back _
      refine ⟨fun c hc => ?_, trivial⟩
      obtain rfl : ' ' = c := Option.some.inj hc
      decide
  | _ => exact fun _ => trivial

end Expr

/-! ## The segments of scripts -/

namespace Statement

/-- The segments of a statement. -/
def segments : Statement → List Segment
  | newCredential name credential =>
      .code ('$' :: (name.toList ++ " = New-PSCredential -User ".toList)) ::
        .literal credential.user :: .code " -Password ".toList ::
          (Expr.sensitive credential.password).segments
  | newInstance name className payload =>
      .code ('$' :: (name.toList ++ " = New-CimInstance -ClientOnly -ClassName ".toList)) ::
        .literal className :: .code " -Property ".toList :: (Expr.table payload).segments

/-- The segments make up the text of the statement. -/
theorem writeAll_segments (s : Statement) : writeAll s.segments = s.write := by
  have htext : ∀ text, (Expr.text text).write = SingleQuoted.write text := fun _ => rfl
  cases s with
  | newCredential name c =>
      simp only [segments, Segment.writeAll_cons, Expr.writeAll_segments, Segment.write,
        write_newCredential, htext, List.cons_append, List.append_assoc]
  | newInstance name className payload =>
      simp only [segments, Segment.writeAll_cons, Expr.writeAll_segments, Segment.write,
        write_newInstance, htext, List.cons_append, List.append_assoc]

theorem apart_segments (s : Statement) {back : List Char} (hback : StartsApart back) :
    Apart back s.segments := by
  have hflag : ∀ cs : List Char, StartsApart (' ' :: cs) := by
    intro cs c hc
    obtain rfl : ' ' = c := Option.some.inj hc
    decide
  cases s with
  | newCredential name c => exact ⟨hflag _, Expr.apart_segments _ hback⟩
  | newInstance name className payload => exact ⟨hflag _, Expr.apart_segments _ hback⟩

end Statement

namespace Script

/-- The segments of a script. -/
def segments (s : Script) : List Segment :=
  .code preamble :: ((s.credentials ++ s.instances).flatMap
    (fun statement => .code ['\n'] :: statement.segments) ++
      (.code ('\n' :: "$InvokeParams = ".toList) :: (s.block.segments ++ [.code postscript])))

/-- The segments make up the text of the script. -/
theorem writeAll_segments (s : Script) : writeAll s.segments = s.write := by
  have hstatements : ∀ statements : List Statement,
      writeAll (statements.flatMap fun statement => .code ['\n'] :: statement.segments) =
        (statements.map Statement.write).flatMap ('\n' :: ·) := by
    intro statements
    induction statements with
    | nil => rfl
    | cons statement rest ih =>
        rw [List.flatMap_cons, Segment.writeAll_append, ih, Segment.writeAll_cons,
          statement.writeAll_segments, List.map_cons, List.flatMap_cons]
        rfl
  have hassignment : writeAssignment s.block = "$InvokeParams = ".toList ++ s.block.write := rfl
  rw [segments, write_eq, lines, hassignment, Segment.writeAll_cons, Segment.writeAll_append,
    hstatements, Segment.writeAll_cons, Segment.writeAll_append, s.block.writeAll_segments]
  simp only [Segment.write, Segment.writeAll_cons, Segment.writeAll_nil, List.append_nil,
    List.flatMap_append, List.flatMap_singleton, List.append_assoc, List.cons_append]

/-- The literals of a script are apart from what follows them. -/
theorem apart_segments (s : Script) : Apart [] s.segments := by
  have hstatements : ∀ (statements : List Statement) (back : List Char), StartsApart back →
      Apart back (statements.flatMap fun statement => .code ['\n'] :: statement.segments) := by
    intro statements
    induction statements with
    | nil => exact fun _ _ => trivial
    | cons statement rest ih =>
        intro back hback
        rw [List.flatMap_cons]
        refine Segment.apart_append.2 ⟨statement.apart_segments ?_, ih back hback⟩
        -- the next line starts with a line feed, and so does what follows the last one
        cases rest with
        | nil => exact hback
        | cons next rest =>
            intro c hc
            obtain rfl : '\n' = c := Option.some.inj hc
            decide
  have hpostscript : StartsApart (writeAll [.code postscript] ++ []) := by
    intro c hc
    obtain rfl : '\n' = c := Option.some.inj hc
    decide
  have hblock : Apart [] (s.block.segments ++ [.code postscript]) :=
    Segment.apart_append.2 ⟨s.block.apart_segments hpostscript, trivial⟩
  refine Segment.apart_append.2 ⟨hstatements _ _ ?_, hblock⟩
  intro c hc
  obtain rfl : '\n' = c := Option.some.inj hc
  decide

/-- The interpreter reads each literal of the script back where it stands, and goes on
with the segment behind it. -/
def Contained (s : Script) : Prop :=
  ∀ front text rest, s.segments = front ++ .literal text :: rest →
    read? (writeAll (.literal text :: rest)) = some (text, writeAll rest)

end Script

/-! ## Segments and pieces -/

/-- Whether the text of a literal has a property. -/
def Segment.Holds (Q : String → Prop) : Segment → Prop
  | code _ => True
  | literal s => Q s

section Holds

variable {Q : String → Prop}

theorem Segment.holds_intercalate {separator : List Char} {parts : List (List Segment)} :
    (∀ g ∈ List.intercalate [.code separator] parts, g.Holds Q) ↔
      ∀ part ∈ parts, ∀ g ∈ part, g.Holds Q := by
  induction parts with
  | nil => simp
  | cons first rest ih =>
      cases rest with
      | nil => simp
      | cons next rest =>
          rw [List.intercalate_cons_cons, List.forall_mem_append, List.forall_mem_append, ih,
            List.forall_mem_cons (l := next :: rest), List.forall_mem_singleton]
          simp [Holds]

theorem Key.holds_segment (key : Key) :
    key.segment.Holds Q ↔ key.piece.Holds Q fun _ => True := by
  cases key <;> exact Iff.rfl

/-- The literals of an expression are its pieces that are no names. -/
theorem Expr.holds_segments (e : Expr) :
    (∀ g ∈ e.segments, g.Holds Q) ↔ ∀ p ∈ e.pieces, p.Holds Q fun _ => True := by
  induction e using Expr.induct with
  | array items ih =>
      rw [segments_array, pieces_array, List.forall_mem_cons, List.forall_mem_append,
        Segment.holds_intercalate, List.forall_mem_map, List.forall_mem_flatMap,
        forall₂_congr ih]
      simp [Segment.Holds]
  | cast typeName inner ih =>
      rw [segments, pieces, List.forall_mem_cons, List.forall_mem_cons, ih]
      exact Iff.rfl
  | table entries ih =>
      have hentry : ∀ entry ∈ entries,
          ((∀ g ∈ entry.1.segment :: .code " = ".toList :: entry.2.segments, g.Holds Q) ↔
            ∀ p ∈ entry.1.piece :: entry.2.pieces, p.Holds Q fun _ => True) := by
        intro entry hentry
        rw [List.forall_mem_cons, List.forall_mem_cons, List.forall_mem_cons, ih entry hentry,
          entry.1.holds_segment]
        exact and_congr_right fun _ => and_iff_right trivial
      rw [segments_table, pieces_table, List.forall_mem_cons, List.forall_mem_append,
        Segment.holds_intercalate, List.forall_mem_map, List.forall_mem_flatMap,
        forall₂_congr hentry]
      simp [Segment.Holds]
  | _ => simp [segments, pieces, Segment.Holds, Piece.Holds]

theorem Statement.holds_segments (s : Statement) :
    (∀ g ∈ s.segments, g.Holds Q) ↔ ∀ p ∈ s.pieces, p.Holds Q fun _ => True := by
  cases s with
  | newCredential name c =>
      simp [segments, pieces, Expr.segments, Segment.Holds, Piece.Holds]
  | newInstance name className payload =>
      rw [segments, pieces, List.forall_mem_cons, List.forall_mem_cons, List.forall_mem_cons,
        Expr.holds_segments, List.forall_mem_cons, List.forall_mem_cons]
      simp [Segment.Holds, Piece.Holds]

/-- The literals of a script are its pieces that are no names. -/
theorem Script.holds_segments (s : Script) :
    (∀ g ∈ s.segments, g.Holds Q) ↔ ∀ p ∈ s.pieces, p.Holds Q fun _ => True := by
  have hline : ∀ statement ∈ s.credentials ++ s.instances,
      ((∀ g ∈ .code ['\n'] :: statement.segments, g.Holds Q) ↔
        ∀ p ∈ statement.pieces, p.Holds Q fun _ => True) := by
    intro statement _
    rw [List.forall_mem_cons, statement.holds_segments]
    exact and_iff_right trivial
  rw [segments, pieces, List.forall_mem_cons, List.forall_mem_append, List.forall_mem_append,
    List.forall_mem_cons, List.forall_mem_append, s.block.holds_segments,
    List.forall_mem_flatMap, List.forall_mem_flatMap, forall₂_congr hline]
  simp [Segment.Holds]

end Holds

/-- The literals of a script are contained exactly if their texts are plain. -/
theorem Script.contained_iff_plain (s : Script) :
    s.Contained ↔ ∀ p ∈ s.pieces, p.Holds Plain fun _ => True := by
  rw [← s.holds_segments]
  constructor
  · intro h g hg
    cases g with
    | code cs => trivial
    | literal text =>
        obtain ⟨front, rest, hsplit⟩ := List.append_of_mem hg
        exact (Segment.read?_writeAll_iff (hsplit ▸ s.apart_segments)).1 (h front text rest hsplit)
  · intro h front text rest hsplit
    have hplain : Plain text := h (.literal text) (by simp [hsplit])
    exact (Segment.read?_writeAll_iff (hsplit ▸ s.apart_segments)).2 hplain

/-! ## The strings of an invocation -/

/-- The fixed words of scripts are plain. -/
theorem fixedWords_plain : FixedWords Plain fun _ => True where
  classKey := by decide
  credentialKeys := by decide
  method := by
    intro method
    cases method <;> decide
  instanceArrayType := trivial
  blockKeys := fun _ _ => trivial

namespace Invocation

variable {source : NameSource} {inv : Invocation}

/-- The module is named by plain texts exactly if its strings are plain.  The path of its
file is made of three of them, and of fixed words. -/
theorem plain_moduleExpr_iff :
    (∀ p ∈ inv.moduleExpr.pieces, p.Holds Plain fun _ => True) ↔
      ∀ s ∈ inv.moduleStrings, Plain s := by
  cases hversion : inv.moduleVersion? with
  | none =>
      have hexpr : inv.moduleExpr = .text inv.moduleName := by rw [moduleExpr, hversion]
      have hstrings : inv.moduleStrings = [inv.moduleName] := by rw [moduleStrings, hversion]
      rw [hexpr, hstrings, Expr.pieces, List.forall_mem_singleton, List.forall_mem_singleton]
      exact Iff.rfl
  | some version =>
      have hslash : Plain "/" := by decide
      have hending : Plain ".psd1" := by decide
      rw [moduleExpr, moduleStrings, hversion]
      simp only [Expr.bareTable, List.map_cons, List.map_nil, Expr.pieces, Expr.entryPieces,
        Key.piece, List.cons_append, List.nil_append, List.forall_mem_cons, Piece.Holds,
        SingleQuoted.plain_append, hslash, hending, true_and, and_true]
      tauto

/-- The literal of a text is read back exactly if the text has no typographic quotes.  A
script is made of such literals and of code, and its literals are read back where they
stand, exactly if no string that enters the script has typographic quotes. -/
theorem contained_iff {script : Script} (h : inv.script source = .ok script) :
    (∀ s, read? (SingleQuoted.write s) = some (s, []) ↔ Plain s) ∧
      script.write = writeAll script.segments ∧
      (script.Contained ↔ ∀ s ∈ inv.strings, Plain s) := by
  obtain ⟨xs, hxs, hstatements, hblock⟩ := run_of_script h
  have hwords := fixedWords_plain
  refine ⟨fun s => ?_, script.writeAll_segments.symm, ?_⟩
  · have hend : StartsApart [] := by decide
    have hread := SingleQuoted.read?_write_append_iff s hend
    rwa [List.append_nil] at hread
  rw [script.contained_iff_plain, Script.pieces, List.forall_mem_append, List.forall_mem_flatMap,
    hstatements]
  constructor
  · rintro ⟨hbuilt, hpieces⟩
    have hcomposites := Pool.strings_of_declareAll hwords source xs hbuilt
    obtain ⟨hname, hmodule, hparameters⟩ :=
      strings_of_block hwords.classKey hxs hcomposites hblock hpieces
    rw [strings, List.forall_mem_cons, List.forall_mem_append, List.forall_mem_flatMap]
    exact ⟨hname, plain_moduleExpr_iff.1 hmodule, hparameters⟩
  · intro hstrings
    have hmodule : ∀ s ∈ inv.moduleStrings, Plain s := fun s hs =>
      hstrings s (List.mem_cons_of_mem _ (List.mem_append_left _ hs))
    refine ⟨fun s hs => ?_, holds_block hwords (fun _ _ => trivial) hstrings
      (fun _ _ => trivial) (plain_moduleExpr_iff.2 hmodule) hblock⟩
    obtain ⟨front, back, hsplit⟩ := List.append_of_mem hs
    obtain ⟨before, x, after, rfl, -, -, rfl⟩ := Pool.exists_of_statement hsplit
    exact Composite.holds_statement hwords (fun _ _ => trivial) trivial
      (holds_composites hwords hstrings hxs x (by simp))

/-- The literals of the script of the sample are read back where they stand. -/
theorem contained_sample :
    ∃ script, sample.script (NameSource.ofList []) = .ok script ∧ script.Contained := by
  obtain ⟨script, h⟩ := exists_script_sample
  exact ⟨script, h, (contained_iff h).2.2.2 (by decide +kernel)⟩

end Invocation

end DesiredState
