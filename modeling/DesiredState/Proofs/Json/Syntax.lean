import DesiredState.Json.Reader
import Mathlib.Data.List.Basic

/-!
# The syntax of JSON texts

A syntax tree is written with the tokens of its parts, with a comma between items or
members, and a colon behind each key.  The machine that puts tokens together accepts
exactly what is written in this way, and gives the tree that was written.

That it gives no other tree is shown step by step: the tokens that a state has taken can
be read off its frames and what may come next, and each step adds one token to them.
That it accepts every tree is shown by induction on the tree, with any frames around it.

## Main definitions

* `JsonSyntax.tokens` — the tokens of a syntax tree.
* `JsonSyntax.State.Consumed` — the tokens that a state has taken.

## Main results

* `JsonSyntax.State.Consumed.step`, `JsonSyntax.State.Consumed.run` — each step takes one
  token, and a run takes all.
* `JsonSyntax.foldlM_tokens` — a tree is taken wherever a value may come.
* `JsonSyntax.read?_eq_some_iff` — a text has the syntax whose tokens it has.
-/

namespace DesiredState

namespace JsonSyntax

open JsonToken (openArray closeArray openObject closeObject comma colon)

/-- Induction over syntax trees: the cases of arrays and objects get the statement for
all items and for the values of all members. -/
@[elab_as_elim]
theorem induct {motive : JsonSyntax → Prop} (scalar : ∀ value, motive (.scalar value))
    (string : ∀ content, motive (.string content))
    (array : ∀ items, (∀ item ∈ items, motive item) → motive (.array items))
    (object : ∀ members, (∀ member ∈ members, motive member.2) → motive (.object members))
    (s : JsonSyntax) : motive s :=
  @JsonSyntax.rec motive (fun items => ∀ item ∈ items, motive item)
    (fun members => ∀ member ∈ members, motive member.2) (fun member => motive member.2)
    scalar string array object
    (by simp) (fun _ _ head tail => List.forall_mem_cons.2 ⟨head, tail⟩)
    (by simp) (fun _ _ head tail => List.forall_mem_cons.2 ⟨head, tail⟩)
    (fun _ _ value => value) s

/-! ## Tokens of a tree -/

mutual

/-- The tokens of a syntax tree. -/
def tokens : JsonSyntax → List JsonToken
  | scalar value => [.scalar value]
  | string content => [.string content]
  | array items => openArray :: (List.intercalate [comma] (itemTokens items) ++ [closeArray])
  | object members =>
      openObject :: (List.intercalate [comma] (memberTokens members) ++ [closeObject])

/-- The tokens of the items of an array. -/
def itemTokens : List JsonSyntax → List (List JsonToken)
  | [] => []
  | item :: rest => tokens item :: itemTokens rest

/-- The tokens of the members of an object. -/
def memberTokens : List (Option String × JsonSyntax) → List (List JsonToken)
  | [] => []
  | (key, value) :: rest => (.string key :: colon :: tokens value) :: memberTokens rest

end

/-- The tokens of a member: its key, a colon, and its value. -/
def tokensOfMember (member : Option String × JsonSyntax) : List JsonToken :=
  .string member.1 :: colon :: member.2.tokens

theorem tokens_array (items : List JsonSyntax) :
    (array items).tokens =
      openArray :: (List.intercalate [comma] (items.map tokens) ++ [closeArray]) := by
  have hitems : itemTokens items = items.map tokens := by
    induction items with
    | nil => rfl
    | cons item rest ih => rw [itemTokens, ih, List.map_cons]
  rw [tokens, hitems]

theorem tokens_object (members : List (Option String × JsonSyntax)) :
    (object members).tokens =
      openObject :: (List.intercalate [comma] (members.map tokensOfMember) ++ [closeObject]) := by
  have hmembers : memberTokens members = members.map tokensOfMember := by
    induction members with
    | nil => rfl
    | cons member rest ih =>
        rw [memberTokens, ih, List.map_cons]
        rfl
  rw [tokens, hmembers]

theorem intercalate_concat {α : Type} (separator : List α) (parts : List (List α))
    (last : List α) : List.intercalate separator (parts ++ [last]) =
      parts.flatMap (· ++ separator) ++ last := by
  induction parts with
  | nil => simp
  | cons first rest ih =>
      have hne : rest ++ [last] ≠ [] := by simp
      obtain ⟨next, others, heq⟩ := List.exists_cons_of_ne_nil hne
      rw [List.cons_append, heq, List.intercalate_cons_cons, ← heq, ih, List.flatMap_cons,
        List.append_assoc, List.append_assoc, List.append_assoc]

theorem mem_intercalate {α : Type} {separator : List α} {parts : List (List α)} {part : List α}
    {a : α} (hpart : part ∈ parts) (ha : a ∈ part) : a ∈ List.intercalate separator parts := by
  induction parts with
  | nil => cases hpart
  | cons first rest ih =>
      cases rest with
      | nil =>
          obtain rfl := List.mem_singleton.1 hpart
          rwa [List.intercalate_singleton]
      | cons next rest =>
          rw [List.intercalate_cons_cons, List.mem_append]
          rcases List.mem_cons.1 hpart with rfl | hpart
          · exact .inl (List.mem_append_left _ ha)
          · exact .inr (ih hpart)

/-! ## Tokens of a state -/

namespace State

/-- The tokens of parts that were read, last first, each with a comma behind it. -/
def partTokens {α : Type} (write : α → List JsonToken) (parts : List α) : List JsonToken :=
  parts.reverse.flatMap fun part => write part ++ [comma]

theorem partTokens_cons {α : Type} (write : α → List JsonToken) (part : α) (parts : List α) :
    partTokens write (part :: parts) = partTokens write parts ++ write part ++ [comma] := by
  simp [partTokens]

/-- Behind the last part stands no comma. -/
theorem partTokens_append {α : Type} (write : α → List JsonToken) (last : α) (parts : List α) :
    partTokens write parts ++ write last =
      List.intercalate [comma] ((last :: parts).reverse.map write) := by
  rw [List.reverse_cons, List.map_append, List.map_singleton, intercalate_concat, partTokens,
    List.flatMap_map]

/-- The tokens from the start of a frame to a value in it. -/
def frameTokens : Frame → List JsonToken
  | .array items => openArray :: partTokens tokens items
  | .object members key =>
      openObject :: (partTokens tokensOfMember members ++ [.string key, colon])

/-- The tokens from the start of a text to a value in its frames. -/
def framesTokens (frames : List Frame) : List JsonToken := frames.reverse.flatMap frameTokens

theorem framesTokens_cons (frame : Frame) (frames : List Frame) :
    framesTokens (frame :: frames) = framesTokens frames ++ frameTokens frame := by
  simp [framesTokens]

/-- Whether a state has taken these tokens. -/
def Consumed (taken : List JsonToken) : State → Prop
  | ⟨frames, .value⟩ => taken = framesTokens frames
  | ⟨.array [] :: frames, .itemOrEnd⟩ => taken = framesTokens frames ++ [openArray]
  | ⟨.object [] _ :: frames, .keyOrEnd⟩ => taken = framesTokens frames ++ [openObject]
  | ⟨.object members _ :: frames, .key⟩ =>
      taken = framesTokens frames ++ openObject :: partTokens tokensOfMember members
  | ⟨.object members key :: frames, .colon⟩ =>
      taken = framesTokens frames ++
        openObject :: (partTokens tokensOfMember members ++ [.string key])
  | ⟨.array (last :: items) :: frames, .separator⟩ =>
      taken = framesTokens frames ++ openArray :: (partTokens tokens items ++ last.tokens)
  | ⟨.object (last :: members) _ :: frames, .separator⟩ =>
      taken = framesTokens frames ++
        openObject :: (partTokens tokensOfMember members ++ tokensOfMember last)
  | ⟨[], .nothing value⟩ => taken = value.tokens
  | _ => False

/-- Behind a complete value its tokens are taken. -/
theorem consumed_complete {taken : List JsonToken} {value : JsonSyntax} {frames : List Frame}
    (h : taken = framesTokens frames ++ value.tokens) : Consumed taken (complete value frames) := by
  cases frames with
  | nil => exact h
  | cons frame frames =>
      rw [framesTokens_cons] at h
      cases frame with
      | array items => simpa [frameTokens, complete, Consumed] using h
      | object members key => simpa [frameTokens, complete, Consumed, tokensOfMember] using h

/-- Where a value may come, its first token opens a frame or completes it. -/
theorem consumed_openValue? {taken : List JsonToken} {frames : List Frame} {token : JsonToken}
    {next : State} (h : taken = framesTokens frames) (hstep : openValue? frames token = some next) :
    Consumed (taken ++ [token]) next := by
  subst h
  cases token with
  | openArray => exact Option.some.inj hstep ▸ rfl
  | openObject => exact Option.some.inj hstep ▸ rfl
  | string content => exact Option.some.inj hstep ▸ consumed_complete rfl
  | scalar value => exact Option.some.inj hstep ▸ consumed_complete rfl
  | _ => cases hstep

/-- Each step takes one token. -/
theorem Consumed.step {taken : List JsonToken} {s next : State} {token : JsonToken}
    (h : Consumed taken s) (hstep : s.step? token = some next) :
    Consumed (taken ++ [token]) next := by
  -- one case for each form of a state that has taken tokens
  rw [Consumed.eq_def] at h
  split at h
  · next frames => exact consumed_openValue? h (by cases frames <;> exact hstep)
  · next frames =>
    have htaken : taken = framesTokens (.array [] :: frames) := by
      rw [framesTokens_cons]
      exact h
    cases token with
    | closeArray =>
        obtain rfl := Option.some.inj hstep
        refine consumed_complete ?_
        rw [h, tokens_array]
        simp
    | _ => exact consumed_openValue? htaken hstep
  · next key frames =>
    subst h
    cases token with
    | closeObject =>
        obtain rfl := Option.some.inj hstep
        exact consumed_complete (by simp [tokens_object])
    | string content =>
        obtain rfl := Option.some.inj hstep
        simp [Consumed, partTokens]
    | _ => cases hstep
  · next members key frames =>
    subst h
    cases token with
    | string content =>
        obtain rfl := Option.some.inj hstep
        simp [Consumed]
    | _ => cases hstep
  · next members key frames =>
    subst h
    cases token with
    | colon =>
        obtain rfl := Option.some.inj hstep
        simp [Consumed, framesTokens_cons, frameTokens]
    | _ => cases hstep
  · next last items frames =>
    subst h
    cases token with
    | comma =>
        obtain rfl := Option.some.inj hstep
        simp [Consumed, framesTokens_cons, frameTokens, partTokens_cons]
    | closeArray =>
        obtain rfl := Option.some.inj hstep
        refine consumed_complete ?_
        rw [tokens_array, partTokens_append, List.append_assoc, List.cons_append]
    | _ => cases hstep
  · next last members key frames =>
    subst h
    cases token with
    | comma =>
        obtain rfl := Option.some.inj hstep
        simp [Consumed, partTokens_cons]
    | closeObject =>
        obtain rfl := Option.some.inj hstep
        refine consumed_complete ?_
        rw [tokens_object, partTokens_append, List.append_assoc, List.cons_append]
    | _ => cases hstep
  · next value => cases hstep
  · exact h.elim

/-- A run takes all tokens. -/
theorem Consumed.run {taken : List JsonToken} {s final : State} {rest : List JsonToken}
    (h : Consumed taken s) (hrun : rest.foldlM step? s = some final) :
    Consumed (taken ++ rest) final := by
  induction rest generalizing taken s with
  | nil =>
      obtain rfl := Option.some.inj hrun
      rwa [List.append_nil]
  | cons token rest ih =>
      rw [List.foldlM_cons] at hrun
      obtain ⟨next, hstep, hrun⟩ := Option.bind_eq_some_iff.1 hrun
      have hall := ih (h.step hstep) hrun
      rwa [List.append_assoc, List.singleton_append] at hall

end State

/-! ## Every tree is taken -/

section Taken

variable (frames : List Frame) (rest : List JsonToken)

/-- The items of an array, from the first to the last. -/
theorem foldlM_items {items : List JsonSyntax} (hne : items ≠ [])
    (ih : ∀ item ∈ items, ∀ frames rest, (item.tokens ++ rest).foldlM State.step?
      ⟨frames, .value⟩ = rest.foldlM State.step? (State.complete item frames))
    (read : List JsonSyntax) :
    (List.intercalate [comma] (items.map tokens) ++ rest).foldlM State.step?
        ⟨.array read :: frames, .value⟩ =
      rest.foldlM State.step? ⟨.array (items.reverse ++ read) :: frames, .separator⟩ := by
  induction items generalizing read with
  | nil => exact absurd rfl hne
  | cons item others ihothers =>
      obtain ⟨hitem, hothers⟩ := List.forall_mem_cons.1 ih
      cases others with
      | nil =>
          rw [List.map_singleton, List.intercalate_singleton, hitem]
          rfl
      | cons next others =>
          have hnext := ihothers (List.cons_ne_nil _ _) hothers (item :: read)
          rw [List.map_cons, List.map_cons, List.intercalate_cons_cons, ← List.map_cons,
            List.append_assoc, List.append_assoc, hitem]
          -- behind the item a comma leads to the next one
          change (List.intercalate [comma] ((next :: others).map tokens) ++ rest).foldlM
            State.step? ⟨.array (item :: read) :: frames, .value⟩ = _
          rw [hnext, List.reverse_cons (a := item), List.append_assoc]
          rfl

/-- The members of an object, from the first to the last. -/
theorem foldlM_members {members : List (Option String × JsonSyntax)} (hne : members ≠ [])
    (ih : ∀ member ∈ members, ∀ frames rest, (member.2.tokens ++ rest).foldlM State.step?
      ⟨frames, .value⟩ = rest.foldlM State.step? (State.complete member.2 frames))
    (read : List (Option String × JsonSyntax)) :
    (List.intercalate [comma] (members.map tokensOfMember) ++ rest).foldlM State.step?
        ⟨.object read none :: frames, .key⟩ =
      rest.foldlM State.step? ⟨.object (members.reverse ++ read) none :: frames, .separator⟩ := by
  induction members generalizing read with
  | nil => exact absurd rfl hne
  | cons member others ihothers =>
      obtain ⟨hmember, hothers⟩ := List.forall_mem_cons.1 ih
      obtain ⟨key, value⟩ := member
      have hfirst : ∀ rest, (tokensOfMember (key, value) ++ rest).foldlM State.step?
          ⟨.object read none :: frames, .key⟩ =
            rest.foldlM State.step? ⟨.object ((key, value) :: read) none :: frames, .separator⟩ :=
        hmember (.object read key :: frames)
      cases others with
      | nil =>
          rw [List.map_singleton, List.intercalate_singleton, hfirst]
          rfl
      | cons next others =>
          have hnext := ihothers (List.cons_ne_nil _ _) hothers ((key, value) :: read)
          rw [List.map_cons, List.map_cons, List.intercalate_cons_cons, ← List.map_cons,
            List.append_assoc, List.append_assoc, hfirst]
          change (List.intercalate [comma] ((next :: others).map tokensOfMember) ++ rest).foldlM
            State.step? ⟨.object ((key, value) :: read) none :: frames, .key⟩ = _
          rw [hnext, List.reverse_cons (a := (key, value)), List.append_assoc]
          rfl

/-- Where the first item of an array may come, it is taken like any value. -/
theorem foldlM_itemOrEnd (s : JsonSyntax) (more : List JsonToken) :
    (s.tokens ++ more).foldlM State.step? ⟨.array [] :: frames, .itemOrEnd⟩ =
      (s.tokens ++ more).foldlM State.step? ⟨.array [] :: frames, .value⟩ := by
  cases s <;> rfl

/-- An array is taken wherever a value may come, if its items are. -/
theorem foldlM_array {items : List JsonSyntax}
    (ih : ∀ item ∈ items, ∀ frames rest, (item.tokens ++ rest).foldlM State.step?
      ⟨frames, .value⟩ = rest.foldlM State.step? (State.complete item frames)) :
    ((array items).tokens ++ rest).foldlM State.step? ⟨frames, .value⟩ =
      rest.foldlM State.step? (State.complete (.array items) frames) := by
  rw [tokens_array]
  cases items with
  | nil => rfl
  | cons first others =>
      have hitems := foldlM_items frames (closeArray :: rest) (List.cons_ne_nil _ _) ih []
      have hfirst : ∃ more, List.intercalate [comma] ((first :: others).map tokens) =
          first.tokens ++ more := by
        cases others with
        | nil => exact ⟨[], by simp⟩
        | cons next others => exact ⟨_, List.intercalate_cons_cons.trans (List.append_assoc ..)⟩
      obtain ⟨more, hmore⟩ := hfirst
      rw [List.cons_append, List.foldlM_cons]
      change (_ ++ [closeArray] ++ rest).foldlM State.step? ⟨.array [] :: frames, .itemOrEnd⟩ = _
      rw [List.append_assoc, hmore, List.append_assoc, foldlM_itemOrEnd, ← List.append_assoc,
        ← hmore, List.singleton_append, hitems, List.append_nil, List.foldlM_cons]
      change rest.foldlM State.step? (State.complete (.array _) frames) = _
      rw [List.reverse_reverse]

/-- Where the first key of an object may come, it is taken like any key. -/
theorem foldlM_keyOrEnd (first : Option String × JsonSyntax)
    (others : List (Option String × JsonSyntax)) (more : List JsonToken) :
    (List.intercalate [comma] ((first :: others).map tokensOfMember) ++ more).foldlM State.step?
        ⟨.object [] none :: frames, .keyOrEnd⟩ =
      (List.intercalate [comma] ((first :: others).map tokensOfMember) ++ more).foldlM State.step?
        ⟨.object [] none :: frames, .key⟩ := by
  have hfirst : ∃ behind, List.intercalate [comma] ((first :: others).map tokensOfMember) =
      .string first.1 :: behind := by
    cases others with
    | nil => exact ⟨_, List.intercalate_singleton⟩
    | cons next others => exact ⟨_, List.intercalate_cons_cons⟩
  obtain ⟨behind, hbehind⟩ := hfirst
  rw [hbehind]
  rfl

/-- An object is taken wherever a value may come, if the values of its members are. -/
theorem foldlM_object {members : List (Option String × JsonSyntax)}
    (ih : ∀ member ∈ members, ∀ frames rest, (member.2.tokens ++ rest).foldlM State.step?
      ⟨frames, .value⟩ = rest.foldlM State.step? (State.complete member.2 frames)) :
    ((object members).tokens ++ rest).foldlM State.step? ⟨frames, .value⟩ =
      rest.foldlM State.step? (State.complete (.object members) frames) := by
  rw [tokens_object]
  cases members with
  | nil => rfl
  | cons first others =>
      have hmembers := foldlM_members frames (closeObject :: rest) (List.cons_ne_nil _ _) ih []
      rw [List.cons_append, List.foldlM_cons]
      change (_ ++ [closeObject] ++ rest).foldlM State.step?
        ⟨.object [] none :: frames, .keyOrEnd⟩ = _
      rw [List.append_assoc, List.singleton_append, foldlM_keyOrEnd, hmembers, List.append_nil,
        List.foldlM_cons]
      change rest.foldlM State.step? (State.complete (.object _) frames) = _
      rw [List.reverse_reverse]

end Taken

/-- A tree is taken wherever a value may come. -/
theorem foldlM_tokens (s : JsonSyntax) : ∀ frames rest,
    (s.tokens ++ rest).foldlM State.step? ⟨frames, .value⟩ =
      rest.foldlM State.step? (State.complete s frames) := by
  induction s using JsonSyntax.induct with
  | scalar value => exact fun frames rest => rfl
  | string content => exact fun frames rest => rfl
  | array items ih => exact fun frames rest => foldlM_array frames rest ih
  | object members ih => exact fun frames rest => foldlM_object frames rest ih

/-- A text has the syntax whose tokens it has. -/
theorem read?_eq_some_iff {cs : List Char} {s : JsonSyntax} :
    read? cs = some s ↔ JsonToken.scan? cs = some s.tokens := by
  rw [read?]
  constructor
  · intro h
    obtain ⟨taken, hscan, h⟩ := Option.bind_eq_some_iff.1 h
    obtain ⟨final, hrun, h⟩ := Option.bind_eq_some_iff.1 h
    have hstart : State.Consumed [] ⟨[], .value⟩ := rfl
    have hall := hstart.run hrun
    obtain ⟨frames, expected⟩ := final
    cases expected with
    | nothing value =>
        obtain rfl := Option.some.inj h
        cases frames with
        | nil => rw [hscan, ← hall, List.nil_append]
        | cons frame frames => cases frame <;> exact hall.elim
    | _ => cases h
  · intro hscan
    have hrun := foldlM_tokens s [] []
    rw [List.append_nil] at hrun
    rw [hscan]
    change (s.tokens.foldlM State.step? ⟨[], .value⟩ >>= _) = _
    rw [hrun]
    rfl

end JsonSyntax

end DesiredState
