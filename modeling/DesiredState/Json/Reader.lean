import DesiredState.Json.Number

/-!
# Reading JSON

A text is cut into tokens, and the tokens are put together by a machine with a
stack: one frame for each array or object that is open.  The result is the
syntax of the text.  It says no more than that the text has the right form;
whether each number is in range, each string a proper text and the nesting not
too deep is decided when the syntax is turned into a value.  So a reader that
has no use for a part of an answer can leave its content unlooked at.

## Main definitions

* `JsonToken.scan?` — the tokens of a text.
* `JsonSyntax`, `JsonSyntax.read?` — the syntax of a text.
* `JsonSyntax.toJson?`, `Json.read?` — the value of a syntax and of a text.
-/

namespace DesiredState

/-! ## Tokens -/

/-- A token of JSON.  The content of a string is missing when it is no text,
the value of a number when it is out of range. -/
inductive JsonToken where
  | openArray
  | closeArray
  | openObject
  | closeObject
  | comma
  | colon
  | string (content : Option String)
  | scalar (value : Option Json)

/-- A piece of a string: a character, or the number of a 16-bit unit. -/
inductive StringPiece where
  | char (c : Char)
  | unit (n : Nat)

/-- The characters of the pieces of a string: a high surrogate joins the low
one behind it, and a surrogate on its own is no character. -/
def joinPieces? : List StringPiece → Option (List Char)
  | [] => some []
  | .char c :: rest => (joinPieces? rest).map (c :: ·)
  | .unit high :: .unit low :: rest =>
      if 0xD800 ≤ high ∧ high < 0xDC00 then
        if 0xDC00 ≤ low ∧ low < 0xE000 then
          (joinPieces? rest).map
            (Char.ofNat (0x10000 + (high - 0xD800) * 0x400 + (low - 0xDC00)) :: ·)
        else none
      else if 0xDC00 ≤ high ∧ high < 0xE000 then none
      else (joinPieces? (.unit low :: rest)).map (Char.ofNat high :: ·)
  | .unit n :: rest =>
      if 0xD800 ≤ n ∧ n < 0xE000 then none else (joinPieces? rest).map (Char.ofNat n :: ·)

/-- The character of a one-letter escape. -/
def escapedChar? : Char → Option Char
  | '"' => some '"'
  | '\\' => some '\\'
  | '/' => some '/'
  | 'b' => some '\x08'
  | 'f' => some '\x0c'
  | 'n' => some '\n'
  | 'r' => some '\r'
  | 't' => some '\t'
  | _ => none

/-- The pieces of a string behind its opening quote, and the text behind its
closing one. -/
def readPieces? : List Char → Option (List StringPiece × List Char)
  | [] => none
  | '"' :: rest => some ([], rest)
  | '\\' :: 'u' :: a :: b :: c :: d :: rest =>
      match digitsValue? 16 [a, b, c, d] with
      | some n => (readPieces? rest).map fun (pieces, rest) => (.unit n :: pieces, rest)
      | none => none
  | '\\' :: letter :: rest =>
      match escapedChar? letter with
      | some c => (readPieces? rest).map fun (pieces, rest) => (.char c :: pieces, rest)
      | none => none
  | c :: rest =>
      if c.toNat < 0x20 ∨ c = '\\' then none
      else (readPieces? rest).map fun (pieces, rest) => (.char c :: pieces, rest)

namespace JsonToken

/-- Whether a character is between tokens. -/
def isSpace (c : Char) : Bool := c == ' ' || c == '\t' || c == '\n' || c == '\r'

/-- Whether a character can belong to a word or a number. -/
def isWordChar (c : Char) : Bool :=
  c.isAlphanum || c == '+' || c == '-' || c == '.'

/-- The token of a word or a number. -/
def ofWord? (word : List Char) : Option JsonToken :=
  match String.ofList word with
  | "null" => some (.scalar (some .null))
  | "true" => some (.scalar (some (.bool true)))
  | "false" => some (.scalar (some (.bool false)))
  | _ => (Json.readNumber? word).map .scalar

/-- The token of a character that stands for itself. -/
def ofChar? : Char → Option JsonToken
  | '[' => some openArray
  | ']' => some closeArray
  | '\x7b' => some openObject
  | '\x7d' => some closeObject
  | ',' => some comma
  | ':' => some colon
  | _ => none

/-- The tokens of a text; each step takes at least one character, so as many
steps as there are characters suffice. -/
def scanFrom? : Nat → List Char → Option (List JsonToken)
  | _, [] => some []
  | 0, _ :: _ => none
  | fuel + 1, c :: rest =>
      if isSpace c then scanFrom? fuel rest
      else if c = '"' then do
        let (pieces, rest) ← readPieces? rest
        let tokens ← scanFrom? fuel rest
        pure (.string ((joinPieces? pieces).map String.ofList) :: tokens)
      else
        match ofChar? c with
        | some token => (scanFrom? fuel rest).map (token :: ·)
        | none => do
            let word := (c :: rest).takeWhile isWordChar
            let token ← ofWord? word
            let tokens ← scanFrom? fuel ((c :: rest).drop word.length)
            pure (token :: tokens)

/-- The tokens of a text. -/
def scan? (cs : List Char) : Option (List JsonToken) := scanFrom? cs.length cs

end JsonToken

/-! ## Syntax -/

/-- The form of a JSON text. -/
inductive JsonSyntax where
  | scalar (value : Option Json)
  | string (content : Option String)
  | array (items : List JsonSyntax)
  | object (members : List (Option String × JsonSyntax))

namespace JsonSyntax

/-- An array or an object that is open: what it holds so far, last first, and
for an object the key whose value is to come. -/
inductive Frame where
  | array (items : List JsonSyntax)
  | object (members : List (Option String × JsonSyntax)) (key : Option String)

/-- What may come next. -/
inductive Expected where
  | value
  /-- The first item of an array, or its end. -/
  | itemOrEnd
  /-- The first key of an object, or its end. -/
  | keyOrEnd
  | key
  | colon
  /-- A comma or the end of what is open. -/
  | separator
  /-- Nothing: the value is complete. -/
  | nothing (value : JsonSyntax)

/-- A text read so far: the frames that are open, innermost first, and what may
come next. -/
structure State where
  frames : List Frame
  expected : Expected

namespace State

/-- The state behind a complete value. -/
def complete (value : JsonSyntax) : List Frame → State
  | [] => ⟨[], .nothing value⟩
  | .array items :: rest => ⟨.array (value :: items) :: rest, .separator⟩
  | .object members key :: rest => ⟨.object ((key, value) :: members) none :: rest, .separator⟩

/-- The state behind the first token of a value. -/
def openValue? (frames : List Frame) : JsonToken → Option State
  | .openArray => some ⟨.array [] :: frames, .itemOrEnd⟩
  | .openObject => some ⟨.object [] none :: frames, .keyOrEnd⟩
  | .string content => some (complete (.string content) frames)
  | .scalar value => some (complete (.scalar value) frames)
  | _ => none

/-- The state behind one more token. -/
def step? (s : State) (token : JsonToken) : Option State :=
  match s.expected, s.frames, token with
  | .nothing _, _, _ => none
  | .itemOrEnd, .array _ :: rest, .closeArray => some (complete (.array []) rest)
  | .value, frames, token | .itemOrEnd, frames, token => openValue? frames token
  | .keyOrEnd, .object _ _ :: rest, .closeObject => some (complete (.object []) rest)
  | .key, .object members _ :: rest, .string key
  | .keyOrEnd, .object members _ :: rest, .string key =>
      some ⟨.object members key :: rest, .colon⟩
  | .colon, frames, .colon => some ⟨frames, .value⟩
  | .separator, .array items :: rest, .comma => some ⟨.array items :: rest, .value⟩
  | .separator, .object members key :: rest, .comma => some ⟨.object members key :: rest, .key⟩
  | .separator, .array items :: rest, .closeArray => some (complete (.array items.reverse) rest)
  | .separator, .object members _ :: rest, .closeObject =>
      some (complete (.object members.reverse) rest)
  | _, _, _ => none

end State

/-- The syntax of a text that is one JSON value. -/
def read? (cs : List Char) : Option JsonSyntax := do
  let tokens ← JsonToken.scan? cs
  let final ← tokens.foldlM State.step? ⟨[], .value⟩
  match final.expected with
  | .nothing value => some value
  | _ => none

mutual

/-- The value of a syntax, with at most `depth` arrays and objects around any
part.  Of members with the same key the last one counts, in the first place. -/
def toJson? (depth : Nat) : JsonSyntax → Option Json
  | scalar value => value
  | string content => content.map .string
  | array items =>
      match depth with
      | 0 => none
      | depth + 1 => (itemsToJson? depth items).map .array
  | object members =>
      match depth with
      | 0 => none
      | depth + 1 => (membersToJson? depth members).map fun m => .object (Entries.ofPairs m)

/-- The values of the items of an array. -/
def itemsToJson? (depth : Nat) : List JsonSyntax → Option (List Json)
  | [] => some []
  | item :: rest => do
      let first ← toJson? depth item
      let others ← itemsToJson? depth rest
      pure (first :: others)

/-- The values of the members of an object. -/
def membersToJson? (depth : Nat) :
    List (Option String × JsonSyntax) → Option (List (String × Json))
  | [] => some []
  | (key, value) :: rest => do
      let key ← key
      let first ← toJson? depth value
      let others ← membersToJson? depth rest
      pure ((key, first) :: others)

end

end JsonSyntax

/-- The greatest number of arrays and objects around any part of a value. -/
def jsonDepth : Nat := 127

/-- The value of a text. -/
def Json.read? (cs : List Char) : Option Json := do
  (← JsonSyntax.read? cs).toJson? jsonDepth

end DesiredState
