import Conformance.Text.Position

/-!
# Character streams

A character stream is a named text with a place in it: the characters already consumed, the
characters still to come, and the position between them. A lexer reads its input through one.
Looking ahead adds machine words of 64 bits.
-/

namespace Conformance

/-- A named text and a place in it. -/
structure CharStream where
  /-- The name of the source, such as a path. -/
  name : String
  /-- The consumed characters, the latest first. -/
  consumed : List Char
  /-- The characters still to come. -/
  rest : List Char
  /-- The position before the next character. -/
  position : Position
  deriving Repr, DecidableEq, Inhabited

namespace CharStream

/-- The stream at the start of a text. -/
def ofText (name text : String) : CharStream :=
  ⟨name, [], text.toList, Position.start⟩

/-- The whole text, consumed or not. -/
def chars (stream : CharStream) : List Char :=
  stream.consumed.reverse ++ stream.rest

/-- The number of characters of the whole text. -/
def length (stream : CharStream) : Nat :=
  stream.consumed.length + stream.rest.length

/-- The number of characters consumed. -/
def index (stream : CharStream) : Nat :=
  stream.consumed.length

/-- Nothing is left to consume. -/
def isAtEnd (stream : CharStream) : Bool :=
  stream.rest.isEmpty

/-- The character `offset` places ahead, the next one being at offset one. Its place in the text is
a sum of machine words, which is taken as it wraps. -/
def lookahead (stream : CharStream) (offset : UInt64) : Option Char :=
  if offset = 0 then none
  else stream.chars[(UInt64.ofNat stream.index + offset - 1).toNat]?

/-- The next character, and the stream after it; at the end the stream stays as it is. -/
def consume (stream : CharStream) : Option Char × CharStream :=
  match stream.rest with
  | [] => (none, stream)
  | c :: rest =>
    (some c,
      { stream with
        consumed := c :: stream.consumed
        rest
        position := stream.position.advance c })

/-- The characters from `first` up to `last` of the whole text, as far as they exist. -/
def slice (stream : CharStream) (first last : Nat) : List Char :=
  (stream.chars.take last).drop first

/-- The next `count` characters, fewer at the end, and the stream after them. -/
def take (stream : CharStream) (count : Nat) : List Char × CharStream :=
  let text := stream.rest.take count
  (text,
    { stream with
      consumed := text.reverse ++ stream.consumed
      rest := stream.rest.drop count
      position := stream.position.after text })

/-- A new stream is over its text. -/
@[simp] theorem chars_ofText (name text : String) : (ofText name text).chars = text.toList := by
  simp [chars, ofText]

/-- All of the text is still to come at its start. -/
@[simp] theorem rest_ofText (name text : String) : (ofText name text).rest = text.toList := rfl

/-- A new stream has the name of its source. -/
@[simp] theorem name_ofText (name text : String) : (ofText name text).name = name := rfl

/-- Consuming moves one character from what is to come to what is consumed. -/
@[simp] theorem chars_consume (stream : CharStream) : stream.consume.2.chars = stream.chars := by
  unfold consume
  split <;> simp_all [chars]

/-- Taking characters moves them from what is to come to what is consumed. -/
@[simp] theorem chars_take (stream : CharStream) (count : Nat) :
    (stream.take count).2.chars = stream.chars := by
  simp [take, chars]

/-- Taking one character more is consuming once and taking the others. -/
theorem take_succ (stream : CharStream) (count : Nat) :
    stream.take (count + 1) =
      match stream.consume with
      | (none, _) => ([], stream)
      | (some c, next) => (c :: (next.take count).1, (next.take count).2) := by
  cases h : stream.rest with
  | nil => cases stream; simp_all [take, consume]
  | cons c rest => simp [take, consume, h]

end CharStream

end Conformance
