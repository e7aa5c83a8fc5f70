import Conformance.Token.Source

/-!
# Lexing a text

A lexer that is called again and again hands out the pieces of its text from the first one on, none
of them empty and none left out, each with the position at which it starts. When the text is used
up it answers the end token, and goes on doing so.
-/

namespace Conformance

/-! ## One token -/

/-- A token covers the piece of text that a stream moves over. -/
structure Covers (before : CharStream) (token : Token) (after : CharStream) : Prop where
  /-- The piece is not empty. -/
  nonempty : token.text ≠ ""
  /-- The piece is the next one. -/
  text : before.rest = token.text.toList ++ after.rest
  /-- The token stands at the start of the piece. -/
  position : token.position = before.position
  /-- The stream stands behind it afterwards. -/
  next : after.position = before.position.after token.text.toList

namespace LexicalGrammar

variable {grammar : LexicalGrammar} {kind : Kind} {text : List Char} {position : Position}

/-- A token has the kind that it is made of. -/
@[simp] theorem kind_token : (grammar.token kind text position).kind = kind := by
  unfold token
  split <;> rfl

/-- It has the text. -/
@[simp] theorem text_token : (grammar.token kind text position).text.toList = text := by
  unfold token
  split <;> exact String.toList_ofList

/-- And it has the position. -/
@[simp] theorem position_token : (grammar.token kind text position).position = position := by
  unfold token
  split <;> rfl

/-- A token is hidden when its kind is. -/
@[simp] theorem isHidden_token :
    (grammar.token kind text position).isHidden = grammar.isHidden kind := by
  unfold token
  split
  · rename_i hidden
    rw [hidden]
    rfl
  · rename_i visible
    rw [Bool.not_eq_true] at visible
    rw [visible]
    rfl

variable {stream : CharStream} {c : Char} {rest : List Char}

/-- Before the end, the next token is the lexeme that the grammar scans. -/
theorem next_of_rest_cons (going : stream.rest = c :: rest) :
    grammar.next stream =
      (grammar.token (grammar.scan c rest).1 (c :: rest.take (grammar.scan c rest).2)
          stream.position,
        (stream.take ((grammar.scan c rest).2 + 1)).2) := by
  simp [next, going, CharStream.take]

/-- Before the end, the next token covers a piece of the text. -/
theorem covers_next (grammar : LexicalGrammar) (more : stream.rest ≠ []) :
    Covers stream (grammar.next stream).1 (grammar.next stream).2 := by
  obtain ⟨c, rest, going⟩ := List.exists_cons_of_ne_nil more
  rw [next_of_rest_cons going]
  refine ⟨fun empty => ?_, ?_, position_token, ?_⟩
  · have spelled : (grammar.token (grammar.scan c rest).1
        (c :: rest.take (grammar.scan c rest).2) stream.position).text.toList =
          c :: rest.take (grammar.scan c rest).2 := text_token
    rw [empty] at spelled
    cases spelled
  · simp [CharStream.take, going]
  · simp [CharStream.take, going]

end LexicalGrammar

/-! ## All tokens -/

namespace TokenSource

/-- The source after so many calls. -/
def advance (source : TokenSource) : Nat → TokenSource
  | 0 => source
  | calls + 1 => source.next.2.advance calls

/-- The answer to the call that comes after so many others. -/
def answer (source : TokenSource) (calls : Nat) : Token :=
  (source.advance calls).next.1

/-- What the answers to the first calls spell. -/
def spelling (source : TokenSource) (calls : Nat) : List Char :=
  (List.range calls).flatMap fun call => (source.answer call).text.toList

/-- A call later is a call of the source that the first call leaves. -/
theorem answer_succ (source : TokenSource) (calls : Nat) :
    source.answer (calls + 1) = source.next.2.answer calls :=
  rfl

/-- The first answer is spelled before those of the source that the first call leaves. -/
theorem spelling_succ (source : TokenSource) (calls : Nat) :
    source.spelling (calls + 1) =
      source.next.1.text.toList ++ source.next.2.spelling calls := by
  rw [spelling, List.range_succ_eq_map, List.flatMap_cons, List.flatMap_map]
  rfl

/-- A source hands out a text that starts at a position in so many pieces, and then the end token
for ever. -/
structure Spells (source : TokenSource) (position : Position) (text : List Char) (count : Nat) :
    Prop where
  /-- There are no more pieces than characters. -/
  bound : count ≤ text.length
  /-- No piece ends the input or is empty. -/
  pieces : ∀ call < count, (source.answer call).isEof = false ∧ (source.answer call).text ≠ ""
  /-- The pieces make up the text. -/
  whole : source.spelling count = text
  /-- Behind them stands the end token. -/
  ended : ∀ call, count ≤ call → source.answer call = Token.eof (position.after text)
  /-- Every token stands where the text before it ends. -/
  placed : ∀ call ≤ count,
    (source.answer call).position = position.after (source.spelling call)

namespace Spells

variable {grammar : LexicalGrammar} {stream : CharStream}

/-- A lexer whose text is used up only hands out the end token. -/
theorem finished (used : stream.rest = []) :
    (lexer grammar stream).Spells stream.position [] 0 where
  bound := Nat.zero_le _
  pieces _ inside := absurd inside (Nat.not_lt_zero _)
  whole := rfl
  ended call _ := by
    induction call with
    | zero => exact congrArg Prod.fst (grammar.next_of_rest_nil used)
    | succ call ih =>
      have stays : (lexer grammar stream).next.2 = lexer grammar stream := by
        rw [TokenSource.next, grammar.next_of_rest_nil used]
      rw [answer_succ, stays]
      exact ih (Nat.zero_le _)
  placed call first := by
    obtain rfl := Nat.le_zero.1 first
    exact congrArg (Token.position ∘ Prod.fst) (grammar.next_of_rest_nil used)

/-- A piece before those of a source. -/
theorem piece {source : TokenSource} {position : Position} {text : List Char} {count : Nat}
    (spells : source.next.2.Spells (position.after source.next.1.text.toList) text count)
    (going : source.next.1.isEof = false) (nonempty : source.next.1.text ≠ "")
    (start : source.next.1.position = position) :
    source.Spells position (source.next.1.text.toList ++ text) (count + 1) where
  bound := by
    have some : 0 < source.next.1.text.toList.length := by
      rw [List.length_pos_iff]
      simpa using nonempty
    have bound := spells.bound
    rw [List.length_append]
    omega
  pieces call inside := by
    cases call with
    | zero => exact ⟨going, nonempty⟩
    | succ call => exact spells.pieces call (Nat.lt_of_succ_lt_succ inside)
  whole := by rw [spelling_succ, spells.whole]
  ended call behind := by
    cases call with
    | zero => exact absurd behind (Nat.not_succ_le_zero count)
    | succ call =>
      rw [answer_succ, Position.after_append]
      exact spells.ended call (Nat.le_of_succ_le_succ behind)
  placed call inside := by
    cases call with
    | zero => exact start
    | succ call =>
      rw [answer_succ, spelling_succ, Position.after_append]
      exact spells.placed call (Nat.le_of_succ_le_succ inside)

end Spells

/-- A lexer whose grammar scans no end token hands out its whole text. -/
theorem exists_spells {grammar : LexicalGrammar}
    (endless : ∀ c rest, (grammar.scan c rest).1 ≠ .eof) (stream : CharStream) :
    ∃ count, (lexer grammar stream).Spells stream.position stream.rest count := by
  by_cases used : stream.rest = []
  · exact ⟨0, used ▸ Spells.finished used⟩
  · have covers := grammar.covers_next used
    have shorter := grammar.length_rest_next_lt used
    obtain ⟨c, rest, going⟩ := List.exists_cons_of_ne_nil used
    have kind : (grammar.next stream).1.kind = (grammar.scan c rest).1 := by
      rw [LexicalGrammar.next_of_rest_cons going, LexicalGrammar.kind_token]
    have running : (grammar.next stream).1.isEof = false := by
      simpa [Token.isEof, kind] using endless c rest
    obtain ⟨count, spells⟩ := exists_spells endless (grammar.next stream).2
    rw [covers.next] at spells
    have further : (lexer grammar stream).next.2.Spells
        (stream.position.after (lexer grammar stream).next.1.text.toList)
        (grammar.next stream).2.rest count := spells
    rw [covers.text]
    exact ⟨count + 1, further.piece running covers.nonempty covers.position⟩
termination_by stream.rest.length

end TokenSource

end Conformance
